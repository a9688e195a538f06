import Scrollback.Highlight.Basic
import Scrollback.Highlight.Settings

/-!
The highlight of a message. The sources of highlights are asked in stages, one after another, and
some stages can settle the highlight, so that those after them are not asked:

1. subscriptions, which keep their colour; 2. blocked users, who are never highlighted; 3. private
messages; 4. rules for users, which settle the highlight once it has an alert and a sound; 5.
messages of the local user, which are settled here; 6. rules for phrases, and the name of the
local user; 7. rules for badges.
-/

namespace Scrollback.Highlight

structure Context where
  settings : Settings
  nick : Option String
  nickRule : Option Rule

namespace Context

def ruleFor? (s : Settings) (nick : String) : Option Rule :=
  if s.ownNick.enabled then
    match Pattern.ofWords [nick] true with
    | .ok pattern => some {
        toReaction := s.ownNick.toReaction
        pattern
        color := some s.colors.ownNick
        showInMentions := s.ownNick.showInMentions }
    | .error _ => none
  else none

def create (settings : Settings) (nick : Option String) : Context :=
  let nick := nick.filter (!·.isEmpty)
  ⟨settings, nick, nick.bind (ruleFor? settings)⟩

def isOwn (c : Context) (author : String) : Bool := c.nick.any (Text.sameName · author)

def colorOf (c : Context) (color : Option Color) : Color := color.getD c.settings.colors.highlight

def phrases (c : Context) : List Rule := c.settings.phrases ++ c.nickRule.toList

end Context

inductive Stage where
  | subscription | blocked | whisper | users | ownMessage | phrases | badges
  deriving DecidableEq, Repr

def Stage.all : List Stage :=
  [.subscription, .blocked, .whisper, .users, .ownMessage, .phrases, .badges]

inductive Remark where
  | userRule
  | gaveUp (source : String)
  | settled (stage : Stage)
  deriving DecidableEq, Repr

structure Draft extends Highlight where
  colorClaimed : Bool := false
  remarks : List Remark := []
  deriving Repr

namespace Draft

def setColor (d : Draft) (color : Color) : Draft :=
  if d.colorClaimed then d else { d with color := some color }

/- Takes the alert and the sound of a reaction; its sound comes before one that is already there. -/
def react (d : Draft) (r : Reaction) : Draft :=
  { d with alert := d.alert || r.alert, sound := r.sound? <|> d.sound }

/- Takes the alert of a reaction, and its sound unless there is one. -/
def complement (d : Draft) (r : Reaction) : Draft :=
  { d with alert := d.alert || r.alert, sound := d.sound <|> r.sound? }

def isComplete (d : Draft) : Bool := d.alert && d.sound.isSome

def note (d : Draft) (r : Remark) : Draft := { d with remarks := d.remarks ++ [r] }

end Draft

inductive Flow where
  | next (d : Draft)
  | done (d : Draft)

def subscription (c : Context) (m : Message) (d : Draft) : Flow :=
  let s := c.settings.subscription
  if m.has .subscription && s.enabled then
    .next { d.react s.toReaction with
      highlighted := true, color := some c.settings.colors.subscription, colorClaimed := true }
  else .next d

def blocked (c : Context) (m : Message) (d : Draft) : Flow :=
  if c.settings.isBlocked m.author then .done {} else .next d

def whisper (c : Context) (m : Message) (d : Draft) : Flow :=
  let s := c.settings.whisper
  if m.isReceivedWhisper && s.enabled then
    .next ((d.react s.toReaction).setColor c.settings.colors.whisper)
  else .next d

def applyRule (c : Context) (r : Rule) (d : Draft) : Draft :=
  { d.setColor (c.colorOf r.color) with
    highlighted := true, showInMentions := d.showInMentions || r.showInMentions }

def users (c : Context) (m : Message) : List Rule → Draft → Flow
  | [], d => .next d
  | r :: rest, d =>
    match r.pattern.test? m.author with
    | none => users c m rest (d.note (.gaveUp r.pattern.source))
    | some false => users c m rest d
    | some true =>
      let d := (applyRule c r (d.note .userRule)).react r.toReaction
      if d.isComplete then .done d else users c m rest d

def ownMessage (c : Context) (m : Message) (d : Draft) : Flow :=
  if c.isOwn m.author then .done d else .next d

/- No further rule is asked once there is an alert and a sound, but the stages go on. -/
def phrases (c : Context) (m : Message) : List Rule → Draft → Draft
  | [], d => d
  | r :: rest, d =>
    match r.pattern.test? m.text with
    | none => phrases c m rest (d.note (.gaveUp r.pattern.source))
    | some false => phrases c m rest d
    | some true =>
      let d := (applyRule c r d).complement r.toReaction
      if d.isComplete then d else phrases c m rest d

def badgeMatches (c : Context) (m : Message) : List BadgeRule :=
  c.settings.badges.flatMap fun r => (m.badges.filter r.accepts).map fun _ => r

def complementAll : List BadgeRule → Draft → Draft
  | [], d => d
  | r :: rest, d =>
    let d := d.complement r.toReaction
    if d.isComplete then d else complementAll rest d

/- The first rule that applies decides the colour. -/
def badges (c : Context) (m : Message) (d : Draft) : Draft :=
  match badgeMatches c m with
  | [] => d
  | r :: rest =>
    complementAll (r :: rest) { d.setColor (c.colorOf r.color) with highlighted := true }

def Stage.run (c : Context) (m : Message) : Stage → Draft → Flow
  | .subscription, d => Highlight.subscription c m d
  | .blocked, d => Highlight.blocked c m d
  | .whisper, d => Highlight.whisper c m d
  | .users, d => Highlight.users c m c.settings.users d
  | .ownMessage, d => Highlight.ownMessage c m d
  | .phrases, d => .next (Highlight.phrases c m c.phrases d)
  | .badges, d => .next (Highlight.badges c m d)

def draftFrom (c : Context) (m : Message) : List Stage → Draft → Draft
  | [], d => d
  | s :: rest, d =>
    match s.run c m d with
    | .next d => draftFrom c m rest d
    | .done d => d.note (.settled s)

def draft (c : Context) (m : Message) : Draft := draftFrom c m Stage.all {}

def resolve (c : Context) (m : Message) : Highlight := (draft c m).toHighlight

def Context.mark (c : Context) (m : Message) : Message × Highlight :=
  let h := resolve c m
  (h.apply m, h)

end Scrollback.Highlight
