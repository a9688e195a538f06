import Scrollback.Color
import Scrollback.Highlight.Pattern
import Scrollback.Message.Badge
import Scrollback.Sound

/-!
What is highlighted, and how.
-/

namespace Scrollback.Highlight

structure Reaction where
  alert : Bool := false
  sound : Bool := false
  -- Played in place of the fallback, if `sound` is set.
  soundUrl : Option Url := none
  deriving DecidableEq, Repr

def Reaction.sound? (r : Reaction) : Option Sound :=
  if r.sound then some (.ofUrl? r.soundUrl) else none

structure Builtin extends Reaction where
  enabled : Bool := false
  deriving DecidableEq, Repr

structure OwnNick extends Builtin where
  showInMentions : Bool := false
  deriving DecidableEq, Repr

structure Rule extends Reaction where
  pattern : Pattern
  color : Option Color := none
  showInMentions : Bool := false

def Rule.accepts (r : Rule) (text : String) : Bool := r.pattern.accepts text

structure BadgeRule extends Reaction where
  badge : BadgeMatch
  color : Option Color := none
  deriving DecidableEq, Repr

def BadgeRule.accepts (r : BadgeRule) (b : Badge) : Bool := r.badge.accepts b

structure Colors where
  highlight : Color := ⟨0x7f, 0x3f, 0x49⟩
  subscription : Color := ⟨0xc4, 0x66, 0xff⟩
  whisper : Color := ⟨0xee, 0x7c, 0x3b⟩
  ownNick : Color := ⟨0x7f, 0x3f, 0x49⟩
  deriving DecidableEq, Repr

structure Settings where
  subscription : Builtin := {}
  whisper : Builtin := {}
  ownNick : OwnNick := {}
  users : List Rule := []
  phrases : List Rule := []
  badges : List BadgeRule := []
  blocked : List String := []
  colors : Colors := {}

namespace Settings

def isBlocked (s : Settings) (author : String) : Bool := s.blocked.any (Text.sameName · author)

def soundUrls (s : Settings) : List Url :=
  [s.subscription.soundUrl, s.whisper.soundUrl, s.ownNick.soundUrl].filterMap id
    ++ s.users.filterMap (·.soundUrl) ++ s.phrases.filterMap (·.soundUrl)
    ++ s.badges.filterMap (·.soundUrl)

end Settings

end Scrollback.Highlight
