import Scrollback.Proofs.Highlight.Answers

/-! The sources of highlights that are asked about a message, as one list. Sources that do not
apply are left out, and so are the rules that a stage or the whole cascade stops before. What is
left works on an empty draft, one source after another, and that is the highlight of the message. -/
namespace Scrollback.Highlight

structure Switches where
  alert : Bool := false
  sound : Bool := false
  deriving DecidableEq, Repr

namespace Switches

def add (w : Switches) (r : Reaction) : Switches := ⟨w.alert || r.alert, w.sound || r.sound⟩

def addIf (w : Switches) (applies : Bool) (r : Reaction) : Switches :=
  if applies then w.add r else w

def addAll (w : Switches) (rs : List Rule) : Switches :=
  rs.foldl (fun w r => w.add r.toReaction) w

def both (w : Switches) : Bool := w.alert && w.sound

end Switches

-- The rules up to the first that leaves an alert and a sound, and that one too.
def processed (w : Switches) : List Rule → List Rule
  | [] => []
  | r :: rest =>
    r :: if (w.add r.toReaction).both then [] else processed (w.add r.toReaction) rest

-- Whether some rule leaves an alert and a sound.
def settles (w : Switches) : List Rule → Bool
  | [] => false
  | r :: rest => (w.add r.toReaction).both || settles (w.add r.toReaction) rest

inductive Source where
  | subscription
  | whisper
  | user (r : Rule)
  | phrase (r : Rule)
  -- The first rule that applies decides the colour.
  | badge (first : Bool) (r : BadgeRule)

def Source.reaction (c : Context) : Source → Reaction
  | .subscription => c.settings.subscription.toReaction
  | .whisper => c.settings.whisper.toReaction
  | .user r => r.toReaction
  | .phrase r => r.toReaction
  | .badge _ r => r.toReaction

def paint (c : Context) (r : BadgeRule) (d : Draft) : Draft :=
  { d.setColor (c.colorOf r.color) with highlighted := true }

-- What a source that applies makes of a draft.
def take (c : Context) (d : Draft) (s : Source) : Draft :=
  let r := s.reaction c
  match s with
  | .subscription => { d.react r with
      highlighted := true, color := some c.settings.colors.subscription, colorClaimed := true }
  | .whisper => (d.react r).setColor c.settings.colors.whisper
  | .user rule => (applyRule c rule d).react r
  | .phrase rule => (applyRule c rule d).complement r
  | .badge true rule => (paint c rule d).complement r
  | .badge false _ => d.complement r

def takeAll (c : Context) (d : Draft) (ss : List Source) : Draft := ss.foldl (take c) d

def held (c : Context) (ss : List Source) : Draft := takeAll c {} ss

def openers (c : Context) (m : Message) : List Source :=
  (if subscribed c m then [.subscription] else []) ++ (if whispered c m then [.whisper] else [])

def opened (c : Context) (m : Message) : Switches :=
  (({} : Switches).addIf (subscribed c m) c.settings.subscription.toReaction).addIf
    (whispered c m) c.settings.whisper.toReaction

def takenUsers (c : Context) (m : Message) : List Rule := processed (opened c m) (userRules c m)

-- Whether no rule for phrases or badges is asked.
def stopped (c : Context) (m : Message) : Bool :=
  settles (opened c m) (takenUsers c m) || c.isOwn m.author

def takenPhrases (c : Context) (m : Message) : List Rule :=
  if stopped c m then [] else processed ((opened c m).addAll (takenUsers c m)) (phraseRules c m)

def takenBadges (c : Context) (m : Message) : List BadgeRule :=
  if stopped c m then [] else badgeRules c m

def badgeSources : List BadgeRule → List Source
  | [] => []
  | r :: rest => .badge true r :: rest.map (.badge false)

-- The sources up to the rules for users, and those that these can stop.
def early (c : Context) (m : Message) : List Source := openers c m ++ (takenUsers c m).map .user

def late (c : Context) (m : Message) : List Source :=
  (takenPhrases c m).map .phrase ++ badgeSources (takenBadges c m)

def cascade (c : Context) (m : Message) : List Source := early c m ++ late c m

theorem openersOnly {c : Context} {m : Message} {s : Source} (member : s ∈ openers c m) :
    s = .subscription ∨ s = .whisper := by
  rcases List.mem_append.mp member with subscription | whisper
  · split at subscription
    · exact .inl (List.mem_singleton.mp subscription)
    · contradiction
  · split at whisper
    · exact .inr (List.mem_singleton.mp whisper)
    · contradiction

theorem badgesAmong {rs : List BadgeRule} {s : Source} (member : s ∈ badgeSources rs) :
    ∃ first, ∃ r ∈ rs, s = .badge first r := by
  cases rs with
  | nil => contradiction
  | cons r rest =>
    rcases List.mem_cons.mp member with rfl | later
    · exact ⟨true, r, List.mem_cons_self, rfl⟩
    · obtain ⟨q, among, rfl⟩ := List.mem_map.mp later
      exact ⟨false, q, List.mem_cons_of_mem r among, rfl⟩

theorem lateOnly {c : Context} {m : Message} {s : Source} (member : s ∈ late c m) :
    (∃ r, s = .phrase r) ∨ ∃ first r, s = .badge first r := by
  rcases List.mem_append.mp member with phrase | badge
  · obtain ⟨r, -, rfl⟩ := List.mem_map.mp phrase
    exact .inl ⟨r, rfl⟩
  · obtain ⟨first, r, -, rfl⟩ := badgesAmong badge
    exact .inr ⟨first, r, rfl⟩

-- What the settings have to say about a message for a source to be asked.
def Source.Applies (c : Context) (m : Message) : Source → Prop
  | .subscription => subscribed c m = true
  | .whisper => whispered c m = true
  | .user r => r ∈ userRules c m
  | .phrase r => r ∈ phraseRules c m
  | .badge _ r => r ∈ badgeRules c m

theorem processedAmong {w : Switches} {rs : List Rule} {r : Rule} (member : r ∈ processed w rs) :
    r ∈ rs := by
  induction rs generalizing w with
  | nil => exact member
  | cons s rs ih =>
    rw [processed] at member
    rcases List.mem_cons.mp member with rfl | later
    · exact List.mem_cons_self
    · split at later
      · contradiction
      · exact List.mem_cons_of_mem _ (ih later)

theorem cascadeApplies {c : Context} {m : Message} {s : Source} (member : s ∈ cascade c m) :
    s.Applies c m := by
  simp only [cascade, early, late, openers, List.mem_append] at member
  rcases member with ((subscription | whisper) | user) | phrase | badge
  · split at subscription
    · rename_i subscribed
      rw [List.mem_singleton.mp subscription]
      exact subscribed
    · contradiction
  · split at whisper
    · rename_i whispered
      rw [List.mem_singleton.mp whisper]
      exact whispered
    · contradiction
  · obtain ⟨r, taken, rfl⟩ := List.mem_map.mp user
    exact processedAmong taken
  · obtain ⟨r, taken, rfl⟩ := List.mem_map.mp phrase
    rw [takenPhrases] at taken
    split at taken
    · contradiction
    · exact processedAmong taken
  · obtain ⟨first, r, taken, rfl⟩ := badgesAmong badge
    rw [takenBadges] at taken
    split at taken
    · contradiction
    · exact taken

namespace Draft

def switches (d : Draft) : Switches := ⟨d.alert, d.sound.isSome⟩

theorem completeBoth (d : Draft) : d.isComplete = d.switches.both := rfl

-- A draft without what is only told to the log.
def bare (d : Draft) : Draft := { d with remarks := [] }

@[simp] theorem bareHighlight (d : Draft) : d.bare.toHighlight = d.toHighlight := rfl

@[simp] theorem bareSwitches (d : Draft) : d.bare.switches = d.switches := rfl

theorem colorWhole (d : Draft) (color : Color) :
    d.setColor color = { d with color := if d.colorClaimed then d.color else some color } := by
  unfold setColor
  split <;> rfl

@[simp] theorem colorSwitches (d : Draft) (color : Color) :
    (d.setColor color).switches = d.switches := by
  rw [colorWhole]
  rfl

@[simp] theorem reactSwitches (d : Draft) (r : Reaction) :
    (d.react r).switches = d.switches.add r := by
  simp [switches, react, Switches.add, Option.isSome_or, soundGiven, Bool.or_comm]

@[simp] theorem complementSwitches (d : Draft) (r : Reaction) :
    (d.complement r).switches = d.switches.add r := by
  simp [switches, complement, Switches.add, Option.isSome_or, soundGiven]

theorem bareColor (d : Draft) (color : Color) : (d.setColor color).bare = d.bare.setColor color := by
  rw [colorWhole, colorWhole]
  rfl

theorem completeComplement {d : Draft} (complete : d.isComplete = true) (r : Reaction) :
    d.complement r = d := by
  rw [isComplete, Bool.and_eq_true] at complete
  obtain ⟨sound, some⟩ := Option.isSome_iff_exists.mp complete.2
  obtain ⟨⟨highlighted, alert, _, color, showInMentions⟩, colorClaimed, remarks⟩ := d
  simp only at complete some
  simp [complement, complete.1, some]

theorem complementTwice (d : Draft) (r : Reaction) :
    (d.complement r).complement r = d.complement r := by
  cases h : d.sound <;> simp [complement, h]

end Draft

theorem applyBare (c : Context) (r : Rule) (d : Draft) :
    (applyRule c r d).bare = applyRule c r d.bare := by
  rw [applyRule, applyRule, ← Draft.bareColor]
  rfl

@[simp] theorem applySwitches (c : Context) (r : Rule) (d : Draft) :
    (applyRule c r d).switches = d.switches :=
  Draft.colorSwitches d _

@[simp] theorem paintSwitches (c : Context) (r : BadgeRule) (d : Draft) :
    (paint c r d).switches = d.switches :=
  Draft.colorSwitches d _

@[simp] theorem takeSwitches (c : Context) (d : Draft) (s : Source) :
    (take c d s).switches = d.switches.add (s.reaction c) := by
  rcases s with _ | _ | r | r | ⟨first, r⟩
  · exact Draft.reactSwitches d _
  · simp [take]
  · simp [take]
  · simp [take]
  · cases first <;> simp [take]

theorem takeBare (c : Context) (d : Draft) (s : Source) : (take c d s).bare = take c d.bare s := by
  rcases s with _ | _ | r | r | ⟨first, r⟩
  · rfl
  · exact Draft.bareColor _ _
  · simp only [take, ← applyBare]
    rfl
  · simp only [take, ← applyBare]
    rfl
  · cases first
    · rfl
    · simp only [take, paint, ← Draft.bareColor]
      rfl

theorem takeAllBare (c : Context) (d : Draft) (ss : List Source) :
    (takeAll c d ss).bare = takeAll c d.bare ss := by
  induction ss generalizing d with
  | nil => rfl
  | cons s ss ih => exact (ih _).trans (congrArg (takeAll c · ss) (takeBare c d s))

theorem takeAllAppend (c : Context) (d : Draft) (ss ts : List Source) :
    takeAll c d (ss ++ ts) = takeAll c (takeAll c d ss) ts :=
  List.foldl_append

-- What each source keeps, all of them keep.
theorem takeAllKeeps {P : Draft → Prop} {c : Context} {ss : List Source}
    (step : ∀ s ∈ ss, ∀ d, P d → P (take c d s)) {d : Draft} (start : P d) :
    P (takeAll c d ss) := by
  induction ss generalizing d with
  | nil => exact start
  | cons s ss ih =>
    exact ih (fun t later => step t (List.mem_cons_of_mem s later))
      (step s List.mem_cons_self d start)

/- What the last source with something to give leaves in a draft, where a source that has nothing
to give leaves what was there. -/
theorem lastWins {α : Type} {c : Context} {ss : List Source} {ok : Draft → Prop}
    (get : Draft → Option α) {give : Source → Option α}
    (step : ∀ s ∈ ss, ∀ d, ok d → ok (take c d s) ∧ get (take c d s) = (give s).or (get d))
    {d : Draft} (start : ok d) : get (takeAll c d ss) = (ss.filterMap give).getLast?.or (get d) := by
  induction ss generalizing d with
  | nil => rfl
  | cons s ss ih =>
    obtain ⟨next, given⟩ := step s List.mem_cons_self d start
    have rest := ih (fun t later => step t (List.mem_cons_of_mem s later)) next
    rw [takeAll, List.foldl_cons, ← takeAll, rest, given, List.filterMap_cons]
    cases give s with
    | none => rfl
    | some a =>
      simp only [List.getLast?_cons]
      cases (ss.filterMap give).getLast? <;> rfl

theorem processedMore {w : Switches} {r : Rule} (more : (w.add r.toReaction).both = false)
    (rs : List Rule) : processed w (r :: rs) = r :: processed (w.add r.toReaction) rs := by
  rw [processed, more]
  rfl

theorem processedLast {w : Switches} {r : Rule} (last : (w.add r.toReaction).both = true)
    (rs : List Rule) : processed w (r :: rs) = [r] := by
  rw [processed, if_pos last]

theorem usersTaken (c : Context) (m : Message) (rs : List Rule) (d : Draft) :
    let taken := processed d.switches (rs.filter (·.accepts m.author))
    ∃ e, users c m rs d = (if settles d.switches taken then .done e else .next e) ∧
      e.bare = takeAll c d.bare (taken.map .user) := by
  induction rs generalizing d with
  | nil => exact ⟨d, rfl, rfl⟩
  | cons r rs ih =>
    rw [users, List.filter_cons]
    cases h : r.pattern.test? m.author with
    | none =>
      simp only [acceptsOf h]
      exact ih (d.note (.gaveUp r.pattern.source))
    | some found =>
      cases found with
      | false =>
        simp only [acceptsOf h]
        exact ih d
      | true =>
        simp only [acceptsOf h, beq_self_eq_true, if_true]
        have here : ((applyRule c r (d.note .userRule)).react r.toReaction).bare =
            take c d.bare (.user r) :=
          takeBare c (d.note .userRule) (.user r)
        have switches : ((applyRule c r (d.note .userRule)).react r.toReaction).switches =
            d.switches.add r.toReaction := by
          rw [Draft.reactSwitches, applySwitches]
          rfl
        have ih := ih ((applyRule c r (d.note .userRule)).react r.toReaction)
        rw [switches, here] at ih
        rw [Draft.completeBoth, switches]
        cases both : (d.switches.add r.toReaction).both with
        | true =>
          rw [processedLast both]
          exact ⟨_, by simp [settles, both], here⟩
        | false =>
          rw [processedMore both]
          simpa [settles, both, takeAll] using ih

theorem phrasesTaken (c : Context) (m : Message) (rs : List Rule) (d : Draft) :
    (phrases c m rs d).bare =
      takeAll c d.bare ((processed d.switches (rs.filter (·.accepts m.text))).map .phrase) := by
  induction rs generalizing d with
  | nil => rfl
  | cons r rs ih =>
    rw [phrases, List.filter_cons]
    cases h : r.pattern.test? m.text with
    | none =>
      simp only [acceptsOf h]
      exact ih (d.note (.gaveUp r.pattern.source))
    | some found =>
      cases found with
      | false =>
        simp only [acceptsOf h]
        exact ih d
      | true =>
        simp only [acceptsOf h, beq_self_eq_true, if_true]
        have here : ((applyRule c r d).complement r.toReaction).bare =
            take c d.bare (.phrase r) :=
          takeBare c d (.phrase r)
        have switches : ((applyRule c r d).complement r.toReaction).switches =
            d.switches.add r.toReaction := by
          rw [Draft.complementSwitches, applySwitches]
        have ih := ih ((applyRule c r d).complement r.toReaction)
        rw [switches, here] at ih
        rw [Draft.completeBoth, switches]
        cases both : (d.switches.add r.toReaction).both with
        | true =>
          rw [processedLast both]
          exact here
        | false =>
          rw [processedMore both]
          exact ih

theorem completeFold {d : Draft} (complete : d.isComplete = true) (rs : List BadgeRule) :
    rs.foldl (fun d r => d.complement r.toReaction) d = d := by
  induction rs with
  | nil => rfl
  | cons r rs ih => rw [List.foldl_cons, Draft.completeComplement complete, ih]

-- A complete draft takes nothing from badges, so a stage that stops there misses nothing.
theorem complementFold (rs : List BadgeRule) (d : Draft) :
    complementAll rs d = rs.foldl (fun d r => d.complement r.toReaction) d := by
  induction rs generalizing d with
  | nil => rfl
  | cons r rs ih =>
    rw [complementAll, List.foldl_cons, ih]
    split
    · rename_i complete
      exact (completeFold complete rs).symm
    · rfl

/- A rule is met once for each badge that it applies to. To take its reaction again adds nothing,
so each rule that applies counts once. -/
theorem meetOnce (rs : List BadgeRule) (bs : List Badge) (d : Draft) :
    (rs.flatMap fun r => (bs.filter r.accepts).map fun _ => r).foldl
        (fun d r => d.complement r.toReaction) d =
      (rs.filter fun r => bs.any r.accepts).foldl (fun d r => d.complement r.toReaction) d := by
  have meet (r : BadgeRule) (d : Draft) :
      ((bs.filter r.accepts).map fun _ => r).foldl (fun d r => d.complement r.toReaction) d =
        if bs.any r.accepts then d.complement r.toReaction else d := by
    induction bs generalizing d with
    | nil => rfl
    | cons b bs ih =>
      rw [List.filter_cons, List.any_cons]
      cases applies : r.accepts b with
      | false => exact ih d
      | true =>
        simp only [if_true, List.map_cons, List.foldl_cons, ih, Draft.complementTwice, ite_self,
          Bool.true_or]
  induction rs generalizing d with
  | nil => rfl
  | cons r rs ih =>
    rw [List.flatMap_cons, List.foldl_append, ih, meet, List.filter_cons]
    split <;> rfl

theorem meetFirst (rs : List BadgeRule) (bs : List Badge) :
    (rs.flatMap fun r => (bs.filter r.accepts).map fun _ => r).head? =
      (rs.filter fun r => bs.any r.accepts).head? := by
  induction rs with
  | nil => rfl
  | cons r rs ih =>
    have met : (bs.find? r.accepts).isSome = bs.any r.accepts := by
      rw [Bool.eq_iff_iff]
      simp
    rw [List.flatMap_cons, List.filter_cons, List.head?_append, ih, List.head?_map,
      List.head?_filter, ← met]
    cases bs.find? r.accepts <;> rfl

theorem badgesTaken (c : Context) (m : Message) (d : Draft) :
    badges c m d = takeAll c d (badgeSources (badgeRules c m)) := by
  have first : (badgeMatches c m).head? = (badgeRules c m).head? := meetFirst _ _
  have all (d : Draft) : complementAll (badgeMatches c m) d =
      (badgeRules c m).foldl (fun d r => d.complement r.toReaction) d :=
    (complementFold _ _).trans (meetOnce _ _ _)
  have rest (d : Draft) (rs : List BadgeRule) : takeAll c d (rs.map (.badge false)) =
      rs.foldl (fun d r => d.complement r.toReaction) d := by
    rw [takeAll, List.foldl_map]
    rfl
  rw [badges]
  split
  · rename_i none
    rw [none] at first
    rw [List.head?_eq_none_iff.mp first.symm]
    rfl
  · rename_i r more met
    obtain ⟨later, rules⟩ : ∃ later, badgeRules c m = r :: later := by
      rw [met] at first
      exact List.head?_eq_some_iff.mp first.symm
    rw [← met, all, rules, badgeSources, List.foldl_cons]
    exact (rest _ later).symm

theorem openersTaken (c : Context) (m : Message) :
    (held c (openers c m)).switches = opened c m := by
  rw [held, openers, opened]
  cases subscribed c m <;> cases whispered c m <;> simp [takeAll, Switches.addIf] <;> rfl

theorem usersSwitches (c : Context) (rs : List Rule) (d : Draft) :
    (takeAll c d (rs.map .user)).switches = d.switches.addAll rs := by
  induction rs generalizing d with
  | nil => rfl
  | cons r rs ih =>
    rw [List.map_cons, takeAll, List.foldl_cons, ← takeAll, ih, takeSwitches]
    rfl

theorem subscriptionTaken (c : Context) (m : Message) (d : Draft) :
    subscription c m d =
      .next (takeAll c d (if subscribed c m then [.subscription] else [])) := by
  rw [subscription, subscribed]
  split <;> rfl

theorem whisperTaken (c : Context) (m : Message) (d : Draft) :
    whisper c m d = .next (takeAll c d (if whispered c m then [.whisper] else [])) := by
  rw [whisper, whispered]
  split <;> rfl

theorem earlySwitches (c : Context) (m : Message) :
    (held c (early c m)).switches = (opened c m).addAll (takenUsers c m) := by
  rw [early, held, takeAllAppend, usersSwitches, ← held, openersTaken]

theorem lastTaken {c : Context} {m : Message} {d : Draft} (here : d.switches = opened c m) :
    (draftFrom c m [.users, .ownMessage, .phrases, .badges] d).bare =
      takeAll c d.bare ((takenUsers c m).map .user ++ late c m) := by
  obtain ⟨e, flow, taken⟩ := usersTaken c m c.settings.users d
  rw [here, ← userRules, ← takenUsers] at flow taken
  have switches : e.switches = (opened c m).addAll (takenUsers c m) := by
    rw [← Draft.bareSwitches, taken, usersSwitches, Draft.bareSwitches, here]
  simp only [late, takeAllAppend, ← taken, takenPhrases, takenBadges, stopped]
  by_cases settled : settles (opened c m) (takenUsers c m) = true
  · rw [if_pos settled] at flow
    simp only [draftFrom, Stage.run, flow, settled]
    rfl
  · rw [if_neg settled] at flow
    simp only [draftFrom, Stage.run, flow, ownMessage, settled, Bool.false_or]
    cases c.isOwn m.author with
    | true => rfl
    | false =>
      simp only [Bool.false_eq_true, if_false]
      rw [badgesTaken, takeAllBare, phrasesTaken, switches]
      rfl

/-- The highlight of a message is what the sources of its cascade make of an empty draft. -/
theorem resolveHeld {c : Context} {m : Message}
    (unblocked : c.settings.isBlocked m.author = false) :
    resolve c m = (held c (cascade c m)).toHighlight := by
  have first : draft c m =
      draftFrom c m [.users, .ownMessage, .phrases, .badges] (held c (openers c m)) := by
    simp only [draft, Stage.all, draftFrom, Stage.run, subscriptionTaken, Highlight.blocked,
      unblocked, Bool.false_eq_true, if_false, whisperTaken, held, openers, takeAllAppend]
  have same : (held c (openers c m)).bare = held c (openers c m) := takeAllBare c {} _
  rw [resolve, first, ← Draft.bareHighlight, lastTaken (openersTaken c m), same, held,
    ← takeAllAppend, held, cascade, early, List.append_assoc]

def letterRule (letter : Char) (r : Reaction) : Rule where
  toReaction := r
  pattern := ⟨letter.toString, ⟨letter.toString, .plain (.set (.single letter)), []⟩⟩

def soundFile (path : String) : Url := { scheme := "file", path }

def greeting (flags : List Flag) : Message where
  timestamp := ⟨0, 0⟩
  channel := ""
  author := "ann"
  text := "hi"
  flags := .ofList flags
  badges := [⟨"moderator", "1"⟩]

end Scrollback.Highlight
