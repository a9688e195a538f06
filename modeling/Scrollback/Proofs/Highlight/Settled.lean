import Scrollback.Proofs.Highlight.Sounds

/-! What becomes of the sound once there are an alert and a sound. Rules for phrases and badges
leave it as it is, and after a rule for users nothing more is asked. But a subscription does not
have the last word, nor has a private message: the sound of the latter, and that of the first rule
for users, still come before one that is there. -/
namespace Scrollback.Highlight

def Source.override? (c : Context) (s : Source) : Option Sound :=
  if s.overrides then (s.reaction c).sound? else none

theorem soundStays {c : Context} {d : Draft} (some : d.sound.isSome = true) (s : Source) :
    (take c d s).sound.isSome = true ∧ (take c d s).sound = (s.override? c).or d.sound := by
  have same : (take c d s).sound = (s.override? c).or d.sound := by
    rw [takeSound, Source.override?]
    split
    · rfl
    · rw [Option.or_of_isSome some, Option.none_or]
  exact ⟨by rw [same, Option.isSome_or, some, Bool.or_true], same⟩

theorem overrideLast {c : Context} {d : Draft} (some : d.sound.isSome = true) (ss : List Source) :
    (takeAll c d ss).sound = (ss.filterMap (·.override? c)).getLast?.or d.sound := by
  have step (s : Source) (_ : s ∈ ss) (d : Draft) (some : d.sound.isSome = true) :
      (take c d s).sound.isSome = true ∧ (take c d s).sound = (s.override? c).or d.sound :=
    soundStays some s
  exact lastWins (fun d => d.sound) step some

namespace Switches

theorem addBoth {w : Switches} (both : w.both = true) (r : Reaction) : (w.add r).both = true := by
  rw [Switches.both, Bool.and_eq_true] at both
  simp [add, Switches.both, both.1, both.2]

end Switches

theorem completeStaysSo {c : Context} {d : Draft} (complete : d.switches.both = true)
    (ss : List Source) : (takeAll c d ss).switches.both = true := by
  have step : ∀ s ∈ ss, ∀ d : Draft, d.switches.both = true →
      (take c d s).switches.both = true := by
    intro s _ d complete
    rw [takeSwitches]
    exact Switches.addBoth complete _
  exact takeAllKeeps step complete

-- Where there are an alert and a sound before, only one rule is asked.
theorem processedFirst {w : Switches} {r : Rule} {rs : List Rule} (both : w.both = true)
    (member : r ∈ processed w rs) : rs.head? = some r := by
  cases rs with
  | nil => contradiction
  | cons s rs =>
    rw [processedLast (Switches.addBoth both _)] at member
    rw [List.mem_singleton.mp member, List.head?_cons]

-- No rule is asked after one that leaves an alert and a sound.
theorem processedStops {w : Switches} {rs us vs : List Rule} (parts : processed w rs = us ++ vs)
    (asked : us ≠ []) (both : (w.addAll us).both = true) : vs = [] := by
  induction us generalizing w rs with
  | nil => contradiction
  | cons u us ih =>
    cases rs with
    | nil => contradiction
    | cons r rs =>
      cases last : (w.add r.toReaction).both with
      | true =>
        rw [processedLast last, List.cons_append] at parts
        exact (List.append_eq_nil_iff.mp (List.cons.inj parts).2.symm).2
      | false =>
        rw [processedMore last, List.cons_append] at parts
        obtain ⟨same, rest⟩ := List.cons.inj parts
        subst same
        refine ih rest (fun empty => ?_) both
        rw [empty] at both
        exact absurd both (Bool.eq_false_iff.mp last)

-- What comes before the rules for users.
def Source.opens : Source → Bool
  | .subscription | .whisper => true
  | _ => false

theorem openersOpen (c : Context) (m : Message) : ∀ s ∈ openers c m, s.opens = true := by
  intro s member
  rcases openersOnly member with rfl | rfl <;> rfl

theorem openersAfter {c : Context} {m : Message} {before after : List Source} {s : Source}
    (parts : openers c m = before ++ after) (some : before ≠ []) (member : s ∈ after) :
    s = .whisper ∧ before = [.subscription] := by
  rw [openers] at parts
  cases before with
  | nil => contradiction
  | cons t ts =>
    cases subscription : subscribed c m <;> cases whisper : whispered c m <;>
      simp [subscription, whisper] at parts
    · simp [parts.2.2] at member
    · simp [parts.2.2] at member
    · obtain ⟨rfl, both⟩ := parts
      rcases List.append_eq_singleton_iff.mp both.symm with ⟨rfl, rfl⟩ | ⟨rfl, rfl⟩
      · exact ⟨List.mem_singleton.mp member, rfl⟩
      · contradiction

theorem usersAfter {c : Context} {m : Message} {before after : List Source} {s : Source}
    (parts : (takenUsers c m).map .user = before ++ after)
    (complete : ((held c (openers c m ++ before)).switches).both = true) (member : s ∈ after) :
    before = [] ∧ ∃ r, s = .user r ∧ (userRules c m).head? = some r := by
  obtain ⟨us, vs, users, rfl, rfl⟩ := List.map_eq_append_iff.mp parts
  obtain ⟨r, later, rfl⟩ := List.mem_map.mp member
  have both : ((opened c m).addAll us).both = true := by
    rw [← openersTaken, ← usersSwitches, held, ← takeAllAppend]
    exact complete
  cases us with
  | nil =>
    have asked : r ∈ takenUsers c m := by
      rw [users]
      exact later
    exact ⟨rfl, r, rfl, processedFirst both asked⟩
  | cons u us =>
    rw [processedStops users (List.cons_ne_nil u us) both] at later
    contradiction

/- Which sources still play their sound in place of one that is there: a private message after a
subscription, and the first rule for users where none was asked before. -/
theorem overriders {c : Context} {m : Message} {before after : List Source}
    (parts : cascade c m = before ++ after) (complete : (held c before).switches.both = true)
    {s : Source} (member : s ∈ after) (plays : s.overrides = true) :
    (s = .whisper ∧ before = [.subscription]) ∨
      ∃ r, s = .user r ∧ (userRules c m).head? = some r ∧ ∀ t ∈ before, t.opens = true := by
  have notLate (found : s ∈ late c m) : False := by
    rw [lateFills c m s found] at plays
    contradiction
  rcases List.append_eq_append_iff.mp parts with ⟨more, -, rest⟩ | ⟨left, first, rfl⟩
  · exact (notLate (rest ▸ List.mem_append_right more member)).elim
  · have here : s ∈ left := (List.mem_append.mp member).resolve_right notLate
    rcases List.append_eq_append_iff.mp first with ⟨us, rfl, users⟩ | ⟨opened, openers, rfl⟩
    · obtain ⟨rfl, r, user, head⟩ := usersAfter users complete here
      rw [List.append_nil]
      exact .inr ⟨r, user, head, openersOpen c m⟩
    · rcases List.mem_append.mp here with opener | user
      · refine .inl (openersAfter openers (fun empty => ?_) opener)
        rw [empty] at complete
        contradiction
      · have still : (held c (Highlight.openers c m ++ [])).switches.both = true := by
          rw [List.append_nil, openers, held, takeAllAppend]
          exact completeStaysSo complete _
        obtain ⟨-, r, user, head⟩ := usersAfter rfl still user
        refine .inr ⟨r, user, head, fun t earlier => openersOpen c m t ?_⟩
        rw [openers]
        exact List.mem_append_left _ earlier

/-- Once there are an alert and a sound, a source changes the sound only if it is the private message
after the subscription, or the first rule for users that applies and no rule was asked before; and
only if it has a sound. The sound of the highlight is then that of the last such source. -/
theorem completeSound {c : Context} {m : Message} {before after : List Source}
    (unblocked : c.settings.isBlocked m.author = false) (parts : cascade c m = before ++ after)
    (complete : (held c before).isComplete = true) :
    (∀ mid s rest, after = mid ++ s :: rest →
      (held c (before ++ mid ++ [s])).sound =
        (s.override? c).or (held c (before ++ mid)).sound) ∧
    (∀ s ∈ after, (s.override? c).isSome = true →
      (s = .whisper ∧ before = [.subscription]) ∨
        ∃ r, s = .user r ∧ (userRules c m).head? = some r ∧ ∀ t ∈ before, t.opens = true) ∧
    (resolve c m).sound =
      (after.filterMap (·.override? c)).getLast?.or (held c before).sound := by
  have some : (held c before).sound.isSome = true := (Bool.and_eq_true_iff.mp complete).2
  refine ⟨fun mid s rest _ => ?_, fun s member plays => ?_, ?_⟩
  · have still : (held c (before ++ mid)).sound.isSome = true := by
      rw [held, takeAllAppend, ← held, overrideLast some, Option.isSome_or, some, Bool.or_true]
    rw [held, takeAllAppend, ← held]
    exact (soundStays still s).2
  · refine overriders parts complete member ?_
    rw [Source.override?] at plays
    split at plays
    · assumption
    · contradiction
  · have whole : (resolve c m).sound = (takeAll c (held c before) after).sound := by
      rw [resolveHeld unblocked, parts, held, takeAllAppend, ← held]
    rw [whole, overrideLast some]

def manySounds (users : List Rule) : Context := .create {
  subscription := { enabled := true, alert := true, sound := true }
  whisper := { enabled := true, sound := true, soundUrl := some (soundFile "/whisper") }
  users
  phrases := [letterRule 'h' { sound := true, soundUrl := some (soundFile "/phrase") }] } none

def userSound : Rule := letterRule 'a' { sound := true, soundUrl := some (soundFile "/user") }

def privateResub : Message := greeting [.subscription, .whisper]

theorem userSoundReplaces :
    (manySounds [userSound]).settings.isBlocked privateResub.author = false ∧
      cascade (manySounds [userSound]) privateResub =
        [.subscription] ++ [.whisper, .user userSound] ∧
      (held (manySounds [userSound]) [.subscription]).isComplete = true ∧
      (resolve (manySounds [userSound]) privateResub).sound = some (.custom (soundFile "/user")) := by
  have unblocked : (manySounds [userSound]).settings.isBlocked privateResub.author = false := by decide
  have parts : cascade (manySounds [userSound]) privateResub =
      [.subscription] ++ [.whisper, .user userSound] := rfl
  have complete : (held (manySounds [userSound]) [.subscription]).isComplete = true := by decide
  obtain ⟨-, -, sound⟩ := completeSound unblocked parts complete
  exact ⟨unblocked, parts, complete, sound.trans (by decide)⟩

/- The subscription alone has left an alert and a sound, and yet the sound of the private message is
the one that is played. -/
theorem whisperSoundReplaces :
    (manySounds []).settings.isBlocked privateResub.author = false ∧
      cascade (manySounds []) privateResub = [.subscription] ++ [.whisper, .phrase (letterRule 'h'
        { sound := true, soundUrl := some (soundFile "/phrase") })] ∧
      (held (manySounds []) []).isComplete = false ∧
      (held (manySounds []) [.subscription]).isComplete = true ∧
      (held (manySounds []) [.subscription]).sound = some .fallback ∧
      (resolve (manySounds []) privateResub).sound = some (.custom (soundFile "/whisper")) :=
  ⟨by decide, rfl, by decide, by decide, by decide, by decide⟩

end Scrollback.Highlight
