import Scrollback.Proofs.Notification.Delivery
import Scrollback.Proofs.Notification.Keys

/-! What a request does: the calls that it makes, and what is remembered after it. A key is
remembered with one time. A request forgets what is too old for it, and remembers itself only if it
goes through; so one that is held back never puts off its own release. -/
namespace Scrollback.Notification

namespace Recent
variable {a : Recent} {k : Key} {t : Instant}

-- When a key was remembered.
def time? (a : Recent) (k : Key) : Option Instant := a.entries.lookup k

def Distinct (a : Recent) : Prop := (a.entries.map Prod.fst).Nodup

theorem timeMem (distinct : a.Distinct) : a.time? k = some t ↔ (k, t) ∈ a.entries := by
  obtain ⟨entries⟩ := a
  simp only [time?]
  induction entries with
  | nil => simp
  | cons e entries ih =>
    obtain ⟨first, rest⟩ := List.nodup_cons.mp distinct
    obtain ⟨l, s⟩ := e
    rw [List.lookup_cons, List.mem_cons]
    by_cases same : k = l
    · subst same
      have absent : (k, t) ∉ entries := fun member => first (List.mem_map.mpr ⟨_, member, rfl⟩)
      simp [absent, eq_comm]
    · have other : (k == l) = false := beq_eq_false_iff_ne.mpr same
      simp only [other, ih rest, Prod.mk.injEq, same, false_and, false_or]

theorem forgetDistinct (distinct : a.Distinct) (cutoff : Option Instant) :
    (a.forget cutoff).Distinct :=
  distinct.sublist (List.filter_sublist.map Prod.fst)

theorem insertDistinct (distinct : a.Distinct) (k : Key) (t : Instant) :
    (a.insert k t).Distinct := by
  refine List.nodup_cons.mpr ⟨?_, distinct.sublist (List.filter_sublist.map Prod.fst)⟩
  intro member
  obtain ⟨e, kept, same⟩ := List.mem_map.mp member
  have other : (e.1 != k) = true := (List.mem_filter.mp kept).2
  rw [same] at other
  simp at other

end Recent

/- What comes of a request, given what was remembered before it and what is remembered later. -/
structure Effects (isFile : String → Bool) (before : Recent) (r : Request) (o : Outcome)
    (later : Recent) : Prop where
  calls : o.signals =
    (if o.played then (r.highlight.sound.map fun s => .play (s.source r.sound isFile)).toList
      else []) ++
    (if o.alerted then [.alert r.title r.body] else [])
  sounds : o.played = true → r.highlight.hasSound = true
  idle : r.highlight.isActionable = false ∨
      r.settings.admitsChannel r.message.channel = false →
    o.signals = [] ∧ later = before
  heldBack : o.isSuppressed = true → o.signals = [] ∧
    ∀ k t, later.time? k = some t ↔ before.time? k = some t ∧ r.reaches t
  through : r.isAdmitted = true → o.isSuppressed = false →
    o.played = (r.isAudible && r.highlight.hasSound) ∧ o.alerted = r.highlight.alert ∧
    ∀ k t, later.time? k = some t ↔
      k = r.key ∧ t = r.now ∨ k ≠ r.key ∧ before.time? k = some t ∧ r.reaches t

section Step
variable {isFile : String → Bool} {recent : Recent} {r : Request} {k : Key} {t : Instant}

theorem notifyDistinct (distinct : recent.Distinct) : (notify recent r isFile).1.Distinct := by
  unfold notify
  split
  · exact distinct
  · dsimp only
    split
    · exact Recent.forgetDistinct distinct _
    · exact Recent.insertDistinct (Recent.forgetDistinct distinct _) _ _

theorem notifyTime (distinct : recent.Distinct) (admitted : r.isAdmitted = true) :
    (notify recent r isFile).1.time? k = some t ↔
      (recent.forget r.cutoff).time? k = some t ∨
        (notify recent r isFile).2.isSuppressed = false ∧ k = r.key ∧ t = r.now := by
  rw [Recent.timeMem (notifyDistinct distinct), notifyMem admitted,
    Recent.timeMem (Recent.forgetDistinct distinct _)]

theorem throughFresh (distinct : recent.Distinct) (admitted : r.isAdmitted = true)
    (through : (notify recent r isFile).2.isSuppressed = false) :
    (recent.forget r.cutoff).time? r.key ≠ some t := by
  intro known
  rw [Recent.timeMem (Recent.forgetDistinct distinct _)] at known
  rw [notifySuppresses admitted, containsIff.mpr ⟨t, known⟩] at through
  contradiction

theorem suppressedSilent {o : Outcome} (repeated : o.isSuppressed = true) : o.delivery = {} := by
  cases o with
  | suppressed key => rfl
  | _ => contradiction

theorem deliverCalls :
    (r.deliver isFile).signals =
      (if r.isAudible && r.highlight.hasSound then
        (r.highlight.sound.map fun s => .play (s.source r.sound isFile)).toList else []) ++
      (if r.highlight.alert then [.alert r.title r.body] else []) := by
  have sounded : (r.sounded isFile).signals =
      if r.isAudible && r.highlight.hasSound then
        (r.highlight.sound.map fun s => .play (s.source r.sound isFile)).toList else [] := by
    rw [Request.sounded, Highlight.hasSound]
    cases r.highlight.sound <;> cases r.isAudible <;> rfl
  rw [← sounded, Request.deliver]
  cases r.highlight.alert with
  | false => exact (List.append_nil _).symm
  | true => rfl

theorem idleEffects (idle : r.isAdmitted = false) : Effects isFile recent r .idle recent where
  calls := rfl
  sounds played := by contradiction
  idle _ := ⟨rfl, rfl⟩
  heldBack repeated := by contradiction
  through admitted := by
    rw [idle] at admitted
    contradiction

section Admitted
variable (distinct : recent.Distinct) (admitted : r.isAdmitted = true)
  (covers : ∀ k t, (recent.forget r.cutoff).time? k = some t ↔
    recent.time? k = some t ∧ r.reaches t)
include admitted

theorem admittedNotIdle : ¬ (r.highlight.isActionable = false ∨
    r.settings.admitsChannel r.message.channel = false) := by
  obtain ⟨actionable, admits⟩ := Bool.and_eq_true_iff.mp admitted
  simp [actionable, admits]

include distinct covers

theorem heldBackEffects (held : (notify recent r isFile).2.isSuppressed = true) :
    Effects isFile recent r (notify recent r isFile).2 (notify recent r isFile).1 := by
  have silent : (notify recent r isFile).2.signals = [] :=
    congrArg Delivery.signals (suppressedSilent held)
  have unplayed : (notify recent r isFile).2.played = false :=
    congrArg Delivery.played (suppressedSilent held)
  have unalerted : (notify recent r isFile).2.alerted = false :=
    congrArg Delivery.alerted (suppressedSilent held)
  constructor
  case calls => simp [silent, unplayed, unalerted]
  case sounds =>
    intro played
    rw [unplayed] at played
    contradiction
  case idle => exact fun idle => absurd idle (admittedNotIdle admitted)
  case heldBack =>
    intro _
    refine ⟨silent, fun k t => ?_⟩
    rw [notifyTime distinct admitted, held, covers]
    simp
  case through =>
    intro _ through
    rw [held] at through
    contradiction

theorem throughEffects (through : (notify recent r isFile).2.isSuppressed = false) :
    Effects isFile recent r (notify recent r isFile).2 (notify recent r isFile).1 := by
  have delivered := notifyDelivers admitted through
  have played : (notify recent r isFile).2.played = (r.isAudible && r.highlight.hasSound) := by
    rw [delivered]
    exact deliverPlayed
  have alerted : (notify recent r isFile).2.alerted = r.highlight.alert := by
    rw [delivered]
    exact deliverAlerted
  constructor
  case calls =>
    rw [played, alerted, delivered]
    exact deliverCalls
  case sounds =>
    intro sounds
    rw [played] at sounds
    exact (Bool.and_eq_true_iff.mp sounds).2
  case idle => exact fun idle => absurd idle (admittedNotIdle admitted)
  case heldBack =>
    intro held
    rw [through] at held
    contradiction
  case through =>
    intro _ _
    refine ⟨played, alerted, fun k t => ?_⟩
    have fresh : ¬ (recent.time? r.key = some t ∧ r.reaches t) := by
      intro known
      exact throughFresh distinct admitted through ((covers r.key t).mpr known)
    rw [notifyTime distinct admitted, through, covers]
    by_cases key : k = r.key
    · subst key
      simp [fresh]
    · simp [key]

end Admitted

end Step

theorem afterDistinct (isFile : String → Bool) (rs : List Request) : (after isFile rs).Distinct := by
  induction rs using List.reverseRecOn with
  | nil => exact List.nodup_nil
  | append_singleton rs r ih =>
    rw [afterSnoc]
    exact notifyDistinct ih

section Run
variable {isFile : String → Bool} {rs : List Request} {r : Request} {k : Key} {t : Instant}

theorem entryValid (valid : ∀ r ∈ rs, r.now.isValid = true)
    (member : (k, t) ∈ (after isFile rs).entries) : t.isValid = true := by
  obtain ⟨q, ⟨j, o, made, -⟩, -, rfl⟩ := (afterMem valid).mp member
  exact valid q (List.mem_of_getElem? made)

/- What is left of the memory when a request has forgotten what is too old for it. -/
theorem forgetTime (valid : ∀ r ∈ rs, r.now.isValid = true) (now : r.now.isValid = true) :
    ((after isFile rs).forget r.cutoff).time? k = some t ↔
      (after isFile rs).time? k = some t ∧ r.reaches t := by
  have distinct := afterDistinct isFile rs
  rw [Recent.timeMem (Recent.forgetDistinct distinct _), Recent.timeMem distinct, forgetMem]
  refine and_congr_right fun member => ?_
  exact beforeCovers _ now (entryValid valid member)

/-- Each request of a run makes the calls that it reports, a sound before an alert and each at most
once. One that is not admitted changes nothing, one that is held back only forgets, and one that goes
through is remembered beside what it still counts as recent. -/
theorem requestEffects {i : Nat} {o : Outcome} (valid : ∀ r ∈ rs, r.now.isValid = true)
    (asked : rs[i]? = some r) (outcome : (run isFile {} rs)[i]? = some o) :
    Effects isFile (after isFile (rs.take i)) r o (after isFile (rs.take (i + 1))) := by
  have now := valid r (List.mem_of_getElem? asked)
  have earlier : ∀ q ∈ rs.take i, q.now.isValid = true :=
    fun q member => valid q (List.mem_of_mem_take member)
  rw [runNth asked, Option.some.injEq] at outcome
  have later : rs.take (i + 1) = rs.take i ++ [r] := by
    rw [List.take_add_one, asked, Option.toList_some]
  rw [← outcome, later, afterSnoc]
  cases admitted : r.isAdmitted with
  | false =>
    rw [notifyIdle admitted]
    exact idleEffects admitted
  | true =>
    have distinct := afterDistinct isFile (rs.take i)
    have covers (k : Key) (t : Instant) := @forgetTime isFile _ r k t earlier now
    cases held : (notify (after isFile (rs.take i)) r isFile).2.isSuppressed with
    | true => exact heldBackEffects distinct admitted covers held
    | false => exact throughEffects distinct admitted covers held

end Run

-- An alert with a sound about an author, at some milliseconds after the calendar begins.
def bellOf (author : String) (millis : Int) : Request :=
  { alertOf author millis with highlight := { alert := true, sound := some .fallback } }

def bells : List Request := [bellOf "a" 0, bellOf "b" 400, bellOf "c" 1200]

/- The bell about `c` rings and is seen. By then that about `a` is forgotten, and that about `b` is
remembered from when it rang. -/
theorem lastBellRings :
    (∀ r ∈ bells, r.now.isValid = true) ∧ bells[2]? = some (bellOf "c" 1200) ∧
      ∃ o, (run (fun _ => false) {} bells)[2]? = some o ∧
        o.signals = [.play .ping, .alert "c highlighted you" "#a"] ∧
        (after (fun _ => false) bells).time? (bellOf "b" 400).key = some (bellOf "b" 400).now ∧
        ∀ t, (after (fun _ => false) bells).time? (bellOf "a" 0).key ≠ some t := by
  have valid : ∀ r ∈ bells, r.now.isValid = true := by decide
  have effects := @requestEffects (fun _ => false) bells _ 2 _ valid rfl rfl
  obtain ⟨-, -, times⟩ := effects.through (by decide) (by decide)
  refine ⟨valid, rfl, _, rfl, effects.calls.trans (by decide), ?_, fun t known => ?_⟩
  · exact (times _ _).mpr (.inr ⟨by decide, by decide, by unfold Request.reaches; decide⟩)
  · rcases (times _ t).mp known with ⟨same, -⟩ | ⟨-, there, reached⟩
    · exact absurd same (by decide)
    · have first : t = (bellOf "a" 0).now := (Option.some.inj there).symm
      rw [first, Request.reaches] at reached
      exact absurd reached (by decide)

end Scrollback.Notification
