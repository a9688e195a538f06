import Scrollback.Proofs.Notification.Suppression

/-! What a request that is held back repeats: one before it that went through, and so was seen or
heard by all that its highlight and the window allowed. What went through is remembered for its own
sake and not for its signals, so one that had none holds back a later one all the same. -/
namespace Scrollback.Notification

section Step
variable {isFile : String → Bool} {recent : Recent} {r : Request}

theorem notifyDelivers (admitted : r.isAdmitted = true)
    (through : (notify recent r isFile).2.isSuppressed = false) :
    (notify recent r isFile).2 = .delivered (r.deliver isFile) := by
  rw [notifySuppresses admitted] at through
  rw [notifyOutcome admitted, through]
  rfl

theorem deliverPlayed :
    (r.deliver isFile).played = (r.isAudible && r.highlight.sound.isSome) := by
  have sounded : (r.sounded isFile).played = (r.isAudible && r.highlight.sound.isSome) := by
    rw [Request.sounded]
    cases r.highlight.sound <;> cases r.isAudible <;> rfl
  rw [← sounded, Request.deliver]
  cases r.highlight.alert <;> rfl

theorem deliverAlerted : (r.deliver isFile).alerted = r.highlight.alert := by
  have sounded : (r.sounded isFile).alerted = false := by
    rw [Request.sounded]
    cases r.highlight.sound <;> cases r.isAudible <;> rfl
  rw [Request.deliver]
  cases r.highlight.alert with
  | false => exact sounded
  | true => rfl

/- An admitted request has an alert or a sound, so without an alert it is a sound that was not to
be heard. -/
theorem deliverReaches (admitted : r.isAdmitted = true) :
    (r.deliver isFile).played = true ∨ (r.deliver isFile).alerted = true ∨
      r.focused = true ∧ r.settings.alwaysPlaySound = false ∧ r.highlight.alert = false := by
  rw [deliverPlayed, deliverAlerted]
  have actionable : (r.highlight.alert || r.highlight.sound.isSome) = true :=
    (Bool.and_eq_true_iff.mp admitted).1
  cases alert : r.highlight.alert with
  | true => exact .inr (.inl rfl)
  | false =>
    rw [alert, Bool.false_or] at actionable
    rw [actionable, Bool.and_true, Request.isAudible]
    cases focused : r.focused <;> cases always : r.settings.alwaysPlaySound <;> simp

end Step

/- The kinds of signals that are reported are those of the signals that were given. -/
structure Delivery.Reported (d : Delivery) : Prop where
  played : d.played = true ↔ ∃ source, Signal.play source ∈ d.signals
  alerted : d.alerted = true ↔ ∃ title body, Signal.alert title body ∈ d.signals

namespace Delivery.Reported
variable {d : Delivery}

theorem play (reported : d.Reported) (source : Sound.Source) : (d.play source).Reported where
  played := iff_of_true rfl ⟨source, by simp [Delivery.play]⟩
  alerted := by simp [Delivery.play, reported.alerted]

theorem alert (reported : d.Reported) (title body : String) : (d.alert title body).Reported where
  played := by simp [Delivery.alert, reported.played]
  alerted := iff_of_true rfl ⟨title, body, by simp [Delivery.alert]⟩

theorem nothing : ({} : Delivery).Reported := ⟨by simp, by simp⟩

theorem deliver (r : Request) (isFile : String → Bool) : (r.deliver isFile).Reported := by
  have sounded : (r.sounded isFile).Reported := by
    unfold Request.sounded
    split
    · split
      · exact nothing.play _
      · exact nothing
    · exact nothing
  unfold Request.deliver
  dsimp only
  split
  · exact sounded.alert _ _
  · exact sounded

theorem outcome (recent : Recent) (r : Request) (isFile : String → Bool) :
    (notify recent r isFile).2.delivery.Reported := by
  unfold notify
  split
  · exact nothing
  · dsimp only
    split
    · exact nothing
    · exact deliver r isFile

theorem ofRun {isFile : String → Bool} {recent : Recent} {rs : List Request} {o : Outcome}
    (made : o ∈ run isFile recent rs) : o.delivery.Reported := by
  induction rs generalizing recent with
  | nil => exact absurd made List.not_mem_nil
  | cons r rs ih =>
    rcases List.mem_cons.mp made with rfl | later
    · exact outcome recent r isFile
    · exact ih later

end Delivery.Reported

/- A request that was admitted and not held back. -/
def Delivered (isFile : String → Bool) (rs : List Request) (q : Request) : Prop :=
  ∃ (j : Nat) (o : Outcome), rs[j]? = some q ∧ q.isAdmitted = true ∧
    (run isFile {} rs)[j]? = some o ∧ o.isSuppressed = false

section Run
variable {isFile : String → Bool} {rs : List Request} {r q : Request}

theorem deliveredBefore (before : Delivered isFile rs q) : Delivered isFile (rs ++ [r]) q := by
  obtain ⟨j, o, made, admitted, outcome, through⟩ := before
  refine ⟨j, o, snocNth.mpr (.inl made), admitted, ?_, through⟩
  rw [runSnoc]
  exact snocNth.mpr (.inl outcome)

theorem deliveredLast (admitted : r.isAdmitted = true)
    (through : (notify (after isFile rs) r isFile).2.isSuppressed = false) :
    Delivered isFile (rs ++ [r]) r := by
  refine ⟨rs.length, _, snocNth.mpr (.inr ⟨rfl, rfl⟩), admitted, ?_, through⟩
  rw [runSnoc]
  exact snocNth.mpr (.inr ⟨(runLength isFile {} rs).symm, rfl⟩)

-- Whatever the cutoffs were, an entry was made by a request that went through.
theorem entryOrigin {k : Key} {t : Instant} (member : (k, t) ∈ (after isFile rs).entries) :
    ∃ q, Delivered isFile rs q ∧ q.key = k := by
  induction rs using List.reverseRecOn with
  | nil => simp [after] at member
  | append_singleton rs r ih =>
    rw [afterSnoc] at member
    cases admitted : r.isAdmitted with
    | false =>
      rw [notifyIdle admitted] at member
      obtain ⟨q, before, key⟩ := ih member
      exact ⟨q, deliveredBefore before, key⟩
    | true =>
      rcases (notifyMem admitted).mp member with kept | ⟨through, rfl, -⟩
      · obtain ⟨q, before, key⟩ := ih (forgetMem.mp kept).1
        exact ⟨q, deliveredBefore before, key⟩
      · exact ⟨r, deliveredLast admitted through, rfl⟩

theorem deliveredTake {i : Nat} (before : Delivered isFile (rs.take i) q) :
    ∃ (j : Nat) (o : Outcome), j < i ∧ rs[j]? = some q ∧ q.isAdmitted = true ∧
      (run isFile {} rs)[j]? = some o ∧ o.isSuppressed = false := by
  simp only [Delivered, runTake, List.getElem?_take, Option.ite_none_right_eq_some] at before
  obtain ⟨j, o, made, admitted, outcome, through⟩ := before
  exact ⟨j, o, made.1, made.2, admitted, outcome.2, through⟩

theorem suppressedAdmitted {recent : Recent}
    (repeated : (notify recent r isFile).2.isSuppressed = true) : r.isAdmitted = true := by
  cases admitted : r.isAdmitted with
  | true => rfl
  | false =>
    rw [notifyIdle admitted] at repeated
    contradiction

/-- What is held back repeats an earlier request that went through. That one was heard or seen,
unless it asked for a sound alone while the window had focus, and sounds were off there. -/
theorem repeatsDelivered {i : Nat} {o : Outcome} (asked : rs[i]? = some r)
    (outcome : (run isFile {} rs)[i]? = some o) (repeated : o.isSuppressed = true) :
    ∃ (j : Nat) (q : Request) (p : Outcome), j < i ∧ rs[j]? = some q ∧ q.isAdmitted = true ∧
      (run isFile {} rs)[j]? = some p ∧ p.isSuppressed = false ∧
      q.message.author = r.message.author ∧ q.message.channel = r.message.channel ∧
      q.message.text = r.message.text ∧ q.highlight.sound = r.highlight.sound ∧
      (p.played = true ∨ p.alerted = true ∨
        q.focused = true ∧ q.settings.alwaysPlaySound = false ∧ q.highlight.alert = false) := by
  rw [runNth asked, Option.some.injEq] at outcome
  subst outcome
  have known := repeated
  rw [notifySuppresses (suppressedAdmitted repeated)] at known
  obtain ⟨t, member⟩ := containsIff.mp known
  obtain ⟨q, before, key⟩ := entryOrigin (forgetMem.mp member).1
  obtain ⟨j, p, earlier, made, admitted, result, through⟩ := deliveredTake before
  simp only [Request.key, Key.of, Key.mk.injEq] at key
  obtain ⟨author, channel, text, sound⟩ := key
  refine ⟨j, q, p, earlier, made, admitted, result, through, author, channel, text, sound, ?_⟩
  rw [runNth made, Option.some.injEq] at result
  subst result
  rw [notifyDelivers admitted through]
  exact deliverReaches admitted

end Run

-- A sound without an alert, at some milliseconds.
def chimeAt (millis : Int) (focused : Bool) : Request where
  now := ⟨millis * Instant.perMilli⟩
  settings := {}
  sound := {}
  message := { timestamp := ⟨0, 0⟩, channel := "#a", author := "b", text := "hi" }
  highlight := { sound := some .fallback }
  focused

def chimes : List Request := [chimeAt 0 true, chimeAt 700 false, chimeAt 900 true]

theorem chimeRepeatsHeard :
    chimes[2]? = some (chimeAt 900 true) ∧
      ∃ o, (run (fun _ => false) {} chimes)[2]? = some o ∧ o.isSuppressed = true ∧
        ∃ (j : Nat) (q : Request) (p : Outcome), j < 2 ∧ chimes[j]? = some q ∧
          (run (fun _ => false) {} chimes)[j]? = some p ∧ p.isSuppressed = false ∧
          (p.played = true ∨ p.alerted = true ∨ q.focused = true ∧
            q.settings.alwaysPlaySound = false ∧ q.highlight.alert = false) := by
  refine ⟨rfl, .suppressed (chimeAt 900 true).key, rfl, rfl, ?_⟩
  obtain ⟨j, q, p, before, made, -, result, through, -, -, -, -, reached⟩ :=
    @repeatsDelivered (fun _ => false) chimes (chimeAt 900 true) 2 _ rfl rfl rfl
  exact ⟨j, q, p, before, made, result, through, reached⟩

/- The first chime is not heard, as the window has focus, and there is no other before the second,
which is held back. -/
theorem unheardHoldsBack :
    (chimeAt 100 false).isAdmitted = true ∧
      (run (fun _ => false) {} [chimeAt 0 true, chimeAt 100 false])[1]? =
        some (.suppressed (chimeAt 100 false).key) ∧
      ∀ (j : Nat) (p : Outcome), j < 1 →
        (run (fun _ => false) {} [chimeAt 0 true, chimeAt 100 false])[j]? = some p →
        p.played = false ∧ p.alerted = false := by
  refine ⟨by decide, rfl, fun j p first result => ?_⟩
  obtain rfl : j = 0 := by omega
  cases result
  decide

end Scrollback.Notification
