import Scrollback.Notification
import Mathlib.Data.List.Induction

/-! A request is held back if and only if the same notification was delivered before it and every
request since then, itself included, still counts that one as recent. Delays differ from request
to request, and times need not grow. What is recent is said without the limits of the calendar:
where a delay reaches past them, nothing is forgotten that the delay would not cover. -/
namespace Scrollback.Notification

def Outcome.isSuppressed : Outcome → Bool
  | .suppressed _ => true
  | _ => false

section Cutoff
open Instant (perMilli longestSpan earliest latest)

theorem spanPassesCalendar : latest.nanos - (longestSpan : Nat) * perMilli < earliest.nanos := by
  decide

theorem validBounds {t : Instant} (valid : t.isValid = true) :
    earliest.nanos ≤ t.nanos ∧ t.nanos ≤ latest.nanos := by
  simpa [Instant.isValid] using valid

/- Where there is no moment before, the delay starts before the calendar. This is always so with
a delay that was cut to the longest span. -/
theorem beforeCovers {now t : Instant} (delay : Nat) (valid : now.isValid = true)
    (earlier : t.isValid = true) :
    ((now.before? delay).all fun c => c.nanos < t.nanos) = true ↔
      now.nanos - delay * perMilli < t.nanos := by
  have span := spanPassesCalendar
  have nowBounds := validBounds valid
  have thenBounds := validBounds earlier
  simp only [Instant.before?]
  rcases Nat.le_total delay longestSpan with short | long
  · rw [Nat.min_eq_left short]
    split
    · simp
    · simp only [Option.all_none, true_iff]
      omega
  · have wider : (longestSpan : Int) * perMilli ≤ delay * perMilli :=
      Int.mul_le_mul_of_nonneg_right (Int.ofNat_le.mpr long) (by decide)
    rw [Nat.min_eq_right long, if_neg (by omega)]
    simp only [Option.all_none, true_iff]
    omega

theorem beforeValid {now c : Instant} {delay : Nat} (valid : now.isValid = true)
    (found : now.before? delay = some c) : c.isValid = true := by
  have nowBounds := validBounds valid
  have back : 0 ≤ (min delay longestSpan : Nat) * perMilli :=
    Int.mul_nonneg (Int.natCast_nonneg _) (by decide)
  simp only [Instant.before?] at found
  split at found
  · cases found
    simp only [Instant.isValid, Bool.and_eq_true, decide_eq_true_eq]
    omega
  · contradiction

end Cutoff

-- The delay, counted back from the request, covers a time.
def Request.reaches (r : Request) (t : Instant) : Prop :=
  r.now.nanos - (r.settings.delay.getD 500 : Nat) * Instant.perMilli < t.nanos

section Step
variable {isFile : String → Bool} {recent : Recent} {r : Request}

theorem notifyIdle (idle : r.isAdmitted = false) : notify recent r isFile = (recent, .idle) := by
  simp [notify, idle]

theorem notifyOutcome (admitted : r.isAdmitted = true) :
    (notify recent r isFile).2 = if (recent.forget r.cutoff).contains r.key
      then .suppressed r.key else .delivered (r.deliver isFile) := by
  cases known : (recent.forget r.cutoff).contains r.key <;> simp [notify, admitted, known]

theorem forgetMem {cutoff : Option Instant} {k : Key} {t : Instant} :
    (k, t) ∈ (recent.forget cutoff).entries ↔
      (k, t) ∈ recent.entries ∧ (cutoff.all fun c => c.nanos < t.nanos) = true := by
  simp [Recent.forget]

theorem containsIff {k : Key} : recent.contains k = true ↔ ∃ t, (k, t) ∈ recent.entries := by
  simp [Recent.contains]

theorem notifySuppresses (admitted : r.isAdmitted = true) :
    (notify recent r isFile).2.isSuppressed = (recent.forget r.cutoff).contains r.key := by
  cases known : (recent.forget r.cutoff).contains r.key <;>
    simp [notify, admitted, known, Outcome.isSuppressed]

/- A delivered request is added. No entry gives way to it, as there is none of its key. -/
theorem notifyMem (admitted : r.isAdmitted = true) {k : Key} {t : Instant} :
    (k, t) ∈ (notify recent r isFile).1.entries ↔
      (k, t) ∈ (recent.forget r.cutoff).entries ∨
        (notify recent r isFile).2.isSuppressed = false ∧ k = r.key ∧ t = r.now := by
  rw [notifySuppresses admitted]
  cases known : (recent.forget r.cutoff).contains r.key with
  | true => simp [notify, admitted, known]
  | false =>
    have other : ∀ e ∈ (recent.forget r.cutoff).entries, (e.1 != r.key) = true := by
      intro e member
      by_contra same
      have same : e.1 = r.key := by simpa using same
      have found := containsIff.mpr ⟨e.2, member⟩
      rw [same, known] at found
      contradiction
    simp only [notify, admitted, known, Recent.insert, List.filter_eq_self.mpr other,
      Bool.not_true, Bool.false_eq_true, if_false, List.mem_cons, Prod.mk.injEq, true_and]
    exact or_comm

end Step

-- What is remembered after requests.
def after (isFile : String → Bool) (rs : List Request) : Recent :=
  rs.foldl (fun recent r => (notify recent r isFile).1) {}

theorem afterSnoc (isFile : String → Bool) (rs : List Request) (r : Request) :
    after isFile (rs ++ [r]) = (notify (after isFile rs) r isFile).1 := by
  simp [after]

theorem runLength (isFile : String → Bool) (recent : Recent) (rs : List Request) :
    (run isFile recent rs).length = rs.length := by
  induction rs generalizing recent with
  | nil => rfl
  | cons r rs ih => simp [run, ih]

theorem runAppend (isFile : String → Bool) (recent : Recent) (rs later : List Request) :
    run isFile recent (rs ++ later) = run isFile recent rs ++
      run isFile (rs.foldl (fun recent r => (notify recent r isFile).1) recent) later := by
  induction rs generalizing recent with
  | nil => rfl
  | cons r rs ih => simp [run, ih]

theorem runSnoc (isFile : String → Bool) (rs : List Request) (r : Request) :
    run isFile {} (rs ++ [r]) =
      run isFile {} rs ++ [(notify (after isFile rs) r isFile).2] := by
  rw [runAppend]
  rfl

theorem runTake (isFile : String → Bool) (rs : List Request) (i : Nat) :
    run isFile {} (rs.take i) = (run isFile {} rs).take i := by
  rcases Nat.le_total i rs.length with inside | outside
  · conv_rhs => rw [← List.take_append_drop i rs, runAppend]
    rw [List.take_left' (by rw [runLength, List.length_take, Nat.min_eq_left inside])]
  · rw [List.take_of_length_le outside, List.take_of_length_le (by rwa [runLength])]

/- A request that was delivered, and that all since then count as recent. -/
def Remembered (isFile : String → Bool) (rs : List Request) (q : Request) : Prop :=
  ∃ (j : Nat) (o : Outcome), rs[j]? = some q ∧ q.isAdmitted = true ∧
    (run isFile {} rs)[j]? = some o ∧ o.isSuppressed = false ∧
    ∀ (k : Nat) (s : Request), j < k → rs[k]? = some s → s.isAdmitted = true → s.reaches q.now

theorem snocNth {α : Type} {l : List α} {a b : α} {k : Nat} :
    (l ++ [a])[k]? = some b ↔ l[k]? = some b ∨ k = l.length ∧ b = a := by
  rcases Nat.lt_trichotomy k l.length with inside | rfl | outside
  · rw [List.getElem?_append_left inside]
    simp [Nat.ne_of_lt inside]
  · simp [eq_comm]
  · rw [List.getElem?_eq_none (by simp; omega), List.getElem?_eq_none (Nat.le_of_lt outside)]
    simp [Nat.ne_of_gt outside]

theorem nthInside {α : Type} {l : List α} {a : α} {k : Nat} (found : l[k]? = some a) :
    k < l.length :=
  (List.getElem?_eq_some_iff.mp found).1

theorem rememberedSnoc {isFile : String → Bool} {rs : List Request} {r q : Request} :
    Remembered isFile (rs ++ [r]) q ↔
      Remembered isFile rs q ∧ (r.isAdmitted = true → r.reaches q.now) ∨
        q = r ∧ r.isAdmitted = true ∧
          (notify (after isFile rs) r isFile).2.isSuppressed = false := by
  simp only [Remembered, runSnoc, snocNth, runLength]
  constructor
  · rintro ⟨j, o, made, admitted, outcome, delivered, recent⟩
    rcases made with made | ⟨last, same⟩
    · have inside := nthInside made
      have outcome := outcome.resolve_right fun last => absurd last.1 (Nat.ne_of_lt inside)
      refine .inl ⟨⟨j, o, made, admitted, outcome, delivered, ?_⟩, ?_⟩
      · exact fun k s later found => recent k s later (.inl found)
      · exact recent rs.length r inside (.inr ⟨rfl, rfl⟩)
    · have outcome := outcome.resolve_left fun found => by
        have inside := nthInside found
        rw [runLength] at inside
        omega
      rw [outcome.2] at delivered
      exact .inr ⟨same, same ▸ admitted, delivered⟩
  · rintro (⟨⟨j, o, made, admitted, outcome, delivered, recent⟩, reached⟩ | ⟨same, admitted, delivered⟩)
    · refine ⟨j, o, .inl made, admitted, .inl outcome, delivered, ?_⟩
      rintro k s later (found | ⟨-, rfl⟩)
      · exact recent k s later found
      · exact reached
    · refine ⟨rs.length, _, .inr ⟨rfl, same⟩, same ▸ admitted, .inr ⟨rfl, rfl⟩, delivered, ?_⟩
      rintro k s later (found | ⟨last, -⟩)
      · exact absurd (nthInside found) (Nat.lt_asymm later)
      · exact absurd last (Nat.ne_of_gt later)

/- What is remembered are the delivered requests that all since then count as recent. -/
theorem afterMem {isFile : String → Bool} {rs : List Request}
    (valid : ∀ r ∈ rs, r.now.isValid = true) {k : Key} {t : Instant} :
    (k, t) ∈ (after isFile rs).entries ↔
      ∃ q, Remembered isFile rs q ∧ q.key = k ∧ q.now = t := by
  induction rs using List.reverseRecOn generalizing k t with
  | nil => simp [after, Remembered]
  | append_singleton rs r ih =>
    have earlier : ∀ q, Remembered isFile rs q → q.now.isValid = true := by
      rintro q ⟨j, o, made, -⟩
      exact valid q (List.mem_append_left _ (List.mem_of_getElem? made))
    have now := valid r (by simp)
    have ih {k : Key} {t : Instant} := @ih (fun q member => valid q (List.mem_append_left _ member)) k t
    rw [afterSnoc]
    simp only [rememberedSnoc]
    cases admitted : r.isAdmitted with
    | false =>
      rw [notifyIdle admitted, ih]
      simp
    | true =>
      rw [notifyMem admitted, forgetMem, ih, Request.cutoff]
      constructor
      · rintro (⟨⟨q, kept, key, time⟩, covered⟩ | ⟨delivered, key, time⟩)
        · rw [beforeCovers _ now (time ▸ earlier q kept), ← time] at covered
          exact ⟨q, .inl ⟨kept, fun _ => covered⟩, key, time⟩
        · exact ⟨r, .inr ⟨rfl, rfl, delivered⟩, key.symm, time.symm⟩
      · rintro ⟨q, ⟨kept, covered⟩ | ⟨rfl, -, delivered⟩, rfl, rfl⟩
        · refine .inl ⟨⟨q, kept, rfl, rfl⟩, ?_⟩
          exact (beforeCovers _ now (earlier q kept)).mpr (covered rfl)
        · exact .inr ⟨delivered, rfl, rfl⟩

theorem rememberedTake {isFile : String → Bool} {rs : List Request} {i : Nat} {q : Request} :
    Remembered isFile (rs.take i) q ↔
      ∃ (j : Nat) (o : Outcome), j < i ∧ rs[j]? = some q ∧ q.isAdmitted = true ∧
        (run isFile {} rs)[j]? = some o ∧ o.isSuppressed = false ∧
        ∀ (k : Nat) (s : Request), j < k → k < i → rs[k]? = some s → s.isAdmitted = true →
          s.reaches q.now := by
  simp only [Remembered, runTake, List.getElem?_take, Option.ite_none_right_eq_some]
  constructor
  · rintro ⟨j, o, made, admitted, outcome, delivered, recent⟩
    exact ⟨j, o, made.1, made.2, admitted, outcome.2, delivered,
      fun k s later before found => recent k s later ⟨before, found⟩⟩
  · rintro ⟨j, o, before, made, admitted, outcome, delivered, recent⟩
    exact ⟨j, o, ⟨before, made⟩, admitted, ⟨before, outcome⟩, delivered,
      fun k s later found => recent k s later found.1 found.2⟩

theorem runNth {isFile : String → Bool} {rs : List Request} {i : Nat} {r : Request}
    (found : rs[i]? = some r) :
    (run isFile {} rs)[i]? = some (notify (after isFile (rs.take i)) r isFile).2 := by
  have first : (run isFile {} (rs.take (i + 1)))[i]? = (run isFile {} rs)[i]? := by
    rw [runTake, List.getElem?_take_of_lt (Nat.lt_succ_self i)]
  rw [← first, List.take_add_one, found, Option.toList_some, runSnoc, snocNth, runLength,
    List.length_take, Nat.min_eq_left (Nat.le_of_lt (nthInside found))]
  exact Or.inr ⟨rfl, rfl⟩

/- Repeats by the times of the requests alone. The times are those of the calendar, and the delays
are any; what is counted back stays in the calendar or is not used. -/
theorem repeatsHeldBack {isFile : String → Bool} {rs : List Request}
    (valid : ∀ r ∈ rs, r.now.isValid = true) :
    (run isFile {} rs).length = rs.length ∧
    (∀ r ∈ rs, ∀ c, r.cutoff = some c → c.isValid = true) ∧
    ∀ (i : Nat) (r : Request) (o : Outcome),
      rs[i]? = some r → (run isFile {} rs)[i]? = some o → r.isAdmitted = true →
      (o.isSuppressed = true ↔ ∃ (j : Nat) (q : Request) (p : Outcome),
        j < i ∧ rs[j]? = some q ∧ q.isAdmitted = true ∧
        (run isFile {} rs)[j]? = some p ∧ p.isSuppressed = false ∧
        q.message.author = r.message.author ∧ q.message.channel = r.message.channel ∧
        q.message.text = r.message.text ∧ q.highlight.sound = r.highlight.sound ∧
        ∀ (k : Nat) (s : Request), j < k → k ≤ i → rs[k]? = some s → s.isAdmitted = true →
          s.now.nanos - (s.settings.delay.getD 500 : Nat) * Instant.perMilli < q.now.nanos) := by
  refine ⟨runLength _ _ _, fun r member c => beforeValid (valid r member), ?_⟩
  intro i r o asked outcome admitted
  have now := valid r (List.mem_of_getElem? asked)
  have earlier : ∀ q ∈ rs.take i, q.now.isValid = true :=
    fun q member => valid q (List.mem_of_mem_take member)
  rw [runNth asked, Option.some.injEq] at outcome
  rw [← outcome, notifySuppresses admitted, containsIff]
  simp only [forgetMem, afterMem earlier, rememberedTake]
  constructor
  · rintro ⟨t, ⟨q, ⟨j, p, before, made, wanted, result, delivered, recent⟩, key, rfl⟩, covered⟩
    have valid := valid q (List.mem_of_getElem? made)
    rw [Request.cutoff, beforeCovers _ now valid] at covered
    simp only [Request.key, Key.of, Key.mk.injEq] at key
    obtain ⟨author, channel, text, sound⟩ := key
    refine ⟨j, q, p, before, made, wanted, result, delivered, author, channel, text, sound, ?_⟩
    intro k s later upTo found counts
    rcases Nat.lt_or_eq_of_le upTo with inside | rfl
    · exact recent k s later inside found counts
    · rw [asked] at found
      cases found
      exact covered
  · rintro ⟨j, q, p, before, made, wanted, result, delivered, author, channel, text, sound, recent⟩
    have valid := valid q (List.mem_of_getElem? made)
    refine ⟨q.now, ⟨q, ⟨j, p, before, made, wanted, result, delivered, ?_⟩, ?_, rfl⟩, ?_⟩
    · exact fun k s later inside => recent k s later (Nat.le_of_lt inside)
    · rw [Request.key, Request.key, Key.of, Key.of, author, channel, text, sound]
    · rw [Request.cutoff, beforeCovers _ now valid]
      exact recent i r before (Nat.le_refl i) asked admitted

-- The same alert at some milliseconds, with a delay of a second.
def greetingAt (millis : Int) : Request where
  now := ⟨millis * Instant.perMilli⟩
  settings := { delay := some 1000 }
  sound := {}
  message := { timestamp := ⟨0, 0⟩, channel := "#a", author := "b", text := "hi" }
  highlight := { alert := true }
  focused := false

theorem greetingHeldBack :
    (∀ r ∈ [greetingAt 0, greetingAt (-500), greetingAt 500], r.now.isValid = true) ∧
      ∃ o, (run (fun _ => false) {} [greetingAt 0, greetingAt (-500), greetingAt 500])[2]? = some o ∧
        o.isSuppressed = true := by
  have valid : ∀ r ∈ [greetingAt 0, greetingAt (-500), greetingAt 500], r.now.isValid = true := by
    decide
  refine ⟨valid, _, rfl, ?_⟩
  refine ((@repeatsHeldBack (fun _ => false) _ valid).2.2 2 _ _ rfl rfl (by decide)).mpr ?_
  refine ⟨0, _, _, by decide, rfl, by decide, rfl, rfl, rfl, rfl, rfl, rfl, ?_⟩
  intro k s later upTo found _
  obtain rfl | rfl : k = 1 ∨ k = 2 := by omega
  all_goals
    cases found
    decide

end Scrollback.Notification
