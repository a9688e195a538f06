import Scrollback.Proofs.Regex.Cursor
import Scrollback.Regex.Basic

/-! Whether a plan matches, and how many retries it takes to find out. An answer that is given is
right, and it is given if there are enough retries. -/
namespace Scrollback.Regex

-- Whether `holds` was found out, with no more than `cost` of the `left` retries.
def Outcome.Answers (holds : Prop) (cost left : Nat) : Outcome → Prop
  | .matched _ _ => holds
  | .failed rest => ¬holds ∧ left ≤ rest + cost
  | .exhausted => left < cost

namespace Outcome

variable {A B : Prop} {a b left : Nat} {first : Outcome} {second : Nat → Outcome}

theorem Answers.same (answers : first.Answers A a left) (same : A ↔ B) :
    first.Answers B a left := by
  cases first with
  | matched => exact same.mp answers
  | failed => exact ⟨mt same.mpr answers.1, answers.2⟩
  | exhausted => exact answers

theorem Answers.within (answers : first.Answers A a left) (within : a ≤ b) :
    first.Answers A b left := by
  cases first with
  | matched => exact answers
  | failed rest => exact ⟨answers.1, Nat.le_trans answers.2 (Nat.add_le_add_left within rest)⟩
  | exhausted => exact Nat.lt_of_lt_of_le answers within

theorem Answers.later (answers : first.Answers A a left) {earlier : Nat}
    (spent : earlier ≤ left + b) : first.Answers A (a + b) earlier := by
  cases first with
  | matched => exact answers
  | failed rest => exact ⟨answers.1, by have := answers.2; omega⟩
  | exhausted =>
    have short : left < a := answers
    change earlier < a + b
    omega

theorem Answers.orElse (one : first.Answers A a left)
    (other : ∀ rest, (second rest).Answers B b rest) :
    (first.orElse second).Answers (A ∨ B) (a + b + 1) left := by
  cases first with
  | matched => exact .inl one
  | exhausted => exact Nat.lt_of_lt_of_le one (by omega)
  | failed rest =>
    obtain ⟨no, spent⟩ := one
    cases rest with
    | zero =>
      change left < a + b + 1
      omega
    | succ rest =>
      have later : (second rest).Answers B (b + (a + 1)) left := (other rest).later (by omega)
      exact (later.same (by simp [no])).within (by omega)

theorem answersRetry (other : ∀ rest, (second rest).Answers B b rest) :
    ((Outcome.failed left).orElse second).Answers B (b + 1) left := by
  have failed : (Outcome.failed left).Answers False 0 left := ⟨id, Nat.le_refl _⟩
  exact ((failed.orElse other).same (by simp)).within (by omega)

end Outcome

open Outcome

namespace Plan

variable {s : CharSet} {goal : Goal} {p : Progress} {G : Prop} {cost : Nat}

theorem notBehindAnswers (further : ∀ left, (goal p left).Answers G cost left) (left : Nat) :
    ((Plan.notBehind 1 (.plain (.set s))).run goal p left).Answers
      (p.cursor.before.head?.any s.contains = false ∧ G) (cost + 1) left := by
  rw [run]
  cases before : p.cursor.before with
  | nil =>
    have none : p.cursor.back? 1 = none := by rw [Cursor.back?, before]
    rw [none]
    exact (answersRetry further).same (by simp)
  | cons x rest =>
    have back : p.cursor.back? 1 = some ⟨p.cursor.index - 1, rest, x :: p.cursor.after⟩ := by
      rw [Cursor.back?, before]
      rfl
    let q : Progress := { p with cursor := ⟨p.cursor.index - 1, rest, x :: p.cursor.after⟩ }
    have taken : q.take? s = if s.contains x then some (q.skip 1) else none := Progress.takeOf s rfl
    rw [back]
    dsimp only
    rw [run, Plain.first?, taken]
    cases member : s.contains x with
    | true => exact ⟨by simp [member], by omega⟩
    | false => exact (answersRetry further).same (by simp [member])

theorem notAheadAnswers (further : ∀ left, (goal p left).Answers G cost left) (left : Nat) :
    ((Plan.notAhead (.plain (.set s))).run goal p left).Answers
      (p.cursor.after.head?.any s.contains = false ∧ G) (cost + 1) left := by
  rw [run, run, Plain.first?]
  cases after : p.cursor.after with
  | nil =>
    rw [Progress.takeAtEnd s after]
    exact (answersRetry further).same (by simp)
  | cons x rest =>
    rw [Progress.takeOf s after]
    cases member : s.contains x with
    | true => exact ⟨by simp [member], by omega⟩
    | false => exact (answersRetry further).same (by simp [member])

theorem oneOfAnswers {α : Type} {f : α → Plan} {holds : α → Prop} {as : List α} (some : as ≠ [])
    (each : ∀ a ∈ as, ∀ left, ((f a).run goal p left).Answers (holds a) cost left) (left : Nat) :
    ((Expr.oneOf (as.map f)).run goal p left).Answers (∃ a ∈ as, holds a)
      (as.length * (cost + 1)) left := by
  induction as generalizing left with
  | nil => contradiction
  | cons a as ih =>
    have here := each a (.head _)
    cases as with
    | nil => exact ((here left).same (by simp)).within (by simp)
    | cons b as =>
      have others := ih (List.cons_ne_nil _ _) fun a member => each a (.tail _ member)
      have size : (a :: b :: as).length * (cost + 1) =
          (b :: as).length * (cost + 1) + (cost + 1) := Nat.succ_mul _ _
      refine (((here left).orElse others).same (by simp)).within ?_
      omega

end Plan

theorem searchPlanned {r : Regex} {plan : Plan} (program : r.program = .planned false plan)
    (c : Cursor) : r.searchFrom c = .ofSearch (searchPlan plan c retryLimit) := by
  rw [searchFrom, program]
  rfl

-- If a place is not one of the places that are looked for, they all come after it.
theorem laterPlaces {holds : Cursor → Prop} {c : Cursor} {x : Char} {more : List Char}
    (after : c.after = x :: more) (here : ¬holds c) :
    (∃ n ≤ (c.skip 1).after.length, holds ((c.skip 1).skip n)) ↔
      ∃ n ≤ c.after.length, holds (c.skip n) := by
  have moved : c.after.length = (c.skip 1).after.length + 1 := by simp [after]
  constructor
  · rintro ⟨n, inside, found⟩
    exact ⟨1 + n, by omega, by rwa [Cursor.skipSkip] at found⟩
  · rintro ⟨n, inside, found⟩
    cases n with
    | zero => exact absurd (by rwa [Cursor.skipZero] at found) here
    | succ n =>
      rw [Nat.add_comm] at found
      exact ⟨n, by omega, by rwa [Cursor.skipSkip]⟩

theorem searchAnswers {plan : Plan} {holds : Cursor → Prop} {cost : Nat}
    (each : ∀ c left, (plan.run .matched (.start c) left).Answers (holds c) cost left)
    (c : Cursor) (left : Nat) :
    (searchPlan plan c left).2.Answers (∃ n ≤ c.after.length, holds (c.skip n))
      ((c.after.length + 1) * (cost + 1)) left := by
  have here := each c left
  have once (n : Nat) : cost + 1 ≤ (n + 1) * (cost + 1) :=
    Nat.le_mul_of_pos_left _ (Nat.succ_pos n)
  fun_induction searchPlan plan c left with
  | case1 c left spent =>
    rw [spent] at here
    have short : left < cost + 1 := by have := here.2; omega
    exact Nat.lt_of_lt_of_le short (once _)
  | case2 c left rest failed after =>
    rw [failed] at here
    refine ⟨?_, ?_⟩
    · rintro ⟨n, atEnd, found⟩
      obtain rfl : n = 0 := by simpa [after] using atEnd
      rw [Cursor.skipZero] at found
      exact here.1 found
    · have spent := here.2
      rw [after, List.length_nil]
      omega
  | case3 c left rest failed x more after ih =>
    rw [failed] at here
    have later := ih (each _ _)
    rw [← Cursor.skipOne after] at later
    have moved : c.after.length + 1 = (c.skip 1).after.length + 1 + 1 := by simp [after]
    have spent : left ≤ rest + 1 + cost := here.2
    rw [moved, Nat.succ_mul, ← Cursor.skipOne after]
    refine (later.same (laterPlaces after here.1)).later ?_
    omega
  | case4 c left unspent met =>
    change (plan.run .matched (.start c) left).Answers _ _ _
    cases found : plan.run .matched (.start c) left with
    | matched =>
      rw [found] at here
      exact ⟨0, Nat.zero_le _, by rwa [Cursor.skipZero]⟩
    | failed rest => cases rest with
      | zero => exact absurd found unspent
      | succ rest => exact absurd found (met rest)
    | exhausted =>
      rw [found] at here
      have short : left < cost := here
      exact Nat.lt_of_lt_of_le (Nat.lt_succ_of_lt short) (once _)

end Scrollback.Regex
