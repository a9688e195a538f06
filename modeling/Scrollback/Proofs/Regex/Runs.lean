import Scrollback.Proofs.Regex.Cursor
import Scrollback.Regex.Plan

/-! Runs of characters of one set, as the engine goes over them: all ends of a plain run,
the end that a greedy run settles for, and a lazy repeat that goes on until its goal is met.
The retries of the last are counted exactly. -/
namespace Scrollback.Regex

theorem singleContains (x c : Char) : (CharSet.single x).contains c = (c == x) := by
  rw [Bool.eq_iff_iff]
  simp only [CharSet.single, CharSet.contains, Bool.and_eq_true, decide_eq_true_eq, beq_iff_eq]
  exact ⟨fun h => Char.le_antisymm h.2 h.1, fun h => by subst h; simp⟩

namespace Progress

-- How many characters of `s` come next.
def span (s : CharSet) (p : Progress) : Nat := (p.cursor.after.takeWhile s.contains).length

theorem spanOf {s : CharSet} {p : Progress} (cs : List Char) (h : p.cursor.after = cs) :
    p.span s = (cs.takeWhile s.contains).length := by rw [span, h]

theorem spanIn {s : CharSet} {p : Progress} {x : Char} {rest : List Char}
    (h : p.cursor.after = x :: rest) (member : s.contains x = true) :
    p.span s = (p.skip 1).span s + 1 := by
  simp [span, h, member]

theorem spanPos {s : CharSet} {p : Progress} (some : 0 < p.span s) :
    ∃ x rest, p.cursor.after = x :: rest ∧ s.contains x = true := by
  cases h : p.cursor.after with
  | nil => simp [span, h] at some
  | cons x rest =>
    cases member : s.contains x with
    | true => exact ⟨x, rest, rfl, member⟩
    | false => simp [span, h, member] at some

theorem spanInside {s : CharSet} {p : Progress} {i : Nat} (inside : i < p.span s) :
    ∃ x rest, (p.skip i).cursor.after = x :: rest ∧ s.contains x = true := by
  induction i generalizing p with
  | zero => simpa using spanPos inside
  | succ i ih =>
    obtain ⟨x, rest, here, member⟩ := spanPos (Nat.zero_lt_of_lt inside)
    rw [spanIn here member] at inside
    have later := ih (Nat.lt_of_succ_lt_succ inside)
    rwa [skipSkip, Nat.add_comm] at later

theorem spanStops (s : CharSet) (p : Progress) :
    (p.skip (p.span s)).cursor.after = p.cursor.after.dropWhile s.contains := by
  rw [skipCursor, Cursor.skipAfter, span, dropTaken]

theorem spanFits (s : CharSet) (p : Progress) : p.span s ≤ p.cursor.after.length :=
  (List.takeWhile_sublist _).length_le

end Progress

namespace Plain
open Progress (span spanIn spanPos)

theorem runPlacesSpan (s : CharSet) (p : Progress) (limit : Nat) :
    runPlaces s p limit = (List.range (min limit (p.span s))).map fun i => p.skip (i + 1) := by
  induction limit generalizing p with
  | zero => simp [runPlaces]
  | succ limit ih =>
    rw [runPlaces]
    cases h : p.cursor.after with
    | nil => simp [Progress.takeAtEnd s h, Progress.spanOf _ h]
    | cons x rest =>
      rw [Progress.takeOf s h]
      cases member : s.contains x with
      | false => simp [Progress.spanOf _ h, member]
      | true =>
        simp only [if_true, ih, spanIn h member, Nat.add_min_add_right, List.range_succ_eq_map,
          List.map_cons, List.map_map, Progress.skipSkip]
        congr 1
        refine List.map_congr_left fun i _ => ?_
        simp only [Function.comp_apply, Nat.succ_eq_add_one, Nat.add_comm 1]

theorem runEndsSpan (s : CharSet) (p : Progress) :
    runEnds s 1 none p = (List.range (p.span s)).map fun i => p.skip (i + 1) := by
  rw [runEnds]
  simp only [Option.getD_none, Nat.min_self, runPlacesSpan, List.drop_one, List.tail_cons,
    Nat.min_eq_right (Progress.spanFits s p)]

theorem runEndsWithin (s : CharSet) (p : Progress) (atMost : Nat) :
    runEnds s 1 (some atMost) p =
      (List.range (min atMost (p.span s))).map fun i => p.skip (i + 1) := by
  have fits := Progress.spanFits s p
  have same : min (min p.cursor.after.length atMost) (p.span s) = min atMost (p.span s) := by omega
  rw [runEnds]
  simp only [Option.getD_some, runPlacesSpan, List.drop_one, List.tail_cons, same]

theorem farthest (p : Progress) (n : Nat) :
    ((List.range n).map fun i => p.skip (i + 1)).getLast? = if n = 0 then none else some (p.skip n) := by
  cases n with
  | zero => rfl
  | succ n => simp [List.range_succ]

theorem greedyRunFirst (s : CharSet) (p : Progress) :
    (Plain.run s 1 none true).first? p = if p.span s = 0 then none else some (p.skip (p.span s)) := by
  simp only [first?, ends, runEndsSpan, if_true, List.head?_reverse, farthest]

theorem greedyRunWithin (s : CharSet) (p : Progress) (atMost : Nat) :
    (Plain.run s 1 (some atMost) true).first? p =
      if min atMost (p.span s) = 0 then none else some (p.skip (min atMost (p.span s))) := by
  simp only [first?, ends, runEndsWithin, if_true, List.head?_reverse, farthest]

-- Shorter ends are not asked for if what follows fails at each of them.
theorem greedyRunThen {s : CharSet} {p : Progress} {f : Progress → Option Progress}
    (stop : ∀ i < p.span s, f (p.skip i) = none) :
    ((Plain.run s 1 none true).ends p).findSome? f =
      if p.span s = 0 then none else f (p.skip (p.span s)) := by
  simp only [ends, runEndsSpan, if_true]
  cases size : p.span s with
  | zero => rfl
  | succ n =>
    simp only [List.range_succ, List.map_append, List.map_cons, List.map_nil, List.reverse_append,
      List.reverse_singleton, List.singleton_append, List.findSome?_cons, Nat.add_one_ne_zero, if_false]
    cases here : f (p.skip (n + 1)) with
    | some q => rfl
    | none =>
      refine List.findSome?_eq_none_iff.mpr fun q member => ?_
      obtain ⟨i, inside, rfl⟩ := List.mem_map.mp (List.mem_reverse.mp member)
      exact stop (i + 1) (by have := List.mem_range.mp inside; omega)

end Plain

namespace Plan
open Progress (span spanIn spanPos)

-- A goal that is met or not, without a retry of its own.
def test (holds : Progress → Bool) : Goal :=
  fun p left => if holds p then .matched p left else .failed left

theorem takeStep {s : CharSet} {p : Progress} {x : Char} {rest : List Char} (goal : Goal)
    (left : Nat) (here : p.cursor.after = x :: rest) (member : s.contains x = true) :
    (Plan.plain (.set s)).run goal p left = goal (p.skip 1) left := by
  simp only [run, Plain.first?, Progress.takeOf s here, member, if_true]

theorem firstRound (body : Goal → Goal) (goal : Goal) (fuel previous : Nat) (p : Progress)
    (left : Nat) :
    rounds body 1 none false goal (fuel + 1) 0 previous p left =
      body (rounds body 1 none false goal fuel 1 p.index) p left := by
  rw [rounds]
  simp

theorem lazyRound {body : Goal → Goal} {goal : Goal} {previous : Nat} {p : Progress}
    (fuel count left : Nat) (moved : p.index ≠ previous) :
    rounds body 1 none false goal (fuel + 1) (count + 1) previous p left =
      (goal p left).orElse (body (rounds body 1 none false goal fuel (count + 2) p.index) p) := by
  have fresh : (p.index == previous) = false := beq_eq_false_iff_ne.mpr moved
  rw [rounds]
  simp [fresh]

-- After the first round, a lazy repeat tries its goal before each further round.
theorem lazyRounds {s : CharSet} {holds : Progress → Bool} {fuel count previous : Nat}
    {p : Progress} {left : Nat} (enough : p.span s < fuel) (moved : p.index ≠ previous)
    (early : ∀ i < p.span s, holds (p.skip i) = false) (last : holds (p.skip (p.span s)) = true) :
    rounds (Plan.plain (.set s)).run 1 none false (test holds) fuel (count + 1) previous p left =
      if p.span s ≤ left then .matched (p.skip (p.span s)) (left - p.span s) else .exhausted := by
  induction fuel generalizing count previous p left with
  | zero => omega
  | succ fuel ih =>
    rw [lazyRound fuel count left moved]
    cases size : p.span s with
    | zero =>
      rw [size, Progress.skipZero] at last
      simp [test, last, Outcome.orElse]
    | succ n =>
      have refused : holds p = false := by simpa using early 0 (by omega)
      obtain ⟨x, rest, here, member⟩ := spanPos (by omega : 0 < p.span s)
      have shorter : (p.skip 1).span s = n := by
        have longer := spanIn here member
        omega
      cases left with
      | zero => simp [test, refused, Outcome.orElse]
      | succ left =>
        have further : p.index ≠ (p.skip 1).index := by simp [Progress.index]
        have rest := @ih (count + 1) p.index (p.skip 1) left (by omega) further.symm
          (fun i inside => by rw [Progress.skipSkip]; exact early (1 + i) (by omega))
          (by rw [shorter, Progress.skipSkip, Nat.add_comm 1, ← size]; exact last)
        simp only [test, refused, Bool.false_eq_true, if_false, Outcome.orElse]
        rw [takeStep _ left here member]
        change rounds _ _ _ _ (test holds) _ _ _ _ _ = _
        rw [rest, shorter, Progress.skipSkip, Nat.add_comm 1 n, Nat.add_sub_add_right]
        simp only [Nat.add_le_add_iff_right]

end Plan
end Scrollback.Regex
