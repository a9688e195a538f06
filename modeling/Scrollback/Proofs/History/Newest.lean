import Scrollback.History.Buffer

/-! A buffer holds the newest of the messages it was given, as many as it has room for. The test
for room is an equality, so this rests on no buffer ever holding more than its limit. -/
namespace Scrollback

def newest {α : Type} (n : Nat) (l : List α) : List α := l.drop (l.length - n)

section Newest
variable {α : Type} {n : Nat} {l : List α}

theorem newestAll (room : l.length ≤ n) : newest n l = l := by
  rw [newest, Nat.sub_eq_zero_of_le room, List.drop_zero]

theorem newestLength : (newest n l).length = min n l.length := by
  rw [newest, List.length_drop]
  omega

-- What was dropped once is not among the newest later on.
theorem newestAppend (m : List α) : newest n (newest n l ++ m) = newest n (l ++ m) := by
  have dropped : newest n l ++ m = (l ++ m).drop (l.length - n) := by
    rw [List.drop_append_of_le_length (Nat.sub_le _ _), newest]
  rw [newest, List.length_append, newestLength, dropped, List.drop_drop, newest, List.length_append]
  congr 1
  omega

theorem filterNewest (p : α → Bool) :
    l.filter p = (l.take (l.length - n)).filter p ++ (newest n l).filter p := by
  rw [← List.filter_append, newest, List.take_append_drop]

-- Both are ends of the list of all that pass.
theorem newestAmong (p : α → Bool) : (newest n (l.filter p)).Sublist (newest n l) ↔
    min n (l.filter p).length ≤ ((newest n l).filter p).length := by
  constructor
  · intro among
    have passed : (newest n (l.filter p)).filter p = newest n (l.filter p) :=
      List.filter_eq_self.mpr fun a member => (List.mem_filter.mp (List.mem_of_mem_drop member)).2
    rw [← newestLength, ← passed]
    exact (among.filter p).length_le
  · rw [filterNewest (n := n) p, List.length_append]
    generalize (l.take (l.length - n)).filter p = before
    intro short
    refine List.Sublist.trans ?_ (List.filter_sublist (p := p))
    rw [newest, List.length_append, List.drop_append, List.drop_eq_nil_of_le (by omega),
      List.nil_append]
    exact List.drop_sublist _ _

/- The newest that pass are all among the newest if and only if none that passes was dropped, or
nothing else was left. -/
theorem newestFilter (p : α → Bool) : (newest n (l.filter p)).Sublist (newest n l) ↔
    (∀ a ∈ l.take (l.length - n), p a = false) ∨ ∀ a ∈ newest n l, p a = true := by
  have none : (∀ a ∈ l.take (l.length - n), p a = false) ↔
      ((l.take (l.length - n)).filter p).length = 0 := by
    simp [List.filter_eq_nil_iff]
  have only : (∀ a ∈ newest n l, p a = true) ↔
      ((newest n l).filter p).length = (newest n l).length :=
    List.length_filter_eq_length_iff.symm
  have dropped := List.length_filter_le p (l.take (l.length - n))
  have left := List.length_filter_le p (newest n l)
  rw [newestAmong, none, only, filterNewest (n := n) p, List.length_append, newestLength]
  rw [List.length_take] at dropped
  rw [newestLength] at left
  omega

theorem newestKind {β : Type} [BEq β] [LawfulBEq β] (kind : α → β) (k : β) :
    (newest n (l.filter (kind · == k))).Sublist (newest n l) ↔
      k ∉ (l.map kind).take ((l.map kind).length - n) ∨ ∀ d ∈ newest n (l.map kind), d = k := by
  rw [newestFilter, newest, newest, List.length_map, ← List.map_take, ← List.map_drop]
  simp only [beq_eq_false_iff_ne, beq_iff_eq, List.mem_map, not_exists, not_and,
    forall_exists_index, and_imp, forall_apply_eq_imp_iff₂, ne_eq]

end Newest

namespace Buffer

theorem pushNewest (b : Buffer) (m : Message) :
    (b.push m).messages = newest b.limit (b.messages ++ [m]) := by
  rw [messages_push, newest, List.length_append, List.length_singleton]

@[simp] theorem extendLimit (b : Buffer) (ms : List Message) : (b.extend ms).limit = b.limit := by
  induction ms generalizing b with
  | nil => rfl
  | cons m ms ih => exact (ih (b.push m)).trans (limit_push b m)

theorem extendNewest (b : Buffer) (ms : List Message) :
    (b.extend ms).messages = newest b.limit (b.messages ++ ms) := by
  induction ms generalizing b with
  | nil =>
    rw [List.append_nil, newestAll b.length_le]
    rfl
  | cons m ms ih =>
    calc
      (b.extend (m :: ms)).messages = newest (b.push m).limit ((b.push m).messages ++ ms) :=
        ih (b.push m)
      _ = newest b.limit (b.messages ++ [m] ++ ms) := by
        rw [limit_push, pushNewest, newestAppend]
      _ = newest b.limit (b.messages ++ m :: ms) := by rw [List.append_assoc, List.singleton_append]

end Buffer

end Scrollback
