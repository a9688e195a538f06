import Scrollback.Regex.Plain

/-! Places further on in a text. Whatever a match goes over is a part of the text after the
place where it began, so all its places are that place, moved on by some characters. -/
namespace Scrollback.Regex

theorem dropTaken {α : Type} (p : α → Bool) (l : List α) :
    l.drop (l.takeWhile p).length = l.dropWhile p := by
  induction l with
  | nil => rfl
  | cons x l ih => cases h : p x <;> simp [h, ih]

namespace Cursor

def skip (c : Cursor) (n : Nat) : Cursor :=
  ⟨c.index + n, (c.after.take n).reverse ++ c.before, c.after.drop n⟩

@[simp] theorem skipZero (c : Cursor) : c.skip 0 = c := by simp [skip]

@[simp] theorem skipIndex (c : Cursor) (n : Nat) : (c.skip n).index = c.index + n := rfl

@[simp] theorem skipAfter (c : Cursor) (n : Nat) : (c.skip n).after = c.after.drop n := rfl

@[simp] theorem skipSkip (c : Cursor) (m n : Nat) : (c.skip m).skip n = c.skip (m + n) := by
  simp [skip, List.take_add, Nat.add_assoc]

theorem skipOne {c : Cursor} {x : Char} {rest : List Char} (h : c.after = x :: rest) :
    c.skip 1 = ⟨c.index + 1, x :: c.before, rest⟩ := by
  simp [skip, h]

theorem nextOf {c : Cursor} {x : Char} {rest : List Char} (h : c.after = x :: rest) :
    c.next? = some (x, c.skip 1) := by
  rw [next?, h, skipOne h]

theorem nextAtEnd {c : Cursor} (h : c.after = []) : c.next? = none := by rw [next?, h]

theorem textToSkip (c : Cursor) (n : Nat) : c.textTo (c.skip n) = c.after.take n := by
  simp [textTo]

theorem textBetween (c : Cursor) (m n : Nat) :
    (c.skip m).textTo (c.skip (m + n)) = (c.after.drop m).take n := by
  rw [← skipSkip, textToSkip, skipAfter]

end Cursor

namespace Progress

def skip (p : Progress) (n : Nat) : Progress := { p with cursor := p.cursor.skip n }

@[simp] theorem skipCursor (p : Progress) (n : Nat) : (p.skip n).cursor = p.cursor.skip n := rfl

@[simp] theorem skipSkip (p : Progress) (m n : Nat) : (p.skip m).skip n = p.skip (m + n) := by
  simp [skip]

@[simp] theorem skipZero (p : Progress) : p.skip 0 = p := by simp [skip]

@[simp] theorem saveCursor (p : Progress) (slot : Nat) : (p.save slot).cursor = p.cursor := rfl

theorem takeOf {p : Progress} {x : Char} {rest : List Char} (s : CharSet)
    (h : p.cursor.after = x :: rest) :
    p.take? s = if s.contains x then some (p.skip 1) else none := by
  rw [take?, Cursor.nextOf h]
  rfl

theorem takeAtEnd {p : Progress} (s : CharSet) (h : p.cursor.after = []) : p.take? s = none := by
  rw [take?, Cursor.nextAtEnd h]

end Progress
end Scrollback.Regex
