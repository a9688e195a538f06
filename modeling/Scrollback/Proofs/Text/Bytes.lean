import Mathlib.Data.String.Basic
import Scrollback.Text.Bytes

/-! What is cut from a text by its bytes is the part of it that is as long. -/
namespace Scrollback.Text
open String (utf8Len)

variable {n : Nat} {cs taken rest : List Char}

theorem bytesTaken (found : takeBytes? n cs = some (taken, rest)) :
    cs = taken ++ rest ∧ utf8Len taken = n := by
  fun_induction takeBytes? n cs generalizing taken rest with
  | case1 cs =>
    cases found
    exact ⟨rfl, rfl⟩
  | case2 => cases found
  | case3 n c cs fits ih =>
    obtain ⟨⟨more, after⟩, inner, same⟩ := Option.map_eq_some_iff.mp found
    cases same
    obtain ⟨rfl, length⟩ := ih inner
    refine ⟨rfl, ?_⟩
    rw [String.utf8Len_cons, length]
    omega
  | case4 => cases found

theorem prefixTaken (taken rest : List Char) :
    takeBytes? (utf8Len taken) (taken ++ rest) = some (taken, rest) := by
  induction taken with
  | nil => rw [String.utf8Len_nil, List.nil_append, takeBytes?]
  | cons c taken ih =>
    obtain ⟨n, size⟩ : ∃ n, utf8Len taken + c.utf8Size = n + 1 :=
      Nat.exists_eq_add_of_le' (Nat.le_add_left_of_le c.utf8Size_pos)
    have left : n + 1 - c.utf8Size = utf8Len taken := by omega
    rw [String.utf8Len_cons, size, List.cons_append, takeBytes?, if_pos (by omega), left, ih]
    rfl

end Scrollback.Text
