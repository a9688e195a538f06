import Mathlib.Data.List.DropRight
import Scrollback.Text.Trim

/-! What is left of a text without the blanks around it: the one part of it that neither begins nor
ends with a blank and has nothing but blanks on both sides. -/
namespace Scrollback.Text
open Unicode

-- No blank at either end.
structure Stripped (cs : List Char) : Prop where
  first : ∀ c ∈ cs.head?, isBlank c = false
  last : ∀ c ∈ cs.getLast?, isBlank c = false

theorem strippedSolid {cs : List Char} (solid : ∀ c ∈ cs, isBlank c = false) : Stripped cs where
  first c first := solid c (List.mem_of_mem_head? first)
  last c last := solid c (List.mem_of_getLast? last)

theorem Stripped.around {front back : List Char} (first : Stripped front) (last : Stripped back)
    (filled : front ≠ []) (closed : back ≠ []) (middle : List Char) :
    Stripped (front ++ middle ++ back) where
  first := by
    rw [List.append_assoc, List.head?_append_of_ne_nil _ filled]
    exact first.first
  last := by
    rw [List.getLast?_append_of_ne_nil _ closed]
    exact last.last

theorem trimCut (cs : List Char) :
    ∃ before after, cs = before ++ trimChars cs ++ after ∧
      (∀ c ∈ before, isBlank c = true) ∧ ∀ c ∈ after, isBlank c = true := by
  refine ⟨cs.takeWhile isBlank, (cs.dropWhile isBlank).rtakeWhile isBlank, ?_, ?_, ?_⟩
  · have back : trimChars cs ++ (cs.dropWhile isBlank).rtakeWhile isBlank = cs.dropWhile isBlank :=
      List.rdropWhile_append_rtakeWhile
    rw [List.append_assoc, back, List.takeWhile_append_dropWhile]
  · exact fun c member => List.all_eq_true.mp List.all_takeWhile c member
  · exact fun c member => List.mem_rtakeWhile_imp member

theorem trimStripped (cs : List Char) : Stripped (trimChars cs) where
  first := by
    intro c first
    have front : trimChars cs <+: cs.dropWhile isBlank := List.rdropWhile_prefix isBlank _
    obtain ⟨more, whole⟩ := front
    have here : (cs.dropWhile isBlank).head? = some c := by
      rw [← whole, List.head?_append, first]
      rfl
    have head := List.head?_dropWhile_not isBlank cs
    rwa [here] at head
  last := by
    intro c last
    obtain ⟨filled, rfl⟩ := List.mem_getLast?_eq_getLast last
    have stop := List.rdropWhile_last_not isBlank (cs.dropWhile isBlank) filled
    exact Bool.eq_false_iff.mpr stop

theorem dropNone {p : Char → Bool} {cs : List Char} (first : ∀ c ∈ cs.head?, p c = false) :
    cs.dropWhile p = cs := by
  cases cs with
  | nil => rfl
  | cons c cs => exact List.dropWhile_cons_of_neg (by simp [first c rfl])

theorem dropEndAppend (p : Char → Bool) (front rest : List Char) :
    dropEndWhile p (front ++ rest) =
      if rest.all p then dropEndWhile p front else front ++ dropEndWhile p rest := by
  rw [dropEndWhile, List.reverse_append, List.dropWhile_append]
  have done : (rest.reverse.dropWhile p).isEmpty = rest.all p := by
    rw [Bool.eq_iff_iff, List.isEmpty_iff, List.dropWhile_eq_nil_iff, List.all_eq_true]
    simp
  rw [done]
  split
  · rfl
  · rw [List.reverse_append, List.reverse_reverse]
    rfl

theorem dropEndKept {p : Char → Bool} {front : List Char} (last : ∀ c ∈ front.getLast?, p c = false)
    (rest : List Char) : dropEndWhile p (front ++ rest) = front ++ dropEndWhile p rest := by
  have kept : dropEndWhile p front = front := by
    rw [dropEndWhile, dropNone (by rwa [List.head?_reverse]), List.reverse_reverse]
  rw [dropEndAppend]
  split
  · rename_i all
    have none : dropEndWhile p rest = [] :=
      List.rdropWhile_eq_nil_iff.mpr (List.all_eq_true.mp all)
    rw [none, kept, List.append_nil]
  · rfl

theorem trimAround {before cs after : List Char} (stripped : Stripped cs)
    (left : ∀ c ∈ before, isBlank c = true) (right : ∀ c ∈ after, isBlank c = true) :
    trimChars (before ++ cs ++ after) = cs := by
  rw [trimChars, List.append_assoc, List.dropWhile_append_of_pos left]
  cases cs with
  | nil =>
    have none : after.dropWhile isBlank = [] := List.dropWhile_eq_nil_iff.mpr right
    rw [List.nil_append, none]
    rfl
  | cons x rest =>
    have front : (x :: rest ++ after).dropWhile isBlank = x :: rest ++ after :=
      dropNone fun c first => stripped.first c (by simpa using first)
    have back : ∀ c ∈ (x :: rest).reverse.head?, isBlank c = false := by
      rw [List.head?_reverse]
      exact stripped.last
    have blank : ∀ c ∈ after.reverse, isBlank c = true := fun c member =>
      right c (List.mem_reverse.mp member)
    rw [front, dropEndWhile, List.reverse_append, List.dropWhile_append_of_pos blank, dropNone back,
      List.reverse_reverse]

theorem trimSame {cs : List Char} (stripped : Stripped cs) : trimChars cs = cs := by
  have alone : trimChars ([] ++ cs ++ []) = cs := trimAround stripped nofun nofun
  rwa [List.nil_append, List.append_nil] at alone

theorem trimEmpty {cs : List Char} : trimChars cs = [] ↔ ∀ c ∈ cs, isBlank c = true := by
  constructor
  · intro empty c member
    obtain ⟨before, after, whole, left, right⟩ := trimCut cs
    rw [empty, List.append_nil] at whole
    rw [whole] at member
    rcases List.mem_append.mp member with front | back
    · exact left c front
    · exact right c back
  · intro blank
    have alone : trimChars (cs ++ [] ++ []) = [] := trimAround (strippedSolid nofun) blank nofun
    rwa [List.append_nil, List.append_nil] at alone

-- Nothing but the empty text is both blank and without blanks at its end.
theorem Stripped.nothingBehind {cs after : List Char} (stripped : Stripped (cs ++ after))
    (blank : ∀ c ∈ after, isBlank c = true) : after = [] := by
  cases last : after.getLast? with
  | none => exact List.getLast?_eq_none_iff.mp last
  | some c =>
    have solid := stripped.last c (by rw [List.getLast?_append, last]; rfl)
    rw [blank c (List.mem_of_getLast? last)] at solid
    contradiction

theorem Stripped.nothing {cs : List Char} (stripped : Stripped cs)
    (blank : ∀ c ∈ cs, isBlank c = true) : cs = [] := by
  rw [← List.nil_append cs] at stripped
  exact stripped.nothingBehind blank

end Scrollback.Text
