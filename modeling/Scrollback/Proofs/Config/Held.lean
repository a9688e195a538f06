import Mathlib
import Scrollback.Proofs.Config.Breaks

/-! What stands inside the values of a document, at any depth. A value can be passed over, or kept
for later, if the numbers in it are not too great. -/
namespace Scrollback

namespace Toml

-- A value that stands in another one, or is that one.
inductive Inside (w : Value) : Value → Prop where
  | here : Inside w w
  | item {b : Bool} {items : List Value} {v : Value} (member : v ∈ items) (inside : Inside w v) :
      Inside w (.array b items)
  | entry {o : Origin} {entries : List (String × Value)} {name : String} {v : Value}
      (member : (name, v) ∈ entries) (inside : Inside w v) : Inside w (.table o entries)

theorem insideArray {w : Value} {b : Bool} {items : List Value} :
    Inside w (.array b items) ↔ w = .array b items ∨ ∃ v ∈ items, Inside w v := by
  constructor
  · intro inside
    cases inside with
    | here => exact .inl rfl
    | item member inside => exact .inr ⟨_, member, inside⟩
  · rintro (rfl | ⟨v, member, inside⟩)
    · exact .here
    · exact .item member inside

theorem insideTable {w : Value} {o : Origin} {entries : List (String × Value)} :
    Inside w (.table o entries) ↔ w = .table o entries ∨ ∃ entry ∈ entries, Inside w entry.2 := by
  constructor
  · intro inside
    cases inside with
    | here => exact .inl rfl
    | entry member inside => exact .inr ⟨_, member, inside⟩
  · rintro (rfl | ⟨⟨name, v⟩, member, inside⟩)
    · exact .here
    · exact .entry member inside

def Throughout (P : Value → Prop) (v : Value) : Prop := ∀ w, Inside w v → P w

section Throughout

variable {P : Value → Prop} {v : Value}

theorem throughoutLeaf (leaf : ∀ w, Inside w v → w = v) : Throughout P v ↔ P v := by
  constructor
  · exact fun holds => holds v .here
  · intro holds w inside
    rwa [leaf w inside]

theorem throughoutArray {b : Bool} {items : List Value} :
    Throughout P (.array b items) ↔ P (.array b items) ∧ ∀ v ∈ items, Throughout P v := by
  simp only [Throughout, insideArray, forall_eq_or_imp, forall_exists_index, and_imp]
  exact and_congr_right fun _ => ⟨fun each v member w => each w v member,
    fun each w v member => each v member w⟩

theorem throughoutTable {o : Origin} {entries : List (String × Value)} :
    Throughout P (.table o entries) ↔
      P (.table o entries) ∧ ∀ entry ∈ entries, Throughout P entry.2 := by
  simp only [Throughout, insideTable, forall_eq_or_imp, forall_exists_index, and_imp]
  exact and_congr_right fun _ => ⟨fun each entry member w => each w entry member,
    fun each w entry member => each entry member w⟩

end Throughout

end Toml

namespace Config.Decode

open Toml (Value Inside Throughout throughoutLeaf throughoutArray throughoutTable)

section Numbers

def Bounded (low high : Int) : Value → Prop
  | .integer n => low ≤ n ∧ n ≤ high
  | .float text => Toml.Scalar.isInfinite text = false
  | _ => True

mutual

theorem skipOk (low high : Int) :
    ∀ v : Value, skip low high v = .ok () ↔ Throughout (Bounded low high) v
  | .integer n => by
    rw [skip, throughoutLeaf (by rintro w ⟨⟩; rfl), Bounded]
    simp
  | .float text => by
    rw [skip, throughoutLeaf (by rintro w ⟨⟩; rfl), Bounded]
    simp
  | .array _ items => by
    rw [skip, itemsOk low high items, throughoutArray]
    exact (and_iff_right trivial).symm
  | .table _ entries => by
    rw [skip, entriesOk low high entries, throughoutTable]
    exact (and_iff_right trivial).symm
  | .string _ | .boolean _ | .time _ => by
    rw [throughoutLeaf (by rintro w ⟨⟩; rfl)]
    exact iff_of_true rfl trivial

theorem itemsOk (low high : Int) : ∀ items : List Value,
    skipItems low high items = .ok () ↔ ∀ v ∈ items, Throughout (Bounded low high) v
  | [] => iff_of_true rfl (List.forall_mem_nil _)
  | v :: rest => by
    rw [skipItems, boundValue, List.forall_mem_cons, ← skipOk low high v, ← itemsOk low high rest]
    exact Unique.exists_iff

theorem entriesOk (low high : Int) : ∀ entries : List (String × Value),
    skipEntries low high entries = .ok () ↔
      ∀ entry ∈ entries, Throughout (Bounded low high) entry.2
  | [] => iff_of_true rfl (List.forall_mem_nil _)
  | (_, v) :: rest => by
    rw [skipEntries, boundValue, List.forall_mem_cons, ← skipOk low high v,
      ← entriesOk low high rest]
    exact Unique.exists_iff

end

-- What can be kept for later: the integers in it fit in 64 bits, with or without a sign.
def Held : Value → Prop := Throughout (Bounded (-Int.pow 2 63) (Int.pow 2 64 - 1))

theorem keepOk (v : Value) : keep v = .ok () ↔ Held v := skipOk _ _ v

end Numbers

end Config.Decode

end Scrollback
