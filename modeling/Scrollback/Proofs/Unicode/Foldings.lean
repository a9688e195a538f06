import Scrollback.Unicode.Folding

/-! Characters that are the same up to folding. Each is one of its own class, and there are two classes
that have ASCII characters and others, those of k and of s. The second is a fact about the written
table, which is checked row by row. -/
namespace Scrollback.Unicode

section Table

variable {P : Nat → List Char → Prop} {table : Std.HashMap Nat (List Char)}

theorem insertedEach {ns : List Nat} {cs : List Char} (before : ∀ n v, table.get? n = some v → P n v)
    (each : ∀ n ∈ ns, P n cs) :
    ∀ n v, (ns.foldl (fun table n => table.insert n cs) table).get? n = some v → P n v := by
  induction ns generalizing table with
  | nil => exact before
  | cons m ns ih =>
    obtain ⟨first, others⟩ := List.forall_mem_cons.mp each
    refine ih (fun n v found => ?_) others
    rw [Std.HashMap.get?_insert] at found
    split at found
    · rename_i same
      cases Option.some.inj found
      exact eq_of_beq same ▸ first
    · exact before n v found

theorem foldedEach {entries : List String} (before : ∀ n v, table.get? n = some v → P n v)
    (each : ∀ e ∈ entries, ∀ n ∈ foldingMembers e, P n ((foldingMembers e).map Char.ofNat)) :
    ∀ n v, (entries.foldl (fun table written =>
      let members := foldingMembers written
      members.foldl (fun table n => table.insert n (members.map Char.ofNat)) table) table).get? n =
        some v → P n v := by
  induction entries generalizing table with
  | nil => exact before
  | cons e entries ih =>
    obtain ⟨first, others⟩ := List.forall_mem_cons.mp each
    exact ih (insertedEach before first) others

end Table

-- What the table tells of a character is an entry in which it stands.
theorem foldingEntry {n : Nat} {cs : List Char} (found : foldingTable.get? n = some cs) :
    ∃ row ∈ foldingClasses, ∃ e ∈ tableEntries row,
      n ∈ foldingMembers e ∧ cs = (foldingMembers e).map Char.ofNat := by
  refine foldedEach (P := fun n cs => ∃ row ∈ foldingClasses, ∃ e ∈ tableEntries row,
    n ∈ foldingMembers e ∧ cs = (foldingMembers e).map Char.ofNat) ?_ ?_ n cs found
  · intro n v found
    simp at found
  · intro e member n inside
    obtain ⟨row, listed, written⟩ := List.mem_flatMap.mp member
    exact ⟨row, listed, e, written, inside, rfl⟩

theorem asciiSelf : ∀ n < 0x80, Char.ofNat n ∈ foldingClass (Char.ofNat n) := by decide

theorem foldingSelf (c : Char) : c ∈ foldingClass c := by
  by_cases ascii : c.toNat < 0x80
  · have self := asciiSelf c.toNat ascii
    rwa [Char.ofNat_toNat] at self
  · rw [foldingClass, if_neg ascii]
    cases found : foldingTable.get? c.toNat with
    | none => exact List.mem_singleton_self c
    | some cs =>
      obtain ⟨-, -, e, -, inside, rfl⟩ := foldingEntry found
      exact List.mem_map.mpr ⟨c.toNat, inside, Char.ofNat_toNat c⟩

/-! Rows of the table, as lists of characters. -/

def digitsValue (digits : List Char) : Nat :=
  digits.foldl (fun n c => n * 16 + (hexDigit? c).getD 0) 0

def rowMembers (row : List Char) : List (List Nat) :=
  ((row.splitOnP fun c => c == ' ' || c == '\n').filter (!·.isEmpty)).map fun written =>
    (written.splitOn '=').map digitsValue

theorem rowRead (row : List Char) :
    (tableEntries (String.ofList row)).map foldingMembers = rowMembers row := by
  have value (digits : List Char) : hexValue (String.ofList digits) = digitsValue digits := by
    rw [hexValue, String.foldl_eq_foldl_toList, String.toList_ofList, digitsValue]
  have members (written : List Char) :
      foldingMembers (String.ofList written) = (written.splitOn '=').map digitsValue := by
    simp only [foldingMembers, String.toList_ofList, Function.comp_def, value]
  simp only [tableEntries, String.toList_ofList, List.map_map, Function.comp_def, members,
    rowMembers]

-- The letters k and s, with the Kelvin sign and the long s.
def mixed : List (List Nat) := [[0x4B, 0x6B, 0x212A], [0x53, 0x73, 0x17F]]

def standsApart (members : List Nat) : Bool :=
  members.all (· < 0x80) || members.all (fun n => 0x80 ≤ n && decide n.isValidChar) ||
    mixed.contains members

theorem rowApart {text : String} {row : List Char} (written : text = String.ofList row)
    (apart : (rowMembers row).all standsApart = true) :
    ∀ e ∈ tableEntries text, standsApart (foldingMembers e) = true := by
  intro e member
  refine List.all_eq_true.mp apart _ ?_
  rw [← rowRead, ← written]
  exact List.mem_map_of_mem member

set_option maxRecDepth 100000 in
theorem tableApart : ∀ row ∈ foldingClasses, ∀ e ∈ tableEntries row,
    standsApart (foldingMembers e) = true := by
  unfold foldingClasses
  repeat refine List.forall_mem_cons.mpr ⟨rowApart rfl (by decide +kernel), ?_⟩
  exact List.forall_mem_nil _

theorem foldingAscii {c d : Char} (same : d ∈ foldingClass c) (ascii : d.toNat < 0x80) :
    c.toNat < 0x80 ∨ ∃ members ∈ mixed, c.toNat ∈ members ∧ d.toNat ∈ members := by
  by_cases beyond : c.toNat < 0x80
  · exact .inl beyond
  refine .inr ?_
  rw [foldingClass, if_neg beyond] at same
  cases found : foldingTable.get? c.toNat with
  | none =>
    rw [found] at same
    rw [List.mem_singleton.mp same] at ascii
    contradiction
  | some cs =>
    obtain ⟨row, listed, e, written, inside, rfl⟩ := foldingEntry found
    rw [found] at same
    obtain ⟨n, member, rfl⟩ := List.mem_map.mp same
    have apart := tableApart row listed e written
    simp only [standsApart, Bool.or_eq_true, Bool.and_eq_true, List.all_eq_true, decide_eq_true_eq,
      List.contains_iff_mem] at apart
    rcases apart with (narrow | wide) | both
    · exact absurd (narrow _ inside) beyond
    · obtain ⟨far, valid⟩ := wide n member
      have code : (Char.ofNat n).toNat = n := by
        rw [Char.ofNat, dif_pos valid]
        rfl
      omega
    · have code : ∀ members ∈ mixed, ∀ n ∈ members, (Char.ofNat n).toNat = n := by decide
      exact ⟨foldingMembers e, both, inside, by rwa [code _ both n member]⟩

end Scrollback.Unicode
