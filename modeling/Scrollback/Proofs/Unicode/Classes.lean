import Scrollback.Unicode.Class

/-! No blank is a word character. Beyond ASCII this is a fact about a written table, which
is checked along its text: an entry ends a range, and every range has to be clear of blanks. -/
namespace Scrollback.Unicode
namespace RangeTable

-- Whether the range that ends here, if one does, passes.
def passes (ok : Nat × Nat → Bool) : Option Nat → Option Nat → Bool
  | some first, some last => ok (first, last)
  | none, some only => ok (only, only)
  | _, none => true

-- Whether all ranges pass that the text adds after what was read.
def allPass (ok : Nat × Nat → Bool) : Option Nat → Option Nat → List Char → Bool
  | first, value, [] => passes ok first value
  | first, value, c :: cs =>
    match hexDigit? c with
    | some d => allPass ok first (some (value.getD 0 * 16 + d)) cs
    | none =>
      if c = '-' then allPass ok value none cs
      else passes ok first value && allPass ok none none cs

theorem closePasses {ok : Nat × Nat → Bool} {r : Reading} (before : ∀ x ∈ r.ranges, ok x)
    (last : passes ok r.first r.value) : ∀ x ∈ r.close.ranges, ok x := by
  obtain ⟨ranges, first, value⟩ := r
  cases value with
  | none => cases first <;> exact before
  | some n =>
    cases first <;>
      (intro x member
       simp only [Reading.close, Array.mem_push] at member
       rcases member with old | rfl
       · exact before x old
       · exact last)

theorem foldPasses {ok : Nat × Nat → Bool} (cs : List Char) (r : Reading)
    (before : ∀ x ∈ r.ranges, ok x) (rest : allPass ok r.first r.value cs) :
    ∀ x ∈ (cs.foldl Reading.step r).close.ranges, ok x := by
  induction cs generalizing r with
  | nil => exact closePasses before rest
  | cons c cs ih =>
    rw [List.foldl_cons]
    rw [allPass] at rest
    cases digit : hexDigit? c with
    | some d =>
      simp only [digit] at rest
      exact ih _ (by simpa only [Reading.step, digit] using before)
        (by simpa only [Reading.step, digit] using rest)
    | none =>
      simp only [digit] at rest
      by_cases hyphen : c = '-'
      · subst hyphen
        simp only [if_true] at rest
        exact ih _ (by simpa only [Reading.step, digit, if_true] using before)
          (by simpa only [Reading.step, digit, if_true] using rest)
      · simp only [hyphen, if_false, Bool.and_eq_true] at rest
        have closed := closePasses before rest.1
        refine ih _ ?_ ?_ <;> simp only [Reading.step, digit, hyphen, if_false]
        · exact closed
        · have fresh : r.close.first = none ∧ r.close.value = none := by
            unfold Reading.close
            split <;> exact ⟨rfl, rfl⟩
          simpa only [fresh.1, fresh.2] using rest.2

theorem ofTextPasses {ok : Nat × Nat → Bool} {text : String} {cs : List Char}
    (written : text = String.ofList cs) (pass : allPass ok none none cs) :
    ∀ x ∈ (ofText text).ranges, ok x := by
  rw [ofText, String.foldl_eq_foldl_toList, written, String.toList_ofList]
  exact foldPasses cs {} (by simp) pass

theorem searchHit {ranges : Array (Nat × Nat)} {n low high : Nat}
    (hit : search ranges n low high = true) : ∃ x ∈ ranges, x.1 ≤ n ∧ n ≤ x.2 := by
  fun_induction search ranges n low high with
  | case1 => contradiction
  | case2 low high more middle first last found before ih => exact ih hit
  | case3 low high more middle first last found notBefore after ih => exact ih hit
  | case4 low high more middle first last found notBefore notAfter =>
    exact ⟨(first, last), Array.mem_of_getElem? found, by omega, by omega⟩
  | case5 => contradiction

theorem containsHit {table : RangeTable} {c : Char} (hit : table.contains c = true) :
    ∃ x ∈ table.ranges, x.1 ≤ c.toNat ∧ c.toNat ≤ x.2 :=
  searchHit hit

end RangeTable

def blankRanges : List (Nat × Nat) :=
  [(9, 13), (0x20, 0x20), (0x85, 0x85), (0xA0, 0xA0), (0x1680, 0x1680), (0x2000, 0x200A),
    (0x2028, 0x2029), (0x202F, 0x202F), (0x205F, 0x205F), (0x3000, 0x3000)]

theorem blankInRange {c : Char} (blank : isBlank c = true) :
    ∃ b ∈ blankRanges, b.1 ≤ c.toNat ∧ c.toNat ≤ b.2 := by
  simp only [isBlank, Bool.or_eq_true, Bool.and_eq_true, decide_eq_true_eq, beq_iff_eq] at blank
  simp only [blankRanges, List.mem_cons, List.not_mem_nil, or_false, exists_eq_or_imp,
    exists_eq_left]
  omega

def clearOfBlanks (x : Nat × Nat) : Bool := blankRanges.all fun b => b.2 < x.1 || x.2 < b.1

set_option maxRecDepth 1000000 in
theorem wordTableClear : ∀ x ∈ wordTable.ranges, clearOfBlanks x := by
  unfold wordTable
  refine RangeTable.ofTextPasses rfl ?_
  decide +kernel

theorem asciiWordNotBlank : ∀ n < 0x80, isBlank (Char.ofNat n) = true →
    isWord (Char.ofNat n) = false := by
  decide

theorem blankNotWord {c : Char} (blank : isBlank c = true) : isWord c = false := by
  by_cases ascii : c.toNat < 0x80
  · have h := asciiWordNotBlank c.toNat ascii
    rw [Char.ofNat_toNat] at h
    exact h blank
  · rw [isWord, if_neg ascii, Bool.eq_false_iff]
    intro word
    obtain ⟨x, member, low, high⟩ := RangeTable.containsHit word
    obtain ⟨b, range, first, last⟩ := blankInRange blank
    have apart := List.all_eq_true.mp (wordTableClear x member) b range
    simp only [Bool.or_eq_true, decide_eq_true_eq] at apart
    omega

end Scrollback.Unicode
