import Mathlib
import Scrollback.Text.Trim
import Scrollback.Unicode.Lowercase

/-! Names that are the same up to the case of their ASCII letters. Such names have one lower-case form,
since a letter counts for a sigma beside it in both of its cases and all other characters are the
same. Other names can have one lower-case form too; nothing is said of those. -/
namespace Scrollback.Text
open Unicode

-- The same character, or an ASCII letter in two cases.
def SameLetter (c d : Char) : Prop := c = d ∨ c.isAlpha = true ∧ c.toLower = d.toLower

def SameName (a b : String) : Prop := List.Forall₂ SameLetter a.toList b.toList

theorem otherLetter {c d : Char} (same : c.toLower = d.toLower) : c.isAlpha = d.isAlpha := by
  rw [← Char.isAlpha_toLower_eq_isAlpha, same, Char.isAlpha_toLower_eq_isAlpha]

theorem lowerPlain {c : Char} (plain : c.isAlpha = false) : c.toLower = c :=
  Char.toLower_eq_of_not_isUpper fun upper => by simp [Char.isAlpha, upper] at plain

theorem lowerIff (c d : Char) : c.toLower = d.toLower ↔ SameLetter c d := by
  constructor
  · intro same
    cases letter : c.isAlpha with
    | true => exact .inr ⟨letter, same⟩
    | false =>
      have other : d.isAlpha = false := by rw [← otherLetter same, letter]
      rw [lowerPlain letter, lowerPlain other] at same
      exact .inl same
  · rintro (rfl | ⟨-, same⟩)
    · rfl
    · exact same

theorem sameNameIff (a b : String) : sameName a b = true ↔ SameName a b := by
  rw [sameName, beq_iff_eq, ← List.forall₂_eq_eq_eq, List.forall₂_map_left_iff,
    List.forall₂_map_right_iff, SameName]
  simp only [lowerIff]

theorem asciiLetter : ∀ n < 0x80, (Char.ofNat n).isAlpha = true →
    isCaseIgnorable (Char.ofNat n) = false := by
  decide

theorem letterCode {c : Char} (letter : c.isAlpha = true) : c.toNat < 0x80 := by
  simp only [Char.isAlpha, Char.isUpper, Char.isLower, Bool.or_eq_true, Bool.and_eq_true,
    decide_eq_true_eq, ge_iff_le, UInt32.le_iff_toNat_le, Char.reduceVal, UInt32.reduceToNat,
    Char.toNat_val] at letter
  omega

-- A letter stands for itself in both cases, as far as the sigmas beside it go.
theorem letterStands {c : Char} (letter : c.isAlpha = true) :
    isCaseIgnorable c = false ∧ isCased c = true ∧ lowercaseForm c = [c.toLower] ∧ c ≠ 'Σ' := by
  have ascii := letterCode letter
  refine ⟨?_, ?_, ?_, ?_⟩
  · have stands := asciiLetter c.toNat ascii
    rw [Char.ofNat_toNat] at stands
    exact stands letter
  · rw [isCased, if_pos ascii, letter]
  · rw [lowercaseForm, if_pos ascii]
  · rintro rfl
    contradiction

theorem startsSame {cs ds : List Char} (same : List.Forall₂ SameLetter cs ds) :
    startsCased cs = startsCased ds := by
  induction same with
  | nil => rfl
  | @cons c d cs ds here rest ih =>
    rcases here with rfl | ⟨letter, same⟩
    · cases skipped : isCaseIgnorable c with
      | true => simpa [startsCased, skipped] using ih
      | false => simp [startsCased, skipped]
    · have other := letterStands ((otherLetter same).symm.trans letter)
      have letter := letterStands letter
      simp [startsCased, letter, other]

theorem lowercaseAfterSame {before before' cs ds : List Char}
    (left : List.Forall₂ SameLetter before before') (same : List.Forall₂ SameLetter cs ds) :
    lowercaseAfter before cs = lowercaseAfter before' ds := by
  induction same generalizing before before' with
  | nil => rfl
  | cons here rest ih =>
    rw [lowercaseAfter, lowercaseAfter, ih (.cons here left)]
    rcases here with rfl | ⟨letter, same⟩
    · rw [isFinalSigma, isFinalSigma, startsSame left, startsSame rest]
    · have other := letterStands ((otherLetter same).symm.trans letter)
      have letter := letterStands letter
      simp [letter, other, same]

theorem lowercaseSame {a b : String} (same : SameName a b) : lowercase a = lowercase b := by
  rw [lowercase, lowercase, lowercaseAfterSame .nil same]

end Scrollback.Text
