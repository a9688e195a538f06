import Scrollback.Proofs.Unicode.Classes
import Scrollback.Unicode.Lowercase

/-! Lower-case forms of texts that stand in other texts. Only a capital sigma has two forms, and which
one it takes is decided by the nearest characters on both sides that are not skipped. A capital
sigma is not skipped itself, so it hides all that is behind it. -/
namespace Scrollback.Unicode

-- The form of a text with others around it; the one before is read backwards, as for a sigma.
def lowercaseWithin (before after : List Char) : List Char → List Char
  | [] => []
  | c :: cs =>
    let form :=
      if c = 'Σ' then [if isFinalSigma before (cs ++ after) then 'ς' else 'σ'] else lowercaseForm c
    form ++ lowercaseWithin (c :: before) after cs

theorem lowercaseAppend (before cs ds : List Char) :
    lowercaseAfter before (cs ++ ds) =
      lowercaseWithin before ds cs ++ lowercaseAfter (cs.reverse ++ before) ds := by
  induction cs generalizing before with
  | nil => rfl
  | cons c cs ih => simp [lowercaseAfter, lowercaseWithin, ih]

theorem lowercaseWhole (before cs : List Char) :
    lowercaseAfter before cs = lowercaseWithin before [] cs := by
  have whole := lowercaseAppend before cs []
  rwa [List.append_nil, lowercaseAfter, List.append_nil] at whole

theorem withinAppend (before after cs ds : List Char) :
    lowercaseWithin before after (cs ++ ds) =
      lowercaseWithin before (ds ++ after) cs ++ lowercaseWithin (cs.reverse ++ before) after ds := by
  induction cs generalizing before with
  | nil => rfl
  | cons c cs ih => simp [lowercaseWithin, ih]

/- What is around a text counts for its sigmas only. -/
theorem withinSame {cs before after before' after' : List Char}
    (judged : ∀ front back, cs = front ++ 'Σ' :: back →
      isFinalSigma (front.reverse ++ before) (back ++ after) =
        isFinalSigma (front.reverse ++ before') (back ++ after')) :
    lowercaseWithin before after cs = lowercaseWithin before' after' cs := by
  induction cs generalizing before before' with
  | nil => rfl
  | cons c cs ih =>
    have rest : lowercaseWithin (c :: before) after cs = lowercaseWithin (c :: before') after' cs := by
      refine ih fun front back cut => ?_
      have further := judged (c :: front) back (by rw [cut]; rfl)
      simpa using further
    unfold lowercaseWithin
    rw [rest]
    by_cases sigma : c = 'Σ'
    · have first : isFinalSigma before (cs ++ after) = isFinalSigma before' (cs ++ after') :=
        judged [] cs (by rw [sigma]; rfl)
      rw [first]
    · simp only [if_neg sigma]

theorem startsAppend (cs ds : List Char) :
    startsCased (cs ++ ds) = if cs.all isCaseIgnorable then startsCased ds else startsCased cs := by
  induction cs with
  | nil => rfl
  | cons c cs ih =>
    cases skipped : isCaseIgnorable c with
    | true => simpa [startsCased, skipped] using ih
    | false => simp [startsCased, skipped]

theorem startsSkipped {cs : List Char} (skipped : cs.all isCaseIgnorable = true) :
    startsCased cs = false := by
  have nothing := startsAppend cs []
  rwa [List.append_nil, if_pos skipped] at nothing

theorem startsStands {cs ds : List Char} (stands : cs.all isCaseIgnorable = false) :
    startsCased (cs ++ ds) = startsCased cs := by
  rw [startsAppend, stands]
  rfl

def clearOfSigma (x : Nat × Nat) : Bool := x.2 < 0x3A3 || 0x3A3 < x.1

set_option maxRecDepth 1000000 in
theorem ignorableTableClear : ∀ x ∈ caseIgnorableTable.ranges, clearOfSigma x := by
  unfold caseIgnorableTable
  refine RangeTable.ofTextPasses rfl ?_
  decide +kernel

theorem sigmaStands : isCaseIgnorable 'Σ' = false := by
  have beyond : ¬ ('Σ'.toNat < 0x80) := by decide
  rw [isCaseIgnorable, if_neg beyond, Bool.eq_false_iff]
  intro skipped
  obtain ⟨x, member, low, high⟩ := RangeTable.containsHit skipped
  have clear := ignorableTableClear x member
  have code : 'Σ'.toNat = 0x3A3 := by decide
  simp only [clearOfSigma, Bool.or_eq_true, decide_eq_true_eq] at clear
  omega

theorem sigmaHides (cs ds es : List Char) :
    startsCased (cs ++ 'Σ' :: ds) = startsCased (cs ++ 'Σ' :: es) := by
  have stands : (cs ++ ['Σ']).all isCaseIgnorable = false := by simp [sigmaStands]
  have hidden (fs : List Char) : startsCased (cs ++ 'Σ' :: fs) = startsCased (cs ++ ['Σ']) := by
    have joined : startsCased (cs ++ ['Σ'] ++ fs) = startsCased (cs ++ ['Σ']) := startsStands stands
    rwa [List.append_assoc, List.singleton_append] at joined
  rw [hidden ds, hidden es]

theorem noSigma {cs : List Char} (skipped : cs.all isCaseIgnorable = true) : 'Σ' ∉ cs := by
  intro member
  have sigma := List.all_eq_true.mp skipped 'Σ' member
  rw [sigmaStands] at sigma
  contradiction

def sigmaForm (before after : List Char) : Char := if isFinalSigma before after then 'ς' else 'σ'

/- Other texts around a sigma and the text it is in change this sigma only, where on each side no
other sigma sees the difference. -/
theorem aroundSigma {front back before after before' after' : List Char}
    (left : 'Σ' ∉ front ∨ before = before') (right : 'Σ' ∉ back ∨ after = after') :
    ∃ u v, lowercaseWithin before after (front ++ 'Σ' :: back) =
        u ++ sigmaForm (front.reverse ++ before) (back ++ after) :: v ∧
      lowercaseWithin before' after' (front ++ 'Σ' :: back) =
        u ++ sigmaForm (front.reverse ++ before') (back ++ after') :: v := by
  have first : lowercaseWithin before ('Σ' :: back ++ after) front =
      lowercaseWithin before' ('Σ' :: back ++ after') front := by
    refine withinSame fun l r cut => ?_
    rcases left with none | rfl
    · exact absurd (cut ▸ List.mem_append_right l List.mem_cons_self) none
    · rw [isFinalSigma, isFinalSigma, List.cons_append, List.cons_append, sigmaHides]
  have last : lowercaseWithin ('Σ' :: (front.reverse ++ before)) after back =
      lowercaseWithin ('Σ' :: (front.reverse ++ before')) after' back := by
    refine withinSame fun l r cut => ?_
    rcases right with none | rfl
    · exact absurd (cut ▸ List.mem_append_right l List.mem_cons_self) none
    · rw [isFinalSigma, isFinalSigma, sigmaHides]
  refine ⟨lowercaseWithin before ('Σ' :: back ++ after) front,
    lowercaseWithin ('Σ' :: (front.reverse ++ before)) after back, ?_, ?_⟩
  · rw [withinAppend, lowercaseWithin]
    rfl
  · rw [withinAppend, lowercaseWithin, first, last]
    rfl

/- A capital sigma whose form is decided by what stands beside the text: it comes first, up to
skipped characters, and could end a word there; or it comes last and ends one. -/
inductive LooseSigma (cs : List Char) : Prop
  | opening (front back : List Char) (cut : cs = front ++ 'Σ' :: back)
      (skipped : front.all isCaseIgnorable = true) (ends : startsCased back = false)
  | closing (front back : List Char) (cut : cs = front ++ 'Σ' :: back)
      (skipped : back.all isCaseIgnorable = true) (ends : startsCased front.reverse = true)

theorem LooseSigma.mem {cs : List Char} (loose : LooseSigma cs) : 'Σ' ∈ cs := by
  cases loose with
  | opening front back cut => exact cut ▸ List.mem_append_right front List.mem_cons_self
  | closing front back cut => exact cut ▸ List.mem_append_right front List.mem_cons_self

-- With letters on neither side a text has the form that it has alone.
theorem aloneSame {before after cs : List Char} (left : startsCased before = false)
    (right : startsCased after = false) :
    lowercaseWithin before after cs = lowercaseWithin [] [] cs := by
  have alone {ds es : List Char} (free : startsCased es = false) :
      startsCased (ds ++ es) = startsCased ds := by
    rw [startsAppend, free]
    split
    · rename_i skipped
      exact (startsSkipped skipped).symm
    · rfl
  refine withinSame fun front back _ => ?_
  rw [isFinalSigma, alone left, alone right, isFinalSigma, List.append_nil, List.append_nil]

theorem settledSame {cs : List Char} (settled : ¬ LooseSigma cs) (before after : List Char) :
    lowercaseWithin before after cs = lowercaseWithin [] [] cs := by
  refine withinSame fun front back cut => ?_
  rw [isFinalSigma, isFinalSigma, List.append_nil, List.append_nil]
  cases skipped : front.all isCaseIgnorable with
  | true =>
    -- Nothing of this text decides what is before the sigma, so a letter has to follow it.
    have cased : startsCased back = true :=
      eq_true_of_ne_false fun ends => settled (.opening front back cut skipped ends)
    have stands : back.all isCaseIgnorable = false := by
      refine Bool.eq_false_iff.mpr fun all => ?_
      rw [startsSkipped all] at cased
      contradiction
    rw [startsStands stands, cased]
    simp
  | false =>
    have stands : front.reverse.all isCaseIgnorable = false := by rw [List.all_reverse, skipped]
    rw [startsStands stands]
    cases rest : back.all isCaseIgnorable with
    | true =>
      have uncased : startsCased front.reverse = false :=
        eq_false_of_ne_true fun ends => settled (.closing front back cut rest ends)
      rw [uncased]
      rfl
    | false => rw [startsStands rest]

end Scrollback.Unicode
