import Scrollback.Proofs.Link.Scanner
import Scrollback.Proofs.Unicode.Classes

/-! A blank or an angle bracket ends every link, and it stands in none. What is before it and what is
after it are scanned as if each were a text of its own. -/
namespace Scrollback.Link
open Unicode

-- A blank or an angle bracket.
def Breaks (c : Char) : Prop := isBlank c = true ∨ c = '<' ∨ c = '>'

namespace Breaks

variable {d : Char} {cs : List Char}

theorem unlike (breaks : Breaks d) {x : Char} (letter : x ∈ letters) : alike x d = false := by
  have forms : ∀ x ∈ letters, ∀ c ∈ forms x, isBlank c = false ∧ c ≠ '<' ∧ c ≠ '>' := by decide
  refine Bool.eq_false_iff.mpr fun same => ?_
  obtain ⟨blank, left, right⟩ := forms x letter d (alikeForm letter same)
  rcases breaks with yes | rfl | rfl
  · cases blank.symm.trans yes
  · contradiction
  · contradiction

theorem outer (breaks : Breaks d) : isInner d = false := by
  have bar : (isBlank d || (d == '<' || d == '>')) = true := by
    rcases breaks with blank | rfl | rfl
    · rw [blank, Bool.true_or]
    · decide
    · decide
  have member : (foldingClass d).any
      (Regex.CharSet.union .blank (.union (.single '<') (.single '>'))).contains = true := by
    refine List.any_eq_true.mpr ⟨d, foldingSelf d, ?_⟩
    simpa only [Regex.CharSet.contains, Regex.singleContains] using bar
  rw [isInner, innerSet, Regex.CharSet.contains, Regex.CharSet.contains, member]
  rfl

theorem notWord (breaks : Breaks d) : isWord d = false := by
  rcases breaks with blank | rfl | rfl
  · exact blankNotWord blank
  · decide
  · decide

theorem opensSame (breaks : Breaks d) {word : List Char} (known : ∀ x ∈ word, x ∈ letters)
    (cs more : List Char) : opens word (cs ++ d :: more) = opens word cs := by
  induction word generalizing cs with
  | nil => rw [opens, opens]
  | cons x word ih =>
    obtain ⟨letter, known⟩ := List.forall_mem_cons.mp known
    cases cs with
    | nil =>
      rw [List.nil_append, opens, opens, breaks.unlike letter]
      rfl
    | cons c cs => rw [List.cons_append, opens, opens, ih known]

theorem openingSame (breaks : Breaks d) (cs more : List Char) :
    opening? openings (cs ++ d :: more) = opening? openings cs :=
  openingCongr fun word listed => breaks.opensSame (openingsKnown word listed) cs more

theorem innerSame (breaks : Breaks d) (cs more : List Char) :
    (cs ++ d :: more).takeWhile isInner = cs.takeWhile isInner := by
  have stop : (d :: more).takeWhile isInner = [] :=
    List.takeWhile_cons_of_neg (by simp [breaks.outer])
  rw [List.takeWhile_append, stop]
  split
  · rename_i whole
    rw [List.append_nil, (List.takeWhile_prefix isInner).eq_of_length whole]
  · rfl

theorem sizeSame (breaks : Breaks d) (cs more : List Char) :
    linkSize? (cs ++ d :: more) = linkSize? cs := by
  rw [linkSize?, linkSize?, breaks.openingSame]
  cases opening : opening? openings cs with
  | none => rfl
  | some n =>
    have fits := openingFits opening
    simp only [Option.bind_some, List.drop_append_of_le_length fits, breaks.innerSame]

theorem hereSame (breaks : Breaks d) (inWord : Bool) (cs more : List Char) :
    linkHere? inWord (cs ++ d :: more) = linkHere? inWord cs := by
  rw [linkHere?, linkHere?, breaks.sizeSame]

-- The next link is in the part before, and if there is none, it is the first one in the part after.
theorem nextSame (breaks : Breaks d) (inWord : Bool) (cs more : List Char) :
    nextLink? inWord (cs ++ d :: more) =
      (nextLink? inWord cs).or ((nextLink? false more).map (shift (cs.length + 1))) := by
  induction cs generalizing inWord with
  | nil =>
    have here : linkHere? inWord (d :: more) = none :=
      (breaks.hereSame inWord [] more).trans (ite_self _)
    rw [List.nil_append, nextLater here, breaks.notWord]
    rfl
  | cons c cs ih =>
    have here : linkHere? inWord (c :: (cs ++ d :: more)) = linkHere? inWord (c :: cs) :=
      breaks.hereSame inWord (c :: cs) more
    cases first : linkHere? inWord (c :: cs) with
    | some n =>
      rw [nextFirst first, List.cons_append, nextFirst (here.trans first)]
      rfl
    | none =>
      rw [nextLater first, List.cons_append, nextLater (here.trans first), ih, Option.map_or,
        Option.map_map, shiftShift, List.length_cons, Nat.add_comm 1]

-- Without a link before the break, one search goes over both parts.
theorem textsGap (breaks : Breaks d) {cs more : List Char} (none : nextLink? false cs = none)
    (complete : (linkTexts (cs ++ d :: more)).2 = true) :
    (linkTexts (cs ++ d :: more)).1 = (linkTexts more).1 := by
  have next := breaks.nextSame false cs more
  rw [none, Option.none_or] at next
  cases found : nextLink? false more with
  | none =>
    rw [found] at next
    rw [textsNone next, textsNone found]
  | some place =>
    obtain ⟨k, n⟩ := place
    have past (m : Nat) : (cs ++ d :: more).drop (cs.length + 1 + m) = more.drop m := by
      rw [Nat.add_assoc, List.drop_length_add_append, Nat.add_comm 1, List.drop_succ_cons]
    have next : nextLink? false (cs ++ d :: more) = some (cs.length + 1 + k, n) := by
      rw [next, found]
      rfl
    rw [textsNext next, Nat.add_assoc _ k n, past, past] at complete ⊢
    rw [textsNext found]
    split at complete
    · rename_i near
      rw [if_pos near, if_pos (by omega)]
    · cases complete

theorem textsSame (breaks : Breaks d) {cs more : List Char}
    (complete : (linkTexts (cs ++ d :: more)).2 = true) :
    (linkTexts (cs ++ d :: more)).1 = (linkTexts cs).1 ++ (linkTexts more).1 := by
  induction size : cs.length using Nat.strongRecOn generalizing cs with
  | ind size ih =>
    cases found : nextLink? false cs with
    | none => rw [breaks.textsGap found complete, textsNone found, List.nil_append]
    | some place =>
      obtain ⟨k, n⟩ := place
      obtain ⟨some, fits⟩ := nextFits found
      have next := breaks.nextSame false cs more
      rw [found, Option.some_or] at next
      have rest : (cs ++ d :: more).drop (k + n) = cs.drop (k + n) ++ d :: more :=
        List.drop_append_of_le_length fits
      have shorter : (cs.drop (k + n)).length < cs.length := by
        rw [List.length_drop]
        omega
      rw [textsNext next, frontKept fits, rest] at complete ⊢
      rw [textsNext found]
      split at complete
      · rename_i near
        rw [if_pos near, if_pos near, ih _ (by omega) complete rfl]
        rfl
      · cases complete

end Breaks

end Scrollback.Link
