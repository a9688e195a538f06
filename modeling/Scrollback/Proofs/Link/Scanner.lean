import Scrollback.Proofs.Link.Pattern
import Scrollback.Proofs.Regex.Runs
import Scrollback.Proofs.Unicode.Foldings

/-! A scanner for links. A link is one of three openings and at least one character more, up to the
next blank or angle bracket, and it does not start inside a word. The scanner stands beside the
pattern for links; their agreement is not shown here. -/
namespace Scrollback.Link
open Unicode
open Regex (CharSet)

-- What is said of each character of a list is decided over the list.
instance (priority := 2000) eachDecidable {P : Char → Prop} [DecidablePred P] {cs : List Char} :
    Decidable (∀ c ∈ cs, P c) := List.decidableBAll P cs

/-! The letters of the openings, in any case. -/

def letters : List Char := "htps:/w.".toList

def alike (x c : Char) : Bool := (CharSet.folded (.single x)).contains c

-- The characters that are alike one of the letters.
def forms (x : Char) : List Char := if x = 's' then ['s', 'S', 'ſ'] else [x, x.toUpper]

theorem alikeClass (x c : Char) : alike x c = true ↔ x ∈ foldingClass c := by
  simp only [alike, CharSet.contains, List.any_eq_true, Regex.singleContains, beq_iff_eq,
    exists_eq_right]

theorem asciiForm : ∀ n < 0x80, ∀ x ∈ letters, alike x (Char.ofNat n) = true →
    Char.ofNat n ∈ forms x := by
  decide

theorem mixedForm : ∀ x ∈ letters, ∀ members ∈ mixed, x.toNat ∈ members →
    ∀ n ∈ members, Char.ofNat n ∈ forms x := by
  decide

theorem alikeForm {x c : Char} (letter : x ∈ letters) (same : alike x c = true) : c ∈ forms x := by
  have small : ∀ x ∈ letters, x.toNat < 0x80 := by decide
  rcases foldingAscii ((alikeClass x c).mp same) (small x letter) with
    ascii | ⟨members, listed, far, near⟩
  · have form := asciiForm c.toNat ascii x letter
    rw [Char.ofNat_toNat] at form
    exact form same
  · have form := mixedForm x letter members listed near c.toNat far
    rwa [Char.ofNat_toNat] at form

/-! Openings, and what comes after them. -/

def opens : List Char → List Char → Bool
  | [], _ => true
  | _ :: _, [] => false
  | x :: xs, c :: cs => alike x c && opens xs cs

def openings : List (List Char) := ["http://".toList, "https://".toList, "www.".toList]

def opening? (words : List (List Char)) (cs : List Char) : Option Nat :=
  (words.find? (opens · cs)).map List.length

def isInner (c : Char) : Bool := innerSet.contains c

-- The size of the link that starts here.
def linkSize? (cs : List Char) : Option Nat :=
  (opening? openings cs).bind fun n =>
    let m := ((cs.drop n).takeWhile isInner).length
    if m = 0 then none else some (n + m)

def linkHere? (inWord : Bool) (cs : List Char) : Option Nat := if inWord then none else linkSize? cs

def shift (m : Nat) (place : Nat × Nat) : Nat × Nat := (m + place.1, place.2)

-- Where the next link starts, and its size.
def nextLink? : Bool → List Char → Option (Nat × Nat)
  | _, [] => none
  | inWord, c :: cs =>
    match linkHere? inWord (c :: cs) with
    | some n => some (0, n)
    | none => (nextLink? (isWord c) cs).map (shift 1)

theorem openingLater (x c : Char) (words : List (List Char)) (cs : List Char) :
    opening? (words.map (x :: ·)) (c :: cs) =
      if alike x c then (opening? words cs).map (1 + ·) else none := by
  have test : (opens · (c :: cs)) ∘ (x :: ·) = fun word => alike x c && opens word cs := rfl
  rw [opening?, List.find?_map, test]
  cases alike x c
  · simp
  · simp [opening?, Nat.add_comm, Function.comp_def]

theorem openingEnd (x : Char) (words : List (List Char)) :
    opening? (words.map (x :: ·)) [] = none := by
  simp [opening?, List.find?_map, Function.comp_def, opens]

theorem openingAppend (words more : List (List Char)) (cs : List Char) :
    opening? (words ++ more) cs = (opening? words cs).or (opening? more cs) := by
  rw [opening?, List.find?_append, Option.map_or]
  rfl

theorem openingsSpelled : openings =
    [['t', 't', 'p', ':', '/', '/'], ['t', 't', 'p', 's', ':', '/', '/']].map ('h' :: ·) ++
      [['w', 'w', '.']].map ('w' :: ·) := by
  decide

theorem openingOf {cs : List Char} {n : Nat} (found : opening? openings cs = some n) :
    ∃ word ∈ openings, word.length = n ∧ opens word cs = true := by
  obtain ⟨word, first, size⟩ := Option.map_eq_some_iff.mp found
  exact ⟨word, List.mem_of_find?_eq_some first, size, by simpa using List.find?_some first⟩

-- The letters of a word, each in some form.
def Spells (word front : List Char) : Prop := List.Forall₂ (fun x c => c ∈ forms x) word front

theorem spellsEach {word front : List Char} (spells : Spells word front) :
    ∀ c ∈ front, ∃ x ∈ word, c ∈ forms x := by
  induction spells with
  | nil => exact List.forall_mem_nil _
  | @cons x c word front form spells ih =>
    refine List.forall_mem_cons.mpr ⟨⟨x, .head _, form⟩, fun d member => ?_⟩
    obtain ⟨y, inside, alike⟩ := ih d member
    exact ⟨y, .tail _ inside, alike⟩

theorem opensFront {word cs : List Char} (known : ∀ x ∈ word, x ∈ letters)
    (start : opens word cs = true) : ∃ front rest, cs = front ++ rest ∧ Spells word front := by
  fun_induction opens word cs with
  | case1 cs => exact ⟨[], cs, rfl, .nil⟩
  | case2 => contradiction
  | case3 x word c cs ih =>
    obtain ⟨same, later⟩ := Bool.and_eq_true_iff.mp start
    obtain ⟨first, others⟩ := List.forall_mem_cons.mp known
    obtain ⟨front, rest, rfl, shapes⟩ := ih others later
    exact ⟨c :: front, rest, rfl, .cons (alikeForm first same) shapes⟩

theorem openingsKnown : ∀ word ∈ openings, ∀ x ∈ word, x ∈ letters := by decide

theorem openingFront {cs : List Char} {n : Nat} (found : opening? openings cs = some n) :
    ∃ word ∈ openings, ∃ front rest, cs = front ++ rest ∧ front.length = n ∧ Spells word front := by
  obtain ⟨word, listed, size, start⟩ := openingOf found
  obtain ⟨front, rest, same, shapes⟩ := opensFront (openingsKnown word listed) start
  exact ⟨word, listed, front, rest, same, shapes.length_eq.symm.trans size, shapes⟩

theorem openingFits {cs : List Char} {n : Nat} (found : opening? openings cs = some n) :
    n ≤ cs.length := by
  obtain ⟨word, -, front, rest, rfl, rfl, -⟩ := openingFront found
  simp

theorem openingCongr {words : List (List Char)} {cs ds : List Char}
    (same : ∀ word ∈ words, opens word cs = opens word ds) :
    opening? words cs = opening? words ds := by
  induction words with
  | nil => rfl
  | cons word words ih =>
    obtain ⟨here, others⟩ := List.forall_mem_cons.mp same
    have later := ih others
    simp only [opening?, List.find?_cons, here] at later ⊢
    cases opens word ds with
    | true => rfl
    | false => exact later

def firstLetters : List Char := ['h', 'H', 'w', 'W']

theorem openingStarts {cs : List Char} {n : Nat} (found : opening? openings cs = some n) :
    ∃ c ∈ firstLetters, cs.head? = some c := by
  have first : ∀ word ∈ openings, word.head?.any (forms · ⊆ firstLetters) = true := by decide
  obtain ⟨word, listed, front, rest, rfl, -, shapes⟩ := openingFront found
  have inside := first word listed
  cases shapes with
  | nil => cases inside
  | cons shape later => exact ⟨_, of_decide_eq_true inside shape, rfl⟩

/-! The bounds of a link, and what stands after it. -/

theorem linkStarts {cs : List Char} {n : Nat} (found : linkSize? cs = some n) :
    ∃ c ∈ firstLetters, cs.head? = some c := by
  obtain ⟨m, opening, -⟩ := Option.bind_eq_some_iff.mp found
  exact openingStarts opening

theorem openingsLong : ∀ word ∈ openings, 4 ≤ word.length := by decide

theorem linkFits {cs : List Char} {n : Nat} (found : linkSize? cs = some n) :
    4 < n ∧ n ≤ cs.length := by
  obtain ⟨m, opening, size⟩ := Option.bind_eq_some_iff.mp found
  obtain ⟨word, listed, front, rest, rfl, rfl, spells⟩ := openingFront opening
  have long := openingsLong word listed
  have inner := (List.takeWhile_sublist (l := rest) isInner).length_le
  rw [spells.length_eq] at long
  rw [List.drop_left] at size
  dsimp only at size
  split at size
  · cases size
  · cases size
    simp only [List.length_append]
    omega

theorem linkEnds {cs : List Char} {n : Nat} (found : linkSize? cs = some n) :
    (cs.drop n).head?.any isInner = false := by
  obtain ⟨m, -, size⟩ := Option.bind_eq_some_iff.mp found
  dsimp only at size
  split at size
  · cases size
  · cases size
    have stop := List.head?_dropWhile_not isInner (cs.drop m)
    rw [← List.drop_drop, Regex.dropTaken]
    cases rest : ((cs.drop m).dropWhile isInner).head? with
    | none => rfl
    | some c => simpa [rest] using stop

theorem linkOutside {inWord : Bool} {cs : List Char} {n : Nat}
    (found : linkHere? inWord cs = some n) : linkSize? cs = some n := by
  cases inWord with
  | true => cases found
  | false => exact found

theorem shiftShift (m n : Nat) : shift m ∘ shift n = shift (m + n) := by
  funext ⟨k, size⟩
  exact congrArg (·, size) (Nat.add_assoc m n k).symm

theorem nextFirst {inWord : Bool} {c : Char} {cs : List Char} {n : Nat}
    (here : linkHere? inWord (c :: cs) = some n) : nextLink? inWord (c :: cs) = some (0, n) := by
  rw [nextLink?, here]

theorem nextLater {inWord : Bool} {c : Char} {cs : List Char}
    (none : linkHere? inWord (c :: cs) = none) :
    nextLink? inWord (c :: cs) = (nextLink? (isWord c) cs).map (shift 1) := by
  rw [nextLink?, none]

theorem nextHere {inWord : Bool} {cs : List Char} {k n : Nat}
    (found : nextLink? inWord cs = some (k, n)) : linkSize? (cs.drop k) = some n := by
  fun_induction nextLink? inWord cs generalizing k with
  | case1 => cases found
  | case2 inWord c cs m here =>
    cases found
    exact linkOutside here
  | case3 inWord c cs none ih =>
    obtain ⟨⟨j, m⟩, later, same⟩ := Option.map_eq_some_iff.mp found
    cases same
    rw [Nat.add_comm]
    exact ih later

theorem nextFits {inWord : Bool} {cs : List Char} {k n : Nat}
    (found : nextLink? inWord cs = some (k, n)) : 0 < n ∧ k + n ≤ cs.length := by
  obtain ⟨size, fits⟩ := linkFits (nextHere found)
  rw [List.length_drop] at fits
  omega

theorem noneStarts {cs : List Char} (stop : cs.head?.any isInner = false) : linkSize? cs = none := by
  have inner : ∀ c ∈ firstLetters, isInner c = true := by decide
  refine Option.eq_none_iff_forall_ne_some.mpr fun n found => ?_
  obtain ⟨c, letter, first⟩ := linkStarts found
  rw [first, Option.any_some, inner c letter] at stop
  cases stop

theorem nextAnywhere {cs : List Char} (none : linkSize? cs = none) (inWord : Bool) :
    nextLink? inWord cs = nextLink? false cs := by
  cases cs with
  | nil => rfl
  | cons c cs =>
    have here (inWord : Bool) : linkHere? inWord (c :: cs) = Option.none := by
      cases inWord with
      | true => rfl
      | false => exact none
    rw [nextLink?, nextLink?, here, here]

-- The texts of all links, and whether none of the searches for them is given up. The character after
-- a link starts none, so that it does not matter what stands before it.
def linkTexts (cs : List Char) : List (List Char) × Bool :=
  match _next : nextLink? false cs with
  | none => ([], cs.length < Regex.retryLimit)
  | some (k, n) =>
    if k ≤ Regex.retryLimit then
      let more := linkTexts (cs.drop (k + n))
      ((cs.drop k).take n :: more.1, more.2)
    else ([], false)
termination_by cs.length
decreasing_by
  have fits := nextFits _next
  rw [List.length_drop]
  omega

theorem textsNone {cs : List Char} (none : nextLink? false cs = none) :
    linkTexts cs = ([], decide (cs.length < Regex.retryLimit)) := by
  rw [linkTexts]
  split
  · rfl
  · rename_i next
    cases none.symm.trans next

theorem textsNext {cs : List Char} {k n : Nat} (next : nextLink? false cs = some (k, n)) :
    linkTexts cs =
      if k ≤ Regex.retryLimit then
        ((cs.drop k).take n :: (linkTexts (cs.drop (k + n))).1, (linkTexts (cs.drop (k + n))).2)
      else ([], false) := by
  rw [linkTexts]
  split
  · rename_i none
    cases none.symm.trans next
  · rename_i other
    cases next.symm.trans other
    rfl

theorem frontKept {cs : List Char} {k n : Nat} (fits : k + n ≤ cs.length) (more : List Char) :
    ((cs ++ more).drop k).take n = (cs.drop k).take n := by
  rw [List.drop_append_of_le_length (by omega), List.take_append_of_le_length]
  rw [List.length_drop]
  omega

theorem linkFront {cs : List Char} {n : Nat} (found : linkSize? cs = some n) :
    ∃ word ∈ openings, ∃ front rest, cs.take n = front ++ rest ∧ Spells word front := by
  obtain ⟨m, opening, size⟩ := Option.bind_eq_some_iff.mp found
  obtain ⟨word, listed, front, rest, rfl, rfl, spells⟩ := openingFront opening
  dsimp only at size
  split at size
  · cases size
  · cases size
    rw [List.take_length_add_append]
    exact ⟨word, listed, front, _, rfl, spells⟩

theorem textsFront (cs : List Char) : ∀ found ∈ (linkTexts cs).1,
    ∃ word ∈ openings, ∃ front rest, found = front ++ rest ∧ Spells word front := by
  fun_induction linkTexts cs with
  | case1 => exact List.forall_mem_nil _
  | case2 cs k n next near more ih =>
    intro found member
    rcases List.mem_cons.mp member with rfl | later
    · exact linkFront (nextHere next)
    · exact ih found later
  | case3 => exact List.forall_mem_nil _

end Scrollback.Link
