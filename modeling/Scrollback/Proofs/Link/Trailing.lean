import Scrollback.Proofs.Link.Bare
import Scrollback.Proofs.Link.Breaks

/-! Marks at the end of a text belong to the link that reaches so far, and are trimmed off it. Where
they complete a bare opening, nothing is read of the candidate. -/
namespace Scrollback.Link
open Unicode

section Sizes

variable {cs p : List Char}

theorem markInner {c : Char} (mark : isTrailing c = true) : isInner c = true :=
  trailingEach (P := (isInner · = true)) (by decide) mark

theorem markStarts {c : Char} (mark : isTrailing c = true) : c ∉ firstLetters :=
  trailingEach (P := (· ∉ firstLetters)) (by decide) mark

theorem sizeThrough {m : Nat} (opening : opening? openings cs = some m)
    (inner : ∀ c ∈ cs.drop m, isInner c = true) :
    linkSize? cs = if cs.length = m then none else some cs.length := by
  have fits := openingFits opening
  have whole : (cs.drop m).takeWhile isInner = cs.drop m := List.takeWhile_eq_self_iff.mpr inner
  rw [linkSize?, opening, Option.bind_some, whole]
  dsimp only
  rw [List.length_drop]
  split <;> split <;> first | rfl | omega | exact congrArg some (by omega)

theorem sizeStopped {m : Nat} (opening : opening? openings cs = some m)
    (same : opening? openings (cs ++ p) = some m)
    (stops : ¬∀ c ∈ cs.drop m, isInner c = true) :
    linkSize? (cs ++ p) = linkSize? cs ∧ linkSize? cs ≠ some cs.length := by
  have fits := openingFits opening
  have short : ((cs.drop m).takeWhile isInner).length < (cs.drop m).length := by
    refine Nat.lt_of_le_of_ne (List.takeWhile_sublist _).length_le fun whole => stops ?_
    rw [← List.takeWhile_eq_self_iff]
    exact (List.takeWhile_prefix isInner).eq_of_length whole
  have tail : ((cs ++ p).drop m).takeWhile isInner = (cs.drop m).takeWhile isInner := by
    rw [List.drop_append_of_le_length fits, List.takeWhile_append, if_neg (Nat.ne_of_lt short)]
  rw [List.length_drop] at short
  rw [linkSize?, linkSize?, opening, same, Option.bind_some, Option.bind_some, tail]
  refine ⟨rfl, ?_⟩
  dsimp only
  split
  · exact (Option.some_ne_none _).symm
  · intro whole
    have size := Option.some.inj whole
    omega

-- A link that starts here takes the marks if it goes on to the end, or it is there only with them.
def SizeExtends (p cs : List Char) : Prop :=
  linkSize? (cs ++ p) = (linkSize? cs).map (fun n => if n = cs.length then n + p.length else n) ∨
    Bare cs ∧ linkSize? cs = none ∧ linkSize? (cs ++ p) = some (cs ++ p).length

theorem sizeReaches {m : Nat} (opening : opening? openings cs = some m)
    (same : opening? openings (cs ++ p) = some m) (reaches : ∀ c ∈ cs.drop m, isInner c = true)
    (inner : ∀ c ∈ p, isInner c = true) : SizeExtends p cs := by
  have fits := openingFits opening
  have through : ∀ c ∈ (cs ++ p).drop m, isInner c = true := by
    rw [List.drop_append_of_le_length fits]
    exact fun c member => (List.mem_append.mp member).elim (reaches c) (inner c)
  rw [SizeExtends, sizeThrough opening reaches, sizeThrough same through]
  by_cases bare : cs.length = m
  · rw [if_pos bare]
    by_cases none : (cs ++ p).length = m
    · exact .inl (if_pos none)
    · exact .inr ⟨bareOpening opening bare, rfl, if_neg none⟩
  · have longer : (cs ++ p).length ≠ m := by
      rw [List.length_append]
      omega
    rw [if_neg bare, if_neg longer, Option.map_some, if_pos rfl, List.length_append]
    exact .inl rfl

theorem sizeBare (spells : Spells "www".toList cs) (inner : ∀ c ∈ p, isInner c = true) :
    SizeExtends p cs := by
  have none : linkSize? cs = none := by
    refine Option.eq_none_iff_forall_ne_some.mpr fun n found => ?_
    have fits := linkFits found
    have three : cs.length = 3 := spells.length_eq.symm
    omega
  have through : ∀ c ∈ cs ++ p, isInner c = true := fun c member =>
    (List.mem_append.mp member).elim (bareInner spells c) (inner c)
  rw [SizeExtends, none]
  cases opening : opening? openings (cs ++ p) with
  | none =>
    rw [linkSize?, opening]
    exact .inl rfl
  | some m =>
    rw [sizeThrough opening fun c member => through c (List.mem_of_mem_drop member)]
    by_cases bare : (cs ++ p).length = m
    · exact .inl (if_pos bare)
    · exact .inr ⟨⟨_, by decide, spells⟩, rfl, if_neg bare⟩

theorem sizeMarks (marks : Marks p) (cs : List Char) : SizeExtends p cs := by
  have inner : ∀ c ∈ p, isInner c = true := fun c member => markInner (marks c member)
  rcases openingMarks marks cs with same | spells
  · cases opening : opening? openings cs with
    | none =>
      rw [opening] at same
      rw [SizeExtends, linkSize?, linkSize?, opening, same]
      exact .inl rfl
    | some m =>
      rw [opening] at same
      by_cases reaches : ∀ c ∈ cs.drop m, isInner c = true
      · exact sizeReaches opening same reaches inner
      · obtain ⟨kept, other⟩ := sizeStopped opening same reaches
        rw [SizeExtends, kept]
        cases size : linkSize? cs with
        | none => exact .inl rfl
        | some n =>
          have within : n ≠ cs.length := fun whole => other (by rw [size, whole])
          rw [Option.map_some, if_neg within]
          exact .inl rfl
  · exact sizeBare spells inner

-- A link that goes on to the end also takes what is added there.
def extend (cs p : List Char) (place : Nat × Nat) : Nat × Nat :=
  if place.1 + place.2 = cs.length then (place.1, place.2 + p.length) else place

theorem extendShift (c : Char) (cs p : List Char) :
    shift 1 ∘ extend cs p = extend (c :: cs) p ∘ shift 1 := by
  funext ⟨k, n⟩
  have same : 1 + k + n = (c :: cs).length ↔ k + n = cs.length := by
    rw [List.length_cons]
    omega
  simp only [Function.comp_apply, extend, shift, same]
  split <;> rfl

theorem marksNone (marks : Marks p) (inWord : Bool) : nextLink? inWord p = none := by
  refine Option.eq_none_iff_forall_ne_some.mpr fun ⟨k, n⟩ found => ?_
  obtain ⟨c, letter, first⟩ := linkStarts (nextHere found)
  exact markStarts (marks c (List.mem_of_mem_drop (List.mem_of_mem_head? first))) letter

-- The next link is the same one, which may go on into the marks, or a bare opening is met instead.
def Extends (p cs : List Char) (inWord : Bool) : Prop :=
  nextLink? inWord (cs ++ p) = (nextLink? inWord cs).map (extend cs p) ∨
    nextLink? inWord cs = none ∧ ∃ k, Bare (cs.drop k) ∧
      nextLink? inWord (cs ++ p) = some (k, (cs.drop k ++ p).length)

theorem extendsLater {c : Char} {inWord : Bool} (here : linkHere? inWord (c :: cs) = none)
    (there : linkHere? inWord (c :: cs ++ p) = none) (later : Extends p cs (isWord c)) :
    Extends p (c :: cs) inWord := by
  rw [List.cons_append] at there
  rw [Extends, List.cons_append, nextLater here, nextLater there, Option.map_map, ← extendShift,
    ← Option.map_map]
  rcases later with same | ⟨none, k, bare, found⟩
  · exact .inl (by rw [same])
  · have same : (c :: cs).drop (1 + k) = cs.drop k := by rw [Nat.add_comm, List.drop_succ_cons]
    exact .inr ⟨by rw [none]; rfl, 1 + k, by rwa [same], by rw [found, same]; rfl⟩

theorem nextMarks (marks : Marks p) (inWord : Bool) (cs : List Char) : Extends p cs inWord := by
  induction cs generalizing inWord with
  | nil => exact .inl (marksNone marks inWord)
  | cons c cs ih =>
    cases inWord with
    | true => exact extendsLater rfl rfl (ih _)
    | false =>
      rcases sizeMarks marks (c :: cs) with same | ⟨bare, none, found⟩
      · cases size : linkSize? (c :: cs) with
        | none =>
          rw [size] at same
          exact extendsLater size same (ih _)
        | some n =>
          have here : linkHere? false (c :: cs) = some n := size
          have there : linkHere? false (c :: (cs ++ p)) = _ := same.trans (congrArg _ size)
          refine .inl ?_
          rw [nextFirst here, List.cons_append, nextFirst there, Option.map_some, extend,
            Nat.zero_add]
          dsimp only
          split <;> rfl
      · refine .inr ⟨bareEnds bare none false, 0, bare, ?_⟩
        rw [List.cons_append]
        exact nextFirst found

end Sizes

section Texts

variable {cs p : List Char} {k n : Nat}

def addresses (founds : List (List Char)) : List Url :=
  founds.filterMap fun found => (read? found).join

theorem textsLast (next : nextLink? false cs = some (k, n)) (last : k + n = cs.length) :
    (linkTexts cs).1 = if k ≤ Regex.retryLimit then [cs.drop k] else [] := by
  have whole : (cs.drop k).take n = cs.drop k :=
    List.take_of_length_le (by rw [List.length_drop]; omega)
  have rest : cs.drop (k + n) = [] := List.drop_of_length_le (by omega)
  rw [textsNext next, whole, rest, textsNone rfl]
  split <;> rfl

theorem textsMarks (marks : Marks p) (cs : List Char) :
    addresses (linkTexts (cs ++ p)).1 = addresses (linkTexts cs).1 := by
  induction size : cs.length using Nat.strongRecOn generalizing cs with
  | ind size ih =>
    rcases nextMarks marks false cs with same | ⟨none, k, bare, found⟩
    · cases found : nextLink? false cs with
      | none =>
        rw [found] at same
        rw [textsNone found, textsNone same]
      | some place =>
        obtain ⟨k, n⟩ := place
        obtain ⟨some, fits⟩ := nextFits found
        rw [found, Option.map_some, extend] at same
        dsimp only at same
        split at same
        · rename_i last
          have reaches : k + (n + p.length) = (cs ++ p).length := by
            rw [List.length_append]
            omega
          rw [textsLast same reaches, textsLast found last,
            List.drop_append_of_le_length (by omega)]
          split
          · simp only [addresses, List.filterMap_cons, List.filterMap_nil, readMarks marks]
          · rfl
        · have rest : (cs ++ p).drop (k + n) = cs.drop (k + n) ++ p :=
            List.drop_append_of_le_length fits
          have later := ih _ (by rw [List.length_drop]; omega) (cs.drop (k + n)) rfl
          rw [textsNext same, textsNext found, frontKept fits, rest]
          split
          · simp only [addresses, List.filterMap_cons] at later ⊢
            rw [later]
          · rfl
    · have fits := (nextFits found).2
      rw [List.length_append, List.length_append, List.length_drop] at fits
      have reaches : k + (cs.drop k ++ p).length = (cs ++ p).length := by
        rw [List.length_append, List.length_append, List.length_drop]
        omega
      rw [textsNone none, textsLast found reaches, List.drop_append_of_le_length (by omega)]
      split
      · simp only [addresses, List.filterMap_cons, List.filterMap_nil, readMarks marks, bareUnread bare]
      · rfl

theorem findAddresses (text : String) : find text = addresses (linkTexts text.toList).1 := by
  rw [find, findRead, candidatesTexts]
  rfl

end Texts

/- Texts that a blank or an angle bracket keeps apart have the links of both, and marks that trail a
text make no difference. Only the first needs searches that are not given up. -/
theorem linksApart (a b : String) :
    (∀ c : Char, isBlank c = true ∨ c = '<' ∨ c = '>' →
      isScanned (a ++ String.singleton c ++ b) = true →
        find (a ++ String.singleton c ++ b) = find a ++ find b) ∧
    ∀ p : String, (∀ c ∈ p.toList, isTrailing c = true) → find (a ++ p) = find a := by
  refine ⟨fun c breaks scanned => ?_, fun p marks => ?_⟩
  · have joined : (a ++ String.singleton c ++ b).toList = a.toList ++ c :: b.toList := by simp
    rw [scannedTexts, joined] at scanned
    rw [findAddresses, findAddresses, findAddresses, joined, Breaks.textsSame breaks scanned]
    exact List.filterMap_append
  · rw [findAddresses, findAddresses, String.toList_append]
    exact textsMarks marks a.toList

theorem bareHostApart :
    isScanned ("www" ++ String.singleton '>' ++ "http://[::1]") = true ∧
      find ("www" ++ String.singleton '>' ++ "http://[::1]") = find "www" ++ find "http://[::1]" ∧
    (∀ c ∈ "...".toList, isTrailing c = true) ∧ find ("www" ++ "...") = find "www" := by
  have next : nextLink? false "www>http://[::1]".toList = some (4, 12) := by decide +kernel
  have ended : "www>http://[::1]".toList.drop (4 + 12) = [] := by decide
  have joined : ("www" ++ String.singleton '>' ++ "http://[::1]").toList =
      "www>http://[::1]".toList := by decide
  have scanned : isScanned ("www" ++ String.singleton '>' ++ "http://[::1]") = true := by
    rw [scannedTexts, joined, textsNext next, if_pos (by decide), ended, textsNone rfl]
    decide
  have marks : ∀ c ∈ "...".toList, isTrailing c = true := by decide
  exact ⟨scanned, (linksApart "www" "http://[::1]").1 '>' (by decide) scanned, marks,
    (linksApart "www" "http://[::1]").2 "..." marks⟩

end Scrollback.Link
