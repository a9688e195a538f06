import Scrollback.Proofs.Search.TokenMatches

/-! Two texts with a blank between them. No token goes over a line break, and over another blank
only inside quotes, so the tokens of both texts together are those of the first and those of the
second. A search that is not given up on both together is not given up on either. -/
namespace Scrollback.Search
open Unicode

namespace Scanner

theorem takeStopped {p : Char → Bool} {w : Char} (stop : p w = false) (cs ds : List Char) :
    (cs ++ w :: ds).takeWhile p = cs.takeWhile p := by
  induction cs with
  | nil => simp [stop]
  | cons x cs ih => cases h : p x <;> simp [h, ih]

theorem nthBefore {cs ds : List Char} {w y : Char} {n : Nat} (fits : n ≤ cs.length)
    (other : w ≠ y) : (cs ++ w :: ds)[n]? = some y ↔ cs[n]? = some y := by
  rcases Nat.lt_or_eq_of_le fits with inside | rfl
  · rw [List.getElem?_append_left inside]
  · simp [other]

theorem nameFits (cs : List Char) : nameSize cs ≤ cs.length := (List.takeWhile_sublist _).length_le

theorem innerFits (cs : List Char) : innerSize cs ≤ cs.length := (List.takeWhile_sublist _).length_le

-- A blank ends all tokens but a text in quotes, which only a line break ends.
structure Separates (w : Char) (cs : List Char) : Prop where
  blank : isBlank w = true
  unquoted : w = '\n' ∨ '"' ∉ cs

namespace Separates
variable {w : Char} {cs ds : List Char}

theorem notSolid (apart : Separates w cs) (y : Char) (solid : isBlank y = false) : w ≠ y := by
  rintro rfl
  exact absurd apart.blank (Bool.eq_false_iff.mp solid)

theorem drop (apart : Separates w cs) (n : Nat) : Separates w (cs.drop n) :=
  ⟨apart.blank, apart.unquoted.imp_right fun none quote => none (List.mem_of_mem_drop quote)⟩

theorem wordSame (apart : Separates w cs) : wordSize (cs ++ w :: ds) = wordSize cs := by
  rw [wordSize, takeStopped (by simp [apart.blank]), wordSize]

theorem nameSame (apart : Separates w cs) : nameSize (cs ++ w :: ds) = nameSize cs := by
  rw [nameSize, takeStopped (blankNotWord apart.blank), nameSize]

theorem quotedSame (apart : Separates w cs) : quotedSize? (cs ++ w :: ds) = quotedSize? cs := by
  match cs, apart with
  | [], apart => simp [quotedSize?, apart.notSolid '"' (by decide)]
  | x :: cs, apart =>
    by_cases quote : x = '"'
    · subst quote
      have newline : w = '\n' := apart.unquoted.resolve_right (fun none => none List.mem_cons_self)
      subst newline
      cases cs with
      | nil => simp [quotedSize?]
      | cons y cs =>
        have inner : innerSize (cs ++ '\n' :: ds) = innerSize cs := by
          rw [innerSize, takeStopped (by decide), innerSize]
        simp only [List.cons_append, quotedSize?, inner,
          nthBefore (innerFits cs) (apart.notSolid '"' (by decide))]
    · have bare (es : List Char) : quotedSize? (x :: es) = none := by
        unfold quotedSize?
        split
        · rename_i same
          exact absurd (List.cons.inj same).1 quote
        · rfl
      rw [List.cons_append, bare, bare]

theorem valueSame (apart : Separates w cs) : valueSize? (cs ++ w :: ds) = valueSize? cs := by
  rw [valueSize?, apart.quotedSame, apart.wordSame, valueSize?]

theorem namedSame (apart : Separates w cs) : namedSize? (cs ++ w :: ds) = namedSize? cs := by
  simp only [namedSize?, apart.nameSame, nthBefore (nameFits cs) (apart.notSolid ':' (by decide))]
  by_cases named : nameSize cs ≠ 0 ∧ cs[nameSize cs]? = some ':'
  · have inside := (List.getElem?_eq_some_iff.mp named.2).1
    rw [if_pos named, if_pos named, List.drop_append_of_le_length (by omega),
      (apart.drop _).valueSame]
  · rw [if_neg named, if_neg named]

theorem sizeSame (apart : Separates w cs) : tokenSize (cs ++ w :: ds) = tokenSize cs := by
  rw [tokenSize, apart.namedSame, apart.wordSame, tokenSize]

theorem tokenSame (apart : Separates w cs) : tokenAt (cs ++ w :: ds) = tokenAt cs := by
  have fits := tokenFits cs
  rw [tokenSize] at fits
  rw [tokenAt, tokenAt, apart.namedSame, apart.wordSame]
  cases h : namedSize? cs with
  | none =>
    simp only [List.take_append_of_le_length (wordFits cs)]
  | some size =>
    obtain ⟨n, v⟩ := size
    rw [h] at fits
    simp only at fits ⊢
    rw [List.take_append_of_le_length fits, List.take_append_of_le_length (by omega),
      List.drop_append_of_le_length (by omega),
      List.take_append_of_le_length (by rw [List.length_drop]; omega)]

theorem aheadNone (apart : Separates w cs) (none : cs.dropWhile isBlank = []) (ds : List Char) :
    (cs ++ w :: ds).dropWhile isBlank = ds.dropWhile isBlank := by
  rw [List.dropWhile_append, none]
  simp [apart.blank]

theorem aheadSome {x : Char} {rest : List Char} (some : cs.dropWhile isBlank = x :: rest)
    (w : Char) (ds : List Char) :
    (cs ++ w :: ds).dropWhile isBlank = x :: (rest ++ w :: ds) := by
  rw [List.dropWhile_append, some]
  rfl

theorem rest {x : Char} {rest : List Char} (apart : Separates w cs)
    (some : cs.dropWhile isBlank = x :: rest) : Separates w (x :: rest) := by
  rw [← some, ← dropBlanks]
  exact apart.drop _

theorem dropToken {x : Char} {rest : List Char} (apart : Separates w (x :: rest)) :
    (x :: rest ++ w :: ds).drop (tokenSize (x :: rest ++ w :: ds)) =
      (x :: rest).drop (tokenSize (x :: rest)) ++ w :: ds := by
  rw [apart.sizeSame, List.drop_append_of_le_length (tokenFits _)]

end Separates

theorem scanSame {cs ds : List Char} (same : cs.dropWhile isBlank = ds.dropWhile isBlank) :
    scan cs = scan ds := by
  cases h : ds.dropWhile isBlank with
  | nil => rw [scanNil h, scanNil (same.trans h)]
  | cons x rest => rw [scanCons h, scanCons (same.trans h)]

theorem scanSeparated {w : Char} {cs : List Char} (apart : Separates w cs) (ds : List Char) :
    scan (cs ++ w :: ds) = scan cs ++ scan ds := by
  induction size : cs.length using Nat.strongRecOn generalizing cs with
  | ind size ih =>
    cases h : cs.dropWhile isBlank with
    | nil =>
      rw [scanSame (apart.aheadNone h ds), scanNil h]
      rfl
    | cons x rest =>
      have here := apart.rest h
      have shorter := restShorter h
      rw [scanCons (Separates.aheadSome h w ds), scanCons h, ← List.cons_append, here.tokenSame,
        here.dropToken, ih _ (by omega) (here.drop _) rfl]
      rfl

end Scanner

namespace Token
open Regex (Cursor)
open Scanner

theorem completeUnfold (c : Cursor) :
    (regex.scanFrom c).complete = true ↔
      searchRetries c.after ≤ Regex.retryLimit ∧ ∀ x rest,
        c.after.dropWhile isBlank = x :: rest →
          (regex.scanFrom ((ahead c).skip (tokenSize (x :: rest)))).complete = true := by
  rw [scanUnfold]
  by_cases within : searchRetries c.after ≤ Regex.retryLimit
  · rw [if_pos within]
    cases h : c.after.dropWhile isBlank with
    | nil => simp [within]
    | cons y more => simp [within]
  · simp [within]

theorem restAfter {c : Cursor} {x : Char} {rest : List Char}
    (h : c.after.dropWhile isBlank = x :: rest) (n : Nat) :
    ((ahead c).skip n).after = (x :: rest).drop n := by
  rw [Cursor.skipAfter, aheadAfter h]

-- Whether a scan is given up depends on the text that is left, not on the place in the whole.
theorem completeSame {c d : Cursor} (same : c.after = d.after)
    (complete : (regex.scanFrom c).complete = true) : (regex.scanFrom d).complete = true := by
  induction size : c.after.length using Nat.strongRecOn generalizing c d with
  | ind size ih =>
    obtain ⟨within, further⟩ := (completeUnfold c).mp complete
    refine (completeUnfold d).mpr ⟨same ▸ within, fun x rest h => ?_⟩
    have h' : c.after.dropWhile isBlank = x :: rest := by rw [same, h]
    have shorter := restShorter h'
    refine ih _ ?_ ?_ (further x rest h') rfl
    · rw [restAfter h']
      omega
    · rw [restAfter h', restAfter h]

theorem retriesSame {w : Char} {cs : List Char} (apart : Separates w cs) (ds : List Char) :
    retries (cs ++ w :: ds) = retries cs := by
  rw [retries, apart.namedSame, apart.wordSame, retries]

theorem searchGap {w : Char} {cs : List Char} (apart : Separates w cs) (ds : List Char)
    (none : cs.dropWhile isBlank = []) :
    searchRetries (cs ++ w :: ds) = 2 * (cs.length + 1) + searchRetries ds := by
  have gap := apart.aheadNone none ds
  have whole := blanksFit (cs ++ w :: ds)
  have part := blanksFit ds
  rw [gap, List.length_append, List.length_cons] at whole
  rw [searchRetries, gap, searchRetries]
  omega

theorem searchSame {w x : Char} {cs rest : List Char} (apart : Separates w cs) (ds : List Char)
    (some : cs.dropWhile isBlank = x :: rest) :
    searchRetries (cs ++ w :: ds) = searchRetries cs := by
  have ahead := Separates.aheadSome some w ds
  have whole := blanksFit (cs ++ w :: ds)
  have part := blanksFit cs
  rw [ahead, List.length_append, List.length_cons, List.length_append, List.length_cons] at whole
  rw [some, List.length_cons] at part
  have same : retries (x :: (rest ++ w :: ds)) = retries (x :: rest) :=
    retriesSame (apart.rest some) ds
  simp only [searchRetries, ahead, some, same]
  omega

/- Up to the separator the same searches are made. The one that meets it goes on into the second
text, which takes as many retries as to find the end of the first and no fewer than to start
anew. -/
theorem completeSeparated {w : Char} {c first second : Cursor} (apart : Separates w first.after)
    (joined : c.after = first.after ++ w :: second.after)
    (complete : (regex.scanFrom c).complete = true) :
    (regex.scanFrom first).complete = true ∧ (regex.scanFrom second).complete = true := by
  induction size : first.after.length using Nat.strongRecOn generalizing c first with
  | ind size ih =>
    obtain ⟨within, further⟩ := (completeUnfold c).mp complete
    rw [joined] at within
    cases h : first.after.dropWhile isBlank with
    | nil =>
      have gap := apart.aheadNone h second.after
      rw [searchGap apart _ h] at within
      have ends : searchRetries first.after = 2 * first.after.length + 2 := by
        have fits := blanksFit first.after
        rw [h, List.length_nil] at fits
        simp only [searchRetries, h]
        omega
      constructor
      · refine (completeUnfold first).mpr ⟨by omega, fun x rest some => ?_⟩
        rw [h] at some
        contradiction
      · refine (completeUnfold second).mpr ⟨by omega, fun x rest some => ?_⟩
        have there : c.after.dropWhile isBlank = x :: rest := by rw [joined, gap, some]
        refine completeSame ?_ (further x rest there)
        rw [restAfter there, restAfter some]
    | cons x rest =>
      have there := (congrArg _ joined).trans (Separates.aheadSome h w second.after)
      have shorter := restShorter h
      rw [searchSame apart _ h] at within
      have left : ((ahead c).skip (tokenSize (x :: (rest ++ w :: second.after)))).after =
          ((ahead first).skip (tokenSize (x :: rest))).after ++ w :: second.after := by
        rw [restAfter there, restAfter h]
        exact (apart.rest h).dropToken
      have both := ih _ (by rw [restAfter h]; omega)
        (by rw [restAfter h]; exact (apart.rest h).drop _) left (further _ _ there) rfl
      refine ⟨(completeUnfold first).mpr ⟨within, fun y more some => ?_⟩, both.2⟩
      rw [h] at some
      cases some
      exact both.1

end Token

end Scrollback.Search
