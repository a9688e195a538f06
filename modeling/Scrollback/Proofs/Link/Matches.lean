import Scrollback.Proofs.Link.Scanner
import Scrollback.Proofs.Regex.Answers

/-! What the engine does with the pattern for links: it finds what the scanner finds. Each place that
is passed over costs a retry, and nothing else does, so that it is known exactly when a search is
given up. -/
namespace Scrollback.Link
open Unicode
open Regex (Plain Plan Progress Cursor CharSet Match Outcome)

section Openings

variable {x : Char} {e f : Plain} {words more : List (List Char)}

/- A pattern that covers the first of some words that the text starts with, and so ends in one place
at most. -/
def CoversFirst (e : Plain) (words : List (List Char)) : Prop :=
  ∀ p : Progress, e.ends p = ((opening? words p.cursor.after).map p.skip).toList

theorem oneDistinct (end? : Option Progress) : Progress.distinct end?.toList = end?.toList := by
  cases end? <;> rfl

theorem skipMoved (p : Progress) (size? : Option Nat) :
    (size?.map (1 + ·)).map p.skip = size?.map (p.skip 1).skip := by
  rw [Option.map_map]
  congr 1
  funext n
  exact (Progress.skipSkip p 1 n).symm

theorem letterEnds (p : Progress) :
    (letter x).ends p = if p.cursor.after.head?.any (alike x) then [p.skip 1] else [] := by
  rw [letter, Plain.ends]
  cases after : p.cursor.after with
  | nil => rw [Progress.takeAtEnd _ after]; rfl
  | cons c rest =>
    rw [Progress.takeOf _ after, ← alike]
    cases same : alike x c <;> simp [same]

theorem CoversFirst.single (x : Char) : CoversFirst (letter x) [[x]] := by
  intro p
  rw [letterEnds]
  cases p.cursor.after with
  | nil => rfl
  | cons c rest => cases same : alike x c <;> simp [opening?, opens, same]

theorem CoversFirst.after (covers : CoversFirst e words) (x : Char) :
    CoversFirst (.seq (letter x) e) (words.map (x :: ·)) := by
  intro p
  rw [Plain.ends, letterEnds]
  cases after : p.cursor.after with
  | nil =>
    rw [openingEnd]
    rfl
  | cons c rest =>
    have later : (p.skip 1).cursor.after = rest := by simp [after]
    rw [openingLater, List.head?_cons, Option.any_some]
    cases alike x c with
    | false => rfl
    | true =>
      simp only [if_true, List.flatMap_singleton]
      rw [covers, later, oneDistinct, skipMoved]

theorem optionalEnds (s : CharSet) (p : Progress) :
    (Plain.run s 0 (some 1) true).ends p =
      if p.cursor.after.head?.any s.contains then [p.skip 1, p] else [p] := by
  simp only [Plain.ends, Plain.runEnds, Option.getD_some, List.drop_zero, if_true,
    Plain.runPlacesSpan]
  cases after : p.cursor.after with
  | nil => rfl
  | cons c rest =>
    have one : min (c :: rest).length 1 = 1 := by simp
    rw [one]
    cases member : s.contains c <;> simp [Progress.spanOf _ after, member]

-- Where the optional letter stands, what follows it cannot start.
theorem CoversFirst.optional {y : Char} (covers : CoversFirst e (words.map (y :: ·)))
    (apart : ∀ c, alike x c = true → alike y c = false) :
    CoversFirst (.seq (.run (.folded (.single x)) 0 (some 1) true) e)
      (words.map (y :: ·) ++ (words.map (y :: ·)).map (x :: ·)) := by
  intro p
  have here := covers p
  rw [Plain.ends, optionalEnds, openingAppend]
  cases after : p.cursor.after with
  | nil =>
    rw [after, openingEnd] at here
    rw [openingEnd, openingEnd]
    simp [here, Progress.distinct]
  | cons c rest =>
    rw [List.head?_cons, Option.any_some, ← alike, openingLater x]
    rw [after] at here
    cases same : alike x c with
    | false => simp [here, oneDistinct]
    | true =>
      have none : opening? (words.map (y :: ·)) (c :: rest) = none := by
        rw [openingLater, apart c same, if_neg Bool.false_ne_true]
      have later : (p.skip 1).cursor.after = rest := by simp [after]
      rw [none] at here ⊢
      simp only [if_true, List.flatMap_cons, here, List.flatMap_nil, List.append_nil,
        Option.map_none, Option.toList_none, covers (p.skip 1), later, Option.none_or]
      rw [oneDistinct, skipMoved]

-- At most one of the two can start here.
theorem CoversFirst.alt {x y : Char} (one : CoversFirst e (words.map (x :: ·)))
    (other : CoversFirst f (more.map (y :: ·))) (apart : ∀ c, alike x c = true → alike y c = false) :
    CoversFirst (.alt e f) (words.map (x :: ·) ++ more.map (y :: ·)) := by
  intro p
  rw [Plain.ends, one p, other p, openingAppend]
  cases p.cursor.after with
  | nil =>
    rw [openingEnd, openingEnd]
    rfl
  | cons c rest =>
    rw [openingLater, openingLater]
    cases same : alike x c with
    | false => simp [oneDistinct]
    | true => simp [apart c same, oneDistinct]

theorem lettersApart {x y : Char} (first : x ∈ letters) (second : y ∈ letters)
    (apart : ∀ c ∈ forms x, c ∉ forms y) (c : Char) (same : alike x c = true) :
    alike y c = false :=
  Bool.eq_false_iff.mpr fun other => apart c (alikeForm first same) (alikeForm second other)

theorem openingPart : CoversFirst (.alt webPart hostPart) openings := by
  have colon : CoversFirst (.seq (letter ':') (.seq (letter '/') (letter '/')))
      ([['/', '/']].map (':' :: ·)) := ((CoversFirst.single '/').after '/').after ':'
  have secure := colon.optional (lettersApart (x := 's') (by decide) (by decide) (by decide))
  have web := (((secure.after 'p').after 't').after 't').after 'h'
  have host := (((CoversFirst.single '.').after 'w').after 'w').after 'w'
  rw [openingsSpelled]
  exact web.alt host (lettersApart (by decide) (by decide) (by decide))

end Openings

section Searches

variable {c : Cursor} {k n left : Nat}

theorem linkFirst (p : Progress) : linkPart.first? p = (linkSize? p.cursor.after).map p.skip := by
  rw [linkPart, Plain.first?, openingPart p, linkSize?]
  cases opening? openings p.cursor.after with
  | none => rfl
  | some n =>
    simp only [Option.map_some, Option.toList_some, List.findSome?_singleton, Option.bind_some,
      Plain.greedyRunFirst]
    have span : (p.skip n).span innerSet = ((p.cursor.after.drop n).takeWhile isInner).length := rfl
    rw [span]
    split
    · rfl
    · rw [Option.map_some, Progress.skipSkip]

-- A link starts with a character of a word, so that the boundary asks for what stands before it.
theorem planRuns (c : Cursor) (left : Nat) :
    plan.run .matched (.start c) left =
      match linkHere? c.wordBefore c.after with
      | some n => .matched ((Progress.start c).skip n) left
      | none => .failed left := by
  have words : ∀ x ∈ firstLetters, isWord x = true := by decide
  have first := linkFirst (.start c)
  change linkPart.first? (.start c) = (linkSize? c.after).map _ at first
  rw [plan, Plan.run, Plan.run]
  cases size : linkSize? c.after with
  | none =>
    have here : linkHere? c.wordBefore c.after = none := by
      rw [linkHere?, size, ite_self]
    rw [here]
    split
    · rw [Plan.run, first, size]
      rfl
    · rfl
  | some n =>
    obtain ⟨x, letter, head⟩ := linkStarts size
    have wordAfter : c.wordAfter = true := by
      obtain ⟨rest, after⟩ := List.head?_eq_some_iff.mp head
      rw [Cursor.wordAfter, after]
      exact words x letter
    have boundary : Regex.Assertion.wordBoundary.holds (Progress.start c).cursor = !c.wordBefore := by
      change (c.wordBefore != c.wordAfter) = _
      rw [wordAfter, Bool.bne_true]
    rw [boundary, linkHere?]
    cases c.wordBefore with
    | true => rfl
    | false =>
      simp only [Bool.not_false, if_true, Bool.false_eq_true, if_false]
      rw [Plan.run, first, size]
      rfl

theorem searchHere (here : linkHere? c.wordBefore c.after = some n) (left : Nat) :
    Regex.searchPlan plan c left = (c, .matched ((Progress.start c).skip n) left) := by
  rw [Regex.searchPlan, planRuns, here]

theorem searchSpent (none : linkHere? c.wordBefore c.after = none) :
    Regex.searchPlan plan c 0 = (c, .exhausted) := by
  rw [Regex.searchPlan, planRuns, none]

theorem searchOn (none : linkHere? c.wordBefore c.after = none) (left : Nat) :
    Regex.searchPlan plan c (left + 1) =
      if c.after = [] then (c, .failed left) else Regex.searchPlan plan (c.skip 1) left := by
  rw [Regex.searchPlan, planRuns, none]
  dsimp only
  split
  · rename_i last
    rw [if_pos last]
  · rename_i x rest after
    rw [if_neg (by simp [after]), Cursor.skipOne after]

-- What a search comes to, given the next link.
def Searched (c : Cursor) (left : Nat) : Option (Nat × Nat) → Cursor × Outcome → Prop
  | some (k, n), result =>
    if k ≤ left then
      result = (c.skip k, .matched ((Progress.start (c.skip k)).skip n) (left - k))
    else result.2 = .exhausted
  | none, result =>
    result.2 = if c.after.length < left then .failed (left - c.after.length - 1) else .exhausted

theorem searchedLater {result : Cursor × Outcome} {next : Option (Nat × Nat)} {x : Char}
    {rest : List Char} (after : c.after = x :: rest) (later : Searched (c.skip 1) left next result) :
    Searched c (left + 1) (next.map (shift 1)) result := by
  cases next with
  | none =>
    have moved : (c.skip 1).after.length = rest.length := by simp [after]
    simpa [Searched, moved, after, Nat.add_sub_add_right] using later
  | some found =>
    obtain ⟨k, n⟩ := found
    simpa [Searched, shift, Nat.add_comm 1 k, Nat.add_sub_add_right] using later

theorem nextMoved {x : Char} {rest : List Char} (after : c.after = x :: rest)
    (none : linkHere? c.wordBefore c.after = none) :
    nextLink? c.wordBefore c.after =
      (nextLink? (c.skip 1).wordBefore (c.skip 1).after).map (shift 1) := by
  rw [after] at none ⊢
  rw [Cursor.skipOne after, nextLink?, none]
  rfl

theorem searchedNext (c : Cursor) (left : Nat) :
    Searched c left (nextLink? c.wordBefore c.after) (Regex.searchPlan plan c left) := by
  induction after : c.after generalizing c left with
  | nil =>
    have none : linkHere? c.wordBefore c.after = none := by
      rw [after]
      exact ite_self _
    rw [nextLink?, Searched, after]
    cases left with
    | zero => rw [searchSpent none]; rfl
    | succ left => rw [searchOn none, if_pos after]; rfl
  | cons x rest ih =>
    rw [← after]
    cases here : linkHere? c.wordBefore c.after with
    | some n =>
      have next : nextLink? c.wordBefore c.after = some (0, n) := by
        rw [after] at here ⊢
        rw [nextLink?, here]
      rw [next, searchHere here, Searched, if_pos (Nat.zero_le _), Cursor.skipZero]
      rfl
    | none =>
      rw [nextMoved after here]
      cases left with
      | zero =>
        rw [searchSpent here]
        cases nextLink? (c.skip 1).wordBefore (c.skip 1).after <;> simp [Searched, shift]
      | succ left =>
        rw [searchOn here, if_neg (by simp [after])]
        refine searchedLater after ?_
        have later : (c.skip 1).after = rest := by simp [after]
        rw [later]
        exact ih (c.skip 1) left later

end Searches

section Scans

variable {c : Cursor} {k n : Nat}

theorem regexPlanned : regex.program = .planned false plan := rfl

theorem scanNone (none : nextLink? c.wordBefore c.after = none) :
    regex.scanFrom c = ⟨[], c.after.length < Regex.retryLimit⟩ := by
  have searched := searchedNext c Regex.retryLimit
  rw [none, Searched] at searched
  rw [Regex.scanFrom, Regex.searchPlanned regexPlanned]
  generalize Regex.searchPlan plan c Regex.retryLimit = result at searched ⊢
  obtain ⟨start, outcome⟩ := result
  obtain rfl : outcome = _ := searched
  by_cases enough : c.after.length < Regex.retryLimit <;> simp [Regex.Verdict.ofSearch, enough]

theorem scanGivenUp (next : nextLink? c.wordBefore c.after = some (k, n))
    (far : ¬k ≤ Regex.retryLimit) : regex.scanFrom c = ⟨[], false⟩ := by
  have searched := searchedNext c Regex.retryLimit
  rw [next, Searched, if_neg far] at searched
  rw [Regex.scanFrom, Regex.searchPlanned regexPlanned]
  generalize Regex.searchPlan plan c Regex.retryLimit = result at searched ⊢
  obtain ⟨start, outcome⟩ := result
  obtain rfl : outcome = .exhausted := searched
  rfl

theorem scanFound (next : nextLink? c.wordBefore c.after = some (k, n))
    (near : k ≤ Regex.retryLimit) :
    regex.scanFrom c =
      let more := regex.scanFrom (c.skip (k + n))
      ⟨⟨c.skip k, c.skip (k + n), []⟩ :: more.found, more.complete⟩ := by
  have searched := searchedNext c Regex.retryLimit
  obtain ⟨some, fits⟩ := nextFits next
  rw [next, Searched, if_pos near] at searched
  have found : Match.ofProgress (c.skip k) ((Progress.start (c.skip k)).skip n) =
      ⟨c.skip k, c.skip (k + n), []⟩ := by
    rw [← Cursor.skipSkip]
    rfl
  have shorter : (c.skip (k + n)).after.length < c.after.length := by
    rw [Cursor.skipAfter, List.length_drop]
    omega
  rw [Regex.scanFrom, Regex.searchPlanned regexPlanned, searched, Regex.Verdict.ofSearch, found]
  dsimp only
  rw [if_pos shorter]

theorem scanTexts (c : Cursor)
    (start : nextLink? c.wordBefore c.after = nextLink? false c.after) :
    ((regex.scanFrom c).found.map Match.chars, (regex.scanFrom c).complete) = linkTexts c.after := by
  induction size : c.after.length using Nat.strongRecOn generalizing c with
  | ind size ih =>
    subst size
    rw [linkTexts]
    split
    · rename_i none
      rw [scanNone (start.trans none)]
      rfl
    · rename_i k n next
      have here := start.trans next
      split
      · rename_i near
        obtain ⟨some, fits⟩ := nextFits next
        have stop := noneStarts (linkEnds (nextHere next))
        rw [List.drop_drop] at stop
        have shorter : (c.skip (k + n)).after.length < c.after.length := by
          rw [Cursor.skipAfter, List.length_drop]
          omega
        have later := ih _ shorter (c.skip (k + n)) (nextAnywhere stop _) rfl
        rw [scanFound here near, ← Cursor.skipAfter, ← later]
        simp [Match.chars, Cursor.textBetween]
      · rename_i far
        rw [scanGivenUp here far]
        rfl

end Scans

theorem candidatesTexts (text : String) : candidates text = (linkTexts text.toList).1 := by
  rw [candidates, patternRead]
  exact congrArg Prod.fst (scanTexts (.start text.toList) rfl)

-- Whether no search for a link in the text is given up.
def isScanned (text : String) : Bool :=
  match pattern with
  | .ok r => (r.scan text).complete
  | .error _ => false

theorem scannedTexts (text : String) : isScanned text = (linkTexts text.toList).2 := by
  rw [isScanned, patternRead]
  exact congrArg Prod.snd (scanTexts (.start text.toList) rfl)

end Scrollback.Link
