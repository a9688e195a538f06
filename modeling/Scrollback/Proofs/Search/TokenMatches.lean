import Scrollback.Proofs.Regex.Answers
import Scrollback.Proofs.Regex.Runs
import Scrollback.Proofs.Search.Scanner
import Scrollback.Proofs.Search.TokenPattern

/-! What the engine does with the pattern for tokens: each alternative is carried out on an
arbitrary text, and then the search that tries them at one place after another. The retries are
counted exactly, so what is said of a search that is given up holds of no other. -/
namespace Scrollback.Search.Token
open Regex (Plain Plan Progress Cursor CharSet Match)
open Scanner

theorem wordSpan (p : Progress) : p.span (.not .blank) = wordSize p.cursor.after := rfl

theorem takeSingle (p : Progress) (x : Char) :
    p.take? (.single x) = if p.cursor.after[0]? = some x then some (p.skip 1) else none := by
  cases h : p.cursor.after with
  | nil => simp [Progress.takeAtEnd _ h]
  | cons y rest => simp [Progress.takeOf _ h, Regex.singleContains]

theorem lineSpan {p : Progress} {x : Char} {rest : List Char} (h : p.cursor.after = x :: rest) :
    p.span (.not (.single '\n')) =
      if x = '\n' then 0 else (p.skip 1).span (.not (.single '\n')) + 1 := by
  by_cases newline : x = '\n'
  · simp [Progress.spanOf _ h, CharSet.contains, Regex.singleContains, newline]
  · rw [if_neg newline]
    exact Progress.spanIn h (by simp [CharSet.contains, Regex.singleContains, newline])

/- The run takes one character before it looks for the quote, whatever that character is, so the
induction is on the text after it. -/
theorem closingQuote {q : Progress} {x : Char} {rest : List Char} (h : q.cursor.after = x :: rest)
    (inline : x ≠ '\n') :
    ((List.range (q.span (.not (.single '\n')))).map fun i => q.skip (i + 1)).findSome?
        (·.take? (.single '"')) =
      if rest[innerSize rest]? = some '"' then some (q.skip (innerSize rest + 2)) else none := by
  induction rest generalizing q x with
  | nil =>
    have atEnd : (q.skip 1).cursor.after = [] := by simp [h]
    rw [lineSpan h, if_neg inline, Progress.spanOf _ atEnd]
    simp [takeSingle, h]
  | cons y rest ih =>
    have next : (q.skip 1).cursor.after = y :: rest := by simp [h]
    rw [lineSpan h, if_neg inline, List.range_succ_eq_map, List.map_cons, List.findSome?_cons,
      takeSingle, next, List.map_map]
    by_cases quote : y = '"'
    · simp [quote, innerSize]
    · have further : (fun i => q.skip (i + 1)) ∘ Nat.succ = fun i => (q.skip 1).skip (i + 1) := by
        funext i
        simp [Nat.add_comm 1]
      rw [further]
      by_cases newline : y = '\n'
      · simp [lineSpan next, innerSize, newline]
      · have longer : innerSize (y :: rest) = innerSize rest + 1 := by
          simp [innerSize, quote, newline]
        simp only [List.getElem?_cons_zero, Option.some.injEq, quote, if_false]
        rw [ih next newline, longer, List.getElem?_cons_succ, Progress.skipSkip,
          show 1 + (innerSize rest + 2) = innerSize rest + 1 + 2 by omega]

theorem quotedFirst (p : Progress) :
    quotedPart.first? p = (quotedSize? p.cursor.after).map p.skip := by
  simp only [quotedPart, Plain.first?, Plain.ends, Plain.runEndsSpan, takeSingle p]
  cases h : p.cursor.after with
  | nil => rfl
  | cons y rest =>
    by_cases quote : y = '"'
    · subst quote
      simp only [List.getElem?_cons_zero, if_true, Option.toList_some, List.findSome?_cons,
        List.findSome?_nil, Bool.false_eq_true, if_false]
      cases rest with
      | nil =>
        have atEnd : (p.skip 1).cursor.after = [] := by simp [h]
        simp [quotedSize?, Progress.spanOf _ atEnd]
      | cons x rest =>
        have next : (p.skip 1).cursor.after = x :: rest := by simp [h]
        by_cases newline : x = '\n'
        · simp [quotedSize?, lineSpan next, newline]
        · rw [closingQuote next newline]
          by_cases closed : rest[innerSize rest]? = some '"'
          · simp [quotedSize?, newline, closed, show 1 + (innerSize rest + 2) = innerSize rest + 3 by omega]
          · simp [quotedSize?, newline, closed]
    · have bare : quotedSize? (y :: rest) = none := by
        unfold quotedSize?
        split
        · rename_i same
          exact absurd (List.cons.inj same).1 quote
        · rfl
      simp [quote, bare]

theorem wordRunFirst (p : Progress) :
    (Plain.run (.not .blank) 1 none true).first? p =
      if wordSize p.cursor.after = 0 then none else some (p.skip (wordSize p.cursor.after)) :=
  Plain.greedyRunFirst (.not .blank) p

theorem valueFirst (p : Progress) :
    valuePart.first? p = (valueSize? p.cursor.after).map p.skip := by
  rw [valuePart, Plain.first?, quotedFirst, wordRunFirst, valueSize?]
  cases quotedSize? p.cursor.after with
  | some n => rfl
  | none =>
    by_cases empty : wordSize p.cursor.after = 0
    · simp [empty]
    · simp [empty]

def namedSlots (c : Cursor) (n v : Nat) : List (Nat × Cursor) :=
  [(5, c.skip (n + 1 + v)), (4, c.skip (n + 1)), (3, c.skip n), (2, c)]

theorem afterName (q : Progress) :
    (Plain.seq (.set (.single ':')) (.capture 2 valuePart)).first? q =
      if q.cursor.after[0]? = some ':' then
        (valueSize? (q.cursor.after.drop 1)).map fun v =>
          (((q.skip 1).save 4).skip v).save 5
      else none := by
  simp only [Plain.first?, Plain.ends, takeSingle]
  by_cases colon : q.cursor.after[0]? = some ':'
  · simp only [colon, if_true, Option.toList_some, List.findSome?_cons, List.findSome?_nil,
      valueFirst, Progress.saveCursor, Progress.skipCursor, Cursor.skipAfter]
    cases valueSize? (q.cursor.after.drop 1) <;> rfl
  · simp [colon]

theorem colonNotWord : Unicode.isWord ':' = false := by decide

theorem namedFirst (c : Cursor) :
    namedPart.first? (.start c) =
      (namedSize? c.after).map fun (n, v) => ⟨c.skip (n + 1 + v), c.index, namedSlots c n v⟩ := by
  have span : ((Progress.start c).save 2).span .word = nameSize c.after := rfl
  have stop : ∀ i < ((Progress.start c).save 2).span .word,
      (Plain.seq (.set (.single ':')) (.capture 2 valuePart)).first?
        ((((Progress.start c).save 2).skip i).save 3) = none := by
    intro i inside
    obtain ⟨x, rest, here, member⟩ := Progress.spanInside inside
    have word : x ≠ ':' := by
      rintro rfl
      rw [CharSet.contains, colonNotWord] at member
      contradiction
    rw [afterName, Progress.saveCursor, here]
    simp [word]
  rw [namedPart, Plain.first?, Plain.ends, List.findSome?_map]
  refine (Plain.greedyRunThen stop).trans ?_
  rw [span, namedSize?, Function.comp_apply]
  by_cases empty : nameSize c.after = 0
  · simp [empty]
  · by_cases colon : c.after[nameSize c.after]? = some ':'
    · rw [if_neg empty, if_pos ⟨empty, colon⟩, afterName]
      rw [if_pos (by simpa [Progress.start] using colon)]
      simp only [Progress.saveCursor, Progress.skipCursor, Cursor.skipAfter, List.drop_drop,
        Option.map_map]
      refine congrArg (Option.map · _) (funext fun v => ?_)
      simp [Progress.save, Progress.skip, Progress.start, namedSlots]
    · rw [if_neg empty, if_neg (fun h => colon h.2), afterName]
      rw [if_neg (by simpa [Progress.start] using colon)]
      rfl

theorem namedNone {cs : List Char} (blank : cs.head?.all Unicode.isBlank = true) :
    namedSize? cs = none := by
  have none : nameSize cs = 0 := by
    cases cs with
    | nil => rfl
    | cons x rest => simp [nameSize, Unicode.blankNotWord (by simpa using blank)]
  simp [namedSize?, none]

def atEnd (p : Progress) : Bool := p.cursor.after.head?.all Unicode.isBlank

theorem endTest : (Plan.ahead (.plain endPart)).run .matched = Plan.test atEnd := by
  funext p left
  obtain ⟨⟨index, before, after⟩, origin, slots⟩ := p
  simp only [Plan.run, endPart, Plain.first?, Regex.Assertion.holds, Plan.test, atEnd]
  cases after with
  | nil => rfl
  | cons x rest =>
    rw [Progress.takeOf _ rfl]
    cases blank : Unicode.isBlank x <;> simp [CharSet.contains, blank, Progress.skip]

theorem wordRun {p : Progress} {x : Char} {rest : List Char} (h : p.cursor.after = x :: rest)
    (solid : Unicode.isBlank x = false) (left : Nat) :
    wordPart.run .matched p left =
      if wordSize p.cursor.after ≤ left + 1 then
        .matched (p.skip (wordSize p.cursor.after)) (left + 1 - wordSize p.cursor.after)
      else .exhausted := by
  have member : (CharSet.not .blank).contains x = true := by simp [CharSet.contains, solid]
  have longer := Progress.spanIn h member
  have enough : (p.skip 1).span (.not .blank) < p.cursor.after.length + 1 := by
    have fits := Progress.spanFits (.not .blank) p
    omega
  have early : ∀ i < (p.skip 1).span (.not .blank), atEnd ((p.skip 1).skip i) = false := by
    intro i inside
    obtain ⟨y, more, there, filled⟩ := Progress.spanInside inside
    rw [atEnd, there]
    simpa [CharSet.contains] using filled
  have last : atEnd ((p.skip 1).skip ((p.skip 1).span (.not .blank))) = true := by
    rw [atEnd, Progress.spanStops]
    cases stop : (p.skip 1).cursor.after.dropWhile (CharSet.not .blank).contains with
    | nil => rfl
    | cons y more =>
      have head := List.head?_dropWhile_not (CharSet.not .blank).contains (p.skip 1).cursor.after
      rw [stop] at head
      simpa [CharSet.contains] using head
  rw [wordPart, Plan.run, endTest, Plan.run, Plan.firstRound, Plan.takeStep _ left h member,
    Plan.lazyRounds enough (by simp [Progress.index]) early last]
  rw [← wordSpan, longer, Progress.skipSkip, Nat.add_comm 1]
  simp only [Nat.add_le_add_iff_right, Nat.add_sub_add_right]

theorem wordFails {p : Progress} (blank : atEnd p = true) (left : Nat) :
    wordPart.run .matched p left = .failed left := by
  have out : p.take? (.not .blank) = none := by
    cases h : p.cursor.after with
    | nil => exact Progress.takeAtEnd _ h
    | cons x rest =>
      rw [atEnd, h] at blank
      rw [Progress.takeOf _ h]
      simpa [CharSet.contains] using blank
  rw [wordPart, Plan.run, Plan.run, Plan.firstRound, Plan.run, Plain.first?, out]

-- How many retries the engine makes on a token.
def retries (cs : List Char) : Nat :=
  match namedSize? cs with
  | some _ => 0
  | none => wordSize cs

def slots (c : Cursor) : List (Nat × Cursor) :=
  match namedSize? c.after with
  | some (n, v) => namedSlots c n v
  | none => []

def matched (c : Cursor) : Match := ⟨c, c.skip (tokenSize c.after), slots c⟩

theorem planRun {c : Cursor} {x : Char} {rest : List Char} (h : c.after = x :: rest)
    (solid : Unicode.isBlank x = false) (left : Nat) :
    plan.run .matched (.start c) left =
      if retries c.after ≤ left then
        .matched ⟨c.skip (tokenSize c.after), c.index, slots c⟩ (left - retries c.after)
      else .exhausted := by
  rw [plan, Plan.run, Plan.run, namedFirst, retries, tokenSize, slots]
  cases namedSize? c.after with
  | some size => simp [Regex.Outcome.orElse]
  | none =>
    have some : 0 < wordSize c.after := by rw [h]; exact wordSizePos solid
    cases left with
    | zero => simp [Regex.Outcome.orElse, Nat.ne_of_gt some]
    | succ left =>
      simp only [Option.map_none, Regex.Outcome.orElse]
      exact wordRun (p := .start c) h solid left

theorem planFails {c : Cursor} (blank : c.after.head?.all Unicode.isBlank = true) (left : Nat) :
    plan.run .matched (.start c) left =
      match left with
      | 0 => .exhausted
      | left + 1 => .failed left := by
  rw [plan, Plan.run, Plan.run, namedFirst, namedNone blank]
  cases left with
  | zero => rfl
  | succ left => exact wordFails (p := .start c) blank left

theorem matchedOf (c : Cursor) :
    Match.ofProgress c ⟨c.skip (tokenSize c.after), c.index, slots c⟩ = matched c := by
  rw [Match.ofProgress, matched, slots]
  cases namedSize? c.after <;> rfl

theorem matchedToken (c : Cursor) : ofMatch regex (matched c) = tokenAt c.after := by
  rw [ofMatch, tokenAt, matched, slots, tokenSize]
  cases namedSize? c.after with
  | none =>
    simp [Match.text, Match.chars, Cursor.textToSkip, Regex.group?, regex, List.lookup]
  | some size =>
    obtain ⟨n, v⟩ := size
    simp [Match.text, Match.chars, Cursor.textToSkip, Cursor.textBetween, Regex.group?, regex,
      List.lookup, namedSlots]

theorem regexPlanned : regex.program = .planned false plan := rfl

theorem searchSolid {c : Cursor} {x : Char} {rest : List Char} (h : c.after = x :: rest)
    (solid : Unicode.isBlank x = false) (left : Nat) :
    Regex.Verdict.ofSearch (Regex.searchPlan plan c left) =
      if retries c.after ≤ left then .found (matched c) else .givenUp := by
  rw [Regex.searchPlan, planRun h solid]
  by_cases enough : retries c.after ≤ left
  · simp only [if_pos enough, Regex.Verdict.ofSearch, matchedOf]
  · simp only [if_neg enough, Regex.Verdict.ofSearch]

theorem searchBlank {c : Cursor} {x : Char} {rest : List Char} (h : c.after = x :: rest)
    (blank : Unicode.isBlank x = true) (left : Nat) :
    Regex.searchPlan plan c (left + 2) = Regex.searchPlan plan (c.skip 1) left := by
  rw [Regex.searchPlan, planFails (by simpa [h] using blank)]
  simp only
  split
  · rename_i none
    simp [h] at none
  · rename_i y more same
    rw [Cursor.skipOne same]

theorem searchShort {c : Cursor} (blank : c.after.head?.all Unicode.isBlank = true) {left : Nat}
    (short : left < 2) : Regex.searchPlan plan c left = (c, .exhausted) := by
  rw [Regex.searchPlan, planFails blank]
  match left, short with
  | 0, _ => rfl
  | 1, _ => rfl

theorem searchEnd {c : Cursor} (h : c.after = []) (left : Nat) :
    Regex.searchPlan plan c (left + 2) = (c, .failed left) := by
  rw [Regex.searchPlan, planFails (by simp [h])]
  simp only
  split
  · rfl
  · rename_i more
    simp [h] at more

-- How many retries the engine makes until it has found the next token, or none.
def searchRetries (cs : List Char) : Nat :=
  2 * blanks cs + match cs.dropWhile Unicode.isBlank with
    | [] => 2
    | x :: rest => retries (x :: rest)

def nextVerdict (c : Cursor) : Regex.Verdict :=
  match c.after.dropWhile Unicode.isBlank with
  | [] => .absent
  | _ :: _ => .found (matched (c.skip (blanks c.after)))

theorem searchFinds (c : Cursor) (left : Nat) :
    Regex.Verdict.ofSearch (Regex.searchPlan plan c left) =
      if searchRetries c.after ≤ left then nextVerdict c else .givenUp := by
  induction h : c.after generalizing c left with
  | nil =>
    match left with
    | 0 => simp [searchShort, h, searchRetries, blanks, Regex.Verdict.ofSearch]
    | 1 => simp [searchShort, h, searchRetries, blanks, Regex.Verdict.ofSearch]
    | left + 2 => simp [searchEnd h, searchRetries, blanks, Regex.Verdict.ofSearch, nextVerdict, h]
  | cons x rest ih =>
    cases blank : Unicode.isBlank x with
    | false =>
      rw [searchSolid h blank, h]
      simp [searchRetries, blanks, nextVerdict, h, blank]
    | true =>
      have next : (c.skip 1).after = rest := by simp [h]
      have more : searchRetries (x :: rest) = searchRetries rest + 2 := by
        simp only [searchRetries, blanks, List.takeWhile_cons, blank, if_true, List.dropWhile_cons,
          List.length_cons]
        omega
      have same : nextVerdict (c.skip 1) = nextVerdict c := by
        simp [nextVerdict, h, blank, blanks, Nat.add_comm 1]
      match left with
      | 0 => simp [searchShort, h, blank, more, Regex.Verdict.ofSearch]
      | 1 => simp [searchShort, h, blank, more, Regex.Verdict.ofSearch]
      | left + 2 =>
        rw [searchBlank h blank, ih (c.skip 1) left next, same, more]
        simp only [Nat.add_le_add_iff_right]

-- The start of the next token, if there is one.
def ahead (c : Cursor) : Cursor := c.skip (blanks c.after)

theorem aheadAfter {c : Cursor} {x : Char} {rest : List Char}
    (h : c.after.dropWhile Unicode.isBlank = x :: rest) : (ahead c).after = x :: rest := by
  rw [ahead, Cursor.skipAfter, dropBlanks, h]

theorem scanUnfold (c : Cursor) :
    regex.scanFrom c =
      if searchRetries c.after ≤ Regex.retryLimit then
        match c.after.dropWhile Unicode.isBlank with
        | [] => ⟨[], true⟩
        | x :: rest =>
          let more := regex.scanFrom ((ahead c).skip (tokenSize (x :: rest)))
          ⟨matched (ahead c) :: more.found, more.complete⟩
      else ⟨[], false⟩ := by
  rw [Regex.scanFrom, Regex.searchPlanned regexPlanned, searchFinds]
  by_cases within : searchRetries c.after ≤ Regex.retryLimit
  · rw [if_pos within, if_pos within, nextVerdict]
    cases h : c.after.dropWhile Unicode.isBlank with
    | nil => rfl
    | cons x rest =>
      have here := aheadAfter h
      have shorter : (matched (ahead c)).last.after.length < c.after.length := by
        rw [matched, Cursor.skipAfter, here]
        exact restShorter h
      simp only
      rw [ahead] at here shorter
      rw [if_pos shorter, ahead, matched, here]
  · rw [if_neg within, if_neg within]

def spanOf (m : Match) : Nat × Nat := (m.first.index, m.last.index)

theorem matchedSpan (c : Cursor) :
    spanOf (matched c) = (c.index, c.index + tokenSize c.after) := rfl

/-- A scan that is not given up finds what the scanner finds, in the same places. -/
theorem scanAgrees (c : Cursor) (complete : (regex.scanFrom c).complete = true) :
    (regex.scanFrom c).found.map (ofMatch regex) = scan c.after ∧
      (regex.scanFrom c).found.map spanOf = spans c.index c.after := by
  induction size : c.after.length using Nat.strongRecOn generalizing c with
  | ind size ih =>
    rw [scanUnfold] at complete ⊢
    by_cases within : searchRetries c.after ≤ Regex.retryLimit
    · rw [if_pos within] at complete ⊢
      cases h : c.after.dropWhile Unicode.isBlank with
      | nil =>
        rw [scanNil h, spansNil _ h]
        exact ⟨rfl, rfl⟩
      | cons x rest =>
        have here := aheadAfter h
        simp only [h] at complete ⊢
        have shorter := restShorter h
        rw [← here, ← Cursor.skipAfter, here] at shorter
        obtain ⟨tokens, places⟩ := ih _ (by omega) _ complete rfl
        rw [scanCons h, spansCons _ h, List.map_cons, List.map_cons, matchedToken, matchedSpan,
          tokens, places, Cursor.skipAfter, here]
        exact ⟨rfl, rfl⟩
    · rw [if_neg within] at complete
      contradiction

theorem retriesFit (cs : List Char) : searchRetries cs ≤ 2 * cs.length + 2 := by
  have whole := blanksFit cs
  rw [searchRetries]
  split
  · omega
  · rename_i x rest h
    have few : retries (x :: rest) ≤ (x :: rest).length := by
      rw [retries]
      split
      · exact Nat.zero_le _
      · exact wordFits _
    rw [h] at whole
    omega

theorem shortComplete (c : Cursor) (short : 2 * c.after.length + 2 ≤ Regex.retryLimit) :
    (regex.scanFrom c).complete = true := by
  induction size : c.after.length using Nat.strongRecOn generalizing c with
  | ind size ih =>
    have within : searchRetries c.after ≤ Regex.retryLimit :=
      Nat.le_trans (retriesFit c.after) short
    rw [scanUnfold, if_pos within]
    cases h : c.after.dropWhile Unicode.isBlank with
    | nil => rfl
    | cons x rest =>
      have here := aheadAfter h
      have shorter := restShorter h
      rw [← here, ← Cursor.skipAfter, here] at shorter
      exact ih _ (by omega) _ (by omega) rfl

end Scrollback.Search.Token
