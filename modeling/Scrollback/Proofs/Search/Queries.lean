import Scrollback.Proofs.Search.TokenMatches

/-! How a query is read, from its characters to the tests that it asks for: a scanner that never
goes back takes it apart, and one pass over the tokens collects the tests. This holds as long
as no search for a token is given up, so in particular of every query of ordinary size. -/
namespace Scrollback.Search

namespace Token

-- All tokens are found before the retries run out.
def isScanned (query : String) : Prop :=
  ∃ r, pattern = .ok r ∧ (r.scan query).complete = true

-- Where the tokens of a query start and end.
def places (query : String) : List (Nat × Nat) :=
  match pattern with
  | .ok r => (r.scan query).found.map spanOf
  | .error _ => []

theorem scannedComplete {query : String} (scanned : isScanned query) :
    (regex.scanFrom (.start query.toList)).complete = true := by
  obtain ⟨r, read, complete⟩ := scanned
  rw [patternRead] at read
  cases read
  exact complete

theorem listScanned {query : String} (scanned : isScanned query) :
    list query = Scanner.scan query.toList := by
  rw [list, patternRead]
  exact (scanAgrees _ (scannedComplete scanned)).1

theorem placesScanned {query : String} (scanned : isScanned query) :
    places query = Scanner.spans 0 query.toList := by
  rw [places, patternRead]
  exact (scanAgrees _ (scannedComplete scanned)).2

theorem shortScanned {query : String} (short : 2 * query.length + 2 ≤ Regex.retryLimit) :
    isScanned query :=
  ⟨regex, patternRead, shortComplete _ (by rwa [Regex.Cursor.start, String.length_toList])⟩

end Token

-- The text without a quote at its start and one at its end.
def unquoted (text : String) : String :=
  let cs := text.toList
  let cs := if cs.head? = some '"' then cs.tail else cs
  String.ofList (if cs.getLast? = some '"' then cs.dropLast else cs)

theorem frontUnquoted (cs : List Char) :
    (match cs with | '"' :: rest => rest | cs => cs) =
      if cs.head? = some '"' then cs.tail else cs := by
  split
  · rfl
  · rename_i other
    cases cs with
    | nil => rfl
    | cons x rest =>
      refine (if_neg fun quote => ?_).symm
      cases Option.some.inj quote
      exact other rest rfl

theorem backUnquoted (cs : List Char) :
    (match cs.reverse with | '"' :: rest => String.ofList rest.reverse | _ => String.ofList cs) =
      String.ofList (if cs.getLast? = some '"' then cs.dropLast else cs) := by
  rw [← List.head?_reverse]
  split
  · rename_i rest same
    have whole := congrArg List.reverse same
    rw [List.reverse_reverse, List.reverse_cons] at whole
    simp [whole]
  · rename_i other
    cases h : cs.reverse with
    | nil => simp
    | cons x rest =>
      refine congrArg String.ofList (if_neg fun quote => ?_).symm
      cases Option.some.inj quote
      exact other rest h

theorem plainUnquoted (t : Token) : t.plainValue = unquoted t.value := by
  rw [Token.plainValue, unquoted, ← frontUnquoted]
  exact backUnquoted _

theorem namesTestIf (make : List String → Predicate) (names : List String) :
    namesTest make names = if names = [] then [] else [make names] := by
  cases names <;> rfl

structure Collected where
  tests : List Predicate := []
  authors : List String := []
  channels : List String := []

namespace Collected

def add (c : Collected) (t : Token) : Collected :=
  let value := unquoted t.value
  if t.name = "from" then { c with authors := c.authors ++ [value] }
  else if t.name = "in" then { c with channels := c.channels ++ [value] }
  else if t.name = "is" then { c with tests := c.tests ++ [.ofFlagNames value] }
  else if t.name = "regex" then { c with tests := c.tests ++ [.ofRegex value true] }
  else if t.name = "has" ∧ value = "link" then { c with tests := c.tests ++ [.link] }
  else { c with tests := c.tests ++ [.substring t.text] }

def finish (c : Collected) : List Predicate :=
  c.tests ++ (if c.authors = [] then [] else [.author c.authors])
    ++ (if c.channels = [] then [] else [.channel c.channels])

theorem addParts (c : Collected) (t : Token) :
    c.add t = ⟨c.tests ++ t.predicate?.toList, c.authors ++ t.author?.toList,
      c.channels ++ t.channel?.toList⟩ := by
  unfold add Token.author? Token.channel?
  simp only [beq_iff_eq]
  by_cases author : t.name = "from"
  · simp [author, Token.predicate?, plainUnquoted]
  by_cases channel : t.name = "in"
  · simp [channel, Token.predicate?, plainUnquoted]
  by_cases flags : t.name = "is"
  · simp [flags, Token.predicate?, plainUnquoted]
  by_cases pattern : t.name = "regex"
  · simp [pattern, Token.predicate?, plainUnquoted]
  by_cases kind : t.name = "has"
  · by_cases link : unquoted t.value = "link" <;>
      simp [kind, link, Token.predicate?, plainUnquoted]
  · have word : t.predicate? = some (.substring t.text) := by
      unfold Token.predicate?
      split <;> first | contradiction | rfl
    simp [author, channel, flags, pattern, kind, word]

theorem foldParts (c : Collected) (ts : List Token) :
    ts.foldl add c = ⟨c.tests ++ ts.filterMap Token.predicate?,
      c.authors ++ ts.filterMap Token.author?, c.channels ++ ts.filterMap Token.channel?⟩ := by
  induction ts generalizing c with
  | nil => simp
  | cons t ts ih =>
    rw [List.foldl_cons, ih, addParts]
    simp only [List.append_assoc, Collected.mk.injEq, List.append_cancel_left_eq]
    refine ⟨?_, ?_, ?_⟩
    · cases h : t.predicate? <;> simp [h]
    · cases h : t.author? <;> simp [h]
    · cases h : t.channel? <;> simp [h]

theorem finishFold (ts : List Token) : (ts.foldl add {}).finish = ofTokens ts := by
  rw [foldParts, finish, ofTokens, namesTestIf, namesTestIf]
  rfl

end Collected

/-- The tokens of a query are those of the scanner, and lie where it says; they cover all but
blanks; and the tests are collected from them in one pass. -/
theorem queryRead {query : String} (scanned : Token.isScanned query) :
    Token.list query = Scanner.scan query.toList ∧
    Token.places query = Scanner.spans 0 query.toList ∧
    Scanner.Covers 0 query.toList (Token.places query) ∧
    (Token.list query).map (·.text.toList) =
      (Token.places query).map (fun s => (query.toList.drop s.1).take (s.2 - s.1)) ∧
    parse query = ((Scanner.scan query.toList).foldl Collected.add {}).finish := by
  have tokens := Token.listScanned scanned
  have places := Token.placesScanned scanned
  refine ⟨tokens, places, ?_, ?_, ?_⟩
  · rw [places]
    exact Scanner.coversSpans 0 query.toList
  · rw [tokens, places]
    exact Scanner.textsCut [] query.toList
  · rw [parse, tokens, Collected.finishFold]

theorem quotedQueryRead :
    Token.isScanned "from:\"ann arbor\"x a: in:\"\" b:\"c" ∧
    Token.list "from:\"ann arbor\"x a: in:\"\" b:\"c" =
      [⟨"from:\"ann arbor\"", "from", "\"ann arbor\""⟩, ⟨"x", "", ""⟩, ⟨"a:", "", ""⟩,
        ⟨"in:\"\" b:\"", "in", "\"\" b:\""⟩, ⟨"c", "", ""⟩] := by
  have scanned : Token.isScanned "from:\"ann arbor\"x a: in:\"\" b:\"c" :=
    Token.shortScanned (by decide)
  exact ⟨scanned, (queryRead scanned).1.trans (by cbv)⟩

end Scrollback.Search
