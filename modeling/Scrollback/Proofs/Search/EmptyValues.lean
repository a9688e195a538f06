import Scrollback.Proofs.Search.Clauses
import Scrollback.Proofs.Search.Joined

/-! Names whose value is a pair of quotes with nothing between them. The second of these quotes cannot
end the value, since a value in quotes has a character inside, so the value is empty only if no
further quote is on the line; else it goes on up to that quote, over all that is written there. -/
namespace Scrollback.Search
open Unicode

-- The names whose values are gathered into one test.
inductive Gathered where
  | author | channel
  deriving DecidableEq

namespace Gathered

def name : Gathered → String
  | .author => "from"
  | .channel => "in"

def test : Gathered → List String → Predicate
  | .author => .author
  | .channel => .channel

def token (g : Gathered) (value : String) : Token := ⟨g.name ++ ":" ++ value, g.name, value⟩

theorem nameWords (g : Gathered) :
    g.name.toList ≠ [] ∧ ∀ c ∈ g.name.toList, isWord c = true := by
  cases g <;> simp [name, isWord]

theorem tokenTest (g : Gathered) (value : String) :
    ofTokens [g.token value] = [g.test [unquoted value]] := by
  cases g <;> simp [ofTokens, token, name, test, Token.predicate?, Token.author?, Token.channel?,
    namesTest, plainUnquoted]

theorem testToken (g : Gathered) (value : String) (query : String) :
    merge [g.test [value]] (parse query) =
      ofTokens (g.token ("\"" ++ value ++ "\"") :: Token.list query) := by
  have made := g.tokenTest ("\"" ++ value ++ "\"")
  rw [Clause.quotedPlain] at made
  rw [parse, ← made, mergeTokens, List.singleton_append]

def value? : Gathered → Token → Option String
  | .author => Token.author?
  | .channel => Token.channel?

def names : Gathered → Predicate → List String
  | .author => Predicate.authors
  | .channel => Predicate.channels

theorem namesTaken (g : Gathered) (ts : List Token) :
    (ofTokens ts).flatMap g.names = ts.filterMap g.value? := by
  cases g with
  | author => exact authorsTaken ts
  | channel => exact channelsTaken ts

theorem tokenValue (g : Gathered) (value : String) :
    g.value? (g.token value) = some (unquoted value) := by
  cases g <;> simp [value?, token, name, Token.author?, Token.channel?, plainUnquoted]

-- The first value that is gathered can be told from the tests, whatever comes after it.
theorem firstTold {g : Gathered} {v w p q : String}
    (same : merge [g.test [v]] (parse p) = merge [g.test [w]] (parse q)) : v = w := by
  have names := congrArg (List.flatMap g.names) same
  rw [testToken, testToken, g.namesTaken, g.namesTaken] at names
  simp only [List.filterMap_cons, tokenValue, Clause.quotedPlain] at names
  exact (List.cons.inj names).1

section Value
variable {g : Gathered} {query rest : String} {value : List Char}
  (written : query.toList = g.name.toList ++ ':' :: value ++ rest.toList)
  (size : Scanner.valueSize? (value ++ rest.toList) = some value.length)
include written size

theorem scanValue :
    Scanner.scan query.toList = g.token (String.ofList value) :: Scanner.scan rest.toList := by
  obtain ⟨named, words⟩ := g.nameWords
  have text : String.ofList (g.name.toList ++ ':' :: value) =
      g.name ++ ":" ++ String.ofList value := String.toList_inj.mp (by simp)
  rw [written, Scanner.scanNamed named words size, text, String.ofList_toList, token]

-- A named value is found at once, so only what follows it can be given up.
theorem scannedRest : Token.isScanned query ↔ Token.isScanned rest := by
  obtain ⟨named, words⟩ := g.nameWords
  obtain ⟨x, more, first⟩ := List.exists_cons_of_ne_nil
    (show g.name.toList ++ ':' :: value ++ rest.toList ≠ [] by simp)
  have solid : isBlank x = false := by
    have head := Scanner.namedSolid named words (':' :: value ++ rest.toList)
    rw [← List.append_assoc, first] at head
    exact head x rfl
  have here : query.toList.dropWhile isBlank = x :: more := by
    rw [written, first, List.dropWhile_cons_of_neg (by simp [solid])]
  have left : ((Token.ahead (.start query.toList)).skip (Scanner.tokenSize (x :: more))).after =
      rest.toList := by
    rw [Token.restAfter here, ← first, Scanner.namedWhole named words size, List.drop_left]
  constructor
  · intro scanned
    have further := ((Token.completeUnfold _).mp (Token.scannedComplete scanned)).2 x more here
    exact ⟨_, Token.patternRead, Token.completeSame left further⟩
  · intro scanned
    have quick : Token.retries (x :: more) = 0 := by
      rw [Token.retries, ← first, Scanner.namedFound named words size]
    have none : Token.searchRetries query.toList = 0 := by
      rw [Token.searchRetries, here]
      simp [quick, written, first, Scanner.blanks, solid]
    refine ⟨_, Token.patternRead, (Token.completeUnfold _).mpr ⟨?_, fun y tail same => ?_⟩⟩
    · exact none ▸ Nat.zero_le _
    · obtain ⟨rfl, rfl⟩ := List.cons.inj (here.symm.trans same)
      exact Token.completeSame left.symm (Token.scannedComplete scanned)

theorem parseValue (scanned : Token.isScanned query) :
    parse query = merge [g.test [unquoted (String.ofList value)]] (parse rest) := by
  have later := (scannedRest written size).mp scanned
  rw [parse, Token.listScanned scanned, scanValue written size, parse, Token.listScanned later,
    ← tokenTest, mergeTokens, List.singleton_append]

end Value

theorem valueAlone {g : Gathered} {query : String} {value : List Char}
    (written : query.toList = g.name.toList ++ ':' :: value)
    (size : Scanner.valueSize? value = some value.length) :
    parse query = [g.test [unquoted (String.ofList value)]] := by
  have before : query.toList = g.name.toList ++ ':' :: value ++ "".toList := by simp [written]
  have size : Scanner.valueSize? (value ++ "".toList) = some value.length := by simpa using size
  have empty : Token.isScanned "" := Token.shortScanned (by decide)
  have nothing : parse "" = ofTokens [] := by
    rw [parse, Token.listScanned empty]
    exact congrArg ofTokens (Scanner.scanNil rfl)
  rw [parseValue before size ((scannedRest before size).mpr empty), nothing, ← tokenTest,
    mergeTokens, List.append_nil]

end Gathered

def firstLine (cs : List Char) : List Char := cs.takeWhile (· != '\n')

namespace Scanner

theorem quoteInLine {before after : List Char} (line : '\n' ∉ before) :
    '"' ∈ firstLine (before ++ '"' :: after) := by
  have passes : ∀ c ∈ before, (c != '\n') = true := by
    intro c member
    have newline : c ≠ '\n' := fun same => line (same ▸ member)
    simpa using newline
  rw [firstLine, List.takeWhile_append_of_pos passes, List.takeWhile_cons_of_pos (by decide)]
  simp

theorem lineWithQuote {cs : List Char} (quote : '"' ∈ firstLine cs) :
    ∃ before after, cs = before ++ '"' :: after ∧ '"' ∉ before ∧ '\n' ∉ before := by
  obtain ⟨before, after, line, unquoted⟩ := List.eq_append_cons_of_mem quote
  have whole : firstLine cs ++ cs.dropWhile (· != '\n') = cs := List.takeWhile_append_dropWhile
  refine ⟨before, after ++ cs.dropWhile (· != '\n'), ?_, unquoted, fun newline => ?_⟩
  · rw [line, List.append_assoc] at whole
    exact whole.symm
  · have inLine : '\n' ∈ firstLine cs := line ▸ List.mem_append_left _ newline
    have passes := List.all_eq_true.mp List.all_takeWhile '\n' inLine
    contradiction

theorem emptyValue {cs : List Char} (alone : '"' ∉ firstLine cs) :
    valueSize? ('"' :: '"' :: ' ' :: cs) = some 2 := by
  have unclosed : (' ' :: cs)[innerSize (' ' :: cs)]? ≠ some '"' := by
    intro closed
    have size : innerSize (' ' :: cs) = innerSize cs + 1 := by simp [innerSize]
    rw [size, List.getElem?_cons_succ] at closed
    obtain ⟨inside, quote⟩ := List.getElem?_eq_some_iff.mp closed
    have whole := List.take_append_drop (innerSize cs) cs
    rw [List.drop_eq_getElem_cons inside, quote] at whole
    have line : '\n' ∉ cs.take (innerSize cs) := by
      rw [innerSize, ← List.prefix_iff_eq_take.mp (List.takeWhile_prefix _)]
      intro newline
      have passes := List.all_eq_true.mp List.all_takeWhile '\n' newline
      contradiction
    exact alone (whole ▸ quoteInLine line)
  have bare : quotedSize? ('"' :: '"' :: ' ' :: cs) = none := by
    rw [quotedSize?, if_neg fun closed => unclosed closed.2]
  have word : wordSize ('"' :: '"' :: ' ' :: cs) = 2 := by
    have quote : isBlank '"' = false := by decide
    have blank : isBlank ' ' = true := by decide
    simp [wordSize, quote, blank]
  rw [valueSize?, bare, word]
  rfl

end Scanner

namespace Gathered

-- A name with an empty value, and what follows after a blank.
def emptied (g : Gathered) (rest : String) : String := g.name ++ ":\"\" " ++ rest

theorem emptyAlone (g : Gathered) : parse (g.name ++ ":\"\"") = [g.test [""]] := by
  have written : (g.name ++ ":\"\"").toList = g.name.toList ++ ':' :: ['"', '"'] := by simp
  exact valueAlone written (by decide)

theorem emptyOpen {g : Gathered} {rest : String} (scanned : Token.isScanned (g.emptied rest))
    (alone : '"' ∉ firstLine rest.toList) :
    Token.isScanned rest ∧ parse (g.emptied rest) = merge [g.test [""]] (parse rest) := by
  have written : (g.emptied rest).toList =
      g.name.toList ++ ':' :: ['"', '"'] ++ (" " ++ rest).toList := by simp [emptied]
  have size : Scanner.valueSize? (['"', '"'] ++ (" " ++ rest).toList) =
      some ['"', '"'].length := by simpa using Scanner.emptyValue alone
  have blankFirst : Token.isScanned (" " ++ rest) := (scannedRest written size).mp scanned
  have apart : Scanner.Separates ' ' "".toList := ⟨by decide, .inr (by simp)⟩
  have later : Token.isScanned rest := (joinedScanned (a := "") apart blankFirst).2
  have skipped : parse (" " ++ rest) = parse rest := by
    have blank : (" " ++ rest).toList = ' ' :: rest.toList := by simp
    rw [parse, Token.listScanned blankFirst, blank, Scanner.scanBlank (by decide), parse,
      Token.listScanned later]
  refine ⟨later, ?_⟩
  rw [parseValue written size scanned, skipped]
  rfl

theorem emptyClosed {g : Gathered} {rest before after : String}
    (scanned : Token.isScanned (g.emptied rest)) (cut : rest = before ++ "\"" ++ after)
    (unquoted : '"' ∉ before.toList) (line : '\n' ∉ before.toList) :
    parse (g.emptied rest) = merge [g.test ["\" " ++ before]] (parse after) := by
  have written : (g.emptied rest).toList =
      g.name.toList ++ ':' :: ("\"" ++ ("\" " ++ before) ++ "\"").toList ++ after.toList := by
    simp [emptied, cut]
  have size : Scanner.valueSize? (("\"" ++ ("\" " ++ before) ++ "\"").toList ++ after.toList) =
      some ("\"" ++ ("\" " ++ before) ++ "\"").toList.length := by
    have closed : Scanner.valueSize? ('"' :: '"' :: (' ' :: before.toList ++ '"' :: after.toList)) =
        some ((' ' :: before.toList).length + 3) :=
      Scanner.closedValue (by decide) (by simpa using unquoted) (by simpa using line) after.toList
    simpa using closed
  rw [parseValue written size scanned, String.ofList_toList, Clause.quotedPlain]

/-- A name with an empty value asks for the empty name if it stands alone. Before other text this is so
exactly if no quote follows on the same line; else the value goes on to that quote, and what the
query asks for besides is read from behind it. -/
theorem emptyValues (g : Gathered) {rest : String} (scanned : Token.isScanned (g.emptied rest)) :
    parse (g.name ++ ":\"\"") = [g.test [""]] ∧
    (parse (g.emptied rest) = merge [g.test [""]] (parse rest) ↔
      '"' ∉ firstLine rest.toList) ∧
    ∀ before after, rest = before ++ "\"" ++ after → '"' ∉ before.toList → '\n' ∉ before.toList →
      parse (g.emptied rest) = merge [g.test ["\" " ++ before]] (parse after) := by
  refine ⟨g.emptyAlone, ⟨fun same quote => ?_, fun alone => (emptyOpen scanned alone).2⟩,
    fun before after cut unquoted line => emptyClosed scanned cut unquoted line⟩
  obtain ⟨before, after, cut, unquoted, line⟩ := Scanner.lineWithQuote quote
  have whole : rest = String.ofList before ++ "\"" ++ String.ofList after :=
    String.toList_inj.mp (by simp [cut])
  rw [emptyClosed scanned whole (by simpa using unquoted) (by simpa using line)] at same
  have told := congrArg String.toList (firstTold same)
  simp at told

theorem emptyChannelSwallows :
    Token.isScanned (Gathered.channel.emptied "from:\"ann\" hi") ∧
    Gathered.channel.emptied "from:\"ann\" hi" = "in:\"\" from:\"ann\" hi" ∧
    parse "in:\"\" from:\"ann\" hi" = merge [.channel ["\" from:"]] (parse "ann\" hi") ∧
    parse "in:\"\" from:\"ann\" hi" ≠ merge [.channel [""]] (parse "from:\"ann\" hi") ∧
    parse "from:\"\" hi\nin:\"#a\"" = merge [.author [""]] (parse "hi\nin:\"#a\"") := by
  have scanned : Token.isScanned (Gathered.channel.emptied "from:\"ann\" hi") :=
    Token.shortScanned (by decide)
  have twoLines : Token.isScanned (Gathered.author.emptied "hi\nin:\"#a\"") :=
    Token.shortScanned (by decide)
  obtain ⟨-, exactly, closed⟩ := emptyValues .channel scanned
  refine ⟨scanned, rfl, closed "from:" "ann\" hi" rfl (by decide) (by decide), ?_,
    (emptyValues .author twoLines).2.1.mpr (by decide)⟩
  exact fun same => exactly.mp same (by decide)

end Gathered

end Scrollback.Search
