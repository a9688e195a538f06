import Scrollback.Proofs.Search.Clauses
import Scrollback.Search.Session

/-! Queries without quotes. Each word of such a query is one token, whatever stands before and after
it, and a message has to pass the test of every token, so what is found depends on which words
there are and on nothing else. With quotes a token can go over blanks and this does not hold. -/
namespace Scrollback.Search
open Unicode

def charWords (cs : List Char) : List (List Char) := (cs.splitOnP isBlank).filter (!·.isEmpty)

-- What stands between blanks.
def words (text : String) : List String := (charWords text.toList).map String.ofList

theorem wordsApart {w : Char} (blank : isBlank w = true) (cs ds : List Char) :
    charWords (cs ++ w :: ds) = charWords cs ++ charWords ds := by
  unfold charWords
  rw [List.splitOnP_append_cons cs ds blank, List.filter_append]

theorem wordAlone {cs : List Char} (solid : ∀ c ∈ cs, isBlank c = false) :
    charWords cs = if cs = [] then [] else [cs] := by
  unfold charWords
  rw [List.splitOnP_eq_singleton solid]
  cases cs <;> simp

namespace Scanner

theorem unquotedSize {cs : List Char} (plain : '"' ∉ cs) : quotedSize? cs = none := by
  unfold quotedSize?
  split
  · exact absurd List.mem_cons_self plain
  · rfl

theorem solidSize {cs : List Char} (solid : ∀ c ∈ cs, isBlank c = false) :
    wordSize cs = cs.length := by
  have ends : Ends [] := by simp [Ends]
  simpa using wordWhole solid ends

theorem plainSize {cs : List Char} (solid : ∀ c ∈ cs, isBlank c = false) (plain : '"' ∉ cs) :
    tokenSize cs = cs.length := by
  unfold tokenSize
  split
  · rename_i n v named
    obtain ⟨colon, value⟩ := namedParts named
    have inside : n < cs.length := (List.getElem?_eq_some_iff.mp colon).1
    have bare : '"' ∉ cs.drop (n + 1) := fun quote => plain (List.mem_of_mem_drop quote)
    have rest : wordSize (cs.drop (n + 1)) = cs.length - (n + 1) := by
      rw [solidSize fun c member => solid c (List.mem_of_mem_drop member), List.length_drop]
    simp only [valueSize?, unquotedSize bare, rest] at value
    split at value
    · contradiction
    · cases Option.some.inj value
      omega
  · exact solidSize solid

theorem scanAlone {cs : List Char} (solid : ∀ c ∈ cs, isBlank c = false) (plain : '"' ∉ cs) :
    scan cs = (charWords cs).map tokenAt := by
  rw [wordAlone solid]
  by_cases filled : cs = []
  · subst filled
    exact scanNil rfl
  · have nothing : scan [] = [] := scanNil rfl
    have whole : tokenSize (cs ++ []) = cs.length := by rw [List.append_nil, plainSize solid plain]
    have token := scanToken filled (fun x first => solid x (List.mem_of_mem_head? first)) whole rfl
    rw [List.append_nil, nothing] at token
    rw [token, if_neg filled, List.map_singleton]

/- Up to the first blank there is one word, and no token goes over that blank. -/
theorem scanWords {cs : List Char} (plain : '"' ∉ cs) : scan cs = (charWords cs).map tokenAt := by
  induction size : cs.length using Nat.strongRecOn generalizing cs with
  | ind size ih =>
    have front : ∀ c ∈ cs.takeWhile (!isBlank ·), isBlank c = false := by
      intro c member
      simpa using List.all_eq_true.mp List.all_takeWhile c member
    have whole : cs.takeWhile (!isBlank ·) ++ cs.dropWhile (!isBlank ·) = cs :=
      List.takeWhile_append_dropWhile
    generalize cs.takeWhile (!isBlank ·) = word at front whole
    cases rest : cs.dropWhile (!isBlank ·) with
    | nil =>
      rw [rest, List.append_nil] at whole
      subst whole
      exact scanAlone front plain
    | cons w more =>
      have blank : isBlank w = true := by
        have head := List.head?_dropWhile_not (!isBlank ·) cs
        rw [rest] at head
        simpa using head
      rw [rest] at whole
      subst whole
      simp only [List.mem_append, List.mem_cons, not_or] at plain
      have further : scan more = (charWords more).map tokenAt := by
        refine ih more.length ?_ plain.2.2 rfl
        simp only [List.length_append, List.length_cons] at size
        omega
      rw [scanSeparated ⟨blank, .inr plain.1⟩, wordsApart blank, List.map_append,
        scanAlone front plain.1, further]

end Scanner

theorem plainTokens {query : String} (plain : '"' ∉ query.toList)
    (scanned : Token.isScanned query) :
    Token.list query = (words query).map fun w => Scanner.tokenAt w.toList := by
  rw [Token.listScanned scanned, Scanner.scanWords plain, words, List.map_map]
  simp [Function.comp_def]

theorem namesMet (make : List String → Predicate) {m : Message} {met : String → Bool}
    (any : ∀ names, (make names).accepts m = names.any met) (names : List String) :
    (namesTest make names).all (·.accepts m) = true ↔
      ∀ name ∈ names, ∃ other ∈ names, met other = true := by
  cases names with
  | nil => simp [namesTest]
  | cons name names =>
    have made : (namesTest make (name :: names)).all (·.accepts m) = (name :: names).any met := by
      simp [namesTest, any]
    rw [made, List.any_eq_true]
    exact ⟨fun some _ _ => some, fun each => each name List.mem_cons_self⟩

-- What a message has to meet: every test in place, and a name of each list that is not empty.
theorem testsMet (ts : List Token) (m : Message) :
    (ofTokens ts).all (·.accepts m) = true ↔
      (∀ p ∈ ts.filterMap Token.predicate?, p.accepts m = true) ∧
      (∀ name ∈ ts.filterMap Token.author?, ∃ other ∈ ts.filterMap Token.author?,
        Predicate.sameFolded other m.author = true) ∧
      ∀ name ∈ ts.filterMap Token.channel?, ∃ other ∈ ts.filterMap Token.channel?,
        Predicate.sameFolded other m.channel = true := by
  have authors := namesMet .author (m := m) (fun _ => rfl) (ts.filterMap Token.author?)
  have channels := namesMet .channel (m := m) (fun _ => rfl) (ts.filterMap Token.channel?)
  rw [ofTokens, List.all_append, List.all_append, Bool.and_eq_true, Bool.and_eq_true, authors,
    channels, List.all_eq_true, and_assoc]

theorem testsAlike {ts us : List Token} (same : ∀ t, t ∈ ts ↔ t ∈ us) (m : Message) :
    (ofTokens ts).all (·.accepts m) = (ofTokens us).all (·.accepts m) := by
  rw [Bool.eq_iff_iff, testsMet, testsMet]
  simp only [List.mem_filterMap, same]

/-- Two queries without quotes that have the same words find the same messages in the same order.
Neither the order of the words counts, nor how often they come, nor which blanks are between. -/
theorem wordsDecide {a b : String} (plainA : '"' ∉ a.toList) (plainB : '"' ∉ b.toList)
    (scannedA : Token.isScanned a) (scannedB : Token.isScanned b)
    (same : ∀ w, w ∈ words a ↔ w ∈ words b) (s : Session) : s.search a = s.search b := by
  have tokens : ∀ t, t ∈ Token.list a ↔ t ∈ Token.list b := by
    intro t
    rw [plainTokens plainA scannedA, plainTokens plainB scannedB]
    simp only [List.mem_map, same]
  have tests : ∀ m : Message, (parse a).all (·.accepts m) = (parse b).all (·.accepts m) :=
    fun m => testsAlike tokens m
  simp only [Session.search, filter, tests]

theorem shuffledFinds :
    '"' ∉ "hi from:ann\thi  in:#a from:bob ".toList ∧
    '"' ∉ "from:bob in:#a\u3000from:ann hi".toList ∧
    Token.isScanned "hi from:ann\thi  in:#a from:bob " ∧
    Token.isScanned "from:bob in:#a\u3000from:ann hi" ∧
    words "hi from:ann\thi  in:#a from:bob " = ["hi", "from:ann", "hi", "in:#a", "from:bob"] ∧
    words "from:bob in:#a\u3000from:ann hi" = ["from:bob", "in:#a", "from:ann", "hi"] ∧
    ∀ s : Session, s.search "hi from:ann\thi  in:#a from:bob " =
      s.search "from:bob in:#a\u3000from:ann hi" := by
  have plainA : '"' ∉ "hi from:ann\thi  in:#a from:bob ".toList := by decide
  have plainB : '"' ∉ "from:bob in:#a\u3000from:ann hi".toList := by decide
  have scannedA : Token.isScanned "hi from:ann\thi  in:#a from:bob " :=
    Token.shortScanned (by decide)
  have scannedB : Token.isScanned "from:bob in:#a\u3000from:ann hi" :=
    Token.shortScanned (by decide)
  have wordsA : words "hi from:ann\thi  in:#a from:bob " =
      ["hi", "from:ann", "hi", "in:#a", "from:bob"] := by decide
  have wordsB : words "from:bob in:#a\u3000from:ann hi" =
      ["from:bob", "in:#a", "from:ann", "hi"] := by decide
  have same : ∀ w, w ∈ words "hi from:ann\thi  in:#a from:bob " ↔
      w ∈ words "from:bob in:#a\u3000from:ann hi" := by
    intro w
    rw [wordsA, wordsB]
    simp only [List.mem_cons, List.not_mem_nil]
    tauto
  exact ⟨plainA, plainB, scannedA, scannedB, wordsA, wordsB,
    wordsDecide plainA plainB scannedA scannedB same⟩

end Scrollback.Search
