import Scrollback.Proofs.Search.Queries
import Scrollback.Proofs.Search.Separated

/-! Queries that are written one after the other. What they ask for is merged: the tests of both
in their order, then all authors as one test and all channels as one test. Nothing is said of
queries that only a blank inside quotes holds together. -/
namespace Scrollback.Search

namespace Predicate

def authors : Predicate → List String
  | .author names => names
  | _ => []

def channels : Predicate → List String
  | .channel names => names
  | _ => []

-- Whether a predicate stands where its token stands in the query, and not at the end.
def inPlace : Predicate → Bool
  | .author _ | .channel _ => false
  | _ => true

end Predicate

def merge (ps qs : List Predicate) : List Predicate :=
  let authors := (ps ++ qs).flatMap Predicate.authors
  let channels := (ps ++ qs).flatMap Predicate.channels
  (ps ++ qs).filter Predicate.inPlace ++ (if authors = [] then [] else [.author authors])
    ++ (if channels = [] then [] else [.channel channels])

theorem testPlain {t : Token} {p : Predicate} (test : t.predicate? = some p) :
    p.inPlace = true ∧ p.authors = [] ∧ p.channels = [] := by
  unfold Token.predicate? at test
  split at test
  · contradiction
  · contradiction
  · cases test
    exact ⟨rfl, rfl, rfl⟩
  · cases test
    exact ⟨rfl, rfl, rfl⟩
  · cases test
    split <;> exact ⟨rfl, rfl, rfl⟩
  · cases test
    exact ⟨rfl, rfl, rfl⟩

theorem testsPlain {ts : List Token} {p : Predicate} (member : p ∈ ts.filterMap Token.predicate?) :
    p.inPlace = true ∧ p.authors = [] ∧ p.channels = [] := by
  obtain ⟨t, -, test⟩ := List.mem_filterMap.mp member
  exact testPlain test

theorem testsTaken (ts : List Token) :
    (ofTokens ts).filter Predicate.inPlace = ts.filterMap Token.predicate? := by
  have tests : (ts.filterMap Token.predicate?).filter Predicate.inPlace =
      ts.filterMap Token.predicate? :=
    List.filter_eq_self.mpr fun p member => (testsPlain member).1
  rw [ofTokens, List.filter_append, List.filter_append, tests, namesTestIf, namesTestIf]
  split <;> split <;> simp [Predicate.inPlace]

theorem namesTaken {make : List String → Predicate} {part : Predicate → List String}
    (empty : part (make []) = []) (names : List String) :
    (namesTest make names).flatMap part = part (make names) := by
  cases names with
  | nil => exact empty.symm
  | cons name names => simp [namesTest]

-- What is collected from the tokens stands in the last predicates only.
theorem partTaken {part : Predicate → List String} (ts : List Token)
    (plain : ∀ p ∈ ts.filterMap Token.predicate?, part p = [])
    (noAuthors : part (.author []) = []) (noChannels : part (.channel []) = []) :
    (ofTokens ts).flatMap part =
      part (.author (ts.filterMap Token.author?)) ++
        part (.channel (ts.filterMap Token.channel?)) := by
  rw [ofTokens, List.flatMap_append, List.flatMap_append, List.flatMap_eq_nil_iff.mpr plain,
    namesTaken noAuthors, namesTaken noChannels, List.nil_append]

theorem authorsTaken (ts : List Token) :
    (ofTokens ts).flatMap Predicate.authors = ts.filterMap Token.author? := by
  rw [partTaken ts (fun _ member => (testsPlain member).2.1) rfl rfl]
  exact List.append_nil _

theorem channelsTaken (ts : List Token) :
    (ofTokens ts).flatMap Predicate.channels = ts.filterMap Token.channel? :=
  partTaken ts (fun _ member => (testsPlain member).2.2) rfl rfl

theorem mergeTokens (ts us : List Token) :
    merge (ofTokens ts) (ofTokens us) = ofTokens (ts ++ us) := by
  rw [merge, List.flatMap_append, List.flatMap_append, List.filter_append, authorsTaken,
    authorsTaken, channelsTaken, channelsTaken, testsTaken, testsTaken, ofTokens, namesTestIf,
    namesTestIf, List.filterMap_append, List.filterMap_append, List.filterMap_append]

theorem joinedScanned {a b : String} {w : Char} (apart : Scanner.Separates w a.toList)
    (scanned : Token.isScanned (a ++ String.singleton w ++ b)) :
    Token.isScanned a ∧ Token.isScanned b := by
  have complete := Token.scannedComplete scanned
  have joined : (a ++ String.singleton w ++ b).toList = a.toList ++ w :: b.toList := by simp
  obtain ⟨first, second⟩ := @Token.completeSeparated w _ (.start a.toList) (.start b.toList) apart
    joined complete
  exact ⟨⟨_, Token.patternRead, first⟩, ⟨_, Token.patternRead, second⟩⟩

theorem parseJoined {a b : String} {w : Char} (apart : Scanner.Separates w a.toList)
    (scanned : Token.isScanned (a ++ String.singleton w ++ b)) :
    parse (a ++ String.singleton w ++ b) = merge (parse a) (parse b) := by
  obtain ⟨first, second⟩ := joinedScanned apart scanned
  have together : (a ++ String.singleton w ++ b).toList = a.toList ++ w :: b.toList := by simp
  rw [parse, parse, parse, Token.listScanned scanned, Token.listScanned first,
    Token.listScanned second, mergeTokens, together, Scanner.scanSeparated apart]

/-- Two queries with a line break between them ask for what each of them asks for, merged. Any other
blank does as well if the first has no quotes. -/
theorem joinedQueries (a b : String) :
    (Token.isScanned (a ++ "\n" ++ b) → parse (a ++ "\n" ++ b) = merge (parse a) (parse b)) ∧
    (∀ w, Unicode.isBlank w = true → '"' ∉ a.toList →
      Token.isScanned (a ++ String.singleton w ++ b) →
      parse (a ++ String.singleton w ++ b) = merge (parse a) (parse b)) := by
  constructor
  · intro scanned
    exact parseJoined (w := '\n') ⟨by decide, .inl rfl⟩ scanned
  · intro w blank plain scanned
    exact parseJoined ⟨blank, .inr plain⟩ scanned

theorem openQuoteThenBlank :
    Token.isScanned ("x from:\"a" ++ "\n" ++ "b\" in:c from:d") ∧
    parse ("x from:\"a" ++ "\n" ++ "b\" in:c from:d") =
      merge (parse "x from:\"a") (parse "b\" in:c from:d") ∧
    merge (parse "x from:\"a") (parse "b\" in:c from:d") =
      [.substring "x", .substring "b\"", .author ["a", "d"], .channel ["c"]] ∧
    Unicode.isBlank '\u3000' = true ∧ '"' ∉ "in:c is:sub from:".toList ∧
    Token.isScanned ("in:c is:sub from:" ++ String.singleton '\u3000' ++ "\"a b\" in:\"d e\"") ∧
    parse ("in:c is:sub from:" ++ String.singleton '\u3000' ++ "\"a b\" in:\"d e\"") =
      merge (parse "in:c is:sub from:") (parse "\"a b\" in:\"d e\"") := by
  have line : Token.isScanned ("x from:\"a" ++ "\n" ++ "b\" in:c from:d") :=
    Token.shortScanned (by decide)
  have wide : Token.isScanned
      ("in:c is:sub from:" ++ String.singleton '\u3000' ++ "\"a b\" in:\"d e\"") :=
    Token.shortScanned (by decide)
  have blank : Unicode.isBlank '\u3000' = true := by decide
  have plain : '"' ∉ "in:c is:sub from:".toList := by decide
  exact ⟨line, (joinedQueries _ _).1 line, by cbv, blank, plain, wide,
    (joinedQueries _ _).2 _ blank plain wide⟩

end Scrollback.Search
