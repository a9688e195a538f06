import Scrollback.Highlight.Settings
import Scrollback.Proofs.Ignore.Entries
import Scrollback.Proofs.Search.EmptyValues

/-! A search for an author finds whom the same name ignores or blocks. Ignoring and blocking compare
names up to the case of ASCII letters, while a search compares their lower-case forms, which agree
whenever such names do. -/
namespace Scrollback.Search
open Unicode

theorem Gathered.quotedAlone (g : Gathered) {value : String} (filled : value ≠ "")
    (unquoted : '"' ∉ value.toList) (line : '\n' ∉ value.toList) :
    parse (g.name ++ ":\"" ++ value ++ "\"") = [g.test [value]] := by
  have written : (g.name ++ ":\"" ++ value ++ "\"").toList =
      g.name.toList ++ ':' :: ("\"" ++ value ++ "\"").toList := by simp
  have closed := Scanner.quotedValue (mt String.toList_eq_nil_iff.mp filled) unquoted line []
  have size : Scanner.valueSize? ("\"" ++ value ++ "\"").toList =
      some ("\"" ++ value ++ "\"").toList.length := by simpa using closed
  rw [Gathered.valueAlone written size, String.ofList_toList, Clause.quotedPlain]

theorem foldedNamesakes {a b : String} (same : Text.sameName a b = true) :
    Predicate.sameFolded a b = true := by
  rw [Predicate.sameFolded, beq_iff_eq]
  exact Text.lowercaseSame ((Text.sameNameIff a b).mp same)

-- An entry without blanks that is read as a user is the name of the user.
theorem ignoredUser {n : String} {f : Ignore.Filter} (solid : ∀ c ∈ n.toList, isBlank c = false)
    (read : Ignore.Filter.parse n = .ok f) (any : f.channel = none) :
    Ignore.Nick n ∧ f = ⟨none, some n⟩ := by
  have entry := Ignore.readEntry read
  rw [Ignore.trimSolid solid] at entry
  cases entry with
  | nick nick unmarked => exact ⟨nick, rfl⟩
  | channel named => cases any
  | both cut blank nick => cases any

/-- Every test of a search for an author accepts the messages of those whom the same name ignores or
blocks, since names that are the same up to ASCII case have one lower-case form. -/
theorem namesakesFound {n : String} (solid : ∀ c ∈ n.toList, isBlank c = false)
    (unquoted : '"' ∉ n.toList) {f : Ignore.Filter} (read : Ignore.Filter.parse n = .ok f)
    (any : f.channel = none) {settings : Highlight.Settings} (blocked : settings.blocked = [n]) :
    parse ("from:\"" ++ n ++ "\"") = [.author [n]] ∧
    (∀ m : Message, f.hides m = true ∨ settings.isBlocked m.author = true →
      ∀ p ∈ parse ("from:\"" ++ n ++ "\""), p.accepts m = true) ∧
    ∀ a b, Text.sameName a b = true → Predicate.sameFolded a b = true := by
  obtain ⟨nick, rfl⟩ := ignoredUser solid read any
  have line : '\n' ∉ n.toList := fun newline => by
    have blank := solid '\n' newline
    contradiction
  have asked : parse ("from:\"" ++ n ++ "\"") = [.author [n]] :=
    Gathered.quotedAlone .author nick.filled unquoted line
  refine ⟨asked, fun m found p member => ?_, fun a b => foldedNamesakes⟩
  have same : Text.sameName n m.author = true := by
    rcases found with hidden | barred
    · simpa [Ignore.Filter.hides] using hidden
    · simpa [Highlight.Settings.isBlocked, blocked] using barred
  rw [asked, List.mem_singleton] at member
  rw [member, Predicate.accepts, List.any_cons, foldedNamesakes same, Bool.true_or]

def sigmaName : String := "ANNΣ"

theorem sigmaFound :
    Ignore.Filter.parse sigmaName = .ok ⟨none, some sigmaName⟩ ∧
    Text.sameName sigmaName "annΣ" = true ∧
    ∀ m : Message, m.author = "annΣ" → ∀ p ∈ parse ("from:\"" ++ sigmaName ++ "\""), p.accepts m = true := by
  have solid : ∀ c ∈ sigmaName.toList, isBlank c = false := by simp [sigmaName, isBlank]
  have nick : Ignore.Nick sigmaName := ⟨by decide, solid⟩
  have read := Ignore.userRead nick (by decide)
  have same : Text.sameName sigmaName "annΣ" = true := by decide
  let settings : Highlight.Settings := { blocked := [sigmaName] }
  have blocked : settings.blocked = [sigmaName] := rfl
  have found := (namesakesFound solid (by simp [sigmaName]) read rfl blocked).2.1
  refine ⟨read, same, fun m author => found m (.inl ?_)⟩
  simp [Ignore.Filter.hides, author, same]

end Scrollback.Search
