import Scrollback.Proofs.Config.Cuts
import Scrollback.Proofs.Search.Queries
import Scrollback.Search.Session

/-! Tests that are called equal. Two patterns are compared by what they were made from, with the
mark for the case of letters if they are valid, and what a pattern does is settled by that. -/
namespace Scrollback

theorem Regex.parsedSource {source : String} {r : Regex} (parsed : parse source = .ok r) :
    r.source = source := by
  obtain ⟨reading, -, parsed⟩ := boundValue.mp parsed
  obtain ⟨program, -, parsed⟩ := boundValue.mp parsed
  dsimp only at parsed
  split at parsed
  · contradiction
  · cases parsed
    rfl

namespace Search

section Patterns

variable {source other : String} {ignoreCase otherCase : Bool}

-- A pattern is what it was made from: no pattern is valid in one mode of case and the same as in
-- the other.
theorem Pattern.createSame
    (sources : (create source ignoreCase).source = (create other otherCase).source)
    (compiled : (create source ignoreCase).regex.map (·.source) =
      (create other otherCase).regex.map (·.source)) :
    create source ignoreCase = create other otherCase := by
  obtain rfl : source = other := sources
  rw [create, create] at compiled ⊢
  dsimp only at compiled
  generalize (if ignoreCase then "(?i)" else "") ++ source = given at compiled ⊢
  generalize (if otherCase then "(?i)" else "") ++ source = further at compiled ⊢
  cases first : Regex.parse given with
  | error =>
    cases second : Regex.parse further with
    | error => rfl
    | ok r => simp [first, second, Except.toOption] at compiled
  | ok r =>
    cases second : Regex.parse further with
    | error => simp [first, second, Except.toOption] at compiled
    | ok r' =>
      have given : given = further := by
        simpa [first, second, Except.toOption, Regex.parsedSource first, Regex.parsedSource second]
          using compiled
      rw [given, second] at first
      cases first
      rfl

end Patterns

namespace Predicate

-- The tests that can be made.
inductive Made : Predicate → Prop where
  | substring (text : String) : Made (.substring text)
  | regex (source : String) (ignoreCase : Bool) : Made (.ofRegex source ignoreCase)
  | flags (names : String) : Made (.ofFlagNames names)
  | author (names : List String) : Made (.author names)
  | channel (names : List String) : Made (.channel names)
  | link : Made .link

-- Two patterns can be equal without being the same; all other tests are equal only to themselves.
inductive Equal : Predicate → Predicate → Prop where
  | same (p : Predicate) : Equal p p
  | patterns {p q : Pattern} (sources : p.source = q.source)
      (compiled : p.regex.map (·.source) = q.regex.map (·.source)) : Equal (.regex p) (.regex q)

theorem equalIff {p q : Predicate} : (p == q) = true ↔ Equal p q := by
  constructor
  · intro equal
    cases p <;> cases q
    case regex.regex =>
      obtain ⟨sources, compiled⟩ := Bool.and_eq_true_iff.mp equal
      exact .patterns (eq_of_beq sources) (eq_of_beq compiled)
    case substring.substring a b => exact (eq_of_beq (α := String) equal) ▸ .same _
    case flags.flags a b => exact (eq_of_beq (α := Flags) equal) ▸ .same _
    case author.author a b => exact (eq_of_beq (α := List String) equal) ▸ .same _
    case channel.channel a b => exact (eq_of_beq (α := List String) equal) ▸ .same _
    case link.link => exact .same _
    all_goals contradiction
  · rintro (_ | ⟨sources, compiled⟩)
    · cases p
      case regex p => exact Bool.and_eq_true_iff.mpr ⟨beq_self_eq_true _, beq_self_eq_true _⟩
      case link => rfl
      case substring a => exact beq_self_eq_true a
      case flags a => exact beq_self_eq_true a
      case author a => exact beq_self_eq_true a
      case channel a => exact beq_self_eq_true a
    · exact Bool.and_eq_true_iff.mpr ⟨beq_iff_eq.mpr sources, beq_iff_eq.mpr compiled⟩

instance : ReflBEq Predicate := ⟨equalIff.mpr (.same _)⟩

theorem equalEquivalence : Equivalence Equal where
  refl := .same
  symm
    | .same p => .same p
    | .patterns sources compiled => .patterns sources.symm compiled.symm
  trans := by
    intro p q r first second
    cases first with
    | same => exact second
    | patterns sources compiled =>
      cases second with
      | same => exact .patterns sources compiled
      | patterns sources' compiled' =>
        exact .patterns (sources.trans sources') (compiled.trans compiled')

theorem madeSame {p q : Predicate} (first : Made p) (second : Made q) (equal : Equal p q) :
    p = q := by
  cases equal with
  | same => rfl
  | patterns sources compiled =>
    cases first
    cases second
    exact congrArg Predicate.regex (Pattern.createSame sources compiled)

theorem allSame {ps qs : List Predicate} (first : ∀ p ∈ ps, Made p) (second : ∀ q ∈ qs, Made q)
    (same : (ps == qs) = true) : ps = qs := by
  induction ps generalizing qs with
  | nil =>
    cases qs with
    | nil => rfl
    | cons => contradiction
  | cons p ps ih =>
    cases qs with
    | nil => contradiction
    | cons q qs =>
      obtain ⟨here, rest⟩ := Bool.and_eq_true_iff.mp same
      obtain ⟨pMade, first⟩ := List.forall_mem_cons.mp first
      obtain ⟨qMade, second⟩ := List.forall_mem_cons.mp second
      rw [madeSame pMade qMade (equalIff.mp here), ih first second rest]

theorem tokenMade {t : Token} {p : Predicate} (asked : t.predicate? = some p) : Made p := by
  unfold Token.predicate? at asked
  split at asked
  case h_6 => exact Option.some.inj asked ▸ .substring _
  all_goals cases asked
  · exact .flags _
  · exact .regex _ _
  · split
    · exact .link
    · exact .substring _

theorem namesMade {make : List String → Predicate} (made : ∀ names, Made (make names))
    (names : List String) : ∀ p ∈ namesTest make names, Made p := by
  intro p member
  cases names with
  | nil => contradiction
  | cons => exact List.mem_singleton.mp member ▸ made _

theorem parseMade (query : String) : ∀ p ∈ parse query, Made p := by
  intro p member
  rcases List.mem_append.mp member with member | channels
  · rcases List.mem_append.mp member with test | authors
    · obtain ⟨t, -, asked⟩ := List.mem_filterMap.mp test
      exact tokenMade asked
    · exact namesMade .author _ p authors
  · exact namesMade .channel _ p channels

/-- Equality of tests is an equivalence, equal tests accept the same messages, and so do queries
that are read as equal lists of tests, whatever is searched in and whatever else a message has to
pass. -/
theorem equalAccept :
    Equivalence (fun p q : Predicate => (p == q) = true) ∧
    (∀ p q, Made p → Made q → (p == q) = true → ∀ m, p.accepts m = q.accepts m) ∧
    ∀ a b, (parse a == parse b) = true → ∀ name snapshot further,
      (filter (parse a) name snapshot further).messages =
        (filter (parse b) name snapshot further).messages := by
  refine ⟨?_, fun p q first second equal m => ?_, fun a b equal name snapshot further => ?_⟩
  · simp only [equalIff]
    exact equalEquivalence
  · rw [madeSame first second (equalIff.mp equal)]
  · rw [allSame (parseMade a) (parseMade b) equal]

-- An invalid pattern is the same in both modes of case, and a name or a value can be spelled in two
-- ways.
theorem spelledAlike :
    ((ofRegex "[" true == ofRegex "[" false) = true ∧
      ∀ m, (ofRegex "[" true).accepts m = (ofRegex "[" false).accepts m) ∧
    (parse "regex:[ is:ban" == parse "regex:\"[\" is:timeout") = true ∧
      ∀ name snapshot further,
        (filter (parse "regex:[ is:ban") name snapshot further).messages =
          (filter (parse "regex:\"[\" is:timeout") name snapshot further).messages := by
  have invalid : (ofRegex "[" true == ofRegex "[" false) = true := by cbv
  have bare : Scanner.scan "regex:[ is:ban".toList =
      [⟨"regex:[", "regex", "["⟩, ⟨"is:ban", "is", "ban"⟩] := by cbv
  have quoted : Scanner.scan "regex:\"[\" is:timeout".toList =
      [⟨"regex:\"[\"", "regex", "\"[\""⟩, ⟨"is:timeout", "is", "timeout"⟩] := by cbv
  have same : parse "regex:[ is:ban" = parse "regex:\"[\" is:timeout" := by
    rw [parse, Token.listScanned (Token.shortScanned (by decide)), bare, parse,
      Token.listScanned (Token.shortScanned (by decide)), quoted]
    rfl
  have equal : (parse "regex:[ is:ban" == parse "regex:\"[\" is:timeout") = true := by
    rw [same]
    exact beq_self_eq_true _
  exact ⟨⟨invalid, equalAccept.2.1 _ _ (.regex _ _) (.regex _ _) invalid⟩, equal,
    equalAccept.2.2 _ _ equal⟩

end Predicate

end Search

end Scrollback
