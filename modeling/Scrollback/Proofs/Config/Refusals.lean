import Mathlib
import Scrollback.Proofs.Config.RuleForms

/-! Documents that are refused for one of their parts. A section or a list can be read only if each
of its parts can be, so a document with a table that is no rule is no configuration. -/
namespace Scrollback.Config.Decode

open Toml (Value)
open Highlight (Pattern)

section Parts

variable {σ α : Type} {fields : List (Field σ)} {start s : σ} {C : String → Value → Prop}

-- A part of a section: under its name, or in its place.
inductive PartOf (names : List String) (name : String) (w : Value) : Value → Prop where
  | named {o : Toml.Origin} {entries : List (String × Value)} (member : (name, w) ∈ entries) :
      PartOf names name w (.table o entries)
  | placed {b : Bool} {items : List Value} {i : Nat} (place : names[i]? = some name)
      (item : items[i]? = some w) : PartOf names name w (.array b items)

-- If a section can be read then each part of it can be.
def Field.Takes (f : Field σ) (P : Value → Prop) : Prop := ∀ v s s', f.set v s = .ok s' → P v

theorem fieldTakes {name : String} {value : Decode α} {set : σ → α → σ} {P : Value → Prop}
    (each : ∀ v, Fine (value v) → P v) : (field name value set).Takes P := by
  intro v s s' ok
  obtain ⟨a, read, -⟩ := boundOk ok
  exact each v ⟨a, read⟩

theorem listTakes {item : Decode α} {b : Bool} {items : List Value}
    (ok : Fine (list item (.array b items))) : ∀ v ∈ items, Fine (item v) := by
  obtain ⟨found, ok⟩ := ok
  change items.mapM item = .ok found at ok
  induction items generalizing found with
  | nil => exact List.forall_mem_nil _
  | cons v rest ih =>
    rw [List.mapM_cons] at ok
    obtain ⟨a, read, ok⟩ := boundOk ok
    obtain ⟨more, others, -⟩ := boundOk ok
    exact List.forall_mem_cons.mpr ⟨⟨a, read⟩, ih more others⟩

section Takes

variable (takes : ∀ f ∈ fields, f.Takes (C f.name))
include takes

theorem entriesTake {entries : List (String × Value)} (ok : ofEntries fields start entries = .ok s)
    {name : String} {w : Value} (member : (name, w) ∈ entries) (known : name ∈ names fields) :
    C name w := by
  rw [entriesFold] at ok
  obtain ⟨x, y, taken⟩ := foldTaken ok _ member
  obtain ⟨f, found⟩ : ∃ f, fields.find? (·.name == name) = some f := by
    rw [← Option.isSome_iff_exists, List.find?_isSome]
    simpa [names] using known
  have same : f.name = name := by simpa using List.find?_some found
  rw [fieldStep, found] at taken
  exact same ▸ takes f (List.mem_of_find?_eq_some found) _ _ _ taken

theorem itemsTake {items : List Value} (ok : ofItems fields start items = .ok s) {i : Nat}
    {name : String} {w : Value} (place : (names fields)[i]? = some name)
    (item : items[i]? = some w) : C name w := by
  induction fields generalizing start items i with
  | nil => cases place
  | cons f fields ih =>
    cases items with
    | nil => cases item
    | cons v rest =>
      obtain ⟨next, set, ok⟩ := boundOk ok
      cases i with
      | zero =>
        cases place
        cases item
        exact takes f (.head _) _ _ _ set
      | succ i => exact ih (fun f member => takes f (.tail _ member)) ok place item

theorem recordTakes {v : Value} (ok : record start fields v = .ok s) {name : String} {w : Value}
    (part : PartOf (names fields) name w v) (known : name ∈ names fields) : C name w := by
  cases part with
  | named member => exact entriesTake takes ok member known
  | placed place item => exact itemsTake takes ok place item

end Takes

end Parts

section Documents

def sectionNames : List String :=
  ["subscription", "whisper", "self", "users", "match", "badges", "blocked", "colors"]

-- A document has a value for one of its rules.
def Ruled (document : Toml.Entries) (v : Value) : Prop :=
  ∃ settings, ∃ name ∈ ["users", "match"], ∃ b rules, ("highlights", settings) ∈ document ∧
    PartOf sectionNames name (.array b rules) settings ∧ v ∈ rules

-- Each rule of a part for rules can be read.
def RulesFine (name : String) (w : Value) : Prop :=
  name ∈ ["users", "match"] → ∀ b rules, w = .array b rules → ∀ v ∈ rules, Fine (rule v)

theorem highlightsTake {settings w : Value} {name : String} (ok : Fine (highlights settings))
    (part : PartOf sectionNames name w settings) (listed : name ∈ ["users", "match"]) :
    RulesFine name w := by
  obtain ⟨s, ok⟩ := ok
  have known : name ∈ sectionNames := by
    simp only [List.mem_cons, List.not_mem_nil, or_false] at listed
    rcases listed with rfl | rfl <;> decide
  have rules {set : Highlight.Settings → List Highlight.Rule → Highlight.Settings} {name : String} :
      (field name (list rule) set).Takes (RulesFine name) :=
    fieldTakes fun v fine _ b items same => listTakes (same ▸ fine)
  have other {f : Field Highlight.Settings} (apart : f.name ∉ ["users", "match"]) :
      f.Takes (RulesFine f.name) := fun _ _ _ _ member => absurd member apart
  refine recordTakes (C := RulesFine) ?_ ok part known
  simp only [List.forall_mem_cons, List.not_mem_nil, false_implies, implies_true, and_true]
  exact ⟨other (by decide), other (by decide), other (by decide), rules, rules,
    other (by decide), other (by decide), other (by decide)⟩

theorem documentTakes {document : Toml.Entries} {config : Config} {v : Value}
    (ok : ofEntries Decode.fields {} document = .ok config) (ruled : Ruled document v) :
    Fine (rule v) := by
  obtain ⟨settings, name, listed, b, rules, member, part, inside⟩ := ruled
  have takes : ∀ f ∈ Decode.fields,
      f.Takes fun v => f.name = "highlights" → Fine (highlights v) := by
    have other {f : Field Config} (apart : f.name ≠ "highlights") :
        f.Takes fun v => f.name = "highlights" → Fine (highlights v) :=
      fun _ _ _ _ same => absurd same apart
    simp only [Decode.fields, List.forall_mem_cons, List.not_mem_nil, false_implies, implies_true,
      and_true]
    exact ⟨fieldTakes fun v fine _ => fine, other (by decide), other (by decide),
      other (by decide), other (by decide), other (by decide)⟩
  have fine := entriesTake (C := fun name v => name = "highlights" → Fine (highlights v)) takes ok
    member (by decide) rfl
  exact highlightsTake fine part listed listed b rules rfl v inside

-- Reading the highlights comes to a cut text for a colour.
def ComesToCut (document : Toml.Entries) : Prop :=
  ∃ before v after, document = before ++ ("highlights", v) :: after ∧
    Fine (ofEntries Decode.fields {} before) ∧ HighlightsCut v

theorem documentBreaks (document : Toml.Entries) :
    Breaks (ofEntries Decode.fields {} document) (ComesToCut document) := by
  have known : "highlights" ∈ names Decode.fields := by decide
  refine (entriesBreak (C := fun name v => name = "highlights" ∧ HighlightsCut v)
    fieldsBreak document {}).same ⟨?_, ?_⟩
  · rintro ⟨before, ⟨name, v⟩, after, rfl, fine, -, same, cut⟩
    obtain rfl : name = "highlights" := same
    exact ⟨before, v, after, rfl, fine, cut⟩
  · rintro ⟨before, v, after, rfl, fine, cut⟩
    exact ⟨before, ("highlights", v), after, rfl, fine, known, rfl, cut⟩

/-- A table with sides that fit is the rule that its form asks for, whatever else it holds: some
words, by default of any case, and otherwise a regular expression, by default of the case it has. It
is invalid if it has neither form, and if what it holds beside its sides cannot be kept. A document
with a table that does not make a pattern is never a configuration. It is invalid, unless reading it
comes to a cut text for a colour. -/
theorem ruleForms (o : Toml.Origin) (entries : List (String × Value)) :
    (SidesFit entries →
      (OthersHeld entries → ∃ side, ruleParts {} (sides entries) = .ok side ∧
        (∀ made, Asks entries made → rule (.table o entries) = side.ruleOf made) ∧
        ((∀ made, ¬Asks entries made) → rule (.table o entries) = .error .invalid)) ∧
      (¬OthersHeld entries → rule (.table o entries) = .error .invalid)) ∧
    ∀ text document, Toml.parse? text = some document → Ruled document (.table o entries) →
      (∀ p, ¬Asks entries (.ok p)) →
        (∀ config, Config.parse text ≠ .ok config) ∧
        (¬ComesToCut document → Config.parse text = .error .invalid) := by
  constructor
  · intro fits
    refine ⟨fun held => ?_, ruleUnheld fits⟩
    obtain ⟨side, read, each⟩ := ruleAsked (o := o) fits held
    exact ⟨side, read, each, fun none => rulePatternless fits fun p => none (.ok p)⟩
  · intro text document parsed ruled none
    have refused (config : Config) : ofEntries Decode.fields {} document ≠ .ok config := fun ok => by
      obtain ⟨r, made⟩ := documentTakes ok ruled
      obtain ⟨parts, p, -, asks, -⟩ := ruleOk.mp made
      exact none p asks
    rw [Config.parse, parsed]
    refine ⟨refused, fun uncut => ((documentBreaks document).settled uncut).resolve_left ?_⟩
    rintro ⟨config, ok⟩
    exact refused config ok

theorem annMade : Pattern.ofWords ["ann"] true =
    .ok ⟨Pattern.wordsSource ["ann"], Highlight.Words.regex true ["ann"]⟩ :=
  (Highlight.Words.ofWordsRead rfl).trans (if_pos (by decide))

def wordedRule : List (String × Value) :=
  [("alert", .boolean true), ("regex", .integer 3), ("words", .array false [.string "ann"]),
    ("note", .integer 7)]

def strayRule : List (String × Value) :=
  [("words", .array false [.string "ann"]), ("x", .integer 99999999999999999999)]

theorem strayUnheld : ¬OthersHeld strayRule := fun held => by
  have bounded := held ("x", .integer 99999999999999999999) (.tail _ (.head _)) (by decide) _ .here
  exact absurd bounded.2 (by decide)

theorem strayFits : SidesFit strayRule := by
  simp [SidesFit, strayRule, sideKeys]

def shapelessText : String := "[[highlights.match]]\nwords = 3\n"

def shapelessRule : List (String × Value) := [("words", .integer 3)]

def shapeless : Toml.Entries :=
  [("highlights", .table .implied [("match", .array true [.table .header shapelessRule])])]

theorem shapelessUncut : ¬ComesToCut shapeless := fun cut => by
  have refused : ofEntries Decode.fields {} shapeless = .error .invalid := rfl
  cases refused.symm.trans ((documentBreaks shapeless .splitCharacter nofun).mpr ⟨rfl, cut⟩)

-- Neither a regular expression that is no text nor an unknown key hinders a rule with words.
theorem wordedMade :
    (∃ r, rule (.table .header wordedRule) = .ok r ∧
      Pattern.ofWords ["ann"] true = .ok r.pattern ∧ r.alert = true) ∧
    rule (.table .header strayRule) = .error .invalid ∧
    Config.parse shapelessText = .error .invalid := by
  have asks : Asks wordedRule (Pattern.ofWords ["ann"] true) :=
    .words ⟨⟨false, rfl⟩, .unsaid rfl⟩
  have fits : SidesFit wordedRule := by
    simp [SidesFit, wordedRule, sideKeys, Fits.alert]
  have held : OthersHeld wordedRule := by
    have kept : ∀ entry ∈ wordedRule, keep entry.2 = .ok () := by
      simp only [wordedRule, List.forall_mem_cons, List.not_mem_nil, false_implies, implies_true,
        and_true]
      exact ⟨rfl, rfl, rfl, rfl⟩
    exact fun entry member _ => (keepOk entry.2).mp (kept entry member)
  refine ⟨?_, ((ruleForms .header strayRule).1 strayFits).2 strayUnheld, ?_⟩
  · obtain ⟨side, read, each, -⟩ := ((ruleForms .header wordedRule).1 fits).1 held
    cases read
    rw [each _ asks, annMade]
    exact ⟨_, rfl, rfl, rfl⟩
  · have ruled : Ruled shapeless (.table .header shapelessRule) :=
      ⟨_, "match", .tail _ (.head _), true, _, .head _, .named (.head _), .head _⟩
    exact ((ruleForms .header shapelessRule).2 shapelessText shapeless (by cbv) ruled
      fun p asks => nomatch patternAsked.mpr asks).2 shapelessUncut

def strayText : String := "[[highlights.users]]\nwords = [\"ann\"]\nx = 99999999999999999999\n"

def stray : Toml.Entries :=
  [("highlights", .table .implied [("users", .array true [.table .header strayRule])])]

def isStray : Toml.Entries → Bool
  | [(a, .table .implied [(b, .array true [.table .header
      [(c, .array false [.string word]), (d, .integer n)]])])] =>
    [a, b, c, word, d] = ["highlights", "users", "words", "ann", "x"] ∧ n = 99999999999999999999
  | _ => false

theorem strayKnown {document : Toml.Entries} (known : isStray document = true) :
    document = stray := by
  rw [isStray.eq_def] at known
  split at known
  · simp only [List.cons.injEq, and_true, decide_eq_true_eq] at known
    obtain ⟨⟨rfl, rfl, rfl, rfl, rfl⟩, rfl⟩ := known
    rfl
  · cases known

theorem strayRead : Toml.parse? strayText = some stray := by
  have known : (Toml.parse? strayText).any isStray = true := by decide +kernel
  -- The text is too long to be read by evaluation in the goal.
  generalize Toml.parse? strayText = read at known ⊢
  cases read with
  | none => cases known
  | some document => exact congrArg some (strayKnown known)

/-- A table that lists words can be no rule, because of what another key holds. -/
theorem strayRefused :
    Toml.parse? strayText = some stray ∧ Ruled stray (.table .header strayRule) ∧
      SidesFit strayRule ∧ ListsWords strayRule ["ann"] true ∧
      (∃ p, Pattern.ofWords ["ann"] true = .ok p) ∧
      rule (.table .header strayRule) = .error .invalid ∧
      Config.parse strayText = .error .invalid := by
  have ruled : Ruled stray (.table .header strayRule) :=
    ⟨_, "users", .head _, true, _, .head _, .named (.head _), .head _⟩
  have listed : ListsWords strayRule ["ann"] true := ⟨⟨false, rfl⟩, .unsaid rfl⟩
  refine ⟨strayRead, ruled, strayFits, listed, ⟨_, annMade⟩, ruleUnheld strayFits strayUnheld, ?_⟩
  rw [Config.parse, strayRead]
  rfl

end Documents

end Scrollback.Config.Decode
