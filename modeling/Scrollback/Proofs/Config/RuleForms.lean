import Mathlib
import Scrollback.Proofs.Config.Held
import Scrollback.Proofs.Highlight.UserNames

/-! What a rule looks for, as its table says. Words come before a regular expression, and each has a
default of its own for the case of letters. A table without either, or with one that makes no
pattern, is no rule. -/
namespace Scrollback.Config.Decode

open Toml (Value)
open Highlight (Pattern)

section Sides

variable {entries : List (String × Value)} {s t : RuleParts} {key : String} {v : Value}

-- The keys of a rule that say nothing of what it looks for.
def sideKeys : List String := ["alert", "sound", "sound_url", "color", "show_in_mentions"]

theorem sideNames : names ruleFields = sideKeys := rfl

inductive Fits : String → Value → Prop where
  | alert (b : Bool) : Fits "alert" (.boolean b)
  | sound (b : Bool) : Fits "sound" (.boolean b)
  | soundUrl {text : String} {u : Url} (read : Url.parse? text = some u) :
      Fits "sound_url" (.string text)
  | color {text : String} {c : Color} (read : Color.parse text = .ok c) :
      Fits "color" (.string text)
  | showInMentions (b : Bool) : Fits "show_in_mentions" (.boolean b)

def SidesFit (entries : List (String × Value)) : Prop :=
  ∀ entry ∈ entries, entry.1 ∈ sideKeys → Fits entry.1 entry.2

def OthersHeld (entries : List (String × Value)) : Prop :=
  ∀ entry ∈ entries, entry.1 ∉ sideKeys → Held entry.2

def sides (entries : List (String × Value)) : List (String × Value) :=
  entries.filter (·.1 ∈ sideKeys)

-- All that is read of a rule but what is kept of other keys.
def RuleParts.side (s : RuleParts) : RuleParts := { s with others := [] }

-- A side that fits is read, and what is kept of other keys has no part in it.
theorem sideRead (fits : Fits key v) :
    ∃ f, ∃ put : RuleParts → RuleParts, ruleFields.find? (·.name == key) = some f ∧
      (∀ s, f.set v s = .ok (put s)) ∧ ∀ s, (put s).side = put s.side := by
  cases fits with
  | alert b => exact ⟨_, fun s => { s with alert := b }, rfl, fun _ => rfl, fun _ => rfl⟩
  | sound b => exact ⟨_, fun s => { s with sound := b }, rfl, fun _ => rfl, fun _ => rfl⟩
  | @soundUrl text u read =>
    have taken : url (.string text) = .ok u := boundValue.mpr ⟨text, rfl, by rw [read]; rfl⟩
    refine ⟨_, fun s => { s with soundUrl := some u }, rfl, fun s => ?_, fun _ => rfl⟩
    exact boundValue.mpr ⟨u, taken, rfl⟩
  | @color text c read =>
    have taken : color (.string text) = .ok c := boundValue.mpr ⟨text, rfl, by rw [read]; rfl⟩
    refine ⟨_, fun s => { s with color := some c }, rfl, fun s => ?_, fun _ => rfl⟩
    exact boundValue.mpr ⟨c, taken, rfl⟩
  | showInMentions b =>
    exact ⟨_, fun s => { s with showInMentions := b }, rfl, fun _ => rfl, fun _ => rfl⟩

theorem colorFits {text : String} (fits : Fits "color" (.string text)) :
    ∃ c, Color.parse text = .ok c := by
  generalize same : "color" = key at fits
  cases fits with
  | color read => exact ⟨_, read⟩
  | soundUrl => exact absurd same (by decide)

theorem otherUnread (other : key ∉ sideKeys) : ruleFields.find? (·.name == key) = none := by
  rw [← sideNames, names, List.mem_map, not_exists] at other
  rw [List.find?_eq_none]
  exact fun f listed same => other f ⟨listed, by simpa using same⟩

-- Other keys do not change what is read of the sides.
theorem sidesAlone (fits : SidesFit entries) (held : OthersHeld entries) (same : s.side = t.side) :
    ∃ parts side, ruleParts s entries = .ok parts ∧ ruleParts t (sides entries) = .ok side ∧
      parts.side = side.side := by
  induction entries generalizing s t with
  | nil => exact ⟨s, t, rfl, rfl, same⟩
  | cons entry rest ih =>
    obtain ⟨key, v⟩ := entry
    obtain ⟨fit, fits⟩ := List.forall_mem_cons.mp fits
    obtain ⟨kept, held⟩ := List.forall_mem_cons.mp held
    by_cases known : key ∈ sideKeys
    · obtain ⟨f, put, found, set, apart⟩ := sideRead (fit known)
      have next : (put s).side = (put t).side := by rw [apart, apart, same]
      have first : sides ((key, v) :: rest) = (key, v) :: sides rest :=
        List.filter_cons_of_pos (by simpa using known)
      rw [first, ruleParts, ruleParts, found]
      dsimp only
      rw [set, set]
      exact ih fits held next
    · have first : sides ((key, v) :: rest) = sides rest :=
        List.filter_cons_of_neg (by simpa using known)
      rw [first, ruleParts, otherUnread known]
      dsimp only
      rw [(keepOk v).mpr (kept known)]
      exact ih fits held same

end Sides

section Forms

variable {entries : List (String × Value)} {o : Toml.Origin} {words : List String}
  {source : String} {default ignoreCase : Bool} {made : Except Pattern.Error Pattern}

-- What a rule says of the case of letters, if it does.
inductive CaseSaid (entries : List (String × Value)) (default : Bool) : Bool → Prop where
  | unsaid (absent : entries.lookup "case_insensitive" = none) : CaseSaid entries default default
  | said {b : Bool} (given : entries.lookup "case_insensitive" = some (.boolean b)) :
      CaseSaid entries default b

def ListsWords (entries : List (String × Value)) (words : List String) (ignoreCase : Bool) : Prop :=
  (∃ b, entries.lookup "words" = some (.array b (words.map .string))) ∧
    CaseSaid entries true ignoreCase

def GivesRegex (entries : List (String × Value)) (source : String) (ignoreCase : Bool) : Prop :=
  entries.lookup "regex" = some (.string source) ∧ CaseSaid entries false ignoreCase

-- The pattern that a rule asks for, or what is wrong with it. Some rules ask for none.
inductive Asks (entries : List (String × Value)) : Except Pattern.Error Pattern → Prop where
  | words {words : List String} {ignoreCase : Bool} (listed : ListsWords entries words ignoreCase) :
      Asks entries (Pattern.ofWords words ignoreCase)
  | regex {source : String} {ignoreCase : Bool}
      (wordless : ∀ words ignoreCase, ¬ListsWords entries words ignoreCase)
      (given : GivesRegex entries source ignoreCase) :
      Asks entries (Pattern.ofRegex source ignoreCase)

theorem booleanOk {v : Value} {b : Bool} : boolean v = .ok b ↔ v = .boolean b := by
  cases v with
  | boolean => simp [boolean]
  | _ => simp [boolean]

theorem stringOk {v : Value} {s : String} : string v = .ok s ↔ v = .string s := by
  cases v with
  | string => simp [string]
  | _ => simp [string]

theorem stringsOk {items : List Value} :
    items.mapM string = .ok words ↔ items = words.map .string := by
  induction items generalizing words with
  | nil =>
    change Except.ok [] = Except.ok words ↔ _
    cases words <;> simp
  | cons v rest ih =>
    rw [List.mapM_cons, boundValue]
    simp only [boundValue, stringOk, ih]
    constructor
    · rintro ⟨s, rfl, more, rfl, made⟩
      cases made
      rfl
    · intro same
      cases words with
      | nil => cases same
      | cons s words =>
        cases same
        exact ⟨s, rfl, words, rfl, rfl⟩

theorem wordsOk : required entries "words" (list string) = .ok words ↔
    ∃ b, entries.lookup "words" = some (.array b (words.map .string)) := by
  rw [required]
  cases entries.lookup "words" with
  | none => simp
  | some v =>
    cases v with
    | array b items => simp [list, stringsOk]
    | _ => simp [list]

theorem regexOk : required entries "regex" string = .ok source ↔
    entries.lookup "regex" = some (.string source) := by
  rw [required]
  cases entries.lookup "regex" with
  | none => simp
  | some v => simp [stringOk]

theorem caseOk : getD entries "case_insensitive" boolean default = .ok ignoreCase ↔
    CaseSaid entries default ignoreCase := by
  rw [getD]
  constructor
  · intro read
    cases given : entries.lookup "case_insensitive" with
    | none =>
      rw [given] at read
      cases read
      exact .unsaid given
    | some v =>
      rw [given] at read
      obtain rfl := booleanOk.mp read
      exact .said given
  · rintro (absent | given)
    · rw [absent]
    · rw [given]
      rfl

theorem wordsMade : wordsPattern entries = .ok made ↔
    ∃ words ignoreCase, ListsWords entries words ignoreCase ∧
      made = Pattern.ofWords words ignoreCase := by
  simp only [wordsPattern, boundValue, wordsOk, caseOk, ListsWords]
  constructor
  · rintro ⟨words, listed, ignoreCase, said, same⟩
    cases same
    exact ⟨words, ignoreCase, ⟨listed, said⟩, rfl⟩
  · rintro ⟨words, ignoreCase, ⟨listed, said⟩, rfl⟩
    exact ⟨words, listed, ignoreCase, said, rfl⟩

theorem regexMade : regexPattern entries = .ok made ↔
    ∃ source ignoreCase, GivesRegex entries source ignoreCase ∧
      made = Pattern.ofRegex source ignoreCase := by
  simp only [regexPattern, boundValue, regexOk, caseOk, GivesRegex]
  constructor
  · rintro ⟨source, given, ignoreCase, said, same⟩
    cases same
    exact ⟨source, ignoreCase, ⟨given, said⟩, rfl⟩
  · rintro ⟨source, ignoreCase, ⟨given, said⟩, rfl⟩
    exact ⟨source, given, ignoreCase, said, rfl⟩

-- A regular expression is taken only where there are no words.
theorem asked : (wordsPattern entries).orElseLazy (fun _ => regexPattern entries) = .ok made ↔
    Asks entries made := by
  cases first : wordsPattern entries with
  | ok firstMade =>
    obtain ⟨words, ignoreCase, listed, rfl⟩ := wordsMade.mp first
    constructor
    · rintro ⟨⟩
      exact .words listed
    · rintro (listed | ⟨wordless, -⟩)
      · exact first.symm.trans (wordsMade.mpr ⟨_, _, listed, rfl⟩)
      · exact absurd listed (wordless words ignoreCase)
  | error e =>
    have wordless (words : List String) (ignoreCase : Bool) :
        ¬ListsWords entries words ignoreCase := fun listed => by
      cases first.symm.trans (wordsMade.mpr ⟨_, _, listed, rfl⟩)
    refine regexMade.trans ⟨?_, ?_⟩
    · rintro ⟨source, ignoreCase, given, rfl⟩
      exact .regex wordless given
    · rintro (listed | ⟨-, given⟩)
      · exact absurd listed (wordless _ _)
      · exact ⟨_, _, given, rfl⟩

theorem Asks.same {other : Except Pattern.Error Pattern} (one : Asks entries made)
    (two : Asks entries other) : made = other :=
  Except.ok.inj ((asked.mpr one).symm.trans (asked.mpr two))

theorem patternAsked {p : Pattern} : rulePattern entries = .ok p ↔ Asks entries (.ok p) := by
  rw [rulePattern, boundValue]
  simp only [asked]
  constructor
  · rintro ⟨made, asks, read⟩
    cases made with
    | ok =>
      cases read
      exact asks
    | error => cases read
  · exact fun asks => ⟨_, asks, rfl⟩

-- What other keys say is still known when the form of the rule is read.
theorem partsPattern {parts : RuleParts} (read : ruleParts {} entries = .ok parts) :
    rulePattern parts.others = rulePattern entries := by
  have known {key : String} (other : ruleFields.find? (·.name == key) = none) :
      parts.others.lookup key = entries.lookup key := partsLookup read other
  simp only [rulePattern, wordsPattern, regexPattern, required, getD,
    known (show ruleFields.find? (·.name == "words") = none from rfl),
    known (show ruleFields.find? (·.name == "regex") = none from rfl),
    known (show ruleFields.find? (·.name == "case_insensitive") = none from rfl)]

end Forms

section Rules

variable {entries : List (String × Value)} {o : Toml.Origin} {r : Highlight.Rule}

def RuleParts.rule (side : RuleParts) (p : Pattern) : Highlight.Rule where
  toReaction := side.toReaction
  pattern := p
  color := side.color
  showInMentions := side.showInMentions

def RuleParts.ruleOf (side : RuleParts) : Except Pattern.Error Pattern → Except Error Highlight.Rule
  | .ok p => .ok (side.rule p)
  | .error _ => .error .invalid

theorem sideRule {s t : RuleParts} (same : s.side = t.side) : s.rule = t.rule :=
  (congrArg RuleParts.rule same :)

theorem ruleOk : rule (.table o entries) = .ok r ↔
    ∃ parts p, ruleParts {} entries = .ok parts ∧ Asks entries (.ok p) ∧ r = parts.rule p := by
  rw [rule, boundValue]
  simp only [boundValue, ← patternAsked]
  constructor
  · rintro ⟨parts, read, p, asks, same⟩
    cases same
    exact ⟨parts, p, read, partsPattern read ▸ asks, rfl⟩
  · rintro ⟨parts, p, read, asks, rfl⟩
    exact ⟨parts, read, p, (partsPattern read).trans asks, rfl⟩

-- The one colour of a rule that could be cut can be read.
theorem ruleSettled (fits : SidesFit entries) :
    Fine (rule (.table o entries)) ∨ rule (.table o entries) = .error .invalid := by
  refine (ruleBreaks _).settled ?_
  rintro ⟨_, before, w, after, same, -, s, rfl, cut⟩
  obtain ⟨-, rfl⟩ := Value.table.inj same
  have known : "color" ∈ sideKeys := by decide
  obtain ⟨c, read⟩ := colorFits (fits ("color", .string s) (by simp) known)
  cases read.symm.trans ((Color.cutText s).mpr cut)

theorem rulePatternless (fits : SidesFit entries) (none : ∀ p, ¬Asks entries (.ok p)) :
    rule (.table o entries) = .error .invalid :=
  (ruleSettled fits).resolve_left fun ⟨_, ok⟩ => by
    obtain ⟨-, p, -, asks, -⟩ := ruleOk.mp ok
    exact none p asks

-- The rule of a table that can be read whole is the one that its form asks for.
theorem ruleAsked (fits : SidesFit entries) (held : OthersHeld entries) :
    ∃ side, ruleParts {} (sides entries) = .ok side ∧
      ∀ made, Asks entries made → rule (.table o entries) = side.ruleOf made := by
  obtain ⟨parts, side, whole, read, same⟩ := sidesAlone fits held (s := {}) (t := {}) rfl
  refine ⟨side, read, fun made asks => ?_⟩
  cases made with
  | ok p => exact ruleOk.mpr ⟨parts, p, whole, asks, congrFun (sideRule same).symm p⟩
  | error e => exact rulePatternless fits fun p other => nomatch asks.same other

theorem foldTaken {σ α : Type} {step : σ → α → Except Error σ} {as : List α} {s t : σ}
    (ok : as.foldlM step s = .ok t) : ∀ a ∈ as, ∃ x y, step x a = .ok y := by
  induction as generalizing s with
  | nil => exact List.forall_mem_nil _
  | cons a as ih =>
    rw [List.foldlM_cons] at ok
    obtain ⟨next, step, ok⟩ := boundOk ok
    exact List.forall_mem_cons.mpr ⟨⟨s, next, step⟩, ih ok⟩

theorem othersTaken {s parts : RuleParts} (ok : ruleParts s entries = .ok parts) :
    OthersHeld entries := by
  intro entry member other
  rw [partsFold] at ok
  obtain ⟨x, y, taken⟩ := foldTaken ok entry member
  rw [fieldStep, otherUnread other] at taken
  dsimp only at taken
  cases kept : keep entry.2 with
  | ok => exact (keepOk entry.2).mp kept
  | error e =>
    rw [kept] at taken
    cases taken

theorem ruleUnheld (fits : SidesFit entries) (unheld : ¬OthersHeld entries) :
    rule (.table o entries) = .error .invalid :=
  (ruleSettled fits).resolve_left fun ⟨_, ok⟩ => by
    obtain ⟨parts, p, read, -⟩ := ruleOk.mp ok
    exact unheld (othersTaken read)

end Rules

end Scrollback.Config.Decode
