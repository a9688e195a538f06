import Scrollback.Proofs.Config.Addresses
import Scrollback.Proofs.Highlight.WordMatches

/-! Whom a rule for users accepts, if it lists words and says nothing of case. They are the users
with one of the words for a name, and everyone whose longer name has a word between characters of no
word. -/
namespace Scrollback

namespace Config.Decode
open Toml (Value)

variable {entries : List (String × Value)} {words : List String} {r : Highlight.Rule}

theorem othersKept (others : List (String × Value)) :
    ∀ f ∈ ruleFields, f.Keeps fun s => s.others = others := by
  simp only [ruleFields, reactionFields, List.cons_append, List.nil_append, List.forall_mem_cons,
    List.not_mem_nil, false_implies, implies_true, and_true]
  exact ⟨fieldKeeps fun _ kept => kept, fieldKeeps fun _ kept => kept,
    fieldKeeps fun _ kept => kept, fieldKeeps fun _ kept => kept, fieldKeeps fun _ kept => kept⟩

-- What no field of a rule has for its name stays as it was given.
theorem partsLookup {start parts : RuleParts} {key : String}
    (read : ruleParts start entries = .ok parts)
    (other : ruleFields.find? (·.name == key) = none) :
    parts.others.lookup key = (start.others ++ entries).lookup key := by
  induction entries generalizing start with
  | nil =>
    cases read
    rw [List.append_nil]
  | cons entry rest ih =>
    obtain ⟨name, v⟩ := entry
    unfold ruleParts at read
    split at read
    · rename_i f found
      obtain ⟨next, step, read⟩ := boundOk read
      have same : next.others = start.others :=
        othersKept _ f (List.mem_of_find?_eq_some found) _ _ _ step rfl
      have apart : (key == name) = false := by
        rw [beq_eq_false_iff_ne]
        rintro rfl
        cases other.symm.trans found
      rw [ih read, same, List.lookup_append, List.lookup_append, List.lookup_cons, apart]
    · obtain ⟨-, -, read⟩ := boundOk read
      rw [ih read, List.append_assoc, List.singleton_append]

-- A rule that lists words ignores case unless it says otherwise.
theorem ruleOfWords {o : Toml.Origin} (read : rule (.table o entries) = .ok r)
    (given : required entries "words" (list string) = .ok words)
    (unsaid : entries.lookup "case_insensitive" = none) :
    Highlight.Pattern.ofWords words true = .ok r.pattern := by
  obtain ⟨parts, kept, read⟩ := boundOk read
  obtain ⟨pattern, made, read⟩ := boundOk read
  cases read
  have listed : parts.others.lookup "words" = entries.lookup "words" := partsLookup kept rfl
  have silent : parts.others.lookup "case_insensitive" = none :=
    (partsLookup kept rfl).trans unsaid
  have asked : wordsPattern parts.others = .ok (Highlight.Pattern.ofWords words true) := by
    rw [required, ← listed] at given
    rw [wordsPattern, required, given, getD, silent]
    rfl
  rw [rulePattern, asked] at made
  cases built : Highlight.Pattern.ofWords words true with
  | ok p =>
    rw [built] at made
    cases made
    rfl
  | error =>
    rw [built] at made
    cases made

end Config.Decode

namespace Highlight

namespace Words

def SameName (w name : List Char) : Prop := List.Forall₂ (Alike true) w name

def InLongerName (w name : List Char) : Prop :=
  ∃ before run after, name = before ++ (run ++ after) ∧ List.Forall₂ (Alike true) w run ∧
    before.getLast?.any Unicode.isWord = false ∧ after.head?.any Unicode.isWord = false ∧
    ¬(before = [] ∧ after = [])

theorem standsInName (w name : List Char) :
    Stands true w name ↔ SameName w name ∨ InLongerName w name := by
  constructor
  · rintro ⟨before, run, after, rfl, alike, free, ended⟩
    by_cases bare : before = [] ∧ after = []
    · obtain ⟨rfl, rfl⟩ := bare
      exact .inl (by simpa [SameName] using alike)
    · exact .inr ⟨before, run, after, rfl, alike, free, ended, bare⟩
  · rintro (same | ⟨before, run, after, split, alike, free, ended, -⟩)
    · exact ⟨[], name, [], by simp, same, rfl, rfl⟩
    · exact ⟨before, run, after, split, alike, free, ended⟩

-- A word in a longer name has a character beside it that belongs to no word.
theorem longerNameBreaks {w name : List Char} (longer : InLongerName w name) :
    ∃ c ∈ name, Unicode.isWord c = false := by
  obtain ⟨before, run, after, rfl, -, free, ended, bare⟩ := longer
  cases after with
  | cons c after => exact ⟨c, by simp, ended⟩
  | nil =>
    obtain ⟨c, last⟩ : ∃ c, before.getLast? = some c :=
      ⟨_, List.getLast?_eq_some_getLast fun empty => bare ⟨empty, rfl⟩⟩
    rw [last] at free
    exact ⟨c, List.mem_append_left _ (List.mem_of_getLast? last), free⟩

end Words

open Words

theorem Rule.acceptsName {o : Toml.Origin} {entries : List (String × Toml.Value)}
    {words : List String} {r : Rule} (read : Config.Decode.rule (.table o entries) = .ok r)
    (given : Config.Decode.required entries "words" (Config.Decode.list Config.Decode.string) =
      .ok words)
    (unsaid : entries.lookup "case_insensitive" = none) (name : String) :
    (retries words name ≤ Regex.retryLimit → r.pattern.test? name ≠ none) ∧
    (r.pattern.test? name = none → r.accepts name = false) ∧
    (r.pattern.test? name ≠ none →
      (r.accepts name = true ↔ ∃ w ∈ words, w ≠ "" ∧
        (SameName w.toList name.toList ∨ InLongerName w.toList name.toList)) ∧
      ((∀ c ∈ name.toList, Unicode.isWord c = true) →
        (r.accepts name = true ↔ ∃ w ∈ words, w ≠ "" ∧ SameName w.toList name.toList))) := by
  have built := Config.Decode.ruleOfWords read given unsaid
  refine ⟨fun within => ?_, Pattern.acceptsUnanswered, fun answered => ?_⟩
  · obtain ⟨b, answer⟩ := Pattern.answerWithin built within
    rw [answer]
    exact Option.some_ne_none b
  · obtain ⟨b, answer⟩ := Option.ne_none_iff_exists'.mp answered
    have accepted : r.accepts name = true ↔ ∃ w ∈ words, w ≠ "" ∧
        (SameName w.toList name.toList ∨ InLongerName w.toList name.toList) := by
      simp only [← standsInName]
      exact Pattern.answerStands built answer
    refine ⟨accepted, fun solid => accepted.trans ?_⟩
    have short (w : String) : ¬InLongerName w.toList name.toList := fun longer => by
      obtain ⟨c, member, broken⟩ := longerNameBreaks longer
      rw [solid c member] at broken
      cases broken
    simp only [short, or_false]

def annRule : List (String × Toml.Value) := [("words", .array false [.string "ann"])]

theorem annMarieAccepted :
    ∃ r, Config.Decode.rule (.table .header annRule) = .ok r ∧ r.accepts "ann-marie" = true ∧
      ¬∃ w ∈ ["ann"], w ≠ "" ∧ SameName w.toList "ann-marie".toList := by
  let r : Rule := { pattern := ⟨Pattern.wordsSource ["ann"], Words.regex true ["ann"]⟩ }
  have built : Pattern.ofWords ["ann"] true = .ok r.pattern :=
    (ofWordsRead rfl).trans (if_pos (by decide))
  have read : Config.Decode.rule (.table .header annRule) = .ok r := by
    have asked : Config.Decode.rulePattern annRule = .ok r.pattern := by
      have listed : Config.Decode.wordsPattern annRule = .ok (Pattern.ofWords ["ann"] true) := rfl
      rw [Config.Decode.rulePattern, listed, built]
      rfl
    change (Config.Decode.rulePattern annRule >>= _) = _
    rw [asked]
    rfl
  have alike : List.Forall₂ (Alike true) "ann".toList "ann".toList :=
    .cons (by decide) (.cons (by decide) (.cons (by decide) .nil))
  have longer : InLongerName "ann".toList "ann-marie".toList :=
    ⟨[], "ann".toList, "-marie".toList, rfl, alike, rfl, by decide, by decide⟩
  have given : Config.Decode.required annRule "words"
      (Config.Decode.list Config.Decode.string) = .ok ["ann"] := rfl
  have told := Rule.acceptsName read given rfl "ann-marie"
  refine ⟨r, read, ?_, ?_⟩
  · exact (told.2.2 (told.1 (by decide))).1.mpr ⟨"ann", .head _, by decide, .inr longer⟩
  · rintro ⟨w, listed, -, same⟩
    obtain rfl := List.mem_singleton.mp listed
    exact absurd same.length_eq (by decide)

end Highlight

end Scrollback
