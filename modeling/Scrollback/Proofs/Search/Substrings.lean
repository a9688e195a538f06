import Scrollback.Proofs.Unicode.Sigmas
import Scrollback.Search.Predicate

/-! Which words are found in a message that holds them as they are written. Word and message are put
into lower case each for itself, and a capital sigma can come out otherwise in the word than in the
message, so that the word is missed. Nothing is said of words that come in another case. -/
namespace Scrollback.Search
open Unicode

theorem substringIff (word : String) (m : Message) :
    (Predicate.substring word).accepts m = true ↔
      lowercaseWithin [] [] word.toList <:+: lowercaseWithin [] [] m.text.toList := by
  rw [Predicate.accepts, Text.hasPart_iff, lowercase, lowercase, String.toList_ofList,
    String.toList_ofList, lowercaseWhole, lowercaseWhole]

theorem formInside {word before after : String} {m : Message}
    (text : m.text = before ++ word ++ after) :
    lowercaseWithin [] [] m.text.toList =
      lowercaseWithin [] (word.toList ++ after.toList) before.toList ++
        lowercaseWithin before.toList.reverse after.toList word.toList ++
        lowercaseWithin (word.toList.reverse ++ before.toList.reverse) [] after.toList := by
  have parts : m.text.toList = before.toList ++ (word.toList ++ after.toList) := by simp [text]
  rw [parts, withinAppend, withinAppend]
  simp only [List.append_nil, List.append_assoc]

theorem foundHere {word before after : String} {m : Message} (text : m.text = before ++ word ++ after)
    (same : lowercaseWithin before.toList.reverse after.toList word.toList =
      lowercaseWithin [] [] word.toList) : (Predicate.substring word).accepts m = true := by
  rw [substringIff, formInside text, same]
  exact ⟨_, _, rfl⟩

-- One more of a character than a text has cannot come from a part of it.
theorem differsThere {x y : Char} {u v front back : List Char} (other : x ≠ y) (left : x ∉ front)
    (right : x ∉ back) : ¬ u ++ x :: v <:+: front ++ (u ++ y :: v) ++ back := by
  intro inside
  have more := inside.sublist.count_le x
  have sides : front.count x = 0 ∧ back.count x = 0 :=
    ⟨List.count_eq_zero.mpr left, List.count_eq_zero.mpr right⟩
  simp only [List.count_append, List.count_cons_self, List.count_cons_of_ne (Ne.symm other), sides]
    at more
  omega

-- Where one sigma turns into its other form, the word has one too many of the form that it has alone.
theorem turnedMissed {word : String} {m : Message} {front back : List Char} (before after : String)
    (text : m.text = before ++ word ++ after) (cut : word.toList = front ++ 'Σ' :: back)
    (left : 'Σ' ∉ front ∨ [] = before.toList.reverse) (right : 'Σ' ∉ back ∨ [] = after.toList)
    (turned : sigmaForm front.reverse back ≠
      sigmaForm (front.reverse ++ before.toList.reverse) (back ++ after.toList))
    (ahead : ∀ rest, sigmaForm front.reverse back ∉ lowercaseWithin [] rest before.toList)
    (behind : ∀ rest, sigmaForm front.reverse back ∉ lowercaseWithin rest [] after.toList) :
    (Predicate.substring word).accepts m = false := by
  obtain ⟨u, v, alone, there⟩ := aroundSigma left right
  rw [← cut] at alone there
  simp only [List.append_nil] at alone
  rw [← Bool.not_eq_true, substringIff, formInside text, alone, there]
  exact differsThere turned (ahead _) (behind _)

def saying (text : String) : Message where
  timestamp := ⟨0, 0⟩
  channel := "#a"
  author := "ann"
  text

theorem letterPlain {x : Char} (other : x ≠ 'a') (before after : List Char) :
    x ∉ lowercaseWithin before after "a".toList := by
  have form : lowercaseWithin before after "a".toList = ['a'] := rfl
  rw [form, List.mem_singleton]
  exact other

-- A letter beside the word turns its sigma.
theorem looseMissed {word : String} (loose : LooseSigma word.toList) :
    (Predicate.substring word).accepts (saying ("a" ++ word)) = false ∨
      (Predicate.substring word).accepts (saying (word ++ "a")) = false := by
  have cased : startsCased ['a'] = true := rfl
  cases loose with
  | opening front back cut skipped ends =>
    have backwards : front.reverse.all isCaseIgnorable = true := by rw [List.all_reverse, skipped]
    have alone : sigmaForm front.reverse back = 'σ' := by
      simp [sigmaForm, isFinalSigma, startsSkipped backwards]
    have there : sigmaForm (front.reverse ++ ['a']) back = 'ς' := by
      simp [sigmaForm, isFinalSigma, startsAppend, backwards, cased, ends]
    refine .inl (turnedMissed "a" "" (by simp [saying]) cut (.inl (noSigma skipped)) (.inr rfl)
      ?_ ?_ ?_)
    · simp [alone, there]
    · rw [alone]
      exact letterPlain (by decide) []
    · simp [lowercaseWithin]
  | closing front back cut skipped ends =>
    have alone : sigmaForm front.reverse back = 'ς' := by
      simp [sigmaForm, isFinalSigma, startsSkipped skipped, ends]
    have there : sigmaForm front.reverse (back ++ ['a']) = 'σ' := by
      simp [sigmaForm, isFinalSigma, startsAppend, skipped, cased]
    refine .inr (turnedMissed "" "a" (by simp [saying]) cut (.inr rfl) (.inl (noSigma skipped))
      ?_ ?_ ?_)
    · simp [alone, there]
    · simp [lowercaseWithin]
    · rw [alone]
      exact fun rest => letterPlain (by decide) rest []

/-- A word that stands in a message as it is written is found there if no letter is beside it. It is
found wherever it stands just in case none of its sigmas is decided by what is beside the word. -/
theorem substringFound (word : String) :
    (∀ (m : Message) (before after : String), m.text = before ++ word ++ after →
      startsCased before.toList.reverse = false → startsCased after.toList = false →
      (Predicate.substring word).accepts m = true) ∧
    ((∀ m : Message, word.toList <:+: m.text.toList →
      (Predicate.substring word).accepts m = true) ↔ ¬ LooseSigma word.toList) := by
  refine ⟨fun m before after text left right => foundHere text (aloneSame left right),
    fun always loose => ?_, fun settled m inside => ?_⟩
  · have behind := always (saying ("a" ++ word)) ⟨['a'], [], by simp [saying]⟩
    have before := always (saying (word ++ "a")) ⟨[], ['a'], by simp [saying]⟩
    rcases looseMissed loose with missed | missed <;> simp [behind, before] at missed
  · obtain ⟨before, after, whole⟩ := inside
    have text : m.text = String.ofList before ++ word ++ String.ofList after :=
      String.toList_inj.mp (by simp [← whole])
    exact foundHere text (settledSame settled _ _)

theorem sigmaTurns :
    startsCased "x ".toList.reverse = false ∧ startsCased "!".toList = false ∧
    (Predicate.substring "aΣ").accepts (saying ("x " ++ "aΣ" ++ "!")) = true ∧
    LooseSigma "aΣ".toList ∧
    (¬ ∀ m : Message, "aΣ".toList <:+: m.text.toList →
      (Predicate.substring "aΣ").accepts m = true) ∧
    (Predicate.substring "aΣ").accepts (saying "aΣa") = false ∧
    (∀ m : Message, "say".toList <:+: m.text.toList →
      (Predicate.substring "say").accepts m = true) := by
  have left : startsCased "x ".toList.reverse = false := by decide
  have right : startsCased "!".toList = false := by decide
  have loose : LooseSigma "aΣ".toList := .closing ['a'] [] rfl rfl rfl
  have settled : ¬ LooseSigma "say".toList := fun loose => absurd loose.mem (by decide)
  exact ⟨left, right, (substringFound "aΣ").1 _ "x " "!" rfl left right, loose,
    fun always => (substringFound "aΣ").2.mp always loose, by decide,
    (substringFound "say").2.mpr settled⟩

end Scrollback.Search
