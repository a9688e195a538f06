import Mathlib.Data.List.Forall2
import Scrollback.Proofs.Highlight.WordPattern
import Scrollback.Proofs.Regex.Answers
import Scrollback.Proofs.Regex.Runs

/-! What a pattern of words accepts: the texts where one of the words stands by itself. The plan is
carried out on an arbitrary text, from the place of one word to all places. -/
namespace Scrollback.Highlight

namespace Words
open Regex (Plan Plain CharSet Cursor Progress Goal Outcome)

-- A character `x` of a text, where the pattern has `c`.
def Alike (ignoreCase : Bool) (c x : Char) : Prop :=
  if ignoreCase then c ∈ Unicode.foldingClass x else x = c

instance (ignoreCase : Bool) (c x : Char) : Decidable (Alike ignoreCase c x) :=
  inferInstanceAs (Decidable (if ignoreCase then c ∈ Unicode.foldingClass x else x = c))

def Stands (ignoreCase : Bool) (w text : List Char) : Prop :=
  ∃ before run after, text = before ++ (run ++ after) ∧ List.Forall₂ (Alike ignoreCase) w run ∧
    before.getLast?.any Unicode.isWord = false ∧ after.head?.any Unicode.isWord = false

section Matching

variable {ignoreCase : Bool} {w : List Char} {words : List (List Char)} {p : Progress}
variable {goal : Goal} {G : Progress → Prop} {cost : Nat}

theorem alikeContains (ignoreCase : Bool) (c x : Char) :
    ((CharSet.single c).foldIf ignoreCase).contains x = true ↔ Alike ignoreCase c x := by
  cases ignoreCase with
  | false => simp [CharSet.foldIf, Regex.singleContains, Alike]
  | true => simp [CharSet.foldIf, CharSet.contains, Regex.singleContains, Alike]

-- The word comes next in the text.
def Next (ignoreCase : Bool) (w : List Char) (p : Progress) : Prop :=
  List.Forall₂ (Alike ignoreCase) w (p.cursor.after.take w.length)

theorem wordStep (c : Char) (w : List Char) (p : Progress) :
    (wordPlain ignoreCase (c :: w)).first? p =
      (p.take? ((CharSet.single c).foldIf ignoreCase)).bind (wordPlain ignoreCase w).first? := by
  cases w with
  | nil =>
    change p.take? _ = _
    cases p.take? ((CharSet.single c).foldIf ignoreCase) <;> rfl
  | cons d w =>
    change ((p.take? _).toList).findSome? _ = _
    cases p.take? ((CharSet.single c).foldIf ignoreCase) with
    | none => rfl
    | some q => simp

theorem wordFirst (ignoreCase : Bool) (w : List Char) (p : Progress) :
    Next ignoreCase w p ∧ (wordPlain ignoreCase w).first? p = some (p.skip w.length) ∨
      ¬Next ignoreCase w p ∧ (wordPlain ignoreCase w).first? p = none := by
  induction w generalizing p with
  | nil => exact .inl ⟨.nil, by rw [List.length_nil, Progress.skipZero]; rfl⟩
  | cons c w ih =>
    rw [wordStep]
    cases after : p.cursor.after with
    | nil =>
      refine .inr ⟨?_, by rw [Progress.takeAtEnd _ after]; rfl⟩
      simp [Next, after]
    | cons x rest =>
      have next : Next ignoreCase (c :: w) p ↔
          Alike ignoreCase c x ∧ Next ignoreCase w (p.skip 1) := by
        simp [Next, after]
      rw [next, Progress.takeOf _ after]
      by_cases same : Alike ignoreCase c x
      · rw [if_pos ((alikeContains ignoreCase c x).mpr same), Option.bind_some, List.length_cons,
          Nat.add_comm, ← Progress.skipSkip]
        simpa [same] using ih (p.skip 1)
      · rw [if_neg (mt (alikeContains ignoreCase c x).mp same)]
        exact .inr ⟨fun both => same both.1, rfl⟩

theorem wordAnswers (further : ∀ q left, (goal q left).Answers (G q) cost left) (w : List Char)
    (p : Progress) (left : Nat) :
    ((Plan.plain (wordPlain ignoreCase w)).run goal p left).Answers
      (Next ignoreCase w p ∧ G (p.skip w.length)) cost left := by
  rw [Plan.run]
  rcases wordFirst ignoreCase w p with ⟨next, first⟩ | ⟨other, first⟩
  · rw [first]
    exact (further _ left).same (by simp [next])
  · rw [first]
    exact ⟨fun both => other both.1, Nat.le_add_right _ _⟩

def Bounded (ignoreCase : Bool) (words : List (List Char)) (c : Cursor) : Prop :=
  c.before.head?.any Unicode.isWord = false ∧ ∃ w ∈ words,
    List.Forall₂ (Alike ignoreCase) w (c.after.take w.length) ∧
      (c.skip w.length).after.head?.any Unicode.isWord = false

theorem planAnswers (ignoreCase : Bool) (some : words ≠ []) (c : Cursor) (left : Nat) :
    ((plan ignoreCase words).run .matched (.start c) left).Answers (Bounded ignoreCase words c)
      (2 * words.length + 1) left := by
  have met (p : Progress) (left : Nat) : (Outcome.matched p left).Answers True 0 left := trivial
  have ended (p : Progress) (left : Nat) :
      ((Plan.notAhead (.plain (.set .word))).run .matched p left).Answers
        (p.cursor.after.head?.any Unicode.isWord = false) 1 left :=
    (Plan.notAheadAnswers (met p) left).same (and_iff_left trivial)
  have inside (left : Nat) :
      ((Plan.capture 1 (Regex.Expr.oneOf (wordPlans ignoreCase words))).run
        ((Plan.notAhead (.plain (.set .word))).run .matched) (.start c) left).Answers
        (∃ w ∈ words, List.Forall₂ (Alike ignoreCase) w (c.after.take w.length) ∧
          (c.skip w.length).after.head?.any Unicode.isWord = false) (2 * words.length) left := by
    rw [Plan.run, Nat.mul_comm]
    exact Plan.oneOfAnswers some
      (fun w _ left => wordAnswers (fun q left => ended (q.save 3) left) w _ left) left
  exact Plan.notBehindAnswers inside left

end Matching

section Texts

variable {ignoreCase : Bool} {words : List String}

theorem boundedStands (ignoreCase : Bool) (words : List (List Char)) (text : List Char) :
    (∃ n ≤ text.length, Bounded ignoreCase words ((Cursor.start text).skip n)) ↔
      ∃ w ∈ words, Stands ignoreCase w text := by
  constructor
  · rintro ⟨n, -, free, w, listed, alike, ended⟩
    refine ⟨w, listed, text.take n, (text.drop n).take w.length, text.drop (n + w.length), ?_,
      alike, ?_, ?_⟩
    · rw [← List.drop_drop, List.take_append_drop, List.take_append_drop]
    · simpa [Cursor.skip, Cursor.start, List.head?_reverse] using free
    · simpa [Cursor.skip, Cursor.start] using ended
  · rintro ⟨w, listed, before, run, after, rfl, alike, free, ended⟩
    have size := alike.length_eq
    refine ⟨before.length, by simp, ?_, w, listed, ?_, ?_⟩
    · simpa [Cursor.skip, Cursor.start, List.head?_reverse] using free
    · simpa [Cursor.skip, Cursor.start, size] using alike
    · simpa [Cursor.skip, Cursor.start, size] using ended

def answer? : Outcome → Option Bool
  | .matched _ _ => some true
  | .failed _ => some false
  | .exhausted => none

theorem testSearch (ignoreCase : Bool) (words : List String) (text : String) :
    (regex ignoreCase words).test? text =
      answer? (Regex.searchPlan (plan ignoreCase (words.map String.toList)) (.start text.toList)
        Regex.retryLimit).2 := by
  have planned : (regex ignoreCase words).program =
      .planned false (plan ignoreCase (words.map String.toList)) := rfl
  rw [Regex.test?, planned]
  dsimp only
  rw [Regex.searchPlanned planned]
  rcases Regex.searchPlan _ (.start text.toList) Regex.retryLimit with ⟨start, outcome⟩
  cases outcome <;> rfl

-- How many retries a text may take.
def retries (words : List String) (text : String) : Nat :=
  (text.toList.length + 1) * (2 * words.length + 2)

theorem testAnswers (ignoreCase : Bool) (given : words ≠ []) (text : String) :
    (∃ b, (regex ignoreCase words).test? text = some b ∧
        (b = true ↔ ∃ w ∈ words, Stands ignoreCase w.toList text.toList)) ∨
      (regex ignoreCase words).test? text = none ∧ Regex.retryLimit < retries words text := by
  have some : words.map String.toList ≠ [] := mt List.map_eq_nil_iff.mp given
  have answers := (Regex.searchAnswers (planAnswers ignoreCase some) (.start text.toList)
    Regex.retryLimit).same (boundedStands ignoreCase _ text.toList)
  rw [testSearch]
  cases found : (Regex.searchPlan (plan ignoreCase (words.map String.toList))
    (.start text.toList) Regex.retryLimit).2 with
  | matched =>
    rw [found] at answers
    obtain ⟨w, listed, stands⟩ : ∃ w ∈ words.map String.toList, _ := answers
    obtain ⟨word, member, rfl⟩ := List.mem_map.mp listed
    exact .inl ⟨true, rfl, fun _ => ⟨word, member, stands⟩, fun _ => rfl⟩
  | failed =>
    rw [found] at answers
    refine .inl ⟨false, rfl, nofun, fun ⟨w, member, stands⟩ => absurd ?_ answers.1⟩
    exact ⟨w.toList, List.mem_map_of_mem member, stands⟩
  | exhausted =>
    rw [found] at answers
    have short : Regex.retryLimit <
        (text.toList.length + 1) * (2 * (words.map String.toList).length + 1 + 1) := answers
    rw [List.length_map] at short
    exact .inr ⟨rfl, short⟩

end Texts

end Words

namespace Pattern
open Words

variable {words : List String} {ignoreCase : Bool} {p : Pattern} {text : String}

theorem noWordsGiven (words : List String) :
    words.filter (!·.isEmpty) = [] ↔ ∀ w ∈ words, w = "" := by
  simp [List.filter_eq_nil_iff]

theorem noWordsRefused :
    ofWords words ignoreCase = .error .noWords ↔ ∀ w ∈ words, w = "" := by
  rw [← noWordsGiven]
  cases given : words.filter (!·.isEmpty) with
  | nil =>
    rw [ofWords, given]
    exact iff_of_true rfl rfl
  | cons w ws =>
    rw [ofWordsRead given]
    split <;> simp

theorem ofWordsBuilt (built : ofWords words ignoreCase = .ok p) :
    words.filter (!·.isEmpty) ≠ [] ∧
      p.regex = Words.regex ignoreCase (words.filter (!·.isEmpty)) := by
  cases given : words.filter (!·.isEmpty) with
  | nil =>
    rw [ofWords, given] at built
    cases built
  | cons w ws =>
    rw [ofWordsRead given] at built
    split at built
    · cases built
      exact ⟨List.cons_ne_nil _ _, rfl⟩
    · cases built

theorem acceptsAnswered {b : Bool} (answered : p.test? text = some b) : p.accepts text = b := by
  rw [accepts, Regex.isMatch, show p.regex.test? text = some b from answered]
  cases b <;> rfl

theorem acceptsUnanswered (unanswered : p.test? text = none) : p.accepts text = false := by
  rw [accepts, Regex.isMatch, show p.regex.test? text = none from unanswered]
  rfl

theorem answerStands {b : Bool} (built : ofWords words ignoreCase = .ok p)
    (answered : p.test? text = some b) :
    p.accepts text = true ↔ ∃ w ∈ words, w ≠ "" ∧ Stands ignoreCase w.toList text.toList := by
  obtain ⟨given, same⟩ := ofWordsBuilt built
  rw [acceptsAnswered answered]
  rw [test?, same] at answered
  rcases testAnswers ignoreCase given text with ⟨_, answer, right⟩ | ⟨unanswered, -⟩
  · cases answered.symm.trans answer
    simpa [and_assoc] using right
  · cases answered.symm.trans unanswered

theorem answerWithin (built : ofWords words ignoreCase = .ok p)
    (within : retries words text ≤ Regex.retryLimit) : ∃ b, p.test? text = some b := by
  obtain ⟨given, same⟩ := ofWordsBuilt built
  rw [test?, same]
  rcases testAnswers ignoreCase given text with ⟨b, answer, -⟩ | ⟨-, more⟩
  · exact ⟨b, answer⟩
  · have fewer : retries (words.filter (!·.isEmpty)) text ≤ retries words text :=
      Nat.mul_le_mul_left _ (by have := List.length_filter_le (!·.isEmpty) words; omega)
    omega

-- Words are refused only if there are none, and the pattern of others accepts what they stand in.
theorem acceptsWords (words : List String) (ignoreCase : Bool) :
    (ofWords words ignoreCase = .error .noWords ↔ ∀ w ∈ words, w = "") ∧
    ∀ p, ofWords words ignoreCase = .ok p → ∀ text,
      (p.test? text ≠ none → (p.accepts text = true ↔
        ∃ w ∈ words, w ≠ "" ∧ Stands ignoreCase w.toList text.toList)) ∧
      (p.test? text = none → p.accepts text = false) := by
  refine ⟨noWordsRefused, fun p built text => ⟨fun answered => ?_, acceptsUnanswered⟩⟩
  obtain ⟨b, answer⟩ := Option.ne_none_iff_exists'.mp answered
  exact answerStands built answer

theorem acceptsLanguage :
    ∃ p, ofWords ["c++", ""] true = .ok p ∧ p.accepts "I like C++!" = true := by
  let p : Pattern := ⟨wordsSource ["c++"], Words.regex true ["c++"]⟩
  have built : ofWords ["c++", ""] true = .ok p := (ofWordsRead rfl).trans (if_pos (by decide))
  obtain ⟨b, answer⟩ : ∃ b, p.test? "I like C++!" = some b := answerWithin built (by decide)
  have alike : List.Forall₂ (Alike true) "c++".toList "C++".toList :=
    .cons (by decide) (.cons (by decide) (.cons (by decide) .nil))
  have stands : Stands true "c++".toList "I like C++!".toList :=
    ⟨"I like ".toList, "C++".toList, "!".toList, rfl, alike, by decide, by decide⟩
  have answered : p.test? "I like C++!" ≠ none := by
    rw [answer]
    exact Option.some_ne_none b
  have accepted := ((acceptsWords _ true).2 p built _).1 answered
  exact ⟨p, built, accepted.mpr ⟨"c++", .head _, by decide, stands⟩⟩

end Pattern

end Scrollback.Highlight
