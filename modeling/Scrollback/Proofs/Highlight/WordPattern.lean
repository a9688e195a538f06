import Mathlib.Data.List.TakeWhile
import Scrollback.Highlight.Pattern
import Scrollback.Proofs.Regex.Escaped

/-! The plan that the pattern for some words compiles to, spelled out. Whatever the words are, it
looks for one of them, character by character, between two places where no word goes on. -/
namespace Scrollback.Highlight.Words
open Regex (Expr Plan Plain Look CharSet)
open Regex.Reader

-- What stands after the words, from the parenthesis that closes them.
def endText : List Char := "(?!\\w)".toList

theorem sourceRead (w : String) (ws : List String) :
    (Pattern.wordsSource (w :: ws)).toList =
      "(?<!\\w)".toList ++ '(' :: (escaped w.toList ++ barred (ws.map String.toList) endText) := by
  have joined (w : String) (ws : List String) :
      ("|".intercalate ((w :: ws).map Regex.escape)).toList ++ ')' :: endText =
        escaped w.toList ++ barred (ws.map String.toList) endText := by
    induction ws generalizing w with
    | nil =>
      rw [List.map_singleton, String.intercalate_singleton, escapeChars]
      rfl
    | cons v ws ih =>
      have more := ih v
      rw [List.map_cons] at more
      rw [List.map_cons, List.map_cons, String.intercalate_cons_cons, String.toList_append,
        String.toList_append, List.append_assoc, more, escapeChars, List.map_cons, barredCons,
        List.append_assoc]
      rfl
  rw [Pattern.wordsSource, String.toList_append, String.toList_append, ← joined w ws,
    List.append_assoc]
  rfl

section Frame

variable {s : State} {fuel depth : Nat} {tail : List Char}

theorem charRead (blanks : s.flags.ignoreBlanks = false) (unnumbered : s.numbered = false)
    (here : s.rest = '\\' :: 'w' :: ')' :: tail) :
    Reads (alternatives (fuel + 6) depth) s (.set .word) { s with rest := ')' :: tail } := by
  let t : State := { s with rest := ')' :: tail }
  have solid : Solid t := .of blanks rfl (by decide)
  have read : Reads (atom (fuel + 2) depth) s (.set .word) t := by
    rw [atom]
    refine (Solid.of blanks here (by decide)).skip.bind (.get ?_)
    rw [here]
    refine .get ?_
    rw [here]
    exact fun _ => rfl
  have one : Reads (pieces (fuel + 4) depth) s [.set .word] t :=
    piecesNext (pieceOnce read solid rfl) (by simp [here, t])
      (piecesStop blanks rfl (.inr rfl)) (by simp)
  exact alternativesRead (branchRead one) (furtherNone (by simp [t]) solid) unnumbered

theorem lookRead {l : Look} {mark : Char} {rest : List Char} (blanks : s.flags.ignoreBlanks = false)
    (unnumbered : s.numbered = false) (here : s.rest = '(' :: '?' :: mark :: rest)
    (look : mark ≠ '#')
    (opened : Reads readOpening { s with rest := '?' :: mark :: rest } (.look l)
      { s with rest := "\\w)".toList ++ tail }) :
    Reads (atom (fuel + 8) 0) s (.look l (.set .word)) { s with rest := tail } := by
  let t : State := { s with rest := "\\w)".toList ++ tail }
  have inside : Reads (alternatives (fuel + 6) 1) t (.set .word) { s with rest := ')' :: tail } :=
    charRead blanks unnumbered rfl
  have closed : Reads (group (fuel + 7) 1) { s with rest := '?' :: mark :: rest }
      (.look l (.set .word)) { s with rest := tail } :=
    groupLook (u := { s with rest := ')' :: tail }) (by decide) (.of blanks rfl (by decide)) opened
      inside rfl
  exact atomGroup (.marked blanks here look) here closed

def frame (index : Nat) (ignoreCase : Bool) (ws : List (List Char)) : List Expr :=
  [.look ⟨true, true⟩ (.set .word), .group index (choice (ws.map (wordExpr ignoreCase))),
    .look ⟨false, true⟩ (.set .word)]

theorem frameRead (blanks : s.flags.ignoreBlanks = false) (unnumbered : s.numbered = false)
    (w : List Char) (ws : List (List Char))
    (here : s.rest = "(?<!\\w)".toList ++ '(' :: (escaped w ++ barred ws endText))
    (enough : s.rest.length + 12 ≤ fuel) :
    Reads (pieces fuel 0) s (frame (s.groups + 1) s.flags.ignoreCase (w :: ws))
      { s with rest := [], groups := s.groups + 1 } := by
  obtain ⟨fuel, rfl⟩ : ∃ k, fuel = k + 12 := ⟨fuel - 12, by omega⟩
  let t : State := { s with rest := '(' :: (escaped w ++ barred ws endText) }
  let inner : State := { s with rest := escaped w ++ barred ws endText }
  let u : State := { s with rest := endText, groups := s.groups + 1 }
  let v : State := { s with rest := [], groups := s.groups + 1 }
  obtain ⟨c, rest, next, other, question⟩ := wordsHead w ws endText
  have solid : Solid t := by
    refine ⟨blanks, fun more opened => question ?_⟩
    rw [show t.rest = '(' :: c :: rest by rw [← next]] at opened
    cases opened
    rfl
  have before : Reads (atom (fuel + 10) 0) s (.look ⟨true, true⟩ (.set .word)) t :=
    lookRead blanks unnumbered here (by decide) fun _ => rfl
  have inside : Reads (alternatives (fuel + 7) 1) { inner with groups := s.groups + 1 }
      (choice ((w :: ws).map (wordExpr s.flags.ignoreCase))) { u with rest := ')' :: endText } := by
    refine wordsRead (s := { inner with groups := s.groups + 1 }) blanks unnumbered w ws rfl ?_
    rw [here, List.length_append, List.length_cons] at enough
    dsimp only [inner]
    omega
  have bare : inner.rest.head? ≠ some '?' := by
    dsimp only [inner]
    rw [next]
    simpa using question
  have words : Reads (atom (fuel + 9) 0) t
      (.group (s.groups + 1) (choice ((w :: ws).map (wordExpr s.flags.ignoreCase)))) u :=
    atomGroup solid rfl (groupCapture (s := inner) (by decide) (.of blanks next other) bare
      inside rfl)
  have after : Reads (atom (fuel + 8) 0) u (.look ⟨false, true⟩ (.set .word)) v :=
    lookRead blanks unnumbered rfl (by decide) fun _ => rfl
  refine piecesNext (pieceOnce before solid rfl) ?_
    (piecesNext (pieceOnce words ⟨blanks, nofun⟩ rfl) ?_
      (piecesNext (pieceOnce after ⟨blanks, nofun⟩ rfl) ?_ (piecesAtEnd rfl) (by simp)) (by simp)) (by simp)
  · simp [here, t]
  · simp [t, u, barred]
    omega
  · simp [u, v, endText]

theorem markRead {rest : List Char} (plain : s.flags = {})
    (here : s.rest = '(' :: '?' :: 'i' :: ')' :: tail) (look : tail = '(' :: '?' :: '<' :: rest) :
    Reads (piece (fuel + 3) 0) s .empty
      { s with rest := tail, flags := { ignoreCase := true } } := by
  obtain ⟨_, flags, groups, names, references, numbered⟩ := s
  subst plain here
  let t : State := ⟨tail, { ignoreCase := true }, groups, names, references, numbered⟩
  let inner : State := ⟨'?' :: 'i' :: ')' :: tail, {}, groups, names, references, numbered⟩
  let inside : State := ⟨'i' :: ')' :: tail, {}, groups, names, references, numbered⟩
  have flags : Reads (readFlags (inside.rest.length + 1) false false) inside false t :=
    fun _ => rfl
  have opened : Reads (group (fuel + 1) 1) inner .empty t := by
    rw [group, if_neg (by decide)]
    have solid : Solid inner := .of rfl rfl (by decide)
    have flagged : Reads readOpening inner .flags inside := fun _ => rfl
    exact solid.skip.bind (flagged.bind (.get (.get (flags.bind (.pure _ _)))))
  have single : once tail = true := by
    rw [look]
    rfl
  exact pieceOnce (atomGroup (.marked rfl rfl (by decide)) rfl opened)
    (.marked rfl look (by decide)) single

end Frame

def expr (ignoreCase : Bool) (words : List String) : Expr :=
  .concat (frame 1 ignoreCase (words.map String.toList))

theorem exprRead (ignoreCase : Bool) (w : String) (ws : List String) {cs : List Char}
    (here : cs = (Pattern.caseMark ignoreCase).toList ++ (Pattern.wordsSource (w :: ws)).toList) :
    Reads (alternatives (8 * (cs.length + 2)) 0) { rest := cs } (expr ignoreCase (w :: ws))
      { rest := [], flags := { ignoreCase }, groups := 1 } := by
  have source := sourceRead w ws
  have read : Reads (pieces (8 * cs.length + 14) 0) { rest := cs }
      (frame 1 ignoreCase ((w :: ws).map String.toList))
      { rest := [], flags := { ignoreCase }, groups := 1 } := by
    cases ignoreCase with
    | false =>
      have opened : cs = _ := here.trans source
      exact frameRead rfl rfl _ _ opened (by dsimp only; omega)
    | true =>
      have opened : cs = '(' :: '?' :: 'i' :: ')' :: _ := here.trans (congrArg _ source)
      have size := congrArg List.length opened
      simp only [List.length_cons] at size
      refine piecesSetting (markRead (s := { rest := cs }) rfl opened rfl) ?_
        (frameRead rfl rfl _ _ rfl ?_)
      · dsimp only
        omega
      · dsimp only
        omega
  exact wholeRead read rfl rfl rfl

theorem patternRead (ignoreCase : Bool) (w : String) (ws : List String) :
    readPattern (Pattern.caseMark ignoreCase ++ Pattern.wordsSource (w :: ws)) =
      .ok ⟨expr ignoreCase (w :: ws), [], []⟩ := by
  have whole := exprRead ignoreCase w ws String.toList_append
  rw [readPattern]
  dsimp only
  rw [whole]
  rfl

section Plans

variable (ignoreCase : Bool)

def wordPlain : List Char → Plain
  | [] => .empty
  | [c] => .set ((CharSet.single c).foldIf ignoreCase)
  | c :: w => .seq (.set ((CharSet.single c).foldIf ignoreCase)) (wordPlain w)

theorem literalsPlain (w : List Char) :
    Expr.plainSeq (w.map (literalExpr ignoreCase)) = .ok (wordPlain ignoreCase w) := by
  induction w with
  | nil => rfl
  | cons c w ih => cases w with
    | nil => rfl
    | cons d w =>
      rw [List.map_cons, List.map_cons, Expr.plainSeq, ← List.map_cons, ih]
      · rfl
      · nofun

theorem literalsPlan (refs : List Nat) (w : List Char) :
    Expr.planEach refs true (w.map (literalExpr ignoreCase)) =
      .ok (w.map fun c => .plain (.set ((CharSet.single c).foldIf ignoreCase))) := by
  induction w with
  | nil => rfl
  | cons c w ih =>
    rw [List.map_cons, Expr.planEach, ih]
    rfl

theorem wordPlan (refs : List Nat) (w : List Char) :
    (wordExpr ignoreCase w).plan refs true = .ok (.plain (wordPlain ignoreCase w)) := by
  cases w with
  | nil => rfl
  | cons c w => cases w with
    | nil => rfl
    | cons d w =>
      have all : (((c :: d :: w).map (literalExpr ignoreCase)).takeWhile
          fun e => e.fixedSize && !e.hard refs) = (c :: d :: w).map (literalExpr ignoreCase) := by
        rw [List.takeWhile_eq_self_iff]
        intro e listed
        obtain ⟨x, -, rfl⟩ := List.mem_map.mp listed
        rfl
      change (Expr.concat ((c :: d :: w).map (literalExpr ignoreCase))).plan refs true = _
      have step : Expr.plainStep ((c :: d :: w).map (literalExpr ignoreCase)) =
          .ok [.plain (wordPlain ignoreCase (c :: d :: w))] := by
        rw [Expr.plainStep, literalsPlain]
        rfl
      rw [Expr.plan, literalsPlan, if_neg (by simp)]
      dsimp only
      rw [all, List.drop_length, step]
      rfl

def wordPlans (words : List (List Char)) : List Plan :=
  words.map fun w => .plain (wordPlain ignoreCase w)

theorem eachPlan (refs : List Nat) (words : List (List Char)) :
    Expr.planEach refs true (words.map (wordExpr ignoreCase)) =
      .ok (wordPlans ignoreCase words) := by
  induction words with
  | nil => rfl
  | cons w words ih =>
    rw [List.map_cons, Expr.planEach, wordPlan, ih]
    rfl

theorem choicePlan (refs : List Nat) (words : List (List Char)) :
    (choice (words.map (wordExpr ignoreCase))).plan refs true =
      .ok (Expr.oneOf (wordPlans ignoreCase words)) := by
  have several (es : List Expr) : (Expr.alt es).plan refs true =
      Expr.oneOf <$> Expr.planEach refs true es := by
    rw [Expr.plan, if_neg (by simp)]
    rfl
  match words with
  | [] => rfl
  | [w] => exact wordPlan ignoreCase refs w
  | v :: w :: words =>
    change (Expr.alt ((v :: w :: words).map (wordExpr ignoreCase))).plan refs true = _
    rw [several, eachPlan]
    rfl

def plan (words : List (List Char)) : Plan :=
  .seq (.notBehind 1 (.plain (.set .word)))
    (.seq (.capture 1 (Expr.oneOf (wordPlans ignoreCase words))) (.notAhead (.plain (.set .word))))

theorem framePlan (words : List (List Char)) :
    (Expr.concat (frame 1 ignoreCase words)).plan [] false = .ok (plan ignoreCase words) := by
  have captured : (Expr.group 1 (choice (words.map (wordExpr ignoreCase)))).plan [] true =
      .ok (.capture 1 (Expr.oneOf (wordPlans ignoreCase words))) := by
    rw [Expr.plan, if_neg (by simp), choicePlan]
    rfl
  have each : Expr.planEach [] true (frame 1 ignoreCase words) =
      .ok [.notBehind 1 (.plain (.set .word)),
        .capture 1 (Expr.oneOf (wordPlans ignoreCase words)), .notAhead (.plain (.set .word))] := by
    rw [frame, Expr.planEach, Expr.planEach, captured]
    rfl
  rw [Expr.plan, each]
  rfl

theorem compiled (words : List String) :
    Regex.compile ⟨expr ignoreCase words, [], []⟩ =
      .ok (.planned false (plan ignoreCase (words.map String.toList))) := by
  have hard : (expr ignoreCase words).hard [] = true := rfl
  have planned := framePlan ignoreCase (words.map String.toList)
  change (if !(expr ignoreCase words).hard [] then
      Regex.Program.plain <$> (expr ignoreCase words).plain
    else Regex.Program.planned false <$> (expr ignoreCase words).plan [] false) = _
  rw [hard, if_neg (by simp), expr, planned]
  rfl

end Plans

section Patterns

variable {ignoreCase : Bool} {words : List String}

def regex (ignoreCase : Bool) (words : List String) : Regex where
  source := Pattern.caseMark ignoreCase ++ Pattern.wordsSource words
  program := .planned false (plan ignoreCase (words.map String.toList))
  names := []

-- Whatever the words are, nothing but their size can be wrong with them.
theorem ofWordsRead {w : String} {ws : List String}
    (given : words.filter (!·.isEmpty) = w :: ws) :
    Pattern.ofWords words ignoreCase =
      if (plan ignoreCase ((w :: ws).map String.toList)).fits then
        .ok ⟨Pattern.wordsSource (w :: ws), regex ignoreCase (w :: ws)⟩
      else .error (.invalid (Pattern.wordsSource (w :: ws)) .tooLarge) := by
  have parsed : Regex.parse (Pattern.caseMark ignoreCase ++ Pattern.wordsSource (w :: ws)) =
      if (plan ignoreCase ((w :: ws).map String.toList)).fits then .ok (regex ignoreCase (w :: ws))
      else .error .tooLarge := by
    rw [Regex.parse, patternRead]
    change (Regex.compile ⟨expr ignoreCase (w :: ws), [], []⟩ >>= _) = _
    rw [compiled]
    cases fits : (plan ignoreCase ((w :: ws).map String.toList)).fits
    all_goals
      change (if !(plan ignoreCase ((w :: ws).map String.toList)).fits then
        Except.error Regex.Error.tooLarge else Except.ok (regex ignoreCase (w :: ws))) = _
      rw [fits]
      rfl
  rw [Pattern.ofWords, given]
  change Pattern.ofRegex _ _ = _
  rw [Pattern.ofRegex, parsed]
  cases (plan ignoreCase ((w :: ws).map String.toList)).fits <;> rfl

end Patterns

end Scrollback.Highlight.Words
