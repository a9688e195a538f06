import Scrollback.Regex.Basic

/-! How a pattern is read that takes some words literally. Each step of the reader has a lemma for
the places that it meets there, and after `Regex.escape` each character stands for itself. -/
namespace Scrollback.Regex.Reader

-- What is read is `a`, and it leaves the reader in the state `t`.
def Reads {α : Type} (p : Read α) (s : State) (a : α) (t : State) : Prop :=
  ∀ size, (p.run size).run s = .ok (a, t)

section Steps

variable {α β : Type} {p : Read α} {f : α → Read β} {a : α} {b : β} {s t u : State}
variable {fuel depth : Nat} {c : Char} {rest tail : List Char}

theorem Reads.pure (a : α) (s : State) : Reads (Pure.pure a) s a s := fun _ => rfl

theorem Reads.bind (first : Reads p s a t) (second : Reads (f a) t b u) :
    Reads (p >>= f) s b u := by
  intro size
  change (p.run size >>= fun a => (f a).run size).run s = _
  rw [StateT.run_bind, first]
  exact second size

theorem Reads.get {f : State → Read β} (then' : Reads (f s) s b u) : Reads (get >>= f) s b u :=
  then'

theorem Reads.setRest (s : State) (rest : List Char) : Reads (setRest rest) s () { s with rest } :=
  fun _ => rfl

-- A place where no comment begins, in a pattern whose blanks count.
structure Solid (s : State) : Prop where
  blanks : s.flags.ignoreBlanks = false
  comment : ∀ more, s.rest ≠ '(' :: '?' :: '#' :: more

theorem Solid.of (blanks : s.flags.ignoreBlanks = false) (here : s.rest = c :: rest)
    (other : c ≠ '(') : Solid s where
  blanks := blanks
  comment _ opened := other (List.cons.inj (here.symm.trans opened)).1

theorem Solid.marked {mark : Char} (blanks : s.flags.ignoreBlanks = false)
    (here : s.rest = '(' :: '?' :: mark :: rest) (other : mark ≠ '#') : Solid s where
  blanks := blanks
  comment more opened := by
    rw [here] at opened
    cases opened
    exact other rfl

theorem Solid.skip (solid : Solid s) : Reads skipBlanks s () s := by
  have same : withoutBlanks false (s.rest.length + 1) s.rest = .ok s.rest := by
    unfold withoutBlanks
    split
    · exact absurd ‹_› (solid.comment _)
    · rfl
    · rename_i ended
      rw [ended]
  refine .get ?_
  rw [solid.blanks, same]
  exact .setRest s s.rest

def literalExpr (ignoreCase : Bool) (c : Char) : Expr :=
  .set ((CharSet.single c).foldIf ignoreCase)

theorem atomLiteral (blanks : s.flags.ignoreBlanks = false) (here : s.rest = c :: rest)
    (plain : c ∉ Regex.escape.special) :
    Reads (atom (fuel + 1) depth) s (literalExpr s.flags.ignoreCase c) { s with rest } := by
  have other : c ≠ '(' := fun opened => plain (opened ▸ by decide)
  rw [atom]
  refine (Solid.of blanks here other).skip.bind (.get ?_)
  rw [here]
  split
  case h_13 same =>
    cases same
    exact fun _ => rfl
  case h_1 same => cases same
  all_goals
    rename_i same
    cases same
    exact absurd (by decide) plain

theorem atomEscaped (blanks : s.flags.ignoreBlanks = false) (here : s.rest = '\\' :: c :: rest)
    (special : c ∈ Regex.escape.special) :
    Reads (atom (fuel + 1) depth) s (literalExpr s.flags.ignoreCase c) { s with rest } := by
  rw [atom]
  refine (Solid.of blanks here (by decide)).skip.bind (.get ?_)
  rw [here]
  refine .get ?_
  rw [here]
  simp only [Regex.escape.special, List.mem_cons, List.not_mem_nil, or_false] at special
  rcases special with rfl | rfl | rfl | rfl | rfl | rfl | rfl | rfl | rfl | rfl | rfl | rfl | rfl |
    rfl | rfl <;> exact fun _ => rfl

theorem atomStop (blanks : s.flags.ignoreBlanks = false) (here : s.rest = c :: rest)
    (stops : c = '|' ∨ c = ')') : Reads (atom (fuel + 1) depth) s .empty s := by
  rw [atom]
  rcases stops with rfl | rfl
  all_goals
    refine (Solid.of blanks here (by decide)).skip.bind (.get ?_)
    rw [here]
    exact .pure _ _

-- No repeat follows.
def once (rest : List Char) : Bool :=
  rest.head?.all fun c => !(['?', '*', '+', '\x7b'].contains c)

theorem pieceOnce {e : Expr} (read : Reads (atom fuel depth) s e t) (solid : Solid t)
    (single : once t.rest = true) : Reads (piece (fuel + 1) depth) s e t := by
  rw [piece]
  refine read.bind (solid.skip.bind (.get ?_))
  extract_lets counted
  split
  case h_5 => exact .pure e t
  all_goals
    rename_i same
    rw [same] at single
    cases single

theorem piecesAtEnd (ended : s.rest = []) : Reads (pieces (fuel + 1) depth) s [] s := by
  rw [pieces]
  refine .get ?_
  rw [ended]
  exact .pure _ _

theorem piecesStop (blanks : s.flags.ignoreBlanks = false) (here : s.rest = c :: rest)
    (stops : c = '|' ∨ c = ')') : Reads (pieces (fuel + 3) depth) s [] s := by
  have single : once s.rest = true := by
    rw [here]
    rcases stops with rfl | rfl <;> rfl
  have solid : Solid s := .of blanks here (by rcases stops with rfl | rfl <;> decide)
  have read : Reads (piece (fuel + 2) depth) s .empty s :=
    pieceOnce (atomStop blanks here stops) solid single
  rw [pieces]
  refine .get ?_
  dsimp only
  rw [if_neg (by simp [here])]
  exact read.bind (.get (by rw [if_pos rfl]; exact .pure _ _))

theorem piecesNext {e : Expr} {es : List Expr} (read : Reads (piece fuel depth) s e t)
    (shorter : t.rest.length < s.rest.length) (more : Reads (pieces fuel depth) t es u)
    (covers : e ≠ .empty) : Reads (pieces (fuel + 1) depth) s (e :: es) u := by
  rw [pieces]
  refine .get ?_
  dsimp only
  rw [if_neg (by simp; intro h; simp [h] at shorter)]
  refine read.bind (.get ?_)
  rw [if_neg (by omega)]
  refine more.bind ?_
  split
  · contradiction
  · exact .pure _ _

theorem piecesSetting {es : List Expr} (read : Reads (piece fuel depth) s .empty t)
    (shorter : t.rest.length < s.rest.length) (more : Reads (pieces fuel depth) t es u) :
    Reads (pieces (fuel + 1) depth) s es u := by
  rw [pieces]
  refine .get ?_
  dsimp only
  rw [if_neg (by simp; intro h; simp [h] at shorter)]
  refine read.bind (.get ?_)
  rw [if_neg (by omega)]
  exact more.bind (.pure _ _)

theorem branchRead {es : List Expr} (read : Reads (pieces fuel depth) s es t) :
    Reads (branch (fuel + 1) depth) s (joined es) t := by
  rw [branch]
  exact read.bind (.pure _ _)

theorem furtherNone (closed : s.rest.head? ≠ some '|') (solid : Solid s) :
    Reads (furtherBranches (fuel + 1) depth) s [] s := by
  rw [furtherBranches]
  refine solid.skip.bind (.get ?_)
  split
  · rename_i opened
    rw [opened] at closed
    exact absurd rfl closed
  · exact .pure _ _

theorem furtherNext {e : Expr} {es : List Expr} (blanks : s.flags.ignoreBlanks = false)
    (here : s.rest = '|' :: rest) (first : Reads (branch fuel depth) { s with rest } e t)
    (more : Reads (furtherBranches fuel depth) t es u) :
    Reads (furtherBranches (fuel + 1) depth) s (e :: es) u := by
  rw [furtherBranches]
  refine (Solid.of blanks here (by decide)).skip.bind (.get ?_)
  rw [here]
  exact (Reads.setRest s rest).bind (first.bind (more.bind (.pure _ _)))

def choice : List Expr → Expr
  | [e] => e
  | es => .alt es

theorem alternativesRead {e : Expr} {es : List Expr} (first : Reads (branch fuel depth) s e t)
    (more : Reads (furtherBranches fuel depth) t es u) (unnumbered : u.numbered = false) :
    Reads (alternatives (fuel + 1) depth) s (choice (e :: es)) u := by
  rw [alternatives]
  refine first.bind (more.bind ?_)
  cases es with
  | nil =>
    rw [if_pos (by rfl)]
    refine .get ?_
    rw [unnumbered]
    exact .pure _ _
  | cons => exact .pure _ _

theorem wholeRead {es : List Expr} (read : Reads (pieces fuel depth) s es t) (ended : t.rest = [])
    (unnumbered : t.numbered = false) (blanks : t.flags.ignoreBlanks = false) :
    Reads (alternatives (fuel + 2) depth) s (joined es) t :=
  alternativesRead (branchRead read) (furtherNone (by simp [ended]) ⟨blanks, by simp [ended]⟩)
    unnumbered

theorem closingRead (here : s.rest = ')' :: rest) : Reads closeGroup s () { s with rest } := by
  refine .get ?_
  rw [here]
  exact .setRest s rest

theorem atomGroup {e : Expr} (solid : Solid s) (here : s.rest = '(' :: rest)
    (inside : Reads (group fuel (depth + 1)) { s with rest } e t) :
    Reads (atom (fuel + 1) depth) s e t := by
  rw [atom]
  refine solid.skip.bind (.get ?_)
  rw [here]
  exact (Reads.setRest s rest).bind inside

theorem groupLook {l : Look} {e : Expr} (shallow : depth < deepest) (solid : Solid s)
    (opened : Reads readOpening s (.look l) t) (inside : Reads (alternatives fuel depth) t e u)
    (closed : u.rest = ')' :: rest) :
    Reads (group (fuel + 1) depth) s (.look l e) { u with rest } := by
  rw [group, if_neg (Nat.not_le.mpr shallow)]
  exact solid.skip.bind (opened.bind (inside.bind ((closingRead closed).bind (.pure _ _))))

theorem groupCapture {e : Expr} (shallow : depth < deepest) (solid : Solid s)
    (bare : s.rest.head? ≠ some '?')
    (inside : Reads (alternatives fuel depth) { s with groups := s.groups + 1 } e u)
    (closed : u.rest = ')' :: rest) :
    Reads (group (fuel + 1) depth) s (.group (s.groups + 1) e) { u with rest } := by
  have opened : Reads readOpening s (.capture none) s := by
    refine .get ?_
    split
    case h_13 => exact .pure _ _
    all_goals
      rename_i question
      rw [question] at bare
      exact absurd rfl bare
  rw [group, if_neg (Nat.not_le.mpr shallow)]
  refine solid.skip.bind (opened.bind (.get ?_))
  exact Reads.bind (fun _ => rfl) (inside.bind ((closingRead closed).bind (.pure _ _)))

end Steps

section Words

variable {s : State} {fuel depth : Nat} {stop : Char} {tail : List Char}

def escaped (w : List Char) : List Char :=
  w.flatMap fun c => if Regex.escape.special.contains c then ['\\', c] else [c]

theorem escapeChars (text : String) : (Regex.escape text).toList = escaped text.toList :=
  String.toList_ofList

theorem escapedHead (stops : stop = '|' ∨ stop = ')') (w : List Char) (tail : List Char) :
    ∃ c rest, escaped w ++ stop :: tail = c :: rest ∧ c ≠ '(' ∧ once (c :: rest) = true := by
  cases w with
  | nil => exact ⟨stop, tail, rfl, by rcases stops with rfl | rfl <;> exact ⟨by decide, rfl⟩⟩
  | cons c w =>
    by_cases special : Regex.escape.special.contains c = true
    · refine ⟨'\\', c :: (escaped w ++ stop :: tail), ?_, by decide, rfl⟩
      simp only [escaped, List.flatMap_cons, if_pos special]
      rfl
    · refine ⟨c, escaped w ++ stop :: tail, ?_, ?_, ?_⟩
      · simp only [escaped, List.flatMap_cons, if_neg special]
        rfl
      · rintro rfl
        exact special rfl
      · rw [once, List.head?_cons, Option.all_some, Bool.not_eq_true', List.contains_eq_mem,
          decide_eq_false_iff_not]
        simp only [List.mem_cons, List.not_mem_nil, or_false]
        rintro (rfl | rfl | rfl | rfl) <;> exact special rfl

theorem literalsRead (blanks : s.flags.ignoreBlanks = false) (stops : stop = '|' ∨ stop = ')')
    (w : List Char) (here : s.rest = escaped w ++ stop :: tail) (enough : w.length + 3 ≤ fuel) :
    Reads (pieces fuel depth) s (w.map (literalExpr s.flags.ignoreCase))
      { s with rest := stop :: tail } := by
  induction w generalizing s fuel with
  | nil =>
    obtain ⟨fuel, rfl⟩ := Nat.exists_eq_add_of_le' enough
    have same : { s with rest := stop :: tail } = s := by
      cases s
      cases here
      rfl
    rw [same]
    exact piecesStop blanks here stops
  | cons c w ih =>
    obtain ⟨fuel, rfl⟩ : ∃ k, fuel = k + 3 + 1 := ⟨fuel - 4, by simp at enough; omega⟩
    let t : State := { s with rest := escaped w ++ stop :: tail }
    have read : Reads (atom (fuel + 1 + 1) depth) s (literalExpr s.flags.ignoreCase c) t ∧
        t.rest.length < s.rest.length := by
      by_cases special : Regex.escape.special.contains c = true
      · have opened : s.rest = '\\' :: c :: t.rest := by
          rw [here, escaped, List.flatMap_cons, if_pos special]
          rfl
        refine ⟨atomEscaped blanks opened (by simpa using special), ?_⟩
        rw [opened, List.length_cons, List.length_cons]
        omega
      · have opened : s.rest = c :: t.rest := by
          rw [here, escaped, List.flatMap_cons, if_neg special]
          rfl
        refine ⟨atomLiteral blanks opened (by simpa using special), ?_⟩
        rw [opened, List.length_cons]
        omega
    obtain ⟨d, rest, next, other, single⟩ := escapedHead stops w tail
    have solid : Solid t := .of blanks next other
    rw [← next] at single
    refine piecesNext (pieceOnce read.1 solid single) read.2 ?_ (by rw [literalExpr]; nofun)
    exact ih blanks rfl (by simp at enough; omega)

def wordExpr (ignoreCase : Bool) (w : List Char) : Expr := joined (w.map (literalExpr ignoreCase))

theorem escapedSize (w : List Char) : w.length ≤ (escaped w).length := by
  induction w with
  | nil => exact Nat.zero_le _
  | cons c w ih =>
    have longer : (escaped (c :: w)).length =
        (if Regex.escape.special.contains c then ['\\', c] else [c]).length + (escaped w).length :=
      List.length_append
    rw [List.length_cons, longer]
    split <;> simp <;> omega

-- The words after the first one, each with a bar before it.
def barred (ws : List (List Char)) (tail : List Char) : List Char :=
  ws.flatMap ('|' :: escaped ·) ++ ')' :: tail

theorem barredCons (w : List Char) (ws : List (List Char)) (tail : List Char) :
    barred (w :: ws) tail = '|' :: (escaped w ++ barred ws tail) := by
  simp [barred]

theorem barredHead (ws : List (List Char)) (tail : List Char) :
    ∃ stop rest, barred ws tail = stop :: rest ∧ (stop = '|' ∨ stop = ')') := by
  cases ws with
  | nil => exact ⟨_, _, rfl, .inr rfl⟩
  | cons w ws => exact ⟨_, _, barredCons w ws tail, .inl rfl⟩

theorem wordsHead (w : List Char) (ws : List (List Char)) (tail : List Char) :
    ∃ c rest, escaped w ++ barred ws tail = c :: rest ∧ c ≠ '(' ∧ c ≠ '?' := by
  obtain ⟨stop, after, next, stops⟩ := barredHead ws tail
  obtain ⟨c, rest, here, other, single⟩ := escapedHead stops w after
  refine ⟨c, rest, by rw [next, here], other, ?_⟩
  rintro rfl
  cases single

theorem wordRead (blanks : s.flags.ignoreBlanks = false) (w : List Char) (ws : List (List Char))
    (here : s.rest = escaped w ++ barred ws tail) (enough : s.rest.length + 3 ≤ fuel) :
    Reads (branch fuel depth) s (wordExpr s.flags.ignoreCase w)
      { s with rest := barred ws tail } := by
  obtain ⟨fuel, rfl⟩ := Nat.exists_eq_add_of_le' (Nat.le_of_add_left_le enough)
  obtain ⟨stop, rest, next, stops⟩ := barredHead ws tail
  have size := escapedSize w
  rw [next] at here ⊢
  refine branchRead (literalsRead blanks stops w here ?_)
  rw [here, List.length_append, List.length_cons] at enough
  omega

theorem furtherRead (blanks : s.flags.ignoreBlanks = false) (ws : List (List Char))
    (here : s.rest = barred ws tail) (enough : s.rest.length + 3 ≤ fuel) :
    Reads (furtherBranches fuel depth) s (ws.map (wordExpr s.flags.ignoreCase))
      { s with rest := ')' :: tail } := by
  induction ws generalizing s fuel with
  | nil =>
    obtain ⟨fuel, rfl⟩ := Nat.exists_eq_add_of_le' (Nat.le_of_add_left_le enough)
    have same : { s with rest := ')' :: tail } = s := by
      cases s
      cases here
      rfl
    rw [same]
    exact furtherNone (by simp [here, barred]) (.of blanks here (by decide))
  | cons w ws ih =>
    rw [barredCons] at here
    rw [here, List.length_cons] at enough
    obtain ⟨fuel, rfl⟩ : ∃ k, fuel = k + 1 := ⟨fuel - 1, by omega⟩
    let t : State := { s with rest := escaped w ++ barred ws tail }
    refine furtherNext blanks here (wordRead (s := t) blanks w ws rfl ?_)
      (ih (s := { s with rest := barred ws tail }) blanks rfl ?_)
    · change (escaped w ++ barred ws tail).length + 3 ≤ fuel
      omega
    · rw [List.length_append] at enough
      change (barred ws tail).length + 3 ≤ fuel
      omega

theorem wordsRead (blanks : s.flags.ignoreBlanks = false) (unnumbered : s.numbered = false)
    (w : List Char) (ws : List (List Char)) (here : s.rest = escaped w ++ barred ws tail)
    (enough : s.rest.length + 4 ≤ fuel) :
    Reads (alternatives fuel depth) s (choice ((w :: ws).map (wordExpr s.flags.ignoreCase)))
      { s with rest := ')' :: tail } := by
  obtain ⟨fuel, rfl⟩ : ∃ k, fuel = k + 1 := ⟨fuel - 1, by omega⟩
  refine alternativesRead (wordRead blanks w ws here (by omega))
    (furtherRead (s := { s with rest := barred ws tail }) blanks ws rfl ?_) unnumbered
  rw [here, List.length_append] at enough
  change (barred ws tail).length + 3 ≤ fuel
  omega

end Words

end Scrollback.Regex.Reader
