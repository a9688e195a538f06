import Scrollback.Proofs.Regex.Cursor
import Scrollback.Proofs.Unicode.Classes
import Scrollback.Search.Query

/-! A scanner for queries that never goes back. It stands beside the pattern for tokens,
which says the same with alternatives and retries; their agreement is not shown here. -/
namespace Scrollback.Search.Scanner
open Unicode

-- How many characters up to the next blank.
def wordSize (cs : List Char) : Nat := (cs.takeWhile (!isBlank ·)).length

def nameSize (cs : List Char) : Nat := (cs.takeWhile isWord).length

-- How many characters up to the next quote or line break.
def innerSize (cs : List Char) : Nat := (cs.takeWhile fun c => c != '"' && c != '\n').length

/- The size of a text in quotes, up to the first quote with at least one character before it.
There is no line break inside. -/
def quotedSize? : List Char → Option Nat
  | '"' :: x :: rest =>
    if x ≠ '\n' ∧ rest[innerSize rest]? = some '"' then some (innerSize rest + 3) else none
  | _ => none

def valueSize? (cs : List Char) : Option Nat :=
  match quotedSize? cs with
  | some n => some n
  | none => if wordSize cs = 0 then none else some (wordSize cs)

-- The sizes of a name and of the value after its colon.
def namedSize? (cs : List Char) : Option (Nat × Nat) :=
  let n := nameSize cs
  if n ≠ 0 ∧ cs[n]? = some ':' then (valueSize? (cs.drop (n + 1))).map fun v => (n, v) else none

def tokenSize (cs : List Char) : Nat :=
  match namedSize? cs with
  | some (n, v) => n + 1 + v
  | none => wordSize cs

-- The token that starts here, where no blank is.
def tokenAt (cs : List Char) : Token :=
  match namedSize? cs with
  | some (n, v) => {
      text := String.ofList (cs.take (n + 1 + v))
      name := String.ofList (cs.take n)
      value := String.ofList ((cs.drop (n + 1)).take v) }
  | none => { text := String.ofList (cs.take (wordSize cs)) }

-- How many blanks come first.
def blanks (cs : List Char) : Nat := (cs.takeWhile isBlank).length

theorem wordSizePos {x : Char} {rest : List Char} (solid : isBlank x = false) :
    0 < wordSize (x :: rest) := by
  simp [wordSize, solid]

theorem tokenSizePos {x : Char} {rest : List Char} (solid : isBlank x = false) :
    0 < tokenSize (x :: rest) := by
  unfold tokenSize
  split
  · omega
  · exact wordSizePos solid

theorem solidHead {cs rest : List Char} {x : Char} (h : cs.dropWhile isBlank = x :: rest) :
    isBlank x = false := by
  have head := List.head?_dropWhile_not isBlank cs
  rwa [h] at head

theorem restShorter {cs rest : List Char} {x : Char} (h : cs.dropWhile isBlank = x :: rest) :
    ((x :: rest).drop (tokenSize (x :: rest))).length < cs.length := by
  have size : 0 < tokenSize (x :: rest) := tokenSizePos (solidHead h)
  have whole := (List.dropWhile_sublist isBlank (l := cs)).length_le
  rw [h] at whole
  simp only [List.length_drop, List.length_cons] at whole ⊢
  omega

def scan (cs : List Char) : List Token :=
  match _h : cs.dropWhile isBlank with
  | [] => []
  | x :: rest => tokenAt (x :: rest) :: scan ((x :: rest).drop (tokenSize (x :: rest)))
termination_by cs.length
decreasing_by exact restShorter _h

-- Where the tokens of a text start and end, if the text itself starts at `start`.
def spans (start : Nat) (cs : List Char) : List (Nat × Nat) :=
  match _h : cs.dropWhile isBlank with
  | [] => []
  | x :: rest =>
    let first := start + blanks cs
    let last := first + tokenSize (x :: rest)
    (first, last) :: spans last ((x :: rest).drop (tokenSize (x :: rest)))
termination_by cs.length
decreasing_by exact restShorter _h

theorem scanNil {cs : List Char} (h : cs.dropWhile isBlank = []) : scan cs = [] := by
  rw [scan]
  split
  · rfl
  · rename_i more
    simp [h] at more

theorem scanCons {cs rest : List Char} {x : Char} (h : cs.dropWhile isBlank = x :: rest) :
    scan cs = tokenAt (x :: rest) :: scan ((x :: rest).drop (tokenSize (x :: rest))) := by
  rw [scan]
  split
  · rename_i none
    simp [h] at none
  · rename_i y more same
    rw [h] at same
    cases same
    rfl

theorem spansNil {cs : List Char} (start : Nat) (h : cs.dropWhile isBlank = []) :
    spans start cs = [] := by
  rw [spans]
  split
  · rfl
  · rename_i more
    simp [h] at more

theorem spansCons {cs rest : List Char} {x : Char} (start : Nat)
    (h : cs.dropWhile isBlank = x :: rest) :
    spans start cs =
      (start + blanks cs, start + blanks cs + tokenSize (x :: rest)) ::
        spans (start + blanks cs + tokenSize (x :: rest))
          ((x :: rest).drop (tokenSize (x :: rest))) := by
  rw [spans]
  split
  · rename_i none
    simp [h] at none
  · rename_i y more same
    rw [h] at same
    cases same
    rfl

theorem dropBlanks (cs : List Char) : cs.drop (blanks cs) = cs.dropWhile isBlank :=
  Regex.dropTaken isBlank cs

theorem blanksFit (cs : List Char) : blanks cs + (cs.dropWhile isBlank).length = cs.length := by
  rw [blanks, ← List.length_append, List.takeWhile_append_dropWhile]

theorem restCut {cs rest : List Char} {x : Char} (h : cs.dropWhile isBlank = x :: rest) (n : Nat) :
    (x :: rest).drop n = cs.drop (blanks cs + n) := by
  rw [← List.drop_drop, dropBlanks, h]

theorem wordFits (cs : List Char) : wordSize cs ≤ cs.length :=
  (List.takeWhile_sublist _).length_le

theorem quotedFits {cs : List Char} {n : Nat} (h : quotedSize? cs = some n) : n ≤ cs.length := by
  unfold quotedSize? at h
  split at h
  · rename_i x rest
    split at h
    · rename_i closed
      have inside := (List.getElem?_eq_some_iff.mp closed.2).1
      cases Option.some.inj h
      simp only [List.length_cons]
      omega
    · contradiction
  · contradiction

theorem valueFits {cs : List Char} {n : Nat} (h : valueSize? cs = some n) : n ≤ cs.length := by
  unfold valueSize? at h
  split at h
  · rename_i m quoted
    cases Option.some.inj h
    exact quotedFits quoted
  · split at h
    · contradiction
    · cases Option.some.inj h
      exact wordFits cs

theorem namedParts {cs : List Char} {n v : Nat} (named : namedSize? cs = some (n, v)) :
    cs[n]? = some ':' ∧ valueSize? (cs.drop (n + 1)) = some v := by
  unfold namedSize? at named
  dsimp only at named
  split at named
  · rename_i here
    obtain ⟨size, value, same⟩ := Option.map_eq_some_iff.mp named
    cases same
    exact ⟨here.2, value⟩
  · contradiction

theorem tokenFits (cs : List Char) : tokenSize cs ≤ cs.length := by
  unfold tokenSize
  split
  · rename_i n v named
    obtain ⟨colon, value⟩ := namedParts named
    have inside := (List.getElem?_eq_some_iff.mp colon).1
    have fits := valueFits value
    rw [List.length_drop] at fits
    omega
  · exact wordFits cs

/- Spans of a text that itself starts at `start`. They are neither empty nor out of order, and each
character that is no blank lies in exactly one of them. -/
structure Covers (start : Nat) (cs : List Char) (spans : List (Nat × Nat)) : Prop where
  nonempty : ∀ s ∈ spans, s.1 < s.2
  ordered : spans.Pairwise fun a b => a.2 ≤ b.1
  inside : ∀ s ∈ spans, start ≤ s.1 ∧ s.2 ≤ start + cs.length
  once : ∀ i c, cs[i]? = some c → isBlank c = false →
    ∃ s ∈ spans, (s.1 ≤ start + i ∧ start + i < s.2) ∧
      ∀ t ∈ spans, t.1 ≤ start + i ∧ start + i < t.2 → t = s

theorem blankAt {cs : List Char} {i : Nat} {c : Char} (here : cs[i]? = some c)
    (early : i < blanks cs) : isBlank c = true := by
  have member : c ∈ cs.takeWhile isBlank := by
    have whole : cs.takeWhile isBlank ++ cs.dropWhile isBlank = cs :=
      List.takeWhile_append_dropWhile
    rw [← whole, List.getElem?_append_left early] at here
    exact List.mem_of_getElem? here
  exact List.all_eq_true.mp List.all_takeWhile c member

theorem coversNil {cs : List Char} (start : Nat) (h : cs.dropWhile isBlank = []) :
    Covers start cs [] where
  nonempty := by simp
  ordered := .nil
  inside := by simp
  once := by
    intro i c here solid
    have size := blanksFit cs
    rw [h, List.length_nil] at size
    have inside := (List.getElem?_eq_some_iff.mp here).1
    rw [blankAt here (by omega)] at solid
    contradiction

theorem coversCons {start n : Nat} {cs : List Char} {spans : List (Nat × Nat)}
    (pos : 0 < n) (fits : blanks cs + n ≤ cs.length)
    (rest : Covers (start + blanks cs + n) (cs.drop (blanks cs + n)) spans) :
    Covers start cs ((start + blanks cs, start + blanks cs + n) :: spans) where
  nonempty := by
    intro s member
    rcases List.mem_cons.mp member with rfl | later
    · exact Nat.lt_add_of_pos_right pos
    · exact rest.nonempty s later
  ordered := List.pairwise_cons.mpr ⟨fun s later => (rest.inside s later).1, rest.ordered⟩
  inside := by
    intro s member
    rcases List.mem_cons.mp member with rfl | later
    · constructor <;> simp only <;> omega
    · have bound := rest.inside s later
      rw [List.length_drop] at bound
      omega
  once := by
    intro i c here solid
    have skipped : blanks cs ≤ i := by
      refine Nat.le_of_not_lt fun early => ?_
      rw [blankAt here early] at solid
      contradiction
    by_cases first : i < blanks cs + n
    · refine ⟨_, List.mem_cons_self, ⟨by simp only; omega, by simp only; omega⟩, ?_⟩
      intro t member both
      rcases List.mem_cons.mp member with rfl | later
      · rfl
      · have apart := (rest.inside t later).1
        omega
    · have there : (cs.drop (blanks cs + n))[i - (blanks cs + n)]? = some c := by
        rw [List.getElem?_drop, Nat.add_sub_cancel' (by omega)]
        exact here
      obtain ⟨s, member, both, only⟩ := rest.once _ c there solid
      have same : start + blanks cs + n + (i - (blanks cs + n)) = start + i := by omega
      rw [same] at both only
      refine ⟨s, List.mem_cons_of_mem _ member, both, ?_⟩
      intro t later inside
      rcases List.mem_cons.mp later with rfl | later
      · simp only at inside
        omega
      · exact only t later inside

theorem coversSpans (start : Nat) (cs : List Char) : Covers start cs (spans start cs) := by
  induction size : cs.length using Nat.strongRecOn generalizing start cs with
  | ind size ih =>
    cases h : cs.dropWhile isBlank with
    | nil =>
      rw [spansNil start h]
      exact coversNil start h
    | cons x rest =>
      have whole := blanksFit cs
      have fits := tokenFits (x :: rest)
      rw [h] at whole
      have shorter := restShorter h
      rw [spansCons start h]
      rw [restCut h] at shorter ⊢
      refine coversCons (tokenSizePos (solidHead h)) (by omega) ?_
      exact ih _ (by omega) _ _ rfl

theorem tokenText (cs : List Char) : (tokenAt cs).text.toList = cs.take (tokenSize cs) := by
  rw [tokenAt, tokenSize]
  cases namedSize? cs <;> simp

/- The tokens are cut out of the whole text, so the induction keeps the part of it that was
scanned before. -/
theorem textsCut (before cs : List Char) :
    (scan cs).map (·.text.toList) =
      (spans before.length cs).map fun s => ((before ++ cs).drop s.1).take (s.2 - s.1) := by
  induction size : cs.length using Nat.strongRecOn generalizing before cs with
  | ind size ih =>
    cases h : cs.dropWhile isBlank with
    | nil =>
      rw [scanNil h, spansNil _ h]
      rfl
    | cons x rest =>
      have fits := tokenFits (x :: rest)
      have whole := blanksFit cs
      have shorter := restShorter h
      rw [h] at whole
      rw [scanCons h, spansCons _ h, List.map_cons, List.map_cons, tokenText]
      rw [restCut h] at shorter ⊢
      have moved := ih _ (by omega) (before ++ cs.take (blanks cs + tokenSize (x :: rest)))
        (cs.drop (blanks cs + tokenSize (x :: rest))) rfl
      rw [List.append_assoc, List.take_append_drop, List.length_append, List.length_take,
        Nat.min_eq_left (by omega), ← Nat.add_assoc] at moved
      rw [moved]
      refine congrArg (· :: _) ?_
      simp only [Nat.add_sub_cancel_left, List.drop_length_add_append, dropBlanks, h]

end Scrollback.Search.Scanner
