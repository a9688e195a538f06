import Std.Data.HashSet
import Scrollback.Regex.CharSet
import Scrollback.Regex.Cursor

/-!
Plain patterns: those whose matches depend on nothing but the text they cover and the assertions on
its ends. They are matched in two ways. `ends` lists where a match may end, the preferred end first,
and `reach` answers for many starts at once where a match may end, without a preference.
-/

namespace Scrollback.Regex

inductive Plain where
  | empty
  | set (s : CharSet)
  | assert (a : Assertion)
  | seq (first second : Plain)
  | alt (first second : Plain)
  | capture (index : Nat) (body : Plain)
  | run (s : CharSet) (atLeast : Nat) (atMost : Option Nat) (greedy : Bool)
  | loop (body : Plain) (atLeast : Nat) (atMost : Option Nat) (greedy : Bool)

/- How far a match has come: where it is, where it began to look, and the ends of the groups it
has passed. A group with index `i` has its start in slot `2 * i` and its end in the slot after. -/
structure Progress where
  cursor : Cursor
  origin : Nat
  slots : List (Nat × Cursor)

namespace Progress

def start (c : Cursor) : Progress := ⟨c, c.index, []⟩

def index (p : Progress) : Nat := p.cursor.index

def save (p : Progress) (slot : Nat) : Progress :=
  { p with slots := (slot, p.cursor) :: p.slots }

def slot? (p : Progress) (slot : Nat) : Option Cursor :=
  (p.slots.find? (·.1 == slot)).map (·.2)

def group? (p : Progress) (i : Nat) : Option (List Char) := do
  let first ← p.slot? (2 * i)
  let last ← p.slot? (2 * i + 1)
  some (first.textTo last)

def take? (p : Progress) (s : CharSet) : Option Progress :=
  match p.cursor.next? with
  | some (x, c) => if s.contains x then some { p with cursor := c } else none
  | none => none

def distinct (ps : List Progress) : List Progress :=
  match ps with
  | [] => []
  | [p] => [p]
  | ps => go ∅ ps
where
  go (seen : Std.HashSet Nat) : List Progress → List Progress
    | [] => []
    | p :: rest =>
      if seen.contains p.index then go seen rest else p :: go (seen.insert p.index) rest

end Progress

namespace Plain

def runPlaces (s : CharSet) (p : Progress) : (limit : Nat) → List Progress
  | 0 => []
  | limit + 1 =>
    match p.take? s with
    | none => []
    | some q => q :: runPlaces s q limit

def runEnds (s : CharSet) (atLeast : Nat) (atMost : Option Nat) (p : Progress) : List Progress :=
  let longest := p.cursor.after.length
  (p :: runPlaces s p (min longest (atMost.getD longest))).drop atLeast

/- What a repeat has seen: places where a round began and places where a round ended, each with
the number of rounds left. -/
structure Visited where
  begun : Std.HashSet (Nat × Nat) := ∅
  ended : Std.HashSet (Nat × Nat) := ∅

/- The ends of further rounds of a repeat, preferred ones first. A place that was reached before
with as many rounds left is not entered again. -/
def rounds (body : Progress → List Progress) (greedy : Bool) :
    (fuel : Nat) → (left : Option Nat) → Progress → Visited → List Progress × Visited
  | 0, _, _, seen => ([], seen)
  | _ + 1, some 0, _, seen => ([], seen)
  | fuel + 1, left, p, seen =>
    let key := (left.getD 0, p.index)
    if seen.begun.contains key then ([], seen)
    else
      let seen := { seen with begun := seen.begun.insert key }
      let next := left.map (· - 1)
      (body p).foldl (fun (found, seen) q =>
        let key := (next.getD 0, q.index)
        if seen.ended.contains key then (found, seen)
        else
          let seen := { seen with ended := seen.ended.insert key }
          let (more, seen) := rounds body greedy fuel next q seen
          (found ++ (if greedy then more ++ [q] else q :: more), seen)) ([], seen)

def repeated (body : Progress → List Progress) : Nat → List Progress → List Progress
  | 0, ps => ps
  | n + 1, ps => if ps.isEmpty then [] else repeated body n (Progress.distinct (ps.flatMap body))

def loopEnds (body : Progress → List Progress) (atLeast : Nat) (atMost : Option Nat) (greedy : Bool)
    (p : Progress) : List Progress :=
  let left := atMost.map (· - atLeast)
  let ends := (repeated body atLeast [p]).flatMap fun q =>
    let more := (rounds body greedy (q.cursor.after.length + left.getD 0 + 2) left q {}).1
    if greedy then more ++ [q] else q :: more
  Progress.distinct ends

def ends : Plain → Progress → List Progress
  | .empty, p => [p]
  | .set s, p => (p.take? s).toList
  | .assert a, p => if a.holds p.cursor then [p] else []
  | .seq e f, p => Progress.distinct ((e.ends p).flatMap f.ends)
  | .alt e f, p => Progress.distinct (e.ends p ++ f.ends p)
  | .capture i e, p => (e.ends (p.save (2 * i))).map (·.save (2 * i + 1))
  | .run s atLeast atMost greedy, p =>
    let found := runEnds s atLeast atMost p
    if greedy then found.reverse else found
  | .loop e atLeast atMost greedy, p => loopEnds e.ends atLeast atMost greedy p

def first? : Plain → Progress → Option Progress
  | .empty, p => some p
  | .set s, p => p.take? s
  | .assert a, p => if a.holds p.cursor then some p else none
  | .seq e f, p => (e.ends p).findSome? f.first?
  | .alt e f, p =>
    match e.first? p with
    | some q => some q
    | none => f.first? p
  | .capture i e, p => (e.first? (p.save (2 * i))).map (·.save (2 * i + 1))
  | .run s atLeast atMost greedy, p => ((Plain.run s atLeast atMost greedy).ends p).head?
  | .loop e atLeast atMost greedy, p => (loopEnds e.ends atLeast atMost greedy p).head?

/-! Sets of places are numbers: bit `i` is set if place `i` is in the set. -/

def places (c : Cursor) : List Cursor :=
  go c c.after
where
  go (c : Cursor) : List Char → List Cursor
    | [] => [c]
    | x :: rest => c :: go ⟨c.index + 1, x :: c.before, rest⟩ rest

def bitsOf (holds : Cursor → Bool) (cs : List Cursor) : Nat :=
  cs.foldl (fun bits c => if holds c then bits ||| (1 <<< c.index) else bits) 0

def closure (body : Nat → Nat) : (rounds : Nat) → Nat → Nat
  | 0, places => places
  | rounds + 1, places =>
    let more := places ||| body places
    if more == places then places else closure body rounds more

def iterate (body : Nat → Nat) : Nat → Nat → Nat
  | 0, places => places
  | n + 1, places =>
    let next := body places
    if next == places then places else iterate body n next

def reach (cs : List Cursor) : Plain → Nat → Nat
  | .empty => id
  | .set s => step s
  | .assert a =>
    let there := bitsOf a.holds cs
    fun from' => from' &&& there
  | .seq e f =>
    let first := e.reach cs
    let second := f.reach cs
    fun from' => second (first from')
  | .alt e f =>
    let first := e.reach cs
    let second := f.reach cs
    fun from' => first from' ||| second from'
  | .capture _ e => e.reach cs
  | .run s atLeast atMost _ => repeatReach (step s) atLeast atMost
  | .loop e atLeast atMost _ => repeatReach (e.reach cs) atLeast atMost
where
  step (s : CharSet) : Nat → Nat :=
    let here := bitsOf (fun c => c.after.head?.any s.contains) cs
    fun from' => (from' &&& here) <<< 1
  repeatReach (body : Nat → Nat) (atLeast : Nat) (atMost : Option Nat) : Nat → Nat :=
    fun from' =>
      let start := iterate body atLeast from'
      let rounds := cs.length + 1
      closure body (match atMost with | none => rounds | some n => min rounds (n - atLeast)) start

def occursIn (e : Plain) (text : List Char) : Bool :=
  let cs := places (.start text)
  e.reach cs (bitsOf (fun _ => true) cs) != 0

end Plain

end Scrollback.Regex
