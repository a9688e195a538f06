import Scrollback.Regex.Reader
import Scrollback.Regex.Weight

/-!
Compiled patterns and the searches that are made with them.
-/

namespace Scrollback

inductive Regex.Program where
  | plain (e : Regex.Plain)
  -- If `anchored`, a match can only start at the start of the text.
  | planned (anchored : Bool) (plan : Regex.Plan)

structure Regex where
  source : String
  program : Regex.Program
  names : List (String × Nat)

namespace Regex

def retryLimit : Nat := 1000000

/- Takes a look ahead at the very end of a pattern as a part of the pattern: what it covers is
then covered by the match, which makes no difference to whether there is one. -/
def widen (e : Expr) : Expr × Option Expr :=
  match e with
  | .concat es =>
    match es.reverse with
    | .look ⟨false, false⟩ ahead :: rest => (Reader.joined rest.reverse, some ahead)
    | _ => (e, none)
  | _ => (e, none)

def startsAnchored : Expr → Bool
  | .assert .textStart => true
  | .concat (.assert .textStart :: _) => true
  | _ => false

/- Slot for the end of a match that is followed by a part which is matched but not covered. -/
def endSlot : Nat := 1

def compile (r : Reader.Reading) : Except Error Program := do
  let (covered, ahead) := widen r.expr
  match ahead with
  | none =>
    if !r.expr.hard r.references then return .plain (← r.expr.plain)
    else return .planned (startsAnchored r.expr) (← r.expr.plan r.references false)
  | some ahead =>
    let whole := Expr.concat [.group 0 covered, ahead]
    if !whole.hard r.references then return .plain (← whole.plain)
    else return .planned (startsAnchored covered) (← whole.plan r.references false)

def Program.fits : Program → Bool
  | .plain e => e.fits
  | .planned _ plan => plan.fits

def parse (source : String) : Except Error Regex := do
  let r ← Reader.readPattern source
  let program ← compile r
  if !program.fits then throw .tooLarge
  return ⟨source, program, r.names⟩

structure Match where
  first : Cursor
  last : Cursor
  slots : List (Nat × Cursor)

namespace Match

def ofProgress (start : Cursor) (p : Progress) : Match where
  first := (p.slot? 0).getD start
  last := (p.slot? endSlot).getD p.cursor
  slots := p.slots

def chars (m : Match) : List Char := m.first.textTo m.last

def text (m : Match) : String := String.ofList m.chars

end Match

inductive Verdict where
  | found (m : Match)
  | absent
  | givenUp

def Verdict.ofSearch : Cursor × Outcome → Verdict
  | (start, .matched p _) => .found (.ofProgress start p)
  | (_, .failed _) => .absent
  | (_, .exhausted) => .givenUp

def searchPlan (plan : Plan) (c : Cursor) (left : Nat) : Cursor × Outcome :=
  match plan.run .matched (.start c) left with
  | .failed 0 => (c, .exhausted)
  | .failed (left + 1) =>
    match h : c.after with
    | [] => (c, .failed left)
    | x :: rest => searchPlan plan ⟨c.index + 1, x :: c.before, rest⟩ left
  | other => (c, other)
termination_by c.after.length
decreasing_by simp [h]

def searchFrom (r : Regex) (c : Cursor) : Verdict :=
  match r.program with
  | .plain e =>
    match (Plain.places c).findSome? fun c => (e.first? (.start c)).map (Match.ofProgress c) with
    | some m => .found m
    | none => .absent
  | .planned anchored plan =>
    .ofSearch <|
      if anchored then (c, plan.run .matched (.start c) retryLimit)
      else searchPlan plan c retryLimit

def test? (r : Regex) (text : String) : Option Bool :=
  match r.program with
  | .plain e => some (e.occursIn text.toList)
  | .planned _ _ =>
    match r.searchFrom (.start text.toList) with
    | .found _ => some true
    | .absent => some false
    | .givenUp => none

def isMatch (r : Regex) (text : String) : Bool := r.test? text == some true

def find? (r : Regex) (text : String) : Option Match :=
  match r.searchFrom (.start text.toList) with
  | .found m => some m
  | _ => none

def group? (r : Regex) (m : Match) (name : String) : Option (List Char) := do
  let i ← r.names.lookup name
  let first ← (m.slots.find? (·.1 == 2 * i)).map (·.2)
  let last ← (m.slots.find? (·.1 == 2 * i + 1)).map (·.2)
  some (first.textTo last)

structure Scan where
  found : List Match
  complete : Bool

/- Each search starts where the match before ended, or one character later if that match was
empty. -/
def scanFrom (r : Regex) (c : Cursor) : Scan :=
  match r.searchFrom c with
  | .givenUp => ⟨[], false⟩
  | .absent => ⟨[], true⟩
  | .found m =>
    if m.last.after.length < c.after.length then
      let more := scanFrom r m.last
      ⟨m :: more.found, more.complete⟩
    else
      match _h : c.after with
      | [] => ⟨[m], true⟩
      | x :: rest =>
        let more := scanFrom r ⟨c.index + 1, x :: c.before, rest⟩
        ⟨m :: more.found, more.complete⟩
termination_by c.after.length
decreasing_by
  · assumption
  · simp [_h]

def scan (r : Regex) (text : String) : Scan := r.scanFrom (.start text.toList)

def escape (text : String) : String :=
  String.ofList (text.toList.flatMap fun c =>
    if special.contains c then ['\\', c] else [c])
where
  special : List Char :=
    ['\\', '.', '+', '*', '?', '(', ')', '|', '[', ']', '\x7b', '\x7d', '^', '$', '#']

end Regex

end Scrollback
