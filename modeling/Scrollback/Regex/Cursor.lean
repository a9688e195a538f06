import Scrollback.Unicode.Class

/-!
Places in a text, and the assertions that hold at them.
-/

namespace Scrollback.Regex

structure Cursor where
  index : Nat
  -- What stands before the place, nearest character first.
  before : List Char
  after : List Char

namespace Cursor

def start (text : List Char) : Cursor := ⟨0, [], text⟩

def next? (c : Cursor) : Option (Char × Cursor) :=
  match c.after with
  | [] => none
  | x :: rest => some (x, ⟨c.index + 1, x :: c.before, rest⟩)

def back? (c : Cursor) : Nat → Option Cursor
  | 0 => some c
  | n + 1 =>
    match c.before with
    | [] => none
    | x :: rest => back? ⟨c.index - 1, rest, x :: c.after⟩ n

def textTo (c stop : Cursor) : List Char :=
  c.after.take (stop.index - c.index)

def wordBefore (c : Cursor) : Bool :=
  match c.before with
  | [] => false
  | x :: _ => Unicode.isWord x

def wordAfter (c : Cursor) : Bool :=
  match c.after with
  | [] => false
  | x :: _ => Unicode.isWord x

end Cursor

inductive Assertion where
  | textStart | textEnd | lineStart | lineEnd
  | wordBoundary | noWordBoundary | wordStart | wordEnd | wordStartHalf | wordEndHalf
  deriving DecidableEq

namespace Assertion

def holds (a : Assertion) (c : Cursor) : Bool :=
  match a with
  | .textStart => c.before.isEmpty
  | .textEnd => c.after.isEmpty
  | .lineStart => c.before.head?.all (· == '\n')
  | .lineEnd => c.after.head?.all (· == '\n')
  | .wordBoundary => c.wordBefore != c.wordAfter
  | .noWordBoundary => c.wordBefore == c.wordAfter
  | .wordStart => !c.wordBefore && c.wordAfter
  | .wordEnd => c.wordBefore && !c.wordAfter
  | .wordStartHalf => !c.wordBefore
  | .wordEndHalf => !c.wordAfter

def ofWords : Assertion → Bool
  | .textStart | .textEnd | .lineStart | .lineEnd => false
  | _ => true

end Assertion

end Scrollback.Regex
