import Scrollback.Unicode.Class
import Scrollback.Unicode.Property
import Scrollback.Unicode.Folding

/-!
Sets of characters, as a pattern writes them.
-/

namespace Scrollback.Regex

open Unicode (Property)

inductive CharSet where
  | range (first last : Char)
  | blank
  | digit
  | word
  | property (p : Property)
  | none
  | union (s t : CharSet)
  | inter (s t : CharSet)
  | not (s : CharSet)
  | folded (s : CharSet)

namespace CharSet

def single (c : Char) : CharSet := .range c c

def all : CharSet := .not .none

def diff (s t : CharSet) : CharSet := .inter s (.not t)

def symmDiff (s t : CharSet) : CharSet := .union (s.diff t) (t.diff s)

def ofList : List CharSet → CharSet
  | [] => .none
  | [s] => s
  | s :: rest => .union s (ofList rest)

def foldIf (ignoreCase : Bool) (s : CharSet) : CharSet :=
  if ignoreCase then .folded s else s

def contains : CharSet → Char → Bool
  | .range first last, c => first ≤ c && c ≤ last
  | .blank, c => Unicode.isBlank c
  | .digit, c => Unicode.isDigit c
  | .word, c => Unicode.isWord c
  | .property p, c => p.contains c
  | .none, _ => false
  | .union s t, c => s.contains c || t.contains c
  | .inter s t, c => s.contains c && t.contains c
  | .not s, c => !s.contains c
  | .folded s, c => (Unicode.foldingClass c).any s.contains

end CharSet

end Scrollback.Regex
