import Std.Data.HashMap
import Scrollback.Unicode.Folding
import Scrollback.Unicode.CompositionTables

/-!
Canonical composition of text: characters are decomposed, marks are put into the order of their
combining classes, and what composes with the character before is composed with it.
-/

namespace Scrollback.Unicode

def decompositionTable : Std.HashMap Nat (List Char) :=
  (tableEntries decompositions).foldl (fun table written =>
    match written.splitOn ">" with
    | [source, parts] =>
      table.insert (hexValue source) ((parts.splitOn "+").map (Char.ofNat ∘ hexValue))
    | _ => table) ∅

def compositionTable : Std.HashMap (Nat × Nat) Char :=
  (tableEntries compositions).foldl (fun table written =>
    match written.splitOn ">" with
    | [pair, whole] =>
      match pair.splitOn "+" with
      | [a, b] => table.insert (hexValue a, hexValue b) (Char.ofNat (hexValue whole))
      | _ => table
    | _ => table) ∅

def combiningClassTables : List (Nat × RangeTable) :=
  combiningClassRanges.map fun (n, ranges) => (n, .ofText ranges)

def combiningClass (c : Char) : Nat :=
  if c.toNat < 0x300 then 0
  else ((combiningClassTables.find? (·.2.contains c)).map (·.1)).getD 0

/-! Hangul syllables are made of a leading consonant, a vowel and perhaps a trailing consonant. -/

def hangulBase : Nat := 0xAC00
def leadBase : Nat := 0x1100
def vowelBase : Nat := 0x1161
def trailBase : Nat := 0x11A7
def vowelCount : Nat := 21
def trailCount : Nat := 28
def hangulCount : Nat := 19 * vowelCount * trailCount

def decompose (c : Char) : List Char :=
  let n := c.toNat
  if n < 0xC0 then [c]
  else if hangulBase ≤ n ∧ n < hangulBase + hangulCount then
    let i := n - hangulBase
    let lead := Char.ofNat (leadBase + i / (vowelCount * trailCount))
    let vowel := Char.ofNat (vowelBase + i % (vowelCount * trailCount) / trailCount)
    let trail := i % trailCount
    if trail = 0 then [lead, vowel] else [lead, vowel, Char.ofNat (trailBase + trail)]
  else (decompositionTable.get? n).getD [c]

def composePair? (a b : Char) : Option Char :=
  let m := a.toNat
  let n := b.toNat
  if leadBase ≤ m ∧ m < leadBase + 19 ∧ vowelBase ≤ n ∧ n < vowelBase + vowelCount then
    some (Char.ofNat (hangulBase + ((m - leadBase) * vowelCount + (n - vowelBase)) * trailCount))
  else if hangulBase ≤ m ∧ m < hangulBase + hangulCount ∧ (m - hangulBase) % trailCount = 0
      ∧ trailBase < n ∧ n < trailBase + trailCount then
    some (Char.ofNat (m + (n - trailBase)))
  else compositionTable.get? (m, n)

def orderMarks (marks : List Char) : List Char → List Char
  | [] => sorted marks
  | c :: rest =>
    if combiningClass c = 0 then sorted marks ++ c :: orderMarks [] rest
    else orderMarks (marks ++ [c]) rest
where
  sorted (marks : List Char) : List Char :=
    marks.mergeSort fun a b => combiningClass a ≤ combiningClass b

/- Composes what follows a starter. The marks that were passed stand in reverse, with the class of
the last of them. -/
def composeAfter (starter : Char) (passed : List Char) (lastClass : Nat) : List Char → List Char
  | [] => starter :: passed.reverse
  | c :: rest =>
    let cls := combiningClass c
    match if passed.isEmpty || lastClass < cls then composePair? starter c else none with
    | some whole => composeAfter whole passed lastClass rest
    | none =>
      if cls = 0 then starter :: passed.reverse ++ composeAfter c [] 0 rest
      else composeAfter starter (c :: passed) cls rest

def composeAll : List Char → List Char
  | [] => []
  | c :: rest => if combiningClass c = 0 then composeAfter c [] 0 rest else c :: composeAll rest

def composed (cs : List Char) : List Char :=
  composeAll (orderMarks [] (cs.flatMap decompose))

end Scrollback.Unicode
