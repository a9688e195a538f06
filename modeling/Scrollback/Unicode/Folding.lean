import Std.Data.HashMap
import Scrollback.Unicode.RangeTable
import Scrollback.Unicode.FoldingClasses

/-!
Equality of characters up to simple case folding.
-/

namespace Scrollback.Unicode

def hexValue (digits : String) : Nat :=
  digits.foldl (fun n c => n * 16 + (hexDigit? c).getD 0) 0

def foldingMembers (written : String) : List Nat :=
  (written.toList.splitOn '=').map (hexValue ∘ String.ofList)

def foldingTable : Std.HashMap Nat (List Char) :=
  (foldingClasses.flatMap tableEntries).foldl (fun table written =>
    let members := foldingMembers written
    members.foldl (fun table n => table.insert n (members.map Char.ofNat)) table) ∅

def foldingClass (c : Char) : List Char :=
  if c.toNat < 0x80 then
    if c == 'k' || c == 'K' then ['K', 'k', Char.ofNat 0x212A]
    else if c == 's' || c == 'S' then ['S', 's', Char.ofNat 0x17F]
    else if c.isAlpha then [c.toUpper, c.toLower]
    else [c]
  else (foldingTable.get? c.toNat).getD [c]

end Scrollback.Unicode
