import Scrollback.Unicode.RangeTable
import Scrollback.Unicode.WordRanges

/-!
The character classes of text: blanks, decimal digits and word characters. ASCII characters are
decided without a table.
-/

namespace Scrollback.Unicode

def isBlank (c : Char) : Bool :=
  let n := c.toNat
  (9 ≤ n && n ≤ 13) || n == 0x20 || n == 0x85 || n == 0xA0 || n == 0x1680
    || (0x2000 ≤ n && n ≤ 0x200A) || n == 0x2028 || n == 0x2029 || n == 0x202F || n == 0x205F
    || n == 0x3000

def wordTable : RangeTable := .ofText wordRanges

def digitTable : RangeTable := .ofText digitRanges

def isDigit (c : Char) : Bool :=
  if c.toNat < 0x80 then c.isDigit else digitTable.contains c

def isWord (c : Char) : Bool :=
  if c.toNat < 0x80 then c.isAlphanum || c == '_' else wordTable.contains c

end Scrollback.Unicode
