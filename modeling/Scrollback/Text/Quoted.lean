import Scrollback.Unicode.Property

/-!
Texts between double quotes, with escapes for what could not be told apart otherwise: quotes,
backslashes, characters without a shape of their own and marks that join the character before.
-/

namespace Scrollback.Text

open Unicode (Property)

def unprintable : Property :=
  ⟨(([Property.category? "c", Property.category? "z",
      (Property.lookup? Unicode.binaryPropertyRanges "graphemeextend").map (⟨[·]⟩)]).filterMap
    id).flatMap (·.tables)⟩

def isPrintable (c : Char) : Bool :=
  if c.toNat < 0x80 then 0x20 ≤ c.toNat && c.toNat < 0x7F else !unprintable.contains c

def escapeChar (c : Char) : List Char :=
  match c with
  | '\x00' => ['\\', '0']
  | '\t' => ['\\', 't']
  | '\r' => ['\\', 'r']
  | '\n' => ['\\', 'n']
  | '"' => ['\\', '"']
  | '\\' => ['\\', '\\']
  | c =>
    if isPrintable c then [c]
    else ['\\', 'u', '\x7b'] ++ Nat.toDigits 16 c.toNat ++ ['\x7d']

def quoted (s : String) : String :=
  String.ofList ('"' :: s.toList.flatMap escapeChar ++ ['"'])

end Scrollback.Text
