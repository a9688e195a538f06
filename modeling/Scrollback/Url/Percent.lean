import Scrollback.Unicode.RangeTable

/-!
Percent encoding: a byte written as a percent sign and two hexadecimal digits.
-/

namespace Scrollback.Url.Percent

def hexDigit (n : Nat) : Char :=
  if n < 10 then Char.ofNat ('0'.toNat + n) else Char.ofNat ('A'.toNat + (n - 10))

def encodeByte (b : UInt8) : List Char :=
  ['%', hexDigit (b.toNat / 16), hexDigit (b.toNat % 16)]

def encode (reserved : Char → Bool) (cs : List Char) : List Char :=
  cs.flatMap fun c =>
    if 0x80 ≤ c.toNat || reserved c then (String.utf8EncodeChar c).flatMap encodeByte else [c]

/- A percent sign without two digits after it stands for itself. -/
def decode : List Char → List UInt8
  | [] => []
  | '%' :: a :: b :: rest =>
    match Unicode.hexDigit? a, Unicode.hexDigit? b with
    | some m, some n => UInt8.ofNat (m * 16 + n) :: decode rest
    | _, _ => 0x25 :: decode (a :: b :: rest)
  | c :: rest => String.utf8EncodeChar c ++ decode rest

def controls (c : Char) : Bool := c.toNat < 0x20 || c.toNat == 0x7F

def inFragment (c : Char) : Bool :=
  controls c || c == ' ' || c == '"' || c == '<' || c == '>' || c == '\x60'

def inPath (c : Char) : Bool :=
  inFragment c || c == '#' || c == '?' || c == '\x7b' || c == '\x7d'

def inUserinfo (c : Char) : Bool :=
  inPath c || c == '/' || c == ':' || c == ';' || c == '=' || c == '@' || c == '['
    || c == '\\' || c == ']' || c == '^' || c == '|'

def inQuery (c : Char) : Bool :=
  controls c || c == ' ' || c == '"' || c == '#' || c == '<' || c == '>'

def inSpecialQuery (c : Char) : Bool := inQuery c || c == '\x27'

end Scrollback.Url.Percent
