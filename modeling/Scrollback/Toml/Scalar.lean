import Scrollback.Time.Calendar
import Scrollback.Toml.Value
import Scrollback.Unicode.RangeTable

/-!
Values of a TOML document that are written without quotes or brackets: truth values, numbers and
times.
-/

namespace Scrollback.Toml.Scalar

def digit? (base : Nat) (c : Char) : Option Nat := (Unicode.hexDigit? c).filter (· < base)

def digits? (base : Nat) : List Char → Option (List Nat)
  | [] => none
  | [c] => (digit? base c).map ([·])
  | c :: '_' :: rest => do return (← digit? base c) :: (← digits? base rest)
  | c :: rest => do return (← digit? base c) :: (← digits? base rest)

def valueOf (base : Nat) (digits : List Nat) : Nat := digits.foldl (fun n d => n * base + d) 0

def decimal? (cs : List Char) : Option (List Nat) := do
  match ← digits? 10 cs with
  | 0 :: _ :: _ => none
  | digits => some digits

def splitSign : List Char → Bool × List Char
  | '-' :: rest => (true, rest)
  | '+' :: rest => (false, rest)
  | cs => (false, cs)

def integer? (cs : List Char) : Option Int :=
  match cs with
  | '0' :: 'x' :: rest => (digits? 16 rest).map fun ds => (valueOf 16 ds : Int)
  | '0' :: 'o' :: rest => (digits? 8 rest).map fun ds => (valueOf 8 ds : Int)
  | '0' :: 'b' :: rest => (digits? 2 rest).map fun ds => (valueOf 2 ds : Int)
  | cs =>
    let (negative, cs) := splitSign cs
    (decimal? cs).map fun ds => if negative then -(valueOf 10 ds : Int) else valueOf 10 ds

structure Decimal where
  digits : List Nat
  places : Nat
  exponent : Int

def isExponentMark (c : Char) : Bool := c == 'e' || c == 'E'

def exponent? (cs : List Char) : Option Int := do
  let (negative, cs) := splitSign cs
  let n := valueOf 10 (← digits? 10 cs)
  some (if negative then -(n : Int) else n)

def decimalNumber? (cs : List Char) : Option Decimal := do
  let mantissa := cs.takeWhile (!isExponentMark ·)
  let exponent ← match cs.drop mantissa.length with
    | [] => some 0
    | _ :: rest => exponent? rest
  let whole := mantissa.takeWhile (· != '.')
  let wholeDigits ← decimal? whole
  match mantissa.drop whole.length with
  | [] => if mantissa.length == cs.length then none else some ⟨wholeDigits, 0, exponent⟩
  | _ :: fraction =>
    let fractionDigits ← digits? 10 fraction
    some ⟨wholeDigits ++ fractionDigits, fractionDigits.length, exponent⟩

def isSpecialFloat (cs : List Char) : Bool := cs == ['i', 'n', 'f'] || cs == ['n', 'a', 'n']

def isFloat (cs : List Char) : Bool :=
  let (_, cs) := splitSign cs
  isSpecialFloat cs || (decimalNumber? cs).isSome

/- Half a unit of the last place above the greatest number of 64 bits: from here on, numbers are
taken for infinite. -/
def infiniteFrom : Nat := Nat.pow 2 1024 - Nat.pow 2 970

def Decimal.isInfinite (d : Decimal) : Bool :=
  let digits := d.digits.dropWhile (· == 0)
  let scale := d.exponent - d.places
  if digits.isEmpty || digits.length + scale < 300 then false
  else if 400 < digits.length + scale then true
  else if 0 ≤ scale then infiniteFrom ≤ valueOf 10 digits * Nat.pow 10 scale.toNat
  else infiniteFrom * Nat.pow 10 (-scale).toNat ≤ valueOf 10 digits

def isInfinite (text : String) : Bool :=
  (decimalNumber? (splitSign text.toList).2).any Decimal.isInfinite

/-! Times. -/

def fixed? (n : Nat) (cs : List Char) : Option (Nat × List Char) :=
  let front := cs.take n
  if front.length == n && front.all Char.isDigit then
    some (valueOf 10 (front.map fun c => c.toNat - '0'.toNat), cs.drop n)
  else none

def mark? (c : Char) : List Char → Option (List Char)
  | [] => none
  | d :: rest => if c = d then some rest else none

def date? (cs : List Char) : Option (List Char) := do
  let (year, cs) ← fixed? 4 cs
  let (month, cs) ← fixed? 2 (← mark? '-' cs)
  let (day, cs) ← fixed? 2 (← mark? '-' cs)
  if (Time.Date.mk year month day).isValid then some cs else none

def fraction? : List Char → Option (List Char)
  | '.' :: rest => if rest.head?.any Char.isDigit then some (rest.dropWhile Char.isDigit) else none
  | cs => some cs

/- A time of day. The seconds may be left off. -/
def clock? (cs : List Char) : Option (List Char) := do
  let (hour, cs) ← fixed? 2 cs
  let (minute, cs) ← fixed? 2 (← mark? ':' cs)
  if 23 < hour || 59 < minute then none
  match cs with
  | ':' :: rest => do
    let (second, cs) ← fixed? 2 rest
    if 60 < second then none
    fraction? cs
  | cs => some cs

def offset? : List Char → Option (List Char)
  | 'Z' :: rest | 'z' :: rest => some rest
  | '+' :: rest | '-' :: rest => do
    let (hour, cs) ← fixed? 2 rest
    let (minute, cs) ← fixed? 2 (← mark? ':' cs)
    if 23 < hour || 59 < minute then none
    some cs
  | cs => some cs

def isTime (cs : List Char) : Bool :=
  match date? cs with
  | some [] => true
  | some (c :: rest) =>
    (c == 'T' || c == 't' || c == ' ') && ((clock? rest).bind offset?).any (·.isEmpty)
  | none => (clock? cs).any (·.isEmpty)

def value? (cs : List Char) : Option Value :=
  let text := String.ofList cs
  if text == "true" then some (.boolean true)
  else if text == "false" then some (.boolean false)
  else
    match integer? cs with
    | some n => some (.integer n)
    | none =>
      if isFloat cs then some (.float text)
      else if isTime cs then some (.time text)
      else none

def isPart (c : Char) : Bool :=
  c.isAlphanum || c == '_' || c == '+' || c == '-' || c == '.' || c == ':'

/- Whether a date was written and a time of day follows after a blank. -/
def continues (front rest : List Char) : Bool :=
  (date? front).any (·.isEmpty) && rest.head?.any (· == ' ')
    && (rest.drop 1).head?.any Char.isDigit

def take (cs : List Char) : List Char × List Char :=
  let front := cs.takeWhile isPart
  let rest := cs.drop front.length
  if continues front rest then
    let clock := (rest.drop 1).takeWhile isPart
    (front ++ ' ' :: clock, rest.drop (clock.length + 1))
  else (front, rest)

end Scrollback.Toml.Scalar
