import Scrollback.Text.Trim
import Scrollback.Time.Calendar

/-!
Times of messages, and their written form: a date and a time of day with an offset from universal
time.
-/

namespace Scrollback

/- A time, in universal time. A leap second counts as a part of the second before it, which then
has up to two thousand million nanoseconds. -/
structure Timestamp where
  second : Int
  nano : Nat
  deriving DecidableEq, Repr

namespace Timestamp

open Time (Date)

def secondsPerDay : Int := 86400

def date (t : Timestamp) : Date := .ofDays (t.second / secondsPerDay)

def padded (width n : Nat) : String :=
  let digits := Nat.toDigits 10 n
  String.ofList (List.replicate (width - digits.length) '0' ++ digits)

def clock (t : Timestamp) : Nat × Nat × Nat :=
  let s := (t.second % secondsPerDay).toNat
  (s / 3600, s / 60 % 60, s % 60 + t.nano / 1000000000)

def writeClock (t : Timestamp) : String :=
  let (hour, minute, second) := t.clock
  padded 2 hour ++ ":" ++ padded 2 minute ++ ":" ++ padded 2 second

/- What clocks show that are ahead of universal time by some seconds. -/
def ahead (t : Timestamp) (seconds : Int) : Timestamp := { t with second := t.second + seconds }

/-! Reading. Blanks may stand before every number and around every mark but the one between date and
time. -/

def skipBlanks (cs : List Char) : List Char := cs.dropWhile Unicode.isBlank

def digitsValue (digits : List Char) : Nat :=
  digits.foldl (fun n c => n * 10 + (c.toNat - '0'.toNat)) 0

def number? (width : Nat) (cs : List Char) : Option (Nat × List Char) :=
  let digits := (cs.take width).takeWhile Char.isDigit
  if digits.isEmpty then none else some (digitsValue digits, cs.drop digits.length)

/- A year has up to four digits, or any number of them after a sign. -/
def year? (cs : List Char) : Option (Int × List Char) :=
  match skipBlanks cs with
  | '-' :: rest => (number? rest.length rest).map fun (n, rest) => (-(n : Int), rest)
  | '+' :: rest => (number? rest.length rest).map fun (n, rest) => ((n : Int), rest)
  | cs => (number? 4 cs).map fun (n, rest) => ((n : Int), rest)

def mark? (mark : Char) (cs : List Char) : Option (List Char) :=
  match skipBlanks cs with
  | c :: rest => if c = mark then some rest else none
  | [] => none

def part? (cs : List Char) : Option (Nat × List Char) := number? 2 (skipBlanks cs)

/- The fraction of a second in nanoseconds; digits after the ninth are left out. -/
def fraction? (cs : List Char) : Option (Nat × List Char) :=
  match cs with
  | '.' :: rest =>
    let digits := rest.takeWhile Char.isDigit
    let kept := digits.take 9
    if digits.isEmpty then none
    else some (digitsValue kept * Nat.pow 10 (9 - kept.length), rest.drop digits.length)
  | cs => some (0, cs)

def offset? (cs : List Char) : Option (Int × List Char) :=
  match cs with
  | a :: b :: c :: rest =>
    if (String.ofList [a, b, c]).toLower == "utc" then some (0, rest) else signed cs
  | cs => signed cs
where
  signed (cs : List Char) : Option (Int × List Char) :=
    match cs with
    | 'Z' :: rest | 'z' :: rest => some (0, rest)
    | '+' :: rest => size rest
    | '-' :: rest | '−' :: rest => (size rest).map fun (n, rest) => (-n, rest)
    | _ => none
  size (cs : List Char) : Option (Int × List Char) :=
    match cs with
    | a :: b :: rest =>
      if a.isDigit && b.isDigit then
        match rest.dropWhile fun c => c == ':' || Unicode.isBlank c with
        | c :: d :: rest =>
          if '0' ≤ c && c ≤ '5' && d.isDigit then
            some ((digitsValue [a, b] : Int) * 3600 + digitsValue [c, d] * 60, rest)
          else none
        | _ => none
      else none
    | _ => none

def parse? (text : String) : Option Timestamp := do
  let (year, cs) ← year? text.toList
  let (month, cs) ← part? (← mark? '-' cs)
  let (day, cs) ← part? (← mark? '-' cs)
  let cs ← match cs with
    | 't' :: rest | 'T' :: rest | ' ' :: rest => some rest
    | _ => none
  let (hour, cs) ← part? cs
  let (minute, cs) ← part? (← mark? ':' cs)
  let (second, cs) ← part? (← mark? ':' cs)
  let (nano, cs) ← fraction? cs
  let (offset, cs) ← offset? (skipBlanks cs)
  let d : Date := ⟨year, month, day⟩
  if !(skipBlanks cs).isEmpty || !d.isValid || year < Date.firstYear || Date.lastYear < year
      || 23 < hour || 59 < minute || 60 < second || secondsPerDay ≤ offset.natAbs then none
  let leap := second == 60
  let t : Timestamp := {
    second := d.toDays * secondsPerDay + hour * 3600 + minute * 60 + (if leap then 59 else second)
      - offset
    nano := nano + (if leap then 1000000000 else 0) }
  let year := t.date.year
  if year < Date.firstYear || Date.lastYear < year then none
  some t

end Timestamp

end Scrollback
