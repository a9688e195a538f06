/-!
Days of the Gregorian calendar, counted from the first day of 1970. The calendar repeats every 400
years, and its years are taken to start in March, so that a leap day comes last.
-/

namespace Scrollback.Time

structure Date where
  year : Int
  month : Nat
  day : Nat
  deriving DecidableEq, Repr

namespace Date

def isLeapYear (year : Int) : Bool :=
  year % 4 == 0 && (year % 100 != 0 || year % 400 == 0)

def monthLength (year : Int) : Nat → Nat
  | 2 => if isLeapYear year then 29 else 28
  | 4 | 6 | 9 | 11 => 30
  | _ => 31

def isValid (d : Date) : Bool :=
  1 ≤ d.month && d.month ≤ 12 && 1 ≤ d.day && d.day ≤ monthLength d.year d.month

def cycle : Int := 146097

/- Days from the first of March of year 0 to the first day of 1970. -/
def epoch : Int := 719468

def toDays (d : Date) : Int :=
  let year := if d.month ≤ 2 then d.year - 1 else d.year
  let century := year / 400
  let yearOfCycle := year % 400
  let month : Int := ((d.month : Int) + 9) % 12
  let dayOfYear := (153 * month + 2) / 5 + ((d.day : Int) - 1)
  century * cycle + yearOfCycle * 365 + yearOfCycle / 4 - yearOfCycle / 100 + dayOfYear - epoch

def ofDays (days : Int) : Date :=
  let n := days + epoch
  let century := n / cycle
  let dayOfCycle := n % cycle
  let yearOfCycle :=
    (dayOfCycle - dayOfCycle / 1460 + dayOfCycle / 36524 - dayOfCycle / 146096) / 365
  let dayOfYear := dayOfCycle - (365 * yearOfCycle + yearOfCycle / 4 - yearOfCycle / 100)
  let month := (5 * dayOfYear + 2) / 153
  let day := dayOfYear - (153 * month + 2) / 5 + 1
  let monthOfYear := if month < 10 then month + 3 else month - 9
  let year := yearOfCycle + century * 400 + (if monthOfYear ≤ 2 then 1 else 0)
  ⟨year, monthOfYear.toNat, day.toNat⟩

def firstYear : Int := -262143

def lastYear : Int := 262142

end Date

end Scrollback.Time
