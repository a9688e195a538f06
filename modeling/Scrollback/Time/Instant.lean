import Scrollback.Time.Calendar

/-!
Moments of time, and how far back something counts as recent.
-/

namespace Scrollback

structure Instant where
  nanos : Int
  deriving DecidableEq, Repr

namespace Instant

open Time (Date)

def perMilli : Int := 1000000

def perDay : Int := 86400000000000

def earliest : Instant := ⟨(Date.mk Date.firstYear 1 1).toDays * perDay⟩

def latest : Instant := ⟨((Date.mk (Date.lastYear + 1) 1 1).toDays * perDay) - 1⟩

def isValid (t : Instant) : Bool := earliest.nanos ≤ t.nanos && t.nanos ≤ latest.nanos

def longestSpan : Nat := 9223372036854775807

/- The moment some milliseconds before another one. There is none before the earliest. -/
def before? (t : Instant) (millis : Nat) : Option Instant :=
  let s : Instant := ⟨t.nanos - (min millis longestSpan : Nat) * perMilli⟩
  if earliest.nanos ≤ s.nanos then some s else none

end Instant

end Scrollback
