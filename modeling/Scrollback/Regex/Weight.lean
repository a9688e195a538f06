import Scrollback.Regex.Plan

/-!
How much room the plain parts of a pattern take once they are compiled to states. A repeat with counts
takes the room of its body as many times, so a short pattern can stand for very many states. A pattern
with a part that takes too much room is refused.
-/

namespace Scrollback.Regex

def stateWeight : Nat := 32

def rangeWeight : Nat := 60

def CharSet.weight : CharSet → Nat
  | .range first last =>
    if last.toNat < 0x80 then stateWeight
    else if first = last then stateWeight * last.utf8Size
    else stateWeight * 2 * last.utf8Size
  | .blank => 600
  | .digit => 4000
  | .word => 48000
  | .property p => rangeWeight * p.tables.foldl (fun n table => n + table.ranges.size) 0
  | .none => stateWeight
  | .union s t => s.weight + t.weight
  | .inter s t => max s.weight t.weight
  | .not s => s.weight + 600
  | .folded s => 2 * s.weight

namespace Plain

def repeatWeight (body atLeast : Nat) : Option Nat → Nat
  | none => body * max atLeast 1 + stateWeight
  | some atMost => body * atMost + stateWeight * (atMost - atLeast)

def weight : Plain → Nat
  | .empty => stateWeight
  | .set s => s.weight
  | .assert _ => stateWeight
  | .seq e f => e.weight + f.weight
  | .alt e f => e.weight + f.weight + stateWeight
  | .capture _ e => e.weight + 2 * stateWeight
  | .run s atLeast atMost _ => repeatWeight s.weight atLeast atMost
  | .loop e atLeast atMost _ => repeatWeight e.weight atLeast atMost

def weightLimit : Nat := 10 * 1024 * 1024

def fits (e : Plain) : Bool := e.weight ≤ weightLimit

end Plain

def Plan.fits : Plan → Bool
  | .plain e | .behindAny e | .notBehindAny e => e.fits
  | .seq a b | .alt a b => a.fits && b.fits
  | .optional _ a | .loop a _ _ _ | .capture _ a | .ahead a | .notAhead a | .behind _ a
  | .notBehind _ a | .atomic a => a.fits
  | .ifElse condition yes no => condition.fits && yes.fits && no.fits
  | .backref _ _ | .assert _ | .startHere | .origin | .groupSet _ => true

end Scrollback.Regex
