/-!
Sets of code points as sorted, disjoint, inclusive ranges, and their written form: hexadecimal ends
joined by a hyphen, single code points alone, everything separated by blanks.
-/

namespace Scrollback.Unicode

def hexDigit? (c : Char) : Option Nat :=
  if '0' ≤ c ∧ c ≤ '9' then some (c.toNat - '0'.toNat)
  else if 'a' ≤ c ∧ c ≤ 'f' then some (c.toNat - 'a'.toNat + 10)
  else if 'A' ≤ c ∧ c ≤ 'F' then some (c.toNat - 'A'.toNat + 10)
  else none

def tableEntries (text : String) : List String :=
  ((text.toList.splitOnP fun c => c == ' ' || c == '\n').filter (!·.isEmpty)).map String.ofList

structure RangeTable where
  ranges : Array (Nat × Nat)
  deriving Inhabited

namespace RangeTable

/- Looks for the range that may hold `n` among those with an index in `[low, high)`. -/
def search (ranges : Array (Nat × Nat)) (n low high : Nat) : Bool :=
  if low < high then
    let middle := (low + high) / 2
    match ranges[middle]? with
    | none => false
    | some (first, last) =>
      if n < first then search ranges n low middle
      else if last < n then search ranges n (middle + 1) high
      else true
  else false
termination_by high - low

def contains (table : RangeTable) (c : Char) : Bool :=
  search table.ranges c.toNat 0 table.ranges.size

structure Reading where
  ranges : Array (Nat × Nat) := #[]
  first : Option Nat := none
  value : Option Nat := none

def Reading.close (r : Reading) : Reading :=
  match r.first, r.value with
  | some first, some last => { ranges := r.ranges.push (first, last) }
  | none, some only => { ranges := r.ranges.push (only, only) }
  | _, none => { ranges := r.ranges }

def Reading.step (r : Reading) (c : Char) : Reading :=
  match hexDigit? c with
  | some d => { r with value := some (r.value.getD 0 * 16 + d) }
  | none => if c = '-' then { r with first := r.value, value := none } else r.close

def ofText (text : String) : RangeTable :=
  ⟨(text.foldl Reading.step {}).close.ranges⟩

end RangeTable

end Scrollback.Unicode
