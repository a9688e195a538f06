/-!
Punycode: a text beyond ASCII written with letters, digits and hyphens. The ASCII characters come
first; then, for every other character in the order of code points, how far to go to the place and
the code point where it is inserted, as a number with digits of variable weight.
-/

namespace Scrollback.Url.Punycode

def digit (n : Nat) : Char :=
  if n < 26 then Char.ofNat ('a'.toNat + n) else Char.ofNat ('0'.toNat + (n - 26))

def digit? (c : Char) : Option Nat :=
  if 'a' ≤ c ∧ c ≤ 'z' then some (c.toNat - 'a'.toNat)
  else if 'A' ≤ c ∧ c ≤ 'Z' then some (c.toNat - 'A'.toNat)
  else if '0' ≤ c ∧ c ≤ '9' then some (c.toNat - '0'.toNat + 26)
  else none

def threshold (position bias : Nat) : Nat :=
  if position ≤ bias then 1 else if bias + 26 ≤ position then 26 else position - bias

theorem threshold_pos (position bias : Nat) : 0 < threshold position bias := by
  unfold threshold; split
  · omega
  · split <;> omega

theorem threshold_le (position bias : Nat) : threshold position bias ≤ 26 := by
  unfold threshold; split
  · omega
  · split <;> omega

def scaleBias (delta k : Nat) : Nat :=
  if 455 < delta then scaleBias (delta / 35) (k + 36) else k + 36 * delta / (delta + 38)
termination_by delta

def adapt (delta points : Nat) (first : Bool) : Nat :=
  let delta := if first then delta / 700 else delta / 2
  scaleBias (delta + delta / points) 0

def digits (q position bias : Nat) : List Char :=
  let t := threshold position bias
  if q < t then [digit q]
  else digit (t + (q - t) % (36 - t)) :: digits ((q - t) / (36 - t)) (position + 36) bias
termination_by q
decreasing_by
  have := threshold_pos position bias
  have := threshold_le position bias
  have : (q - threshold position bias) / (36 - threshold position bias)
      ≤ q - threshold position bias := Nat.div_le_self _ _
  simp only [t] at *
  omega

structure State where
  written : List Char
  delta : Nat
  bias : Nat
  handled : Nat

def encodePoint (basic n : Nat) (s : State) (c : Char) : State :=
  if c.toNat < n then { s with delta := s.delta + 1 }
  else if c.toNat = n then
    { written := s.written ++ digits s.delta 36 s.bias
      delta := 0
      bias := adapt s.delta (s.handled + 1) (s.handled == basic)
      handled := s.handled + 1 }
  else s

def encode (cs : List Char) : List Char :=
  let basic := cs.filter (·.toNat < 0x80)
  let others := ((cs.filter (0x80 ≤ ·.toNat)).map Char.toNat).mergeSort.eraseReps
  let start : State :=
    { written := if basic.isEmpty then [] else basic ++ ['-']
      delta := 0, bias := 72, handled := basic.length }
  let (s, _) := others.foldl (fun (s, last) n =>
    let s := { s with delta := s.delta + (n - last) * (s.handled + 1) }
    let s := cs.foldl (encodePoint basic.length n) s
    ({ s with delta := s.delta + 1 }, n + 1)) (start, 0x80)
  s.written

def number? (position bias value weight : Nat) : List Char → Option (Nat × List Char)
  | [] => none
  | c :: rest => do
    let d ← digit? c
    let value := value + d * weight
    let t := threshold position bias
    if d < t then some (value, rest)
    else number? (position + 36) bias value (weight * (36 - t)) rest

/- Inserts a character for every number; each takes at least one digit. -/
def insertAll : (fuel : Nat) → (out : List Char) → (first : Bool) → (n i bias : Nat) → List Char →
    Option (List Char)
  | 0, _, _, _, _, _, _ => none
  | _ + 1, out, _, _, _, _, [] => some out
  | fuel + 1, out, first, n, i, bias, cs => do
    let (delta, rest) ← number? 36 bias 0 1 cs
    let count := out.length + 1
    let bias := adapt delta count first
    let j := i + delta
    let n := n + j / count
    let i := j % count
    if h : n.isValidChar then
      insertAll fuel (out.take i ++ Char.ofNatAux n h :: out.drop i) false n (i + 1) bias rest
    else none

def decode? (cs : List Char) : Option (List Char) :=
  let tail := (cs.reverse.takeWhile (· != '-')).reverse
  let basic := (cs.take (cs.length - tail.length)).dropLast
  if basic.all (·.toNat < 0x80) then insertAll (tail.length + 1) basic true 0x80 0 72 tail else none

end Scrollback.Url.Punycode
