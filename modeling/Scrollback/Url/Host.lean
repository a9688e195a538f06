import Scrollback.Url.Domain
import Scrollback.Url.Percent

/-!
Hosts of addresses: domain names and Internet addresses.
-/

namespace Scrollback

inductive Url.Host where
  | domain (name : String)
  | ipv4 (address : Nat)
  | ipv6 (pieces : List Nat)
  deriving DecidableEq, Repr

namespace Url.Host

/-! Internet addresses of four bytes. -/

inductive Number where
  | notANumber
  | tooLarge
  | value (n : Nat)

def digitsValue (base : Nat) (cs : List Char) : Nat :=
  cs.foldl (fun n c => n * base + (Unicode.hexDigit? c).getD 0) 0

/- A number in base ten, eight after a zero, or sixteen after `0x`. -/
def number (cs : List Char) : Number :=
  let read (base : Nat) (valid : Char → Bool) (digits : List Char) : Number :=
    if !digits.all valid then .notANumber
    else
      let n := digitsValue base digits
      if Nat.pow 2 32 ≤ n then .tooLarge else .value n
  match cs with
  | [] => .notANumber
  | '0' :: 'x' :: rest | '0' :: 'X' :: rest => read 16 (fun c => (Unicode.hexDigit? c).isSome) rest
  | ['0'] => .value 0
  | '0' :: rest => read 8 (fun c => '0' ≤ c && c ≤ '7') rest
  | cs => read 10 Char.isDigit cs

def endsInNumber (name : List Char) : Bool :=
  let isNumber (part : List Char) : Bool :=
    (!part.isEmpty && part.all Char.isDigit) ||
      match number part with
      | .value _ | .tooLarge => true
      | .notANumber => false
  match (name.splitOn '.').reverse with
  | [] => false
  | [] :: part :: _ => isNumber part
  | [] :: [] => false
  | part :: _ => isNumber part

def ipv4? (name : List Char) : Option Nat := do
  let parts := name.splitOn '.'
  let parts := if parts.getLast? == some [] then parts.dropLast else parts
  if 4 < parts.length then none
  let numbers ← parts.mapM fun part =>
    match number part with
    | .value n => some n
    | _ => none
  let last ← numbers.getLast?
  let others := numbers.dropLast
  if Nat.pow 256 (4 - others.length) ≤ last || others.any (255 < ·) then none
  some (others.zipIdx.foldl (fun sum (n, i) => sum + n * Nat.pow 256 (3 - i)) last)

def writeIpv4 (n : Nat) : String :=
  ".".intercalate ([3, 2, 1, 0].map fun i => toString (n / Nat.pow 256 i % 256))

/-! Internet addresses of eight pieces. -/

def piece? (cs : List Char) : Option Nat :=
  if cs.isEmpty || 4 < cs.length || !cs.all (fun c => (Unicode.hexDigit? c).isSome) then none
  else some (digitsValue 16 cs)

def byte? (cs : List Char) : Option Nat :=
  match cs with
  | [] => none
  | ['0'] => some 0
  | '0' :: _ => none
  | cs =>
    if 3 < cs.length || !cs.all Char.isDigit then none
    else
      let n := digitsValue 10 cs
      if n ≤ 255 then some n else none

/- Pieces between colons; the last may be an address of four bytes, which gives two pieces. -/
def pieces? : List (List Char) → Option (List Nat)
  | [] => some []
  | [last] =>
    if last.contains '.' then
      match (last.splitOn '.').mapM byte? with
      | some [a, b, c, d] => some [a * 256 + b, c * 256 + d]
      | _ => none
    else (piece? last).map ([·])
  | part :: rest => do return (← piece? part) :: (← pieces? rest)

def cutAtGap : List Char → Option (List Char × List Char)
  | [] => none
  | ':' :: ':' :: rest => some ([], rest)
  | c :: rest => (cutAtGap rest).map fun (before, after) => (c :: before, after)

def side? (cs : List Char) : Option (List Nat) :=
  if cs.isEmpty then some [] else pieces? (cs.splitOn ':')

def ipv6? (cs : List Char) : Option (List Nat) := do
  match cutAtGap cs with
  | none =>
    let all ← side? cs
    if all.length = 8 then some all else none
  | some (before, after) =>
    if before.contains '.' then none
    let first ← side? before
    let last ← side? after
    if 8 ≤ first.length + last.length then none
    some (first ++ List.replicate (8 - first.length - last.length) 0 ++ last)

def writePiece (n : Nat) : String := String.ofList (Nat.toDigits 16 n)

def longestGap (pieces : List Nat) : Option (Nat × Nat) :=
  let runs := (List.range pieces.length).map fun i =>
    (i, ((pieces.drop i).takeWhile (· == 0)).length)
  runs.foldl (fun best (i, n) =>
    if n < 2 then best
    else match best with
      | none => some (i, n)
      | some (_, m) => if m < n then some (i, n) else best) none

def writeIpv6 (pieces : List Nat) : String :=
  let write (ns : List Nat) := ":".intercalate (ns.map writePiece)
  match longestGap pieces with
  | none => write pieces
  | some (i, n) => write (pieces.take i) ++ "::" ++ write (pieces.drop (i + n))

def write : Host → String
  | .domain name => name
  | .ipv4 n => writeIpv4 n
  | .ipv6 pieces => "[" ++ writeIpv6 pieces ++ "]"

def bracketed? (cs : List Char) : Option Host :=
  match cs with
  | '[' :: rest =>
    if rest.getLast? == some ']' then (ipv6? rest.dropLast).map .ipv6 else none
  | _ => none

def ofWeb? (cs : List Char) : Option Host :=
  if cs.head? == some '[' then bracketed? cs
  else do
    let decoded ← String.fromUTF8? (ByteArray.mk (Percent.decode cs).toArray)
    let name ← Domain.toAscii? decoded.toList
    if name.isEmpty then none
    else if endsInNumber name then (ipv4? name).map .ipv4
    else some (.domain (String.ofList name))

def uninterpreted? (cs : List Char) : Option Host :=
  if cs.head? == some '[' then bracketed? cs
  else if cs.any forbidden.contains then none
  else some (.domain (String.ofList (Percent.encode Percent.controls cs)))
where
  forbidden : List Char :=
    ['\x00', '\t', '\n', '\r', ' ', '#', '/', ':', '<', '>', '?', '@', '[', '\\', ']', '^', '|']

end Url.Host

end Scrollback
