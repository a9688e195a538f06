import Scrollback.Regex.Expr

/-!
Bracketed character classes. A class is first cut into pieces, with escapes resolved, and the pieces
are then read as ranges, nested classes, named ASCII classes and the operators `&&`, `--` and `~~`,
which all bind equally and to the left.
-/

namespace Scrollback.Regex

inductive ClassPiece where
  | bare (c : Char)
  | literal (c : Char)
  | set (s : CharSet)

namespace ClassPiece

def asciiClass? (name : String) : Option CharSet :=
  let digits := CharSet.range '0' '9'
  let lower := CharSet.range 'a' 'z'
  let upper := CharSet.range 'A' 'Z'
  match name with
  | "alnum" => some (.ofList [digits, upper, lower])
  | "alpha" => some (.ofList [upper, lower])
  | "ascii" => some (.range '\x00' '\x7f')
  | "blank" => some (.ofList [.single '\t', .single ' '])
  | "cntrl" => some (.ofList [.range '\x00' '\x1f', .single '\x7f'])
  | "digit" => some digits
  | "graph" => some (.range '!' '~')
  | "lower" => some lower
  | "print" => some (.range ' ' '~')
  | "punct" => some (.ofList [.range '!' '/', .range ':' '@', .range '[' '\x60', .range '\x7b' '~'])
  | "space" => some (.ofList [.range '\t' '\r', .single ' '])
  | "upper" => some upper
  | "word" => some (.ofList [digits, upper, lower, .single '_'])
  | "xdigit" => some (.ofList [digits, .range 'A' 'F', .range 'a' 'f'])
  | _ => none

def untilColon : List ClassPiece → Option (List Char × List ClassPiece)
  | .bare ':' :: rest =>
    match rest with
    | .bare ']' :: rest => some ([], rest)
    | _ => none
  | .bare c :: rest => (untilColon rest).map fun (name, rest) => (c :: name, rest)
  | .literal c :: rest => (untilColon rest).map fun (name, rest) => ('\\' :: c :: name, rest)
  | _ => none

def namedClass? (ignoreCase : Bool) : List ClassPiece → Option (CharSet × List ClassPiece)
  | .bare ':' :: rest => do
    let (name, rest) ← untilColon rest
    match name with
    | '^' :: name =>
      let s ← asciiClass? (String.ofList name)
      some (.not (s.foldIf ignoreCase), rest)
    | name =>
      let s ← asciiClass? (String.ofList name)
      some (s.foldIf ignoreCase, rest)
  | _ => none

inductive Operator where
  | inter | diff | symmDiff

def Operator.apply (o : Operator) (ignoreCase : Bool) (s t : CharSet) : CharSet :=
  let s := s.foldIf ignoreCase
  let t := t.foldIf ignoreCase
  match o with
  | .inter => .inter s t
  | .diff => s.diff t
  | .symmDiff => s.symmDiff t

structure Open where
  negated : Bool
  pending : Option (CharSet × Operator) := none
  members : List CharSet := []

namespace Open

def add (o : Open) (s : CharSet) : Open := { o with members := s :: o.members }

def operand (o : Open) (ignoreCase : Bool) : CharSet :=
  let last := CharSet.ofList o.members.reverse
  match o.pending with
  | none => last
  | some (s, operator) => operator.apply ignoreCase s last

def operator (o : Open) (ignoreCase : Bool) (operator : Operator) : Open :=
  { o with pending := some (o.operand ignoreCase, operator), members := [] }

def close (o : Open) (ignoreCase : Bool) : CharSet :=
  let s := (o.operand ignoreCase).foldIf ignoreCase
  if o.negated then .not s else s

end Open

def opening (pieces : List ClassPiece) : Open × List ClassPiece :=
  let (negated, pieces) :=
    match pieces with
    | .bare '^' :: rest => (true, rest)
    | pieces => (false, pieces)
  let hyphens := pieces.takeWhile fun | .bare '-' => true | _ => false
  let pieces := pieces.drop hyphens.length
  let o : Open := { negated, members := hyphens.map fun _ => .single '-' }
  match pieces, o.members with
  | .bare ']' :: rest, [] => (o.add (.single ']'), rest)
  | pieces, _ => (o, pieces)

def readClass (ignoreCase : Bool) :
    (fuel : Nat) → List Open → Open → List ClassPiece → Except Error CharSet
  | 0, _, _, _ => .error .unclosedClass
  | fuel + 1, outer, o, pieces =>
    match pieces with
    | [] => .error .unclosedClass
    | .bare '[' :: rest =>
      match namedClass? ignoreCase rest with
      | some (s, rest) => readClass ignoreCase fuel outer (o.add s) rest
      | none =>
        let (inner, rest) := opening rest
        readClass ignoreCase fuel (o :: outer) inner rest
    | .bare ']' :: rest =>
      let s := o.close ignoreCase
      match outer with
      | [] => .ok s
      | o :: outer => readClass ignoreCase fuel outer (o.add s) rest
    | .bare '&' :: .bare '&' :: rest =>
      readClass ignoreCase fuel outer (o.operator ignoreCase .inter) rest
    | .bare '-' :: .bare '-' :: rest =>
      readClass ignoreCase fuel outer (o.operator ignoreCase .diff) rest
    | .bare '~' :: .bare '~' :: rest =>
      readClass ignoreCase fuel outer (o.operator ignoreCase .symmDiff) rest
    | first :: .bare '-' :: rest =>
      match rest with
      | [] => .error .unclosedClass
      | .bare ']' :: _ | .bare '-' :: _ =>
        readClass ignoreCase fuel outer (o.add (member first)) (.bare '-' :: rest)
      | last :: rest =>
        match character? first, character? last with
        | some a, some b =>
          if a ≤ b then readClass ignoreCase fuel outer (o.add (.range a b)) rest
          else .error .badClassRange
        | _, _ => .error .badClassRange
    | first :: rest => readClass ignoreCase fuel outer (o.add (member first)) rest
where
  character? : ClassPiece → Option Char
    | .bare c | .literal c => some c
    | .set _ => none
  member : ClassPiece → CharSet
    | .bare c | .literal c => .single c
    | .set s => s

def toCharSet (ignoreCase : Bool) (pieces : List ClassPiece) : Except Error CharSet :=
  let (o, rest) := opening pieces
  readClass ignoreCase (pieces.length + 1) [] o rest

end ClassPiece

end Scrollback.Regex
