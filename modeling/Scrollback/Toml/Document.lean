import Scrollback.Toml.Scalar
import Scrollback.Toml.Text

/-!
Reading of TOML documents. Line breaks, comments and a comma after the last entry are allowed in
braces as they are in brackets, and seconds may be left off.
-/

namespace Scrollback.Toml

abbrev Read (α : Type) := StateT (List Char) Option α

namespace Read

def fail {α : Type} : Read α := fun _ => none

def isBlank (c : Char) : Bool := c == ' ' || c == '\t'

def skipBlanks : Read Unit := modify (·.dropWhile isBlank)

def peek? : Read (Option Char) := return (← get).head?

def skip : Read Unit := modify (·.drop 1)

def expect (c : Char) : Read Unit := do
  if (← peek?) == some c then skip else fail

def accept (c : Char) : Read Bool := do
  if (← peek?) == some c then skip; return true else return false

def lineBreak : Read Bool := do
  match ← get with
  | '\n' :: rest => set rest; return true
  | '\r' :: '\n' :: rest => set rest; return true
  | _ => return false

def comment : Read Unit := do
  if ← accept '#' then modify (·.dropWhile isPlain)

def skipLines : Nat → Read Unit
  | 0 => return ()
  | fuel + 1 => do
    skipBlanks
    comment
    if ← lineBreak then skipLines fuel

def skipAll : Read Unit := do skipLines ((← get).length + 1)

def lift {α : Type} (f : List Char → Option (α × List Char)) : Read α := f

def isBare (c : Char) : Bool := c.isAlphanum || c == '_' || c == '-'

def simpleKey : Read String := do
  match ← get with
  | [] => fail
  | c :: rest =>
    if c == '"' || c == '\x27' then
      return String.ofList (← lift shortString?)
    else
      let key := (c :: rest).takeWhile isBare
      if key.isEmpty then fail
      set ((c :: rest).drop key.length)
      return String.ofList key

def keyTail : Nat → Read (List String)
  | 0 => fail
  | fuel + 1 => do
    skipBlanks
    if ← accept '.' then
      skipBlanks
      let part ← simpleKey
      return part :: (← keyTail fuel)
    else return []

def key : Read (List String × String) := do
  skipBlanks
  let first ← simpleKey
  let parts := first :: (← keyTail ((← get).length + 1))
  return (parts.dropLast, parts.getLastD first)

def items (value : Read Value) : Nat → Read (List Value)
  | 0 => fail
  | fuel + 1 => do
    skipAll
    if ← accept ']' then return []
    let v ← value
    skipAll
    if ← accept ',' then return v :: (← items value fuel)
    expect ']'
    return [v]

def entries (value : Read Value) : Nat → Entries → Read Entries
  | 0, _ => fail
  | fuel + 1, es => do
    skipAll
    if ← accept '\x7d' then return es
    let (path, last) ← key
    expect '='
    skipBlanks
    let v ← value
    let es ← es.insertDotted path last v
    skipAll
    if ← accept ',' then entries value fuel es
    else
      expect '\x7d'
      return es

def maxDepth : Nat := 80

def value (depth : Nat) : Read Value := do
  match ← peek? with
  | none => fail
  | some '[' =>
    match depth with
    | 0 => fail
    | depth + 1 => do
      skip
      return .array false (← items (value depth) ((← get).length + 1))
  | some '\x7b' =>
    match depth with
    | 0 => fail
    | depth + 1 => do
      skip
      return .table .inPlace (← entries (value depth) ((← get).length + 1) [])
  | some c =>
    if c == '"' || c == '\x27' then return .string (String.ofList (← lift string?))
    else
      let (front, rest) := Scalar.take (← get)
      set rest
      match Scalar.value? front with
      | some v => return v
      | none => fail

structure Progress where
  root : Entries := []
  header : List String := []

def headerName : Read (List String × String) := do
  let name ← key
  expect ']'
  return name

def line (p : Progress) : Read Progress := do
  skipBlanks
  match ← peek? with
  | none | some '#' | some '\n' | some '\r' => return p
  | some '[' => do
    skip
    if ← accept '[' then
      let (path, last) ← headerName
      expect ']'
      return ⟨← p.root.insertArrayHeader path last, path ++ [last]⟩
    else
      let (path, last) ← headerName
      return ⟨← p.root.insertHeader path last, path ++ [last]⟩
  | some _ => do
    let (path, last) ← key
    expect '='
    skipBlanks
    let v ← value maxDepth
    return { p with root := ← p.root.insertBelow p.header path last v }

def lines : Nat → Progress → Read Progress
  | 0, _ => fail
  | fuel + 1, p => do
    let p ← line p
    skipBlanks
    comment
    if (← get).isEmpty then return p
    if ← lineBreak then lines fuel p else fail

end Read

def parse? (text : String) : Option Entries :=
  let cs := match text.toList with
    | '\uFEFF' :: rest => rest
    | cs => cs
  (Read.lines (cs.length + 1) {} cs).map (·.1.root)

end Scrollback.Toml
