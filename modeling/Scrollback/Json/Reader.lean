import Scrollback.Unicode.RangeTable

/-!
Reading of JSON text straight into the values that are asked for: what is not asked for is passed
over, and the first thing that is wrong ends the reading.
-/

namespace Scrollback.Json

inductive Error where
  | malformed
  | incomplete
  -- It is JSON, but not what is asked for.
  | mismatch
  deriving DecidableEq, Repr

abbrev Read (α : Type) := StateT (List Char) (Except Error) α

def fail {α : Type} (e : Error) : Read α := fun _ => .error e

def isBlank (c : Char) : Bool := c == ' ' || c == '\n' || c == '\t' || c == '\r'

def peek? : Read (Option Char) := do
  let rest := (← get).dropWhile isBlank
  set rest
  return rest.head?

def take? : Read (Option Char) := do
  match ← get with
  | [] => return none
  | c :: rest => set rest; return some c

def skip : Read Unit := modify (·.drop 1)

def word : List Char → Read Unit
  | [] => return ()
  | expected :: more => do
    match ← take? with
    | none => fail .incomplete
    | some c => if c = expected then word more else fail .malformed

/-! Strings, after their opening quote. -/

def hexDigits : Read Nat := do
  let cs ← get
  let four := cs.take 4
  match four.mapM Unicode.hexDigit? with
  | some [a, b, c, d] =>
    set (cs.drop 4)
    return ((a * 16 + b) * 16 + c) * 16 + d
  | _ => fail (if (String.ofList four).utf8ByteSize < 4 then .incomplete else .malformed)

def expectInside (expected : Char) : Read Unit := do
  match ← take? with
  | none => fail .incomplete
  | some c => if c = expected then return () else fail .malformed

def escapedPoint : Read Char := do
  let n ← hexDigits
  if 0xDC00 ≤ n && n ≤ 0xDFFF then fail .malformed
  if n < 0xD800 || 0xDBFF < n then return Char.ofNat n
  expectInside '\\'
  expectInside 'u'
  let m ← hexDigits
  if m < 0xDC00 || 0xDFFF < m then fail .malformed
  return Char.ofNat ((n - 0xD800) * 0x400 + (m - 0xDC00) + 0x10000)

def shortEscape? : Char → Option Char
  | '"' => some '"'
  | '\\' => some '\\'
  | '/' => some '/'
  | 'b' => some '\x08'
  | 'f' => some '\x0c'
  | 'n' => some '\n'
  | 'r' => some '\r'
  | 't' => some '\t'
  | _ => none

/- Goes on to the end of a string. `keep` takes what is found to what was found before, and `point`
reads the number of an escaped character first. -/
def stringEnd {α : Type} (point : α → Read α) (keep : α → Char → α) : (fuel : Nat) → α → Read α
  | 0, _ => fail .incomplete
  | fuel + 1, found => do
    match ← take? with
    | none => fail .incomplete
    | some '"' => return found
    | some '\\' =>
      match ← take? with
      | none => fail .incomplete
      | some 'u' => do stringEnd point keep fuel (← point found)
      | some c =>
        match shortEscape? c with
        | some c => stringEnd point keep fuel (keep found c)
        | none => fail .malformed
    | some c => if c.toNat < 0x20 then fail .malformed else stringEnd point keep fuel (keep found c)

def wholeString {α : Type} (point : α → Read α) (keep : α → Char → α) (start : α) : Read α := do
  stringEnd point keep ((← get).length + 1) start

def keepChar (found : List Char) (c : Char) : List Char := c :: found

def keepPoint (found : List Char) : Read (List Char) := return keepChar found (← escapedPoint)

def stringHere : Read String := do
  skip
  let found ← wholeString keepPoint keepChar []
  return String.ofList found.reverse

/- Where a string is passed over, half of a pair may stand alone. -/
def passPoint (_ : Unit) : Read Unit := do
  let _ ← hexDigits
  return ()

def passStringHere : Read Unit := do
  skip
  wholeString passPoint (fun _ _ => ()) ()

/-! Numbers are only ever passed over, but what passes for one depends on whether it is asked for.
-/

def digitRun : Read (List Char) := do
  let digits := (← get).takeWhile Char.isDigit
  modify (·.drop digits.length)
  return digits

def wholePart (atEnd : Error) : Read (List Char) := do
  match (← get).head? with
  | none => fail atEnd
  | some '0' => do
    skip
    if (← get).head?.any Char.isDigit then fail .malformed else return ['0']
  | some c => if c.isDigit then digitRun else fail .malformed

def someDigits (atEnd : Error) : Read (List Char) := do
  let digits ← digitRun
  if digits.isEmpty then fail (if (← get).isEmpty then atEnd else .malformed) else return digits

def fraction (atEnd : Error) : Read (List Char) := do
  match (← get).head? with
  | some '.' => do skip; someDigits atEnd
  | _ => return []

def isNegative : Read Bool := do
  match (← get).head? with
  | some '-' => do skip; return true
  | some '+' => do skip; return false
  | _ => return false

def power (atEnd : Error) : Read Int := do
  match (← get).head? with
  | some 'e' | some 'E' =>
    skip
    let negative ← isNegative
    let digits ← someDigits atEnd
    let n : Int := digits.foldl (fun n c => n * 10 + ((c.toNat - '0'.toNat : Nat) : Int)) 0
    return if negative then -n else n
  | _ => return 0

/- Passes over a number after its sign. Here a text that ends early is malformed. -/
def passNumber : Read Unit := do
  let _ ← wholePart .malformed
  let _ ← fraction .malformed
  let _ ← power .malformed
  return ()

def overflow : Nat := Nat.pow 2 1024 - Nat.pow 2 970

def numberInRange : Read Unit := do
  let whole ← wholePart .incomplete
  let fraction ← fraction .incomplete
  let power ← power .incomplete
  let digits := whole ++ fraction
  let value := digits.foldl (fun n c => n * 10 + (c.toNat - '0'.toNat)) 0
  let power := power - fraction.length
  let tooLarge :=
    if value = 0 then false
    else
      let size := ((Nat.toDigits 10 value).length : Int) + power
      if size < 300 then false
      else if 310 < size then true
      else if 0 ≤ power then overflow ≤ value * Nat.pow 10 power.toNat
      else overflow * Nat.pow 10 (-power).toNat ≤ value
  if tooLarge then fail .malformed else return ()

/-! Values. -/

/- Says that the next value is not what is asked for, unless it is malformed from its start. -/
def wrongKind {α : Type} : Read α := do
  match ← peek? with
  | some 'n' => do word ['n', 'u', 'l', 'l']; fail .mismatch
  | some 't' => do word ['t', 'r', 'u', 'e']; fail .mismatch
  | some 'f' => do word ['f', 'a', 'l', 's', 'e']; fail .mismatch
  | some '-' => do skip; numberInRange; fail .mismatch
  | some '"' => do let _ ← stringHere; fail .mismatch
  | some '[' => fail .mismatch
  | some '{' => fail .mismatch
  | some c => do
    if c.isDigit then
      numberInRange
      fail .mismatch
    else fail .malformed
  | none => fail .malformed

def expecting {α : Type} (first : Char) (read : Read α) : Read α := do
  match ← peek? with
  | none => fail .incomplete
  | some c => if c = first then read else wrongKind

def string : Read String := expecting '"' stringHere

def optional {α : Type} (read : Read α) : Read (Option α) := do
  match ← peek? with
  | some 'n' => do word ['n', 'u', 'l', 'l']; return none
  | _ => return some (← read)

def colon : Read Unit := do
  match ← peek? with
  | none => fail .incomplete
  | some ':' => skip
  | some _ => fail .malformed

/-! Arrays and objects. -/

inductive Frame where
  | array
  | object

namespace Frame

def closing : Frame → Char
  | .array => ']'
  | .object => '}'

-- An element can start with anything, and the reader of elements has to see to it.
def starts : Frame → Char → Bool
  | .array, c => c != ']'
  | .object, c => c == '"'

end Frame

/- Whether an item follows, with a comma before it unless it is the first. -/
def hasItem (frame : Frame) (first : Bool) : Read Bool := do
  match ← peek? with
  | none => fail .incomplete
  | some c =>
    if c = frame.closing then return false
    if first then
      if frame.starts c then return true else fail .malformed
    if c != ',' then fail .malformed
    skip
    match ← peek? with
    | none => fail .incomplete
    | some c => if frame.starts c then return true else fail .malformed

def close (closing : Char) : Read Unit := do
  match ← peek? with
  | none => fail .incomplete
  | some c => if c = closing then skip else fail .malformed

/- What is read of each item is added to what was read before. -/
def items {α : Type} (frame : Frame) (read : α → Read α) :
    (fuel : Nat) → (first : Bool) → α → Read α
  | 0, _, _ => fail .incomplete
  | fuel + 1, first, a => do
    if ← hasItem frame first then items frame read fuel false (← read a) else return a

def allItems {α : Type} (frame : Frame) (read : α → Read α) (start : α) : Read α := do
  items frame read ((← get).length + 1) true start

def array {α : Type} (read : Read α) : Read (List α) :=
  expecting '[' do
    skip
    let found ← allItems .array (fun found => return (← read) :: found) []
    close ']'
    return found.reverse

def member {α : Type} (read : α → String → Read α) (a : α) : Read α := do read a (← string)

def stringEntry (found : List (String × String)) (name : String) :
    Read (List (String × String)) := do
  colon
  let value ← string
  return (name, value) :: found

def stringMap : Read (List (String × String)) :=
  expecting '{' do
    skip
    let found ← allItems .object (member stringEntry) []
    close '}'
    return found

/- One of some names, which may also be written as an object that has it for its only member, with
`null` for its value. -/
def oneOf {α : Type} (ofName? : String → Option α) : Read α := do
  let named (name : String) : Read α :=
    match ofName? name with
    | some a => return a
    | none => fail .mismatch
  match ← peek? with
  | none => fail .incomplete
  | some '"' => named (← stringHere)
  | some '{' => do
    skip
    let a ← named (← string)
    colon
    match ← peek? with
    | none => fail .incomplete
    | some 'n' => word ['n', 'u', 'l', 'l']
    | some _ => wrongKind
    close '}'
    return a
  | some _ => fail .malformed

/- After a value, or after an opening bracket: passes over closing brackets and a comma. The
answer is what is still open if another value has to follow, or nothing if the whole value was
passed. -/
def passClosing : (fuel : Nat) → (afterValue : Bool) → List Frame → Read (List Frame)
  | 0, _, _ => fail .incomplete
  | _ + 1, _, [] => return []
  | fuel + 1, afterValue, frame :: outer => do
    match ← peek? with
    | none => fail .incomplete
    | some c =>
      if c = frame.closing then
        skip
        passClosing fuel true outer
      else if c = ',' then
        if afterValue then skip
        return frame :: outer
      else if afterValue then fail .malformed
      else return frame :: outer

def passName : Read Unit := do
  match ← peek? with
  | none => fail .incomplete
  | some '"' => passStringHere
  | some _ => fail .malformed

def passHead : Frame → Read Unit
  | .array => return ()
  | .object => do
    passName
    colon

/- What stands before the next value, which is left to another reader. -/
def passOn (next : List Frame → Read Unit) (afterValue : Bool) (frames : List Frame) :
    Read Unit := do
  match ← passClosing (frames.length + 1) afterValue frames with
  | [] => return ()
  | frame :: outer => do
    passHead frame
    next (frame :: outer)

def passValue : (fuel : Nat) → List Frame → Read Unit
  | 0, _ => fail .incomplete
  | fuel + 1, frames => do
    match ← peek? with
    | none => fail .incomplete
    | some 'n' => do word ['n', 'u', 'l', 'l']; passOn (passValue fuel) true frames
    | some 't' => do word ['t', 'r', 'u', 'e']; passOn (passValue fuel) true frames
    | some 'f' => do word ['f', 'a', 'l', 's', 'e']; passOn (passValue fuel) true frames
    | some '-' => do skip; passNumber; passOn (passValue fuel) true frames
    | some '"' => do passStringHere; passOn (passValue fuel) true frames
    | some '[' => do skip; passOn (passValue fuel) false (.array :: frames)
    | some '{' => do skip; passOn (passValue fuel) false (.object :: frames)
    | some c => do
      if c.isDigit then
        passNumber
        passOn (passValue fuel) true frames
      else fail .malformed

def ignore : Read Unit := do passValue ((← get).length + 1) []

def ofText {α : Type} (read : Read α) (text : String) : Except Error α := do
  let (a, rest) ← read.run text.toList
  if rest.all isBlank then return a else throw .malformed

end Scrollback.Json
