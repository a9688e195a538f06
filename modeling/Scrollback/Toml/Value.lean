/-!
The values of a TOML document, and how tables come to be: by a header, as a part of a header, by a
dotted key, or in place. The way decides what may be added to a table later.
-/

namespace Scrollback.Toml

inductive Origin where
  -- Named by a header.
  | header
  -- Named before the last dot of a header.
  | implied
  -- Named before the last dot of a key.
  | dotted
  -- Written in braces.
  | inPlace
  deriving DecidableEq, Repr

inductive Value where
  | string (s : String)
  | integer (n : Int)
  | float (text : String)
  | boolean (b : Bool)
  | time (text : String)
  -- The items, and whether they are tables named by headers in double brackets.
  | array (ofHeaders : Bool) (items : List Value)
  | table (origin : Origin) (entries : List (String × Value))

abbrev Entries := List (String × Value)

namespace Entries

def find? (es : Entries) (key : String) : Option Value := es.lookup key

def replace (es : Entries) (key : String) (v : Value) : Entries :=
  es.map fun entry => if entry.1 == key then (key, v) else entry

def erase (es : Entries) (key : String) : Entries := es.filter (·.1 != key)

def append (es : Entries) (key : String) (v : Value) : Entries := es ++ [(key, v)]

/- Changes the table at the end of a path. Tables on the path that are not there yet come to be as
`created`. A table in braces cannot be changed, and one that a header names cannot be changed by a
dotted key. The path goes on in the last of the tables that headers in double brackets name. -/
def alter (created : Origin) (change : Origin → Entries → Option Entries) :
    List String → Origin → Entries → Option Entries
  | [], origin, es => change origin es
  | key :: path, _, es =>
    match es.find? key with
    | none => do
      let inner ← alter created change path created []
      some (es.append key (.table created inner))
    | some (.table .inPlace _) => none
    | some (.table origin inner) => do
      if origin == .header && created == .dotted then none
      let inner ← alter created change path origin inner
      some (es.replace key (.table origin inner))
    | some (.array true items) =>
      match items.reverse with
      | .table origin inner :: earlier => do
        let inner ← alter created change path origin inner
        some (es.replace key (.array true (.table origin inner :: earlier).reverse))
      | _ => none
    | some _ => none

def insertNew (es : Entries) (key : String) (v : Value) : Option Entries :=
  if (es.find? key).isSome then none else some (es.append key v)

def insertDotted (path : List String) (key : String) (v : Value) (es : Entries) : Option Entries :=
  alter .dotted (fun origin es =>
    if !path.isEmpty && origin != .dotted then none else es.insertNew key v) path .header es

/- Adds the table that a header names. A table that was only implied is then named, in the
header's place. -/
def insertHeader (path : List String) (key : String) (es : Entries) : Option Entries :=
  alter .implied (fun _ es =>
    match es.find? key with
    | none => some (es.append key (.table .header []))
    | some (.table .implied inner) => some ((es.erase key).append key (.table .header inner))
    | some _ => none) path .header es

def insertArrayHeader (path : List String) (key : String) (es : Entries) : Option Entries :=
  alter .implied (fun _ es =>
    match es.find? key with
    | none => some (es.append key (.array true [.table .header []]))
    | some (.array true items) =>
      some (es.replace key (.array true (items ++ [.table .header []])))
    | some _ => none) path .header es

def insertBelow (header path : List String) (key : String) (v : Value) (es : Entries) :
    Option Entries :=
  alter .implied (fun _ es => insertDotted path key v es) header .header es

end Entries

end Scrollback.Toml
