import Std.Data.HashMap
import Scrollback.Unicode.Composition
import Scrollback.Unicode.Property
import Scrollback.Url.Punycode
import Scrollback.Url.DomainCharacters
import Scrollback.Url.DirectionRanges

/-!
Domain names in their ASCII form. Characters are mapped, the name is composed, and every label
beyond ASCII is checked and written in Punycode behind `xn--`.
-/

namespace Scrollback.Url.Domain

open Unicode (RangeTable hexValue)

def allowedTable : RangeTable := .ofText domainRanges

def ignoredTable : RangeTable := .ofText ignoredInDomains

def mappingTable : Std.HashMap Nat (List Char) :=
  (Unicode.tableEntries domainMappings).foldl (fun table written =>
    match written.splitOn ">" with
    | [source, parts] =>
      let form := if parts.isEmpty then [] else (parts.splitOn "+").map (Char.ofNat ∘ hexValue)
      table.insert (hexValue source) form
    | _ => table) ∅

def isAllowed (c : Char) : Bool :=
  if c.toNat < 0x80 then !c.isUpper else allowedTable.contains c

def mapped? (c : Char) : Option (List Char) :=
  if c.toNat < 0x80 then some [c.toLower]
  else if allowedTable.contains c then some [c]
  else if ignoredTable.contains c then some []
  else mappingTable.get? c.toNat

/-! Direction of writing. -/

def rightToLeftTable : RangeTable := .ofText rightToLeftRanges
def arabicNumberTable : RangeTable := .ofText arabicNumberRanges
def europeanNumberTable : RangeTable := .ofText europeanNumberRanges
def nonspacingTable : RangeTable := .ofText nonspacingRanges
def neutralTable : RangeTable := .ofText neutralRanges

inductive Direction where
  | leftToRight | rightToLeft | arabicNumber | europeanNumber | nonspacing | neutral
  deriving DecidableEq

def direction (c : Char) : Direction :=
  if rightToLeftTable.contains c then .rightToLeft
  else if arabicNumberTable.contains c then .arabicNumber
  else if europeanNumberTable.contains c then .europeanNumber
  else if nonspacingTable.contains c then .nonspacing
  else if neutralTable.contains c then .neutral
  else .leftToRight

def hasRightToLeft (label : List Char) : Bool :=
  label.any fun c => c.toNat ≥ 0x80 && (direction c == .rightToLeft || direction c == .arabicNumber)

def directionRule (label : List Char) : Bool :=
  match label with
  | [] => true
  | first :: _ =>
    let all := label.map direction
    let last := (all.reverse.dropWhile (· == .nonspacing)).head?
    match direction first with
    | .rightToLeft =>
      !all.contains .leftToRight
        && (last == some .rightToLeft || last == some .europeanNumber || last == some .arabicNumber)
        && !(all.contains .europeanNumber && all.contains .arabicNumber)
    | .leftToRight =>
      !all.contains .rightToLeft && !all.contains .arabicNumber
        && (last == some .leftToRight || last == some .europeanNumber)
    | _ => false

/-! Joiners are allowed only where they change how the text is written. -/

def joinsLeftTable : RangeTable := .ofText joinsLeftRanges
def joinsRightTable : RangeTable := .ofText joinsRightRanges
def joinsBothTable : RangeTable := .ofText joinsBothRanges
def joinTransparentTable : RangeTable := .ofText joinTransparentRanges

def viramaClass : Nat := 9

def joinerRule (passed : List Char) : List Char → Bool
  | [] => true
  | c :: rest =>
    let afterVirama := passed.head?.any (Unicode.combiningClass · == viramaClass)
    let joins (t : RangeTable) (cs : List Char) : Bool :=
      match cs.dropWhile joinTransparentTable.contains with
      | [] => false
      | c :: _ => t.contains c || joinsBothTable.contains c
    let here :=
      if c.toNat == 0x200C then
        afterVirama || (joins joinsLeftTable passed && joins joinsRightTable rest)
      else if c.toNat == 0x200D then afterVirama
      else true
    here && joinerRule (c :: passed) rest

def markProperty : Option Unicode.Property := Unicode.Property.category? "m"

def isMark (c : Char) : Bool :=
  0x300 ≤ c.toNat && markProperty.any (·.contains c)

def validLabel (label : List Char) : Bool :=
  label.all (fun c => isAllowed c && c != '.') && !label.head?.any isMark && joinerRule [] label

def acePrefix : List Char := ['x', 'n', '-', '-']

def isAscii (cs : List Char) : Bool := cs.all (·.toNat < 0x80)

def label? (label : List Char) : Option (List Char × List Char) :=
  if acePrefix.isPrefixOf label then do
    let meant ← Punycode.decode? (label.drop 4)
    if isAscii meant || Unicode.composed meant != meant || !validLabel meant then none
    else some (label, meant)
  else if isAscii label then some (label, label)
  else if validLabel label then some (acePrefix ++ Punycode.encode label, label)
  else none

def labels (name : List Char) : List (List Char) :=
  name.splitOn '.'

def isForbidden (c : Char) : Bool :=
  c.toNat ≤ 0x20 || c.toNat == 0x7F
    || ['#', '%', '/', ':', '<', '>', '?', '@', '[', '\\', ']', '^', '|'].contains c

def toAscii? (name : List Char) : Option (List Char) := do
  let mapped ← name.mapM mapped?
  let labels ← (labels (Unicode.composed mapped.flatten)).mapM label?
  if labels.any (hasRightToLeft ·.2) && !labels.all (directionRule ·.2) then none
  let ascii := List.intercalate ['.'] (labels.map (·.1))
  if ascii.any isForbidden then none else some ascii

end Scrollback.Url.Domain
