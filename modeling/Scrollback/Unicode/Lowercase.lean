import Std.Data.HashMap
import Scrollback.Unicode.RangeTable
import Scrollback.Unicode.Folding
import Scrollback.Unicode.LowercasePairs

/-!
Lower-case form of a text. Every character has a form of its own, except that a capital sigma at the
end of a word becomes a final sigma. ASCII characters are decided without a table.
-/

namespace Scrollback.Unicode

def lowercaseTable : Std.HashMap Nat (List Char) :=
  (tableEntries lowercasePairs).foldl (fun table written =>
    match written.splitOn ">" with
    | [source, form] =>
      table.insert (hexValue source) ((form.splitOn "+").map (Char.ofNat ∘ hexValue))
    | _ => table) ∅

def lowercaseForm (c : Char) : List Char :=
  if c.toNat < 0x80 then [c.toLower] else (lowercaseTable.get? c.toNat).getD [c]

def casedTable : RangeTable := .ofText casedRanges

def caseIgnorableTable : RangeTable := .ofText caseIgnorableRanges

def isCased (c : Char) : Bool :=
  if c.toNat < 0x80 then c.isAlpha else casedTable.contains c

def isCaseIgnorable (c : Char) : Bool :=
  if c.toNat < 0x80 then ['\x27', '.', ':', '^', '_', '\x60'].contains c
  else caseIgnorableTable.contains c

def startsCased (cs : List Char) : Bool :=
  match cs.dropWhile isCaseIgnorable with
  | [] => false
  | c :: _ => isCased c

/- A capital sigma is final if a cased character stands before it and none after it. -/
def isFinalSigma (before after : List Char) : Bool :=
  startsCased before && !startsCased after

def lowercaseAfter (before : List Char) : List Char → List Char
  | [] => []
  | c :: after =>
    let form :=
      if c = 'Σ' then [if isFinalSigma before after then 'ς' else 'σ'] else lowercaseForm c
    form ++ lowercaseAfter (c :: before) after

def lowercase (s : String) : String :=
  String.ofList (lowercaseAfter [] s.toList)

end Scrollback.Unicode
