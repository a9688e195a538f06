import Scrollback.Unicode.RangeTable
import Scrollback.Unicode.GeneralCategoryRanges
import Scrollback.Unicode.ScriptRanges
import Scrollback.Unicode.ScriptExtensionRanges
import Scrollback.Unicode.BinaryPropertyRanges

/-!
Properties of characters by name. Names are compared loosely: letter case, blanks, hyphens, low
lines and a leading `is` do not count.
-/

namespace Scrollback.Unicode

structure Property where
  tables : List RangeTable

namespace Property

def contains (p : Property) (c : Char) : Bool :=
  p.tables.any (·.contains c)

def looseName (name : String) : String :=
  let letters := name.toList.filter fun c => c.toNat < 0x80 && c != ' ' && c != '_' && c != '-'
  let dropsIs :=
    match name.toList with
    | 'i' :: 's' :: _ | 'I' :: 's' :: _ | 'i' :: 'S' :: _ | 'I' :: 'S' :: _ => true
    | _ => false
  let rest := if dropsIs then letters.drop 2 else letters
  let name := String.ofList (rest.map Char.toLower)
  -- `isc` is a category prefix of its own and not the category `c`
  if dropsIs && name == "c" then "isc" else name

def categoryGroups : List (List String × List String) := [
  (["l", "letter"], ["lu", "ll", "lt", "lm", "lo"]),
  (["lc", "casedletter"], ["lu", "ll", "lt"]),
  (["m", "mark", "combiningmark"], ["mn", "mc", "me"]),
  (["n", "number"], ["nd", "nl", "no"]),
  (["p", "punctuation", "punct"], ["pc", "pd", "ps", "pe", "pi", "pf", "po"]),
  (["s", "symbol"], ["sm", "sc", "sk", "so"]),
  (["z", "separator"], ["zs", "zl", "zp"]),
  (["c", "other"], ["cc", "cf", "co", "cn"])]

def lookup? (entries : List (List String × String)) (name : String) : Option RangeTable :=
  (entries.find? (·.1.contains name)).map (.ofText ·.2)

def category? (name : String) : Option Property :=
  match name with
  | "any" => some ⟨[⟨#[(0, 0x10FFFF)]⟩]⟩
  | "ascii" => some ⟨[⟨#[(0, 0x7F)]⟩]⟩
  | "assigned" => category ["lu", "ll", "lt", "lm", "lo", "mn", "mc", "me", "nd", "nl", "no", "pc",
      "pd", "ps", "pe", "pi", "pf", "po", "sm", "sc", "sk", "so", "zs", "zl", "zp", "cc", "cf", "co"]
  | name =>
    match categoryGroups.find? (·.1.contains name) with
    | some (_, parts) => category parts
    | none => (lookup? generalCategoryRanges name).map (⟨[·]⟩)
where
  category (parts : List String) : Option Property :=
    some ⟨parts.filterMap (lookup? generalCategoryRanges)⟩

def script? (name : String) : Option Property :=
  (lookup? scriptRanges name).map (⟨[·]⟩)

def scriptExtension? (name : String) : Option Property :=
  ((lookup? scriptExtensionRanges name).map (⟨[·]⟩)).or (script? name)

/- A property written as a bare name: a binary property, a category or a script. The names `cf`,
`sc` and `lc` are categories. -/
def named? (name : String) : Option Property :=
  let name := looseName name
  let binary :=
    if name == "cf" || name == "sc" || name == "lc" then none
    else (lookup? binaryPropertyRanges name).map (⟨[·]⟩)
  binary.or ((category? name).or (script? name))

def valued? (kind value : String) : Option Property :=
  let kind := looseName kind
  let value := looseName value
  if kind == "gc" || kind == "generalcategory" then category? value
  else if kind == "sc" || kind == "script" then script? value
  else if kind == "scx" || kind == "scriptextensions" then scriptExtension? value
  else none

end Property

end Scrollback.Unicode
