import Scrollback.Regex.Basic

/-!
Patterns of highlight rules: some words, or a regular expression.
-/

namespace Scrollback.Highlight

structure Pattern where
  -- As it was given, or as it was made from words: without a mark for the case of letters.
  source : String
  regex : Regex

namespace Pattern

inductive Error where
  | noWords
  | invalid (source : String) (cause : Regex.Error)

def Error.message? : Error → Option String
  | .noWords => some "no words to match"
  | .invalid _ _ => none

def caseMark (ignoreCase : Bool) : String := if ignoreCase then "(?i)" else ""

def ofRegex (source : String) (ignoreCase : Bool) : Except Error Pattern :=
  match Regex.parse (caseMark ignoreCase ++ source) with
  | .ok regex => .ok ⟨source, regex⟩
  | .error cause => .error (.invalid source cause)

def wordsSource (words : List String) : String :=
  "(?<!\\w)(" ++ "|".intercalate (words.map Regex.escape) ++ ")(?!\\w)"

def ofWords (words : List String) (ignoreCase : Bool) : Except Error Pattern :=
  match words.filter (!·.isEmpty) with
  | [] => .error .noWords
  | words => ofRegex (wordsSource words) ignoreCase

def test? (p : Pattern) (text : String) : Option Bool := p.regex.test? text

def accepts (p : Pattern) (text : String) : Bool := p.regex.isMatch text

end Pattern

end Scrollback.Highlight
