import Scrollback.Message.Basic
import Scrollback.Text.Search
import Scrollback.Unicode.Lowercase

/-!
Tests that a search makes on messages.
-/

namespace Scrollback.Search

/- A regular expression that is searched for. One that is invalid is kept as it was given, but
occurs nowhere. -/
structure Pattern where
  source : String
  regex : Option Regex

namespace Pattern

def create (source : String) (ignoreCase : Bool) : Pattern :=
  ⟨source, (Regex.parse ((if ignoreCase then "(?i)" else "") ++ source)).toOption⟩

def isValid (p : Pattern) : Bool := p.regex.isSome

def accepts (p : Pattern) (text : String) : Bool := p.regex.any (·.isMatch text)

instance : BEq Pattern where
  beq p q := p.source == q.source && p.regex.map (·.source) == q.regex.map (·.source)

end Pattern

inductive Predicate where
  | substring (text : String)
  | regex (pattern : Pattern)
  | author (names : List String)
  | channel (names : List String)
  | link
  | flags (flags : Flags)

namespace Predicate

def ofRegex (source : String) (ignoreCase : Bool) : Predicate :=
  .regex (Pattern.create source ignoreCase)

def flagsOf (names : String) : Flags :=
  .ofList ((names.toList.splitOn ',').filterMap fun name =>
    Flag.ofSearchName? (String.ofList name))

def ofFlagNames (names : String) : Predicate := .flags (flagsOf names)

def sameFolded (a b : String) : Bool := Unicode.lowercase a == Unicode.lowercase b

def accepts (m : Message) : Predicate → Bool
  | .substring text =>
    Text.hasPart (Unicode.lowercase text).toList (Unicode.lowercase m.text).toList
  | .regex pattern => pattern.accepts m.text
  | .author names => names.any (sameFolded · m.author)
  | .channel names => names.any (sameFolded · m.channel)
  | .link => m.hasLink
  | .flags fs => m.flags.meets fs

protected def beq : Predicate → Predicate → Bool
  | .substring a, .substring b => a == b
  | .regex a, .regex b => a == b
  | .author a, .author b => a == b
  | .channel a, .channel b => a == b
  | .link, .link => true
  | .flags a, .flags b => a == b
  | _, _ => false

instance : BEq Predicate := ⟨Predicate.beq⟩

end Predicate

end Scrollback.Search
