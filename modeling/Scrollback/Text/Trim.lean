import Scrollback.Unicode.Class

/-!
Blanks around a text, and equality of texts up to the case of ASCII letters.
-/

namespace Scrollback.Text

def dropEndWhile (p : Char → Bool) (cs : List Char) : List Char :=
  (cs.reverse.dropWhile p).reverse

def trimChars (cs : List Char) : List Char :=
  dropEndWhile Unicode.isBlank (cs.dropWhile Unicode.isBlank)

def trim (s : String) : String := String.ofList (trimChars s.toList)

def isBlankText (s : String) : Bool := s.toList.all Unicode.isBlank

def sameName (a b : String) : Bool :=
  a.toList.map Char.toLower == b.toList.map Char.toLower

end Scrollback.Text
