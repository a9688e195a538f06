import Scrollback.Regex.Basic
import Scrollback.Text.Bytes
import Scrollback.Text.Trim
import Scrollback.Url.Reader

/-!
Links in the text of a message.
-/

namespace Scrollback.Link

/- What looks like a link: a scheme of the web or `www.` at the start of a word, and everything up
to a blank or an angle bracket. -/
def source : String := "(?i)\\b(?:https?://|www\\.)[^\\s<>]+"

def pattern : Except Regex.Error Regex := Regex.parse source

def isTrailing (c : Char) : Bool := ['.', ',', ')', '!', '?', ':', ';', '"'].contains c

/- Whether the first four bytes are `www.`, if there are as many. If the fourth lies inside a
character, reading cannot go on. -/
def lacksScheme? (link : List Char) : Option Bool :=
  if (String.ofList link).utf8ByteSize < 4 then some false
  else (Text.takeBytes? 4 link).map fun (start, _) => start.map Char.toLower == ['w', 'w', 'w', '.']

/- The address that was found, if it is one. -/
def read? (found : List Char) : Option (Option Url) := do
  let link := Text.dropEndWhile isTrailing found
  if ← lacksScheme? link then return Url.parse? ("https://" ++ String.ofList link)
  else return Url.parse? (String.ofList link)

def candidates (text : String) : List (List Char) :=
  match pattern with
  | .ok r => (r.scan text).found.map Regex.Match.chars
  | .error _ => []

def find? (text : String) : Option (List Url) := do
  return (← (candidates text).mapM read?).filterMap id

def find (text : String) : List Url := (find? text).getD []

end Scrollback.Link
