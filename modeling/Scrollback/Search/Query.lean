import Scrollback.Search.Predicate

/-!
Search queries: words, and names with a value after a colon.
-/

namespace Scrollback.Search

structure Token where
  text : String
  -- Empty if the token is a word.
  name : String := ""
  -- As it was written, with its quotes.
  value : String := ""
  deriving DecidableEq, Repr

namespace Token

def source : String := "(?:(?<name>\\w+):(?<value>\".+?\"|[^\\s]+))|[^\\s]+?(?=$|\\s)"

def pattern : Except Regex.Error Regex := Regex.parse source

def ofMatch (r : Regex) (m : Regex.Match) : Token where
  text := m.text
  name := ((r.group? m "name").map String.ofList).getD ""
  value := ((r.group? m "value").map String.ofList).getD ""

def list (query : String) : List Token :=
  match pattern with
  | .ok r => (r.scan query).found.map (ofMatch r)
  | .error _ => []

def plainValue (t : Token) : String :=
  let cs := match t.value.toList with
    | '"' :: rest => rest
    | cs => cs
  match cs.reverse with
  | '"' :: rest => String.ofList rest.reverse
  | _ => String.ofList cs

def author? (t : Token) : Option String := if t.name == "from" then some t.plainValue else none

def channel? (t : Token) : Option String := if t.name == "in" then some t.plainValue else none

/- What else a token asks for. A name that means nothing makes the whole token a word. -/
def predicate? (t : Token) : Option Predicate :=
  match t.name with
  | "from" | "in" => none
  | "is" => some (.ofFlagNames t.plainValue)
  | "regex" => some (.ofRegex t.plainValue true)
  | "has" => some (if t.plainValue == "link" then .link else .substring t.text)
  | _ => some (.substring t.text)

end Token

def namesTest (make : List String → Predicate) : List String → List Predicate
  | [] => []
  | names => [make names]

def ofTokens (ts : List Token) : List Predicate :=
  ts.filterMap Token.predicate? ++ namesTest .author (ts.filterMap Token.author?)
    ++ namesTest .channel (ts.filterMap Token.channel?)

def parse (query : String) : List Predicate := ofTokens (Token.list query)

end Scrollback.Search
