import Scrollback.Message.Basic
import Scrollback.Regex.Basic
import Scrollback.Text.Quoted
import Scrollback.Text.Trim

/-!
Entries that name messages to ignore: `nick`, `#channel` or `#channel nick`.
-/

namespace Scrollback.Ignore

/- Messages of a channel or of a user, or of a user in a channel. -/
structure Filter where
  channel : Option String
  user : Option String
  deriving DecidableEq, Repr

inductive Error where
  | invalidNick (nick : String)
  | empty
  deriving DecidableEq, Repr

def Error.message : Error → String
  | .invalidNick nick => "Unable to generate filter from nickname " ++ Text.quoted nick
  | .empty => "Empty filter"

def nick? (text : String) : Except Error (Option String) :=
  let nick := Text.trim text
  if nick.isEmpty then .ok none
  else if nick.toList.any Unicode.isBlank then .error (.invalidNick nick)
  else .ok (some nick)

/- A channel at the start of an entry: its mark and up to 49 characters without a bell, a comma or
a space. -/
def channelSource : String := "^[#&][^\x07, ]\x7b1,49\x7d"

def channelPattern : Except Regex.Error Regex := Regex.parse channelSource

def splitChannel? (entry : String) : Option (String × String) :=
  match channelPattern with
  | .ok pattern => (pattern.find? entry).map fun m => (m.text, String.ofList m.last.after)
  | .error _ => none

namespace Filter

def parse (entry : String) : Except Error Filter :=
  let entry := Text.trim entry
  if entry.isEmpty then .error .empty
  else
    match splitChannel? entry with
    | some (channel, rest) => (nick? rest).map (⟨some channel, ·⟩)
    | none => (nick? entry).map (⟨none, ·⟩)

def hides (f : Filter) (m : Message) : Bool :=
  f.channel.all (Text.sameName · m.channel) && f.user.all (Text.sameName · m.author)

end Filter

structure Chain where
  filters : List Filter
  deriving DecidableEq, Repr

namespace Chain

def ofEntries (entries : List String) : Chain :=
  ⟨entries.filterMap fun entry => (Filter.parse entry).toOption⟩

def rejected (entries : List String) : List (String × Error) :=
  entries.filterMap fun entry =>
    match Filter.parse entry with
    | .error e => some (entry, e)
    | .ok _ => none

def isEmpty (c : Chain) : Bool := c.filters.isEmpty

def hides (c : Chain) (m : Message) : Bool := c.filters.any (·.hides m)

def accepts (c : Chain) (m : Message) : Bool := !c.hides m

end Chain

end Scrollback.Ignore
