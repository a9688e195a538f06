import Scrollback.Json.Reader
import Scrollback.Message.Basic

/-!
Records of received messages, as a history keeps them: JSON objects, or arrays of the fields in
order.
-/

namespace Scrollback

structure Received where
  channel : String
  author : String
  text : String
  tags : List (String × String) := []
  flags : List Flag := []
  direction : Direction := .received
  timestamp : Option Timestamp := none
  deriving DecidableEq, Repr

namespace Received

open Json (Read)

def direction? : String → Option Direction
  | "sent" => some .sent
  | "received" => some .received
  | _ => none

def readFlags : Read (List Flag) := Json.array (Json.oneOf Flag.ofRecordName?)

def readDirection : Read Direction := Json.oneOf direction?

def readTimestamp : Read (Option Timestamp) :=
  Json.optional do
    match Timestamp.parse? (← Json.string) with
    | some t => return t
    | none => Json.fail .mismatch

structure Fields where
  channel : Option String := none
  author : Option String := none
  text : Option String := none
  tags : Option (List (String × String)) := none
  flags : Option (List Flag) := none
  direction : Option Direction := none
  timestamp : Option (Option Timestamp) := none

def Fields.toRecord? (f : Fields) : Option Received := do
  let channel ← f.channel
  let author ← f.author
  let text ← f.text
  some {
    channel, author, text
    tags := f.tags.getD []
    flags := f.flags.getD []
    direction := f.direction.getD .received
    timestamp := f.timestamp.getD none }

def once {α : Type} (before : Option α) (read : Read α) : Read (Option α) := do
  if before.isSome then Json.fail .mismatch
  Json.colon
  return some (← read)

def readField (f : Fields) (name : String) : Read Fields := do
  match name with
  | "channel" => return { f with channel := ← once f.channel Json.string }
  | "author" | "user" => return { f with author := ← once f.author Json.string }
  | "text" => return { f with text := ← once f.text Json.string }
  | "tags" => return { f with tags := ← once f.tags Json.stringMap }
  | "flags" => return { f with flags := ← once f.flags readFlags }
  | "direction" => return { f with direction := ← once f.direction readDirection }
  | "timestamp" => return { f with timestamp := ← once f.timestamp readTimestamp }
  | _ => do
    Json.colon
    Json.ignore
    return f

def complete (f : Fields) : Read Received :=
  match f.toRecord? with
  | some r => return r
  | none => Json.fail .mismatch

def next? {α : Type} (first : Bool) (read : Read α) : Read (Option α) := do
  if ← Json.hasItem .array first then return some (← read) else return none

def required {α : Type} (first : Bool) (read : Read α) : Read α := do
  match ← next? first read with
  | some a => return a
  | none => Json.fail .mismatch

def readArray : Read Received := do
  let channel ← required true Json.string
  let author ← required false Json.string
  let text ← required false Json.string
  let tags ← next? false Json.stringMap
  let flags ← next? false readFlags
  let direction ← next? false readDirection
  let timestamp ← next? false readTimestamp
  return {
    channel, author, text
    tags := tags.getD []
    flags := flags.getD []
    direction := direction.getD .received
    timestamp := timestamp.getD none }

def read : Read Received := do
  match ← Json.peek? with
  | none => Json.fail .incomplete
  | some '{' => do
    Json.skip
    let r ← complete (← Json.allItems .object (Json.member readField) {})
    Json.close '}'
    return r
  | some '[' => do
    Json.skip
    let r ← readArray
    Json.close ']'
    return r
  | some _ => Json.wrongKind

def ofJson (text : String) : Except Json.Error Received := Json.ofText read text

/- Only one tag says something about a message: the one that lists badges. -/
def badges (r : Received) : List Badge :=
  match r.tags.lookup "badges" with
  | some list => Badge.ofList list
  | none => []

def toMessage (r : Received) (now : Timestamp) : Message :=
  let m := Message.create (r.timestamp.getD now) r.channel r.author r.text
  { m with flags := m.flags ∪ .ofList r.flags, badges := r.badges, direction := r.direction }

end Received

end Scrollback
