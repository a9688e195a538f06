import Scrollback.History.Buffer
import Scrollback.Search.Query

/-!
Searches in what was kept of a chat.
-/

namespace Scrollback.Search

structure Results where
  name : String
  messages : List Message

def filter (predicates : List Predicate) (name : String) (s : Snapshot)
    (further : Option (Message → Bool)) : Results where
  name
  messages := s.messages.filter fun m => predicates.all (·.accepts m) && further.all (· m)

structure Session where
  channel : String := ""
  snapshot : Snapshot := ⟨[]⟩
  further : Option (Message → Bool) := none

namespace Session

def ofBuffer (channel : String) (b : Buffer) : Session where
  channel
  snapshot := b.snapshot

def setChannel (s : Session) (channel : String) (b : Buffer) : Session :=
  { s with channel, snapshot := b.snapshot }

def setFurther (s : Session) (further : Option (Message → Bool)) : Session := { s with further }

def search (s : Session) (query : String) : Results :=
  filter (parse query) s.channel s.snapshot s.further

def title (s : Session) : String :=
  let history :=
    match s.channel with
    | "/whispers" => "whispers"
    | "/mentions" => "mentions"
    | "" => "<empty>'s"
    | channel => channel ++ "'s"
  "Searching in " ++ history ++ " history"

end Session

end Scrollback.Search
