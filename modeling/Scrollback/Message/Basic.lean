import Scrollback.Color
import Scrollback.Message.Flags
import Scrollback.Message.Badge
import Scrollback.Message.Link
import Scrollback.Time.Timestamp

/-!
Chat messages.
-/

namespace Scrollback

inductive Direction where
  | sent
  | received
  deriving DecidableEq, Repr

structure Message where
  timestamp : Timestamp
  direction : Direction := .received
  -- Empty in a private message.
  channel : String
  author : String
  text : String
  flags : Flags := .single .collapsed
  color : Option Color := none
  badges : List Badge := []
  links : List Url := []
  deriving DecidableEq

namespace Message

def create (timestamp : Timestamp) (channel author text : String) : Message :=
  { timestamp, channel, author, text, links := Link.find text }

def has (m : Message) (f : Flag) : Bool := m.flags.has f

def hasLink (m : Message) : Bool := !m.links.isEmpty

def isReceivedWhisper (m : Message) : Bool :=
  m.has .whisper && m.direction == .received

end Message

end Scrollback
