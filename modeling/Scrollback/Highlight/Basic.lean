import Scrollback.Message.Basic
import Scrollback.Sound

/-!
Highlights: what stands out about a message.
-/

namespace Scrollback

structure Highlight where
  highlighted : Bool := false
  alert : Bool := false
  sound : Option Sound := none
  color : Option Color := none
  showInMentions : Bool := false
  deriving DecidableEq, Repr

namespace Highlight

def hasSound (h : Highlight) : Bool := h.sound.isSome

def isActionable (h : Highlight) : Bool := h.alert || h.hasSound

def apply (h : Highlight) (m : Message) : Message :=
  let flags := if h.highlighted then m.flags.insert .highlighted else m.flags
  let flags := if h.showInMentions then flags.insert .showInMentions else flags
  { m with flags, color := h.color <|> m.color }

end Highlight

end Scrollback
