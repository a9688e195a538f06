import Scrollback.Highlight.Settings
import Scrollback.History.Buffer
import Scrollback.Log
import Scrollback.Notification

/-!
The configuration of the program. What it leaves out is switched off.
-/

namespace Scrollback

structure Config where
  highlights : Highlight.Settings := {}
  notifications : Notification.Settings := {}
  sound : Sound.Settings := {}
  ignore : List String := []
  limit : Nat := Buffer.defaultLimit
  logThreshold : Log.Threshold := some .info

end Scrollback
