import Scrollback.Highlight.Basic
import Scrollback.Time.Instant

/-!
Notifications about highlights: which of them reach the user, and how.
-/

namespace Scrollback.Notification

structure Settings where
  showToast : Bool := false
  showContent : Bool := false
  -- Milliseconds during which a repeated notification is held back.
  delay : Option Nat := some 500
  alwaysPlaySound : Bool := false
  muted : Bool := false
  exclude : List String := []
  deriving DecidableEq, Repr

namespace Settings

def defaultDelay : Nat := 500

def window (s : Settings) : Nat := s.delay.getD defaultDelay

def admitsChannel (s : Settings) (channel : String) : Bool :=
  !s.muted && !s.exclude.any (Text.sameName · channel)

end Settings

structure Key where
  author : String
  channel : String
  text : String
  sound : Option Sound
  deriving DecidableEq, Repr

def Key.of (m : Message) (h : Highlight) : Key := ⟨m.author, m.channel, m.text, h.sound⟩

inductive Signal where
  | play (source : Sound.Source)
  | alert (title body : String)
  deriving DecidableEq, Repr

-- The signals that were given, and the kinds of them that are reported.
structure Delivery where
  signals : List Signal := []
  played : Bool := false
  alerted : Bool := false
  deriving DecidableEq, Repr

namespace Delivery

def play (d : Delivery) (source : Sound.Source) : Delivery :=
  { d with signals := d.signals ++ [.play source], played := true }

def alert (d : Delivery) (title body : String) : Delivery :=
  { d with signals := d.signals ++ [.alert title body], alerted := true }

end Delivery

inductive Outcome where
  | idle
  | suppressed (key : Key)
  | delivered (delivery : Delivery)
  deriving DecidableEq, Repr

namespace Outcome

def delivery : Outcome → Delivery
  | .delivered delivery => delivery
  | _ => {}

def signals (o : Outcome) : List Signal := o.delivery.signals

def played (o : Outcome) : Bool := o.delivery.played

def alerted (o : Outcome) : Bool := o.delivery.alerted

end Outcome

structure Recent where
  entries : List (Key × Instant) := []

namespace Recent

def forget (r : Recent) (cutoff : Option Instant) : Recent :=
  ⟨r.entries.filter fun entry => cutoff.all fun c => c.nanos < entry.2.nanos⟩

def contains (r : Recent) (k : Key) : Bool := r.entries.any (·.1 == k)

def insert (r : Recent) (k : Key) (t : Instant) : Recent :=
  ⟨(k, t) :: r.entries.filter fun entry => entry.1 != k⟩

end Recent

structure Request where
  now : Instant
  settings : Settings
  sound : Sound.Settings
  message : Message
  highlight : Highlight
  focused : Bool

namespace Request

def isAdmitted (r : Request) : Bool :=
  r.highlight.isActionable && r.settings.admitsChannel r.message.channel

def key (r : Request) : Key := .of r.message r.highlight

def place (r : Request) : String :=
  if r.message.channel.isEmpty then "a whisper" else r.message.channel

def title (r : Request) : String :=
  r.message.author ++ " highlighted you"
    ++ (if r.settings.showContent then " in " ++ r.place else "")

def body (r : Request) : String :=
  if r.settings.showContent then r.message.text else r.place

def isAudible (r : Request) : Bool := !r.focused || r.settings.alwaysPlaySound

def sounded (r : Request) (isFile : String → Bool) : Delivery :=
  match r.highlight.sound with
  | some sound => if r.isAudible then ({} : Delivery).play (sound.source r.sound isFile) else {}
  | none => {}

def deliver (r : Request) (isFile : String → Bool) : Delivery :=
  let d := r.sounded isFile
  if r.highlight.alert then d.alert r.title r.body else d

def cutoff (r : Request) : Option Instant := r.now.before? r.settings.window

end Request

/- Makes a notification, unless the same one was made lately. Even one without signals is
remembered. -/
def notify (recent : Recent) (r : Request) (isFile : String → Bool) : Recent × Outcome :=
  if !r.isAdmitted then (recent, .idle)
  else
    let recent := recent.forget r.cutoff
    if recent.contains r.key then (recent, .suppressed r.key)
    else (recent.insert r.key r.now, .delivered (r.deliver isFile))

def run (isFile : String → Bool) : Recent → List Request → List Outcome
  | _, [] => []
  | recent, r :: rest =>
    let (recent, outcome) := notify recent r isFile
    outcome :: run isFile recent rest

end Scrollback.Notification
