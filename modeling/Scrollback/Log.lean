/-!
The log: what is noted while the program runs.
-/

namespace Scrollback.Log

inductive Level where
  | error | warn | info | debug | trace
  deriving DecidableEq, Repr

def Level.name : Level → String
  | .error => "ERROR"
  | .warn => "WARN"
  | .info => "INFO"
  | .debug => "DEBUG"
  | .trace => "TRACE"

def Level.rank : Level → Nat
  | .error => 1
  | .warn => 2
  | .info => 3
  | .debug => 4
  | .trace => 5

abbrev Threshold := Option Level

def Threshold.admits : Threshold → Level → Bool
  | none, _ => false
  | some last, level => level.rank ≤ last.rank

structure Entry where
  level : Level
  text : String
  deriving DecidableEq, Repr

def Entry.write (e : Entry) : String := e.level.name ++ " -- " ++ e.text

end Scrollback.Log
