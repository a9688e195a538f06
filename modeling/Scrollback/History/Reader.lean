import Scrollback.Disk
import Scrollback.Message.Received

/-!
Reading of histories: texts with a record on each line. Blank lines do not count, and lines that
are no record are skipped.
-/

namespace Scrollback.History

inductive Line where
  | blank
  | record (r : Received)
  | invalid (cause : Json.Error)

def Line.ofText (text : String) : Line :=
  if Text.isBlankText text then .blank
  else
    match Received.ofJson text with
    | .ok r => .record r
    | .error cause => .invalid cause

def dropReturn (line : List UInt8) : List UInt8 :=
  if line.getLast? == some 0x0D then line.dropLast else line

def splitLines (content : List UInt8) : List (List UInt8) :=
  let pieces := content.splitOn 0x0A
  let whole := pieces.dropLast.map dropReturn
  match pieces.getLast? with
  | none | some [] => whole
  | some last => whole ++ [last]

structure Reading where
  messages : List Message := []
  -- Numbers of lines that were skipped, from 1 on, and what was wrong with them.
  skipped : List (Nat × Json.Error) := []
  complete : Bool := true

def readLines (now : Timestamp) : Nat → List (List UInt8) → Reading
  | _, [] => {}
  | number, line :: rest =>
    match Disk.decode? line with
    | none => { complete := false }
    | some text =>
      let more := readLines now (number + 1) rest
      match Line.ofText text with
      | .blank => more
      | .record r => { more with messages := r.toMessage now :: more.messages }
      | .invalid cause => { more with skipped := (number, cause) :: more.skipped }

def read (now : Timestamp) (content : List UInt8) : Reading := readLines now 1 (splitLines content)

end Scrollback.History
