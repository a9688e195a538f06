/-!
What is found at a path, and why a text cannot be read there.
-/

namespace Scrollback.Disk

inductive Entry where
  | missing
  | folder
  | file (content : List UInt8)
  -- It can be read, but is no regular file.
  | stream (content : List UInt8)
  -- The way there leads through a file.
  | blocked
  deriving DecidableEq, Repr

inductive Failure where
  | missing
  | folder
  | blocked
  | notText
  deriving DecidableEq, Repr

def Failure.message : Failure → String
  | .missing => "No such file or directory (os error 2)"
  | .folder => "Is a directory (os error 21)"
  | .blocked => "Not a directory (os error 20)"
  | .notText => "stream did not contain valid UTF-8"

namespace Entry

def isFile : Entry → Bool
  | .file _ => true
  | _ => false

def bytes : Entry → Except Failure (List UInt8)
  | .missing => .error .missing
  | .folder => .error .folder
  | .blocked => .error .blocked
  | .file content | .stream content => .ok content

end Entry

def decode? (bytes : List UInt8) : Option String := String.fromUTF8? bytes.toByteArray

def Entry.text (e : Entry) : Except Failure String := do
  match decode? (← e.bytes) with
  | some text => return text
  | none => throw .notText

end Scrollback.Disk
