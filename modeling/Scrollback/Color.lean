import Scrollback.Text.Bytes
import Scrollback.Text.Trim
import Scrollback.Unicode.RangeTable

/-!
Colours, written in hexadecimal.
-/

namespace Scrollback

structure Color where
  red : UInt8
  green : UInt8
  blue : UInt8
  deriving DecidableEq, Repr

namespace Color

open Text (takeBytes?)

inductive Error where
  | length
  | digit
  -- The end of a channel lies inside a character: reading cannot go on.
  | splitCharacter
  deriving DecidableEq, Repr

def Error.message? : Error → Option String
  | .length => some
    "invalid hex code format, please use format '#fff', 'fff', '#ffffff', 'ffffff', etc."
  | .digit => some "invalid digit found in string"
  | .splitCharacter => none

def channel? (cs : List Char) : Option Nat :=
  let digits := match cs with
    | '+' :: rest => rest
    | cs => cs
  if digits.isEmpty then none
  else digits.foldl (fun n? c => do return (← n?) * 16 + (← Unicode.hexDigit? c)) (some 0)

def readChannel (size : Nat) (cs : List Char) : Except Error (Nat × List Char) :=
  match takeBytes? size cs with
  | none => .error .splitCharacter
  | some (taken, rest) =>
    match channel? taken with
    | none => .error .digit
    | some n => .ok (n, rest)

def readChannels (size scale : Nat) (cs : List Char) : Except Error Color := do
  let (red, cs) ← readChannel size cs
  let (green, cs) ← readChannel size cs
  let (blue, _) ← readChannel size cs
  return ⟨.ofNat (red * scale), .ofNat (green * scale), .ofNat (blue * scale)⟩

def parse (text : String) : Except Error Color :=
  let cs := Text.trimChars text.toList
  let cs := match cs with
    | '#' :: rest => rest
    | cs => cs
  match (String.ofList cs).utf8ByteSize with
  | 3 => readChannels 1 17 cs
  | 6 => readChannels 2 1 cs
  | _ => .error .length

def hexPair (n : UInt8) : List Char :=
  [Nat.digitChar (n.toNat / 16), Nat.digitChar (n.toNat % 16)]

def write (c : Color) : String :=
  String.ofList ('#' :: (hexPair c.red ++ hexPair c.green ++ hexPair c.blue))

end Color

end Scrollback
