import Scrollback.Url.Reader

/-!
Sounds that a highlight asks for, and where they are read from.
-/

namespace Scrollback

inductive Sound where
  | custom (url : Url)
  | fallback
  deriving DecidableEq, Repr

namespace Sound

def ofUrl? : Option Url → Sound
  | some url => .custom url
  | none => .fallback

structure Settings where
  useCustomFallback : Bool := false
  customFallback : Option String := none
  deriving DecidableEq, Repr

def Settings.fallbackFile? (s : Settings) (isFile : String → Bool) : Option String :=
  s.customFallback.filter fun path => s.useCustomFallback && isFile path

inductive Source where
  -- A path in bytes, which need not be text.
  | file (path : List UInt8)
  | url (url : Url)
  | ping
  deriving DecidableEq, Repr

def source (settings : Settings) (isFile : String → Bool) : Sound → Source
  | .custom url =>
    match url.filePath? with
    | some path => .file path
    | none => .url url
  | .fallback =>
    match settings.fallbackFile? isFile with
    | some path => .file path.toByteArray.toList
    | none => .ping

end Sound

end Scrollback
