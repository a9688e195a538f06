import Mathlib
import Scrollback.Search.Query

/-! The plan that the pattern for tokens compiles to, spelled out. The name and the value of a
token need no retries; a word is a lazy repeat, which goes on until a blank or the end follows. -/
namespace Scrollback.Search.Token
open Regex (Plain Plan)

def quotedPart : Plain :=
  .seq (.set (.single '"'))
    (.seq (.run (.not (.single '\n')) 1 none false) (.set (.single '"')))

def valuePart : Plain := .alt quotedPart (.run (.not .blank) 1 none true)

def namedPart : Plain :=
  .seq (.capture 1 (.run .word 1 none true)) (.seq (.set (.single ':')) (.capture 2 valuePart))

def endPart : Plain := .alt (.assert .textEnd) (.set .blank)

def wordPart : Plan :=
  .seq (.loop (.plain (.set (.not .blank))) 1 none false) (.ahead (.plain endPart))

def plan : Plan := .alt (.plain namedPart) wordPart

def regex : Regex where
  source := source
  program := .planned false plan
  names := [("value", 2), ("name", 1)]

theorem patternRead : pattern = .ok regex := by cbv

end Scrollback.Search.Token
