import Mathlib
import Scrollback.Message.Link

/-! The plan that the pattern for links compiles to, spelled out. What has to stand before a link is
tried with a retry at each place; the link itself needs none. -/
namespace Scrollback.Link
open Regex (Plain Plan CharSet)

def letter (x : Char) : Plain := .set (.folded (.single x))

def webPart : Plain :=
  .seq (letter 'h') (.seq (letter 't') (.seq (letter 't') (.seq (letter 'p')
    (.seq (.run (.folded (.single 's')) 0 (some 1) true)
      (.seq (letter ':') (.seq (letter '/') (letter '/')))))))

def hostPart : Plain := .seq (letter 'w') (.seq (letter 'w') (.seq (letter 'w') (letter '.')))

def innerSet : CharSet := .not (.folded (.union .blank (.union (.single '<') (.single '>'))))

def linkPart : Plain := .seq (.alt webPart hostPart) (.run innerSet 1 none true)

def plan : Plan := .seq (.assert .wordBoundary) (.plain linkPart)

def regex : Regex where
  source := source
  program := .planned false plan
  names := []

set_option maxRecDepth 4000 in
theorem patternRead : pattern = .ok regex := by cbv

end Scrollback.Link
