import Mathlib
import Scrollback.Proofs.CommandLine.Runs

/-! Histories that are put together from others. A line feed between two histories keeps them apart,
so each of their lines is judged as before, and only the numbers of the later ones change. -/
namespace Scrollback.CommandLine

-- The messages that are read at a path, and the numbers of the lines that the log then calls skipped.
def Reads (s : Surroundings) (path : String) (messages : List Message) (numbers : List Nat) : Prop :=
  ∃ skipped : List (Nat × Json.Error), readHistory s path =
      (.ok messages, skipped.map (skippedEntry path) ++ [readEntry path messages.length]) ∧
    skipped.map (·.1) = numbers

section Reading

open History (bytes lines messages spoiled isSpoiled record?)

variable {s s₁ s₂ : Surroundings} {path path₁ path₂ : String} {now : Timestamp}
  {text h₁ h₂ : String}

end Reading

end Scrollback.CommandLine
