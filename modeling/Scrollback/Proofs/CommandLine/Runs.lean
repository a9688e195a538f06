import Scrollback.CommandLine.Program
import Scrollback.Proofs.History.Lines

/-! Runs that get as far as their command, and the history that the command reads. What goes wrong
before, with the arguments, the configuration or the log, is left aside here. -/
namespace Scrollback.CommandLine

-- The arguments ask for a command, its configuration is read and the log can be written.
def Started (s : Surroundings) (args : List String) (config : Config) (command : Command) : Prop :=
  ∃ named debug, parse args = .run ⟨named, debug, command⟩ ∧ loadConfig s named = .ok config ∧
    (debug = true ∨ s.logFailure = none)

section Run

variable {s : Surroundings} {args : List String} {config : Config} {command : Command}
  {path : String} {content : List UInt8}

theorem runStarted (started : Started s args config command) :
    (run s args).code = ((execute s config command).failure.map Failure.code).getD 0 ∧
      (run s args).printed = (execute s config command).printed := by
  obtain ⟨named, debug, asked, configured, writes⟩ := started
  rw [run, asked]
  dsimp only
  rw [runCommand, configured]
  dsimp only
  split
  · rename_i failing
    rw [failing] at writes
    rcases writes with loud | writes
    · cases loud
    · cases writes
  · exact ⟨rfl, rfl⟩

theorem configFound {text : String} {takesTemplate : Bool}
    (found : s.configFolder = .available (.file (History.bytes text)) takesTemplate)
    (parsed : Config.parse text = .ok config) : loadConfig s none = .ok config := by
  have loaded : Config.load (.file (History.bytes text)) = .ok config := by
    rw [Config.load, Disk.Entry.text]
    dsimp only [Disk.Entry.bytes, bind, Except.bind]
    rw [History.decodeBytes]
    exact parsed
  rw [loadConfig, found]
  dsimp only
  rw [loaded]
  rfl

theorem historyHeld (held : (s.entry path).bytes = .ok content) : readHistory s path =
    let r := History.read s.now content
    let skipped := r.skipped.map (skippedEntry path)
    if r.complete then (.ok r.messages, skipped ++ [readEntry path r.messages.length])
    else (.error (.disk .notText), skipped) := by
  rw [readHistory]
  cases found : s.entry path with
  | missing | folder | blocked =>
    rw [found] at held
    cases held
  | file bytes | stream bytes =>
    rw [found] at held
    cases held
    rfl

theorem historyLegible (held : (s.entry path).bytes = .ok content)
    (legible : History.Legible content) : readHistory s path =
      (.ok (History.messages s.now content),
        (History.read s.now content).skipped.map (skippedEntry path) ++
          [readEntry path (History.messages s.now content).length]) := by
  obtain ⟨complete, messages⟩ := History.readLegible s.now legible
  rw [historyHeld held]
  dsimp only
  rw [if_pos complete, messages]

theorem historyIllegible (held : (s.entry path).bytes = .ok content)
    (illegible : ¬History.Legible content) : readHistory s path =
      (.error (.disk .notText), (History.read s.now content).skipped.map (skippedEntry path)) := by
  rw [historyHeld held]
  dsimp only
  rw [if_neg (by simp [History.readIllegible s.now illegible])]

end Run

end Scrollback.CommandLine
