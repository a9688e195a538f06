import Mathlib
import Scrollback.CommandLine.Program
import Scrollback.Proofs.Config.Addresses
import Scrollback.Proofs.Url.Files

/-! What the highlighting of a history says of the sounds of its configuration before it begins.
Announced are the addresses with another scheme than `file`, whereas what is played goes by the host
and the path of an address. -/
namespace Scrollback.CommandLine

-- The addresses of sounds that are announced as not played.
def announced (config : Config) : List Url :=
  config.highlights.soundUrls.filter (·.scheme != "file")

section Later

variable {u : Url}

-- Both are warnings, so only their texts tell them apart.
theorem skippedOther (path : String) (skipped : Nat × Json.Error) :
    skippedEntry path skipped ≠ soundEntry u := by
  intro same
  have second : (skippedEntry path skipped).text.toList[1]? = (soundEntry u).text.toList[1]? := by
    rw [same]
  simp [skippedEntry, soundEntry] at second

theorem historySilent {s : Surroundings} {path : String} :
    soundEntry u ∉ (readHistory s path).2 := by
  have skipped (given : List (Nat × Json.Error)) :
      soundEntry u ∉ given.map (skippedEntry path) := by
    intro member
    obtain ⟨other, -, same⟩ := List.mem_map.mp member
    exact skippedOther path other same
  unfold readHistory
  split
  · exact List.not_mem_nil
  · exact List.not_mem_nil
  · exact List.not_mem_nil
  all_goals
    dsimp only
    split
    · refine List.not_mem_append (skipped _) ?_
      simp [readEntry, soundEntry]
    · exact skipped _

theorem remarksSilent {m : Message} {remarks : List Highlight.Remark} :
    soundEntry u ∉ remarks.map (remarkEntry m) := by
  intro member
  obtain ⟨remark, -, same⟩ := List.mem_map.mp member
  cases remark <;> cases congrArg (·.level) same

theorem outcomeSilent {showToast : Bool} {outcome : Notification.Outcome} :
    soundEntry u ∉ outcomeEntries showToast outcome := by
  cases outcome with
  | idle => exact List.not_mem_nil
  | suppressed key => simp [outcomeEntries, soundEntry]
  | delivered delivery =>
    intro member
    obtain ⟨signal, -, same⟩ := List.mem_map.mp member
    cases signal <;> cases congrArg (·.level) same

theorem eachSilent {s : Surroundings} {config : Config} {context : Highlight.Context}
    {focused : Bool} {place : Nat} {recent : Notification.Recent} {messages : List Message} :
    soundEntry u ∉ (highlightEach s config context focused place recent messages).logged := by
  induction messages generalizing place recent with
  | nil => exact List.not_mem_nil
  | cons m rest ih =>
    rw [highlightEach]
    dsimp only [markLogged]
    split
    · exact List.not_mem_append remarksSilent ih
    · exact List.not_mem_append (List.not_mem_append remarksSilent outcomeSilent) ih

end Later

section Start

variable {config : Config}

theorem startLogged {s : Surroundings} {path : String} {nick : Option String} {focused : Bool} :
    ∃ later,
      (highlights s config path nick focused).logged =
          (announced config).map soundEntry ++ later ∧
        ∀ u, soundEntry u ∉ later := by
  have silent : ∀ u, soundEntry u ∉ (readHistory s path).2 := fun _ => historySilent
  unfold highlights
  dsimp only
  split
  · rename_i failure logged history
    rw [history] at silent
    exact ⟨logged, rfl, silent⟩
  · rename_i messages logged history
    rw [history] at silent
    exact ⟨logged ++ _, List.append_assoc .., fun u => List.not_mem_append (silent u) eachSilent⟩

theorem sourceUrl {settings : Sound.Settings} {isFile : String → Bool} {u : Url} :
    (Sound.custom u).source settings isFile = .url u ↔ u.filePath? = none := by
  rw [Sound.source]
  split
  · rename_i found
    simp [found]
  · rename_i none
    simp [none]

/-- The announcements stand at the start of the log and nowhere else. Whether the sound of an address
is announced if and only if it is not played depends on its host: a file must have none, and any
other address must have one besides this one, unless its path does not start at the root. -/
theorem warnedSounds {text : String} (parsed : Config.parse text = .ok config) (s : Surroundings)
    (path : String) (nick : Option String) (focused : Bool) : ∃ later,
    (highlights s config path nick focused).logged =
      (announced config).map soundEntry ++ later ∧
    (∀ u, soundEntry u ∉ later) ∧
    ∀ u ∈ config.highlights.soundUrls,
      (u ∈ announced config ↔ (Sound.custom u).source config.sound s.isFile = .url u) ↔
        if u.scheme = "file" then u.host? = none else u.isRooted → u.isElsewhere := by
  obtain ⟨later, logged, silent⟩ := startLogged
  refine ⟨later, logged, silent, fun u member => ?_⟩
  obtain ⟨written, read⟩ := (Config.addressesRead parsed).soundUrls member
  have warned : u ∈ announced config ↔ u.scheme ≠ "file" := by simp [announced, member]
  rw [warned, sourceUrl, Url.parsedFilePath read]
  split
  · rename_i file
    simp [file]
  · rename_i other
    simp [other]

end Start

def sharedPing : Url :=
  { scheme := "smb", authority := some { host := some (.domain "localhost") }, path := "/ping.wav" }

def remotePing : Url :=
  { scheme := "file", authority := some { host := some (.ipv6 [0, 0, 0, 0, 0, 0, 0, 1]) }
    path := "/ping.wav" }

def pings : Config :=
  { highlights := {
      whisper := { enabled := true, alert := true, sound := true, soundUrl := some sharedPing }
      subscription := { soundUrl := some remotePing } } }

def pingsText : String :=
  "[highlights]\nwhisper = [true, true, true, 'smb://localhost/ping.wav']\n" ++
    "subscription.sound_url = 'file://[::1]/ping.wav'\n"

def nowhere : Surroundings :=
  { entry := fun _ => .missing, configFolder := .unavailable, logFailure := none, now := ⟨0, 0⟩ }

-- One sound is announced and yet played, the other is neither.
set_option maxRecDepth 10000 in
theorem pingsMisjudged :
    Config.parse pingsText = .ok pings ∧ announced pings = [sharedPing] ∧
      (Sound.custom sharedPing).source pings.sound nowhere.isFile ≠ .url sharedPing ∧
      (Sound.custom remotePing).source pings.sound nowhere.isFile = .url remotePing := by
  have parsed : Config.parse pingsText = .ok pings := by cbv
  obtain ⟨later, -, -, judged⟩ := warnedSounds parsed nowhere "history" none false
  have listed : announced pings = [sharedPing] := by decide
  have shared := (judged sharedPing (by decide)).trans (iff_of_eq (if_neg (by decide)))
  have remote := (judged remotePing (by decide)).trans (iff_of_eq (if_pos rfl))
  refine ⟨parsed, listed, fun unplayed => ?_, ?_⟩
  · have agree : sharedPing ∈ announced pings := by simp [listed]
    obtain ⟨h, here, elsewhere⟩ := shared.mp (iff_of_true agree unplayed) rfl
    cases here
    exact elsewhere rfl
  · have silent : remotePing ∉ announced pings := by simp [listed, remotePing, sharedPing]
    refine Classical.byContradiction fun played => ?_
    cases remote.mp (iff_of_false silent played)

end Scrollback.CommandLine
