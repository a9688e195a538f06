import Mathlib
import Scrollback.Proofs.CommandLine.Runs

/-! What the highlighting of a history prints. The notifications that it sends meanwhile leave no
trace there: neither what was sent before nor what a configuration says of them is seen in a line. -/
namespace Scrollback.CommandLine

-- A line for each message with a highlight, in order.
def listed (s : Surroundings) (c : Highlight.Context) (messages : List Message) : List String :=
  (messages.filter fun m => Highlight.resolve c m ≠ {}).map fun m =>
    messageLine s ((Highlight.resolve c m).apply m) ++ " " ++ describe (Highlight.resolve c m)

-- Of its surroundings a line shows nothing but the zone.
theorem listedZone {s₁ s₂ : Surroundings} (zone : s₁.zone = s₂.zone) (c : Highlight.Context)
    (messages : List Message) : listed s₁ c messages = listed s₂ c messages := by
  have line (m : Message) : messageLine s₁ m = messageLine s₂ m := by
    rw [messageLine, messageLine, Surroundings.localTime, Surroundings.localTime, zone]
  simp only [listed, line]

section Listing

variable {s s₁ s₂ : Surroundings} {config config₁ config₂ : Config} {args₁ args₂ : List String}
  {path path₁ path₂ : String} {nick : Option String} {focused focused₁ focused₂ : Bool}
  {content : List UInt8}

theorem eachPrinted (c : Highlight.Context) (place : Nat) (recent : Notification.Recent)
    (messages : List Message) :
    (highlightEach s config c focused place recent messages).printed = listed s c messages := by
  induction messages generalizing place recent with
  | nil => rfl
  | cons m rest ih =>
    rw [highlightEach]
    dsimp only [markLogged, Highlight.Context.mark]
    split
    · rename_i plain
      rw [ih, listed, listed, List.filter_cons_of_neg (by simpa using plain)]
    · rename_i stands
      rw [ih, listed, listed, List.filter_cons_of_pos (by simpa using stands)]
      rfl

theorem highlightsLegible (held : (s.entry path).bytes = .ok content)
    (legible : History.Legible content) : (highlights s config path nick focused).printed =
      listed s (.create config.highlights nick) (History.messages s.now content) := by
  rw [highlights, historyLegible held legible]
  exact eachPrinted _ _ _ _

theorem highlightsIllegible (held : (s.entry path).bytes = .ok content)
    (illegible : ¬History.Legible content) :
    (highlights s config path nick focused).printed = [] := by
  rw [highlights, historyIllegible held illegible]

theorem stampedMessages (stamped : ∀ r ∈ History.records content, r.timestamp.isSome)
    (now later : Timestamp) : History.messages now content = History.messages later content := by
  refine List.map_congr_left fun r member => ?_
  obtain ⟨t, known⟩ := Option.isSome_iff_exists.mp (stamped r member)
  rw [Received.toMessage, Received.toMessage, known]
  rfl

/-- Two highlightings of a history with the same rules and in the same zone print the same, with a
line for each message that has a highlight and no other line. When the notifications were made is
not seen either. A history with a line that is no text is read to no end, and nothing is printed of
it. -/
theorem listingsAgree (first : Started s₁ args₁ config₁ (.highlights path₁ nick focused₁))
    (second : Started s₂ args₂ config₂ (.highlights path₂ nick focused₂))
    (agree : config₁.highlights = config₂.highlights) (zone : s₁.zone = s₂.zone)
    (held₁ : (s₁.entry path₁).bytes = .ok content) (held₂ : (s₂.entry path₂).bytes = .ok content)
    (stamped : ∀ r ∈ History.records content, r.timestamp.isSome) :
    (run s₁ args₁).printed = (run s₂ args₂).printed ∧
    (History.Legible content → (run s₁ args₁).printed =
      listed s₁ (.create config₁.highlights nick) (History.messages s₁.now content)) ∧
    (¬History.Legible content → (run s₁ args₁).printed = []) := by
  rw [(runStarted first).2, (runStarted second).2, execute, execute]
  refine ⟨?_, highlightsLegible held₁, highlightsIllegible held₁⟩
  by_cases legible : History.Legible content
  · rw [highlightsLegible held₁ legible, highlightsLegible held₂ legible, agree,
      stampedMessages stamped s₁.now s₂.now, listedZone zone]
  · rw [highlightsIllegible held₁ legible, highlightsIllegible held₂ legible]

end Listing

def subscriber : String :=
  "[\"#a\",\"ann\",\"hi\",\x7b\x7d,[\"subscription\"],\"received\",\"2024-01-01T00:00:00Z\"]"

def hall (configText : String) : Surroundings where
  entry
    | "hall" => .file (History.bytes subscriber)
    | "torn" => .file (0xFF :: 0x0A :: History.bytes subscriber)
    | _ => .missing
  configFolder := .available (.file (History.bytes configText)) true
  logFailure := none
  now := ⟨0, 0⟩

def loudText : String := "[highlights.subscription]\nenabled = true\nalert = true\n"

def loud : Config := { highlights := { subscription := { enabled := true, alert := true } } }

def quietText : String := loudText ++ "[notifications.highlight]\nmuted = true\n"

def quiet : Config := { loud with notifications := { muted := true } }

theorem subscriberRead : History.record? subscriber = some {
    channel := "#a", author := "ann", text := "hi", flags := [.subscription]
    timestamp := some ⟨1704067200, 0⟩ } :=
  History.recordRead (by cbv) (by cbv)

theorem hallRecords : History.records (History.bytes subscriber) =
    [{ channel := "#a", author := "ann", text := "hi", flags := [.subscription]
       timestamp := some ⟨1704067200, 0⟩ }] := by
  have single : History.lines subscriber = [subscriber] := by cbv
  rw [(History.readWhole ⟨0, 0⟩ subscriber).2.1, single, List.filterMap_cons, subscriberRead]
  rfl

theorem tornLines {line : List UInt8} (filled : line ≠ []) (single : line.splitOn 0x0A = [line]) :
    History.splitLines (0xFF :: 0x0A :: line) = [[0xFF], line] := by
  have pieces : (0xFF :: 0x0A :: line).splitOn 0x0A = [[0xFF], line] :=
    (List.splitOn_append_cons_self [0xFF] line).trans (by rw [single]; rfl)
  rw [History.splitLines, pieces]
  cases line with
  | nil => exact absurd rfl filled
  | cons byte line => rfl

theorem tornSplit : History.splitLines (0xFF :: 0x0A :: History.bytes subscriber) =
    [[0xFF], History.bytes subscriber] := by
  refine tornLines (History.bytesFilled (by simp [subscriber])) ?_
  have alone : subscriber.toList.splitOn '\n' = [subscriber.toList] := by cbv
  rw [History.bytesEncode, History.encodeSplit, alone, List.map_singleton]

theorem tornRecords : History.records (0xFF :: 0x0A :: History.bytes subscriber) =
    History.records (History.bytes subscriber) := by
  have none : Disk.decode? [0xFF] = none := by decide +kernel
  rw [hallRecords, History.records, tornSplit, List.filterMap_cons, none, List.filterMap_cons,
    History.decodeBytes]
  dsimp only [Option.bind]
  rw [subscriberRead]
  rfl

theorem hallTorn : ¬History.Legible (0xFF :: 0x0A :: History.bytes subscriber) := by
  intro legible
  rw [History.Legible, tornSplit] at legible
  exact absurd (legible [0xFF] (.head _)) (by decide +kernel)

theorem loudConfig : loadConfig (hall loudText) none = .ok loud := configFound rfl (by cbv)

theorem quietConfig : loadConfig (hall quietText) none = .ok quiet := configFound rfl (by cbv)

set_option maxRecDepth 20000 in
theorem subscriberListed (configText : String) (content : List UInt8)
    (records : History.records content = History.records (History.bytes subscriber)) :
    listed (hall configText) (.create loud.highlights none) (History.messages ⟨0, 0⟩ content) =
      ["00:00:00 * #a <ann> hi [highlighted, alert, color #c466ff]"] := by
  rw [History.messages, records, hallRecords]
  cbv

-- Muted and with the window in front, yet the same line.
theorem mutedListed :
    (run (hall loudText) ["highlights", "hall"]).printed =
        ["00:00:00 * #a <ann> hi [highlighted, alert, color #c466ff]"] ∧
      (run (hall quietText) ["highlights", "--focused", "hall"]).printed =
        ["00:00:00 * #a <ann> hi [highlighted, alert, color #c466ff]"] := by
  have first : Started (hall loudText) ["highlights", "hall"] loud (.highlights "hall" none false) :=
    ⟨none, false, by cbv, loudConfig, .inr rfl⟩
  have second : Started (hall quietText) ["highlights", "--focused", "hall"] quiet
      (.highlights "hall" none true) :=
    ⟨none, false, by cbv, quietConfig, .inr rfl⟩
  obtain ⟨same, printed, -⟩ :=
    listingsAgree first second rfl rfl rfl rfl (by rw [hallRecords]; simp)
  have line := (printed (History.readWhole ⟨0, 0⟩ subscriber).1).trans (subscriberListed _ _ rfl)
  exact ⟨line, same.symm.trans line⟩

/-- Not every history with times is listed: a line that is no text takes all the others with it. -/
theorem tornUnlisted :
    Started (hall loudText) ["highlights", "torn"] loud (.highlights "torn" none false) ∧
      ((hall loudText).entry "torn").bytes = .ok (0xFF :: 0x0A :: History.bytes subscriber) ∧
      (∀ r ∈ History.records (0xFF :: 0x0A :: History.bytes subscriber), r.timestamp.isSome) ∧
      listed (hall loudText) (.create loud.highlights none)
          (History.messages (hall loudText).now (0xFF :: 0x0A :: History.bytes subscriber)) =
        ["00:00:00 * #a <ann> hi [highlighted, alert, color #c466ff]"] ∧
      (run (hall loudText) ["highlights", "torn"]).printed = [] := by
  have started : Started (hall loudText) ["highlights", "torn"] loud
      (.highlights "torn" none false) :=
    ⟨none, false, by cbv, loudConfig, .inr rfl⟩
  refine ⟨started, rfl, by rw [tornRecords, hallRecords]; simp, subscriberListed _ _ tornRecords, ?_⟩
  rw [(runStarted started).2]
  exact highlightsIllegible rfl hallTorn

end Scrollback.CommandLine
