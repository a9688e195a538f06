import Scrollback.Proofs.CommandLine.Runs
import Scrollback.Proofs.History.Newest
import Scrollback.Proofs.Ignore.Chains
import Scrollback.Proofs.Search.Queries

/-! What a search prints. Messages are marked before the oldest of them are let go, and a message
that is no longer kept is found by no query. -/
namespace Scrollback.CommandLine

-- The messages of a history with the highlights that they have under a configuration.
def marked (s : Surroundings) (config : Config) (nick : Option String) (content : List UInt8) :
    List Message :=
  let context := Highlight.Context.create config.highlights nick
  (History.messages s.now content).map fun m => (Highlight.resolve context m).apply m

theorem markedChannels (s : Surroundings) (config : Config) (nick : Option String)
    (content : List UInt8) : (marked s config nick content).map (·.channel) =
      (History.records content).map (·.channel) := by
  rw [marked, History.messages, List.map_map, List.map_map]
  rfl

-- A message answers to a query, and none of the entries that are valid has it ignored.
def wanted (query : String) (ignored : List String) (m : Message) : Bool :=
  (Search.parse query).all (·.accepts m) &&
    ignored.all fun entry => (Ignore.Filter.parse entry).toOption.all fun f => !f.hides m

section Search

variable {s : Surroundings} {args : List String} {config : Config}
  {path channel query : String} {words : List String} {nick : Option String}
  {content : List UInt8}

-- No test at all is made for a chain without filters, which accepts everything.
theorem furtherAccepts (chain : Ignore.Chain) (m : Message) :
    (if chain.isEmpty then none else some chain.accepts).all (· m) = chain.accepts m := by
  split
  · rename_i empty
    rw [Ignore.Chain.accepts, Ignore.Chain.hides, List.isEmpty_iff.mp empty]
    rfl
  · rfl

theorem searchLegible (held : (s.entry path).bytes = .ok content)
    (legible : History.Legible content) :
    (search s config path query channel nick).failure = none ∧
      (search s config path query channel nick).printed =
        ({ channel } : Search.Session).title ::
          ((newest (max config.limit 1) (marked s config nick content)).filter
            (wanted query config.ignore)).map (messageLine s) := by
  let context := Highlight.Context.create config.highlights nick
  let chain := Ignore.Chain.ofEntries config.ignore
  let buffer := (Buffer.ofLimit config.limit).extend
    (((History.messages s.now content).map (markLogged context)).map (·.1.1))
  have kept : buffer.messages = newest (max config.limit 1) (marked s config nick content) := by
    rw [Buffer.extendNewest, List.map_map]
    rfl
  have found : (Search.filter (Search.parse query) channel buffer.snapshot
      (if chain.isEmpty then none else some chain.accepts)).messages =
        (newest (max config.limit 1) (marked s config nick content)).filter
          (wanted query config.ignore) := by
    rw [Search.filter, Buffer.snapshot, kept]
    refine List.filter_congr fun m _ => ?_
    rw [furtherAccepts, Ignore.chainAccepts, wanted]
  rw [search, historyLegible held legible]
  refine ⟨rfl, ?_⟩
  rw [← found]
  rfl

theorem searchIllegible (held : (s.entry path).bytes = .ok content)
    (illegible : ¬History.Legible content) :
    (search s config path query channel nick).failure = some (.disk .notText) ∧
      (search s config path query channel nick).printed = [] := by
  rw [search, historyIllegible held illegible]
  exact ⟨rfl, rfl⟩

/-- A search of a history of which every line is text ends well, having printed its title and then a
line for each of the newest messages that answers to the query and is not ignored. No message is
printed if a line is no text. -/
theorem searchPrinted (started : Started s args config (.search path words channel nick))
    (held : (s.entry path).bytes = .ok content) :
    (History.Legible content → (run s args).code = 0 ∧ (run s args).printed =
      ({ channel } : Search.Session).title ::
        ((newest (max config.limit 1) (marked s config nick content)).filter
          (wanted (" ".intercalate words) config.ignore)).map (messageLine s)) ∧
    (¬History.Legible content → (run s args).code = 1 ∧ (run s args).printed = []) := by
  obtain ⟨code, printed⟩ := runStarted started
  rw [code, printed, execute]
  constructor
  · intro legible
    obtain ⟨fine, lines⟩ := searchLegible held legible
    rw [fine, lines]
    exact ⟨rfl, rfl⟩
  · intro illegible
    obtain ⟨failed, nothing⟩ := searchIllegible held illegible
    rw [failed, nothing]
    exact ⟨rfl, rfl⟩

end Search

def crowd : String := "[\"#a\",\"ann\",\"hi\"]\n[\"#b\",\"bob\",\"ho\"]\n"

def crowdText : String := "[history]\nlimit = 1\n"

-- The first three messages are about subscriptions.
def party : String :=
  "[\"#a\",\"ann\",\"hi\",\x7b\x7d,[\"subscription\"]]\n" ++
    "[\"#b\",\"bob\",\"ho\",\x7b\x7d,[\"subscription\"]]\n" ++
    "[\"#b\",\"eve\",\"ho\",\x7b\x7d,[\"subscription\"]]\n[\"#b\",\"cy\",\"ho\"]\n"

def partyText : String :=
  "[history]\nlimit = 3\n[filters]\nignore = ['eve']\n[highlights.subscription]\nenabled = true\n"

def partyConfig : Config where
  limit := 3
  ignore := ["eve"]
  highlights := { subscription := { enabled := true } }

-- Clocks are an hour ahead.
def crowded (configText : String) : Surroundings where
  entry
    | "crowd" => .file (History.bytes crowd)
    | "party" => .file (History.bytes party)
    | "torn" => .file [0x5B, 0xFF]
    | _ => .missing
  configFolder := .available (.file (History.bytes configText)) true
  logFailure := none
  now := ⟨0, 0⟩
  zone _ := 3600

theorem crowdConfigured : loadConfig (crowded crowdText) none = .ok { limit := 1 } :=
  configFound rfl (by cbv)

theorem partyConfigured : loadConfig (crowded partyText) none = .ok partyConfig :=
  configFound rfl (by cbv)

theorem crowdRecords : History.records (History.bytes crowd) =
    [{ channel := "#a", author := "ann", text := "hi" },
      { channel := "#b", author := "bob", text := "ho" }] := by
  have cut : History.lines crowd =
      ["[\"#a\",\"ann\",\"hi\"]", "[\"#b\",\"bob\",\"ho\"]", ""] := by
    cbv
  rw [(History.readWhole ⟨0, 0⟩ crowd).2.1, cut, List.filterMap_cons,
    History.recordRead (by cbv) (by decide), List.filterMap_cons,
    History.recordRead (by cbv) (by decide)]
  rfl

theorem partyRecords : History.records (History.bytes party) =
    [{ channel := "#a", author := "ann", text := "hi", flags := [.subscription] },
      { channel := "#b", author := "bob", text := "ho", flags := [.subscription] },
      { channel := "#b", author := "eve", text := "ho", flags := [.subscription] },
      { channel := "#b", author := "cy", text := "ho" }] := by
  have cut : History.lines party =
      ["[\"#a\",\"ann\",\"hi\",\x7b\x7d,[\"subscription\"]]",
        "[\"#b\",\"bob\",\"ho\",\x7b\x7d,[\"subscription\"]]",
        "[\"#b\",\"eve\",\"ho\",\x7b\x7d,[\"subscription\"]]", "[\"#b\",\"cy\",\"ho\"]", ""] := by
    cbv
  rw [(History.readWhole ⟨0, 0⟩ party).2.1, cut, List.filterMap_cons,
    History.recordRead (by cbv) (by decide), List.filterMap_cons,
    History.recordRead (by cbv) (by decide), List.filterMap_cons,
    History.recordRead (by cbv) (by decide), List.filterMap_cons,
    History.recordRead (by cbv) (by decide)]
  rfl

theorem tornIllegible : ¬History.Legible [0x5B, 0xFF] := by
  intro legible
  exact absurd (legible [0x5B, 0xFF] (by decide)) (by decide +kernel)

-- What the query and the ignored name leave of any messages.
theorem partyWanted (m : Message) : wanted (" ".intercalate ["is:highlighted"]) ["eve"] m =
    (m.has .highlighted && !Text.sameName "eve" m.author) := by
  have query : Search.parse (" ".intercalate ["is:highlighted"]) =
      [.flags (.ofList [.highlighted])] := by
    rw [Search.parse, Search.Token.listScanned (Search.Token.shortScanned (by decide))]
    cbv
  have ignored : Ignore.Filter.parse "eve" = .ok ⟨none, some "eve"⟩ :=
    Ignore.userRead ⟨by decide, by simp [Unicode.isBlank]⟩ (by decide)
  have flagged : m.flags.meets (.ofList [.highlighted]) = m.has .highlighted := by
    rw [Bool.eq_iff_iff, Flags.meets_iff]
    simp [Message.has]
  rw [wanted, query]
  simp [ignored, Search.Predicate.accepts, flagged, Ignore.Filter.hides, Except.toOption]

/- The oldest message is let go, one of those left is ignored and another one is not highlighted.
And nothing is printed of a history with a torn line. -/
set_option maxRecDepth 20000 in
theorem partyPrinted :
    Started (crowded partyText) ["search", "party", "is:highlighted"] partyConfig
        (.search "party" ["is:highlighted"] "" none) ∧
      (run (crowded partyText) ["search", "party", "is:highlighted"]).code = 0 ∧
      (run (crowded partyText) ["search", "party", "is:highlighted"]).printed =
        ["Searching in <empty>'s history", "01:00:00 * #b <bob> ho"] ∧
      (run (crowded partyText) ["search", "torn", "is:highlighted"]).code = 1 ∧
      (run (crowded partyText) ["search", "torn", "is:highlighted"]).printed = [] := by
  have started (path : String) (parsed : parse ["search", path, "is:highlighted"] =
      .run ⟨none, false, .search path ["is:highlighted"] "" none⟩) :
      Started (crowded partyText) ["search", path, "is:highlighted"] partyConfig
        (.search path ["is:highlighted"] "" none) :=
    ⟨none, false, parsed, partyConfigured, .inr rfl⟩
  have partyStarted := started "party" (by cbv)
  obtain ⟨code, printed⟩ := (searchPrinted partyStarted rfl).1 (History.readWhole ⟨0, 0⟩ party).1
  obtain ⟨failed, nothing⟩ := (searchPrinted (started "torn" (by cbv)) rfl).2 tornIllegible
  refine ⟨partyStarted, code, ?_, failed, nothing⟩
  have left : wanted (" ".intercalate ["is:highlighted"]) partyConfig.ignore =
      fun m => m.has .highlighted && !Text.sameName "eve" m.author := funext partyWanted
  rw [printed, left, marked, History.messages, partyRecords]
  cbv

section Room

variable {s : Surroundings} {args : List String} {config : Config} {path channel : String}
  {words : List String} {nick : Option String} {content : List UInt8}

/-- The room for messages is one for all channels. So the newest messages of a channel, as many as
there is room for, are all searched in if and only if no message of the channel was let go, or else
there is no message of another one left. -/
theorem channelsShareRoom (started : Started s args config (.search path words channel nick))
    (held : (s.entry path).bytes = .ok content) (legible : History.Legible content) :
    let room := max config.limit 1
    let searched := newest room (marked s config nick content)
    let channels := (History.records content).map (·.channel)
    (run s args).printed = ({ channel } : Search.Session).title ::
      (searched.filter (wanted (" ".intercalate words) config.ignore)).map (messageLine s) ∧
    ∀ c, (newest room ((marked s config nick content).filter (·.channel == c))).Sublist searched ↔
      c ∉ channels.take (channels.length - room) ∨ ∀ d ∈ newest room channels, d = c := by
  dsimp only
  refine ⟨(runStarted started).2.trans (searchLegible held legible).2, fun c => ?_⟩
  rw [← markedChannels s config nick content]
  exact newestKind Message.channel c

end Room

theorem crowdLeftOut :
    ¬(newest 1 ((marked (crowded crowdText) { limit := 1 } none (History.bytes crowd)).filter
        (·.channel == "#a"))).Sublist
      (newest 1 (marked (crowded crowdText) { limit := 1 } none (History.bytes crowd))) := by
  have started : Started (crowded crowdText) ["search", "crowd", "in:#a"] { limit := 1 }
      (.search "crowd" ["in:#a"] "" none) :=
    ⟨none, false, by cbv, crowdConfigured, .inr rfl⟩
  have shared := (channelsShareRoom started rfl (History.readWhole ⟨0, 0⟩ crowd).1).2 "#a"
  rw [crowdRecords] at shared
  intro among
  rcases shared.mp among with kept | only
  · exact kept (by decide)
  · exact absurd (only "#b" (by decide)) (by decide)

end Scrollback.CommandLine
