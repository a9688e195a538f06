import Scrollback.Proofs.CommandLine.Searches

/-! The lines that a search prints, as they are told apart afterwards. What a message says is
printed as it is, so a line feed in it ends a line like any other. -/
namespace Scrollback.CommandLine

-- What is printed is written with a line feed at its end, whatever it holds itself.
def Outcome.output (o : Outcome) : String :=
  String.ofList (o.printed.flatMap fun text => text.toList ++ ['\n'])

-- No line follows the last line feed.
def Outcome.lines (o : Outcome) : List String := (History.lines o.output).dropLast

def feeds (text : String) : Nat := text.toList.count '\n'

section Feeds

variable {text : String}

@[simp] theorem feedsAppend (a b : String) : feeds (a ++ b) = feeds a + feeds b := by
  rw [feeds, String.toList_append, List.count_append, feeds, feeds]

theorem feedsNone : feeds text = 0 ↔ '\n' ∉ text.toList := List.count_eq_zero

theorem linesPrinted (o : Outcome) : o.lines = o.printed.flatMap History.lines := by
  have pieces (texts : List String) :
      (texts.flatMap fun text => text.toList ++ ['\n']).splitOn '\n' =
        texts.flatMap (fun text => text.toList.splitOn '\n') ++ [[]] := by
    induction texts with
    | nil => rfl
    | cons text texts ih =>
      rw [List.flatMap_cons, List.append_assoc, List.singleton_append,
        List.splitOn_append_cons_self, ih, List.flatMap_cons, List.append_assoc]
  rw [Outcome.lines, Outcome.output, History.lines, String.toList_ofList, pieces, List.map_append,
    List.map_singleton, List.dropLast_concat, List.map_flatMap]
  rfl

theorem linesCounted (o : Outcome) :
    o.lines.length = o.printed.length + (o.printed.map feeds).sum := by
  rw [linesPrinted]
  induction o.printed with
  | nil => rfl
  | cons text texts ih =>
    rw [List.flatMap_cons, List.length_append, ih, History.linesLength, List.length_cons,
      List.map_cons, List.sum_cons, feeds]
    omega

end Feeds

section Texts

-- A digit is no line feed.
theorem paddedFeeds (width n : Nat) : feeds (Timestamp.padded width n) = 0 := by
  rw [feedsNone, Timestamp.padded, String.toList_ofList, List.mem_append, List.mem_replicate]
  rintro (⟨-, same⟩ | member)
  · contradiction
  · have digit := Nat.isDigit_of_mem_toDigits (by decide) (by decide) member
    contradiction

theorem clockFeeds (t : Timestamp) : feeds t.writeClock = 0 := by
  have colon : feeds ":" = 0 := by decide
  simp only [Timestamp.writeClock, feedsAppend, paddedFeeds, colon]

-- What a message says of itself in its line.
def spoken (m : Message) : List String := [m.channel, m.author, m.text]

def Unbroken (m : Message) : Prop := ∀ text ∈ spoken m, '\n' ∉ text.toList

theorem lineFeeds (s : Surroundings) (m : Message) :
    feeds (messageLine s m) = ((spoken m).map feeds).sum := by
  have mark : feeds (if m.has .highlighted then "*" else " ") = 0 := by split <;> decide
  have blank : feeds " " = 0 := by decide
  have opening : feeds " <" = 0 := by decide
  have closing : feeds "> " = 0 := by decide
  simp only [messageLine, feedsAppend, clockFeeds, mark, blank, opening, closing, spoken,
    List.map_cons, List.map_nil, List.sum_cons, List.sum_nil]
  omega

theorem linesFeeds (s : Surroundings) (found : List Message) :
    (found.map (messageLine s)).map feeds = found.map fun m => ((spoken m).map feeds).sum := by
  simp only [List.map_map, Function.comp_def, lineFeeds]

theorem unbrokenFeeds {m : Message} : ((spoken m).map feeds).sum = 0 ↔ Unbroken m := by
  simp only [List.sum_eq_zero_iff_forall_eq_nat, List.forall_mem_map, feedsNone, Unbroken]

theorem titleFeeds (channel : String) :
    feeds ({ channel } : Search.Session).title = feeds channel := by
  have opening : feeds "Searching in " = 0 := by decide
  have closing : feeds " history" = 0 := by decide
  rw [Search.Session.title]
  dsimp only
  rw [feedsAppend, feedsAppend, opening, closing]
  split
  · decide
  · decide
  · decide
  · rw [feedsAppend]
    have genitive : feeds "'s" = 0 := by decide
    omega

end Texts

section Search

variable {s : Surroundings} {args : List String} {config : Config} {command : Command}
  {named : Option String} {debug : Bool} {path query channel : String} {words : List String}
  {nick : Option String}

theorem failureCode (failure : Failure) : failure.code ≠ 0 := by
  cases failure <;> simp [Failure.code]

-- Nothing went wrong in a run that ends well.
theorem runFine (asked : parse args = .run ⟨named, debug, command⟩)
    (fine : (run s args).code = 0) :
    ∃ config, loadConfig s named = .ok config ∧ Started s args config command ∧
      (execute s config command).failure = none := by
  obtain ⟨config, loaded, writes⟩ :
      ∃ config, loadConfig s named = .ok config ∧ (debug = true ∨ s.logFailure = none) := by
    rw [run, asked] at fine
    dsimp only [runCommand] at fine
    split at fine
    · exact absurd fine (failureCode _)
    · rename_i config loaded
      refine ⟨config, loaded, ?_⟩
      cases debug with
      | true => exact .inl rfl
      | false =>
        cases failing : s.logFailure with
        | none => exact .inr rfl
        | some cause =>
          rw [failing] at fine
          exact absurd fine (failureCode (.disk cause))
  have started : Started s args config command := ⟨named, debug, asked, loaded, writes⟩
  refine ⟨config, loaded, started, ?_⟩
  rw [(runStarted started).1] at fine
  cases failed : (execute s config command).failure with
  | none => rfl
  | some failure =>
    rw [failed] at fine
    exact absurd fine (failureCode failure)

theorem searchFine (fine : (search s config path query channel nick).failure = none) :
    ∃ content, (s.entry path).bytes = .ok content ∧ History.Legible content := by
  cases held : (s.entry path).bytes with
  | ok content =>
    refine ⟨content, rfl, ?_⟩
    by_contra illegible
    rw [(searchIllegible held illegible).1] at fine
    contradiction
  | error cause =>
    rw [search, readHistory] at fine
    cases found : s.entry path with
    | missing | folder | blocked =>
      rw [found] at fine
      contradiction
    | file | stream =>
      rw [found] at held
      contradiction

/-- The lines of a search that ends well are those of its title and then those of one text for each
message that was found. There is one line more than there are messages, and another one for each
line feed in the channel that is named by the title and in the channels, authors and texts of the
messages; so it is one line for each message if and only if there is none. -/
theorem searchLines (asked : parse args = .run ⟨named, debug, .search path words channel nick⟩)
    (fine : (run s args).code = 0) :
    ∃ config content, loadConfig s named = .ok config ∧ (s.entry path).bytes = .ok content ∧
      let found := (newest (max config.limit 1) (marked s config nick content)).filter
        (wanted (" ".intercalate words) config.ignore)
      (run s args).lines =
        (({ channel } : Search.Session).title :: found.map (messageLine s)).flatMap History.lines ∧
      (run s args).lines.length =
        found.length + 1 + (feeds channel + (found.map fun m => ((spoken m).map feeds).sum).sum) ∧
      ((run s args).lines.length = found.length + 1 ↔
        '\n' ∉ channel.toList ∧ ∀ m ∈ found, Unbroken m) := by
  obtain ⟨config, loaded, started, well⟩ := runFine asked fine
  obtain ⟨content, held, legible⟩ := searchFine well
  refine ⟨config, content, loaded, held, ?_⟩
  dsimp only
  have printed := (runStarted started).2.trans (searchLegible held legible).2
  generalize (newest (max config.limit 1) (marked s config nick content)).filter
    (wanted (" ".intercalate words) config.ignore) = found at printed ⊢
  have counted : (run s args).lines.length =
      found.length + 1 + (feeds channel + (found.map fun m => ((spoken m).map feeds).sum).sum) := by
    rw [linesCounted, printed, List.length_cons, List.length_map, List.map_cons, List.sum_cons,
      titleFeeds, linesFeeds]
  refine ⟨?_, counted, ?_⟩
  · rw [linesPrinted, printed]
  · rw [counted, Nat.add_eq_left, Nat.add_eq_zero_iff, feedsNone,
      List.sum_eq_zero_iff_forall_eq_nat]
    simp only [List.forall_mem_map, unbrokenFeeds]

end Search

def forgery : String :=
  "[\"#a\",\"ann\",\"hi\\n00:00:00   #a <bob> ho\",\x7b\x7d,[],\"received\"," ++
    "\"2024-01-01T00:00:00Z\"]"

def forger : Surroundings where
  entry
    | "forgery" => .file (History.bytes forgery)
    | _ => .missing
  configFolder := .available (.file (History.bytes "")) true
  logFailure := none
  now := ⟨0, 0⟩

def forgeryFound : List Message :=
  (newest (max ({} : Config).limit 1) (marked forger {} none (History.bytes forgery))).filter
    (wanted (" ".intercalate []) ({} : Config).ignore)

theorem forgerConfig : loadConfig forger none = .ok {} := configFound rfl (by cbv)

theorem forgeryRecords : History.records (History.bytes forgery) =
    [{ channel := "#a", author := "ann", text := "hi\n00:00:00   #a <bob> ho"
       timestamp := some ⟨1704067200, 0⟩ }] := by
  have single : History.lines forgery = [forgery] := by cbv
  rw [(History.readWhole ⟨0, 0⟩ forgery).2.1, single, List.filterMap_cons,
    History.recordRead (by cbv) (by cbv)]
  rfl

set_option maxRecDepth 20000 in
theorem forgeryPrinted : forgeryFound.map (messageLine forger) =
    ["00:00:00   #a <ann> hi\n00:00:00   #a <bob> ho"] := by
  have unasked : Search.parse (" ".intercalate []) = [] := by
    rw [Search.parse, Search.Token.listScanned (Search.Token.shortScanned (by decide))]
    cbv
  have all : ∀ m, wanted (" ".intercalate []) ({} : Config).ignore m = true :=
    fun m => by rw [wanted, unasked]; rfl
  rw [forgeryFound, List.filter_eq_self.mpr fun m _ => all m, marked, History.messages,
    forgeryRecords]
  cbv

theorem forgeryRun {args : List String} {channel : String}
    (asked : parse args = .run ⟨none, false, .search "forgery" [] channel none⟩) :
    (run forger args).code = 0 ∧ (run forger args).printed =
      [({ channel } : Search.Session).title, "00:00:00   #a <ann> hi\n00:00:00   #a <bob> ho"] := by
  have started : Started forger args {} (.search "forgery" [] channel none) :=
    ⟨none, false, asked, forgerConfig, .inr rfl⟩
  have legible := (History.readWhole forger.now forgery).1
  have held : (forger.entry "forgery").bytes = .ok (History.bytes forgery) := rfl
  obtain ⟨well, printed⟩ : (search forger {} "forgery" (" ".intercalate []) channel none).failure =
        none ∧
      (search forger {} "forgery" (" ".intercalate []) channel none).printed =
        ({ channel } : Search.Session).title :: forgeryFound.map (messageLine forger) :=
    searchLegible held legible
  obtain ⟨code, output⟩ := runStarted started
  constructor
  · rw [code, execute, well]
    rfl
  · rw [output, execute, printed]
    exact congrArg (_ :: ·) forgeryPrinted

-- One message, but a line feed in the title and another one in the text.
theorem feedsCounted :
    parse ["search", "--channel", "a\nb", "forgery"] =
        .run ⟨none, false, .search "forgery" [] "a\nb" none⟩ ∧
      (run forger ["search", "--channel", "a\nb", "forgery"]).code = 0 ∧
      (run forger ["search", "--channel", "a\nb", "forgery"]).lines.length = 4 := by
  have asked : parse ["search", "--channel", "a\nb", "forgery"] =
      .run ⟨none, false, .search "forgery" [] "a\nb" none⟩ := by cbv
  have fine := (forgeryRun asked).1
  obtain ⟨config, content, loaded, held, -, counted, -⟩ := searchLines asked fine
  have known : (forger.entry "forgery").bytes = .ok (History.bytes forgery) := by
    simp only [forger, Disk.Entry.bytes]
  obtain rfl := Except.ok.inj (forgerConfig.symm.trans loaded)
  obtain rfl := Except.ok.inj (known.symm.trans held)
  have found : forgeryFound.length = 1 := by
    have count := congrArg List.length forgeryPrinted
    rwa [List.length_map] at count
  have told : (forgeryFound.map fun m => ((spoken m).map feeds).sum) = [1] := calc
    _ = (forgeryFound.map (messageLine forger)).map feeds := (linesFeeds forger forgeryFound).symm
    _ = ["00:00:00   #a <ann> hi\n00:00:00   #a <bob> ho"].map feeds := by rw [forgeryPrinted]
    _ = [1] := by decide
  rw [← forgeryFound, found, told] at counted
  have four : 1 + 1 + (feeds "a\nb" + [1].sum) = 4 := by decide
  exact ⟨asked, fine, counted.trans four⟩

/-- Not every search prints one line for each message: a text can hold a line of its own making. -/
theorem forgedLine :
    parse ["search", "forgery"] = .run ⟨none, false, .search "forgery" [] "" none⟩ ∧
      loadConfig forger none = .ok {} ∧
      (run forger ["search", "forgery"]).code = 0 ∧ forgeryFound.length = 1 ∧
      (run forger ["search", "forgery"]).lines =
        ["Searching in <empty>'s history", "00:00:00   #a <ann> hi", "00:00:00   #a <bob> ho"] := by
  have asked : parse ["search", "forgery"] = .run ⟨none, false, .search "forgery" [] "" none⟩ := by
    cbv
  obtain ⟨fine, printed⟩ := forgeryRun asked
  refine ⟨asked, forgerConfig, fine, ?_, ?_⟩
  · have count := congrArg List.length forgeryPrinted
    rwa [List.length_map] at count
  · rw [linesPrinted, printed]
    cbv

end Scrollback.CommandLine
