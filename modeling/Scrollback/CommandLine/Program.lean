import Scrollback.CommandLine.Arguments
import Scrollback.CommandLine.Outline
import Scrollback.Config.Reader
import Scrollback.Highlight.Resolve
import Scrollback.History.Reader
import Scrollback.Ignore
import Scrollback.Search.Session

/-!
What the program does with its arguments and with what it finds on the disk: what it prints, what
it logs and how it ends.
-/

namespace Scrollback.CommandLine

def programName : String := "hark"

def version : String := "0.1.0"

inductive ConfigFolder where
  | unavailable
  -- What is found there in place of the configuration, and whether a template can be put beside
  -- it.
  | available (config : Disk.Entry) (takesTemplate : Bool)

structure Surroundings where
  entry : String → Disk.Entry
  configFolder : ConfigFolder
  logFailure : Option Disk.Failure
  now : Timestamp
  -- How many seconds local time is ahead at a second of universal time.
  zone : Int → Int := fun _ => 0
  -- The time at which the notification about a message is made, by the place of the message.
  notifiedAt : Nat → Instant := fun _ => ⟨now.second * 1000000000 + now.nano⟩

namespace Surroundings

def isFile (s : Surroundings) (path : String) : Bool := (s.entry path).isFile

def localTime (s : Surroundings) (t : Timestamp) : Timestamp := t.ahead (s.zone t.second)

end Surroundings

inductive Failure where
  | load (path : String)
  | loadConfig
  | openHistory (path : String)
  | disk (cause : Disk.Failure)
  | crash
  deriving DecidableEq, Repr

def Failure.message? : Failure → Option String
  | .load path => some ("failed to load " ++ path)
  | .loadConfig => some "failed to load config"
  | .openHistory path => some ("failed to open " ++ path)
  | .disk cause => some cause.message
  | .crash => none

def Failure.code : Failure → Nat
  | .crash => 101
  | _ => 1

structure Effect where
  printed : List String := []
  logged : List Log.Entry := []
  failure : Option Failure := none

/-! Configuration. -/

def configFailure (named : Failure) : Config.Error → Failure
  | .splitCharacter => .crash
  | _ => named

def loadConfig (s : Surroundings) : Option String → Except Failure Config
  | some path => (Config.load (s.entry path)).mapError (configFailure (.load path))
  | none =>
    match s.configFolder with
    | .unavailable => .error .loadConfig
    | .available entry _ =>
      match Config.load entry with
      | .error (.unreadable _) => .ok {}
      | loaded => loaded.mapError (configFailure .loadConfig)

def leavesTemplate (s : Surroundings) (named : Option String) : Bool :=
  match named, s.configFolder with
  | none, .available .missing takesTemplate => takesTemplate
  | _, _ => false

/-! What is logged. -/

def startEntry : Log.Entry := ⟨.info, programName ++ " (" ++ version ++ ") has started"⟩

def stageName : Highlight.Stage → String
  | .subscription => "subscription"
  | .blocked => "blocked"
  | .whisper => "whisper"
  | .users => "users"
  | .ownMessage => "own message"
  | .phrases => "phrases"
  | .badges => "badges"

def gaveUpText : String := "Error executing regex: Max limit for backtracking count exceeded"

def remarkEntry (m : Message) : Highlight.Remark → Log.Entry
  | .userRule => ⟨.debug, "highlight because user " ++ m.author ++ " sent a message"⟩
  | .gaveUp source =>
    ⟨.debug, "highlight pattern " ++ Text.quoted source ++ " failed: " ++ gaveUpText⟩
  | .settled stage =>
    ⟨.trace, "highlight of message from " ++ m.author ++ " settled at " ++ stageName stage⟩

def markLogged (c : Highlight.Context) (m : Message) : (Message × Highlight) × List Log.Entry :=
  (c.mark m, (Highlight.draft c m).remarks.map (remarkEntry m))

def causeText : Json.Error → String
  | .malformed => "not a JSON text"
  | .incomplete => "unexpected end"
  | .mismatch => "not a message"

def skippedEntry (path : String) (skipped : Nat × Json.Error) : Log.Entry :=
  ⟨.warn, "skipping line " ++ toString skipped.1 ++ " of " ++ path ++ ": " ++ causeText skipped.2⟩

def readEntry (path : String) (count : Nat) : Log.Entry :=
  ⟨.debug, "read " ++ toString count ++ " messages from " ++ path⟩

def rejectedEntry (rejected : String × Ignore.Error) : Log.Entry :=
  ⟨.warn, "ignoring filter " ++ Text.quoted rejected.1 ++ ": " ++ rejected.2.message⟩

def predicateEntry? : Search.Predicate → Option Log.Entry
  | .regex p =>
    if p.isValid then none
    else some ⟨.debug, "invalid search regex " ++ Text.quoted p.source ++ ": invalid pattern"⟩
  | _ => none

def searchEntry (s : Search.Session) (predicates : List Search.Predicate) : Log.Entry :=
  ⟨.trace, "searching " ++ toString s.snapshot.size ++ " messages in " ++ Text.quoted s.channel
    ++ " with " ++ toString predicates.length ++ " predicates"⟩

def matchedEntry (found total : Nat) (query : String) : Log.Entry :=
  ⟨.info, toString found ++ " of " ++ toString total ++ " messages matched " ++ Text.quoted query⟩

def soundEntry (u : Url) : Log.Entry :=
  ⟨.warn, "sound " ++ u.write ++ " is not a local file and won't be played"⟩

/- A signal is only logged: toasts and sounds are left to the desktop. -/
def signalEntry (showToast : Bool) : Notification.Signal → Log.Entry
  | .play source => ⟨.info, "playing " ++ Outline.source source ++ " (audio support disabled)"⟩
  | .alert title body =>
    ⟨.info, (if showToast then "notification: " else "alert: ") ++ title ++ ": " ++ body⟩

def outcomeEntries (showToast : Bool) : Notification.Outcome → List Log.Entry
  | .idle => []
  | .suppressed key => [⟨.trace, "suppressing repeated notification " ++ Outline.key key⟩]
  | .delivered delivery => delivery.signals.map (signalEntry showToast)

/-! What is printed. -/

def messageLine (s : Surroundings) (m : Message) : String :=
  (s.localTime m.timestamp).writeClock ++ " " ++ (if m.has .highlighted then "*" else " ") ++ " "
    ++ m.channel ++ " <" ++ m.author ++ "> " ++ m.text

def describe (h : Highlight) : String :=
  let sound := h.sound.map fun
    | .custom u => "sound " ++ u.write
    | .fallback => "sound"
  let parts :=
    (if h.highlighted then ["highlighted"] else []) ++ (if h.alert then ["alert"] else [])
      ++ sound.toList ++ (h.color.map fun c => "color " ++ c.write).toList
      ++ (if h.showInMentions then ["mention"] else [])
  "[" ++ ", ".intercalate parts ++ "]"

/-! Commands. -/

def readHistory (s : Surroundings) (path : String) :
    Except Failure (List Message) × List Log.Entry :=
  match s.entry path with
  | .missing | .blocked => (.error (.openHistory path), [])
  | .folder => (.error (.disk .folder), [])
  | .file content | .stream content =>
    let r := History.read s.now content
    let skipped := r.skipped.map (skippedEntry path)
    if r.complete then (.ok r.messages, skipped ++ [readEntry path r.messages.length])
    else (.error (.disk .notText), skipped)

def search (s : Surroundings) (config : Config) (path query channel : String)
    (nick : Option String) : Effect :=
  let context := Highlight.Context.create config.highlights nick
  match readHistory s path with
  | (.error failure, logged) => { logged, failure := some failure }
  | (.ok messages, logged) =>
    let marked := messages.map (markLogged context)
    let buffer := (Buffer.ofLimit config.limit).extend (marked.map (·.1.1))
    let chain := Ignore.Chain.ofEntries config.ignore
    let session := (Search.Session.ofBuffer channel buffer).setFurther
      (if chain.isEmpty then none else some chain.accepts)
    let predicates := Search.parse query
    let found := session.search query
    { printed := session.title :: found.messages.map (messageLine s)
      logged :=
        logged ++ marked.flatMap (·.2) ++ (Ignore.Chain.rejected config.ignore).map rejectedEntry
          ++ predicates.filterMap predicateEntry? ++ [searchEntry session predicates]
          ++ [matchedEntry found.messages.length buffer.size query] }

def highlightEach (s : Surroundings) (config : Config) (context : Highlight.Context)
    (focused : Bool) : Nat → Notification.Recent → List Message → Effect
  | _, _, [] => {}
  | place, recent, m :: rest =>
    let ((marked, h), remarks) := markLogged context m
    if h = {} then
      let more := highlightEach s config context focused (place + 1) recent rest
      { more with logged := remarks ++ more.logged }
    else
      let request : Notification.Request := {
        now := s.notifiedAt place, settings := config.notifications, sound := config.sound
        message := marked, highlight := h, focused }
      let (recent, outcome) := Notification.notify recent request s.isFile
      let more := highlightEach s config context focused (place + 1) recent rest
      { more with
        printed := (messageLine s marked ++ " " ++ describe h) :: more.printed
        logged := remarks ++ outcomeEntries config.notifications.showToast outcome ++ more.logged }

def highlights (s : Surroundings) (config : Config) (path : String) (nick : Option String)
    (focused : Bool) : Effect :=
  let context := Highlight.Context.create config.highlights nick
  let warnings := (config.highlights.soundUrls.filter (·.scheme != "file")).map soundEntry
  match readHistory s path with
  | (.error failure, logged) => { logged := warnings ++ logged, failure := some failure }
  | (.ok messages, logged) =>
    let effect := highlightEach s config context focused 0 {} messages
    { effect with logged := warnings ++ logged ++ effect.logged }

def execute (s : Surroundings) (config : Config) : Command → Effect
  | .search history query channel nick =>
    search s config history (" ".intercalate query) channel nick
  | .highlights history nick focused => highlights s config history nick focused

/-! The program. -/

inductive LogTarget where
  | nowhere | standardError | file
  deriving DecidableEq, Repr

structure Outcome where
  code : Nat := 0
  printed : List String := []
  failure : Option Failure := none
  logTarget : LogTarget := .nowhere
  logged : List Log.Entry := []
  leavesTemplate : Bool := false

def threshold (config : Config) (debug : Bool) : Log.Threshold :=
  if debug then some .trace else config.logThreshold

def runCommand (s : Surroundings) (a : Arguments) : Outcome :=
  let leavesTemplate := leavesTemplate s a.config
  let failed (failure : Failure) : Outcome :=
    { code := failure.code, failure := some failure, leavesTemplate }
  match loadConfig s a.config with
  | .error failure => failed failure
  | .ok config =>
    match a.debug, s.logFailure with
    | false, some cause => failed (.disk cause)
    | debug, _ =>
      let effect := execute s config a.command
      { code := (effect.failure.map Failure.code).getD 0
        printed := effect.printed
        failure := effect.failure
        logTarget := if debug then .standardError else .file
        logged := (startEntry :: effect.logged).filter fun e =>
          (threshold config debug).admits e.level
        leavesTemplate }

def run (s : Surroundings) (args : List String) : Outcome :=
  match parse args with
  | .run a => runCommand s a
  | .version => { printed := [programName ++ " " ++ version] }
  | .help level => { printed := helpLines level }
  | .misuse => { code := 2 }
where
  commonOptions : List String := [
    "      --config <CONFIG>  Configuration file, instead of the one in the config directory",
    "      --debug            Log everything to stderr"]
  helpLines : Level → List String
    | .program => [
        "Chat history search and highlight resolution", "",
        "Usage: hark [OPTIONS] <COMMAND>", "", "Commands:",
        "  search      Search a message history, one JSON message per line",
        "  highlights  Resolve and dispatch the highlights of a message history",
        "  help        Print this message or the help of the given subcommand(s)", "",
        "Options:"] ++ commonOptions ++ [
        "  -h, --help             Print help",
        "  -V, --version          Print version"]
    | .search => [
        "Search a message history, one JSON message per line", "",
        "Usage: hark search [OPTIONS] <HISTORY> [QUERY]...", "", "Arguments:",
        "  <HISTORY>   ", "  [QUERY]...  e.g. from:ann in:#rust has:link is:sub hello", "",
        "Options:"] ++ commonOptions ++ [
        "      --channel <CHANNEL>  Name of the searched history, shown in the title [default: ]",
        "      --nick <NICK>        Login name of the local user",
        "  -h, --help               Print help"]
    | .highlights => [
        "Resolve and dispatch the highlights of a message history", "",
        "Usage: hark highlights [OPTIONS] <HISTORY>", "", "Arguments:", "  <HISTORY>  ", "",
        "Options:"] ++ commonOptions ++ [
        "      --nick <NICK>      Login name of the local user",
        "      --focused          Behave as if the window had focus",
        "  -h, --help             Print help"]

end Scrollback.CommandLine
