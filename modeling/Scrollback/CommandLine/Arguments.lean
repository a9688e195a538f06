/-!
Arguments of the program: options of two kinds, with and without a value, a command, and what the
command is about. Options of the program itself may stand on either side of the command.
-/

namespace Scrollback.CommandLine

inductive Command where
  | search (history : String) (query : List String) (channel : String) (nick : Option String)
  | highlights (history : String) (nick : Option String) (focused : Bool)
  deriving DecidableEq, Repr

structure Arguments where
  config : Option String
  debug : Bool
  command : Command
  deriving DecidableEq, Repr

inductive Level where
  | program | search | highlights
  deriving DecidableEq, Repr

def Level.ofCommand? : String → Option Level
  | "search" => some .search
  | "highlights" => some .highlights
  | _ => none

inductive Request where
  | run (arguments : Arguments)
  | version
  | help (level : Level)
  | misuse
  deriving DecidableEq, Repr

inductive Opt where
  | config | debug | channel | nick | focused | help | version
  deriving DecidableEq, Repr

namespace Opt

def ofName? (level : Level) (name : String) : Option Opt :=
  match level, name with
  | _, "config" => some .config
  | _, "debug" => some .debug
  | _, "help" => some .help
  | .program, "version" => some .version
  | .search, "channel" => some .channel
  | .search, "nick" | .highlights, "nick" => some .nick
  | .highlights, "focused" => some .focused
  | _, _ => none

def ofLetter? (level : Level) (letter : Char) : Option Opt :=
  match level, letter with
  | _, 'h' => some .help
  | .program, 'V' => some .version
  | _, _ => none

def takesValue : Opt → Bool
  | .config | .channel | .nick => true
  | _ => false

end Opt

structure Given where
  -- Options, each with its value. The value of an option that takes none is empty.
  options : List (Opt × String) := []
  positions : List String := []
  deriving DecidableEq, Repr

namespace Given

def value? (g : Given) (o : Opt) : Option String := g.options.lookup o

def has (g : Given) (o : Opt) : Bool := (g.value? o).isSome

def add? (g : Given) (o : Opt) (value : String) : Option Given :=
  if g.has o || (o == .config && value.isEmpty) then none
  else some { g with options := g.options ++ [(o, value)] }

def addPosition? (g : Given) (level : Level) (text : String) : Option Given :=
  let fits :=
    match level, g.positions with
    | .program, _ => false
    | _, [] => !text.isEmpty
    | .search, _ => true
    | .highlights, _ => false
  if fits then some { g with positions := g.positions ++ [text] } else none

end Given

inductive Reading where
  | ended (given : Given)
  | command (given : Given) (level : Level) (rest : List String)
  | answered (request : Request)

def splitValue (text : List Char) : String × Option String :=
  let name := text.takeWhile (· != '=')
  match text.drop name.length with
  | [] => (String.ofList name, none)
  | _ :: value => (String.ofList name, some (String.ofList value))

def readPlain (level : Level) : Given → List String → Reading
  | g, [] => .ended g
  | g, text :: rest =>
    match g.addPosition? level text with
    | some g => readPlain level g rest
    | none => .answered .misuse

def answerOf? (level : Level) : Opt → Option Request
  | .help => some (.help level)
  | .version => some .version
  | _ => none

def helpFor : List String → Request
  | [] => .help .program
  | [name] =>
    match Level.ofCommand? name with
    | some level => .help level
    | none => if name == "help" then .help .program else .misuse
  | _ => .misuse

inductive Step where
  | more (given : Given)
  | withValue (given : Given)
  | plain
  | command (level : Level)
  | help
  | answered (request : Request)

def Step.ofGiven (next : Given → Step) : Option Given → Step
  | some g => next g
  | none => .answered .misuse

def isOption (text : String) : Bool :=
  match text.toList with
  | '-' :: _ :: _ => true
  | _ => false

def longStep (level : Level) (g : Given) (text : List Char) (next : Option String) : Step :=
  let (name, value) := splitValue text
  match Opt.ofName? level name with
  | none => .answered .misuse
  | some o =>
    match o.takesValue, value, next with
    | true, some value, _ => .ofGiven .more (g.add? o value)
    | true, none, some value =>
      if isOption value then .answered .misuse else .ofGiven .withValue (g.add? o value)
    | false, none, _ =>
      match answerOf? level o with
      | some request => .answered request
      | none => .ofGiven .more (g.add? o "")
    | _, _, _ => .answered .misuse

def step (level : Level) (g : Given) (text : String) (next : Option String) : Step :=
  match level, Level.ofCommand? text with
  | .program, some command => .command command
  | _, _ =>
    if level == .program && text == "help" then .help
    else
      match text.toList with
      | ['-', '-'] => .plain
      | '-' :: '-' :: long => longStep level g long next
      | '-' :: letter :: _ =>
        match (Opt.ofLetter? level letter).bind (answerOf? level) with
        | some request => .answered request
        | none => .answered .misuse
      | _ => .ofGiven .more (g.addPosition? level text)

def read (level : Level) (g : Given) : List String → Reading
  | [] => .ended g
  | text :: rest =>
    match step level g text rest.head? with
    | .more g => read level g rest
    | .withValue g => read level g rest.tail
    | .plain => readPlain level g rest
    | .command next => .command g next rest
    | .help => .answered (helpFor rest)
    | .answered request => .answered request
termination_by args => args.length
decreasing_by
  · simp
  · rw [List.length_tail, List.length_cons]
    omega

/- The arguments of a command, with what was given before it. What is given after the command
comes first. -/
def arguments (before : Given) (level : Level) (g : Given) : Request :=
  let finish (command : Command) : Request :=
    .run {
      config := g.value? .config <|> before.value? .config
      debug := g.has .debug || before.has .debug
      command }
  match level, g.positions with
  | .search, history :: query =>
    finish (.search history query ((g.value? .channel).getD "") (g.value? .nick))
  | .highlights, [history] => finish (.highlights history (g.value? .nick) (g.has .focused))
  | _, _ => .misuse

def parse (args : List String) : Request :=
  match read .program {} args with
  | .ended _ => .misuse
  | .answered request => request
  | .command before level rest =>
    match read level {} rest with
    | .ended g => arguments before level g
    | .answered request => request
    | .command _ _ _ => .misuse

end Scrollback.CommandLine
