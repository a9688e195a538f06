import Scrollback.Url.Basic

/-!
Reading of addresses. Blanks and control characters around the text, and tabs and newlines inside
it, do not count.
-/

namespace Scrollback.Url

inductive Kind where
  | web
  | file
  | other
  deriving DecidableEq

def Kind.ofScheme (scheme : String) : Kind :=
  if ["http", "https", "ws", "wss", "ftp"].contains scheme then .web
  else if scheme == "file" then .file
  else .other

def Kind.isSpecial (k : Kind) : Bool := k != .other

def defaultPort? : String → Option Nat
  | "http" | "ws" => some 80
  | "https" | "wss" => some 443
  | "ftp" => some 21
  | _ => none

def endsAuthority (k : Kind) (c : Char) : Bool :=
  c == '/' || c == '?' || c == '#' || (c == '\\' && k.isSpecial)

def significant (text : String) : List Char :=
  let outer (c : Char) : Bool := c.toNat ≤ 0x20
  let trimmed := ((text.toList.dropWhile outer).reverse.dropWhile outer).reverse
  trimmed.filter fun c => c != '\t' && c != '\n' && c != '\r'

def scheme? (cs : List Char) : Option (String × List Char) :=
  let name := cs.takeWhile fun c => c.isAlphanum || c == '+' || c == '-' || c == '.'
  match name, cs.drop name.length with
  | first :: _, ':' :: rest =>
    if first.isAlpha then some (String.ofList (name.map Char.toLower), rest) else none
  | _, _ => none

/-! Paths. -/

def isDot (segment : List Char) : Bool :=
  let s := (String.ofList segment).toLower
  s == "." || s == "%2e"

def isDoubleDot (segment : List Char) : Bool :=
  let s := (String.ofList segment).toLower
  s == ".." || s == "%2e." || s == ".%2e" || s == "%2e%2e"

def startsWithDrive : List Char → Bool
  | letter :: mark :: rest =>
    letter.isAlpha && (mark == ':' || mark == '|') &&
      match rest with
      | [] => true
      | c :: _ => c == '/' || c == '\\' || c == '?' || c == '#'
  | _ => false

/- A reversed path without its last slash, unless that slash is the root or belongs to a drive. -/
def dropLastSlash (path : List Char) : List Char :=
  match path with
  | '/' :: rest =>
    let segment := rest.takeWhile (· != '/')
    if segment.length < rest.length && !startsWithDrive (segment.reverse ++ ['/']) then rest
    else path
  | path => path

/- A reversed path up to and with its last slash; in a file's path a drive letter stays. -/
def dropLastSegment (k : Kind) (path : List Char) : List Char :=
  match path with
  | ':' :: letter :: '/' :: _ =>
    if k = .file && letter.isAlpha then path else path.dropWhile (· != '/')
  | path => path.dropWhile (· != '/')

def endWithSlash (path : List Char) : List Char :=
  if path.head? == some '/' then path else '/' :: path

def addSegment (k : Kind) (path segment : List Char) (closed : Bool) : List Char :=
  let written := Percent.encode Percent.inPath segment
  if isDoubleDot written then
    let path := dropLastSegment k (dropLastSlash path)
    if closed then endWithSlash path else path
  else if isDot written then endWithSlash path
  else
    let path := written.reverse ++ path
    if closed then '/' :: path else path

def addSegments (k : Kind) (path segment : List Char) : List Char → List Char × List Char
  | [] => (addSegment k path segment.reverse false, [])
  | c :: rest =>
    if c == '?' || c == '#' then (addSegment k path segment.reverse false, c :: rest)
    else if c == '/' || (c == '\\' && k.isSpecial) then
      addSegments k (addSegment k path segment.reverse true) [] rest
    else addSegments k path (c :: segment) rest

def readPath (k : Kind) (start cs : List Char) : String × List Char :=
  let (path, rest) := addSegments k start.reverse [] cs
  let path := path.reverse
  if k = .file then (String.ofList ('/' :: path.dropWhile (· == '/')), rest)
  else (String.ofList path, rest)

def readPathAfter (k : Kind) (cs : List Char) : String × List Char :=
  if k.isSpecial then
    match cs with
    | '/' :: rest | '\\' :: rest => readPath k ['/'] rest
    | cs => readPath k ['/'] cs
  else
    match cs with
    | [] | '?' :: _ | '#' :: _ => ("", cs)
    | '/' :: _ => readPath k [] cs
    | cs => readPath k ['/'] cs

def readTail (k : Kind) (cs : List Char) : Option String × Option String :=
  let inQuery := if k.isSpecial then Percent.inSpecialQuery else Percent.inQuery
  let (query, rest) :=
    match cs with
    | '?' :: rest =>
      let query := rest.takeWhile (· != '#')
      (some (String.ofList (Percent.encode inQuery query)), rest.drop query.length)
    | cs => (none, cs)
  match rest with
  | '#' :: rest => (query, some (String.ofList (Percent.encode Percent.inFragment rest)))
  | _ => (query, none)

def assemble (k : Kind) (scheme : String) (authority : Option Authority)
    (path : String × List Char) : Url :=
  let (query, fragment) := readTail k path.2
  { scheme, authority, path := path.1, query, fragment }

/-! Authorities. -/

/- User name and password before the last `@` of the authority, as written, and what follows it.
Nothing but a host can follow an `@`. -/
def readUserinfo (k : Kind) (cs : List Char) : Option (Option String × List Char) :=
  let authority := cs.takeWhile (!endsAuthority k ·)
  let rest := cs.drop authority.length
  let host := (authority.reverse.takeWhile (· != '@')).reverse
  if host.length = authority.length then some (none, cs)
  else
    let userinfo := authority.take (authority.length - host.length - 1)
    let following := host ++ rest
    if userinfo.isEmpty then
      if host.isEmpty && !rest.isEmpty then none else some (none, following)
    else
      let user := userinfo.takeWhile (· != ':')
      let encode (cs : List Char) := String.ofList (Percent.encode Percent.inUserinfo cs)
      let password := (userinfo.drop user.length).drop 1
      let written := encode user ++ (if password.isEmpty then "" else ":" ++ encode password)
      some (if written.isEmpty then none else some written, following)

def cutHost (k : Kind) (inBrackets : Bool) : List Char → List Char × List Char
  | [] => ([], [])
  | c :: rest =>
    if (c == ':' && !inBrackets) || endsAuthority k c then ([], c :: rest)
    else
      let inBrackets := if c == '[' then true else if c == ']' then false else inBrackets
      let (host, rest) := cutHost k inBrackets rest
      (c :: host, rest)

def readPort (scheme : String) (cs : List Char) : Option (Option Nat × List Char) :=
  let digits := cs.takeWhile Char.isDigit
  let rest := cs.drop digits.length
  let n := Host.digitsValue 10 digits
  let ends := match rest with
    | [] => true
    | c :: _ => c == '/' || c == '\\' || c == '?' || c == '#'
  if !ends || 65535 < n then none
  else some (if digits.isEmpty || defaultPort? scheme == some n then none else some n, rest)

def readAuthority? (k : Kind) (scheme : String) (cs : List Char) : Option Url := do
  let (userinfo, rest) ← readUserinfo k cs
  let (host, rest) := cutHost k false rest
  if host.isEmpty && k.isSpecial then none
  let host ← if k.isSpecial then Host.ofWeb? host else Host.uninterpreted? host
  let isEmpty := host == .domain ""
  let (port, rest) ← match rest with
    | ':' :: rest => if isEmpty then none else readPort scheme rest
    | rest => some (none, rest)
  if isEmpty && userinfo.isSome then none
  let authority : Authority := { userinfo, host := if isEmpty then none else some host, port }
  some (assemble k scheme (some authority) (readPathAfter k rest))

def isDrive (cs : List Char) : Bool :=
  match cs with
  | [letter, mark] => letter.isAlpha && (mark == ':' || mark == '|')
  | _ => false

def readFile? (cs : List Char) : Option Url :=
  let slash (c : Char) : Bool := c == '/' || c == '\\'
  let onThisHost (path : String × List Char) : Url := assemble .file "file" (some {}) path
  match cs with
  | a :: b :: rest =>
    if slash a && slash b then
      let text := rest.takeWhile (!endsAuthority .file ·)
      if text.isEmpty || isDrive text then some (onThisHost (readPath .file ['/'] rest))
      else do
        let host ← Host.ofWeb? text
        let rest := rest.drop text.length
        if host == .domain "localhost" then some (onThisHost (readPath .file ['/'] rest))
        else some (assemble .file "file" (some { host := some host }) (readPathAfter .file rest))
    else if slash a then some (onThisHost (readPath .file [] cs))
    else some (onThisHost (readPath .file ['/'] cs))
  | [a] => some (onThisHost (readPath .file (if slash a then [] else ['/']) cs))
  | [] => some (onThisHost (readPath .file ['/'] cs))

def parse? (text : String) : Option Url := do
  let (scheme, rest) ← scheme? (significant text)
  let k := Kind.ofScheme scheme
  match k with
  | .file => readFile? rest
  | .web => readAuthority? k scheme (rest.dropWhile fun c => c == '/' || c == '\\')
  | .other =>
    match rest with
    | '/' :: '/' :: rest => readAuthority? k scheme rest
    | '/' :: _ => some (assemble k scheme none (readPath k [] rest))
    | rest =>
      let path := rest.takeWhile fun c => c != '?' && c != '#'
      let written := String.ofList (Percent.encode Percent.controls path)
      some (assemble k scheme none (written, rest.drop path.length))

end Scrollback.Url
