import Scrollback.Disk
import Scrollback.Notification
import Scrollback.Text.Quoted

/-!
Values laid out in the log, with the names of their parts.
-/

namespace Scrollback.CommandLine.Outline

def record (name : String) (parts : List (String × String)) : String :=
  let written := parts.map fun (key, value) => key ++ ": " ++ value
  name ++ " \x7b " ++ ", ".intercalate written ++ " \x7d"

def optional {α : Type} (write : α → String) : Option α → String
  | none => "None"
  | some a => "Some(" ++ write a ++ ")"

def escapePathChar (c : Char) : List Char :=
  if c == '\x27' then ['\\', '\x27'] else Text.escapeChar c

def takeChar? (bytes : List UInt8) : Option (Char × List UInt8) :=
  [1, 2, 3, 4].findSome? fun n =>
    match (Disk.decode? (bytes.take n)).map String.toList with
    | some [c] => some (c, bytes.drop n)
    | _ => none

def pathChars : Nat → List UInt8 → List Char
  | 0, _ => []
  | _ + 1, [] => []
  | fuel + 1, byte :: rest =>
    match takeChar? (byte :: rest) with
    | some (c, rest) => escapePathChar c ++ pathChars fuel rest
    | none =>
      let digits := [byte.toNat / 16, byte.toNat % 16].map fun n => (Nat.digitChar n).toUpper
      ['\\', 'x'] ++ digits ++ pathChars fuel rest

def path (bytes : List UInt8) : String :=
  String.ofList ('"' :: pathChars bytes.length bytes ++ ['"'])

def isMapped (pieces : List Nat) : Bool := pieces.take 6 == [0, 0, 0, 0, 0, 0xffff]

def host : Url.Host → String
  | .domain name => "Domain(" ++ Text.quoted name ++ ")"
  | .ipv4 n => "Ipv4(" ++ Url.Host.writeIpv4 n ++ ")"
  | .ipv6 pieces =>
    let text :=
      match isMapped pieces, pieces.drop 6 with
      | true, [a, b] => "::ffff:" ++ Url.Host.writeIpv4 (a * 65536 + b)
      | _, _ => Url.Host.writeIpv6 pieces
    "Ipv6(" ++ text ++ ")"

def user (u : Url) : String × Option String :=
  match (u.authority.bind (·.userinfo)).map String.toList with
  | none => ("", none)
  | some cs =>
    let name := cs.takeWhile (· != ':')
    match cs.drop name.length with
    | [] => (String.ofList name, none)
    | _ :: password => (String.ofList name, some (String.ofList password))

def isOpaque (u : Url) : Bool := u.authority.isNone && !u.path.startsWith "/"

def url (u : Url) : String :=
  let (name, password) := user u
  record "Url" [
    ("scheme", Text.quoted u.scheme), ("cannot_be_a_base", toString (isOpaque u)),
    ("username", Text.quoted name), ("password", optional Text.quoted password),
    ("host", optional host u.host?),
    ("port", optional toString (u.authority.bind (·.port))), ("path", Text.quoted u.path),
    ("query", optional Text.quoted u.query), ("fragment", optional Text.quoted u.fragment)]

def sound : Sound → String
  | .custom u => "Custom(" ++ url u ++ ")"
  | .fallback => "Fallback"

def source : Sound.Source → String
  | .file bytes => "File(" ++ path bytes ++ ")"
  | .url u => "Url(" ++ url u ++ ")"
  | .ping => "Ping"

def key (k : Notification.Key) : String :=
  record "Highlight" [
    ("user", Text.quoted k.author), ("channel", Text.quoted k.channel),
    ("message", Text.quoted k.text), ("sound", optional sound k.sound)]

end Scrollback.CommandLine.Outline
