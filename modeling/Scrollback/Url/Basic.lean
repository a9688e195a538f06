import Scrollback.Url.Host

/-!
Addresses (URLs): their parts, how they are written and which of them name files.
-/

namespace Scrollback

namespace Url

structure Authority where
  -- User name, and password after a colon, as written before `@`.
  userinfo : Option String := none
  host : Option Host := none
  port : Option Nat := none
  deriving DecidableEq, Repr

end Url

structure Url where
  scheme : String
  authority : Option Url.Authority := none
  path : String
  query : Option String := none
  fragment : Option String := none
  deriving DecidableEq, Repr

namespace Url

def Authority.write (a : Authority) : String :=
  (a.userinfo.map (· ++ "@")).getD "" ++ (a.host.map Host.write).getD ""
    ++ (a.port.map fun n => ":" ++ toString n).getD ""

/- A path that would read as an authority is kept apart by `/.`. -/
def write (u : Url) : String :=
  let authority :=
    match u.authority with
    | some a => "//" ++ a.write
    | none => if u.path.startsWith "//" then "/." else ""
  u.scheme ++ ":" ++ authority ++ u.path ++ (u.query.map ("?" ++ ·)).getD ""
    ++ (u.fragment.map ("#" ++ ·)).getD ""

def host? (u : Url) : Option Host := u.authority.bind (·.host)

def isLocalHost : Option Host → Bool
  | none => true
  | some (.domain name) => name == "localhost"
  | some _ => false

/- A path that ends in a letter and a colon or a bar names a drive, and gets a slash. -/
def closeDrive (path : List UInt8) : List UInt8 :=
  match path.reverse with
  | last :: letter :: _ :: _ =>
    let c := Char.ofNat letter.toNat
    if c.isAlpha && (last == 0x3A || last == 0x7C) then path ++ [0x2F] else path
  | _ => path

/- The file that an address names, as bytes: the decoded path, if it starts with a slash and the
host is this one. The scheme makes no difference. -/
def filePath? (u : Url) : Option (List UInt8) :=
  match u.path.toList with
  | '/' :: rest =>
    if isLocalHost u.host? then
      some (closeDrive ((rest.splitOn '/').flatMap fun part => 0x2F :: Percent.decode part))
    else none
  | _ => none

end Url

end Scrollback
