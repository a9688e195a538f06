/-!
Badges of chat users.
-/

namespace Scrollback

structure Badge where
  name : String
  version : String
  deriving DecidableEq, Repr

namespace Badge

def write (b : Badge) : String := b.name ++ "/" ++ b.version

def ofEntry? (entry : List Char) : Option Badge :=
  match entry.splitOn '/' with
  | [name, version] => some ⟨String.ofList name, String.ofList version⟩
  | _ => none

def ofList (text : String) : List Badge :=
  (text.toList.splitOn ',').filterMap ofEntry?

end Badge

structure BadgeMatch where
  name : String
  version : Option String
  deriving DecidableEq, Repr

namespace BadgeMatch

def ofText (text : String) : BadgeMatch :=
  let cs := text.toList
  let name := cs.takeWhile (· != '/')
  match cs.drop name.length with
  | [] => ⟨text, none⟩
  | _ :: version => ⟨String.ofList name, some (String.ofList version)⟩

def accepts (m : BadgeMatch) (b : Badge) : Bool :=
  m.name == b.name && m.version.all (· == b.version)

end BadgeMatch

end Scrollback
