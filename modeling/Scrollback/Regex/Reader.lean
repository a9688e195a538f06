import Scrollback.Regex.ClassReader

/-!
Reading of patterns.
-/

namespace Scrollback.Regex

structure Flags where
  ignoreCase : Bool := false
  multiLine : Bool := false
  dotMatchesNewline : Bool := false
  swapGreed : Bool := false
  ignoreBlanks : Bool := false

namespace Reader

structure State where
  rest : List Char
  flags : Flags := {}
  groups : Nat := 0
  names : List (String × Nat) := []
  references : List Nat := []
  numbered : Bool := false

abbrev Read (α : Type) := ReaderT Nat (StateT State (Except Error)) α

def fail {α : Type} (e : Error) : Read α := fun _ _ => .error e

def setRest (rest : List Char) : Read Unit := modify ({ · with rest })

def afterComment : List Char → Option (List Char)
  | [] => none
  | ')' :: rest => some rest
  | ['\\'] => none
  | '\\' :: _ :: rest => afterComment rest
  | _ :: rest => afterComment rest

def withoutBlanks (ignoreBlanks : Bool) : (fuel : Nat) → List Char → Except Error (List Char)
  | 0, cs => .ok cs
  | fuel + 1, cs =>
    match cs with
    | '(' :: '?' :: '#' :: rest =>
      match afterComment rest with
      | none => .error .unclosedGroup
      | some rest => withoutBlanks ignoreBlanks fuel rest
    | c :: rest =>
      if ignoreBlanks && c == '#' then
        withoutBlanks ignoreBlanks fuel ((rest.dropWhile (· != '\n')).drop 1)
      else if ignoreBlanks && (c == ' ' || c == '\r' || c == '\n' || c == '\t') then
        withoutBlanks ignoreBlanks fuel rest
      else .ok cs
    | [] => .ok []

def skipBlanks : Read Unit := do
  let s ← get
  match withoutBlanks s.flags.ignoreBlanks (s.rest.length + 1) s.rest with
  | .ok rest => setRest rest
  | .error e => fail e

def number? (cs : List Char) : Option (Nat × List Char) :=
  let digits := cs.takeWhile Char.isDigit
  if digits.isEmpty then none
  else some (digits.foldl (fun n c => n * 10 + (c.toNat - '0'.toNat)) 0, cs.drop digits.length)

/- The counts of a repeat, after its opening brace. Anything else is no repeat. -/
def counts? : Read (Option (Nat × Option Nat)) := do
  let before := (← get).rest
  let give : Read (Option (Nat × Option Nat)) := do setRest before; return none
  skipBlanks
  let cs := (← get).rest
  let atLeast? :=
    match cs with
    | ',' :: _ => some (0, cs)
    | cs => number? cs
  match atLeast? with
  | none => give
  | some (atLeast, cs) =>
    setRest cs
    skipBlanks
    match (← get).rest with
    | '\x7d' :: rest => setRest rest; return some (atLeast, some atLeast)
    | ',' :: rest =>
      setRest rest
      skipBlanks
      let atMost ← match number? (← get).rest with
        | some (n, rest) => do setRest rest; pure (some n)
        | none => pure none
      skipBlanks
      match (← get).rest with
      | '\x7d' :: rest => setRest rest; return some (atLeast, atMost)
      | _ => give
    | _ => give

def isHex (c : Char) : Bool := (Unicode.hexDigit? c).isSome

def literal (c : Char) : Read Expr := do
  return .set ((CharSet.single c).foldIf (← get).flags.ignoreCase)

def codePoint (digits : Nat) : Read Char := do
  let cs := (← get).rest
  let fixed := cs.take digits
  let (written, rest) ←
    if fixed.length = digits && fixed.all isHex then pure (fixed, cs.drop digits)
    else match cs with
      | '\x7b' :: rest =>
        let written := rest.takeWhile isHex
        match rest.drop written.length with
        | '\x7d' :: rest =>
          if written.isEmpty || written.length > 8 then fail .badCodePoint else pure (written, rest)
        | _ => fail .badCodePoint
      | _ => fail .badCodePoint
  let n := Unicode.hexValue (String.ofList written)
  if h : n.isValidChar then
    setRest rest
    return Char.ofNatAux n h
  else fail .badCodePoint

def isIdentifier (c : Char) : Bool := c == '_' || c.isAlphanum || c.toNat ≥ 0x80 && Unicode.isWord c

def name? (opening closing : Option Char) (cs : List Char) : Option (String × List Char) := do
  let cs ← match opening, cs with
    | none, cs => some cs
    | some o, c :: rest => if o = c then some rest else none
    | some _, [] => none
  let name := cs.takeWhile isIdentifier
  if name.isEmpty then none
  else match closing, cs.drop name.length with
    | some d, c :: rest => if c = d then some (String.ofList name, rest) else none
    | _, _ => none

def namedReference (opening : Option Char) (closing : Char) : Read Nat := do
  let s ← get
  let relative? : Option (Nat × List Char) := do
    let cs ← match opening, s.rest with
      | some o, c :: rest => if o = c then some rest else none
      | _, _ => none
    match cs with
    | '-' :: cs =>
      let (n, cs) ← number? cs
      match cs with
      | c :: rest => if c = closing then some (n, rest) else none
      | [] => none
    | _ => none
  match relative? with
  | some (n, rest) =>
    if n = 0 || s.groups < n then fail .unknownGroup
    else
      let group := s.groups + 1 - n
      set { s with rest, references := group :: s.references }
      return group
  | none =>
    match name? opening (some closing) s.rest with
    | none => fail .badGroupName
    | some (name, rest) =>
      let group? := (s.names.lookup name).or
        (if name.toList.all Char.isDigit then (number? name.toList).map (·.1) else none)
      match group? with
      | none => fail .unknownGroup
      | some group =>
        set { s with rest, references := group :: s.references }
        return group

def numberedReference : Read Nat := do
  let s ← get
  match number? s.rest with
  | none => fail .unknownGroup
  | some (group, rest) =>
    if group < (← read) / 2 then
      set { s with rest, numbered := true, references := group :: s.references }
      return group
    else fail .unknownGroup

def property (negated : Bool) : Read CharSet := do
  let s ← get
  let found (p : Option Unicode.Property) (flip : Bool) (rest : List Char) : Read CharSet :=
    match p with
    | none => fail .unknownProperty
    | some p => do
      setRest rest
      let set := (CharSet.property p).foldIf s.flags.ignoreCase
      return if negated != flip then .not set else set
  match s.rest with
  | '\x7b' :: rest =>
    let written := rest.takeWhile (· != '\x7d')
    match rest.drop written.length with
    | [] => fail .unclosedName
    | _ :: rest =>
      let (flip, written) := match written with
        | '^' :: written => (true, written)
        | written => (false, written)
      let kind := written.takeWhile fun c => c != '=' && c != ':' && c != '!'
      match written.drop kind.length with
      | '!' :: '=' :: value =>
        found (Unicode.Property.valued? (String.ofList kind) (String.ofList value)) (!flip) rest
      | '=' :: value | ':' :: value =>
        found (Unicode.Property.valued? (String.ofList kind) (String.ofList value)) flip rest
      | _ => found (Unicode.Property.named? (String.ofList written)) flip rest
  | c :: rest => found (Unicode.Property.named? (String.singleton c)) false rest
  | [] => fail .unknownEscape

def wordAssertion (cs : List Char) : Read Expr := do
  let named := [("start", Assertion.wordStart), ("end", .wordEnd), ("start-half", .wordStartHalf),
    ("end-half", .wordEndHalf)]
  let written := cs.takeWhile (· != '\x7d')
  match cs.drop written.length, named.lookup (String.ofList written) with
  | _ :: rest, some a => setRest rest; return .assert a
  | _, _ => fail .unknownEscape

def control? : Char → Option Char
  | 'a' => some '\x07'
  | 'b' => some '\x08'
  | 'f' => some '\x0c'
  | 'n' => some '\n'
  | 'r' => some '\r'
  | 't' => some '\t'
  | 'v' => some '\x0b'
  | 'e' => some '\x1b'
  | _ => none

def commonEscape (c : Char) (rest : List Char) : Read (CharSet ⊕ Char) := do
  setRest rest
  let hex := CharSet.ofList [.range '0' '9', .range 'A' 'F', .range 'a' 'f']
  match c with
  | 'd' => return .inl .digit
  | 'D' => return .inl (.not .digit)
  | 's' => return .inl .blank
  | 'S' => return .inl (.not .blank)
  | 'w' => return .inl .word
  | 'W' => return .inl (.not .word)
  | 'h' => return .inl hex
  | 'H' => return .inl (.not hex)
  | 'x' => return .inr (← codePoint 2)
  | 'u' => return .inr (← codePoint 4)
  | 'U' => return .inr (← codePoint 8)
  | 'p' => return .inl (← property false)
  | 'P' => return .inl (← property true)
  | c =>
    match control? c with
    | some x => return .inr x
    | none =>
      if c.isAlpha || c.toNat < 0x20 || c.toNat ≥ 0x80 then fail .unknownEscape
      return .inr c

def beforeLastNewlines : Expr :=
  .look ⟨false, false⟩
    (.concat [.loop (.set (.single '\n')) 0 none true, .assert .textEnd])

def lineBreak : Expr :=
  .atomic (.alt [.concat [.set (.single '\r'), .set (.single '\n')],
    .set (.ofList [.range '\n' '\r', .single '\u0085', .single '\u2028', .single '\u2029'])])

def escape : Read Expr := do
  let s ← get
  match s.rest.drop 1 with
  | [] => fail .loneBackslash
  | c :: rest =>
    let here (e : Expr) : Read Expr := do setRest rest; return e
    match c with
    | 'k' =>
      setRest rest
      let group ← match rest with
        | '\x27' :: _ => namedReference (some '\x27') '\x27'
        | _ => namedReference (some '<') '>'
      return .backref group s.flags.ignoreCase
    | 'A' => here (.assert .textStart)
    | 'z' => here (.assert .textEnd)
    | 'Z' => here beforeLastNewlines
    | 'b' =>
      match rest with
      | '\x7b' :: rest => wordAssertion rest
      | _ => here (.assert .wordBoundary)
    | 'B' => here (.assert .noWordBoundary)
    | '<' => here (.assert .wordStart)
    | '>' => here (.assert .wordEnd)
    | 'K' => here .startHere
    | 'G' => here .origin
    | 'O' => here (.set .all)
    | 'N' => here (.set (.not (.single '\n')))
    | 'R' => here lineBreak
    | c =>
      if c.isDigit then
        setRest (c :: rest)
        return .backref (← numberedReference) s.flags.ignoreCase
      else match ← commonEscape c rest with
        | .inl set => return .set set
        | .inr c => literal c

def classPieces : (fuel depth : Nat) → Read (List ClassPiece)
  | 0, _ => fail .unclosedClass
  | fuel + 1, depth => do
    match (← get).rest with
    | [] => fail .unclosedClass
    | '\\' :: rest =>
      match rest with
      | [] => fail .loneBackslash
      | c :: rest =>
        if c.isDigit then fail .unclosedClass
        let piece ← match ← commonEscape c rest with
          | .inl set => pure (ClassPiece.set set)
          | .inr c => pure (ClassPiece.literal c)
        return piece :: (← classPieces fuel depth)
    | '[' :: rest =>
      setRest rest
      return .bare '[' :: (← classPieces fuel (depth + 1))
    | ']' :: rest =>
      setRest rest
      match depth with
      | 0 => return [.bare ']']
      | depth + 1 => return .bare ']' :: (← classPieces fuel depth)
    | c :: rest =>
      setRest rest
      return .bare c :: (← classPieces fuel depth)

def bracketed : Read Expr := do
  let s ← get
  let cs := s.rest.drop 1
  let (negation, cs) := match cs with
    | '^' :: rest => ([ClassPiece.bare '^'], rest)
    | cs => ([], cs)
  let (first, cs) := match cs with
    | ']' :: rest => ([ClassPiece.literal ']'], rest)
    | cs => ([], cs)
  setRest cs
  let pieces ← classPieces (cs.length + 1) 0
  match ClassPiece.toCharSet s.flags.ignoreCase (negation ++ first ++ pieces) with
  | .ok set => return .set set
  | .error e => fail e

def deepest : Nat := 64

def setFlag? (f : Flags) (c : Char) (on : Bool) : Option Flags :=
  match c with
  | 'i' => some { f with ignoreCase := on }
  | 'm' => some { f with multiLine := on }
  | 's' => some { f with dotMatchesNewline := on }
  | 'U' => some { f with swapGreed := on }
  | 'x' => some { f with ignoreBlanks := on }
  | 'u' => if on then some f else none
  | _ => none

/- Reads flags after `(?`. The answer is whether they hold for a part of their own, which follows. -/
def readFlags : (fuel : Nat) → (seen negated : Bool) → Read Bool
  | 0, _, _ => fail .unclosedGroup
  | fuel + 1, seen, negated => do
    skipBlanks
    let s ← get
    match s.rest with
    | [] => fail .unclosedGroup
    | '-' :: rest =>
      if negated then fail .unknownFlag
      setRest rest
      readFlags fuel false true
    | ')' :: rest =>
      if !seen then fail .unknownFlag
      setRest rest
      return false
    | ':' :: rest =>
      if negated && !seen then fail .unknownFlag
      setRest rest
      return true
    | c :: rest =>
      match setFlag? s.flags c (!negated) with
      | none => fail .unknownFlag
      | some flags =>
        set { s with rest, flags }
        readFlags fuel true negated

def closeGroup : Read Unit := do
  match (← get).rest with
  | ')' :: rest => setRest rest
  | _ => fail .unclosedGroup

inductive Opening where
  | look (l : Look)
  | capture (name : Option String)
  | atomic
  | reference (closing : Char)
  | condition
  | flags
  | call

def readOpening : Read Opening := do
  match (← get).rest with
  | '?' :: '=' :: rest => setRest rest; return .look ⟨false, false⟩
  | '?' :: '!' :: rest => setRest rest; return .look ⟨false, true⟩
  | '?' :: '<' :: '=' :: rest => setRest rest; return .look ⟨true, false⟩
  | '?' :: '<' :: '!' :: rest => setRest rest; return .look ⟨true, true⟩
  | '?' :: 'P' :: '=' :: rest => setRest rest; return .reference ')'
  | '?' :: 'P' :: '>' :: _ => return .call
  | '?' :: '>' :: rest => setRest rest; return .atomic
  | '?' :: '(' :: rest => setRest rest; return .condition
  | '?' :: '<' :: rest | '?' :: 'P' :: '<' :: rest => named rest '>'
  | '?' :: '\x27' :: rest => named rest '\x27'
  | '?' :: rest => setRest rest; return .flags
  | _ => return .capture none
where
  named (rest : List Char) (closing : Char) : Read Opening :=
    match name? none (some closing) rest with
    | none => fail .badGroupName
    | some (name, rest) => do setRest rest; return .capture (some name)

def repeatable : Expr → Bool
  | .look _ _ | .empty | .assert _ => false
  | _ => true

def joined : List Expr → Expr
  | [] => .empty
  | [e] => e
  | es => .concat es

mutual

def alternatives : (fuel depth : Nat) → Read Expr
  | 0, _ => fail .nestedTooDeeply
  | fuel + 1, depth => do
    let first ← branch fuel depth
    let others ← furtherBranches fuel depth
    if others.isEmpty then
      let s ← get
      if s.numbered && !s.names.isEmpty then fail .namedAndNumberedReferences
      return first
    else return .alt (first :: others)

def furtherBranches : (fuel depth : Nat) → Read (List Expr)
  | 0, _ => fail .nestedTooDeeply
  | fuel + 1, depth => do
    skipBlanks
    match (← get).rest with
    | '|' :: rest =>
      setRest rest
      let e ← branch fuel depth
      return e :: (← furtherBranches fuel depth)
    | _ => return []

def branch : (fuel depth : Nat) → Read Expr
  | 0, _ => fail .nestedTooDeeply
  | fuel + 1, depth => do return joined (← pieces fuel depth)

def pieces : (fuel depth : Nat) → Read (List Expr)
  | 0, _ => fail .nestedTooDeeply
  | fuel + 1, depth => do
    let before := (← get).rest
    if before.isEmpty then return []
    let e ← piece fuel depth
    if (← get).rest.length = before.length then return []
    let es ← pieces fuel depth
    match e with
    | .empty => return es
    | e => return e :: es

def piece : (fuel depth : Nat) → Read Expr
  | 0, _ => fail .nestedTooDeeply
  | fuel + 1, depth => do
    let e ← atom fuel depth
    skipBlanks
    let counts ← match (← get).rest with
      | '?' :: rest => do setRest rest; pure (some (0, some 1))
      | '*' :: rest => do setRest rest; pure (some (0, none))
      | '+' :: rest => do setRest rest; pure (some (1, none))
      | '\x7b' :: rest => do
        setRest rest
        let counts ← counts?
        if counts.isNone then setRest ('\x7b' :: rest)
        pure counts
      | _ => pure none
    match counts with
    | none => return e
    | some (atLeast, atMost) =>
      if !repeatable e then fail .nothingToRepeat
      skipBlanks
      let lazily ← match (← get).rest with
        | '?' :: rest => do setRest rest; pure true
        | _ => pure false
      let e := Expr.loop e atLeast atMost (lazily == (← get).flags.swapGreed)
      match (← get).rest with
      | '+' :: rest => setRest rest; return .atomic e
      | _ => return e

def atom : (fuel depth : Nat) → Read Expr
  | 0, _ => fail .nestedTooDeeply
  | fuel + 1, depth => do
    skipBlanks
    let s ← get
    match s.rest with
    | [] => return .empty
    | '.' :: rest =>
      setRest rest
      return .set (if s.flags.dotMatchesNewline then .all else .not (.single '\n'))
    | '^' :: rest =>
      setRest rest
      return .assert (if s.flags.multiLine then .lineStart else .textStart)
    | '$' :: rest =>
      setRest rest
      return .assert (if s.flags.multiLine then .lineEnd else .textEnd)
    | '(' :: rest =>
      setRest rest
      group fuel (depth + 1)
    | '\\' :: _ => escape
    | '+' :: _ | '*' :: _ | '?' :: _ | '|' :: _ | ')' :: _ => return .empty
    | '[' :: _ => bracketed
    | c :: rest =>
      setRest rest
      literal c

def group : (fuel depth : Nat) → Read Expr
  | 0, _ => fail .nestedTooDeeply
  | fuel + 1, depth => do
    if depth ≥ deepest then fail .nestedTooDeeply
    skipBlanks
    match ← readOpening with
    | .call => fail .unsupported
    | .reference closing =>
      return .backref (← namedReference none closing) (← get).flags.ignoreCase
    | .look l =>
      let e ← alternatives fuel depth
      closeGroup
      return .look l e
    | .atomic =>
      let e ← alternatives fuel depth
      closeGroup
      return .atomic e
    | .capture name =>
      let s ← get
      let i := s.groups + 1
      let names := match name with
        | some name => (name, i) :: s.names
        | none => s.names
      set { s with groups := i, names }
      let e ← alternatives fuel depth
      closeGroup
      return .group i e
    | .flags =>
      let outside := (← get).flags
      if ← readFlags ((← get).rest.length + 1) false false then
        let e ← alternatives fuel depth
        closeGroup
        modify ({ · with flags := outside })
        return e
      else return .empty
    | .condition =>
      let asked ← match (← get).rest with
        | '\x27' :: _ => do pure (Expr.groupSet (← namedReference (some '\x27') '\x27'))
        | '<' :: _ => do pure (Expr.groupSet (← namedReference (some '<') '>'))
        | c :: _ =>
          if c.isDigit then do pure (Expr.groupSet (← numberedReference))
          else alternatives fuel depth
        | [] => fail .unclosedGroup
      closeGroup
      let before := (← get).rest
      let e ← alternatives fuel depth
      let taken := (← get).rest.length < before.length
      closeGroup
      if !taken then
        match asked with
        | .groupSet i => return .groupSet i
        | _ => fail .badCondition
      else match e with
        | .alt (yes :: no) =>
          return .ifElse asked yes (match no with
            | [no] => no
            | no => .alt no)
        | yes => return .ifElse asked yes .empty

end

structure Reading where
  expr : Expr
  references : List Nat
  names : List (String × Nat)

def readPattern (source : String) : Except Error Reading := do
  let cs := source.toList
  let read := alternatives (8 * (cs.length + 2)) 0
  let (expr, s) ← (read.run source.utf8ByteSize).run { rest := cs }
  if !s.rest.isEmpty then throw .unopenedGroup
  if s.references.any fun i => i = 0 || s.groups < i then throw .unknownGroup
  return ⟨expr, s.references, s.names⟩

end Reader

end Scrollback.Regex
