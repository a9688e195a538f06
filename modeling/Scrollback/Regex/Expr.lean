import Scrollback.Regex.Plan

/-!
Patterns as they are read, and how each is to be matched: whatever is plain is left to `Plain`,
and a `Plan` is made around the rest.
-/

namespace Scrollback.Regex

inductive Error where
  | unclosedGroup | unopenedGroup | unclosedClass | unclosedName | nestedTooDeeply
  | nothingToRepeat | repeatOutOfOrder | repeatTooLarge
  | unknownFlag | unknownEscape | loneBackslash | badCodePoint
  | badGroupName | unknownGroup | namedAndNumberedReferences | badCondition
  | badClassRange | unknownProperty
  | lookBehindOfAnySize | unsupported | tooLarge
  deriving DecidableEq, Repr

structure Look where
  behind : Bool
  negative : Bool
  deriving DecidableEq

inductive Expr where
  | empty
  | set (s : CharSet)
  | assert (a : Assertion)
  | concat (es : List Expr)
  | alt (es : List Expr)
  | group (index : Nat) (e : Expr)
  | loop (e : Expr) (atLeast : Nat) (atMost : Option Nat) (greedy : Bool)
  | look (l : Look) (e : Expr)
  | atomic (e : Expr)
  | backref (index : Nat) (ignoreCase : Bool)
  | startHere
  | origin
  | groupSet (index : Nat)
  | ifElse (condition yes no : Expr)

namespace Expr

mutual

/- Whether matching takes more than `Plain` can do. A group that is referred to by an index in
`refs` may have to be tried in several ways. -/
def hard (refs : List Nat) : Expr → Bool
  | .empty | .set _ => false
  | .assert a => a.ofWords
  | .concat es | .alt es => anyHard refs es
  | .group i e => refs.contains i || e.hard refs
  | .loop e _ _ _ => e.hard refs
  | .look _ _ | .atomic _ | .backref _ _ | .startHere | .origin | .groupSet _
  | .ifElse _ _ _ => true

def anyHard (refs : List Nat) : List Expr → Bool
  | [] => false
  | e :: es => e.hard refs || anyHard refs es

end

mutual

def minSize : Expr → Nat
  | .set _ => 1
  | .concat es => sumSize es
  | .alt es => leastSize es
  | .group _ e | .atomic e => e.minSize
  | .loop e atLeast _ _ => e.minSize * atLeast
  | .ifElse condition yes no => condition.minSize + min yes.minSize no.minSize
  | _ => 0

def sumSize : List Expr → Nat
  | [] => 0
  | e :: es => e.minSize + sumSize es

def leastSize : List Expr → Nat
  | [] => 0
  | [e] => e.minSize
  | e :: es => min e.minSize (leastSize es)

end

mutual

def fixedSize : Expr → Bool
  | .concat es => allFixed es
  | .alt es =>
    match es with
    | [] => true
    | e :: rest => e.fixedSize && sameSize e.minSize rest
  | .group _ e | .atomic e => e.fixedSize
  | .loop e atLeast atMost _ => e.fixedSize && atMost == some atLeast
  | .backref _ _ => false
  | .ifElse condition yes no =>
    condition.fixedSize && yes.fixedSize && no.fixedSize && yes.minSize == no.minSize
  | _ => true

def allFixed : List Expr → Bool
  | [] => true
  | e :: es => e.fixedSize && allFixed es

def sameSize (size : Nat) : List Expr → Bool
  | [] => true
  | e :: es => e.fixedSize && e.minSize == size && sameSize size es

end

def largestCount : Nat := 4294967295

mutual

def plain : Expr → Except Error Plain
  | .empty => .ok .empty
  | .set s => .ok (.set s)
  | .assert a => .ok (.assert a)
  | .concat es => plainSeq es
  | .alt es => plainAlt es
  | .group i e => do return .capture i (← e.plain)
  | .loop e atLeast atMost greedy => do
    if atLeast > largestCount || atMost.any (· > largestCount) then throw .repeatTooLarge
    if atMost.any (· < atLeast) then throw .repeatOutOfOrder
    match e with
    | .set s => return .run s atLeast atMost greedy
    | e => return .loop (← e.plain) atLeast atMost greedy
  | _ => .error .unsupported

def plainSeq : List Expr → Except Error Plain
  | [] => .ok .empty
  | [e] => e.plain
  | e :: es => do return .seq (← e.plain) (← plainSeq es)

def plainAlt : List Expr → Except Error Plain
  | [] => .ok .empty
  | [e] => e.plain
  | e :: es => do return .alt (← e.plain) (← plainAlt es)

end

def plainStep (es : List Expr) : Except Error (List Plan) := do
  if es.isEmpty then return []
  return [.plain (← plainSeq es)]

def inOrder : List Plan → Plan
  | [] => .plain .empty
  | [a] => a
  | a :: rest => .seq a (inOrder rest)

def oneOf : List Plan → Plan
  | [] => .plain .empty
  | [a] => a
  | a :: rest => .alt a (oneOf rest)

def lookStep (refs : List Nat) (l : Look) (e : Expr) (body : Plan) : Except Error Plan :=
  if !l.behind then .ok (if l.negative then .notAhead body else .ahead body)
  else if e.fixedSize then
    .ok (if l.negative then .notBehind e.minSize body else .behind e.minSize body)
  else if e.hard refs then .error .lookBehindOfAnySize
  else do
    let e ← e.plain
    return if l.negative then .notBehindAny e else .behindAny e

def lookSteps (l : Look) (steps : List Plan) : Plan :=
  if l.negative then inOrder steps else oneOf steps

mutual

/- The plan for a pattern. If `strict`, what follows may ask for another match of it; otherwise a
plain pattern may be matched in its preferred way only. -/
def plan (refs : List Nat) (strict : Bool) : Expr → Except Error Plan
  | .empty => .ok (.plain .empty)
  | .set s => .ok (.plain (.set s))
  | .assert a => .ok (.assert a)
  | .concat es => do
    if !strict && !anyHard refs es then return .plain (← plainSeq es)
    -- a leading part of fixed size has one match at most, and nothing asks again for a trailing one
    let first := es.takeWhile fun e => e.fixedSize && !e.hard refs
    let others := es.drop first.length
    let last := (others.reverse.takeWhile fun e => (!strict || e.fixedSize) && !e.hard refs).reverse
    let middle := ((← planEach refs true es).drop first.length).take (others.length - last.length)
    return inOrder ((← plainStep first) ++ middle ++ (← plainStep last))
  | .alt es => do
    if !strict && !anyHard refs es then return .plain (← plainAlt es)
    return oneOf (← planEach refs strict es)
  | .group i e => do
    if !strict && !(refs.contains i || e.hard refs) then return .plain (.capture i (← e.plain))
    return .capture i (← e.plan refs strict)
  | .loop e atLeast atMost greedy => do
    if !strict && !e.hard refs then
      return .plain (← (Expr.loop e atLeast atMost greedy).plain)
    if atLeast = 0 && atMost = some 1 then return .optional greedy (← e.plan refs strict)
    return .loop (← e.plan refs (strict || e.hard refs)) atLeast atMost greedy
  | .look l (.alt es) => do
    if l.behind && !(Expr.alt es).fixedSize then
      return lookSteps l (← lookEach refs l es)
    if anyHard refs es then
      lookStep refs l (.alt es) (oneOf (← planEach refs false es))
    else lookStep refs l (.alt es) (.plain (← plainAlt es))
  | .look l e => do lookStep refs l e (← e.plan refs false)
  | .atomic e => do return .atomic (← e.plan refs false)
  | .backref i ignoreCase => .ok (.backref i ignoreCase)
  | .startHere => .ok .startHere
  | .origin => .ok .origin
  | .groupSet i => .ok (.groupSet i)
  | .ifElse condition yes no => do
    return .ifElse (← condition.plan refs strict) (← yes.plan refs strict) (← no.plan refs strict)

def planEach (refs : List Nat) (strict : Bool) : List Expr → Except Error (List Plan)
  | [] => .ok []
  | e :: es => do return (← e.plan refs strict) :: (← planEach refs strict es)

def lookEach (refs : List Nat) (l : Look) : List Expr → Except Error (List Plan)
  | [] => .ok []
  | e :: es => do
    return (← lookStep refs l e (← e.plan refs false)) :: (← lookEach refs l es)

end

end Expr

end Scrollback.Regex
