import Scrollback.Regex.Plain
import Scrollback.Unicode.Lowercase

/-!
Matching with retries. A plan is carried out step by step; where it offers a choice, the second
way is tried when the first one fails, and every such retry is paid for out of an allowance. When
the allowance is used up the search ends without an answer.
-/

namespace Scrollback.Regex

inductive Plan where
  | plain (e : Plain)
  | seq (first second : Plan)
  | alt (first second : Plan)
  | optional (greedy : Bool) (body : Plan)
  | loop (body : Plan) (atLeast : Nat) (atMost : Option Nat) (greedy : Bool)
  | capture (index : Nat) (body : Plan)
  | ahead (body : Plan)
  | notAhead (body : Plan)
  -- The text before, if `body` covers exactly `size` characters of it.
  | behind (size : Nat) (body : Plan)
  | notBehind (size : Nat) (body : Plan)
  -- The text before, if `body` covers any part of it that ends here.
  | behindAny (body : Plain)
  | notBehindAny (body : Plain)
  | atomic (body : Plan)
  | backref (index : Nat) (ignoreCase : Bool)
  | assert (a : Assertion)
  | startHere
  | origin
  | groupSet (index : Nat)
  | ifElse (condition yes no : Plan)

inductive Outcome where
  | matched (p : Progress) (left : Nat)
  | failed (left : Nat)
  | exhausted

namespace Outcome

@[inline] def orElse (first : Outcome) (second : Nat → Outcome) : Outcome :=
  match first with
  | .failed 0 => .exhausted
  | .failed (left + 1) => second left
  | other => other

end Outcome

/- What is still to be matched, given how far the match has come and how many retries are left. -/
abbrev Goal := Progress → Nat → Outcome

namespace Plan

/- The rounds of a repeat, after `count` of them. A round that took no character is the last. -/
def rounds (body : Goal → Goal) (atLeast : Nat) (atMost : Option Nat) (greedy : Bool)
    (goal : Goal) : (fuel count previous : Nat) → Goal
  | 0, _, _, p, left => goal p left
  | fuel + 1, count, previous, p, left =>
    if atMost = some count || (0 < count && p.index == previous) then goal p left
    else
      let again : Goal := body (rounds body atLeast atMost greedy goal fuel (count + 1) p.index)
      if count < atLeast then again p left
      else if greedy then (again p left).orElse (goal p)
      else (goal p left).orElse (again p)

def sameText (ignoreCase : Bool) : List Char → List Char → Bool
  | [], [] => true
  | x :: xs, y :: ys =>
    (x == y || (ignoreCase && Unicode.lowercaseForm x == Unicode.lowercaseForm y))
      && sameText ignoreCase xs ys
  | _, _ => false

def takeGroup? (p : Progress) (i : Nat) (ignoreCase : Bool) : Option Progress := do
  let text ← p.group? i
  let stop ← (Plain.places p.cursor)[text.length]?
  if sameText ignoreCase text (p.cursor.textTo stop) then some { p with cursor := stop } else none

def endsAt (body : Plain) (p : Progress) : Bool :=
  (List.range (p.index + 1)).any fun n =>
    match p.cursor.back? n with
    | none => false
    | some c => (body.ends { p with cursor := c }).any (·.index == p.index)

def run : Plan → Goal → Goal
  | .plain e, goal, p, left =>
    match e.first? p with
    | some q => goal q left
    | none => .failed left
  | .seq a b, goal, p, left => a.run (b.run goal) p left
  | .alt a b, goal, p, left => (a.run goal p left).orElse (b.run goal p)
  | .optional greedy a, goal, p, left =>
    if greedy then (a.run goal p left).orElse (goal p) else (goal p left).orElse (a.run goal p)
  | .loop a atLeast atMost greedy, goal, p, left =>
    rounds a.run atLeast atMost greedy goal (p.cursor.after.length + 2) 0 p.index p left
  | .capture i a, goal, p, left =>
    a.run (fun q left => goal (q.save (2 * i + 1)) left) (p.save (2 * i)) left
  | .ahead a, goal, p, left => a.run (fun q left => goal { q with cursor := p.cursor } left) p left
  | .notAhead a, goal, p, left =>
    match a.run .matched p left with
    | .matched _ left => .failed left
    | other => other.orElse (goal p)
  | .behind size a, goal, p, left =>
    match p.cursor.back? size with
    | none => .failed left
    | some c =>
      a.run (fun q left => goal { q with cursor := p.cursor } left) { p with cursor := c } left
  | .notBehind size a, goal, p, left =>
    match p.cursor.back? size with
    | none => (Outcome.failed left).orElse (goal p)
    | some c =>
      match a.run .matched { p with cursor := c } left with
      | .matched _ left => .failed left
      | other => other.orElse (goal p)
  | .behindAny e, goal, p, left => if endsAt e p then goal p left else .failed left
  | .notBehindAny e, goal, p, left =>
    if endsAt e p then .failed left else (Outcome.failed left).orElse (goal p)
  | .atomic a, goal, p, left =>
    match a.run .matched p left with
    | .matched q left => goal q left
    | other => other
  | .backref i ignoreCase, goal, p, left =>
    match takeGroup? p i ignoreCase with
    | some q => goal q left
    | none => .failed left
  | .assert a, goal, p, left => if a.holds p.cursor then goal p left else .failed left
  | .startHere, goal, p, left => goal (p.save 0) left
  | .origin, goal, p, left => if p.index == p.origin then goal p left else .failed left
  | .groupSet i, goal, p, left => if (p.slot? (2 * i)).isSome then goal p left else .failed left
  | .ifElse condition yes no, goal, p, left =>
    match condition.run .matched p left with
    | .matched q left => yes.run goal q left
    | other => other.orElse (no.run goal p)

end Plan

end Scrollback.Regex
