import Scrollback.Unicode.RangeTable

/-!
Strings of a TOML document, in their four forms. Each reader takes the text after the opening
quotes and gives the string and what follows the closing quotes.
-/

namespace Scrollback.Toml

def isPlain (c : Char) : Bool := c == '\t' || (0x20 ≤ c.toNat && c != '\x7f')

def codePoint? (digits : List Char) : Option Char := do
  let n ← digits.foldl (fun n? d => do return (← n?) * 16 + (← Unicode.hexDigit? d)) (some 0)
  if n.isValidChar then some (Char.ofNat n) else none

def shortEscape? : Char → Option Char
  | 'b' => some '\x08'
  | 't' => some '\t'
  | 'n' => some '\n'
  | 'f' => some '\x0c'
  | 'r' => some '\r'
  | 'e' => some '\x1b'
  | '"' => some '"'
  | '\\' => some '\\'
  | _ => none

def escape? : List Char → Option (Char × List Char)
  | 'x' :: a :: b :: rest => (codePoint? [a, b]).map (·, rest)
  | 'u' :: a :: b :: c :: d :: rest => (codePoint? [a, b, c, d]).map (·, rest)
  | 'U' :: a :: b :: c :: d :: e :: f :: g :: h :: rest =>
    (codePoint? [a, b, c, d, e, f, g, h]).map (·, rest)
  | c :: rest => (shortEscape? c).map (·, rest)
  | [] => none

theorem length_escape? {cs rest : List Char} {c : Char} (h : escape? cs = some (c, rest)) :
    rest.length < cs.length := by
  unfold escape? at h
  split at h
  all_goals first
    | (simp only [Option.map_eq_some_iff] at h
       obtain ⟨_, _, h⟩ := h
       cases h
       simp only [List.length_cons]
       omega)
    | cases h

abbrev Rest := Option (List Char × List Char)

def Rest.cons (c : Char) (r : Rest) : Rest := r.map fun (s, rest) => (c :: s, rest)

def basic (cs : List Char) : Rest :=
  match cs with
  | [] => none
  | '"' :: rest => some ([], rest)
  | '\\' :: rest =>
    match h : escape? rest with
    | none => none
    | some (c, rest) =>
      have := length_escape? h
      (basic rest).cons c
  | c :: rest => if isPlain c then (basic rest).cons c else none
termination_by cs.length

def literal : List Char → Rest
  | [] => none
  | '\x27' :: rest => some ([], rest)
  | c :: rest => if isPlain c then (literal rest).cons c else none

def dropFirstBreak : List Char → List Char
  | '\n' :: rest => rest
  | '\r' :: '\n' :: rest => rest
  | cs => cs

def startsLineEnd (cs : List Char) : Bool :=
  match cs.dropWhile fun c => c == ' ' || c == '\t' with
  | '\n' :: _ => true
  | '\r' :: '\n' :: _ => true
  | _ => false

def dropMargin : List Char → List Char
  | ' ' :: rest | '\t' :: rest | '\n' :: rest => dropMargin rest
  | '\r' :: '\n' :: rest => dropMargin rest
  | cs => cs

theorem length_dropMargin (cs : List Char) : (dropMargin cs).length ≤ cs.length := by
  fun_induction dropMargin cs <;> simp <;> omega

/- A string of several lines in three quotes each, with escapes. Up to two more quotes may stand
before the closing ones. A backslash at the end of a line takes the break and the blanks after it
away. -/
def longBasic (cs : List Char) : Rest :=
  match cs with
  | [] => none
  | '"' :: '"' :: '"' :: '"' :: '"' :: rest => some (['"', '"'], rest)
  | '"' :: '"' :: '"' :: '"' :: rest => some (['"'], rest)
  | '"' :: '"' :: '"' :: rest => some ([], rest)
  | '"' :: rest => (longBasic rest).cons '"'
  | '\r' :: '\n' :: rest => ((longBasic rest).cons '\n').cons '\r'
  | '\n' :: rest => (longBasic rest).cons '\n'
  | '\\' :: rest =>
    if startsLineEnd rest then
      have := length_dropMargin rest
      longBasic (dropMargin rest)
    else
      match h : escape? rest with
      | none => none
      | some (c, rest) =>
        have := length_escape? h
        (longBasic rest).cons c
  | c :: rest => if isPlain c then (longBasic rest).cons c else none
termination_by cs.length
decreasing_by all_goals simp_all <;> omega

def longLiteral : List Char → Rest
  | [] => none
  | '\x27' :: '\x27' :: '\x27' :: '\x27' :: '\x27' :: rest => some (['\x27', '\x27'], rest)
  | '\x27' :: '\x27' :: '\x27' :: '\x27' :: rest => some (['\x27'], rest)
  | '\x27' :: '\x27' :: '\x27' :: rest => some ([], rest)
  | '\r' :: '\n' :: rest => ((longLiteral rest).cons '\n').cons '\r'
  | '\n' :: rest => (longLiteral rest).cons '\n'
  | c :: rest => if isPlain c then (longLiteral rest).cons c else none

def shortString? : List Char → Rest
  | '"' :: rest => basic rest
  | '\x27' :: rest => literal rest
  | _ => none

def string? : List Char → Rest
  | '"' :: '"' :: '"' :: rest => longBasic (dropFirstBreak rest)
  | '\x27' :: '\x27' :: '\x27' :: rest => longLiteral (dropFirstBreak rest)
  | cs => shortString? cs

end Scrollback.Toml
