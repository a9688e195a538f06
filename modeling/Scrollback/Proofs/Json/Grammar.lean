import Mathlib.Data.List.Forall2
import Scrollback.Json.Reader

/-! What counts as JSON text, said without a reader. A form holds of the texts that write one
thing. The value of a member that nobody asks for may be any text of the form `IsValue`. -/
namespace Scrollback.Json

abbrev Form := List Char → Prop

def Blank : Form := fun w => ∀ c ∈ w, isBlank c = true

section Strings

def HexDigit (n : Nat) (c : Char) : Prop :=
  n < 16 ∧ (c = Nat.digitChar n ∨ c = (Nat.digitChar n).toUpper)

-- The number that four digits write.
inductive CodeUnit : Nat → Form where
  | digits {k l m n : Nat} {a b c d : Char} (first : HexDigit k a) (second : HexDigit l b)
      (third : HexDigit m c) (fourth : HexDigit n d) :
      CodeUnit (((k * 16 + l) * 16 + m) * 16 + n) [a, b, c, d]

-- Marks that follow a backslash, and the characters they stand for.
def shortForms : List (Char × Char) :=
  [('"', '"'), ('\\', '\\'), ('/', '/'), ('b', '\x08'), ('f', '\x0c'), ('n', '\n'), ('r', '\r'),
    ('t', '\t')]

inductive Spells (c : Char) : Form where
  | plain (printed : 0x20 ≤ c.toNat) (noQuote : c ≠ '"') (noEscape : c ≠ '\\') : Spells c [c]
  | short {mark : Char} (listed : (mark, c) ∈ shortForms) : Spells c ['\\', mark]
  | point {cs : List Char} (digits : CodeUnit c.toNat cs) : Spells c ('\\' :: 'u' :: cs)
  | pair {high low : Nat} {cs ds : List Char} (highBound : high < 0x400) (lowBound : low < 0x400)
      (first : CodeUnit (0xD800 + high) cs) (second : CodeUnit (0xDC00 + low) ds)
      (value : c.toNat = 0x10000 + high * 0x400 + low) :
      Spells c ('\\' :: 'u' :: (cs ++ '\\' :: 'u' :: ds))

def Quoted (s : String) : Form := fun cs =>
  ∃ pieces : List (List Char),
    List.Forall₂ Spells s.toList pieces ∧ cs = '"' :: (pieces.flatten ++ ['"'])

def isPlain (c : Char) : Bool := 0x20 ≤ c.toNat && c != '"' && c != '\\'

theorem Quoted.plain {s : String} (printed : s.toList.all isPlain = true) :
    Quoted s ('"' :: (s.toList ++ ['"'])) := by
  refine ⟨s.toList.map ([·]), ?_, by rw [← List.flatMap_def, List.flatMap_singleton']⟩
  rw [List.forall₂_map_right_iff, List.forall₂_same]
  intro c member
  have plain := List.all_eq_true.mp printed c member
  simp only [isPlain, Bool.and_eq_true, decide_eq_true_eq, bne_iff_ne] at plain
  exact .plain plain.1.1 plain.1.2 plain.2

-- In a string that is passed over, half of a pair may stand alone.
inductive Piece : Form where
  | char {c : Char} {cs : List Char} (spelled : Spells c cs) : Piece cs
  | half {n : Nat} {cs : List Char} (digits : CodeUnit n cs) : Piece ('\\' :: 'u' :: cs)

def IsString : Form := fun cs =>
  ∃ pieces : List (List Char), (∀ p ∈ pieces, Piece p) ∧ cs = '"' :: (pieces.flatten ++ ['"'])

end Strings

section Numbers

def Digits : Form := fun cs => ∀ c ∈ cs, c.isDigit = true

inductive Whole : Form where
  | zero : Whole ['0']
  | digits {c : Char} {cs : List Char} (digit : c.isDigit = true) (leading : c ≠ '0')
      (more : Digits cs) : Whole (c :: cs)

inductive Fraction : Form where
  | absent : Fraction []
  | digits {cs : List Char} (some : cs ≠ []) (digits : Digits cs) : Fraction ('.' :: cs)

inductive Power : Form where
  | absent : Power []
  | digits {mark : Char} {sign cs : List Char} (marked : mark = 'e' ∨ mark = 'E')
      (signed : sign = [] ∨ sign = ['+'] ∨ sign = ['-']) (some : cs ≠ []) (digits : Digits cs) :
      Power (mark :: (sign ++ cs))

inductive IsNumber : Form where
  | parts {whole fraction power : List Char} (first : Whole whole) (second : Fraction fraction)
      (third : Power power) : IsNumber (whole ++ (fraction ++ power))

end Numbers

-- Items with commas between them, and blanks wherever there may be some. The first has no comma.
inductive Sequence {α : Type} (item : α → Form) : Bool → List α → Form where
  | done {first : Bool} {w : List Char} (blank : Blank w) : Sequence item first [] w
  | first {a : α} {more : List α} {w cs rest : List Char} (blank : Blank w) (here : item a cs)
      (others : Sequence item false more rest) : Sequence item true (a :: more) (w ++ (cs ++ rest))
  | further {a : α} {more : List α} {w v cs rest : List Char} (before : Blank w) (after : Blank v)
      (here : item a cs) (others : Sequence item false more rest) :
      Sequence item false (a :: more) (w ++ ',' :: (v ++ (cs ++ rest)))

-- The name of a member with its colon.
inductive Named (name : Form) : Form where
  | colon {cs w v : List Char} (named : name cs) (before : Blank w) (after : Blank v) :
      Named name (cs ++ (w ++ ':' :: v))

-- One of some names: as a string, or as the only member of an object, with nothing for a value.
inductive Chosen (name : String) : Form where
  | string {cs : List Char} (quoted : Quoted name cs) : Chosen name cs
  | object {w cs v : List Char} (before : Blank w) (named : Named (Quoted name) cs)
      (after : Blank v) :
      Chosen name ('{' :: (w ++ (cs ++ 'n' :: 'u' :: 'l' :: 'l' :: (v ++ ['}']))))

inductive IsValue : Form where
  | null : IsValue ['n', 'u', 'l', 'l']
  | yes : IsValue ['t', 'r', 'u', 'e']
  | no : IsValue ['f', 'a', 'l', 's', 'e']
  | number {cs : List Char} (number : IsNumber cs) : IsValue cs
  | negative {cs : List Char} (number : IsNumber cs) : IsValue ('-' :: cs)
  | string {cs : List Char} (string : IsString cs) : IsValue cs
  | array {items : List (List Char)} {body : List Char} (each : ∀ v ∈ items, IsValue v)
      (listed : Sequence Eq true items body) : IsValue ('[' :: (body ++ [']']))
  | object {members : List (List Char × List Char)} {body : List Char}
      (names : ∀ m ∈ members, Named IsString m.1) (each : ∀ m ∈ members, IsValue m.2)
      (listed : Sequence (fun m cs => m.1 ++ m.2 = cs) true members body) :
      IsValue ('{' :: (body ++ ['}']))

end Scrollback.Json
