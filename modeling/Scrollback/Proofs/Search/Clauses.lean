import Scrollback.Proofs.Search.Queries
import Scrollback.Proofs.Search.Separated

/-! Queries that are written clause by clause. A value in quotes ends at its own closing quote,
whatever follows, and all else at the blank after it, so each clause is read back as one token and
the query asks for what its clauses ask for. Values with a quote or a line break have no such
form. -/
namespace Scrollback.Search
open Unicode

namespace Scanner

-- Where a token can end: at a blank or at the end of the text.
def Ends (tail : List Char) : Prop := ∀ x ∈ tail.head?, isBlank x = true

theorem takeAll {p : Char → Bool} {cs tail : List Char} (all : ∀ c ∈ cs, p c = true)
    (stop : ∀ x ∈ tail.head?, p x = false) : (cs ++ tail).takeWhile p = cs := by
  rw [List.takeWhile_append_of_pos all]
  cases tail with
  | nil => simp
  | cons x tail => simp [stop x rfl]

theorem scanToken {cs tail : List Char} {t : Token} (filled : cs ≠ [])
    (solid : ∀ x ∈ cs.head?, isBlank x = false) (size : tokenSize (cs ++ tail) = cs.length)
    (token : tokenAt (cs ++ tail) = t) : scan (cs ++ tail) = t :: scan tail := by
  obtain ⟨x, rest, rfl⟩ := List.exists_cons_of_ne_nil filled
  have here : (x :: (rest ++ tail)).dropWhile isBlank = x :: (rest ++ tail) := by
    simp [solid x rfl]
  rw [List.cons_append, scanCons here, ← List.cons_append, size, token, List.drop_left]

theorem scanBlank {x : Char} (blank : isBlank x = true) (cs : List Char) :
    scan (x :: cs) = scan cs :=
  scanSame (by simp [blank])

/-! Names with a value. -/

theorem namedValue {name rest : List Char} {v : Nat} (named : name ≠ [])
    (words : ∀ c ∈ name, isWord c = true) (value : valueSize? rest = some v) :
    namedSize? (name ++ ':' :: rest) = some (name.length, v) := by
  have size : nameSize (name ++ ':' :: rest) = name.length := by
    rw [nameSize, takeAll words (by simp [Token.colonNotWord])]
  have colon : (name ++ ':' :: rest)[name.length]? = some ':' := by simp
  have after : (name ++ ':' :: rest).drop (name.length + 1) = rest := by
    rw [List.drop_length_add_append]
    rfl
  rw [namedSize?, size, if_pos ⟨mt List.length_eq_zero_iff.mp named, colon⟩, after, value]
  rfl

theorem closedValue {x : Char} {inner : List Char} (first : x ≠ '\n') (unquoted : '"' ∉ inner)
    (line : '\n' ∉ inner) (tail : List Char) :
    valueSize? ('"' :: x :: (inner ++ '"' :: tail)) = some (inner.length + 3) := by
  have size : innerSize (inner ++ '"' :: tail) = inner.length := by
    rw [innerSize, takeAll _ (by simp)]
    intro c member
    have quote : c ≠ '"' := fun same => unquoted (same ▸ member)
    have newline : c ≠ '\n' := fun same => line (same ▸ member)
    simp [quote, newline]
  have closed : (inner ++ '"' :: tail)[inner.length]? = some '"' := by simp
  rw [valueSize?, quotedSize?, size, if_pos ⟨first, closed⟩]

theorem quotedValue {value : List Char} (filled : value ≠ []) (unquoted : '"' ∉ value)
    (line : '\n' ∉ value) (tail : List Char) :
    valueSize? ('"' :: (value ++ '"' :: tail)) = some (value.length + 2) := by
  obtain ⟨x, rest, rfl⟩ := List.exists_cons_of_ne_nil filled
  simp only [List.mem_cons, not_or] at unquoted line
  exact closedValue (Ne.symm line.1) unquoted.2 line.2 tail

theorem namedSolid {name : List Char} (named : name ≠ []) (words : ∀ c ∈ name, isWord c = true)
    (rest : List Char) : ∀ x ∈ (name ++ rest).head?, isBlank x = false := by
  intro x first
  have word : isWord x = true := words x (List.mem_of_mem_head? (by
    rwa [List.head?_append_of_ne_nil _ named] at first))
  by_contra blank
  rw [blankNotWord (by simpa using blank)] at word
  contradiction

theorem namedFound {name value tail : List Char} (named : name ≠ [])
    (words : ∀ c ∈ name, isWord c = true) (size : valueSize? (value ++ tail) = some value.length) :
    namedSize? (name ++ ':' :: value ++ tail) = some (name.length, value.length) := by
  rw [List.append_assoc]
  exact namedValue named words size

theorem namedWhole {name value tail : List Char} (named : name ≠ [])
    (words : ∀ c ∈ name, isWord c = true) (size : valueSize? (value ++ tail) = some value.length) :
    tokenSize (name ++ ':' :: value ++ tail) = (name ++ ':' :: value).length := by
  rw [tokenSize, namedFound named words size]
  simp only [List.length_append, List.length_cons]
  omega

theorem scanNamed {name value tail : List Char} (named : name ≠ [])
    (words : ∀ c ∈ name, isWord c = true) (size : valueSize? (value ++ tail) = some value.length) :
    scan (name ++ ':' :: value ++ tail) =
      ⟨String.ofList (name ++ ':' :: value), String.ofList name, String.ofList value⟩ ::
        scan tail := by
  have found := namedFound named words size
  have whole := namedWhole named words size
  have solid : ∀ x ∈ (name ++ ':' :: value).head?, isBlank x = false := namedSolid named words _
  refine scanToken (by simp) solid whole ?_
  rw [tokenSize, found] at whole
  rw [tokenAt, found]
  simp only [whole, List.take_left]
  congr 2
  · simp
  · rw [List.append_assoc, List.drop_length_add_append]
    simp

/-! Words. -/

theorem wordWhole {cs tail : List Char} (solid : ∀ c ∈ cs, isBlank c = false) (ends : Ends tail) :
    wordSize (cs ++ tail) = cs.length := by
  rw [wordSize, takeAll (fun c member => by simp [solid c member])
    (fun x first => by simp [ends x first])]

theorem valueNone {tail : List Char} (ends : Ends tail) : valueSize? tail = none := by
  cases tail with
  | nil => rfl
  | cons x tail =>
    have blank : isBlank x = true := ends x rfl
    have bare : quotedSize? (x :: tail) = none := by
      unfold quotedSize?
      split
      · rename_i same
        rw [(List.cons.inj same).1] at blank
        contradiction
      · rfl
    rw [valueSize?, bare, wordSize, List.takeWhile_cons_of_neg (by simp [blank])]
    rfl

-- Word characters and a colon, with something after it.
def isNamed (cs : List Char) : Bool :=
  match cs.takeWhile isWord, cs.dropWhile isWord with
  | _ :: _, ':' :: _ :: _ => true
  | _, _ => false

theorem bareUnnamed {cs tail : List Char} (bare : isNamed cs = false) (ends : Ends tail) :
    namedSize? (cs ++ tail) = none := by
  have words : ∀ c ∈ cs.takeWhile isWord, isWord c = true :=
    fun c member => List.all_eq_true.mp List.all_takeWhile c member
  have whole : cs.takeWhile isWord ++ cs.dropWhile isWord = cs := List.takeWhile_append_dropWhile
  rw [isNamed] at bare
  generalize name_def : cs.takeWhile isWord = name at bare words whole
  cases more : cs.dropWhile isWord with
  | nil =>
    rw [more, List.append_nil] at whole
    subst whole
    have size : nameSize (name ++ tail) = name.length := by
      rw [nameSize, takeAll words fun x first => blankNotWord (ends x first)]
    have next : (name ++ tail)[name.length]? ≠ some ':' := by
      rw [List.getElem?_append_right (Nat.le_refl _), Nat.sub_self, ← List.head?_eq_getElem?]
      exact fun colon => absurd (ends ':' colon) (by decide)
    rw [namedSize?, size, if_neg fun named => next named.2]
  | cons x rest =>
    have last : isWord x = false := by
      have head := List.head?_dropWhile_not isWord cs
      rwa [more] at head
    rw [more] at bare whole
    subst whole
    have size : nameSize (name ++ x :: (rest ++ tail)) = name.length := by
      rw [nameSize, takeAll words (by simp [last])]
    have next : (name ++ x :: (rest ++ tail))[name.length]? = some x := by simp
    rw [List.append_assoc, List.cons_append, namedSize?, size, next]
    by_cases named : name.length ≠ 0 ∧ some x = some ':'
    · obtain ⟨y, more, rfl⟩ := List.exists_cons_of_length_pos (Nat.pos_of_ne_zero named.1)
      cases Option.some.inj named.2
      -- The colon is the last character, so no value follows.
      have alone : rest = [] := by
        cases rest with
        | nil => rfl
        | cons z rest => simp at bare
      subst alone
      rw [if_pos named, List.drop_length_add_append, List.nil_append, List.drop_succ_cons,
        List.drop_zero, valueNone ends]
      rfl
    · rw [if_neg named]

end Scanner

-- The names whose values can be written in quotes.
inductive Field where
  | author | channel | pattern | flags
  deriving DecidableEq

def Field.name : Field → String
  | .author => "from"
  | .channel => "in"
  | .pattern => "regex"
  | .flags => "is"

structure Quotable where
  text : String
  filled : text ≠ ""
  unquoted : '"' ∉ text.toList
  line : '\n' ∉ text.toList

structure Bare where
  text : String
  filled : text ≠ ""
  solid : ∀ c ∈ text.toList, isBlank c = false
  unnamed : Scanner.isNamed text.toList = false

inductive Clause where
  | valued (field : Field) (value : Quotable)
  | link
  | word (bare : Bare)

namespace Clause

def write : Clause → String
  | .valued field value => field.name ++ ":\"" ++ value.text ++ "\""
  | .link => "has:link"
  | .word bare => bare.text

def query (clauses : List Clause) : String := " ".intercalate (clauses.map write)

def test? : Clause → Option Predicate
  | .valued .pattern value => some (.ofRegex value.text true)
  | .valued .flags value => some (.ofFlagNames value.text)
  | .valued _ _ => none
  | .link => some .link
  | .word bare => some (.substring bare.text)

def value? (field : Field) : Clause → Option String
  | .valued other value => if other = field then some value.text else none
  | _ => none

def asked (clauses : List Clause) : List Predicate :=
  let authors := clauses.filterMap (value? .author)
  let channels := clauses.filterMap (value? .channel)
  clauses.filterMap test? ++ (if authors = [] then [] else [.author authors])
    ++ (if channels = [] then [] else [.channel channels])

def token : Clause → Token
  | .valued field value =>
    ⟨field.name ++ ":\"" ++ value.text ++ "\"", field.name, "\"" ++ value.text ++ "\""⟩
  | .link => ⟨"has:link", "has", "link"⟩
  | .word bare => { text := bare.text }

theorem quotedPlain (text : String) : unquoted ("\"" ++ text ++ "\"") = text := by
  have written : ("\"" ++ text ++ "\"").toList = '"' :: (text.toList ++ ['"']) := by simp
  simp [unquoted, written]

-- Values with blanks, colons and names in them, and words with quotes and colons beside them.
def mixed : List Clause := [
  .word ⟨"say\"", by decide, by simp [isBlank], by decide⟩,
  .valued .author ⟨"ann: b", by decide, by decide, by decide⟩,
  .word ⟨"a:", by decide, by simp [isBlank], by decide⟩,
  .link,
  .valued .pattern ⟨"kappa\u3000in:\\d+", by decide, by decide, by decide⟩,
  .valued .channel ⟨"#c d", by decide, by decide, by decide⟩,
  .valued .flags ⟨"sub,reply", by decide, by decide, by decide⟩,
  .valued .author ⟨"x", by decide, by decide, by decide⟩,
  .word ⟨"\"", by decide, by simp [isBlank], by decide⟩]

end Clause

end Scrollback.Search
