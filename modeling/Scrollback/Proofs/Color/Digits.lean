import Mathlib
import Scrollback.Proofs.Config.Cuts
import Scrollback.Proofs.Text.Blanks

/-! How colours are written. Besides three or six hexadecimal digits, a text of six characters is taken in
which the first character of a channel is a plus sign; what is read from the other texts is what
their digits say. -/
namespace Scrollback.Color
open String (utf8Len)
open Unicode (hexDigit? isBlank)

section Digits

variable {x y : Char} {m n : Nat}

theorem digitCode (digit : hexDigit? x = some n) : x.toNat < 0x80 := by
  have upTo {last : Char} (before : x ≤ last) : x.toNat ≤ last.toNat :=
    UInt32.le_iff_toNat_le.mp before
  unfold hexDigit? at digit
  split at digit
  · rename_i decimal
    exact Nat.lt_of_le_of_lt (upTo decimal.2) (by decide)
  split at digit
  · rename_i lower
    exact Nat.lt_of_le_of_lt (upTo lower.2) (by decide)
  split at digit
  · rename_i upper
    exact Nat.lt_of_le_of_lt (upTo upper.2) (by decide)
  · contradiction

theorem asciiDigit : ∀ k < 0x80, (hexDigit? (Char.ofNat k)).isSome = true →
    (Char.ofNat k).utf8Size = 1 ∧ isBlank (Char.ofNat k) = false ∧ Char.ofNat k ≠ '#' ∧
      Char.ofNat k ≠ '+' := by
  decide

theorem digitPlain (digit : hexDigit? x = some n) :
    x.utf8Size = 1 ∧ isBlank x = false ∧ x ≠ '#' ∧ x ≠ '+' := by
  have plain := asciiDigit x.toNat (digitCode digit)
  rw [Char.ofNat_toNat] at plain
  exact plain (Option.isSome_of_eq_some digit)

theorem digitWritten : ∀ k < 16, hexDigit? (Nat.digitChar k) = some k := by decide

end Digits

/-! What can stand for a channel, and which number it stands for. -/

-- One digit stands for two of it.
inductive Single : List Char → Nat → Prop where
  | digit {x : Char} {n : Nat} (digit : hexDigit? x = some n) : Single [x] (n * 16 + n)

inductive Pair : List Char → Nat → Prop where
  | digits {x y : Char} {m n : Nat} (high : hexDigit? x = some m) (low : hexDigit? y = some n) :
      Pair [x, y] (m * 16 + n)

inductive Signed : List Char → Nat → Prop where
  | sign {y : Char} {n : Nat} (digit : hexDigit? y = some n) : Signed ['+', y] n

inductive Spells (channel : List Char → Nat → Prop) : List Char → Color → Prop where
  | channels {r g b : List Char} {red green blue : Nat} (first : channel r red)
      (second : channel g green) (third : channel b blue) :
      Spells channel (r ++ (g ++ b)) ⟨.ofNat red, .ofNat green, .ofNat blue⟩

section Spells

variable {channel other : List Char → Nat → Prop} {cs : List Char} {c : Color}

theorem Spells.mono (within : ∀ ds n, ds ⊆ cs → channel ds n → other ds n)
    (spells : Spells channel cs c) : Spells other cs c := by
  obtain ⟨first, second, third⟩ := spells
  have red {r rest : List Char} : r ⊆ r ++ rest := List.subset_append_left _ _
  have later {r rest ds : List Char} (inside : ds ⊆ rest) : ds ⊆ r ++ rest :=
    List.subset_append_of_subset_right _ inside
  exact .channels (within _ _ red first) (within _ _ (later red) second)
    (within _ _ (later (List.subset_append_right _ _)) third)

theorem Spells.each {P : Char → Prop} (each : ∀ ds n, channel ds n → ∀ x ∈ ds, P x)
    (spells : Spells channel cs c) : ∀ x ∈ cs, P x := by
  obtain ⟨first, second, third⟩ := spells
  intro x member
  rcases List.mem_append.mp member with red | member
  · exact each _ _ first x red
  rcases List.mem_append.mp member with green | blue
  · exact each _ _ second x green
  · exact each _ _ third x blue

theorem Spells.length {size : Nat} (length : ∀ ds n, channel ds n → utf8Len ds = size)
    (spells : Spells channel cs c) : utf8Len cs = 3 * size := by
  obtain ⟨first, second, third⟩ := spells
  rw [String.utf8Len_append, String.utf8Len_append, length _ _ first, length _ _ second,
    length _ _ third]
  omega

-- What a colour is meant to be: three or six hexadecimal digits.
def Hex (cs : List Char) (c : Color) : Prop := Spells Single cs c ∨ Spells Pair cs c

-- What is taken for one.
def Taken (cs : List Char) (c : Color) : Prop :=
  Spells Single cs c ∨ Spells (fun ds n => Pair ds n ∨ Signed ds n) cs c

end Spells

section Channels

variable {ds : List Char} {n : Nat}

theorem channelOne (x : Char) : channel? [x] = hexDigit? x := by
  by_cases sign : x = '+'
  · subst sign
    decide
  · rw [channel?]
    · simp
    · exact fun rest same => sign (List.cons.inj same).1

theorem channelTwo {x y : Char} : channel? [x, y] = some n ↔ Pair [x, y] n ∨ Signed [x, y] n := by
  by_cases sign : x = '+'
  · subst sign
    have value : channel? ['+', y] = hexDigit? y := by simp [channel?]
    rw [value]
    constructor
    · exact fun digit => .inr (.sign digit)
    · rintro (pair | signed)
      · cases pair with
        | digits high => cases (by decide : hexDigit? '+' = none).symm.trans high
      · cases signed with
        | sign digit => exact digit
  · have value : channel? [x, y] = (hexDigit? x).bind fun m => (hexDigit? y).map (m * 16 + ·) := by
      rw [channel?]
      · cases high : hexDigit? x <;> cases low : hexDigit? y <;> simp [high, low]
      · exact fun rest same => sign (List.cons.inj same).1
    simp only [value, Option.bind_eq_some_iff, Option.map_eq_some_iff]
    constructor
    · rintro ⟨m, high, k, low, rfl⟩
      exact .inl (.digits high low)
    · rintro (pair | signed)
      · cases pair with
        | digits high low => exact ⟨_, high, _, low, rfl⟩
      · cases signed
        contradiction

theorem singleRead : utf8Len ds = 1 ∧ (∃ m, channel? ds = some m ∧ n = m * 17) ↔ Single ds n := by
  constructor
  · rintro ⟨length, m, value, rfl⟩
    cases ds with
    | nil => contradiction
    | cons x rest =>
      have wide := x.utf8Size_pos
      rw [String.utf8Len_cons] at length
      obtain rfl : rest = [] := String.utf8Len_eq_zero.mp (by omega)
      rw [channelOne] at value
      rw [show m * 17 = m * 16 + m by omega]
      exact .digit value
  · rintro @⟨_, _, digit⟩
    refine ⟨?_, _, (channelOne _).trans digit, by omega⟩
    rw [String.utf8Len_cons, (digitPlain digit).1, String.utf8Len_nil]

theorem pairLength (pair : Pair ds n ∨ Signed ds n) : utf8Len ds = 2 := by
  rcases pair with ⟨high, low⟩ | @⟨_, _, digit⟩
  · simp only [String.utf8Len_cons, String.utf8Len_nil, (digitPlain high).1, (digitPlain low).1]
  · simp only [String.utf8Len_cons, String.utf8Len_nil, (digitPlain digit).1]
    rfl

theorem pairRead :
    utf8Len ds = 2 ∧ (∃ m, channel? ds = some m ∧ n = m * 1) ↔ Pair ds n ∨ Signed ds n := by
  simp only [Nat.mul_one, exists_eq_right']
  constructor
  · rintro ⟨length, value⟩
    match ds with
    | [] => contradiction
    | [x] =>
      -- A character of two bytes is no digit.
      rw [channelOne] at value
      rw [String.utf8Len_cons, (digitPlain value).1] at length
      contradiction
    | [x, y] => exact channelTwo.mp value
    | x :: y :: z :: rest =>
      have wide := x.utf8Size_pos
      have wider := y.utf8Size_pos
      have widest := z.utf8Size_pos
      simp only [String.utf8Len_cons] at length
      omega
  · intro pair
    refine ⟨pairLength pair, ?_⟩
    rcases pair with ⟨high, low⟩ | @⟨_, _, digit⟩
    · exact channelTwo.mpr (.inl (.digits high low))
    · exact channelTwo.mpr (.inr (.sign digit))

end Channels

theorem readChannelsOk {size scale : Nat} {cs : List Char} {c : Color}
    (length : utf8Len cs = 3 * size) :
    readChannels size scale cs = .ok c ↔
      Spells (fun ds n => utf8Len ds = size ∧ ∃ m, channel? ds = some m ∧ n = m * scale) cs c := by
  simp only [readChannels, boundValue, Prod.exists, readChannelOk]
  constructor
  · rintro ⟨red, afterRed, ⟨r, rfl, rLength, rValue⟩, green, afterGreen, ⟨g, rfl, gLength, gValue⟩,
      blue, rest, ⟨b, rfl, bLength, bValue⟩, same⟩
    cases same
    simp only [String.utf8Len_append] at length
    have nothing : rest = [] := String.utf8Len_eq_zero.mp (by omega)
    rw [nothing, List.append_nil]
    exact .channels ⟨rLength, red, rValue, rfl⟩ ⟨gLength, green, gValue, rfl⟩ ⟨bLength, blue, bValue, rfl⟩
  · rintro ⟨⟨rLength, red, rValue, rfl⟩, ⟨gLength, green, gValue, rfl⟩, ⟨bLength, blue, bValue, rfl⟩⟩
    exact ⟨red, _, ⟨_, rfl, rLength, rValue⟩, green, _, ⟨_, rfl, gLength, gValue⟩, blue, [],
      ⟨_, (List.append_nil _).symm, bLength, bValue⟩, rfl⟩

theorem readThree {cs : List Char} {c : Color} (length : utf8Len cs = 3) :
    readChannels 1 17 cs = .ok c ↔ Spells Single cs c := by
  rw [readChannelsOk (by omega)]
  exact ⟨.mono fun _ _ _ => singleRead.mp, .mono fun _ _ _ => singleRead.mpr⟩

theorem readSix {cs : List Char} {c : Color} (length : utf8Len cs = 6) :
    readChannels 2 1 cs = .ok c ↔ Spells (fun ds n => Pair ds n ∨ Signed ds n) cs c := by
  rw [readChannelsOk (by omega)]
  exact ⟨.mono fun _ _ _ => pairRead.mp, .mono fun _ _ _ => pairRead.mpr⟩

theorem parseOk {text : String} {c : Color} : parse text = .ok c ↔ Taken (digitsOf text) c := by
  have three (spells : Spells Single (digitsOf text) c) : utf8Len (digitsOf text) = 3 :=
    spells.length fun _ _ single => (singleRead.mpr single).1
  have six (spells : Spells (fun ds n => Pair ds n ∨ Signed ds n) (digitsOf text) c) :
      utf8Len (digitsOf text) = 6 :=
    spells.length fun _ _ => pairLength
  rw [parseSized]
  constructor
  · intro read
    split at read
    · rename_i length
      exact .inl ((readThree length).mp read)
    · split at read
      · rename_i length
        exact .inr ((readSix length).mp read)
      · contradiction
  · rintro (spells | spells)
    · have length := three spells
      rw [if_pos length]
      exact (readThree length).mpr spells
    · have length := six spells
      rw [if_neg (by omega), if_pos length]
      exact (readSix length).mpr spells

section Written

variable {cs : List Char} {c : Color}

-- Neither a blank nor the mark of a colour.
def Solid (cs : List Char) : Prop := ∀ x ∈ cs, isBlank x = false ∧ x ≠ '#'

theorem Hex.plain (hex : Hex cs c) : Solid cs ∧ '+' ∉ cs := by
  have each : ∀ x ∈ cs, ∃ n, hexDigit? x = some n := by
    rcases hex with spells | spells
    · refine spells.each fun _ _ single => ?_
      obtain @⟨x, n, digit⟩ := single
      simp [digit]
    · refine spells.each fun _ _ pair => ?_
      obtain ⟨high, low⟩ := pair
      simp [high, low]
  constructor
  · intro x member
    obtain ⟨n, digit⟩ := each x member
    obtain ⟨-, solid, mark, -⟩ := digitPlain digit
    exact ⟨solid, mark⟩
  · intro member
    obtain ⟨n, digit⟩ := each '+' member
    exact (digitPlain digit).2.2.2 rfl

theorem Taken.solid (taken : Taken cs c) : Solid cs := by
  rcases taken with spells | spells
  · exact (Hex.plain (.inl spells)).1
  · refine spells.each fun ds n channel => ?_
    rcases channel with ⟨high, low⟩ | @⟨y, _, digit⟩
    · have first := (digitPlain high).2
      have second := (digitPlain low).2
      simp [first.1, first.2.1, second.1, second.2.1]
    · have only := (digitPlain digit).2
      have sign : isBlank '+' = false := by decide
      simp [sign, only.1, only.2.1]

theorem hexTaken : Hex cs c ↔ Taken cs c ∧ '+' ∉ cs := by
  constructor
  · intro hex
    exact ⟨hex.imp_right (.mono fun _ _ _ => .inl), hex.plain.2⟩
  · rintro ⟨taken, unsigned⟩
    refine taken.imp_right (.mono fun ds n inside channel => ?_)
    rcases channel with pair | signed
    · exact pair
    · cases signed
      exact absurd (inside List.mem_cons_self) unsigned

-- A text that holds a colour and nothing else, but for blanks around it and a mark before it.
inductive Written (holds : List Char → Color → Prop) : String → Color → Prop where
  | within {before mark digits after : List Char} {c : Color}
      (left : ∀ x ∈ before, isBlank x = true) (right : ∀ x ∈ after, isBlank x = true)
      (marked : mark ∈ [[], ['#']]) (spelled : holds digits c) :
      Written holds (String.ofList (before ++ (mark ++ digits) ++ after)) c

theorem markCut (text : String) :
    ∃ mark ∈ [[], ['#']], Text.trimChars text.toList = mark ++ digitsOf text := by
  rw [digitsOf]
  split
  · rename_i rest trimmed
    exact ⟨['#'], by simp, trimmed⟩
  · exact ⟨[], by simp, rfl⟩

theorem digitsWithin {before mark digits after : List Char} (left : ∀ x ∈ before, isBlank x = true)
    (right : ∀ x ∈ after, isBlank x = true) (marked : mark ∈ [[], ['#']]) (solid : Solid digits) :
    digitsOf (String.ofList (before ++ (mark ++ digits) ++ after)) = digits := by
  have stripped : Text.Stripped (mark ++ digits) := by
    refine Text.strippedSolid fun x member => ?_
    rcases List.mem_append.mp member with front | member
    · rcases List.mem_pair.mp marked with rfl | rfl
      · contradiction
      · rw [List.mem_singleton.mp front]
        decide
    · exact (solid x member).1
  rw [digitsOf, String.toList_ofList, Text.trimAround stripped left right]
  rcases List.mem_pair.mp marked with rfl | rfl
  · split
    · rename_i rest same
      rw [List.nil_append] at same
      exact absurd rfl (solid '#' (by rw [same]; exact List.mem_cons_self)).2
    · rfl
  · rfl

theorem textCut (text : String) :
    ∃ before mark after : List Char, text.toList = before ++ (mark ++ digitsOf text) ++ after ∧
      (∀ x ∈ before, isBlank x = true) ∧ (∀ x ∈ after, isBlank x = true) ∧ mark ∈ [[], ['#']] := by
  obtain ⟨before, after, whole, left, right⟩ := Text.trimCut text.toList
  obtain ⟨mark, marked, trimmed⟩ := markCut text
  exact ⟨before, mark, after, trimmed ▸ whole, left, right, marked⟩

theorem writtenIff {holds : List Char → Color → Prop} (solid : ∀ {cs c}, holds cs c → Solid cs)
    {text : String} : Written holds text c ↔ holds (digitsOf text) c := by
  constructor
  · rintro ⟨left, right, marked, spelled⟩
    rwa [digitsWithin left right marked (solid spelled)]
  · intro spelled
    obtain ⟨before, mark, after, whole, left, right, marked⟩ := textCut text
    have written := Written.within left right marked spelled
    rwa [← whole, String.ofList_toList] at written

theorem signInside (text : String) : '+' ∈ text.toList ↔ '+' ∈ digitsOf text := by
  obtain ⟨before, mark, after, whole, left, right, marked⟩ := textCut text
  have blank : isBlank '+' ≠ true := by decide
  have outside : '+' ∉ mark := by
    rcases List.mem_pair.mp marked with rfl | rfl <;> decide
  rw [whole]
  simp only [List.mem_append, outside, mt (left '+') blank, mt (right '+') blank, false_or, or_false]

end Written

theorem pairWritten (n : UInt8) : Pair (hexPair n) n.toNat := by
  have size := n.toNat_lt
  have value : n.toNat / 16 * 16 + n.toNat % 16 = n.toNat := by omega
  rw [hexPair]
  conv => rhs; rw [← value]
  exact .digits (digitWritten _ (by omega)) (digitWritten _ (by omega))

theorem writeHex (c : Color) : Written Hex c.write c := by
  let pairs := hexPair c.red ++ (hexPair c.green ++ hexPair c.blue)
  have spelled : Spells Pair pairs c := by
    have channels := Spells.channels (pairWritten c.red) (pairWritten c.green) (pairWritten c.blue)
    simpa only [UInt8.ofNat_toNat] using channels
  have written : Written Hex (String.ofList ([] ++ (['#'] ++ pairs) ++ [])) c :=
    .within nofun nofun (by simp) (.inr spelled)
  simpa [pairs, write] using written

/-- A text is taken for a colour if it is three hexadecimal digits or three pairs of them, or of a plus sign
and a digit, with blanks around and perhaps a mark before them, so the texts that are meant are those
without a sign. Reading breaks off where a channel ends inside a character. A colour is written as
it is meant. -/
theorem colorsTaken (text : String) (c : Color) :
    (parse text = .ok c ↔ Written Taken text c) ∧
    (Written Hex text c ↔ parse text = .ok c ∧ '+' ∉ text.toList) ∧
    (parse text = .error .splitCharacter ↔ CutText text) ∧
    Written Hex c.write c ∧ parse c.write = .ok c := by
  have taken : parse text = .ok c ↔ Written Taken text c := by
    rw [writtenIff Taken.solid, parseOk]
  refine ⟨taken, ?_, cutText text, writeHex c, ?_⟩
  · rw [writtenIff fun hex => hex.plain.1, hexTaken, parseOk, signInside]
  · have hex := (writtenIff fun hex => hex.plain.1).mp (writeHex c)
    exact parseOk.mpr (hexTaken.mp hex).1

theorem signsTaken :
    parse " #+1+2+3\n" = .ok ⟨1, 2, 3⟩ ∧ ∀ c, ¬Written Hex " #+1+2+3\n" c := by
  refine ⟨by cbv, fun c meant => ?_⟩
  exact ((colorsTaken _ c).2.1.mp meant).2 (by decide)

end Scrollback.Color
