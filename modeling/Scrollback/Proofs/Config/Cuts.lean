import Scrollback.Color
import Scrollback.Proofs.Text.Bytes

/-! Texts that are cut inside a character when a colour is read from them. If a text is as long as
a colour, it is cut where its channels end, whatever stands there. -/
namespace Scrollback

theorem boundError {ε α β : Type} {x : Except ε α} {f : α → Except ε β} {e : ε} :
    (x >>= f) = .error e ↔ x = .error e ∨ ∃ a, x = .ok a ∧ f a = .error e := by
  cases x with
  | error d =>
    change Except.error d = .error e ↔ _
    simp
  | ok a =>
    change f a = .error e ↔ _
    simp

theorem boundValue {ε α β : Type} {x : Except ε α} {f : α → Except ε β} {b : β} :
    (x >>= f) = .ok b ↔ ∃ a, x = .ok a ∧ f a = .ok b := by
  cases x with
  | error e =>
    change Except.error e = .ok b ↔ _
    simp
  | ok a =>
    change f a = .ok b ↔ _
    simp

namespace Color
open String (utf8Len)
open Text (takeBytes? bytesTaken prefixTaken)

section Channels

variable {n size : Nat} {cs rest : List Char}

-- Byte `n` lies inside a character.
def Splits (n : Nat) (cs : List Char) : Prop :=
  ∃ before c after, cs = before ++ c :: after ∧ utf8Len before < n ∧
    n < utf8Len before + c.utf8Size

theorem splitsLater {c : Char} (fits : c.utf8Size ≤ n) :
    Splits n (c :: cs) ↔ Splits (n - c.utf8Size) cs := by
  constructor
  · rintro ⟨before, d, after, same, short, long⟩
    cases before with
    | nil =>
      cases same
      rw [String.utf8Len_nil] at long
      omega
    | cons _ before =>
      cases same
      rw [String.utf8Len_cons] at short long
      exact ⟨before, d, after, rfl, by omega, by omega⟩
  · rintro ⟨before, d, after, rfl, short, long⟩
    refine ⟨c :: before, d, after, rfl, ?_, ?_⟩
    all_goals
      rw [String.utf8Len_cons]
      omega

theorem notTaken (long : n ≤ utf8Len cs) : takeBytes? n cs = none ↔ Splits n cs := by
  fun_induction takeBytes? n cs with
  | case1 cs =>
    refine iff_of_false (Option.some_ne_none _) ?_
    rintro ⟨_, _, _, _, short, _⟩
    exact Nat.not_lt_zero _ short
  | case2 n => exact absurd long (Nat.not_succ_le_zero n)
  | case3 n c cs fits ih =>
    rw [String.utf8Len_cons] at long
    rw [Option.map_eq_none_iff, ih (by omega), splitsLater fits]
  | case4 n c cs wide =>
    refine iff_of_true rfl ⟨[], c, cs, rfl, Nat.succ_pos n, ?_⟩
    rw [String.utf8Len_nil]
    omega

-- A channel that is to be read next ends inside a character, and those before it can be read.
inductive Cut (size : Nat) : Nat → List Char → Prop where
  | here {k : Nat} {cs : List Char} (splits : Splits size cs) : Cut size (k + 1) cs
  | later {k : Nat} {channel rest : List Char} (length : utf8Len channel = size)
      (digits : (channel? channel).isSome = true) (cut : Cut size k rest) :
      Cut size (k + 1) (channel ++ rest)

theorem readChannelCut : readChannel size cs = .error .splitCharacter ↔
    takeBytes? size cs = none := by
  rw [readChannel]
  cases takeBytes? size cs with
  | none => exact iff_of_true rfl rfl
  | some found =>
    refine iff_of_false ?_ nofun
    dsimp only
    split <;> nofun

theorem readChannelOk {m : Nat} : readChannel size cs = .ok (m, rest) ↔
    ∃ channel, cs = channel ++ rest ∧ utf8Len channel = size ∧ channel? channel = some m := by
  constructor
  · intro read
    rw [readChannel] at read
    cases found : takeBytes? size cs with
    | none =>
      rw [found] at read
      cases read
    | some pair =>
      obtain ⟨channel, after⟩ := pair
      obtain ⟨split, length⟩ := bytesTaken found
      rw [found] at read
      cases value : channel? channel with
      | none => simp only [value, reduceCtorEq] at read
      | some =>
        simp only [value, Except.ok.injEq, Prod.mk.injEq] at read
        obtain ⟨rfl, rfl⟩ := read
        exact ⟨channel, split, length, value⟩
  · rintro ⟨channel, rfl, rfl, value⟩
    rw [readChannel, prefixTaken]
    dsimp only
    rw [value]

theorem cutNext {k : Nat} (long : size ≤ utf8Len cs) :
    Cut size (k + 1) cs ↔ readChannel size cs = .error .splitCharacter ∨
      ∃ a, readChannel size cs = .ok a ∧ Cut size k a.2 := by
  rw [readChannelCut, notTaken long]
  constructor
  · intro cut
    cases cut with
    | here splits => exact .inl splits
    | later length digits cut =>
      obtain ⟨m, value⟩ := Option.isSome_iff_exists.mp digits
      exact .inr ⟨(m, _), readChannelOk.mpr ⟨_, rfl, length, value⟩, cut⟩
  · rintro (splits | ⟨⟨m, rest⟩, read, cut⟩)
    · exact .here splits
    · obtain ⟨channel, rfl, length, value⟩ := readChannelOk.mp read
      exact .later length (Option.isSome_of_eq_some value) cut

theorem readChannelsCut {scale : Nat} (length : utf8Len cs = 3 * size) :
    readChannels size scale cs = .error .splitCharacter ↔ Cut size 3 cs := by
  have shorter {cs : List Char} {a : Nat × List Char} (read : readChannel size cs = .ok a) :
      utf8Len cs = size + utf8Len a.2 := by
    obtain ⟨channel, rfl, length, -⟩ := readChannelOk.mp read
    rw [String.utf8Len_append, length]
  rw [readChannels, boundError, cutNext (by omega)]
  refine or_congr_right (exists_congr fun ⟨red, rest⟩ => and_congr_right fun read => ?_)
  have left := shorter read
  dsimp only at left ⊢
  rw [boundError, cutNext (by omega)]
  refine or_congr_right (exists_congr fun ⟨green, rest⟩ => and_congr_right fun read => ?_)
  have left := shorter read
  dsimp only at left ⊢
  rw [boundError, cutNext (by omega)]
  exact or_congr_right (exists_congr fun blue => and_congr_right fun _ => iff_of_false nofun nofun)

end Channels

-- What is left of a text without the blanks around it and the mark of a colour.
def digitsOf (text : String) : List Char :=
  match Text.trimChars text.toList with
  | '#' :: rest => rest
  | cs => cs

-- A text is cut if it is as long as a colour and a channel in it ends inside a character.
def CutText (text : String) : Prop :=
  ∃ size ∈ [1, 2], utf8Len (digitsOf text) = 3 * size ∧ Cut size 3 (digitsOf text)

theorem parseSized (text : String) : parse text =
    if utf8Len (digitsOf text) = 3 then readChannels 1 17 (digitsOf text)
    else if utf8Len (digitsOf text) = 6 then readChannels 2 1 (digitsOf text)
    else .error .length := by
  unfold parse
  extract_lets trimmed cs
  have digits : digitsOf text = cs := rfl
  rw [digits, ← String.utf8ByteSize_ofList]
  split
  · rename_i three
    rw [if_pos three]
  · rename_i six
    rw [if_neg (by omega), if_pos six]
  · rename_i notThree notSix
    rw [if_neg notThree, if_neg notSix]

theorem cutText (text : String) : parse text = .error .splitCharacter ↔ CutText text := by
  rw [parseSized, CutText]
  split
  · rename_i three
    rw [readChannelsCut three, three]
    simp
  · rename_i notThree
    split
    · rename_i six
      rw [readChannelsCut six, six]
      simp
    · rename_i notSix
      refine iff_of_false (by simp) ?_
      rintro ⟨size, listed, length, -⟩
      simp only [List.mem_cons, List.not_mem_nil, or_false] at listed
      rcases listed with rfl | rfl
      · exact notThree length
      · exact notSix length

end Color

end Scrollback
