import Mathlib
import Scrollback.Ignore
import Scrollback.Proofs.Regex.Places
import Scrollback.Proofs.Regex.Runs

/-! The channel at the start of an ignored entry, as the pattern for it finds it: a mark, and after it as
many characters up to 49 as are neither a bell nor a comma nor a space. Where the channel ends, it is
not asked what follows, and blanks other than the space are taken for characters of its name. -/
namespace Scrollback.Ignore
open Regex (Plain Progress Cursor CharSet Match)

def isMark (c : Char) : Bool := c == '#' || c == '&'

def inName (c : Char) : Bool := c != '\x07' && c != ',' && c != ' '

-- A mark and a name of 1 to 49 characters.
inductive Channel : List Char → Prop
  | named {mark : Char} {name : List Char} (marked : isMark mark = true) (filled : name ≠ [])
      (short : name.length ≤ 49) (inside : ∀ c ∈ name, inName c = true) : Channel (mark :: name)

/- A channel that a text begins with, as far as it goes, and the rest of the text. -/
structure Cut (channel rest : List Char) : Prop where
  named : Channel channel
  longest : channel.length = 50 ∨ ∀ c ∈ rest.head?, inName c = false

def startsChannel : List Char → Bool
  | mark :: c :: _ => isMark mark && inName c
  | _ => false

def markSet : CharSet := .union (.single '#') (.single '&')

def nameSet : CharSet := .not (.union (.single '\x07') (.union (.single ',') (.single ' ')))

def channelPart : Plain := .seq (.set markSet) (.run nameSet 1 (some 49) true)

def channelRegex : Regex where
  source := channelSource
  program := .plain (.seq (.assert .textStart) channelPart)
  names := []

theorem patternRead : channelPattern = .ok channelRegex := by cbv

theorem markContains (c : Char) : markSet.contains c = isMark c := by
  simp only [markSet, CharSet.contains, Regex.singleContains, isMark]

theorem nameContains : nameSet.contains = inName := by
  funext c
  simp only [nameSet, CharSet.contains, Regex.singleContains, inName, Bool.not_or, bne, Bool.and_assoc]

-- How many characters of a name come next, of those that a channel takes in.
def nameSize (cs : List Char) : Nat := min 49 (cs.takeWhile inName).length

def channelSize? : List Char → Option Nat
  | [] => none
  | mark :: rest => if isMark mark && nameSize rest != 0 then some (nameSize rest + 1) else none

theorem channelFirst (c : Cursor) :
    channelPart.first? (.start c) = (channelSize? c.after).map (Progress.start c).skip := by
  cases h : c.after with
  | nil =>
    have none : (Progress.start c).take? markSet = none := Progress.takeAtEnd _ h
    simp [channelPart, Plain.first?, Plain.ends, none, channelSize?]
  | cons mark rest =>
    have taken : (Progress.start c).take? markSet =
        if isMark mark then some ((Progress.start c).skip 1) else none := by
      rw [← markContains]
      exact Progress.takeOf _ h
    have size : min 49 (((Progress.start c).skip 1).span nameSet) = nameSize rest := by
      rw [Progress.spanOf rest (by simp [Progress.start, h]), nameContains, nameSize]
    rw [channelPart, Plain.first?, Plain.ends, taken, channelSize?]
    cases isMark mark with
    | false => rfl
    | true =>
      simp only [if_true, Option.toList_some, List.findSome?_cons, List.findSome?_nil,
        Plain.greedyRunWithin, size, Progress.skipSkip, Nat.add_comm 1]
      by_cases empty : nameSize rest = 0
      · simp [empty]
      · simp [empty]

theorem splitRead (entry : String) :
    splitChannel? entry = (channelSize? entry.toList).map fun n =>
      (String.ofList (entry.toList.take n), String.ofList (entry.toList.drop n)) := by
  rw [splitChannel?, patternRead]
  simp only
  rw [Regex.findAnchored rfl, channelFirst, Option.map_map, Option.map_map]
  refine congrArg (Option.map · _) (funext fun n => ?_)
  simp [Match.ofProgress, Match.text, Match.chars, Progress.slot?, Progress.start, Progress.skip,
    Cursor.textToSkip, Cursor.start]

theorem cutSize {channel rest : List Char} (cut : Cut channel rest) :
    channelSize? (channel ++ rest) = some channel.length := by
  obtain ⟨⟨marked, filled, short, inside⟩, longest⟩ := cut
  rename_i mark name
  have size : nameSize (name ++ rest) = name.length := by
    rw [nameSize, List.takeWhile_append_of_pos inside, List.length_append]
    rcases longest with full | stop
    · rw [List.length_cons] at full
      omega
    · have none : rest.takeWhile inName = [] := by
        cases rest with
        | nil => rfl
        | cons c rest => exact List.takeWhile_cons_of_neg (by simp [stop c rfl])
      rw [none, List.length_nil]
      omega
  have some : name.length ≠ 0 := mt List.length_eq_zero_iff.mp filled
  simp [channelSize?, marked, size, some]

theorem nameLength (cs : List Char) : (cs.take (nameSize cs)).length = nameSize cs := by
  have shorter := (List.takeWhile_sublist inName (l := cs)).length_le
  rw [List.length_take, nameSize]
  omega

theorem nameInside (cs : List Char) : ∀ c ∈ cs.take (nameSize cs), inName c = true := by
  have front : cs.take (nameSize cs) <+: cs.takeWhile inName := by
    refine List.prefix_of_prefix_length_le (List.take_prefix _ cs) (List.takeWhile_prefix inName) ?_
    rw [nameLength]
    exact Nat.min_le_right _ _
  exact fun c member => List.all_eq_true.mp List.all_takeWhile c (front.subset member)

theorem nameStops (cs : List Char) :
    nameSize cs = 49 ∨ ∀ c ∈ (cs.drop (nameSize cs)).head?, inName c = false := by
  by_cases full : 49 ≤ (cs.takeWhile inName).length
  · exact .inl (Nat.min_eq_left full)
  · have size : nameSize cs = (cs.takeWhile inName).length := by
      rw [nameSize]
      omega
    refine .inr fun c first => ?_
    rw [size, Regex.dropTaken] at first
    have head := List.head?_dropWhile_not inName cs
    rwa [first] at head

theorem sizeCut {cs : List Char} {n : Nat} (found : channelSize? cs = some n) :
    Cut (cs.take n) (cs.drop n) := by
  cases cs with
  | nil => contradiction
  | cons mark rest =>
    rw [channelSize?] at found
    split at found
    · rename_i here
      cases Option.some.inj found
      simp only [Bool.and_eq_true, bne_iff_ne] at here
      rw [List.take_succ_cons, List.drop_succ_cons]
      refine ⟨.named here.1 (fun empty => here.2 ?_) ?_ (nameInside rest), ?_⟩
      · rw [← nameLength, empty, List.length_nil]
      · rw [nameLength]
        exact Nat.min_le_left _ _
      · rw [List.length_cons, nameLength]
        exact (nameStops rest).imp_left (congrArg (· + 1))
    · contradiction

instance (cs : List Char) : Decidable (Channel cs) :=
  decidable_of_iff (channelSize? cs = some cs.length) <| by
    constructor
    · intro found
      have cut := sizeCut found
      rw [List.take_length] at cut
      exact cut.named
    · intro named
      have cut : Cut cs [] := ⟨named, .inr nofun⟩
      simpa using cutSize cut

theorem splitIff {entry channel rest : String} :
    splitChannel? entry = some (channel, rest) ↔
      entry = channel ++ rest ∧ Cut channel.toList rest.toList := by
  rw [splitRead, Option.map_eq_some_iff]
  constructor
  · rintro ⟨n, found, same⟩
    cases same
    refine ⟨String.toList_inj.mp (by simp), ?_⟩
    simpa using sizeCut found
  · rintro ⟨rfl, cut⟩
    refine ⟨channel.toList.length, ?_, ?_⟩
    · rw [String.toList_append, cutSize cut]
    · simp

theorem splitNone (entry : String) :
    splitChannel? entry = none ↔ startsChannel entry.toList = false := by
  rw [splitRead, Option.map_eq_none_iff]
  match entry.toList with
  | [] => simp [channelSize?, startsChannel]
  | [mark] => simp [channelSize?, startsChannel, nameSize]
  | mark :: c :: rest => cases inside : inName c <;> simp [channelSize?, startsChannel, nameSize, inside]

end Scrollback.Ignore
