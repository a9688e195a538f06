import Scrollback.Proofs.Message.Badges
import Scrollback.Search.Predicate

/-! The names that a test of flags is given, one after the other. A set of flags keeps neither their
order nor how often one is named, and a name that is not known leaves nothing behind. -/
namespace Scrollback

section Pieces

variable {before piece after names : List Char}

-- A part of some names that has no comma in it and ends at a comma or at an end of the names on
-- both sides.
structure Piece (piece names : List Char) : Prop where
  single : ',' ∉ piece
  cut : ∃ before after, names = before ++ (piece ++ after) ∧
    (before = [] ∨ ∃ front, before = front ++ [',']) ∧ (after = [] ∨ ∃ back, after = ',' :: back)

theorem joinedAround (front back : List (List Char)) (piece : List Char) :
    ∃ before after, [','].intercalate (front ++ piece :: back) = before ++ (piece ++ after) ∧
      (before = [] ∨ ∃ start, before = start ++ [',']) ∧
      (after = [] ∨ ∃ rest, after = ',' :: rest) := by
  induction front with
  | nil =>
    cases back with
    | nil => exact ⟨[], [], by simp, .inl rfl, .inl rfl⟩
    | cons next back =>
      refine ⟨[], ',' :: [','].intercalate (next :: back), ?_, .inl rfl, .inr ⟨_, rfl⟩⟩
      rw [List.nil_append, List.nil_append, List.intercalate_cons_cons, List.append_assoc,
        List.singleton_append]
  | cons first front ih =>
    obtain ⟨before, after, joined, opened, closed⟩ := ih
    have later : [','].intercalate (first :: front ++ piece :: back) =
        first ++ [','] ++ [','].intercalate (front ++ piece :: back) := by
      cases front with
      | nil => exact List.intercalate_cons_cons
      | cons second front => exact List.intercalate_cons_cons
    refine ⟨first ++ [','] ++ before, after, ?_, .inr ?_, closed⟩
    · rw [later, joined, List.append_assoc (first ++ [','])]
    · rcases opened with rfl | ⟨start, rfl⟩
      · exact ⟨first, List.append_nil _⟩
      · exact ⟨first ++ [','] ++ start, (List.append_assoc _ _ _).symm⟩

theorem pieceIff : piece ∈ names.splitOn ',' ↔ Piece piece names := by
  constructor
  · intro member
    obtain ⟨front, back, pieces⟩ := List.append_of_mem member
    have whole : [','].intercalate (front ++ piece :: back) = names :=
      pieces ▸ List.intercalate_splitOn ','
    refine ⟨pieceLacks member, ?_⟩
    rw [← whole]
    exact joinedAround front back piece
  · rintro ⟨single, before, after, rfl, opened, closed⟩
    have alone : piece.splitOn ',' = [piece] := List.splitOn_eq_singleton single
    have first : piece ∈ (piece ++ after).splitOn ',' := by
      rcases closed with rfl | ⟨back, rfl⟩
      · rw [List.append_nil, alone]
        exact List.mem_singleton_self piece
      · rw [List.splitOn_append_cons_self, alone]
        exact List.mem_cons_self
    rcases opened with rfl | ⟨front, rfl⟩
    · exact first
    · rw [List.append_assoc, List.singleton_append, List.splitOn_append_cons_self]
      exact List.mem_append_right _ first

end Pieces

namespace Flag

def searchNames : List (String × Flag) := [
  ("sub", .subscription), ("subscription", .subscription), ("highlighted", .highlighted),
  ("mention", .showInMentions), ("collapsed", .collapsed), ("whisper", .whisper),
  ("system", .system), ("action", .action), ("deleted", .disabled), ("disabled", .disabled),
  ("timeout", .timeout), ("ban", .timeout), ("first-msg", .firstMessage), ("reply", .reply)]

theorem searchNameIff {name : String} {f : Flag} :
    ofSearchName? name = some f ↔ (name, f) ∈ searchNames := by
  constructor
  · intro known
    unfold ofSearchName? at known
    split at known
    case h_15 => contradiction
    all_goals
      cases known
      decide
  · intro listed
    simp only [searchNames, List.mem_cons, Prod.mk.injEq, List.not_mem_nil, or_false] at listed
    rcases listed with ⟨rfl, rfl⟩ | ⟨rfl, rfl⟩ | ⟨rfl, rfl⟩ | ⟨rfl, rfl⟩ | ⟨rfl, rfl⟩ | ⟨rfl, rfl⟩ |
      ⟨rfl, rfl⟩ | ⟨rfl, rfl⟩ | ⟨rfl, rfl⟩ | ⟨rfl, rfl⟩ | ⟨rfl, rfl⟩ | ⟨rfl, rfl⟩ | ⟨rfl, rfl⟩ |
      ⟨rfl, rfl⟩
    all_goals rfl

end Flag

namespace Search.Predicate

theorem flagsHave {names : String} {f : Flag} : (flagsOf names).has f = true ↔
    ∃ name : String, Piece name.toList names.toList ∧ (name, f) ∈ Flag.searchNames := by
  rw [flagsOf, Flags.has_ofList, List.contains_iff_mem, List.mem_filterMap]
  simp only [pieceIff, Flag.searchNameIff]
  constructor
  · rintro ⟨piece, part, known⟩
    exact ⟨String.ofList piece, by rwa [String.toList_ofList], known⟩
  · rintro ⟨name, part, known⟩
    exact ⟨name.toList, part, by rwa [String.ofList_toList]⟩

theorem flagsJoined (a b : String) : flagsOf (a ++ "," ++ b) = flagsOf a ∪ flagsOf b := by
  have joined : (a ++ "," ++ b).toList = a.toList ++ ',' :: b.toList := by simp
  refine Flags.eq_of_has fun f => ?_
  rw [Flags.has_union, flagsOf, joined, List.splitOn_append_cons_self, List.filterMap_append,
    Flags.has_ofList, List.contains_append, flagsOf, flagsOf, Flags.has_ofList, Flags.has_ofList]

-- One name at most, and of no flag.
def Idle (e : String) : Prop := ',' ∉ e.toList ∧ ∀ f, (e, f) ∉ Flag.searchNames

theorem idleFlags {e : String} (idle : Idle e) : flagsOf e = ∅ := by
  have unknown : Flag.ofSearchName? (String.ofList e.toList) = none := by
    rw [String.ofList_toList, Option.eq_none_iff_forall_ne_some]
    exact fun f known => idle.2 f (Flag.searchNameIff.mp known)
  simp only [flagsOf, List.splitOn_eq_singleton idle.1, List.filterMap_cons, unknown]
  rfl

section Tests

variable {names a b e : String} {m : Message}

theorem acceptsNamed : (ofFlagNames names).accepts m = true ↔
    ∃ name f, Piece name.toList names.toList ∧ (name, f) ∈ Flag.searchNames ∧ m.has f = true := by
  rw [ofFlagNames, accepts, Flags.meets_iff]
  constructor
  · rintro ⟨f, carried, named⟩
    obtain ⟨name, part, known⟩ := flagsHave.mp named
    exact ⟨name, f, part, known, carried⟩
  · rintro ⟨name, f, part, known, carried⟩
    exact ⟨f, carried, flagsHave.mpr ⟨name, part, known⟩⟩

theorem acceptsJoined : (ofFlagNames (a ++ "," ++ b)).accepts m =
    ((ofFlagNames a).accepts m || (ofFlagNames b).accepts m) := by
  simp only [ofFlagNames, accepts, flagsJoined]
  rw [Bool.eq_iff_iff, Bool.or_eq_true, Flags.meets_iff, Flags.meets_iff, Flags.meets_iff]
  simp only [Flags.has_union, Bool.or_eq_true, and_or_left, exists_or]

theorem idleAccepts (idle : Idle e) : (ofFlagNames e).accepts m = false := by
  rw [ofFlagNames, idleFlags idle, accepts, Bool.eq_false_iff, ne_eq, Flags.meets_iff]
  simp

end Tests

/-- A test of flags accepts a message if and only if the message carries a flag of which a name
stands among the names of the test. So what two tests accept is accepted by their names together,
and it makes no difference whether what is no name stands before other names, after them or between
them. -/
theorem flagsAccept :
    (∀ names m, (ofFlagNames names).accepts m = true ↔ ∃ name f,
      Piece name.toList names.toList ∧ (name, f) ∈ Flag.searchNames ∧ m.has f = true) ∧
    (∀ a b m, (ofFlagNames (a ++ "," ++ b)).accepts m =
      ((ofFlagNames a).accepts m || (ofFlagNames b).accepts m)) ∧
    ∀ e, Idle e → ∀ a b m, (ofFlagNames e).accepts m = false ∧
      (ofFlagNames (e ++ "," ++ b)).accepts m = (ofFlagNames b).accepts m ∧
      (ofFlagNames (a ++ "," ++ e)).accepts m = (ofFlagNames a).accepts m ∧
      (ofFlagNames (a ++ "," ++ e ++ "," ++ b)).accepts m =
        (ofFlagNames (a ++ "," ++ b)).accepts m := by
  refine ⟨fun names m => acceptsNamed, fun a b m => acceptsJoined, fun e idle a b m => ?_⟩
  have nothing := idleAccepts (m := m) idle
  refine ⟨nothing, ?_, ?_, ?_⟩
  · rw [acceptsJoined, nothing, Bool.false_or]
  · rw [acceptsJoined, nothing, Bool.or_false]
  · rw [acceptsJoined, acceptsJoined, nothing, Bool.or_false, acceptsJoined]

def banned : Message :=
  { timestamp := ⟨0, 0⟩, channel := "", author := "ann", text := "", flags := .single .timeout }

-- Neither an empty name nor one in capitals counts.
theorem banAccepted :
    Idle "" ∧ Idle "BAN" ∧ (ofFlagNames "sub,,ban").accepts banned = true ∧
      (ofFlagNames "sub,BAN").accepts banned = false := by
  have empty : Idle "" := by simp [Idle, Flag.searchNames]
  have capitals : Idle "BAN" := by simp [Idle, Flag.searchNames]
  refine ⟨empty, capitals, ?_, ?_⟩
  · exact (flagsAccept.2.2 "" empty "sub" "ban" banned).2.2.2.trans (by decide)
  · exact (flagsAccept.2.2 "BAN" capitals "sub" "" banned).2.2.1.trans (by decide)

end Search.Predicate

end Scrollback
