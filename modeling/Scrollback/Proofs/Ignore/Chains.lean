import Scrollback.Proofs.Ignore.Entries

/-! Lists of ignored entries. A message is let through if no entry of the list that can be read hides it,
so the other entries do not count, nor does the order. An entry that hides a message names its author
or its channel, and for that reason none hides every message. -/
namespace Scrollback.Ignore
open Unicode
open Text (trim SameName)

theorem chainAccepts (entries : List String) (m : Message) :
    (Chain.ofEntries entries).accepts m =
      entries.all fun entry => (Filter.parse entry).toOption.all fun f => !f.hides m := by
  induction entries with
  | nil => rfl
  | cons entry entries ih =>
    rw [Chain.accepts, Chain.hides, Chain.ofEntries] at ih ⊢
    rw [List.filterMap_cons, List.all_cons, ← ih]
    cases Filter.parse entry <;> simp [Except.toOption]

theorem acceptsIff (entries : List String) (m : Message) :
    (Chain.ofEntries entries).accepts m = true ↔
      ∀ entry ∈ entries, ∀ f, Filter.parse entry = .ok f → f.hides m = false := by
  rw [chainAccepts, List.all_eq_true]
  refine forall₂_congr fun entry _ => ?_
  cases Filter.parse entry <;> simp [Except.toOption]

theorem Channel.marked {cs : List Char} (named : Channel cs) :
    ∃ c ∈ cs.head?, isMark c = true := by
  cases named with
  | named marked => exact ⟨_, rfl, marked⟩

-- A text begins with a channel mark, and some part of it from there on is the name.
def BeginsAs (t channel : String) : Prop :=
  ∃ c rest, t = c ++ rest ∧ (∃ x ∈ c.toList.head?, isMark x = true) ∧ SameName c channel

theorem Entry.named {t : String} {f : Filter} {m : Message} (entry : Entry t f)
    (hidden : f.hides m = true) : SameName t m.author ∨ BeginsAs t m.channel := by
  obtain ⟨channel, user⟩ := (hidesIff f m).mp hidden
  cases entry with
  | nick nick unmarked => exact .inl (user _ rfl)
  | channel named =>
    exact .inr ⟨t, "", String.append_empty.symm, named.marked, channel t rfl⟩
  | both cut blank nick =>
    rename_i c gap u
    exact .inr ⟨c, gap ++ u, String.append_assoc, cut.named.marked, channel c rfl⟩

theorem Entry.filled {t : String} {f : Filter} (entry : Entry t f) : t ≠ "" := by
  cases entry with
  | nick nick unmarked => exact nick.filled
  | channel named => exact channelFilled named
  | both cut blank nick => exact fun empty => nick.filled (String.append_eq_empty_iff.mp empty).2

theorem sameEmpty {a : String} (same : SameName a "") : a = "" := by
  have none : a.toList = [] := List.forall₂_nil_right_iff.mp same
  exact String.toList_inj.mp none

-- Nothing hides a message that has neither a channel nor an author.
theorem namelessAccepted {m : Message} (channel : m.channel = "") (author : m.author = "")
    (entries : List String) : (Chain.ofEntries entries).accepts m = true := by
  refine (acceptsIff entries m).mpr fun e _ f read => Bool.eq_false_iff.mpr fun hidden => ?_
  have entry := readEntry read
  rcases entry.named hidden with name | ⟨c, rest, -, ⟨x, first, -⟩, name⟩
  · rw [author] at name
    exact entry.filled (sameEmpty name)
  · rw [channel] at name
    rw [sameEmpty name] at first
    cases first

/-- A message is accepted if and only if no entry that can be read hides it. Two lists one after the
other accept what both accept, and lists with the same readable entries accept the same. If a message
is rejected, some entry is its author or begins with its channel; there is a message that no entry
hides. -/
theorem chainsAccept (entries : List String) :
    (∀ m : Message, (Chain.ofEntries entries).accepts m = true ↔
      ¬∃ entry ∈ entries, ∃ f, Filter.parse entry = .ok f ∧ f.hides m = true) ∧
    (∀ front back, entries = front ++ back → ∀ m : Message, (Chain.ofEntries entries).accepts m =
      ((Chain.ofEntries front).accepts m && (Chain.ofEntries back).accepts m)) ∧
    (∀ others : List String,
      (∀ entry f, Filter.parse entry = .ok f → (entry ∈ entries ↔ entry ∈ others)) →
      ∀ m : Message, (Chain.ofEntries entries).accepts m = (Chain.ofEntries others).accepts m) ∧
    (∀ m : Message, (Chain.ofEntries entries).accepts m = false →
      ∃ entry ∈ entries, SameName (trim entry) m.author ∨ BeginsAs (trim entry) m.channel) ∧
    ∃ m : Message, ∀ entry f, Filter.parse entry = .ok f → f.hides m = false := by
  refine ⟨fun m => ?_, ?_, fun others same m => ?_, fun m rejected => ?_, ?_⟩
  · simp [acceptsIff]
  · rintro front back rfl m
    simp only [chainAccepts, List.all_append]
  · rw [Bool.eq_iff_iff, acceptsIff, acceptsIff]
    constructor
    · exact fun accepted entry member f read => accepted entry ((same entry f read).mpr member) f read
    · exact fun accepted entry member f read => accepted entry ((same entry f read).mp member) f read
  · have some := mt (acceptsIff entries m).mpr (Bool.eq_false_iff.mp rejected)
    push Not at some
    obtain ⟨entry, member, f, read, hidden⟩ := some
    exact ⟨entry, member, (readEntry read).named (Bool.eq_true_of_not_eq_false hidden)⟩
  · let m : Message := { timestamp := ⟨0, 0⟩, channel := "", author := "", text := "" }
    refine ⟨m, fun entry f read => ?_⟩
    have accepted : (Chain.ofEntries [entry]).accepts m = true := namelessAccepted rfl rfl _
    exact (acceptsIff _ m).mp accepted entry List.mem_cons_self f read

def greeting : Message := { timestamp := ⟨0, 0⟩, channel := "#a", author := "ANN", text := "hi" }

theorem repeatedAccept :
    (∀ m : Message, (Chain.ofEntries ["ann", "", "ann"]).accepts m = (Chain.ofEntries ["ann"]).accepts m) ∧
    (Chain.ofEntries ["ann", "", "ann"]).accepts greeting = false ∧
    ∃ entry ∈ ["ann", "", "ann"], SameName (trim entry) "ANN" ∨ BeginsAs (trim entry) "#a" := by
  have empty : Filter.parse "" = .error .empty := by decide
  have nick : Nick "ann" := ⟨by decide, by simp [isBlank]⟩
  have read := userRead nick (by decide)
  obtain ⟨accepted, -, same, named, -⟩ := chainsAccept ["ann", "", "ann"]
  have rejected : (Chain.ofEntries ["ann", "", "ann"]).accepts greeting = false :=
    Bool.eq_false_iff.mpr fun passes =>
      (accepted greeting).mp passes ⟨"ann", by simp, _, read, by decide⟩
  refine ⟨same ["ann"] fun entry f parsed => ?_, rejected, named greeting rejected⟩
  have filled : entry ≠ "" := by
    rintro rfl
    rw [empty] at parsed
    cases parsed
  simp [filled]

end Scrollback.Ignore
