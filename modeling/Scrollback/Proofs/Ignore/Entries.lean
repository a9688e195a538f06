import Scrollback.Proofs.Ignore.Channels
import Scrollback.Proofs.Text.Blanks
import Scrollback.Proofs.Text.Names

/-! What an ignored entry names. An entry is meant to be a nick, a channel, or both with blanks between
them. What is read keeps to that except in two cases: where a blank other than a space follows the
channel, and where the channel ends without a blank after it. -/
namespace Scrollback.Ignore
open Unicode
open Text (trim trimChars Stripped)

structure Nick (u : String) : Prop where
  filled : u ≠ ""
  solid : ∀ c ∈ u.toList, isBlank c = false

/- How an entry without blanks around it is read. -/
inductive Entry : String → Filter → Prop
  | nick {u : String} (nick : Nick u) (unmarked : startsChannel u.toList = false) :
      Entry u ⟨none, some u⟩
  | channel {c : String} (named : Channel c.toList) : Entry c ⟨some c, none⟩
  | both {c gap u : String} (cut : Cut c.toList (gap ++ u).toList)
      (blank : ∀ x ∈ gap.toList, isBlank x = true) (nick : Nick u) :
      Entry (c ++ gap ++ u) ⟨some c, some u⟩

theorem trimList (text : String) : (trim text).toList = trimChars text.toList := by
  rw [trim, String.toList_ofList]

theorem nickRead (text : String) :
    nick? text =
      if trim text = "" then .ok none
      else if ∃ c ∈ (trim text).toList, isBlank c = true then .error (.invalidNick (trim text))
      else .ok (some (trim text)) := by
  rw [nick?]
  simp only [String.isEmpty_iff, List.any_eq_true]

theorem nickNone {text : String} :
    nick? text = .ok none ↔ ∀ c ∈ text.toList, isBlank c = true := by
  rw [nickRead, ← Text.trimEmpty, ← trimList]
  split_ifs with empty blank
  · simp [empty]
  · simp [empty]
  · simp [empty]

theorem nickSome {text u : String} :
    nick? text = .ok (some u) ↔ Nick u ∧ trim text = u := by
  rw [nickRead]
  split_ifs with empty blank
  · refine iff_of_false nofun ?_
    rintro ⟨nick, rfl⟩
    exact nick.filled empty
  · refine iff_of_false nofun ?_
    rintro ⟨nick, rfl⟩
    obtain ⟨c, member, blank⟩ := blank
    rw [nick.solid c member] at blank
    exact Bool.false_ne_true blank
  · constructor
    · intro same
      cases same
      exact ⟨⟨empty, fun c member => Bool.eq_false_iff.mpr fun here => blank ⟨c, member, here⟩⟩, rfl⟩
    · rintro ⟨-, rfl⟩
      rfl

theorem madeOk {read : Except Error (Option String)} {make : Option String → Filter} {f : Filter} :
    read.map make = .ok f ↔ ∃ target, read = .ok target ∧ make target = f := by
  cases read <;> simp [Except.map]

theorem parseParts (s : String) (f : Filter) :
    Filter.parse s = .ok f ↔ trim s ≠ "" ∧
      ((splitChannel? (trim s) = none ∧ ∃ u, nick? (trim s) = .ok u ∧ ⟨none, u⟩ = f) ∨
        ∃ c rest, splitChannel? (trim s) = some (c, rest) ∧ ∃ u, nick? rest = .ok u ∧ ⟨some c, u⟩ = f) := by
  rw [Filter.parse]
  simp only [String.isEmpty_iff]
  by_cases empty : trim s = ""
  · simp [empty]
  · cases splitChannel? (trim s) with
    | none => simp [empty, madeOk]
    | some cut =>
      obtain ⟨c, rest⟩ := cut
      simp [empty, madeOk]

theorem trimAgain (s : String) : Stripped (trim s).toList := by
  rw [trimList]
  exact Text.trimStripped _

theorem channelFilled {c : String} (named : Channel c.toList) : c ≠ "" := by
  rintro rfl
  cases named

theorem readEntry {s : String} {f : Filter} (read : Filter.parse s = .ok f) : Entry (trim s) f := by
  have stripped := trimAgain s
  obtain ⟨filled, parts⟩ := (parseParts s f).mp read
  generalize trim s = t at stripped filled parts ⊢
  rcases parts with ⟨unmarked, target, nick, rfl⟩ | ⟨c, rest, split, target, nick, rfl⟩
  · cases target with
    | none =>
      have nothing : t.toList = [] := stripped.nothing (nickNone.mp nick)
      exact absurd (String.toList_inj.mp nothing) filled
    | some u =>
      obtain ⟨nick, same⟩ := nickSome.mp nick
      have whole : t = u := by
        rw [← same, ← String.toList_inj, trimList, Text.trimSame stripped]
      rw [whole] at unmarked ⊢
      exact .nick nick ((splitNone u).mp unmarked)
  · obtain ⟨whole, cut⟩ := splitIff.mp split
    rw [whole, String.toList_append] at stripped
    cases target with
    | none =>
      have nothing : rest = "" := String.toList_inj.mp (stripped.nothingBehind (nickNone.mp nick))
      rw [whole, nothing, String.append_empty]
      exact .channel cut.named
    | some u =>
      obtain ⟨nick, same⟩ := nickSome.mp nick
      obtain ⟨before, after, parts, left, right⟩ := Text.trimCut rest.toList
      rw [parts, ← List.append_assoc] at stripped
      rw [stripped.nothingBehind right, List.append_nil, ← trimList, same] at parts
      have apart : rest = String.ofList before ++ u := String.toList_inj.mp (by simpa using parts)
      rw [whole, apart, ← String.append_assoc]
      rw [apart] at cut
      exact .both cut (by simpa using left) nick

theorem trimWithin {before t after : String} (stripped : Stripped t.toList)
    (left : ∀ c ∈ before.toList, isBlank c = true) (right : ∀ c ∈ after.toList, isBlank c = true) :
    trim (before ++ t ++ after) = t := by
  refine String.toList_inj.mp ?_
  rw [trimList, String.toList_append, String.toList_append, Text.trimAround stripped left right]

theorem trimSolid {t : String} (solid : ∀ c ∈ t.toList, isBlank c = false) : trim t = t := by
  rw [← String.toList_inj, trimList, Text.trimSame (Text.strippedSolid solid)]

theorem trimNick {before u : String} (blank : ∀ c ∈ before.toList, isBlank c = true)
    (nick : Nick u) : trim (before ++ u) = u := by
  have trimmed : trim (before ++ u ++ "") = u :=
    trimWithin (Text.strippedSolid nick.solid) blank nofun
  rw [String.append_empty] at trimmed
  exact trimmed

theorem entryRead {s : String} {f : Filter} (entry : Entry (trim s) f) : Filter.parse s = .ok f := by
  rw [parseParts]
  generalize trim s = t at entry
  cases entry with
  | nick nick unmarked =>
    have same : trim t = t := trimSolid nick.solid
    exact ⟨nick.filled, .inl ⟨(splitNone _).mpr unmarked, some t, nickSome.mpr ⟨nick, same⟩, rfl⟩⟩
  | channel named =>
    refine ⟨channelFilled named, .inr ⟨t, "", splitIff.mpr ⟨?_, named, .inr nofun⟩, none, ?_, rfl⟩⟩
    · simp
    · exact nickNone.mpr nofun
  | both cut blank nick =>
    rename_i c gap u
    refine ⟨fun empty => nick.filled ?_, .inr ⟨c, gap ++ u, splitIff.mpr ⟨?_, cut⟩, some u,
      nickSome.mpr ⟨nick, trimNick blank nick⟩, rfl⟩⟩
    · exact (String.append_eq_empty_iff.mp empty).2
    · rw [String.append_assoc]

theorem userRead {u : String} (nick : Nick u) (unmarked : startsChannel u.toList = false) :
    Filter.parse u = .ok ⟨none, some u⟩ := by
  refine entryRead ?_
  rw [trimSolid nick.solid]
  exact .nick nick unmarked

-- A channel as it is meant, with no blank of any kind in it.
structure ChannelName (c : String) : Prop where
  named : Channel c.toList
  solid : ∀ x ∈ c.toList, isBlank x = false

/- What an entry without blanks around it is meant to say. -/
inductive Meant : String → Filter → Prop
  | nick {u : String} (nick : Nick u) : Meant u ⟨none, some u⟩
  | channel {c : String} (name : ChannelName c) : Meant c ⟨some c, none⟩
  | both {c gap u : String} (name : ChannelName c) (apart : gap ≠ "")
      (blank : ∀ x ∈ gap.toList, isBlank x = true) (nick : Nick u) :
      Meant (c ++ gap ++ u) ⟨some c, some u⟩

-- A blank is taken for a part of the channel.
def Swallows (f : Filter) : Prop := ∃ c ∈ f.channel, ∃ x ∈ c.toList, isBlank x = true

-- The nick begins right where the channel ends.
def Glued (t : String) (f : Filter) : Prop := ∃ c ∈ f.channel, ∃ u ∈ f.user, t = c ++ u

theorem Meant.whole {t : String} {f : Filter} (meant : Meant t f) : ¬Swallows f := by
  rintro ⟨c, channel, x, member, blank⟩
  have solid : isBlank x = false := by
    cases meant with
    | nick nick => cases channel
    | channel name =>
      cases channel
      exact name.solid x member
    | both name apart gap nick =>
      cases channel
      exact name.solid x member
  rw [solid] at blank
  exact Bool.false_ne_true blank

theorem Meant.apart {t : String} {f : Filter} (meant : Meant t f) : ¬Glued t f := by
  rintro ⟨c, channel, u, user, same⟩
  cases meant with
  | nick nick => cases channel
  | channel name => cases user
  | both name apart blank nick =>
    cases channel
    cases user
    exact apart (by simpa using same)

theorem Entry.meant {t : String} {f : Filter} (entry : Entry t f) (whole : ¬Swallows f)
    (apart : ¬Glued t f) : Meant t f := by
  have name {c : String} (channel : c ∈ f.channel) (named : Channel c.toList) : ChannelName c :=
    ⟨named, fun x member => Bool.eq_false_iff.mpr fun blank => whole ⟨c, channel, x, member, blank⟩⟩
  cases entry with
  | nick nick unmarked => exact .nick nick
  | channel named => exact .channel (name rfl named)
  | both cut blank nick =>
    rename_i c gap u
    refine .both (name rfl cut.named) (fun none => apart ⟨c, rfl, u, rfl, ?_⟩) blank nick
    rw [none, String.append_empty]

-- A channel that a nick follows at once is as long as can be, or what ends it is part of the nick.
theorem Entry.gluedAt {t : String} {f : Filter} (entry : Entry t f) (glued : Glued t f) :
    (∃ c ∈ f.channel, c.length = 50) ∨
      ∃ u ∈ f.user, u.toList.head? = some '\x07' ∨ u.toList.head? = some ',' := by
  obtain ⟨c, channel, u, user, same⟩ := glued
  cases entry with
  | nick nick unmarked => cases channel
  | channel named => cases user
  | both cut blank nick =>
    cases channel
    cases user
    rename_i gap
    have none : gap = "" := by simpa using same
    rw [none, String.empty_append] at cut
    rcases cut.longest with full | stop
    · exact .inl ⟨c, rfl, by rw [← String.length_toList, full]⟩
    · obtain ⟨x, rest, first⟩ := List.exists_cons_of_ne_nil (mt String.toList_eq_nil_iff.mp nick.filled)
      have ended := stop x (by rw [first]; rfl)
      have solid := nick.solid x (by rw [first]; exact List.mem_cons_self)
      refine .inr ⟨u, rfl, ?_⟩
      have space : x ≠ ' ' := by
        rintro rfl
        contradiction
      simpa [first, inName, space, or_iff_not_imp_left] using ended

/-- An entry is read as its parts are written, without the blanks around it. It is read as it is meant
if and only if the channel has no blank in it and a blank parts the channel from the nick; where none
does, the channel has 50 characters or the nick begins with a bell or a comma. -/
theorem entriesRead (s : String) (f : Filter) :
    (Filter.parse s = .ok f ↔ Entry (trim s) f) ∧
    (Filter.parse s = .ok f →
      (Meant (trim s) f ↔ ¬Swallows f ∧ ¬Glued (trim s) f) ∧
      (Glued (trim s) f → (∃ c ∈ f.channel, c.length = 50) ∨
        ∃ u ∈ f.user, u.toList.head? = some '\x07' ∨ u.toList.head? = some ',')) := by
  refine ⟨⟨readEntry, entryRead⟩, fun read => ?_⟩
  have entry := readEntry read
  exact ⟨⟨fun meant => ⟨meant.whole, meant.apart⟩, fun both => entry.meant both.1 both.2⟩, entry.gluedAt⟩

theorem tabSwallowed :
    Filter.parse "#a\tb" = .ok ⟨some "#a\tb", none⟩ ∧ ¬Meant (trim "#a\tb") ⟨some "#a\tb", none⟩ ∧
    Filter.parse "#a,b" = .ok ⟨some "#a", some ",b"⟩ ∧ ¬Meant (trim "#a,b") ⟨some "#a", some ",b"⟩ ∧
    Filter.parse " #a \tb" = .ok ⟨some "#a", some "b"⟩ ∧ Meant (trim " #a \tb") ⟨some "#a", some "b"⟩ := by
  have alone : trim "#a\tb" = "#a\tb" := by decide
  have comma : trim "#a,b" = "#a" ++ "" ++ ",b" := by decide
  have apart : trim " #a \tb" = "#a" ++ " \t" ++ "b" := by decide
  have swallowed : Entry "#a\tb" ⟨some "#a\tb", none⟩ := .channel (by decide)
  have glued : Entry ("#a" ++ "" ++ ",b") ⟨some "#a", some ",b"⟩ :=
    .both ⟨by decide, .inr (by simp [inName])⟩ nofun ⟨by decide, by simp [isBlank]⟩
  have both : Entry ("#a" ++ " \t" ++ "b") ⟨some "#a", some "b"⟩ :=
    .both ⟨by decide, .inr (by simp [inName])⟩ (by simp [isBlank]) ⟨by decide, by simp [isBlank]⟩
  rw [← alone] at swallowed
  rw [← comma] at glued
  rw [← apart] at both
  have tabRead := (entriesRead "#a\tb" _).1.mpr swallowed
  have commaRead := (entriesRead "#a,b" _).1.mpr glued
  have bothRead := (entriesRead " #a \tb" _).1.mpr both
  refine ⟨tabRead, fun meant => ?_, commaRead, fun meant => ?_, bothRead, ?_⟩
  · exact (((entriesRead _ _).2 tabRead).1.mp meant).1 ⟨"#a\tb", rfl, '\t', by simp, by decide⟩
  · exact (((entriesRead _ _).2 commaRead).1.mp meant).2 ⟨"#a", rfl, ",b", rfl, comma⟩
  · refine ((entriesRead _ _).2 bothRead).1.mpr ⟨?_, ?_⟩
    · rintro ⟨c, ⟨⟩, x, member, blank⟩
      simp at member
      rcases member with rfl | rfl <;> contradiction
    · rintro ⟨c, ⟨⟩, u, ⟨⟩, same⟩
      exact absurd same (by decide)

theorem hidesIff (f : Filter) (m : Message) :
    f.hides m = true ↔
      (∀ c ∈ f.channel, Text.SameName c m.channel) ∧ ∀ u ∈ f.user, Text.SameName u m.author := by
  obtain ⟨channel, user⟩ := f
  cases channel <;> cases user <;> simp [Filter.hides, Text.sameNameIff]

/-- A channel, a nick, and both with a space between them are read as what they name, also with blanks
around them and further blanks after the space. A nick is read so alone unless it begins like a
channel. What is read hides the messages whose channel and author are named, in any ASCII case. -/
theorem namesRead {c n before gap after : String} (channel : ChannelName c) (nick : Nick n)
    (left : ∀ x ∈ before.toList, isBlank x = true) (between : ∀ x ∈ gap.toList, isBlank x = true)
    (right : ∀ x ∈ after.toList, isBlank x = true) :
    Filter.parse (before ++ c ++ after) = .ok ⟨some c, none⟩ ∧
    Filter.parse (before ++ (c ++ " " ++ gap ++ n) ++ after) = .ok ⟨some c, some n⟩ ∧
    (startsChannel n.toList = false → Filter.parse (before ++ n ++ after) = .ok ⟨none, some n⟩) ∧
    ∀ m : Message,
      ((⟨some c, none⟩ : Filter).hides m = true ↔ Text.SameName c m.channel) ∧
      ((⟨some c, some n⟩ : Filter).hides m = true ↔
        Text.SameName c m.channel ∧ Text.SameName n m.author) ∧
      ((⟨none, some n⟩ : Filter).hides m = true ↔ Text.SameName n m.author) := by
  refine ⟨entryRead ?_, entryRead ?_, fun unmarked => entryRead ?_, fun m => ?_⟩
  · rw [trimWithin (Text.strippedSolid channel.solid) left right]
    exact .channel channel.named
  · have stripped : Stripped (c ++ " " ++ gap ++ n).toList := by
      have around := (Text.strippedSolid channel.solid).around (Text.strippedSolid nick.solid)
        (mt String.toList_eq_nil_iff.mp (channelFilled channel.named))
        (mt String.toList_eq_nil_iff.mp nick.filled) (" " ++ gap).toList
      simpa using around
    have cut : Cut c.toList (" " ++ gap ++ n).toList := ⟨channel.named, .inr (by simp [inName])⟩
    have blank : ∀ x ∈ (" " ++ gap).toList, isBlank x = true := by
      simpa using ⟨by decide, between⟩
    have entry := Entry.both cut blank nick
    rw [trimWithin stripped left right]
    rw [← String.append_assoc] at entry
    exact entry
  · rw [trimWithin (Text.strippedSolid nick.solid) left right]
    exact .nick nick unmarked
  · simp [hidesIff]

-- The nick has a channel mark, with what no channel goes on with behind it.
theorem commaNickRead :
    Filter.parse "\t#rust\n" = .ok ⟨some "#rust", none⟩ ∧
    Filter.parse "\t#rust \u3000#,b\n" = .ok ⟨some "#rust", some "#,b"⟩ ∧
    Filter.parse "\t#,b\n" = .ok ⟨none, some "#,b"⟩ := by
  have channel : ChannelName "#rust" := ⟨by decide, by simp [isBlank]⟩
  have nick : Nick "#,b" := ⟨by decide, by simp [isBlank]⟩
  have tab : ∀ x ∈ "\t".toList, isBlank x = true := by simp [isBlank]
  have wide : ∀ x ∈ "\u3000".toList, isBlank x = true := by simp [isBlank]
  have newline : ∀ x ∈ "\n".toList, isBlank x = true := by simp [isBlank]
  obtain ⟨first, second, third, -⟩ := namesRead channel nick tab wide newline
  exact ⟨first, second, third (by decide)⟩

end Scrollback.Ignore
