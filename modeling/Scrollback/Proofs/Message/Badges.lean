import Scrollback.Message.Received

/-! Badges as a tag lists them, one entry after the other. An entry is a badge if and only if there is
one slash in it, and nothing that stands in it reaches the entries beside it. -/
namespace Scrollback

theorem pieceLacks {x : Char} {cs piece : List Char} (member : piece ∈ cs.splitOn x) :
    x ∉ piece := by
  induction cs generalizing piece with
  | nil =>
    rw [List.splitOn_nil, List.mem_singleton] at member
    rw [member]
    exact List.not_mem_nil
  | cons c cs ih =>
    obtain ⟨first, rest, pieces⟩ := List.exists_cons_of_ne_nil (List.splitOn_ne_nil x cs)
    rw [pieces] at ih
    rw [List.splitOn_cons_eq_if_modifyHead, pieces] at member
    split at member
    · rcases List.mem_cons.mp member with rfl | later
      · exact List.not_mem_nil
      · exact ih later
    · rename_i other
      rcases List.mem_cons.mp member with rfl | later
      · intro inside
        rcases List.mem_cons.mp inside with rfl | inside
        · exact other (beq_self_eq_true x)
        · exact ih List.mem_cons_self inside
      · exact ih (List.mem_cons_of_mem _ later)

namespace Badge

-- Neither what ends an entry nor what divides one.
def Undivided (s : String) : Prop := ',' ∉ s.toList ∧ '/' ∉ s.toList
instance (s) : Decidable (Undivided s) := by unfold Undivided; infer_instance

structure Listable (b : Badge) : Prop where
  name : Undivided b.name
  version : Undivided b.version
instance (b : Badge) : Decidable b.Listable :=
  decidable_of_iff (Undivided b.name ∧ Undivided b.version)
    ⟨fun h => ⟨h.1, h.2⟩, fun h => ⟨h.name, h.version⟩⟩

theorem writeList (b : Badge) : b.write.toList = b.name.toList ++ '/' :: b.version.toList := by
  simp [write]

theorem entryIff {entry : List Char} {b : Badge} :
    ofEntry? entry = some b ↔
      entry = b.write.toList ∧ '/' ∉ b.name.toList ∧ '/' ∉ b.version.toList := by
  rw [writeList]
  constructor
  · intro read
    unfold ofEntry? at read
    split at read
    · rename_i name version pieces
      cases Option.some.inj read
      have lacks {piece : List Char} (member : piece ∈ [name, version]) : '/' ∉ piece :=
        pieceLacks (pieces ▸ member)
      have whole : ['/'].intercalate [name, version] = entry :=
        pieces ▸ List.intercalate_splitOn '/'
      simp only [String.toList_ofList]
      exact ⟨by rw [← whole]; simp, lacks (by simp), lacks (by simp)⟩
    · contradiction
  · rintro ⟨rfl, name, version⟩
    have pieces : (b.name.toList ++ '/' :: b.version.toList).splitOn '/' =
        [b.name.toList, b.version.toList] := by
      rw [List.splitOn_append_cons_self, List.splitOn_eq_singleton name,
        List.splitOn_eq_singleton version, List.singleton_append]
    unfold ofEntry?
    simp only [pieces, String.ofList_toList]

theorem entrySlash {entry : List Char} {b : Badge} (read : ofEntry? entry = some b) :
    entry.count '/' = 1 := by
  obtain ⟨rfl, name, version⟩ := entryIff.mp read
  rw [writeList, List.count_append, List.count_cons_self, List.count_eq_zero_of_not_mem name,
    List.count_eq_zero_of_not_mem version]

theorem Listable.entry {b : Badge} (listable : b.Listable) :
    ',' ∉ b.write.toList ∧ ofEntry? b.write.toList = some b := by
  refine ⟨?_, entryIff.mpr ⟨rfl, listable.name.2, listable.version.2⟩⟩
  rw [writeList]
  simp [listable.name.1, listable.version.1]

theorem writtenRead {bs : List Badge} (listable : ∀ b ∈ bs, b.Listable) :
    ofList (",".intercalate (bs.map write)) = bs := by
  have each : bs.filterMap (fun b => ofEntry? b.write.toList) = bs := by
    induction bs with
    | nil => rfl
    | cons b bs ih =>
      obtain ⟨first, others⟩ := List.forall_mem_cons.mp listable
      simp only [List.filterMap_cons, first.entry.2, ih others]
  cases bs with
  | nil => rfl
  | cons b bs =>
    have entries : ([','].intercalate ((b :: bs).map (·.write.toList))).splitOn ',' =
        (b :: bs).map (·.write.toList) := by
      refine List.splitOn_intercalate ',' (fun entry member => ?_) (by simp)
      obtain ⟨c, inside, rfl⟩ := List.mem_map.mp member
      exact (listable c inside).entry.1
    rw [ofList, String.toList_intercalate, List.map_map]
    change (List.splitOn ',' ([','].intercalate ((b :: bs).map (·.write.toList)))).filterMap _ = _
    rw [entries, List.filterMap_map]
    exact each

theorem readListable {text : String} {b : Badge} (member : b ∈ ofList text) : b.Listable := by
  obtain ⟨entry, listed, read⟩ := List.mem_filterMap.mp member
  obtain ⟨rfl, name, version⟩ := entryIff.mp read
  have single := pieceLacks listed
  rw [writeList, List.mem_append, List.mem_cons, not_or, not_or] at single
  exact ⟨⟨single.1, name⟩, ⟨single.2.2, version⟩⟩

theorem readJoined (a b : String) : ofList (a ++ "," ++ b) = ofList a ++ ofList b := by
  have joined : (a ++ "," ++ b).toList = a.toList ++ ',' :: b.toList := by simp
  rw [ofList, joined, List.splitOn_append_cons_self, List.filterMap_append, ofList, ofList]

-- One entry that is no badge.
def Malformed (e : String) : Prop := ',' ∉ e.toList ∧ e.toList.count '/' ≠ 1
instance (e) : Decidable (Malformed e) := by unfold Malformed; infer_instance

theorem Malformed.skipped {e : String} (malformed : Malformed e) : ofList e = [] := by
  have refused : ofEntry? e.toList = none := by
    cases read : ofEntry? e.toList with
    | none => rfl
    | some b => exact absurd (entrySlash read) malformed.2
  rw [ofList, List.splitOn_eq_singleton malformed.1, List.filterMap_cons_none refused,
    List.filterMap_nil]

end Badge

namespace Received
open Badge

-- What the tag says from which the badges of a message are read.
def Lists (r : Received) (text : String) : Prop := r.tags.lookup "badges" = some text

theorem listedBadges {r : Received} {text : String} (lists : r.Lists text) :
    r.badges = ofList text := by
  rw [badges, lists]

/-- Badges that are written as a tag lists them are read back, every badge that is read could have
been written so, and a list is read entry by entry: what is no badge is left out and nothing else. -/
theorem badgesRead :
    (∀ (r : Received) (bs : List Badge), (∀ b ∈ bs, b.Listable) →
      r.Lists (",".intercalate (bs.map Badge.write)) → r.badges = bs) ∧
    (∀ (r : Received), ∀ b ∈ r.badges, b.Listable) ∧
    (∀ (r s t : Received) (a b : String), r.Lists (a ++ "," ++ b) → s.Lists a → t.Lists b →
      r.badges = s.badges ++ t.badges) ∧
    (∀ (r s t : Received) (a e b : String), Malformed e → r.Lists (a ++ "," ++ e ++ "," ++ b) →
      s.Lists a → t.Lists b → r.badges = s.badges ++ t.badges) := by
  refine ⟨?_, ?_, ?_, ?_⟩
  · intro r bs listable lists
    rw [listedBadges lists, writtenRead listable]
  · intro r b member
    cases tag : r.tags.lookup "badges" with
    | none =>
      rw [badges, tag] at member
      contradiction
    | some text =>
      rw [listedBadges tag] at member
      exact readListable member
  · intro r s t a b whole front back
    rw [listedBadges whole, listedBadges front, listedBadges back, readJoined]
  · intro r s t a e b malformed whole front back
    rw [listedBadges whole, listedBadges front, listedBadges back, readJoined, readJoined,
      malformed.skipped, List.append_nil]

def tagged (text : String) : Received :=
  { channel := "", author := "ann", text := "hi", tags := [("color", "/,"), ("badges", text)] }

theorem brokenSkipped :
    (tagged "/,vip/,/1").badges = [⟨"", ""⟩, ⟨"vip", ""⟩, ⟨"", "1"⟩] ∧
    (tagged "/,vip/1").badges = (tagged "/").badges ++ (tagged "vip/1").badges ∧
    (tagged "vip/1,a/b/c,bits/100").badges =
      (tagged "vip/1").badges ++ (tagged "bits/100").badges := by
  have listable : ∀ b ∈ [⟨"", ""⟩, ⟨"vip", ""⟩, ⟨"", "1"⟩], Badge.Listable b := by decide
  exact ⟨badgesRead.1 _ _ listable rfl,
    badgesRead.2.2.1 _ _ _ "/" "vip/1" rfl rfl rfl,
    badgesRead.2.2.2 _ _ _ "vip/1" "a/b/c" "bits/100" (by decide) rfl rfl rfl⟩

end Received

end Scrollback
