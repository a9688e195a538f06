import Mathlib.Data.List.TakeWhile
import Scrollback.Proofs.Message.Badges

/-! Badges as a rule asks for them. In the text of a rule the name ends at the first slash. An entry
of a tag has no slash but that one, so for what a tag lists both have the same name and version. -/
namespace Scrollback

theorem Received.carriedListable {r : Received} {b : Badge} (carried : b ∈ r.badges) :
    b.Listable := by
  unfold Received.badges at carried
  split at carried
  · exact Badge.readListable carried
  · contradiction

namespace BadgeMatch

def write : BadgeMatch → String
  | ⟨name, none⟩ => name
  | ⟨name, some version⟩ => Badge.write ⟨name, version⟩

section Texts

variable {text : String} {m : BadgeMatch} {b x : Badge}

theorem writtenTaken (whole : '/' ∉ m.name.toList) : ofText m.write = m := by
  obtain ⟨name, version⟩ := m
  have inside : ∀ c ∈ name.toList, (c != '/') = true := fun c member => by
    rw [bne_iff_ne]
    rintro rfl
    exact whole member
  cases version with
  | none =>
    have front : name.toList.takeWhile (· != '/') = name.toList :=
      List.takeWhile_eq_self_iff.mpr inside
    simp only [write, ofText, front, List.drop_length]
  | some version =>
    have front : (name.toList ++ '/' :: version.toList).takeWhile (· != '/') = name.toList := by
      rw [List.takeWhile_append_of_pos inside, List.takeWhile_cons_of_neg (by decide),
        List.append_nil]
    simp only [write, ofText, Badge.writeList, front, List.drop_left, String.ofList_toList]

-- There is one way to write each rule, and every text is a way to write one.
theorem ofTextIff : ofText text = m ↔ text = m.write ∧ '/' ∉ m.name.toList := by
  constructor
  · rintro rfl
    by_cases slash : '/' ∈ text.toList
    · obtain ⟨name, version, cut, lacks⟩ := List.eq_append_cons_of_mem slash
      have divided : text = write ⟨String.ofList name, some (String.ofList version)⟩ := by
        rw [← String.toList_inj, cut, write, Badge.writeList, String.toList_ofList,
          String.toList_ofList]
      have undivided : '/' ∉ (String.ofList name).toList := by rwa [String.toList_ofList]
      rw [divided, writtenTaken undivided]
      exact ⟨rfl, undivided⟩
    · have alone : ofText text = ⟨text, none⟩ := writtenTaken (m := ⟨text, none⟩) slash
      rw [alone]
      exact ⟨rfl, slash⟩
  · rintro ⟨rfl, whole⟩
    exact writtenTaken whole

theorem acceptsIff :
    m.accepts b = true ↔ m = ⟨b.name, none⟩ ∨ m = ⟨b.name, some b.version⟩ := by
  obtain ⟨name, version⟩ := m
  cases version with
  | none => simp [accepts]
  | some version => simp [accepts]

theorem textAccepts : (ofText text).accepts b = true ↔
    '/' ∉ b.name.toList ∧ (text = b.name ∨ text = b.write) := by
  rw [acceptsIff, ofTextIff, ofTextIff, ← or_and_right, and_comm]
  rfl

end Texts

/-- For a badge that a message carries, a rule with its written form accepts this badge and no other,
and a rule with its name accepts the badges of this name and no others. A rule with any other text
does not accept it. -/
theorem carriedMatched {r : Received} {b : Badge} (carried : b ∈ r.badges) :
    (∀ x, (ofText b.write).accepts x = true ↔ x = b) ∧
    (∀ x, (ofText b.name).accepts x = true ↔ x.name = b.name) ∧
    ∀ text, (ofText text).accepts b = true ↔ text = b.write ∨ text = b.name := by
  have whole : '/' ∉ b.name.toList := (Received.carriedListable carried).name.2
  have full : ofText b.write = ⟨b.name, some b.version⟩ := ofTextIff.mpr ⟨rfl, whole⟩
  have alone : ofText b.name = ⟨b.name, none⟩ := ofTextIff.mpr ⟨rfl, whole⟩
  refine ⟨fun x => ?_, fun x => ?_, fun text => ?_⟩
  · rw [full, acceptsIff]
    cases b
    cases x
    simp [eq_comm]
  · rw [alone, acceptsIff]
    simp [eq_comm]
  · rw [textAccepts, or_comm]
    exact and_iff_right whole

-- Neither a name nor a version has to be there.
theorem emptyNameMatched :
    ⟨"", "1"⟩ ∈ (Received.tagged "/,vip/,/1").badges ∧
    (ofText "/1").accepts ⟨"", "1"⟩ = true ∧ (ofText "/1").accepts ⟨"", ""⟩ = false ∧
    (ofText "").accepts ⟨"", ""⟩ = true ∧ (ofText "").accepts ⟨"vip", ""⟩ = false ∧
    (ofText "//1").accepts ⟨"", "1"⟩ = false := by
  have carried : ⟨"", "1"⟩ ∈ (Received.tagged "/,vip/,/1").badges := by decide
  obtain ⟨full, alone, texts⟩ := carriedMatched carried
  refine ⟨carried, (full _).mpr rfl, ?_, (alone _).mpr rfl, ?_, ?_⟩
  · exact Bool.eq_false_iff.mpr fun accepted => absurd ((full _).mp accepted) (by decide)
  · exact Bool.eq_false_iff.mpr fun accepted => absurd ((alone _).mp accepted) (by decide)
  · exact Bool.eq_false_iff.mpr fun accepted => absurd ((texts _).mp accepted) (by decide)

end BadgeMatch

end Scrollback
