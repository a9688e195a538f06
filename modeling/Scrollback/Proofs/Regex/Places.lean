import Scrollback.Proofs.Regex.Cursor
import Scrollback.Regex.Basic

/-! The places that a search with a plain pattern tries, from the start of a text on. No retries are made
on the way, so such a search always has an answer. -/
namespace Scrollback.Regex

theorem findPlain {r : Regex} {e : Plain} (program : r.program = .plain e) (text : String) :
    r.find? text = (Plain.places (.start text.toList)).findSome? fun c =>
      (e.first? (.start c)).map (Match.ofProgress c) := by
  rw [find?, searchFrom, program]
  simp only
  cases (Plain.places (.start text.toList)).findSome? fun c =>
    (e.first? (.start c)).map (Match.ofProgress c) <;> rfl

theorem placesMoved {cs : List Char} {c d : Cursor} (moved : c.before ≠ [])
    (member : d ∈ Plain.places.go c cs) : d.before ≠ [] := by
  induction cs generalizing c with
  | nil =>
    rw [Plain.places.go, List.mem_singleton] at member
    rwa [member]
  | cons x cs ih =>
    rw [Plain.places.go] at member
    rcases List.mem_cons.mp member with rfl | later
    · exact moved
    · exact ih (List.cons_ne_nil _ _) later

theorem placesFirst (c : Cursor) :
    ∃ further, Plain.places c = c :: further ∧ ∀ d ∈ further, d.before ≠ [] := by
  rw [Plain.places]
  cases c.after with
  | nil => exact ⟨[], rfl, nofun⟩
  | cons x rest => exact ⟨_, rfl, fun d member => placesMoved (List.cons_ne_nil _ _) member⟩

-- A pattern that asks for the start of the text is met there or nowhere.
theorem findAnchored {r : Regex} {e : Plain}
    (program : r.program = .plain (.seq (.assert .textStart) e)) (text : String) :
    r.find? text = (e.first? (.start (.start text.toList))).map
      (Match.ofProgress (.start text.toList)) := by
  have here : (Plain.seq (.assert .textStart) e).first? (.start (.start text.toList)) =
      e.first? (.start (.start text.toList)) := by
    simp [Plain.first?, Plain.ends, Assertion.holds, Progress.start, Cursor.start]
  obtain ⟨further, places, moved⟩ := placesFirst (.start text.toList)
  rw [findPlain program, places, List.findSome?_cons, here]
  cases e.first? (.start (.start text.toList)) with
  | some p => rfl
  | none =>
    refine List.findSome?_eq_none_iff.mpr fun d member => ?_
    simp [Plain.first?, Plain.ends, Assertion.holds, Progress.start, moved d member]

end Scrollback.Regex
