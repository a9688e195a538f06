import Scrollback.Message.Received
import Scrollback.Proofs.Json.Rounds

/-! Blanks after a record change nothing in it, and make no record of what is none. In particular a
record ends with its line, whether or not a carriage return stands before the line feed. -/
namespace Scrollback

section Texts
open Json

theorem Json.ofTextPadded {α : Type} {read : Read α} (steady : Steady read) {cs ds : List Char}
    (both : Padded cs ds) : (ofText read (String.ofList ds)).toOption =
      (ofText read (String.ofList cs)).toOption := by
  have alike := steady.alike both
  rw [ofText, ofText, String.toList_ofList, String.toList_ofList]
  generalize read.run cs = x at alike ⊢
  generalize read.run ds = y at alike ⊢
  cases alike with
  | @read a cs ds left =>
    let ended (after : List Char) : Except Error α :=
      if after.all isBlank then .ok a else .error .malformed
    change (ended ds).toOption = (ended cs).toOption
    dsimp only [ended]
    rw [paddedBlank left]
  | failed => rfl

end Texts

namespace Received

open Json

theorem steadyFlags : Steady readFlags := .array (.oneOf _)

theorem steadyDirection : Steady readDirection := .oneOf _

theorem steadyTimestamp : Steady readTimestamp := by
  refine .optional (.bind .string fun text => ?_)
  split
  · exact .pure _
  · exact .fail _

theorem steadyOnce {α : Type} {read : Read α} (steady : Steady read) (before : Option α) :
    Steady (once before read) :=
  .ite .refused (.bind .colon fun _ => .bind steady fun _ => .pure _)

theorem steadyField (f : Fields) (name : String) : Steady (readField f name) := by
  unfold readField
  split
  · exact .bind (steadyOnce .string _) fun _ => .pure _
  · exact .bind (steadyOnce .string _) fun _ => .pure _
  · exact .bind (steadyOnce .string _) fun _ => .pure _
  · exact .bind (steadyOnce .string _) fun _ => .pure _
  · exact .bind (steadyOnce .stringMap _) fun _ => .pure _
  · exact .bind (steadyOnce steadyFlags _) fun _ => .pure _
  · exact .bind (steadyOnce steadyDirection _) fun _ => .pure _
  · exact .bind (steadyOnce steadyTimestamp _) fun _ => .pure _
  · exact .bind .colon fun _ => .bind .ignore fun _ => .pure _

theorem steadyComplete (f : Fields) : Steady (complete f) := by
  unfold complete
  split
  · exact .pure _
  · exact .fail _

theorem steadyNext {α : Type} {read : Read α} (steady : Steady read) (first : Bool) :
    Steady (next? first read) :=
  .bind (.hasItem .array first) fun _ => .ite (.bind steady fun _ => .pure _) (.pure _)

theorem steadyRequired {α : Type} {read : Read α} (steady : Steady read) (first : Bool) :
    Steady (required first read) := by
  refine .bind (steadyNext steady first) fun found => ?_
  split
  · exact .pure _
  · exact .fail _

theorem steadyArray : Steady readArray :=
  .bind (steadyRequired .string _) fun _ => .bind (steadyRequired .string _) fun _ =>
    .bind (steadyRequired .string _) fun _ => .bind (steadyNext .stringMap _) fun _ =>
    .bind (steadyNext steadyFlags _) fun _ => .bind (steadyNext steadyDirection _) fun _ =>
    .bind (steadyNext steadyTimestamp _) fun _ => .pure _

theorem steadyRead : Steady read := by
  refine .bind .peek fun c => ?_
  split
  · exact .fail _
  · refine .bind .skip fun _ => ?_
    refine .bind (.allItems (.member steadyField) _) fun f => .bind (steadyComplete f) fun _ => ?_
    exact .bind (.close _) fun _ => .pure _
  · exact .bind .skip fun _ => .bind steadyArray fun _ => .bind (.close _) fun _ => .pure _
  · exact .wrongKind

theorem ofJsonPadded {cs ds : List Char} (both : Padded cs ds) :
    (ofJson (String.ofList ds)).toOption = (ofJson (String.ofList cs)).toOption :=
  ofTextPadded steadyRead both

end Received

end Scrollback
