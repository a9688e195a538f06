import Mathlib.Data.List.Forall2
import Scrollback.Proofs.History.Records
import Scrollback.Proofs.Message.Padding

/-! Histories that are texts. Their lines are what stands between line feeds, and it makes no
difference that a carriage return is taken off at the end of a line, nor that nothing is read after
the last line feed if nothing stands there. -/
namespace Scrollback.History

section Encoding

def encode (cs : List Char) : List UInt8 := cs.flatMap String.utf8EncodeChar

def bytes (text : String) : List UInt8 := text.toUTF8.data.toList

theorem encodeBytes (cs : List Char) : cs.utf8Encode = (encode cs).toByteArray := rfl

theorem bytesEncode (text : String) : bytes text = encode text.toList := by
  rw [bytes, String.toUTF8_eq_toByteArray, ← String.utf8Encode_toList, encodeBytes,
    List.data_toByteArray]

theorem decodeEncode (cs : List Char) : Disk.decode? (encode cs) = some (String.ofList cs) := by
  rw [Disk.decode?, String.fromUTF8?, ← encodeBytes, dif_pos ByteArray.isValidUTF8_utf8Encode]
  rfl

theorem decodeBytes (text : String) : Disk.decode? (bytes text) = some text := by
  rw [bytesEncode, decodeEncode, String.ofList_toList]

theorem encodeFilled (c : Char) (cs : List Char) : encode (c :: cs) ≠ [] :=
  List.append_ne_nil_of_left_ne_nil String.utf8EncodeChar_ne_nil _

theorem bytesFilled {text : String} (filled : text ≠ "") : bytes text ≠ [] := by
  rw [bytesEncode]
  cases known : text.toList with
  | nil => exact absurd (String.toList_eq_nil_iff.mp known) filled
  | cons c cs => exact encodeFilled c cs

-- A byte below 128 is all of its character: those of a longer one have their highest bit set.
theorem encodeLow {c : Char} {b : UInt8} (low : b.toNat < 128)
    (member : b ∈ String.utf8EncodeChar c) : String.utf8EncodeChar c = [b] ∧ c.toNat = b.toNat := by
  rw [String.utf8EncodeChar] at member ⊢
  split at member
  · rename_i short
    obtain rfl := List.mem_singleton.mp member
    rw [if_pos short, UInt8.toNat_ofNat', Nat.mod_eq_of_lt (by omega)]
    exact ⟨rfl, rfl⟩
  · exfalso
    split at member
    · simp only [List.mem_cons, List.not_mem_nil, or_false] at member
      rcases member with rfl | rfl <;> rw [UInt8.toNat_ofNat'] at low <;> omega
    · split at member
      · simp only [List.mem_cons, List.not_mem_nil, or_false] at member
        rcases member with rfl | rfl | rfl <;> rw [UInt8.toNat_ofNat'] at low <;> omega
      · simp only [List.mem_cons, List.not_mem_nil, or_false] at member
        rcases member with rfl | rfl | rfl | rfl <;> rw [UInt8.toNat_ofNat'] at low <;> omega

theorem encodeAbsent {b : UInt8} {c d : Char} (low : b.toNat < 128) (code : d.toNat = b.toNat)
    (other : c ≠ d) : b ∉ String.utf8EncodeChar c := by
  intro member
  have same : c.toNat = d.toNat := (encodeLow low member).2.trans code.symm
  exact other (Char.ext (UInt32.toNat_inj.mp same))

end Encoding

section Splitting

theorem splitOnAppend {α : Type} [BEq α] [LawfulBEq α] {a : α} {front : List α}
    (absent : a ∉ front) (rest : List α) :
    (front ++ rest).splitOn a = (rest.splitOn a).modifyHead (front ++ ·) := by
  induction front with
  | nil => exact (congrFun List.modifyHead_id _).symm
  | cons x front ih =>
    obtain ⟨other, absent⟩ := not_or.mp (mt List.mem_cons.mpr absent)
    rw [List.cons_append, List.splitOn_cons_eq_if_modifyHead, if_neg (by simpa using Ne.symm other),
      ih absent, List.modifyHead_modifyHead]
    rfl

theorem encodeSplit (cs : List Char) :
    (encode cs).splitOn 0x0A = (cs.splitOn '\n').map encode := by
  induction cs with
  | nil => rfl
  | cons c cs ih =>
    change (String.utf8EncodeChar c ++ encode cs).splitOn 0x0A = _
    rw [List.splitOn_cons_eq_if_modifyHead]
    by_cases feed : c = '\n'
    · subst feed
      rw [if_pos (beq_self_eq_true _), List.map_cons, ← ih]
      exact List.splitOn_append_cons_self [] _
    · rw [if_neg (by simpa using feed), splitOnAppend (encodeAbsent (by decide) rfl feed), ih]
      cases cs.splitOn '\n' <;> rfl

theorem dropReturnEncode (cs : List Char) : ∃ w, w.all Json.isBlank = true ∧
    ∃ ds, cs = ds ++ w ∧ dropReturn (encode cs) = encode ds := by
  rcases List.eq_nil_or_concat' cs with rfl | ⟨front, c, rfl⟩
  · exact ⟨[], rfl, [], rfl, rfl⟩
  · have cut : encode (front ++ [c]) = encode front ++ String.utf8EncodeChar c := by
      rw [encode, List.flatMap_append, List.flatMap_singleton, encode]
    rw [dropReturn, cut]
    by_cases mark : c = '\r'
    · have code : String.utf8EncodeChar '\r' = [0x0D] := rfl
      refine ⟨['\r'], rfl, front, by rw [mark], ?_⟩
      rw [mark, code, List.getLast?_concat, if_pos (beq_self_eq_true _), List.dropLast_concat]
    · have absent : 0x0D ∉ String.utf8EncodeChar c := encodeAbsent (by decide) rfl mark
      refine ⟨[], rfl, front ++ [c], (List.append_nil _).symm, ?_⟩
      rw [List.getLast?_append_of_ne_nil _ String.utf8EncodeChar_ne_nil, if_neg, cut]
      rw [beq_iff_eq]
      exact fun last => absent (List.mem_of_getLast? last)

end Splitting

section Lines

-- What is read in place of a line holds the same.
def Same (line text : String) : Prop :=
  record? text = record? line ∧ isSpoiled text = isSpoiled line

theorem blankAfter (cs : List Char) {w : List Char} (blank : w.all Json.isBlank = true) :
    Same (String.ofList (cs ++ w)) (String.ofList cs) := by
  have padded := Received.ofJsonPadded (Json.padded cs blank)
  have unread : w.all Unicode.isBlank = true := by
    rw [List.all_eq_true] at blank ⊢
    intro c member
    have known := blank c member
    simp only [Json.isBlank, Bool.or_eq_true, beq_iff_eq] at known
    rcases known with ((rfl | rfl) | rfl) | rfl <;> rfl
  have blanks : Text.isBlankText (String.ofList (cs ++ w)) = Text.isBlankText (String.ofList cs) := by
    rw [Text.isBlankText, Text.isBlankText, String.toList_ofList, String.toList_ofList,
      List.all_append, unread, Bool.and_true]
  simp only [Same, record?, isSpoiled, padded, blanks, and_self]

theorem linesSame {texts read : List String} (same : List.Forall₂ Same texts read) :
    read.filterMap record? = texts.filterMap record? ∧
      ∀ first, spoiled first read = spoiled first texts := by
  induction same with
  | nil => exact ⟨rfl, fun _ => rfl⟩
  | cons head _ ih =>
    refine ⟨?_, fun first => ?_⟩
    · rw [List.filterMap_cons, List.filterMap_cons, head.1, ih.1]
    · rw [spoiledCons, spoiledCons, head.2, ih.2]

theorem decodePieces (pieces : List (List Char)) : ∃ texts,
    ((pieces.map encode).map dropReturn).map Disk.decode? = texts.map some ∧
      List.Forall₂ Same (pieces.map String.ofList) texts := by
  induction pieces with
  | nil => exact ⟨[], rfl, .nil⟩
  | cons cs pieces ih =>
    obtain ⟨texts, decoded, same⟩ := ih
    obtain ⟨w, blank, ds, rfl, cut⟩ := dropReturnEncode cs
    refine ⟨String.ofList ds :: texts, ?_, .cons (blankAfter ds blank) same⟩
    rw [List.map_cons, List.map_cons, List.map_cons, List.map_cons, decoded, cut, decodeEncode]

def lines (text : String) : List String := (text.toList.splitOn '\n').map String.ofList

theorem decodeLines (text : String) : ∃ texts,
    (splitLines (bytes text)).map Disk.decode? = texts.map some ∧
      texts.filterMap record? = (lines text).filterMap record? ∧
      ∀ first, spoiled first texts = spoiled first (lines text) := by
  rw [splitLines, bytesEncode, encodeSplit, lines]
  obtain ⟨front, last, cut⟩ :=
    (List.eq_nil_or_concat' (text.toList.splitOn '\n')).resolve_left (List.splitOn_ne_nil _ _)
  obtain ⟨texts, decoded, same⟩ := decodePieces front
  rw [cut, List.map_append, List.map_append, List.map_singleton, List.map_singleton]
  rw [List.dropLast_concat, List.getLast?_concat]
  cases last with
  | nil =>
    obtain ⟨records, numbers⟩ := linesSame same
    refine ⟨texts, decoded, ?_, fun first => ?_⟩
    · rw [List.filterMap_append, records]
      exact (List.append_nil _).symm
    · rw [spoiledAppend, numbers]
      exact (List.append_nil _).symm
  | cons c cs =>
    have whole := List.rel_append same (.cons (b := String.ofList (c :: cs)) ⟨rfl, rfl⟩ .nil)
    refine ⟨_, ?_, linesSame whole⟩
    split
    · rename_i none
      cases none
    · rename_i empty
      exact absurd (Option.some.inj empty) (encodeFilled c cs)
    · rename_i last _ same
      obtain rfl := Option.some.inj same
      rw [List.map_append, decoded, List.map_append, List.map_singleton, decodeEncode]
      rfl

-- A text is read to its end, whatever stands in its lines.
theorem readWhole (now : Timestamp) (text : String) :
    Legible (bytes text) ∧ records (bytes text) = (lines text).filterMap record? ∧
      (read now (bytes text)).skipped.map (·.1) = spoiled 1 (lines text) := by
  obtain ⟨texts, decoded, found, numbers⟩ := decodeLines text
  refine ⟨fun line member => ?_, ?_, ?_⟩
  · obtain ⟨text, _, held⟩ := List.mem_map.mp (decoded ▸ List.mem_map_of_mem member)
    rw [isLegible, ← held]
    rfl
  · calc
      records (bytes text) =
          ((splitLines (bytes text)).map Disk.decode?).filterMap (·.bind record?) := by
        rw [List.filterMap_map]
        rfl
      _ = texts.filterMap record? := by
        rw [decoded, List.filterMap_map]
        rfl
      _ = (lines text).filterMap record? := found
  · rw [read, readSkipped decoded, numbers]

theorem linesLength (text : String) : (lines text).length = text.toList.count '\n' + 1 := by
  rw [lines, List.length_map]
  induction text.toList with
  | nil => rfl
  | cons c cs ih =>
    rw [List.splitOn_cons_eq_if_modifyHead, List.count_cons]
    split
    · rw [List.length_cons, ih]
    · rw [List.length_modifyHead, ih, Nat.add_zero]

end Lines

end Scrollback.History
