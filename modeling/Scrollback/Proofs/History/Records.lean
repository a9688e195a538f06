import Scrollback.History.Reader

/-! The records of a history, told line by line. A history is read to its end if and only if each of
its lines is text; what is found in one line does not depend on any other line. -/
namespace Scrollback.History

-- What a line of text holds that is to be read.
def record? (text : String) : Option Received :=
  if Text.isBlankText text then none else (Received.ofJson text).toOption

-- A line of text that is neither blank nor a record.
def isSpoiled (text : String) : Bool :=
  !Text.isBlankText text && (Received.ofJson text).toOption.isNone

def isLegible (line : List UInt8) : Bool := (Disk.decode? line).isSome

def Legible (content : List UInt8) : Prop := ∀ line ∈ splitLines content, isLegible line = true

-- The records in those lines that are text, in order.
def records (content : List UInt8) : List Received :=
  (splitLines content).filterMap fun line => (Disk.decode? line).bind record?

def messages (now : Timestamp) (content : List UInt8) : List Message :=
  (records content).map (·.toMessage now)

-- The numbers of the spoiled ones among some lines, from the number of the first line on.
def spoiled (first : Nat) (lines : List String) : List Nat :=
  ((lines.zipIdx first).filter fun l => isSpoiled l.1).map (·.2)

section Spoiled

variable {first shift : Nat} {before after : List String}

theorem spoiledCons {text : String} : spoiled first (text :: after) =
    (if isSpoiled text then [first] else []) ++ spoiled (first + 1) after := by
  cases bad : isSpoiled text <;> simp [spoiled, bad]

theorem spoiledAppend : spoiled first (before ++ after) =
    spoiled first before ++ spoiled (first + before.length) after := by
  rw [spoiled, List.zipIdx_append, List.filter_append, List.map_append]
  rfl

end Spoiled

theorem recordRead {text : String} {r : Received} (read : Received.ofJson text = .ok r)
    (filled : Text.isBlankText text = false) : record? text = some r := by
  rw [record?, if_neg (by simp [filled]), read]
  rfl

section Lines

variable {now : Timestamp} {number : Nat} {line : List UInt8} {lines : List (List UInt8)}
  {text : String} {texts : List String}

/- A line adds its record to what the later lines give, or its number if it is spoiled. -/
theorem readText (decoded : Disk.decode? line = some text) :
    let all := readLines now number (line :: lines)
    let more := readLines now (number + 1) lines
    all.messages = (record? text).toList.map (·.toMessage now) ++ more.messages ∧
      all.skipped.map (·.1) =
        (if isSpoiled text then [number] else []) ++ more.skipped.map (·.1) ∧
      all.complete = more.complete := by
  dsimp only
  rw [readLines, decoded]
  cases blank : Text.isBlankText text with
  | true => simp [Line.ofText, record?, isSpoiled, blank]
  | false =>
    cases read : Received.ofJson text with
    | ok r => simp [Line.ofText, record?, isSpoiled, blank, read, Except.toOption]
    | error cause => simp [Line.ofText, record?, isSpoiled, blank, read, Except.toOption]

theorem readComplete :
    (readLines now number lines).complete = true ↔ ∀ line ∈ lines, isLegible line = true := by
  induction lines generalizing number with
  | nil => simp [readLines]
  | cons line lines ih =>
    cases decoded : Disk.decode? line with
    | none => simp [readLines, isLegible, decoded]
    | some text => simp [(readText decoded).2.2, ih, isLegible, decoded]

theorem readMessages (legible : ∀ line ∈ lines, isLegible line = true) :
    (readLines now number lines).messages =
      (lines.filterMap fun line => (Disk.decode? line).bind record?).map (·.toMessage now) := by
  induction lines generalizing number with
  | nil => rfl
  | cons line lines ih =>
    obtain ⟨text, decoded⟩ := Option.isSome_iff_exists.mp (legible line (.head _))
    rw [(readText decoded).1, ih fun line member => legible line (.tail _ member)]
    cases found : record? text <;> simp [decoded, found]

theorem readSkipped (decoded : lines.map Disk.decode? = texts.map some) :
    (readLines now number lines).skipped.map (·.1) = spoiled number texts := by
  induction lines generalizing number texts with
  | nil =>
    obtain rfl : texts = [] := by simpa using decoded.symm
    rfl
  | cons line lines ih =>
    cases texts with
    | nil => simp at decoded
    | cons text texts =>
      obtain ⟨first, later⟩ := List.cons.inj decoded
      rw [(readText first).2.1, ih later, spoiledCons]

end Lines

section Whole

variable (now : Timestamp) {content : List UInt8}

theorem readLegible (legible : Legible content) :
    (read now content).complete = true ∧ (read now content).messages = messages now content :=
  ⟨readComplete.mpr legible, readMessages legible⟩

theorem readIllegible (illegible : ¬Legible content) : (read now content).complete = false := by
  rw [← Bool.not_eq_true]
  exact fun complete => illegible (readComplete.mp complete)

end Whole

end Scrollback.History
