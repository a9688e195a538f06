import Scrollback.Proofs.Json.Steady

/-! Loops of readers. Each round takes a character, so rounds beyond the number of characters change
nothing, and a loop that is allowed as many as that is steady like its parts. -/
namespace Scrollback.Json

theorem skipRun (c : Char) (cs : List Char) : skip.run (c :: cs) = .ok ((), cs) := rfl

section Same

variable {α : Type} {cs : List Char}

theorem takeSame {f g : Option Char → Read α} (atEnd : (f none).run [] = (g none).run [])
    (each : ∀ c left, cs = c :: left → (f (some c)).run left = (g (some c)).run left) :
    (take? >>= f).run cs = (take? >>= g).run cs := by
  cases cs with
  | nil => exact atEnd
  | cons c left => exact each c left rfl

theorem peekSame {f g : Option Char → Read α} (atEnd : (f none).run [] = (g none).run [])
    (each : ∀ c left, left.length < cs.length →
      (f (some c)).run (c :: left) = (g (some c)).run (c :: left)) :
    (peek? >>= f).run cs = (peek? >>= g).run cs := by
  change (f (cs.dropWhile isBlank).head?).run (cs.dropWhile isBlank) =
    (g (cs.dropWhile isBlank).head?).run (cs.dropWhile isBlank)
  have fits := (List.dropWhile_sublist isBlank (l := cs)).length_le
  cases left : cs.dropWhile isBlank with
  | nil => exact atEnd
  | cons c left' =>
    rw [left] at fits
    exact each c left' fits

theorem peekRead {f : Option Char → Read α} {a : α} {left : List Char}
    (read : (peek? >>= f).run cs = .ok (a, left)) : (f none).run [] = .ok (a, left) ∨
      ∃ c cs', cs'.length < cs.length ∧ (f (some c)).run (c :: cs') = .ok (a, left) := by
  change (f (cs.dropWhile isBlank).head?).run (cs.dropWhile isBlank) = _ at read
  have fits := (List.dropWhile_sublist isBlank (l := cs)).length_le
  cases next : cs.dropWhile isBlank with
  | nil =>
    rw [next] at read
    exact .inl read
  | cons c cs' =>
    rw [next] at read fits
    exact .inr ⟨c, cs', fits, read⟩

end Same

section Strings

variable {α : Type} {point : α → Read α} {keep : α → Char → α}

theorem stringEndMore (each : ∀ a, Steady (point a)) {cs : List Char} {fuel : Nat} {found : α}
    (enough : cs.length ≤ fuel) : (stringEnd point keep (fuel + 1) found).run cs =
      (stringEnd point keep fuel found).run cs := by
  induction fuel generalizing cs found with
  | zero =>
    obtain rfl := List.length_eq_zero_iff.mp (Nat.le_zero.mp enough)
    rfl
  | succ fuel ih =>
    refine takeSame rfl fun c left whole => ?_
    subst whole
    have room : left.length ≤ fuel := Nat.le_of_succ_le_succ enough
    split
    · rfl
    · rfl
    · refine takeSame rfl fun c left' whole => ?_
      subst whole
      have room : left'.length ≤ fuel := Nat.le_of_succ_le room
      split
      · rfl
      · exact bindSame fun a left read => ih (((each found).fits read).trans room)
      · split
        · exact ih room
        · rfl
    · split
      · rfl
      · exact ih room

theorem Steady.wholeString (each : ∀ a, Steady (point a)) (found : α) :
    Steady (wholeString point keep found) :=
  .rounds (fun n => .stringEnd each n found) fun more => stringEndMore each (Nat.le_of_lt more)

theorem Steady.stringHere : Steady stringHere :=
  .bind .skip fun _ => .bind (.wholeString .keepPoint []) fun _ => .pure _

theorem Steady.passStringHere : Steady passStringHere :=
  .bind .skip fun _ => .wholeString .passPoint ()

end Strings

section Values

variable {α : Type} {p : Read α}

theorem Steady.never (refuses : ∀ cs, Refuses p cs) : Steady p where
  alike {cs ds} _ := by
    obtain ⟨e, failed⟩ := refuses cs
    obtain ⟨e', failed'⟩ := refuses ds
    rw [failed, failed']
    exact .failed
  fits {cs a left} read := by
    obtain ⟨e, failed⟩ := refuses cs
    cases failed.symm.trans read

theorem refusesBind {β : Type} {q : Read β} {f : β → Read α} (next : ∀ b cs, Refuses (f b) cs)
    (cs : List Char) : Refuses (q >>= f) cs := by
  cases read : q.run cs with
  | error e => exact ⟨e, bindFails read⟩
  | ok r =>
    obtain ⟨e, failed⟩ := next r.1 r.2
    exact ⟨e, (bindRead read).trans failed⟩

theorem wrongKindRefuses (cs : List Char) : Refuses (wrongKind : Read α) cs := by
  have mismatch (cs : List Char) : Refuses (fail .mismatch : Read α) cs := ⟨_, rfl⟩
  refine refusesBind (fun first cs => ?_) cs
  split
  · exact refusesBind (fun _ => mismatch) cs
  · exact refusesBind (fun _ => mismatch) cs
  · exact refusesBind (fun _ => mismatch) cs
  · exact refusesBind (fun _ => refusesBind fun _ => mismatch) cs
  · exact refusesBind (fun _ => mismatch) cs
  · exact mismatch cs
  · exact mismatch cs
  · split
    · exact refusesBind (fun _ => mismatch) cs
    · exact ⟨_, rfl⟩
  · exact ⟨_, rfl⟩

theorem Steady.wrongKind : Steady (wrongKind : Read α) := .never wrongKindRefuses

theorem Steady.expecting {first : Char} (steady : Steady p) : Steady (expecting first p) := by
  refine .bind .peek fun c => ?_
  split
  · exact .fail _
  · exact .ite steady .wrongKind

theorem Steady.string : Steady string := .expecting .stringHere

theorem Steady.null : Steady (Json.word ['n', 'u', 'l', 'l']) := .word rfl

theorem Steady.optional (steady : Steady p) : Steady (optional p) := by
  refine .bind .peek fun c => ?_
  split
  · exact .bind .null fun _ => .pure _
  · exact .bind steady fun _ => .pure _

theorem Steady.colon : Steady colon := by
  refine .bind .peek fun c => ?_
  split
  · exact .fail _
  · exact .skip
  · exact .fail _

theorem Steady.close (closing : Char) : Steady (close closing) := by
  refine .bind .peek fun c => ?_
  split
  · exact .fail _
  · exact .ite .skip (.fail _)

theorem Steady.hasItem (frame : Frame) (first : Bool) : Steady (hasItem frame first) := by
  refine .bind .peek fun c => ?_
  split
  · exact .fail _
  · refine .ite (.pure _) (.ite (.ite (.pure _) .refused)
      (.ite .refused (.bind .skip fun _ => .bind .peek fun c => ?_)))
    split
    · exact .fail _
    · exact .ite (.pure _) (.fail _)

end Values

section Items

variable {α : Type} {frame : Frame} {cs left : List Char} {fuel : Nat}

-- Before a further item there is a comma.
theorem itemTakes (read : (hasItem frame false).run cs = .ok (true, left)) :
    left.length < cs.length := by
  obtain failed | ⟨c, cs', fits, read⟩ := peekRead read
  · cases failed
  dsimp only at read
  split at read
  · cases read
  rw [if_neg Bool.false_ne_true] at read
  split at read
  · cases read
  rw [bindRead (skipRun c cs')] at read
  obtain failed | ⟨d, after, later, read⟩ := peekRead read
  · cases failed
  dsimp only at read
  split at read
  · cases read
    exact Nat.lt_of_le_of_lt later fits
  · cases read

theorem Steady.items {read : α → Read α} (each : ∀ a, Steady (read a)) (fuel : Nat) (first : Bool)
    (a : α) : Steady (items frame read fuel first a) := by
  induction fuel generalizing first a with
  | zero => exact .fail _
  | succ fuel ih =>
    exact .bind (.hasItem frame first) fun more =>
      .ite (.bind (each a) fun b => ih false b) (.pure _)

theorem itemsMore {read : α → Read α} (each : ∀ a, Steady (read a)) {a : α}
    (enough : cs.length ≤ fuel) :
    (items frame read (fuel + 1) false a).run cs = (items frame read fuel false a).run cs := by
  induction fuel generalizing cs a with
  | zero =>
    obtain rfl := List.length_eq_zero_iff.mp (Nat.le_zero.mp enough)
    rfl
  | succ fuel ih =>
    refine bindSame fun more left found => ?_
    cases more with
    | false => rfl
    | true =>
      have room : left.length ≤ fuel :=
        Nat.le_of_lt_succ (Nat.lt_of_lt_of_le (itemTakes found) enough)
      exact bindSame fun b left' taken => ih (((each a).fits taken).trans room)

theorem itemsFirst {read : α → Read α} (each : ∀ a, Steady (read a)) {a : α}
    (enough : cs.length < fuel) :
    (items frame read (fuel + 1) true a).run cs = (items frame read fuel true a).run cs := by
  obtain ⟨fuel, rfl⟩ := Nat.exists_eq_succ_of_ne_zero (Nat.ne_of_gt (Nat.zero_lt_of_lt enough))
  refine bindSame fun more left found => ?_
  cases more with
  | false => rfl
  | true =>
    have room : left.length ≤ fuel :=
      ((Steady.hasItem frame true).fits found).trans (Nat.le_of_lt_succ enough)
    exact bindSame fun b left' taken => itemsMore each (((each a).fits taken).trans room)

theorem Steady.allItems {read : α → Read α} (each : ∀ a, Steady (read a)) (start : α) :
    Steady (allItems frame read start) :=
  .rounds (fun n => .items each n true start) (itemsFirst each)

theorem Steady.array {read : Read α} (each : Steady read) : Steady (array read) :=
  .expecting <| .bind .skip fun _ =>
    .bind (.allItems (fun _ => .bind each fun _ => .pure _) []) fun _ =>
      .bind (.close _) fun _ => .pure _

theorem Steady.member {read : α → String → Read α} (each : ∀ a name, Steady (read a name)) (a : α) :
    Steady (member read a) :=
  .bind .string fun name => each a name

theorem Steady.stringEntry (found : List (String × String)) (name : String) :
    Steady (stringEntry found name) :=
  .bind .colon fun _ => .bind .string fun _ => .pure _

theorem Steady.stringMap : Steady stringMap :=
  .expecting <| .bind .skip fun _ => .bind (.allItems (.member .stringEntry) []) fun _ =>
    .bind (.close _) fun _ => .pure _

theorem Steady.oneOf (ofName? : String → Option α) : Steady (oneOf ofName?) := by
  refine .bind .peek fun c => ?_
  split
  · exact .fail _
  · refine .bind .stringHere fun name => ?_
    dsimp only
    split
    · exact .pure _
    · exact .fail _
  · refine .bind .skip fun _ => .bind .string fun name => .bind ?_ fun a =>
      .bind .colon fun _ => .bind .peek fun c => ?_
    · dsimp only
      split
      · exact .pure _
      · exact .fail _
    · split
      · exact .refused
      · exact .bind .null fun _ => .bind (.close _) fun _ => .pure _
      · exact .bind .wrongKind fun _ => .bind (.close _) fun _ => .pure _
  · exact .fail _

end Items

section Passing

theorem Steady.passClosing (fuel : Nat) (afterValue : Bool) (frames : List Frame) :
    Steady (passClosing fuel afterValue frames) := by
  induction fuel generalizing afterValue frames with
  | zero => exact .fail _
  | succ fuel ih =>
    cases frames with
    | nil => exact .pure _
    | cons frame outer =>
      refine .bind .peek fun c => ?_
      split
      · exact .fail _
      · refine .ite (.bind .skip fun _ => ih _ _) (.ite ?_ (.ite (.fail _) (.pure _)))
        exact .ite (.bind .skip fun _ => .pure _) (.pure _)

theorem Steady.passName : Steady passName := by
  refine .bind .peek fun c => ?_
  split
  · exact .fail _
  · exact .passStringHere
  · exact .fail _

theorem Steady.passHead (frame : Frame) : Steady (passHead frame) := by
  cases frame with
  | array => exact .pure ()
  | object => exact .bind .passName fun _ => .colon

theorem Steady.passOn {next : List Frame → Read Unit} (each : ∀ frames, Steady (next frames))
    (afterValue : Bool) (frames : List Frame) : Steady (passOn next afterValue frames) := by
  refine .bind (.passClosing _ _ _) fun opened => ?_
  split
  · exact .pure _
  · exact .bind (.passHead _) fun _ => each _

theorem Steady.passValue (fuel : Nat) (frames : List Frame) : Steady (passValue fuel frames) := by
  induction fuel generalizing frames with
  | zero => exact .fail _
  | succ fuel ih =>
    refine .bind .peek fun c => ?_
    split
    · exact .fail _
    · exact .bind .null fun _ => .passOn ih _ _
    · exact .bind (.word rfl) fun _ => .passOn ih _ _
    · exact .bind (.word rfl) fun _ => .passOn ih _ _
    · exact .bind .skip fun _ => .bind .passNumber fun _ => .passOn ih _ _
    · exact .bind .passStringHere fun _ => .passOn ih _ _
    · exact .bind .skip fun _ => .passOn ih _ _
    · exact .bind .skip fun _ => .passOn ih _ _
    · exact .ite (.bind .passNumber fun _ => .passOn ih _ _) (.fail _)

variable {c : Char} {cs left : List Char}

theorem wordTakes {x : Char} {more : List Char} (solid : more.any isBlank = false) {u : Unit}
    (read : (word (x :: more)).run (c :: cs) = .ok (u, left)) : left.length ≤ cs.length := by
  change (if c = x then word more else fail .malformed).run cs = _ at read
  split at read
  · exact (Steady.word solid).fits read
  · cases read

theorem wholeTakes {atEnd : Error} {digits : List Char}
    (read : (wholePart atEnd).run (c :: cs) = .ok (digits, left)) : left.length ≤ cs.length := by
  rw [wholePart, runBind, StateT.run_get, pure_bind] at read
  dsimp only [List.head?_cons] at read
  split at read
  · cases read
  · rw [bindRead (skipRun c cs), runBind, StateT.run_get, pure_bind] at read
    split at read
    · cases read
    · cases read
      exact Nat.le_refl _
  · rename_i first _ same
    cases same
    split at read
    · rename_i digit
      cases read
      rw [List.takeWhile_cons_of_pos digit]
      exact (List.drop_sublist _ cs).length_le
    · cases read

theorem numberTakes {u : Unit} (read : passNumber.run (c :: cs) = .ok (u, left)) :
    left.length ≤ cs.length := by
  have later : Steady (fraction .malformed >>= fun _ => power .malformed >>= fun _ => pure ()) :=
    .bind (.fraction _) fun _ => .bind (.power _) fun _ => .pure _
  cases whole : (wholePart .malformed).run (c :: cs) with
  | error e =>
    rw [passNumber, bindFails whole] at read
    cases read
  | ok r =>
    rw [passNumber, bindRead whole] at read
    exact (later.fits read).trans (wholeTakes whole)

theorem nameTakes {u : Unit} (read : passStringHere.run (c :: cs) = .ok (u, left)) :
    left.length ≤ cs.length := by
  rw [passStringHere, bindRead (skipRun c cs)] at read
  exact (Steady.wholeString Steady.passPoint ()).fits read

theorem passOnSame {next next' : List Frame → Read Unit} {n : Nat}
    (same : ∀ frames {cs}, cs.length ≤ n → (next frames).run cs = (next' frames).run cs)
    {afterValue : Bool} {frames : List Frame} (room : cs.length ≤ n) :
    (passOn next afterValue frames).run cs = (passOn next' afterValue frames).run cs := by
  refine bindSame fun opened left closed => ?_
  have room := ((Steady.passClosing _ _ _).fits closed).trans room
  split
  · rfl
  · exact bindSame fun _ left' passed => same _ (((Steady.passHead _).fits passed).trans room)

theorem passValueMore {frames : List Frame} {fuel : Nat} (enough : cs.length ≤ fuel) :
    (passValue (fuel + 1) frames).run cs = (passValue fuel frames).run cs := by
  induction fuel generalizing cs frames with
  | zero =>
    obtain rfl := List.length_eq_zero_iff.mp (Nat.le_zero.mp enough)
    rfl
  | succ fuel ih =>
    refine peekSame rfl fun c left shorter => ?_
    have room : left.length ≤ fuel := Nat.le_of_lt_succ (Nat.lt_of_lt_of_le shorter enough)
    -- Each kind of value takes its first character, so the values after it have fewer.
    have goOn {p : Read Unit} {afterValue : Bool} {frames : List Frame}
        (takes : ∀ {u after}, p.run (c :: left) = .ok (u, after) → after.length ≤ left.length) :
        (p >>= fun _ => passOn (passValue (fuel + 1)) afterValue frames).run (c :: left) =
          (p >>= fun _ => passOn (passValue fuel) afterValue frames).run (c :: left) :=
      bindSame fun _ _ read => passOnSame (fun _ _ => ih) ((takes read).trans room)
    split
    · rfl
    · exact goOn (wordTakes rfl)
    · exact goOn (wordTakes rfl)
    · exact goOn (wordTakes rfl)
    · rw [bindRead (skipRun c left), bindRead (skipRun c left)]
      exact bindSame fun _ after read =>
        passOnSame (fun _ _ => ih) ((Steady.passNumber.fits read).trans room)
    · exact goOn nameTakes
    · exact goOn fun read => by cases read; exact Nat.le_refl _
    · exact goOn fun read => by cases read; exact Nat.le_refl _
    · split
      · exact goOn numberTakes
      · rfl

theorem Steady.ignore : Steady ignore :=
  .rounds (fun n => .passValue n []) fun more => passValueMore (Nat.le_of_lt more)

end Passing

end Scrollback.Json
