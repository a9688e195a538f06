import Mathlib.Data.List.TakeWhile
import Scrollback.Json.Reader

/-! Readers that do not notice blanks at the end of their text: they find the same there, or fail
either way, and what they leave differs again by blanks at its end only. No reader leaves more
than there was, so a loop that is allowed as many rounds as there are characters never runs out
of rounds. -/
namespace Scrollback.Json

-- A text, and the same text with some blanks after it.
inductive Padded : List Char → List Char → Prop where
  | blanks {w} (blank : w.all isBlank = true) : Padded [] w
  | cons {c cs ds} (tail : Padded cs ds) : Padded (c :: cs) (c :: ds)

section Texts

variable {cs ds : List Char}

theorem padded (cs : List Char) {w : List Char} (blank : w.all isBlank = true) :
    Padded cs (cs ++ w) := by
  induction cs with
  | nil => exact .blanks blank
  | cons c cs ih => exact .cons ih

theorem paddedSelf (cs : List Char) : Padded cs cs := by
  simpa using padded cs (w := []) rfl

theorem paddedLength (p : Padded cs ds) : cs.length ≤ ds.length := by
  induction p with
  | blanks => exact Nat.zero_le _
  | cons _ ih => exact Nat.succ_le_succ ih

theorem paddedBlank (p : Padded cs ds) : ds.all isBlank = cs.all isBlank := by
  induction p with
  | blanks blank => exact blank
  | cons _ ih => rw [List.all_cons, List.all_cons, ih]

theorem paddedTake (p : Padded cs ds) {n : Nat} (long : n ≤ cs.length) :
    ds.take n = cs.take n ∧ Padded (cs.drop n) (ds.drop n) := by
  induction p generalizing n with
  | blanks blank =>
    obtain rfl : n = 0 := Nat.le_zero.mp long
    exact ⟨rfl, .blanks blank⟩
  | cons tail ih =>
    cases n with
    | zero => exact ⟨rfl, .cons tail⟩
    | succ n =>
      obtain ⟨same, left⟩ := ih (Nat.le_of_succ_le_succ long)
      rw [List.take_succ_cons, List.take_succ_cons, same]
      exact ⟨rfl, left⟩

-- Both end where the blanks do, or the same character is next.
theorem paddedDrop (p : Padded cs ds) :
    (cs.dropWhile isBlank = [] ∧ ds.dropWhile isBlank = []) ∨
      ∃ c cs' ds', cs.dropWhile isBlank = c :: cs' ∧ ds.dropWhile isBlank = c :: ds' ∧
        Padded cs' ds' := by
  induction p with
  | @blanks w blank =>
    exact .inl ⟨rfl, List.dropWhile_eq_nil_iff.mpr (List.all_eq_true.mp blank)⟩
  | @cons c cs ds tail ih =>
    rw [List.dropWhile_cons, List.dropWhile_cons]
    split
    · exact ih
    · exact .inr ⟨c, cs, ds, rfl, rfl, tail⟩

end Texts

inductive Alike {α : Type} :
    Except Error (α × List Char) → Except Error (α × List Char) → Prop where
  | read {a cs ds} (left : Padded cs ds) : Alike (.ok (a, cs)) (.ok (a, ds))
  | failed {e e'} : Alike (.error e) (.error e')

structure Steady {α : Type} (p : Read α) : Prop where
  alike : ∀ {cs ds}, Padded cs ds → Alike (p.run cs) (p.run ds)
  fits : ∀ {cs a left}, p.run cs = .ok (a, left) → left.length ≤ cs.length

section Steps

variable {α β : Type} {p : Read α} {f g : α → Read β} {cs left : List Char} {a : α}

theorem runBind : (p >>= f).run cs = p.run cs >>= fun r => (f r.1).run r.2 := rfl

theorem bindRead (read : p.run cs = .ok (a, left)) : (p >>= f).run cs = (f a).run left := by
  rw [runBind, read]
  rfl

theorem bindFails {e : Error} (failed : p.run cs = .error e) : (p >>= f).run cs = .error e := by
  rw [runBind, failed]
  rfl

-- Two ways to go on need only agree on what the first reader can leave.
theorem bindSame (same : ∀ a left, p.run cs = .ok (a, left) → (f a).run left = (g a).run left) :
    (p >>= f).run cs = (p >>= g).run cs := by
  cases read : p.run cs with
  | error e => rw [bindFails read, bindFails read]
  | ok r => rw [bindRead read, bindRead read, same _ _ read]

theorem Steady.pure (a : α) : Steady (Pure.pure a) where
  alike p := .read p
  fits read := by
    cases read
    exact Nat.le_refl _

theorem Steady.fail (e : Error) : Steady (Json.fail e : Read α) where
  alike _ := .failed
  fits read := by cases read

theorem Steady.refused {e : Error} : Steady (Json.fail e >>= f) where
  alike _ := .failed
  fits read := by cases read

theorem Alike.bind {x y : Except Error (α × List Char)} (both : Alike x y)
    (next : ∀ a {cs ds}, Padded cs ds → Alike ((f a).run cs) ((f a).run ds)) :
    Alike (x >>= fun r => (f r.1).run r.2) (y >>= fun r => (f r.1).run r.2) := by
  cases both with
  | read left => exact next _ left
  | failed => exact .failed

theorem Steady.bind (first : Steady p) (next : ∀ a, Steady (f a)) : Steady (p >>= f) where
  alike both := (first.alike both).bind fun a => (next a).alike
  fits {cs b left} read := by
    cases taken : p.run cs with
    | error e =>
      rw [bindFails taken] at read
      cases read
    | ok r =>
      rw [bindRead taken] at read
      exact Nat.le_trans ((next _).fits read) (first.fits taken)

-- Rounds beyond those for each character change nothing, however many there are.
theorem roundsSame {loop : Nat → Read α} {n m : Nat} (longer : n ≤ m)
    (more : ∀ k, n ≤ k → (loop (k + 1)).run cs = (loop k).run cs) :
    (loop m).run cs = (loop n).run cs := by
  induction longer with
  | refl => rfl
  | step longer ih => rw [more _ longer, ih]

theorem Steady.rounds {loop : Nat → Read α} (each : ∀ n, Steady (loop n))
    (more : ∀ {n cs}, cs.length < n → (loop (n + 1)).run cs = (loop n).run cs) :
    Steady (get >>= fun cs => loop (cs.length + 1)) where
  alike {cs ds} both := by
    have longer : cs.length + 1 ≤ ds.length + 1 := Nat.succ_le_succ (paddedLength both)
    change Alike ((loop (cs.length + 1)).run cs) ((loop (ds.length + 1)).run ds)
    rw [← roundsSame longer fun _ => more]
    exact (each _).alike both
  fits read := (each _).fits read

end Steps

section Characters

variable {α : Type} {cs : List Char}

theorem Steady.peek : Steady peek? where
  alike {cs ds} both := by
    change Alike (.ok ((cs.dropWhile isBlank).head?, cs.dropWhile isBlank))
      (.ok ((ds.dropWhile isBlank).head?, ds.dropWhile isBlank))
    obtain ⟨left, right⟩ | ⟨c, cs', ds', left, right, tail⟩ := paddedDrop both
    · rw [left, right]
      exact .read (.blanks rfl)
    · rw [left, right]
      exact .read (.cons tail)
  fits {cs a left} read := by
    cases read
    exact (List.dropWhile_sublist _).length_le

theorem Steady.skip : Steady skip where
  alike both := by
    cases both with
    | @blanks w blank =>
      refine .read (.blanks ?_)
      rw [List.all_eq_true] at blank ⊢
      exact fun c member => blank c (List.mem_of_mem_drop member)
    | cons tail => exact .read tail
  fits {cs a left} read := by
    cases read
    exact (List.drop_sublist 1 cs).length_le

def Refuses (p : Read α) (cs : List Char) : Prop := ∃ e, p.run cs = .error e

/- A reader that takes the next character must fail in blanks, as it does at the end. -/
theorem Steady.take {f : Option Char → Read α} (atEnd : Refuses (f none) [])
    (atBlank : ∀ c w, isBlank c = true → w.all isBlank = true → Refuses (f (some c)) w)
    (each : ∀ c, Steady (f (some c))) : Steady (take? >>= f) where
  alike {cs ds} both := by
    cases both with
    | blanks blank =>
      obtain ⟨e, failed⟩ := atEnd
      cases ds with
      | nil =>
        change Alike ((f none).run []) ((f none).run [])
        rw [failed]
        exact .failed
      | cons c ds =>
        obtain ⟨first, later⟩ := Bool.and_eq_true_iff.mp blank
        obtain ⟨e', failed'⟩ := atBlank c ds first later
        change Alike ((f none).run []) ((f (some c)).run ds)
        rw [failed, failed']
        exact .failed
    | cons tail => exact (each _).alike tail
  fits {cs a left} read := by
    cases cs with
    | nil =>
      obtain ⟨e, failed⟩ := atEnd
      cases failed.symm.trans read
    | cons c cs => exact Nat.le_succ_of_le ((each c).fits read)

theorem refusesOther {x c : Char} {p : Read α} (solid : isBlank x = false)
    (blank : isBlank c = true) (cs : List Char) :
    Refuses (if c = x then p else fail .malformed) cs := by
  rw [if_neg fun same => by simp [same, solid] at blank]
  exact ⟨_, rfl⟩

theorem Steady.ite {P : Prop} [Decidable P] {p q : Read α} (yes : Steady p) (no : Steady q) :
    Steady (if P then p else q) := by
  split
  · exact yes
  · exact no

theorem Steady.word {expected : List Char} (solid : expected.any isBlank = false) :
    Steady (word expected) := by
  induction expected with
  | nil => exact .pure ()
  | cons x more ih =>
    obtain ⟨first, later⟩ := Bool.or_eq_false_iff.mp solid
    exact .take ⟨_, rfl⟩ (fun _ w blank _ => refusesOther first blank w) fun _ =>
      .ite (ih later) (.fail _)

theorem Steady.expectInside {x : Char} (solid : isBlank x = false) : Steady (expectInside x) :=
  .take ⟨_, rfl⟩ (fun _ w blank _ => refusesOther solid blank w) fun _ => .ite (.pure ()) (.fail _)

theorem blankCases {c : Char} (blank : isBlank c = true) :
    c = ' ' ∨ c = '\n' ∨ c = '\t' ∨ c = '\r' := by
  simpa [isBlank, or_assoc] using blank

-- Digits that are missing before the blanks are not found in them.
theorem paddedShort {ds : List Char} (both : Padded cs ds) {n : Nat} (short : cs.length < n)
    {digits : List Nat} (read : (ds.take n).mapM Unicode.hexDigit? = some digits) :
    digits.length ≠ n := by
  induction both generalizing n digits with
  | @blanks w blank =>
    cases w with
    | nil =>
      obtain rfl : [] = digits := by simpa using read
      exact Nat.ne_of_lt short
    | cons c w =>
      obtain ⟨m, rfl⟩ := Nat.exists_eq_succ_of_ne_zero (Nat.ne_of_gt short)
      have other : Unicode.hexDigit? c = none := by
        rcases blankCases (Bool.and_eq_true_iff.mp blank).1 with rfl | rfl | rfl | rfl
        all_goals rfl
      simp [other] at read
  | @cons c cs ds tail ih =>
    obtain ⟨m, rfl⟩ := Nat.exists_eq_succ_of_ne_zero (Nat.ne_of_gt (Nat.zero_lt_of_lt short))
    rw [List.take_succ_cons, List.mapM_cons] at read
    obtain ⟨d, -, read⟩ := Option.bind_eq_some_iff.mp read
    obtain ⟨more, later, same⟩ := Option.bind_eq_some_iff.mp read
    cases same
    have missing := ih (Nat.lt_of_succ_lt_succ short) later
    exact fun full => missing (Nat.succ.inj full)

-- What is made of four characters, and what is left then.
def digitsOf (four left : List Char) : Read Nat :=
  match four.mapM Unicode.hexDigit? with
  | some [a, b, c, d] => do
    set left
    return ((a * 16 + b) * 16 + c) * 16 + d
  | _ => Json.fail (if (String.ofList four).utf8ByteSize < 4 then .incomplete else .malformed)

theorem hexDigitsRun : hexDigits.run cs = (digitsOf (cs.take 4) (cs.drop 4)).run cs := rfl

theorem hexDigitsShort {ds : List Char} (both : Padded cs ds) (short : cs.length < 4) :
    Refuses hexDigits ds := by
  rw [Refuses, hexDigitsRun, digitsOf]
  split
  · rename_i a b c d read
    cases paddedShort both short read rfl
  · exact ⟨_, rfl⟩

theorem Steady.hexDigits : Steady hexDigits where
  alike {cs ds} both := by
    rcases Nat.lt_or_ge cs.length 4 with short | long
    · obtain ⟨e, failed⟩ := hexDigitsShort (paddedSelf cs) short
      obtain ⟨e', failed'⟩ := hexDigitsShort both short
      rw [failed, failed']
      exact .failed
    · obtain ⟨four, tail⟩ := paddedTake both long
      rw [hexDigitsRun, hexDigitsRun, four, digitsOf, digitsOf]
      split
      · exact .read tail
      · exact .failed
  fits {cs a left} read := by
    rw [hexDigitsRun, digitsOf] at read
    split at read
    · cases read
      exact (List.drop_sublist 4 cs).length_le
    · cases read

theorem Steady.escapedPoint : Steady escapedPoint := by
  refine .bind .hexDigits fun n => .ite .refused (.ite (.pure _) ?_)
  refine .bind (.expectInside rfl) fun _ => .bind (.expectInside rfl) fun _ => ?_
  exact .bind .hexDigits fun m => .ite .refused (.pure _)

section Strings

variable {point : α → Read α} {keep : α → Char → α}

-- In blanks a string does not end.
theorem stringEndBlank (fuel : Nat) {found : α} {w : List Char} (blank : w.all isBlank = true) :
    Refuses (stringEnd point keep fuel found) w := by
  induction fuel generalizing found w with
  | zero => exact ⟨_, rfl⟩
  | succ fuel ih =>
    cases w with
    | nil => exact ⟨_, rfl⟩
    | cons c w =>
      obtain ⟨first, later⟩ := Bool.and_eq_true_iff.mp blank
      rcases blankCases first with rfl | rfl | rfl | rfl
      · exact ih later
      all_goals exact ⟨_, rfl⟩

theorem Steady.stringEnd (each : ∀ a, Steady (point a)) (fuel : Nat) (found : α) :
    Steady (stringEnd point keep fuel found) := by
  induction fuel generalizing found with
  | zero => exact .fail _
  | succ fuel ih =>
    refine .take ⟨_, rfl⟩ (fun c w first later => ?_) fun c => ?_
    · exact stringEndBlank (fuel + 1) (w := c :: w) (by simp [first, later])
    · split
      · exact .fail _
      · exact .pure _
      · refine .take ⟨_, rfl⟩ (fun c w first _ => ?_) fun c => ?_
        · rcases blankCases first with rfl | rfl | rfl | rfl
          all_goals exact ⟨_, rfl⟩
        · split
          · exact .fail _
          · exact .bind (each found) fun _ => ih _
          · split
            · exact ih _
            · exact .fail _
      · exact .ite (.fail _) (ih _)

theorem Steady.keepPoint (found : List Char) : Steady (keepPoint found) :=
  .bind .escapedPoint fun _ => .pure _

theorem Steady.passPoint (u : Unit) : Steady (passPoint u) :=
  .bind .hexDigits fun _ => .pure _

end Strings

theorem Steady.digitRun : Steady digitRun where
  alike {cs ds} both := by
    have same : ds.takeWhile Char.isDigit = cs.takeWhile Char.isDigit := by
      induction both with
      | @blanks w blank =>
        cases w with
        | nil => rfl
        | cons c w =>
          rcases blankCases (Bool.and_eq_true_iff.mp blank).1 with rfl | rfl | rfl | rfl
          all_goals rfl
      | cons tail ih => rw [List.takeWhile_cons, List.takeWhile_cons, ih]
    change Alike (.ok (cs.takeWhile Char.isDigit, cs.drop (cs.takeWhile Char.isDigit).length))
      (.ok (ds.takeWhile Char.isDigit, ds.drop (ds.takeWhile Char.isDigit).length))
    rw [same]
    exact .read (paddedTake both (List.takeWhile_sublist _).length_le).2
  fits {cs a left} read := by
    cases read
    exact (List.drop_sublist _ cs).length_le

/- A reader that looks at the next character without taking it. What it does at the end and before
blanks is to be alike. -/
theorem Steady.look {f : List Char → Read α} (atEnd : Steady (f []))
    (atBlank : ∀ c w, isBlank c = true → w.all isBlank = true →
      Alike ((f []).run []) ((f (c :: w)).run (c :: w)))
    (atChar : ∀ c, ∃ p, Steady p ∧ ∀ cs, f (c :: cs) = p) : Steady (get >>= f) where
  alike {cs ds} both := by
    cases both with
    | blanks blank =>
      cases ds with
      | nil => exact atEnd.alike (.blanks rfl)
      | cons c w =>
        obtain ⟨first, later⟩ := Bool.and_eq_true_iff.mp blank
        exact atBlank c w first later
    | @cons c cs ds tail =>
      obtain ⟨p, steady, same⟩ := atChar c
      change Alike ((f (c :: cs)).run (c :: cs)) ((f (c :: ds)).run (c :: ds))
      rw [same, same]
      exact steady.alike (.cons tail)
  fits {cs a left} read := by
    change (f cs).run cs = _ at read
    cases cs with
    | nil => exact atEnd.fits read
    | cons c cs =>
      obtain ⟨p, steady, same⟩ := atChar c
      rw [same] at read
      exact steady.fits read

-- A reader that stays as it is at the end where it sees a blank.
theorem Steady.lookFor {f : List Char → Read α} {p : Read α} (other : Steady p) (atEnd : f [] = p)
    (atBlank : ∀ c w, isBlank c = true → f (c :: w) = p)
    (atChar : ∀ c, ∃ p, Steady p ∧ ∀ cs, f (c :: cs) = p) : Steady (get >>= f) := by
  refine .look (atEnd ▸ other) (fun c w first later => ?_) atChar
  rw [atEnd, atBlank c w first]
  exact other.alike (.blanks (by rw [List.all_cons, first, later]; rfl))

theorem Steady.wholePart (atEnd : Error) : Steady (wholePart atEnd) := by
  refine .look (.fail _) (fun c w blank _ => ?_) fun c => ⟨_, ?_, fun cs => by
    dsimp only [List.head?_cons]⟩
  · rcases blankCases blank with rfl | rfl | rfl | rfl
    all_goals exact .failed
  · split
    · exact .fail _
    · refine .bind .skip fun _ => ?_
      refine .lookFor (p := return ['0']) (.pure _) rfl (fun c w blank => ?_) fun c =>
        ⟨if c.isDigit then Json.fail .malformed else return ['0'], .ite (.fail _) (.pure _),
          fun cs => rfl⟩
      rcases blankCases blank with rfl | rfl | rfl | rfl
      all_goals rfl
    · exact .ite .digitRun (.fail _)

theorem Steady.someDigits (atEnd : Error) : Steady (someDigits atEnd) :=
  .bind .digitRun fun _ => .ite ⟨fun _ => .failed, fun read => by cases read⟩ (.pure _)

theorem Steady.fraction (atEnd : Error) : Steady (fraction atEnd) := by
  refine .lookFor (.pure []) rfl (fun c w blank => ?_) fun c => ⟨_, ?_, fun cs => by
    dsimp only [List.head?_cons]⟩
  · rcases blankCases blank with rfl | rfl | rfl | rfl
    all_goals rfl
  · split
    · exact .bind .skip fun _ => .someDigits atEnd
    · exact .pure _

theorem Steady.isNegative : Steady isNegative := by
  refine .lookFor (.pure false) rfl (fun c w blank => ?_) fun c => ⟨_, ?_, fun cs => by
    dsimp only [List.head?_cons]⟩
  · rcases blankCases blank with rfl | rfl | rfl | rfl
    all_goals rfl
  · split
    · exact .bind .skip fun _ => .pure _
    · exact .bind .skip fun _ => .pure _
    · exact .pure _

theorem Steady.power (atEnd : Error) : Steady (power atEnd) := by
  refine .lookFor (.pure 0) rfl (fun c w blank => ?_) fun c => ⟨_, ?_, fun cs => by
    dsimp only [List.head?_cons]⟩
  · rcases blankCases blank with rfl | rfl | rfl | rfl
    all_goals rfl
  · split
    · exact .bind .skip fun _ => .bind .isNegative fun _ => .bind (.someDigits _) fun _ => .pure _
    · exact .bind .skip fun _ => .bind .isNegative fun _ => .bind (.someDigits _) fun _ => .pure _
    · exact .pure _

theorem Steady.passNumber : Steady passNumber :=
  .bind (.wholePart _) fun _ => .bind (.fraction _) fun _ => .bind (.power _) fun _ => .pure _

end Characters

end Scrollback.Json
