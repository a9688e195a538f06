import Mathlib.Data.List.Basic
import Mathlib.Data.List.TakeWhile
import Scrollback.Time.Timestamp

/-! How a time is written: a date, a time of day and an offset from universal time, as in
`2024-01-02T03:04:05.25+01:00`. Each such text is read as the time that it stands for. -/
namespace Scrollback.Timestamp

open Time (Date)

structure Number (width n : Nat) (cs : List Char) : Prop where
  size : cs.length = width
  digits : ∀ c ∈ cs, c.isDigit = true
  value : digitsValue cs = n

inductive YearText : Int → List Char → Prop where
  | plain {n : Nat} {cs : List Char} (number : Number 4 n cs) : YearText n cs
  | signed {width n : Nat} {cs : List Char} (number : Number (width + 1) n cs) :
      YearText n ('+' :: cs)
  | negative {width n : Nat} {cs : List Char} (number : Number (width + 1) n cs) :
      YearText (-n) ('-' :: cs)

-- Nanoseconds, of which nine digits count.
inductive FractionText : Nat → List Char → Prop where
  | absent : FractionText 0 []
  | digits {width n : Nat} {cs : List Char} (number : Number (width + 1) n cs) :
      FractionText (digitsValue (cs.take 9) * Nat.pow 10 (9 - (cs.take 9).length)) ('.' :: cs)

-- Seconds ahead of universal time.
inductive OffsetText : Int → List Char → Prop where
  | universal {mark : Char} (marked : mark = 'Z' ∨ mark = 'z') : OffsetText 0 [mark]
  | ahead {hour minute : Nat} {hs ms : List Char} (hours : Number 2 hour hs)
      (minutes : Number 2 minute ms) (bound : minute ≤ 59) :
      OffsetText (hour * 3600 + minute * 60) ('+' :: (hs ++ ':' :: ms))
  | behind {hour minute : Nat} {hs ms : List Char} (hours : Number 2 hour hs)
      (minutes : Number 2 minute ms) (bound : minute ≤ 59) :
      OffsetText (-(hour * 3600 + minute * 60)) ('-' :: (hs ++ ':' :: ms))

-- A time of day on a date, and how far it is ahead of universal time.
structure Local where
  date : Date
  hour : Nat
  minute : Nat
  second : Nat
  nano : Nat
  offset : Int

structure Local.Sound (l : Local) : Prop where
  date : l.date.isValid = true
  year : Date.firstYear ≤ l.date.year ∧ l.date.year ≤ Date.lastYear
  hour : l.hour ≤ 23
  minute : l.minute ≤ 59
  second : l.second ≤ 60
  offset : (l.offset.natAbs : Int) < secondsPerDay

-- Second 60 is a leap second, which the second before it takes in.
def Local.time (l : Local) : Timestamp where
  second := l.date.toDays * secondsPerDay + l.hour * 3600 + l.minute * 60 +
    (if l.second = 60 then 59 else l.second : Nat) - l.offset
  nano := l.nano + if l.second = 60 then 1000000000 else 0

inductive Local.Written (l : Local) : List Char → Prop where
  | text {ys ms ds hs ns ss fs os : List Char} {mark : Char} (year : YearText l.date.year ys)
      (month : Number 2 l.date.month ms) (day : Number 2 l.date.day ds)
      (marked : mark = 'T' ∨ mark = 't' ∨ mark = ' ') (hour : Number 2 l.hour hs)
      (minute : Number 2 l.minute ns) (second : Number 2 l.second ss)
      (fraction : FractionText l.nano fs) (offset : OffsetText l.offset os) :
      l.Written (ys ++ '-' :: (ms ++ '-' :: (ds ++ mark :: (hs ++ ':' :: (ns ++ ':' ::
        (ss ++ (fs ++ os)))))))

def Spelled (t : Timestamp) (cs : List Char) : Prop :=
  ∃ l : Local, l.Sound ∧ l.Written cs ∧ l.time = t ∧
    Date.firstYear ≤ t.date.year ∧ t.date.year ≤ Date.lastYear

section Reading

variable {width n : Nat} {cs rest : List Char} {c : Char}

theorem digitSolid (digit : c.isDigit = true) : Unicode.isBlank c = false := by
  simp only [Char.isDigit, Bool.and_eq_true, decide_eq_true_eq, UInt32.le_iff_toNat_le] at digit
  have low : 48 ≤ c.toNat := digit.1
  have high : c.toNat ≤ 57 := digit.2
  rw [Bool.eq_false_iff]
  simp only [Unicode.isBlank, ne_eq, Bool.or_eq_true, Bool.and_eq_true, decide_eq_true_eq,
    beq_iff_eq]
  omega

theorem numberRead (number : Number (width + 1) n cs) (rest : List Char) :
    number? (width + 1) (cs ++ rest) = some (n, rest) := by
  obtain ⟨size, digits, rfl⟩ := number
  have taken : (cs ++ rest).take (width + 1) = cs := by rw [← size, List.take_left]
  have all : cs.takeWhile Char.isDigit = cs := List.takeWhile_eq_self_iff.mpr digits
  rw [number?, taken, all, if_neg (by cases cs <;> simp_all), List.drop_left]

theorem skipDigit (number : Number (width + 1) n cs) (rest : List Char) :
    skipBlanks (cs ++ rest) = cs ++ rest := by
  obtain ⟨size, digits, -⟩ := number
  obtain ⟨c, tail, rfl⟩ := List.exists_cons_of_ne_nil (by rintro rfl; simp at size : cs ≠ [])
  exact List.dropWhile_cons_of_neg (by simp [digitSolid (digits c (.head _))])

theorem partRead (number : Number 2 n cs) (rest : List Char) :
    part? (cs ++ rest) = some (n, rest) := by
  rw [part?, skipDigit number, numberRead number]

theorem markRead (solid : Unicode.isBlank c = false) (rest : List Char) :
    mark? c (c :: rest) = some rest := by
  rw [mark?, skipBlanks, List.dropWhile_cons_of_neg (by simp [solid])]
  exact if_pos rfl

theorem numberHead (number : Number (width + 1) n cs) :
    ∃ c tail, cs = c :: tail ∧ c.isDigit = true := by
  obtain ⟨size, digits, -⟩ := number
  obtain ⟨c, tail, rfl⟩ := List.exists_cons_of_ne_nil (by rintro rfl; simp at size : cs ≠ [])
  exact ⟨c, tail, rfl, digits c (.head _)⟩

theorem digitsTaken (number : Number (width + 1) n cs) (other : c.isDigit = false)
    (rest : List Char) : (cs ++ c :: rest).takeWhile Char.isDigit = cs := by
  rw [List.takeWhile_append_of_pos number.digits, List.takeWhile_cons_of_neg (by simp [other]),
    List.append_nil]

theorem longNumberRead (number : Number (width + 1) n cs) (other : c.isDigit = false)
    (rest : List Char) :
    number? (cs ++ c :: rest).length (cs ++ c :: rest) = some (n, c :: rest) := by
  obtain ⟨d, tail, some, -⟩ := numberHead number
  rw [number?, List.take_length, digitsTaken number other, number.value,
    if_neg (by simp [some]), List.drop_left]

theorem yearRead {year : Int} (text : YearText year cs) (rest : List Char) :
    year? (cs ++ '-' :: rest) = some (year, '-' :: rest) := by
  cases text with
  | plain number =>
    obtain ⟨c, tail, rfl, digit⟩ := numberHead number
    have read := numberRead number ('-' :: rest)
    rw [year?, skipDigit number]
    rw [List.cons_append] at read ⊢
    split
    · rename_i same
      cases same
      contradiction
    · rename_i same
      cases same
      contradiction
    · rw [read]
      rfl
  | @signed _ _ cs number =>
    have read : number? (cs ++ '-' :: rest).length (cs ++ '-' :: rest) = _ :=
      longNumberRead number rfl rest
    change (number? (cs ++ '-' :: rest).length (cs ++ '-' :: rest)).map _ = _
    rw [read]
    rfl
  | @negative _ _ cs number =>
    have read : number? (cs ++ '-' :: rest).length (cs ++ '-' :: rest) = _ :=
      longNumberRead number rfl rest
    change (number? (cs ++ '-' :: rest).length (cs ++ '-' :: rest)).map _ = _
    rw [read]
    rfl

theorem offsetHead {offset : Int} (text : OffsetText offset cs) :
    ∃ c tail, cs = c :: tail ∧ c.isDigit = false ∧ c ≠ '.' ∧ Unicode.isBlank c = false := by
  cases text with
  | universal marked => rcases marked with rfl | rfl <;> exact ⟨_, _, rfl, rfl, by decide, rfl⟩
  | ahead => exact ⟨_, _, rfl, rfl, by decide, rfl⟩
  | behind => exact ⟨_, _, rfl, rfl, by decide, rfl⟩

theorem fractionRead {nano : Nat} (text : FractionText nano cs) (other : c.isDigit = false)
    (point : c ≠ '.') (rest : List Char) :
    fraction? (cs ++ c :: rest) = some (nano, c :: rest) := by
  cases text with
  | absent =>
    rw [List.nil_append, fraction?]
    intro tail same
    cases same
    contradiction
  | digits number =>
    obtain ⟨d, tail, some, -⟩ := numberHead number
    rw [List.cons_append, fraction?]
    simp only [digitsTaken number other, List.drop_left]
    rw [if_neg (by simp [some])]

theorem digitRange : c.isDigit = true ↔ 48 ≤ c.toNat ∧ c.toNat ≤ 57 := by
  simp only [Char.isDigit, Bool.and_eq_true, decide_eq_true_eq, UInt32.le_iff_toNat_le]
  exact Iff.rfl

theorem sizeRead {hour minute : Nat} {hs ms : List Char} (hours : Number 2 hour hs)
    (minutes : Number 2 minute ms) (bound : minute ≤ 59) :
    offset?.size (hs ++ ':' :: ms) = some ((hour : Int) * 3600 + minute * 60, []) := by
  obtain ⟨a, b, rfl⟩ := List.length_eq_two.mp hours.size
  obtain ⟨c, d, rfl⟩ := List.length_eq_two.mp minutes.size
  have digit := digitRange.mp (minutes.digits c (.head _))
  have low : c.toNat ≤ 53 := by
    have value := minutes.value
    simp only [digitsValue, List.foldl_cons, List.foldl_nil] at value
    have zero : '0'.toNat = 48 := rfl
    omega
  have colon : (c == ':') = false := by
    rw [beq_eq_false_iff_ne]
    rintro rfl
    exact absurd digit.2 (by decide)
  have gap : [':', c, d].dropWhile (fun c => c == ':' || Unicode.isBlank c) = [c, d] := by
    rw [List.dropWhile_cons_of_pos rfl, List.dropWhile_cons_of_neg]
    simp [colon, digitSolid (minutes.digits c (.head _))]
  have first : '0' ≤ c := digit.1
  have last : c ≤ '5' := low
  simp only [List.cons_append, List.nil_append, offset?.size, gap,
    hours.digits a (.head _), hours.digits b (.tail _ (.head _)),
    minutes.digits d (.tail _ (.head _)), hours.value, minutes.value, first, last,
    decide_true, Bool.and_self, if_true]

theorem notUniversal {a b : Char} (sign : (c.toLower == 'u') = false) :
    ((String.ofList [c, a, b]).toLower == "utc") = false := by
  rw [beq_eq_false_iff_ne] at sign ⊢
  intro same
  have letters : ((String.ofList [c, a, b]).map Char.toLower).toList = "utc".toList :=
    congrArg String.toList same
  rw [String.toList_map, String.toList_ofList] at letters
  exact sign (List.cons.inj letters).1

theorem offsetRead {offset : Int} (text : OffsetText offset cs) :
    offset? cs = some (offset, []) := by
  cases text with
  | universal marked => rcases marked with rfl | rfl <;> rfl
  | @ahead hour minute hs ms hours minutes bound =>
    have read := sizeRead hours minutes bound
    obtain ⟨a, b, rfl⟩ := List.length_eq_two.mp hours.size
    have other : ((String.ofList ['+', a, b]).toLower == "utc") = false := notUniversal rfl
    simp only [List.cons_append, List.nil_append, offset?, other] at read ⊢
    exact read
  | @behind hour minute hs ms hours minutes bound =>
    have read := sizeRead hours minutes bound
    obtain ⟨a, b, rfl⟩ := List.length_eq_two.mp hours.size
    have other : ((String.ofList ['-', a, b]).toLower == "utc") = false := notUniversal rfl
    simp only [List.cons_append, List.nil_append, offset?, other] at read ⊢
    change (offset?.size _).map _ = _
    rw [read]
    rfl

theorem boundSome {α β : Type} {x : Option α} {f : α → Option β} {a : α} (read : x = some a) :
    (x >>= f) = f a := by
  rw [read]
  rfl

theorem Local.Sound.inside {l : Local} (sound : l.Sound) :
    ¬(!(skipBlanks []).isEmpty || !l.date.isValid || decide (l.date.year < Date.firstYear) ||
      decide (Date.lastYear < l.date.year) || decide (23 < l.hour) || decide (59 < l.minute) ||
      decide (60 < l.second) || decide (secondsPerDay ≤ l.offset.natAbs)) = true := by
  obtain ⟨valid, years, hours, minutes, seconds, offsets⟩ := sound
  have empty : skipBlanks [] = [] := rfl
  simp only [empty, valid, List.isEmpty_nil, Bool.not_true, Bool.false_or, Bool.or_eq_true,
    decide_eq_true_eq]
  omega

theorem spelledRead {t : Timestamp} (spelled : Spelled t cs) :
    parse? (String.ofList cs) = some t := by
  obtain ⟨l, sound, written, rfl, years⟩ := spelled
  obtain ⟨year, month, day, marked, hour, minute, second, fraction, offset⟩ := written
  have offsetText := offsetRead offset
  obtain ⟨c, tail, rfl, digit, point, solid⟩ := offsetHead offset
  have unblanked : skipBlanks (c :: tail) = c :: tail :=
    List.dropWhile_cons_of_neg (by simp [solid])
  have near : ¬(decide (l.time.date.year < Date.firstYear) ||
      decide (Date.lastYear < l.time.date.year)) = true := by
    simp only [Bool.or_eq_true, decide_eq_true_eq]
    omega
  rw [parse?, String.toList_ofList]
  rcases marked with rfl | rfl | rfl
  all_goals
    refine (boundSome (yearRead year _)).trans ?_
    refine (boundSome (markRead rfl _)).trans ((boundSome (partRead month _)).trans ?_)
    refine (boundSome (markRead rfl _)).trans ((boundSome (partRead day _)).trans ?_)
    refine (boundSome (partRead hour _)).trans ?_
    refine (boundSome (markRead rfl _)).trans ((boundSome (partRead minute _)).trans ?_)
    refine (boundSome (markRead rfl _)).trans ((boundSome (partRead second _)).trans ?_)
    refine (boundSome (fractionRead fraction digit point _)).trans ?_
    dsimp only
    rw [unblanked]
    refine (boundSome offsetText).trans ?_
    dsimp only
    rw [if_neg sound.inside]
    simp only [beq_iff_eq]
    exact if_neg near

end Reading

end Scrollback.Timestamp
