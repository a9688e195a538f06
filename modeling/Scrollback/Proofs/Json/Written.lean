import Scrollback.Proofs.Json.Grammar
import Scrollback.Proofs.Json.Rounds

/-! Readers give what is written, whatever follows it: strings however they are escaped, and lists
and maps however their items are set apart. -/
namespace Scrollback.Json

section Blanks

theorem noBlank : Blank [] := List.forall_mem_nil _

variable {α : Type} {w rest : List Char} {c : Char} {f : Option Char → Read α}

theorem dropBlank (blank : Blank w) (solid : isBlank c = false) :
    (w ++ c :: rest).dropWhile isBlank = c :: rest := by
  rw [List.dropWhile_append_of_pos blank, List.dropWhile_cons_of_neg (by simp [solid])]

theorem peekPast (blank : Blank w) (solid : isBlank c = false) :
    (peek? >>= f).run (w ++ c :: rest) = (f (some c)).run (c :: rest) := by
  change (f ((w ++ c :: rest).dropWhile isBlank).head?).run _ = _
  rw [dropBlank blank solid]
  rfl

theorem peekNext (solid : isBlank c = false) :
    (peek? >>= f).run (c :: rest) = (f (some c)).run (c :: rest) :=
  peekPast noBlank solid

theorem expectingRead {p : Read α} (blank : Blank w) (solid : isBlank c = false) :
    (expecting c p).run (w ++ c :: rest) = p.run (c :: rest) := by
  rw [expecting, peekPast blank solid]
  change (if c = c then p else wrongKind).run _ = _
  rw [if_pos rfl]

end Blanks

section Strings

variable {cs rest found : List Char} {c : Char} {fuel : Nat}

theorem hexDigitRead {n : Nat} (digit : HexDigit n c) : Unicode.hexDigit? c = some n := by
  obtain ⟨small, written⟩ := digit
  have both : ∀ n < 16, Unicode.hexDigit? (Nat.digitChar n) = some n ∧
      Unicode.hexDigit? (Nat.digitChar n).toUpper = some n := by decide
  rcases written with rfl | rfl
  · exact (both n small).1
  · exact (both n small).2

theorem codeUnitRead {n : Nat} (digits : CodeUnit n cs) :
    hexDigits.run (cs ++ rest) = .ok (n, rest) := by
  obtain ⟨first, second, third, fourth⟩ := digits
  rw [hexDigitsRun, digitsOf]
  simp [hexDigitRead first, hexDigitRead second, hexDigitRead third, hexDigitRead fourth]
  rfl

theorem charRange (c : Char) : c.toNat < 0xD800 ∨ 0xDFFF < c.toNat := by
  rcases c.valid with low | ⟨high, -⟩
  · exact .inl low
  · exact .inr high

theorem pointRead (digits : CodeUnit c.toNat cs) :
    escapedPoint.run (cs ++ rest) = .ok (c, rest) := by
  have range := charRange c
  rw [escapedPoint, bindRead (codeUnitRead digits)]
  rw [if_neg (by simp; omega), if_pos (by simp; omega), Char.ofNat_toNat]
  rfl

theorem insideRead (x : Char) (rest : List Char) :
    (expectInside x).run (x :: rest) = .ok ((), rest) := by
  change (if x = x then pure () else fail .malformed : Read Unit).run rest = _
  rw [if_pos rfl]
  rfl

theorem pairRead {high low : Nat} {ds : List Char} (highBound : high < 0x400)
    (lowBound : low < 0x400) (first : CodeUnit (0xD800 + high) cs)
    (second : CodeUnit (0xDC00 + low) ds) (value : c.toNat = 0x10000 + high * 0x400 + low) :
    escapedPoint.run (cs ++ '\\' :: 'u' :: (ds ++ rest)) = .ok (c, rest) := by
  rw [escapedPoint, bindRead (codeUnitRead first)]
  rw [if_neg (by simp; omega), if_neg (by simp; omega)]
  rw [bindRead (insideRead '\\' _), bindRead (insideRead 'u' _)]
  rw [bindRead (codeUnitRead second), if_neg (by simp; omega)]
  have same : (0xD800 + high - 0xD800) * 0x400 + (0xDC00 + low - 0xDC00) + 0x10000 = c.toNat := by
    omega
  rw [same, Char.ofNat_toNat]
  rfl

section Characters

variable {α : Type} {point : α → Read α} {keep : α → Char → α} {before : α}

theorem plainEnd (printed : 0x20 ≤ c.toNat) (noQuote : c ≠ '"') (noEscape : c ≠ '\\') :
    (stringEnd point keep (fuel + 1) before).run (c :: rest) =
      (stringEnd point keep fuel (keep before c)).run rest := by
  have taken : take?.run (c :: rest) = .ok (some c, rest) := rfl
  rw [stringEnd, bindRead taken]
  split
  · contradiction
  · exact absurd (Option.some.inj ‹_›) noQuote
  · exact absurd (Option.some.inj ‹_›) noEscape
  · rename_i same
    cases same
    rw [if_neg (Nat.not_lt.mpr printed)]

theorem shortEnd {mark : Char} (listed : (mark, c) ∈ shortForms) :
    (stringEnd point keep (fuel + 1) before).run ('\\' :: mark :: rest) =
      (stringEnd point keep fuel (keep before c)).run rest := by
  simp only [shortForms, List.mem_cons, Prod.mk.injEq, List.not_mem_nil, or_false] at listed
  rcases listed with ⟨rfl, rfl⟩ | ⟨rfl, rfl⟩ | ⟨rfl, rfl⟩ | ⟨rfl, rfl⟩ | ⟨rfl, rfl⟩ | ⟨rfl, rfl⟩ |
    ⟨rfl, rfl⟩ | ⟨rfl, rfl⟩
  all_goals rfl

theorem pointEnd {after : α} (read : (point before).run cs = .ok (after, rest)) :
    (stringEnd point keep (fuel + 1) before).run ('\\' :: 'u' :: cs) =
      (stringEnd point keep fuel after).run rest :=
  bindRead read

end Characters

theorem keepRead {ds : List Char} (read : escapedPoint.run ds = .ok (c, rest)) :
    (keepPoint found).run ds = .ok (c :: found, rest) :=
  bindRead read

theorem spelledRead (spelled : Spells c cs) :
    (stringEnd keepPoint keepChar (fuel + 1) found).run (cs ++ rest) =
      (stringEnd keepPoint keepChar fuel (c :: found)).run rest := by
  cases spelled with
  | plain printed noQuote noEscape => exact plainEnd printed noQuote noEscape
  | short listed => exact shortEnd listed
  | point digits => exact pointEnd (keepRead (pointRead digits))
  | pair highBound lowBound first second value =>
    rw [List.cons_append, List.cons_append, List.append_assoc]
    exact pointEnd (keepRead (pairRead highBound lowBound first second value))

theorem spelledSome (spelled : Spells c cs) : 0 < cs.length := by cases spelled <;> simp

theorem piecesRead {s : List Char} {pieces : List (List Char)}
    (spelled : List.Forall₂ Spells s pieces) (room : pieces.length < fuel) :
    (stringEnd keepPoint keepChar fuel found).run (pieces.flatten ++ '"' :: rest) =
      .ok (s.reverse ++ found, rest) := by
  obtain ⟨fuel, rfl⟩ := Nat.exists_eq_succ_of_ne_zero (Nat.ne_of_gt (Nat.zero_lt_of_lt room))
  induction spelled generalizing found fuel with
  | nil => rfl
  | @cons c cs s pieces first others ih =>
    obtain ⟨fuel, rfl⟩ := Nat.exists_eq_succ_of_ne_zero
      (Nat.ne_of_gt (Nat.zero_lt_of_lt (Nat.lt_of_succ_lt_succ room)))
    rw [List.flatten_cons, List.append_assoc, spelledRead first,
      ih fuel (Nat.lt_of_succ_lt_succ room)]
    simp

theorem spelledPieces {s : List Char} {pieces : List (List Char)}
    (spelled : List.Forall₂ Spells s pieces) : ∀ p ∈ pieces, 0 < p.length := by
  induction spelled with
  | nil => exact List.forall_mem_nil _
  | cons first others ih => exact List.forall_mem_cons.mpr ⟨spelledSome first, ih⟩

theorem lengthFlatten {pieces : List (List Char)} (each : ∀ p ∈ pieces, 0 < p.length) :
    pieces.length ≤ pieces.flatten.length := by
  induction pieces with
  | nil => exact Nat.le_refl _
  | cons p pieces ih =>
    obtain ⟨here, more⟩ := List.forall_mem_cons.mp each
    simp only [List.flatten_cons, List.length_append, List.length_cons]
    have := ih more
    omega

theorem quotedHere {s : String} (quoted : Quoted s cs) (rest : List Char) :
    stringHere.run (cs ++ rest) = .ok (s, rest) := by
  obtain ⟨pieces, spelled, rfl⟩ := quoted
  have room : pieces.length < (pieces.flatten ++ '"' :: rest).length + 1 := by
    have := lengthFlatten (spelledPieces spelled)
    simp only [List.length_append, List.length_cons]
    omega
  have read : (wholeString keepPoint keepChar []).run (pieces.flatten ++ '"' :: rest) =
      .ok (s.toList.reverse, rest) := by
    rw [wholeString, runBind, StateT.run_get, pure_bind, piecesRead spelled room, List.append_nil]
  rw [List.cons_append, List.append_assoc, List.singleton_append, stringHere,
    bindRead (skipRun _ _), bindRead read, List.reverse_reverse, String.ofList_toList]
  rfl

theorem quotedRead {s : String} {w : List Char} (blank : Blank w) (quoted : Quoted s cs)
    (rest : List Char) : string.run (w ++ (cs ++ rest)) = .ok (s, rest) := by
  have here := quotedHere quoted rest
  obtain ⟨pieces, -, rfl⟩ := quoted
  rw [string, List.cons_append, expectingRead blank rfl]
  exact here

end Strings

section Lists

variable {σ μ : Type} {frame : Frame} {first : Bool} {w v body rest : List Char} {c : Char}
  {fuel : Nat}

-- A text that is taken for an item.
def Begins (frame : Frame) (cs : List Char) : Prop :=
  ∃ c rest, cs = c :: rest ∧ isBlank c = false ∧ frame.starts c = true

theorem closingSolid (frame : Frame) : isBlank frame.closing = false := by cases frame <;> rfl

theorem closingListed (frame : Frame) : frame.closing ∈ [']', '}'] := by
  cases frame <;> simp [Frame.closing]

theorem startsOpen (starts : frame.starts c = true) : c ≠ frame.closing := by
  rintro rfl
  cases frame <;> contradiction

theorem noItem (blank : Blank w) :
    (hasItem frame first).run (w ++ frame.closing :: rest) =
      .ok (false, frame.closing :: rest) := by
  rw [hasItem, peekPast blank (closingSolid frame)]
  dsimp only
  rw [if_pos rfl]
  rfl

theorem firstItem (blank : Blank w) (solid : isBlank c = false) (starts : frame.starts c = true) :
    (hasItem frame true).run (w ++ c :: rest) = .ok (true, c :: rest) := by
  rw [hasItem, peekPast blank solid]
  dsimp only
  rw [if_neg (startsOpen starts), if_pos rfl, if_pos starts]
  rfl

theorem furtherItem (before : Blank w) (after : Blank v) (solid : isBlank c = false)
    (starts : frame.starts c = true) :
    (hasItem frame false).run (w ++ ',' :: (v ++ c :: rest)) = .ok (true, c :: rest) := by
  have opened : ',' ≠ frame.closing := by cases frame <;> decide
  rw [hasItem, peekPast before rfl]
  dsimp only
  rw [if_neg opened, if_neg Bool.false_ne_true, if_neg (by simp), bindRead (skipRun _ _),
    peekPast after solid]
  dsimp only
  rw [if_pos starts]
  rfl

theorem closeRead (blank : Blank w) (solid : isBlank c = false) :
    (close c).run (w ++ c :: rest) = .ok ((), rest) := by
  rw [close, peekPast blank solid]
  change (if c = c then skip else fail .malformed).run (c :: rest) = _
  rw [if_pos rfl]
  rfl

theorem closeNext (solid : isBlank c = false) : (close c).run (c :: rest) = .ok ((), rest) :=
  closeRead noBlank solid

theorem colonRead (blank : Blank w) : colon.run (w ++ ':' :: rest) = .ok ((), rest) := by
  rw [colon, peekPast blank rfl]
  rfl

-- One comma stands for each item but the first.
theorem sequenceLength {item : μ → Form} {as : List μ} (listed : Sequence item first as body) :
    as.length ≤ body.length + if first then 1 else 0 := by
  induction listed with
  | done => exact Nat.zero_le _
  | first blank here others ih =>
    simp only [List.length_cons, List.length_append, if_true] at ih ⊢
    simp only [Bool.false_eq_true, if_false] at ih
    omega
  | further before after here others ih =>
    simp only [List.length_cons, List.length_append, Bool.false_eq_true, if_false] at ih ⊢
    omega

-- What can stand after a value inside of brackets.
def Stops : Form := fun cs => ∃ c rest, cs = c :: rest ∧ (isBlank c = true ∨ c ∈ [',', ']', '}'])

theorem sequenceStops {item : μ → Form} {as : List μ} {closing : Char}
    (listed : Sequence item false as body) (closes : closing ∈ [']', '}']) :
    Stops (body ++ closing :: rest) := by
  have stopped {w cs : List Char} {c : Char} (blank : Blank w) (mark : c ∈ [',', ']', '}']) :
      Stops (w ++ c :: cs) := by
    cases w with
    | nil => exact ⟨c, cs, rfl, .inr mark⟩
    | cons x w => exact ⟨x, w ++ c :: cs, rfl, .inl (blank x (.head _))⟩
  cases listed with
  | done blank => exact stopped blank (.tail _ closes)
  | further before after here others =>
    rw [List.append_assoc]
    exact stopped before (.head _)

theorem itemNext {read : σ → Read σ} {s s' : σ} {cs ds : List Char}
    (has : (hasItem frame first).run cs = .ok (true, ds))
    (taken : (read s).run ds = .ok (s', rest)) :
    (items frame read (fuel + 1) first s).run cs = (items frame read fuel false s').run rest := by
  rw [items, bindRead has, if_pos rfl, bindRead taken]

-- The items that are left decide which states a reader of items can be in.
theorem itemsRead {item : μ → Form} {read : σ → Read σ} {P : List μ → σ → Prop}
    (begins : ∀ {m cs}, item m cs → Begins frame cs)
    (reads : ∀ {m more s cs rest}, P (m :: more) s → item m cs → Stops rest →
      ∃ s', (read s).run (cs ++ rest) = .ok (s', rest) ∧ P more s')
    {ms : List μ} {s : σ} (start : P ms s) (listed : Sequence item first ms body)
    (room : ms.length < fuel) :
    ∃ s', (items frame read fuel first s).run (body ++ frame.closing :: rest) =
      .ok (s', frame.closing :: rest) ∧ P [] s' := by
  induction listed generalizing fuel s with
  | done blank =>
    obtain ⟨fuel, rfl⟩ := Nat.exists_eq_succ_of_ne_zero (Nat.ne_of_gt room)
    rw [items, bindRead (noItem blank)]
    exact ⟨s, rfl, start⟩
  | @first m more w cs later blank here others ih =>
    obtain ⟨fuel, rfl⟩ := Nat.exists_eq_succ_of_ne_zero (Nat.ne_of_gt (Nat.zero_lt_of_lt room))
    obtain ⟨s', taken, kept⟩ := reads start here (sequenceStops others (closingListed frame))
    obtain ⟨s'', found, done⟩ := ih kept (Nat.lt_of_succ_lt_succ room)
    obtain ⟨c, tail, rfl, solid, starts⟩ := begins here
    refine ⟨s'', ?_, done⟩
    simp only [List.append_assoc, List.cons_append] at taken ⊢
    exact (itemNext (firstItem blank solid starts) taken).trans found
  | @further m more w v cs later before after here others ih =>
    obtain ⟨fuel, rfl⟩ := Nat.exists_eq_succ_of_ne_zero (Nat.ne_of_gt (Nat.zero_lt_of_lt room))
    obtain ⟨s', taken, kept⟩ := reads start here (sequenceStops others (closingListed frame))
    obtain ⟨s'', found, done⟩ := ih kept (Nat.lt_of_succ_lt_succ room)
    obtain ⟨c, tail, rfl, solid, starts⟩ := begins here
    refine ⟨s'', ?_, done⟩
    simp only [List.append_assoc, List.cons_append] at taken ⊢
    exact (itemNext (furtherItem before after solid starts) taken).trans found

theorem allItemsRead {item : μ → Form} {read : σ → Read σ} {P : List μ → σ → Prop}
    (begins : ∀ {m cs}, item m cs → Begins frame cs)
    (reads : ∀ {m more s cs rest}, P (m :: more) s → item m cs → Stops rest →
      ∃ s', (read s).run (cs ++ rest) = .ok (s', rest) ∧ P more s')
    {ms : List μ} {s : σ} (start : P ms s) (listed : Sequence item true ms body)
    (rest : List Char) :
    ∃ s', (allItems frame read s).run (body ++ frame.closing :: rest) =
      .ok (s', frame.closing :: rest) ∧ P [] s' := by
  have room : ms.length < (body ++ frame.closing :: rest).length + 1 := by
    have := sequenceLength listed
    simp only [List.length_append, List.length_cons, if_true] at this ⊢
    omega
  exact itemsRead begins reads start listed room

theorem arrayRead {item : μ → Form} {read : Read μ} {ms : List μ} (blank : Blank w)
    (begins : ∀ {m cs}, item m cs → Begins .array cs)
    (reads : ∀ {m cs rest}, item m cs → read.run (cs ++ rest) = .ok (m, rest))
    (listed : Sequence item true ms body) :
    (array read).run (w ++ '[' :: (body ++ ']' :: rest)) = .ok (ms, rest) := by
  let more (found : List μ) : Read (List μ) := return (← read) :: found
  obtain ⟨found, taken, all⟩ : ∃ found,
      (allItems .array more []).run (body ++ ']' :: rest) = .ok (found, ']' :: rest) ∧
        found.reverse ++ [] = ms :=
    allItemsRead (P := fun left found => found.reverse ++ left = ms) begins
      (fun {m left found cs rest} before here _ => ⟨m :: found, bindRead (reads here), by
        rw [List.reverse_cons, List.append_assoc]
        exact before⟩)
      rfl listed rest
  rw [List.append_nil] at all
  rw [array, expectingRead blank rfl, bindRead (skipRun _ _), bindRead taken,
    bindRead (closeNext rfl), all]
  rfl

end Lists

section Members

variable {w body rest : List Char}

theorem namedRead {name : String} {cs : List Char} (blank : Blank w)
    (named : Named (Quoted name) cs) (rest : List Char) :
    ∃ left v, Blank v ∧ string.run (w ++ (cs ++ rest)) = .ok (name, left) ∧
      colon.run left = .ok ((), v ++ rest) := by
  obtain @⟨cs, w', v, quoted, before, after⟩ := named
  refine ⟨w' ++ ':' :: (v ++ rest), v, after, ?_, colonRead before⟩
  have read := quotedRead blank quoted (w' ++ ':' :: (v ++ rest))
  simpa only [List.append_assoc, List.cons_append] using read

-- A member of a map from texts to texts.
def Entry (m : String × String) : Form := fun cs =>
  ∃ name value, Named (Quoted m.1) name ∧ Quoted m.2 value ∧ cs = name ++ value

theorem namedBegins {name : String} {cs : List Char} (named : Named (Quoted name) cs) :
    ∃ tail, cs = '"' :: tail := by
  obtain @⟨cs, w, v, ⟨pieces, -, rfl⟩, -, -⟩ := named
  exact ⟨_, rfl⟩

theorem entryRead {m : String × String} {cs : List Char} (entry : Entry m cs)
    (found : List (String × String)) (rest : List Char) :
    (member stringEntry found).run (cs ++ rest) = .ok (m :: found, rest) := by
  obtain ⟨name, value, named, quoted, rfl⟩ := entry
  obtain ⟨left, v, gap, read, marked⟩ := namedRead noBlank named (value ++ rest)
  rw [List.nil_append] at read
  rw [List.append_assoc, member, bindRead read, stringEntry, bindRead marked,
    bindRead (quotedRead gap quoted rest)]
  rfl

theorem stringMapRead {entries : List (String × String)} (blank : Blank w)
    (listed : Sequence Entry true entries body) :
    stringMap.run (w ++ '{' :: (body ++ '}' :: rest)) = .ok (entries.reverse, rest) := by
  have begins {m cs} (entry : Entry m cs) : Begins .object cs := by
    obtain ⟨name, value, named, -, rfl⟩ := entry
    obtain ⟨tail, rfl⟩ := namedBegins named
    exact ⟨_, _, rfl, rfl, rfl⟩
  obtain ⟨found, read, all⟩ : ∃ found,
      (allItems .object (member stringEntry) []).run (body ++ '}' :: rest) =
        .ok (found, '}' :: rest) ∧ found.reverse ++ [] = entries :=
    allItemsRead (P := fun left found => found.reverse ++ left = entries) begins
      (fun {m left found cs rest} before entry _ => ⟨_, entryRead entry found rest, by
        rw [List.reverse_cons, List.append_assoc]
        exact before⟩)
      rfl listed rest
  rw [List.append_nil] at all
  rw [stringMap, expectingRead blank rfl, bindRead (skipRun _ _), bindRead read,
    bindRead (closeNext rfl), ← all, List.reverse_reverse]
  rfl

theorem chosenBegins {name : String} {cs : List Char} (chosen : Chosen name cs) :
    Begins .array cs := by
  cases chosen with
  | string quoted =>
    obtain ⟨pieces, -, rfl⟩ := quoted
    exact ⟨_, _, rfl, rfl, rfl⟩
  | object => exact ⟨_, _, rfl, rfl, rfl⟩

theorem chosenRead {α : Type} {ofName? : String → Option α} {a : α} {name : String}
    {cs : List Char} (blank : Blank w) (chosen : Chosen name cs) (known : ofName? name = some a) :
    (oneOf ofName?).run (w ++ (cs ++ rest)) = .ok (a, rest) := by
  cases chosen with
  | string quoted =>
    have here := quotedHere quoted rest
    obtain ⟨pieces, -, rfl⟩ := quoted
    rw [oneOf, List.cons_append, peekPast blank rfl]
    refine (bindRead here).trans ?_
    dsimp only
    rw [known]
    rfl
  | @object w' name' v before named after =>
    obtain ⟨left, x, gap, read, marked⟩ :=
      namedRead before named ('n' :: 'u' :: 'l' :: 'l' :: (v ++ '}' :: rest))
    rw [oneOf, List.cons_append, peekPast blank rfl]
    refine (bindRead (skipRun _ _)).trans ?_
    simp only [List.append_assoc, List.cons_append, List.nil_append] at read ⊢
    rw [bindRead read, known]
    dsimp only
    rw [pure_bind, bindRead marked, peekPast gap rfl]
    have null : (word ['n', 'u', 'l', 'l']).run ('n' :: 'u' :: 'l' :: 'l' :: (v ++ '}' :: rest)) =
      .ok ((), v ++ '}' :: rest) := rfl
    refine (bindRead null).trans ?_
    rw [bindRead (closeRead after rfl)]
    rfl

end Members

end Scrollback.Json
