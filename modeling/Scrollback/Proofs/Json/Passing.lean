import Scrollback.Proofs.Json.Written

/-! Any value can be passed over. Lists and objects inside of a value are not counted against
anything: the brackets that are still open are kept, and closed one by one. -/
namespace Scrollback.Json

section Numbers

variable {cs ds rest : List Char} {e : Error}

theorem stopsHead (stops : Stops rest) : ∃ c tail, rest = c :: tail ∧ c.isDigit = false ∧
    c ≠ '.' ∧ c ≠ 'e' ∧ c ≠ 'E' := by
  obtain ⟨c, tail, rfl, mark⟩ := stops
  refine ⟨c, tail, rfl, ?_⟩
  rcases mark with blank | listed
  · rcases blankCases blank with rfl | rfl | rfl | rfl <;> decide
  · simp only [List.mem_cons, List.not_mem_nil, or_false] at listed
    rcases listed with rfl | rfl | rfl <;> decide

theorem powerHead (power : Power cs) (stops : Stops rest) :
    ∃ c tail, cs ++ rest = c :: tail ∧ c.isDigit = false ∧ c ≠ '.' := by
  cases power with
  | absent =>
    obtain ⟨c, tail, rfl, digit, point, -⟩ := stopsHead stops
    exact ⟨c, tail, rfl, digit, point⟩
  | @digits mark sign cs marked =>
    refine ⟨mark, _, rfl, ?_⟩
    rcases marked with rfl | rfl <;> decide

theorem fractionHead (fraction : Fraction cs) (power : Power ds) (stops : Stops rest) :
    ∃ c tail, cs ++ (ds ++ rest) = c :: tail ∧ c.isDigit = false := by
  cases fraction with
  | absent =>
    obtain ⟨c, tail, same, digit, -⟩ := powerHead power stops
    exact ⟨c, tail, same, digit⟩
  | digits => exact ⟨'.', _, rfl, rfl⟩

theorem digitsRead {c : Char} (digits : Digits cs) (other : c.isDigit = false) (tail : List Char) :
    digitRun.run (cs ++ c :: tail) = .ok (cs, c :: tail) := by
  have taken : (cs ++ c :: tail).takeWhile Char.isDigit = cs := by
    rw [List.takeWhile_append_of_pos digits, List.takeWhile_cons_of_neg (by simp [other]),
      List.append_nil]
  change Except.ok ((cs ++ c :: tail).takeWhile Char.isDigit,
    (cs ++ c :: tail).drop ((cs ++ c :: tail).takeWhile Char.isDigit).length) = _
  rw [taken, List.drop_left]

theorem someDigitsRead {c : Char} (some : cs ≠ []) (digits : Digits cs) (other : c.isDigit = false)
    (tail : List Char) : (someDigits e).run (cs ++ c :: tail) = .ok (cs, c :: tail) := by
  rw [someDigits, bindRead (digitsRead digits other tail), if_neg (by simpa using some)]
  rfl

theorem wholeRead {c : Char} (whole : Whole cs) (other : c.isDigit = false) (tail : List Char) :
    (wholePart e).run (cs ++ c :: tail) = .ok (cs, c :: tail) := by
  cases whole with
  | zero =>
    rw [wholePart, runBind, StateT.run_get, pure_bind]
    refine (bindRead (skipRun _ _)).trans ?_
    rw [runBind, StateT.run_get, pure_bind, if_neg (by simp [other])]
    rfl
  | @digits d ds digit leading more =>
    rw [wholePart, runBind, StateT.run_get, pure_bind]
    dsimp only [List.cons_append, List.head?_cons]
    split
    · contradiction
    · exact absurd (Option.some.inj ‹_›) leading
    · rename_i same
      cases same
      rw [if_pos digit]
      exact digitsRead (List.forall_mem_cons.mpr ⟨digit, more⟩) other tail

theorem fractionRead {c : Char} (part : Fraction cs) (digit : c.isDigit = false) (point : c ≠ '.')
    (tail : List Char) : ∃ ds, (fraction e).run (cs ++ c :: tail) = .ok (ds, c :: tail) := by
  cases part with
  | absent =>
    refine ⟨[], ?_⟩
    rw [fraction, runBind, StateT.run_get, pure_bind]
    dsimp only [List.nil_append, List.head?_cons]
    split
    · exact absurd (Option.some.inj ‹_›) point
    · rfl
  | @digits ds some digits =>
    refine ⟨ds, ?_⟩
    rw [fraction, runBind, StateT.run_get, pure_bind]
    exact (bindRead (skipRun _ _)).trans (someDigitsRead some digits digit tail)

theorem signRead {c : Char} {sign : List Char} (signed : sign = [] ∨ sign = ['+'] ∨ sign = ['-'])
    (digit : c.isDigit = true) (tail : List Char) :
    ∃ negative, isNegative.run (sign ++ c :: tail) = .ok (negative, c :: tail) := by
  rcases signed with rfl | rfl | rfl
  · refine ⟨false, ?_⟩
    rw [isNegative, runBind, StateT.run_get, pure_bind]
    dsimp only [List.nil_append, List.head?_cons]
    split
    · rename_i same
      cases same
      contradiction
    · rename_i same
      cases same
      contradiction
    · rfl
  · exact ⟨false, rfl⟩
  · exact ⟨true, rfl⟩

theorem powerRead {c : Char} (part : Power cs) (digit : c.isDigit = false) (lower : c ≠ 'e')
    (upper : c ≠ 'E') (tail : List Char) :
    ∃ n, (power e).run (cs ++ c :: tail) = .ok (n, c :: tail) := by
  cases part with
  | absent =>
    refine ⟨0, ?_⟩
    rw [power, runBind, StateT.run_get, pure_bind]
    dsimp only [List.nil_append, List.head?_cons]
    split
    · exact absurd (Option.some.inj ‹_›) lower
    · exact absurd (Option.some.inj ‹_›) upper
    · rfl
  | @digits mark sign ds marked signed some digits =>
    obtain ⟨d, ds, rfl⟩ := List.exists_cons_of_ne_nil some
    obtain ⟨negative, sign⟩ := signRead signed (digits d (.head _)) (ds ++ c :: tail)
    have read := someDigitsRead (e := e) some digits digit tail
    apply Exists.intro
    rw [power, runBind, StateT.run_get, pure_bind, List.cons_append, List.append_assoc]
    rcases marked with rfl | rfl
    all_goals
      refine (bindRead (skipRun _ _)).trans ?_
      rw [List.cons_append] at read ⊢
      rw [bindRead sign, bindRead read]
      rfl

theorem numberPassed (number : IsNumber cs) (stops : Stops rest) :
    passNumber.run (cs ++ rest) = .ok ((), rest) := by
  obtain @⟨whole, frac, pow, first, second, third⟩ := number
  obtain ⟨c, tail, head, digit⟩ := fractionHead second third stops
  obtain ⟨c', tail', head', digit', point⟩ := powerHead third stops
  obtain ⟨c'', tail'', rfl, other, point', lower, upper⟩ := stopsHead stops
  obtain ⟨ds, read'⟩ := fractionRead (e := .malformed) second digit' point tail'
  obtain ⟨n, read''⟩ := powerRead (e := .malformed) third other lower upper tail''
  rw [List.append_assoc, List.append_assoc, head, passNumber, bindRead (wholeRead first digit tail),
    ← head, head', bindRead read', ← head', bindRead read'']
  rfl

end Numbers

section Strings

variable {cs rest : List Char} {fuel : Nat}

-- With as many rounds as there are characters, as a string is passed over.
def passRest : Read Unit := wholeString passPoint (fun _ _ => ()) ()

theorem passRestEnough (enough : cs.length < fuel) :
    (stringEnd passPoint (fun _ _ => ()) fuel ()).run cs = passRest.run cs := by
  let loop (n : Nat) : Read Unit := stringEnd passPoint (fun _ _ => ()) n ()
  have more (n : Nat) (enough : cs.length + 1 ≤ n) : (loop (n + 1)).run cs = (loop n).run cs :=
    stringEndMore Steady.passPoint (Nat.le_of_succ_le enough)
  exact roundsSame enough more

theorem halfPassed {n : Nat} (digits : CodeUnit n cs) :
    passRest.run ('\\' :: 'u' :: (cs ++ rest)) = passRest.run rest := by
  have read : (passPoint ()).run (cs ++ rest) = .ok ((), rest) := bindRead (codeUnitRead digits)
  refine (pointEnd read).trans (passRestEnough ?_)
  simp only [List.length_cons, List.length_append]
  omega

theorem spelledPassed {c : Char} (spelled : Spells c cs) :
    passRest.run (cs ++ rest) = passRest.run rest := by
  cases spelled with
  | plain printed noQuote noEscape =>
    exact (plainEnd printed noQuote noEscape).trans (passRestEnough (Nat.lt_succ_self _))
  | short listed =>
    exact (shortEnd listed).trans (passRestEnough (Nat.lt_add_of_pos_right Nat.two_pos))
  | point digits => exact halfPassed digits
  | pair highBound lowBound first second value =>
    rw [List.cons_append, List.cons_append, List.append_assoc, halfPassed first]
    exact halfPassed second

theorem piecePassed (piece : Piece cs) : passRest.run (cs ++ rest) = passRest.run rest := by
  cases piece with
  | char spelled => exact spelledPassed spelled
  | half digits => exact halfPassed digits

theorem stringPassed (string : IsString cs) (rest : List Char) :
    passStringHere.run (cs ++ rest) = .ok ((), rest) := by
  obtain ⟨pieces, each, rfl⟩ := string
  change passRest.run (pieces.flatten ++ ['"'] ++ rest) = _
  induction pieces with
  | nil => rfl
  | cons piece pieces ih =>
    obtain ⟨first, others⟩ := List.forall_mem_cons.mp each
    rw [List.flatten_cons, List.append_assoc, List.append_assoc, piecePassed first,
      ← List.append_assoc]
    exact ih others

end Strings

section Values

variable {frames : List Frame} {v w body rest : List Char} {c : Char}

-- Passes over values until nothing is open, with as many rounds as there are characters.
def pass (frames : List Frame) : Read Unit := do passValue ((← get).length + 1) frames

theorem ignorePass : ignore = pass [] := rfl

theorem passEnough {fuel : Nat} (enough : v.length < fuel) :
    (passValue fuel frames).run v = (pass frames).run v := by
  let loop (n : Nat) : Read Unit := passValue n frames
  have more (n : Nat) (enough : v.length + 1 ≤ n) : (loop (n + 1)).run v = (loop n).run v :=
    passValueMore (Nat.le_of_succ_le enough)
  exact roundsSame enough more

theorem passOnEnough {afterValue : Bool} {fuel : Nat} (enough : v.length < fuel) :
    (passOn (passValue fuel) afterValue frames).run v = (passOn pass afterValue frames).run v :=
  passOnSame (fun _ _ room => passEnough (Nat.lt_of_le_of_lt room enough)) (Nat.le_refl _)

-- No value begins with a comma, or with the end of what it stands in.
def Starts (v : List Char) : Prop :=
  ∃ c tail, v = c :: tail ∧ isBlank c = false ∧ c ∉ [',', ']', '}']

theorem digitSolid (digit : c.isDigit = true) : isBlank c = false := by
  rw [Bool.eq_false_iff]
  intro blank
  rcases blankCases blank with rfl | rfl | rfl | rfl <;> contradiction

theorem digitStarts {tail : List Char} (digit : c.isDigit = true) : Starts (c :: tail) := by
  refine ⟨c, tail, rfl, digitSolid digit, fun mark => ?_⟩
  simp only [List.mem_cons, List.not_mem_nil, or_false] at mark
  rcases mark with rfl | rfl | rfl <;> contradiction

theorem wholeDigit {cs : List Char} (whole : Whole cs) :
    ∃ c tail, cs = c :: tail ∧ c.isDigit = true := by
  cases whole with
  | zero => exact ⟨_, _, rfl, rfl⟩
  | digits digit => exact ⟨_, _, rfl, digit⟩

theorem numberDigit (number : IsNumber v) : ∃ c tail, v = c :: tail ∧ c.isDigit = true := by
  obtain ⟨whole, -, -⟩ := number
  obtain ⟨c, tail, rfl, digit⟩ := wholeDigit whole
  exact ⟨c, _, rfl, digit⟩

theorem valueStarts (value : IsValue v) : Starts v := by
  cases value with
  | number number =>
    obtain ⟨c, tail, rfl, digit⟩ := numberDigit number
    exact digitStarts digit
  | string string =>
    obtain ⟨pieces, -, rfl⟩ := string
    exact ⟨_, _, rfl, rfl, by decide⟩
  | _ => exact ⟨_, _, rfl, rfl, by decide⟩

section Closing

variable {afterValue : Bool} {next : List Frame → Read Unit}

theorem frameCloses {frame : Frame} (blank : Blank w) :
    (passOn next afterValue (frame :: frames)).run (w ++ frame.closing :: rest) =
      (passOn next true frames).run rest := by
  have closed : (passClosing (frames.length + 2) afterValue (frame :: frames)).run
      (w ++ frame.closing :: rest) = (passClosing (frames.length + 1) true frames).run rest := by
    rw [passClosing, peekPast blank (closingSolid frame)]
    dsimp only
    rw [if_pos rfl]
    exact bindRead (skipRun _ _)
  rw [passOn, passOn, List.length_cons, runBind, closed]
  rfl

theorem firstOpens {frame : Frame} (fuel : Nat) (blank : Blank w) (solid : isBlank c = false)
    (starts : c ∉ [',', ']', '}']) :
    (passClosing (fuel + 1) false (frame :: frames)).run (w ++ c :: rest) =
      .ok (frame :: frames, c :: rest) := by
  have closed : c ≠ frame.closing := by
    rintro rfl
    exact starts (.tail _ (closingListed frame))
  have comma : c ≠ ',' := by
    rintro rfl
    exact starts (.head _)
  rw [passClosing, peekPast blank solid]
  dsimp only
  rw [if_neg closed, if_neg comma]
  rfl

theorem commaOpens {frame : Frame} (fuel : Nat) (blank : Blank w) :
    (passClosing (fuel + 1) true (frame :: frames)).run (w ++ ',' :: rest) =
      .ok (frame :: frames, rest) := by
  rw [passClosing, peekPast blank rfl]
  cases frame <;> rfl

end Closing

section Parts

variable {first : Bool}

-- What is in brackets is passed over if each part of it is.
theorem partsPassed {α : Type} {frame : Frame} {item : α → Form} {as : List α}
    (each : ∀ a ∈ as, ∀ {cs}, item a cs → Starts cs ∧ ∀ {frames w rest}, Blank w → Stops rest →
      (passHead frame >>= fun _ => pass (frame :: frames)).run (w ++ (cs ++ rest)) =
        (passOn pass true (frame :: frames)).run rest)
    (listed : Sequence item first as body) :
    (passOn pass (!first) (frame :: frames)).run (body ++ frame.closing :: rest) =
      (passOn pass true frames).run rest := by
  induction listed with
  | done blank => exact frameCloses blank
  | @first a more w cs later blank here others ih =>
    obtain ⟨part, remaining⟩ := List.forall_mem_cons.mp each
    obtain ⟨⟨c, tail, rfl, solid, starts⟩, passed⟩ := part here
    have stops : Stops (later ++ frame.closing :: rest) :=
      sequenceStops others (closingListed frame)
    rw [← ih remaining, Bool.not_false, ← passed noBlank stops]
    simp only [List.append_assoc, List.cons_append, List.nil_append]
    exact bindRead (firstOpens _ blank solid starts)
  | @further a more w x cs later before after here others ih =>
    obtain ⟨part, remaining⟩ := List.forall_mem_cons.mp each
    have stops : Stops (later ++ frame.closing :: rest) :=
      sequenceStops others (closingListed frame)
    rw [← ih remaining, Bool.not_false, ← (part here).2 after stops]
    simp only [List.append_assoc, List.cons_append]
    exact bindRead (commaOpens _ before)

theorem itemsPassed {items : List (List Char)}
    (each : ∀ v ∈ items, IsValue v ∧ ∀ {frames w rest}, Blank w → Stops rest →
      (pass frames).run (w ++ (v ++ rest)) = (passOn pass true frames).run rest)
    (listed : Sequence Eq true items body) :
    (passOn pass false (.array :: frames)).run (body ++ ']' :: rest) =
      (passOn pass true frames).run rest := by
  refine partsPassed (fun v member {cs} same => ?_) listed
  subst same
  obtain ⟨value, passed⟩ := each v member
  exact ⟨valueStarts value, passed⟩

theorem namePassed {name : List Char} (blank : Blank w) (named : Named IsString name)
    (rest : List Char) :
    ∃ v, Blank v ∧ (passHead .object).run (w ++ (name ++ rest)) = .ok ((), v ++ rest) := by
  obtain @⟨cs, x, v, string, before, after⟩ := named
  refine ⟨v, after, ?_⟩
  have passed := stringPassed string (x ++ ':' :: (v ++ rest))
  obtain ⟨pieces, -, rfl⟩ := string
  simp only [List.append_assoc, List.cons_append] at passed ⊢
  have named :
      passName.run (w ++ '"' :: (pieces.flatten ++ '"' :: ([] ++ (x ++ ':' :: (v ++ rest))))) =
        .ok ((), x ++ ':' :: (v ++ rest)) := by
    rw [passName, peekPast blank rfl]
    exact passed
  exact (bindRead named).trans (colonRead before)

theorem nameStarts {name : List Char} (named : Named IsString name) (v : List Char) :
    Starts (name ++ v) := by
  obtain @⟨cs, w, x, ⟨pieces, -, rfl⟩, -, -⟩ := named
  exact ⟨_, _, rfl, rfl, by decide⟩

theorem membersPassed {members : List (List Char × List Char)}
    (names : ∀ m ∈ members, Named IsString m.1)
    (each : ∀ m ∈ members, ∀ {frames w rest}, Blank w → Stops rest →
      (pass frames).run (w ++ (m.2 ++ rest)) = (passOn pass true frames).run rest)
    (listed : Sequence (fun m cs => m.1 ++ m.2 = cs) true members body) :
    (passOn pass false (.object :: frames)).run (body ++ '}' :: rest) =
      (passOn pass true frames).run rest := by
  refine partsPassed (fun m member {cs} same => ?_) listed
  subst same
  refine ⟨nameStarts (names m member) m.2, fun {frames w rest} blank stops => ?_⟩
  obtain ⟨v, gap, named⟩ := namePassed blank (names m member) (m.2 ++ rest)
  rw [List.append_assoc, bindRead named]
  exact each m member gap stops

end Parts

theorem wordRead (cs rest : List Char) : (word cs).run (cs ++ rest) = .ok ((), rest) := by
  induction cs with
  | nil => rfl
  | cons c cs ih =>
    change (if c = c then word cs else fail .malformed).run (cs ++ rest) = _
    rw [if_pos rfl]
    exact ih

theorem passedThen {p : Read Unit} {fuel : Nat} (taken : p.run v = .ok ((), rest))
    (room : rest.length < fuel) :
    (p >>= fun _ => passOn (passValue fuel) true frames).run v =
      (passOn pass true frames).run rest :=
  (bindRead taken).trans (passOnEnough room)

theorem passPast (blank : Blank w) (solid : isBlank c = false) (cs : List Char) :
    (pass frames).run (w ++ c :: cs) = (pass frames).run (c :: cs) := by
  have room : (c :: cs).length < (w ++ c :: cs).length + 1 := by
    simp only [List.length_append, List.length_cons]
    omega
  calc (pass frames).run (w ++ c :: cs)
      = (passValue ((w ++ c :: cs).length + 1) frames).run (w ++ c :: cs) := rfl
    _ = (passValue ((w ++ c :: cs).length + 1) frames).run (c :: cs) := by
      rw [passValue, peekPast blank solid, peekNext solid]
    _ = (pass frames).run (c :: cs) := passEnough room

theorem passDigit (digit : c.isDigit = true) (cs : List Char) :
    (pass frames).run (c :: cs) = (passNumber >>= fun _ =>
      passOn (passValue (c :: cs).length) true frames).run (c :: cs) := by
  rw [pass, runBind, StateT.run_get, pure_bind, passValue, peekNext (digitSolid digit)]
  split
  case h_9 same =>
    cases same
    rw [if_pos digit]
  case h_1 => contradiction
  all_goals
    rename_i same
    cases same
    contradiction

-- A value takes what it is written as, whatever is open around it.
theorem valuePassed (value : IsValue v) (blank : Blank w) (stops : Stops rest) :
    (pass frames).run (w ++ (v ++ rest)) = (passOn pass true frames).run rest := by
  have taken (cs : List Char) (c : Char) (rest : List Char) :
      rest.length < (c :: (cs ++ rest)).length := by
    simp only [List.length_append, List.length_cons]
    omega
  induction value generalizing frames w rest with
  | null =>
    rw [List.cons_append, passPast blank rfl]
    exact passedThen (wordRead ['n', 'u', 'l', 'l'] rest) (taken ['u', 'l', 'l'] _ rest)
  | yes =>
    rw [List.cons_append, passPast blank rfl]
    exact passedThen (wordRead ['t', 'r', 'u', 'e'] rest) (taken ['r', 'u', 'e'] _ rest)
  | no =>
    rw [List.cons_append, passPast blank rfl]
    exact passedThen (wordRead ['f', 'a', 'l', 's', 'e'] rest) (taken ['a', 'l', 's', 'e'] _ rest)
  | number number =>
    have passed := numberPassed number stops
    obtain ⟨c, tail, rfl, digit⟩ := numberDigit number
    rw [List.cons_append, passPast blank (digitSolid digit), passDigit digit]
    exact passedThen passed (taken tail _ rest)
  | @negative cs number =>
    rw [List.cons_append, passPast blank rfl]
    change (skip >>= fun _ => passNumber >>= fun _ =>
      passOn (passValue ('-' :: (cs ++ rest)).length) true frames).run ('-' :: (cs ++ rest)) = _
    rw [bindRead (skipRun _ _)]
    exact passedThen (numberPassed number stops) (taken cs _ rest)
  | string string =>
    have passed := stringPassed string rest
    obtain ⟨pieces, -, rfl⟩ := string
    rw [List.cons_append, passPast blank rfl]
    exact passedThen passed (taken _ _ rest)
  | @array items body each listed ih =>
    rw [List.cons_append, passPast blank rfl, List.append_assoc]
    change (skip >>= fun _ => passOn (passValue ('[' :: (body ++ ']' :: rest)).length) false
      (.array :: frames)).run ('[' :: (body ++ ']' :: rest)) = _
    rw [bindRead (skipRun _ _)]
    refine (passOnEnough (Nat.lt_succ_self _)).trans ?_
    exact itemsPassed (fun v member => ⟨each v member, ih v member⟩) listed
  | @object members body names each listed ih =>
    rw [List.cons_append, passPast blank rfl, List.append_assoc]
    change (skip >>= fun _ => passOn (passValue ('{' :: (body ++ '}' :: rest)).length) false
      (.object :: frames)).run ('{' :: (body ++ '}' :: rest)) = _
    rw [bindRead (skipRun _ _)]
    refine (passOnEnough (Nat.lt_succ_self _)).trans ?_
    exact membersPassed names ih listed

theorem valueIgnored (value : IsValue v) (blank : Blank w) (stops : Stops rest) :
    ignore.run (w ++ (v ++ rest)) = .ok ((), rest) := by
  rw [ignorePass, valuePassed value blank stops]
  rfl

end Values

end Scrollback.Json
