import Scrollback.Proofs.Link.Schemes

/-! Openings that nothing comes after. Marks may complete one of them, `www` with a dot or any opening
with a character after it. What is read of such a candidate is no address, and no link starts inside
it. -/
namespace Scrollback.Link

def Marks (p : List Char) : Prop := ∀ c ∈ p, isTrailing c = true

def bareWords : List (List Char) :=
  ["http://".toList, "https://".toList, "www.".toList, "www".toList]

-- An opening with nothing after it, perhaps without its dot.
def Bare (cs : List Char) : Prop := ∃ word ∈ bareWords, Spells word cs

section Reading

variable {cs found : List Char}

theorem readMarks {p : List Char} (marks : Marks p) (found : List Char) :
    read? (found ++ p) = read? found := by
  have trimmed : Text.dropEndWhile isTrailing (found ++ p) = Text.dropEndWhile isTrailing found := by
    rw [Text.dropEndAppend, if_pos (List.all_eq_true.mpr marks)]
  rw [read?, read?, trimmed]

theorem unread {link : List Char} (left : Text.dropEndWhile isTrailing found = link)
    (lacks : lacksScheme? link = some false) (none : Url.parse? (String.ofList link) = none) :
    (read? found).join = Option.none := by
  subst left
  rw [linkRead lacks, Option.join_some, written, if_neg Bool.false_ne_true, none]

theorem webUnread {word : List Char} (listed : word ∈ ["http://".toList, "https://".toList])
    (spells : Spells word cs) : (read? cs).join = none := by
  obtain ⟨name, first, rfl | ⟨s, form, rfl⟩⟩ := webFront listed spells
  · have kept := slashKept name []
    rw [List.append_nil] at kept
    obtain ⟨filled, alpha, lower⟩ := webName first
    refine unread kept (schemeless first _) (Url.namedEmpty filled alpha ?_)
    rw [lower]
    decide
  · have kept := slashKept (name ++ [s]) []
    rw [List.append_nil, ← List.append_cons] at kept
    refine unread kept ?_ ?_
    · rw [List.append_assoc]
      exact schemeless first _
    by_cases short : s = 'ſ'
    · rw [short, List.append_assoc]
      exact longUnnamed first _
    · obtain ⟨filled, alpha, lower⟩ := secureName first form short
      refine Url.namedEmpty filled alpha ?_
      rw [lower]
      decide

theorem hostUnread (spells : Spells "www".toList cs) : (read? cs).join = none := by
  have kept := nameKept spells []
  rw [List.append_nil] at kept
  have left : Text.dropEndWhile isTrailing cs = cs := kept.trans (List.append_nil cs)
  exact unread left (bareLacks spells) (bareUnnamed spells)

theorem bareUnread (bare : Bare cs) : (read? cs).join = none := by
  obtain ⟨word, listed, spells⟩ := bare
  have cases : word ∈ ["http://".toList, "https://".toList] ∨ word = "www.".toList ∨
      word = "www".toList := by simpa [bareWords, or_assoc] using listed
  rcases cases with web | rfl | rfl
  · exact webUnread web spells
  · obtain ⟨name, first, rfl⟩ := hostFront spells
    have dot : Marks ".".toList := by simp [Marks, isTrailing]
    rw [readMarks dot]
    exact hostUnread first
  · exact hostUnread spells

theorem bareWordsEnd : ∀ word ∈ bareWords, word.length ≤ 4 ∨
    ∀ x ∈ word.tail, ∀ c ∈ forms x, c ∉ firstLetters := by
  decide

-- Of the letters after the first none starts a link, or there are too few of them.
theorem bareEnds (bare : Bare cs) (none : linkSize? cs = none) (inWord : Bool) :
    nextLink? inWord cs = Option.none := by
  refine Option.eq_none_iff_forall_ne_some.mpr fun ⟨k, n⟩ found => ?_
  obtain ⟨word, listed, spells⟩ := bare
  have here := nextHere found
  cases k with
  | zero => cases none.symm.trans here
  | succ k =>
    obtain ⟨long, fits⟩ := linkFits here
    obtain ⟨c, letter, first⟩ := linkStarts here
    rw [List.length_drop, ← spells.length_eq] at fits
    rcases bareWordsEnd word listed with short | others
    · omega
    · have rest : Spells (word.drop (k + 1)) (cs.drop (k + 1)) := List.forall₂_drop (k + 1) spells
      obtain ⟨x, inside, form⟩ := spellsEach rest c (List.mem_of_mem_head? first)
      rw [← List.drop_tail] at inside
      exact others x (List.mem_of_mem_drop inside) c form letter

end Reading

section Openings

variable {word cs p : List Char}

theorem opensMore (start : opens word cs = true) (p : List Char) : opens word (cs ++ p) = true := by
  fun_induction opens word cs with
  | case1 => rw [opens]
  | case2 => contradiction
  | case3 x word c cs ih =>
    obtain ⟨same, later⟩ := Bool.and_eq_true_iff.mp start
    exact Bool.and_eq_true_iff.mpr ⟨same, ih later⟩

-- A word that is cut by the end of the first part.
theorem opensCut (start : opens word (cs ++ p) = true) : opens word cs = true ∨
    ∃ i < word.length, cs.length = i ∧ opens (word.take i) cs = true ∧
      opens (word.drop i) p = true := by
  induction word generalizing cs with
  | nil => exact .inl rfl
  | cons x word ih =>
    cases cs with
    | nil => exact .inr ⟨0, Nat.zero_lt_succ _, rfl, rfl, start⟩
    | cons c cs =>
      obtain ⟨same, later⟩ := Bool.and_eq_true_iff.mp start
      refine (ih later).imp (fun whole => Bool.and_eq_true_iff.mpr ⟨same, whole⟩) ?_
      rintro ⟨i, inside, rfl, one, other⟩
      exact ⟨_, Nat.succ_lt_succ inside, rfl, Bool.and_eq_true_iff.mpr ⟨same, one⟩, other⟩

theorem opensEach (start : opens word p = true) : ∀ x ∈ word, ∃ c ∈ p, alike x c = true := by
  fun_induction opens word p with
  | case1 => exact List.forall_mem_nil _
  | case2 => contradiction
  | case3 x word c cs ih =>
    obtain ⟨same, later⟩ := Bool.and_eq_true_iff.mp start
    refine List.forall_mem_cons.mpr ⟨⟨c, .head _, same⟩, fun y member => ?_⟩
    obtain ⟨d, inside, alike⟩ := ih later y member
    exact ⟨d, .tail _ inside, alike⟩

theorem marksAlike : ∀ x ∈ letters, ∀ c ∈ forms x, isTrailing c = true → x = ':' ∨ x = '.' := by
  decide

-- The marks may be the end of a word only where all of it is colons and dots.
theorem cutBefore : ∀ word ∈ openings, ∀ i < word.length,
    (∀ x ∈ word.drop i, x = ':' ∨ x = '.') → word.take i = "www".toList := by
  decide

theorem opensMarks (listed : word ∈ openings) (marks : Marks p)
    (start : opens word (cs ++ p) = true) : opens word cs = true ∨ Spells "www".toList cs := by
  refine (opensCut start).imp_right ?_
  rintro ⟨i, inside, size, one, other⟩
  have known := openingsKnown word listed
  have ends : ∀ x ∈ word.drop i, x = ':' ∨ x = '.' := fun x member => by
    obtain ⟨c, mark, same⟩ := opensEach other x member
    have letter := known x (List.mem_of_mem_drop member)
    exact marksAlike x letter c (alikeForm letter same) (marks c mark)
  obtain ⟨front, rest, rfl, spells⟩ :=
    opensFront (fun x member => known x (List.mem_of_mem_take member)) one
  have cut := cutBefore word listed i inside ends
  have short : i = 3 := by
    have length := congrArg List.length cut
    rwa [List.length_take_of_le (Nat.le_of_lt inside)] at length
  rw [cut] at spells
  have whole : rest = [] := by
    have length := spells.length_eq
    rw [List.length_append, ← length, short] at size
    exact List.length_eq_zero_iff.mp (Nat.add_left_cancel size)
  rwa [whole, List.append_nil]

theorem openingMarks (marks : Marks p) (cs : List Char) :
    opening? openings (cs ++ p) = opening? openings cs ∨ Spells "www".toList cs := by
  by_cases bare : Spells "www".toList cs
  · exact .inr bare
  · refine .inl (openingCongr fun word listed => Bool.eq_iff_iff.mpr ?_)
    exact ⟨fun start => (opensMarks listed marks start).resolve_right bare,
      fun start => opensMore start p⟩

theorem bareOpening {m : Nat} (opening : opening? openings cs = some m) (whole : cs.length = m) :
    Bare cs := by
  obtain ⟨word, listed, front, rest, rfl, size, spells⟩ := openingFront opening
  have none : rest = [] := by
    rw [List.length_append, size] at whole
    exact List.length_eq_zero_iff.mp (Nat.add_left_cancel whole)
  rw [none, List.append_nil]
  have known : ∀ word ∈ openings, word ∈ bareWords := by decide
  exact ⟨word, known word listed, spells⟩

theorem bareInner (spells : Spells "www".toList cs) : ∀ c ∈ cs, isInner c = true := by
  have inner : ∀ x ∈ "www".toList, ∀ c ∈ forms x, isInner c = true := by decide
  intro c member
  obtain ⟨x, inside, form⟩ := spellsEach spells c member
  exact inner x inside c form

end Openings

end Scrollback.Link
