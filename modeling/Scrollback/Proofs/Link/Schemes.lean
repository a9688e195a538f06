import Scrollback.Proofs.Link.Matches
import Scrollback.Proofs.Text.Bytes
import Scrollback.Proofs.Url.Web

/-! What is left of a candidate without the marks that trail it starts with an opening, or is the
three letters of a host alone. Either way its first four bytes are characters of their own, if there
are as many, and an address that is read from it is one of the web. -/
namespace Scrollback.Link
open String (utf8Len)

section Letters

variable {word front : List Char}

theorem formsPlain : ∀ x ∈ letters, x ≠ 's' → ∀ c ∈ forms x, c.utf8Size = 1 ∧ c.toLower = x := by
  decide

theorem formsAlpha : ∀ x ∈ letters, x.isAlpha = true → x ≠ 's' → ∀ c ∈ forms x, c.isAlpha = true := by
  decide

theorem spellsPlain (plain : ∀ x ∈ word, x ∈ letters ∧ x ≠ 's') (spells : Spells word front) :
    utf8Len front = word.length ∧ front.map Char.toLower = word := by
  induction spells with
  | nil => exact ⟨rfl, rfl⟩
  | @cons x c word front form spells ih =>
    obtain ⟨⟨letter, other⟩, plain⟩ := List.forall_mem_cons.mp plain
    obtain ⟨size, lower⟩ := formsPlain x letter other c form
    obtain ⟨sizes, lowers⟩ := ih plain
    rw [String.utf8Len_cons, sizes, size, List.map_cons, lower, lowers]
    exact ⟨rfl, rfl⟩

theorem spellsAlpha (plain : ∀ x ∈ word, x ∈ letters ∧ x.isAlpha = true ∧ x ≠ 's')
    (spells : Spells word front) : ∀ c ∈ front, c.isAlpha = true := by
  intro c member
  obtain ⟨x, inside, form⟩ := spellsEach spells c member
  obtain ⟨letter, alpha, other⟩ := plain x inside
  exact formsAlpha x letter alpha other c form

theorem formsMark : ∀ x ∈ [':', '/', '.'], ∀ c ∈ forms x, c = x := by decide

theorem spellsMarks (marks : ∀ x ∈ word, x ∈ [':', '/', '.']) (spells : Spells word front) :
    front = word := by
  induction spells with
  | nil => rfl
  | @cons x c word front form spells ih =>
    obtain ⟨mark, marks⟩ := List.forall_mem_cons.mp marks
    rw [formsMark x mark c form, ih marks]

theorem spellsAppend {word more front : List Char} (spells : Spells (word ++ more) front) :
    ∃ one other, front = one ++ other ∧ Spells word one ∧ Spells more other :=
  ⟨front.take word.length, front.drop word.length, (List.take_append_drop _ _).symm,
    (List.forall₂_take_append front word more spells.flip).flip,
    (List.forall₂_drop_append front word more spells.flip).flip⟩

end Letters

theorem trailingEach {P : Char → Prop}
    (each : ∀ c ∈ ['.', ',', ')', '!', '?', ':', ';', '"'], P c) {c : Char}
    (mark : isTrailing c = true) : P c :=
  each c (List.contains_iff_mem.mp mark)

theorem alphaKept {c : Char} (letter : c.isAlpha = true) : isTrailing c = false :=
  Bool.eq_false_iff.mpr fun mark =>
    trailingEach (P := fun c => ¬c.isAlpha = true) (by decide) mark letter

-- What a candidate may be without the marks that trail it.
inductive Opened : List Char → Prop
  | web {name : List Char} (rest : List Char) (spells : Spells "http".toList name) :
    Opened (name ++ ("://".toList ++ rest))
  | secure {name : List Char} {s : Char} (rest : List Char) (spells : Spells "http".toList name)
      (form : s ∈ forms 's') : Opened (name ++ s :: ("://".toList ++ rest))
  | host {front : List Char} (rest : List Char) (spells : Spells "www.".toList front) :
    Opened (front ++ rest)
  | bare {front : List Char} (spells : Spells "www".toList front) : Opened front

theorem webFront {word front : List Char} (listed : word ∈ ["http://".toList, "https://".toList])
    (spells : Spells word front) : ∃ name, Spells "http".toList name ∧
      (front = name ++ "://".toList ∨ ∃ s ∈ forms 's', front = name ++ s :: "://".toList) := by
  have cases : word = "http".toList ++ "://".toList ∨
      word = "http".toList ++ ("s".toList ++ "://".toList) := by simpa using listed
  rcases cases with rfl | rfl <;> obtain ⟨name, others, rfl, first, later⟩ := spellsAppend spells
  · obtain rfl := spellsMarks (by decide) later
    exact ⟨name, first, .inl rfl⟩
  · obtain ⟨s, marks, rfl, middle, last⟩ := spellsAppend later
    obtain rfl := spellsMarks (by decide) last
    cases middle with
    | cons form none =>
      cases none
      exact ⟨name, first, .inr ⟨_, form, rfl⟩⟩

theorem hostFront {front : List Char} (spells : Spells "www.".toList front) :
    ∃ name, Spells "www".toList name ∧ front = name ++ ".".toList := by
  have cut : "www.".toList = "www".toList ++ ".".toList := by decide
  rw [cut] at spells
  obtain ⟨name, marks, rfl, first, last⟩ := spellsAppend spells
  exact ⟨name, first, by rw [spellsMarks (by decide) last]⟩

theorem slashKept (front rest : List Char) :
    Text.dropEndWhile isTrailing (front ++ "://".toList ++ rest) =
      front ++ ("://".toList ++ Text.dropEndWhile isTrailing rest) := by
  have slash : ∀ c ∈ (front ++ "://".toList).getLast?, isTrailing c = false := by simp [isTrailing]
  rw [Text.dropEndKept slash, List.append_assoc]

theorem nameKept {name : List Char} (spells : Spells "www".toList name) (rest : List Char) :
    Text.dropEndWhile isTrailing (name ++ rest) = name ++ Text.dropEndWhile isTrailing rest :=
  Text.dropEndKept (fun c last =>
    alphaKept (spellsAlpha (by decide) spells c (List.mem_of_getLast? last))) rest

theorem trimmedOpened {word front : List Char} (listed : word ∈ openings) (spells : Spells word front)
    (rest : List Char) : Opened (Text.dropEndWhile isTrailing (front ++ rest)) := by
  have cases : word ∈ ["http://".toList, "https://".toList] ∨ word = "www.".toList := by
    simpa [openings, or_assoc] using listed
  rcases cases with web | rfl
  · obtain ⟨name, first, rfl | ⟨s, form, rfl⟩⟩ := webFront web spells
    · rw [slashKept]
      exact .web _ first
    · rw [List.append_cons name, slashKept, List.append_assoc]
      exact .secure _ first form
  · obtain ⟨name, first, rfl⟩ := hostFront spells
    rw [List.append_assoc, nameKept first, Text.dropEndAppend]
    split
    · have none : Text.dropEndWhile isTrailing ".".toList = [] := by decide
      rw [none, List.append_nil]
      exact .bare first
    · rw [← List.append_assoc]
      exact .host _ spells

section Reading

variable {link name four : List Char}

theorem Opened.cut (opened : Opened link) :
    utf8Len link < 4 ∨ ∃ four rest, link = four ++ rest ∧ utf8Len four = 4 := by
  cases opened with
  | web rest spells => exact .inr ⟨_, _, rfl, (spellsPlain (by decide) spells).1⟩
  | secure rest spells => exact .inr ⟨_, _, rfl, (spellsPlain (by decide) spells).1⟩
  | host rest spells => exact .inr ⟨_, _, rfl, (spellsPlain (by decide) spells).1⟩
  | bare spells => exact .inl (by rw [(spellsPlain (by decide) spells).1]; decide)

theorem lacksFour (size : utf8Len four = 4) (rest : List Char) :
    lacksScheme? (four ++ rest) = some (four.map Char.toLower == ['w', 'w', 'w', '.']) := by
  have enough : ¬(String.ofList (four ++ rest)).utf8ByteSize < 4 := by
    rw [String.utf8ByteSize_ofList, String.utf8Len_append]
    omega
  rw [lacksScheme?, if_neg enough, ← size, Text.prefixTaken]
  rfl

theorem schemeless (spells : Spells "http".toList name) (rest : List Char) :
    lacksScheme? (name ++ rest) = some false := by
  obtain ⟨size, lower⟩ := spellsPlain (by decide) spells
  rw [lacksFour size, lower]
  rfl

theorem webName (spells : Spells "http".toList name) :
    name ≠ [] ∧ (∀ c ∈ name, c.isAlpha = true) ∧ name.map Char.toLower = "http".toList := by
  have filled : name ≠ [] := by
    rintro rfl
    cases spells
  exact ⟨filled, spellsAlpha (by decide) spells, (spellsPlain (by decide) spells).2⟩

-- The long s is alike an s, but it is not a letter of a scheme.
theorem secureName (spells : Spells "http".toList name) {s : Char} (form : s ∈ forms 's')
    (short : s ≠ 'ſ') : name ++ [s] ≠ [] ∧ (∀ c ∈ name ++ [s], c.isAlpha = true) ∧
      (name ++ [s]).map Char.toLower = "https".toList := by
  have last : ∀ s ∈ forms 's', s ≠ 'ſ' → s.isAlpha = true ∧ s.toLower = 's' := by decide
  obtain ⟨-, alpha, lower⟩ := webName spells
  obtain ⟨letter, small⟩ := last s form short
  refine ⟨List.append_ne_nil_of_right_ne_nil _ (List.cons_ne_nil _ _), fun c member => ?_, ?_⟩
  · rcases List.mem_append.mp member with inside | here
    · exact alpha c inside
    · rwa [List.mem_singleton.mp here]
  · rw [List.map_append, lower, List.map_singleton, small]
    rfl

theorem longUnnamed (spells : Spells "http".toList name) (rest : List Char) :
    Url.parse? (String.ofList (name ++ 'ſ' :: rest)) = none := by
  obtain ⟨filled, alpha, -⟩ := webName spells
  exact Url.unnamed filled alpha (by simp [Url.inScheme])

theorem bareUnnamed (spells : Spells "www".toList name) : Url.parse? (String.ofList name) = none := by
  have filled : name ≠ [] := by
    rintro rfl
    cases spells
  have none : Url.parse? (String.ofList (name ++ [])) = none :=
    Url.unnamed filled (spellsAlpha (by decide) spells) (by simp)
  rwa [List.append_nil] at none

theorem bareLacks (spells : Spells "www".toList name) : lacksScheme? name = some false := by
  refine if_pos ?_
  rw [String.utf8ByteSize_ofList, (spellsPlain (by decide) spells).1]
  decide

-- The text of the address in a link.
def written (lacks : Bool) (link : List Char) : String :=
  if lacks then "https://" ++ String.ofList link else String.ofList link

theorem linkRead {found : List Char} {lacks : Bool}
    (known : lacksScheme? (Text.dropEndWhile isTrailing found) = some lacks) :
    read? found = some (Url.parse? (written lacks (Text.dropEndWhile isTrailing found))) := by
  rw [read?, known]
  cases lacks <;> rfl

theorem openedWeb (opened : Opened link) : ∃ lacks, lacksScheme? link = some lacks ∧
    ∀ u ∈ Url.parse? (written lacks link), u.scheme = "http" ∨ u.scheme = "https" := by
  cases opened with
  | web rest spells =>
    obtain ⟨filled, alpha, lower⟩ := webName spells
    exact ⟨false, schemeless spells _, fun u parsed =>
      .inl (Url.namedWeb filled alpha lower (by decide) rest u parsed)⟩
  | @secure name s rest spells form =>
    refine ⟨false, schemeless spells _, fun u parsed => .inr ?_⟩
    by_cases short : s = 'ſ'
    · rw [written, if_neg Bool.false_ne_true, short, longUnnamed spells] at parsed
      cases parsed
    · obtain ⟨filled, alpha, lower⟩ := secureName spells form short
      rw [List.append_cons] at parsed
      exact Url.namedWeb filled alpha lower (by decide) rest u parsed
  | @host front rest spells =>
    obtain ⟨size, lower⟩ := spellsPlain (by decide) spells
    have lacks : lacksScheme? (front ++ rest) = some true := by
      rw [lacksFour size, lower]
      rfl
    refine ⟨true, lacks, fun u parsed => .inr ?_⟩
    have scheme : "https".toList ++ "://".toList = "https://".toList := by decide
    have same : written true (front ++ rest) =
        String.ofList ("https".toList ++ ("://".toList ++ (front ++ rest))) :=
      calc
        _ = String.ofList "https://".toList ++ String.ofList (front ++ rest) := by
          rw [String.ofList_toList]
          rfl
        _ = String.ofList ("https://".toList ++ (front ++ rest)) := String.ofList_append.symm
        _ = _ := by rw [← scheme, List.append_assoc]
    rw [same] at parsed
    exact Url.namedWeb (by decide) (by decide) (by decide) (by decide) _ u parsed
  | bare spells =>
    refine ⟨false, bareLacks spells, fun u parsed => ?_⟩
    rw [written, if_neg Bool.false_ne_true, bareUnnamed spells] at parsed
    cases parsed

end Reading

theorem candidateOpened (text : String) :
    ∀ found ∈ candidates text, Opened (Text.dropEndWhile isTrailing found) := by
  rw [candidatesTexts]
  intro found member
  obtain ⟨word, listed, front, rest, rfl, spells⟩ := textsFront _ found member
  exact trimmedOpened listed spells rest

theorem readAll {founds : List (List Char)} (each : ∀ found ∈ founds, ∃ u?, read? found = some u?) :
    founds.mapM read? = some (founds.map fun found => (read? found).join) := by
  induction founds with
  | nil => rfl
  | cons found founds ih =>
    obtain ⟨⟨u?, read⟩, others⟩ := List.forall_mem_cons.mp each
    rw [List.mapM_cons, read, ih others, List.map_cons, read]
    rfl

theorem findRead (text : String) :
    find? text = some ((candidates text).filterMap fun found => (read? found).join) := by
  have each : ∀ found ∈ candidates text, ∃ u?, read? found = some u? := fun found member => by
    obtain ⟨lacks, known, -⟩ := openedWeb (candidateOpened text found member)
    exact ⟨_, linkRead known⟩
  rw [find?, readAll each, Option.bind_eq_bind, Option.bind_some, List.filterMap_map]
  rfl

/- The pattern is a valid one, a candidate is never cut inside a character, and what is found has one
of the two schemes. -/
theorem foundWeb (text : String) :
    (∃ r, pattern = .ok r) ∧
    (∀ found ∈ candidates text,
      4 ≤ (String.ofList (Text.dropEndWhile isTrailing found)).utf8ByteSize →
        String.Pos.Raw.IsValid (String.ofList (Text.dropEndWhile isTrailing found)) ⟨4⟩) ∧
    find? text = some (find text) ∧
    ∀ u ∈ find text, u.scheme = "http" ∨ u.scheme = "https" := by
  refine ⟨⟨regex, patternRead⟩, fun found member enough => ?_, ?_, fun u member => ?_⟩
  · rcases (candidateOpened text found member).cut with few | ⟨four, rest, same, size⟩
    · rw [String.utf8ByteSize_ofList] at enough
      omega
    · rw [same, String.Pos.Raw.isValid_iff_exists_append]
      refine ⟨String.ofList four, String.ofList rest, String.ofList_append, ?_⟩
      rw [← size, ← String.utf8ByteSize_ofList]
      rfl
  · rw [find, findRead, Option.getD_some]
  · rw [find, findRead, Option.getD_some] at member
    obtain ⟨found, listed, read⟩ := List.mem_filterMap.mp member
    obtain ⟨lacks, known, web⟩ := openedWeb (candidateOpened text found listed)
    rw [linkRead known, Option.join_some] at read
    exact web u read

theorem loudLinkFound :
    ∃ found ∈ candidates "see HTTPS://[::1].",
      4 ≤ (String.ofList (Text.dropEndWhile isTrailing found)).utf8ByteSize ∧
      String.Pos.Raw.IsValid (String.ofList (Text.dropEndWhile isTrailing found)) ⟨4⟩ ∧
    ∃ u ∈ find "see HTTPS://[::1].", u.scheme = "http" ∨ u.scheme = "https" := by
  have next : nextLink? false "see HTTPS://[::1].".toList = some (4, 14) := by decide +kernel
  have ended : "see HTTPS://[::1].".toList.drop (4 + 14) = [] := by decide
  have texts : candidates "see HTTPS://[::1]." = ["HTTPS://[::1].".toList] := by
    rw [candidatesTexts, textsNext next, if_pos (by decide), ended, textsNone rfl]
    decide
  have candidate : "HTTPS://[::1].".toList ∈ candidates "see HTTPS://[::1]." := by
    rw [texts]
    exact .head _
  have enough :
      4 ≤ (String.ofList (Text.dropEndWhile isTrailing "HTTPS://[::1].".toList)).utf8ByteSize := by
    decide
  have address : ((read? "HTTPS://[::1].".toList).join).isSome = true := by decide +kernel
  obtain ⟨u, read⟩ := Option.isSome_iff_exists.mp address
  have member : u ∈ find "see HTTPS://[::1]." := by
    rw [find, findRead, texts]
    exact List.mem_filterMap.mpr ⟨_, .head _, read⟩
  exact ⟨_, candidate, enough, (foundWeb _).2.1 _ candidate enough, u, member,
    (foundWeb _).2.2.2 u member⟩

end Scrollback.Link
