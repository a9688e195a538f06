import Mathlib
import Scrollback.Proofs.Text.Blanks
import Scrollback.Proofs.Url.Files

/-! Addresses of the web, by how their text starts. The scheme is what stands before the first colon,
in lower case, and an address that has nothing after the slashes is none. -/
namespace Scrollback.Url

variable {text : String} {front name rest : List Char}

-- What a text starts with stays where it holds no blanks.
theorem significantFront (filled : front ≠ []) (solid : ∀ c ∈ front, 0x20 < c.toNat)
    (rest : List Char) : ∃ more, significant (String.ofList (front ++ rest)) = front ++ more ∧
      (rest = [] → more = []) := by
  let outer (c : Char) : Bool := c.toNat ≤ 0x20
  let kept (c : Char) : Bool := c != '\t' && c != '\n' && c != '\r'
  have inner : ∀ c ∈ front, outer c = false := fun c member =>
    decide_eq_false (Nat.not_le.mpr (solid c member))
  have first : (front ++ rest).dropWhile outer = front ++ rest :=
    Text.dropNone fun c first => inner c (by
      rw [List.head?_append_of_ne_nil _ filled] at first
      exact List.mem_of_mem_head? first)
  have last : Text.dropEndWhile outer (front ++ rest) = front ++ Text.dropEndWhile outer rest :=
    Text.dropEndKept (fun c last => inner c (List.mem_of_getLast? last)) rest
  have whole : front.filter kept = front := List.filter_eq_self.mpr fun c member => by
    have beyond := solid c member
    have apart {d : Char} (low : d.toNat ≤ 0x20) : (c != d) = true :=
      bne_iff_ne.mpr fun same => by subst same; omega
    simp [kept, apart (d := '\t') (by decide), apart (d := '\n') (by decide),
      apart (d := '\r') (by decide)]
  refine ⟨(Text.dropEndWhile outer rest).filter kept, ?_, fun none => by rw [none]; rfl⟩
  change ((Text.dropEndWhile outer ((String.ofList (front ++ rest)).toList.dropWhile outer)).filter
    kept) = _
  rw [String.toList_ofList, first, last, List.filter_append, whole]

def inScheme (c : Char) : Bool := c.isAlphanum || c == '+' || c == '-' || c == '.'

def named? (name rest : List Char) : Option (String × List Char) :=
  match name, rest with
  | first :: _, ':' :: more =>
    if first.isAlpha then some (String.ofList (name.map Char.toLower), more) else none
  | _, _ => none

-- The name of a scheme ends before the first character that cannot stand in one.
theorem schemeCut (known : ∀ c ∈ name, inScheme c = true)
    (stop : ∀ c ∈ rest.head?, inScheme c = false) : scheme? (name ++ rest) = named? name rest := by
  have cut : (name ++ rest).takeWhile inScheme = name := by
    rw [List.takeWhile_append_of_pos known]
    cases rest with
    | nil => rw [List.takeWhile_nil, List.append_nil]
    | cons c rest => rw [List.takeWhile_cons_of_neg (by simp [stop c rfl]), List.append_nil]
  have unfolded : (fun c : Char => c.isAlphanum || c == '+' || c == '-' || c == '.') = inScheme := rfl
  rw [scheme?, unfolded, cut, List.drop_left]
  rfl

theorem alphaInScheme {c : Char} (letter : c.isAlpha = true) : inScheme c = true := by
  simp [inScheme, Char.isAlphanum, letter]

theorem alphaSolid {c : Char} (letter : c.isAlpha = true) : 0x20 < c.toNat := by
  simp only [Char.isAlpha, Char.isUpper, Char.isLower, Bool.or_eq_true, Bool.and_eq_true,
    decide_eq_true_eq] at letter
  rcases letter with ⟨low, -⟩ | ⟨low, -⟩
  · exact Nat.lt_of_lt_of_le (by decide) (UInt32.le_iff_toNat_le.mp low)
  · exact Nat.lt_of_lt_of_le (by decide) (UInt32.le_iff_toNat_le.mp low)

section Names

variable (filled : name ≠ []) (alphabetic : ∀ c ∈ name, c.isAlpha = true)

include filled alphabetic

theorem namedScheme (rest : List Char) : ∃ more, (rest = [] → more = []) ∧
    scheme? (significant (String.ofList (name ++ ("://".toList ++ rest)))) =
      some (String.ofList (name.map Char.toLower), "//".toList ++ more) := by
  have marks : ∀ c ∈ "://".toList, 0x20 < c.toNat := by simp
  have solid : ∀ c ∈ name ++ "://".toList, 0x20 < c.toNat := fun c member =>
    (List.mem_append.mp member).elim (fun inside => alphaSolid (alphabetic c inside)) (marks c)
  have start : name ++ "://".toList ≠ [] := List.append_ne_nil_of_left_ne_nil filled _
  obtain ⟨more, kept, ended⟩ := significantFront start solid rest
  have cut : scheme? (name ++ ("://".toList ++ more)) = named? name ("://".toList ++ more) :=
    schemeCut (fun c member => alphaInScheme (alphabetic c member)) (by simp [inScheme])
  refine ⟨more, ended, ?_⟩
  rw [← List.append_assoc, kept, List.append_assoc, cut]
  cases name with
  | nil => exact absurd rfl filled
  | cons first rest => exact if_pos (alphabetic first (.head _))

theorem namedWeb {scheme : String} (lower : name.map Char.toLower = scheme.toList)
    (web : Kind.ofScheme scheme = .web) (rest : List Char) :
    ∀ u ∈ parse? (String.ofList (name ++ ("://".toList ++ rest))), u.scheme = scheme := by
  intro u parsed
  obtain ⟨more, -, read⟩ := namedScheme filled alphabetic rest
  rw [lower, String.ofList_toList] at read
  rw [Option.mem_def, parse?, read, Option.bind_eq_bind, Option.bind_some] at parsed
  dsimp only at parsed
  rw [web] at parsed
  exact authorityScheme u parsed

theorem namedEmpty (web : Kind.ofScheme (String.ofList (name.map Char.toLower)) = .web) :
    parse? (String.ofList (name ++ "://".toList)) = none := by
  obtain ⟨more, ended, read⟩ := namedScheme filled alphabetic []
  rw [List.append_nil, ended rfl, List.append_nil] at read
  rw [parse?, read, Option.bind_eq_bind, Option.bind_some]
  dsimp only
  rw [web]
  rfl

-- A name that is not followed by a colon is not the name of a scheme.
theorem unnamed {rest : List Char}
    (other : ∀ c ∈ rest.head?, inScheme c = false ∧ c ≠ ':' ∧ 0x20 < c.toNat) :
    parse? (String.ofList (name ++ rest)) = none := by
  have known : ∀ c ∈ name, inScheme c = true := fun c member => alphaInScheme (alphabetic c member)
  have solid : ∀ c ∈ name, 0x20 < c.toNat := fun c member => alphaSolid (alphabetic c member)
  have none : scheme? (significant (String.ofList (name ++ rest))) = none := by
    cases rest with
    | nil =>
      obtain ⟨more, kept, ended⟩ := significantFront filled solid []
      rw [kept, ended rfl, schemeCut known (by simp)]
      cases name <;> rfl
    | cons c rest =>
      obtain ⟨stop, mark, beyond⟩ := other c rfl
      have start : name ++ [c] ≠ [] := List.append_ne_nil_of_left_ne_nil filled _
      obtain ⟨more, kept, -⟩ := significantFront start (fun d member =>
        (List.mem_append.mp member).elim (solid d) fun last => by
          rwa [List.mem_singleton.mp last]) rest
      rw [List.append_cons, kept, List.append_assoc, schemeCut known (by simpa using stop)]
      cases name with
      | nil => rfl
      | cons first more => simp [named?, mark]
  rw [parse?, none]
  rfl

end Names

end Scrollback.Url
