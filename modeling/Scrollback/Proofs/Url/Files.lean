import Scrollback.Url.Reader

/-! Which addresses name files. The answer goes by the path and the host alone; an address that is
read with the scheme `file` always has a path from the root, and its host is left out where it is
this one, so that it names a file if and only if no host is left. -/
namespace Scrollback.Url

def isRooted (u : Url) : Prop := u.path.toList.head? = some '/'

def isElsewhere (u : Url) : Prop := ∃ h, u.host? = some h ∧ h ≠ .domain "localhost"

theorem localHostFalse {u : Url} : isLocalHost u.host? = false ↔ u.isElsewhere := by
  unfold isElsewhere
  cases u.host? with
  | none => simp [isLocalHost]
  | some h => cases h <;> simp [isLocalHost]

theorem filePathNone {u : Url} : u.filePath? = none ↔ u.isRooted → u.isElsewhere := by
  rw [← localHostFalse, isRooted, filePath?]
  split
  · rename_i rest path
    simp [path]
  · rename_i other
    cases path : u.path.toList with
    | nil => simp
    | cons x rest =>
      have slash : x ≠ '/' := by
        rintro rfl
        exact other rest path
      simp [slash]

section File

theorem pathRooted (start cs : List Char) :
    (readPath .file start cs).1.toList.head? = some '/' := by
  simp [readPath]

theorem pathAfterRooted (cs : List Char) :
    (readPathAfter .file cs).1.toList.head? = some '/' := by
  have special : Kind.file.isSpecial = true := rfl
  unfold readPathAfter
  rw [if_pos special]
  split <;> exact pathRooted _ _

/- Where the text names this host, it is not kept. -/
theorem fileParts {cs : List Char} {u : Url} (read : readFile? cs = some u) :
    u.isRooted ∧ (u.host? = none ∨ u.isElsewhere) := by
  have here {path : String × List Char} (rooted : path.1.toList.head? = some '/') :
      (assemble .file "file" (some {}) path).isRooted ∧
        (assemble .file "file" (some {}) path).host? = none := ⟨rooted, rfl⟩
  simp only [readFile?] at read
  split at read
  · rename_i a b rest
    split at read
    · split at read
      · cases read
        exact (here (pathRooted _ _)).imp_right .inl
      · obtain ⟨host, -, read⟩ := Option.bind_eq_some_iff.mp read
        split at read
        · cases read
          exact (here (pathRooted _ _)).imp_right .inl
        · rename_i other
          cases read
          exact ⟨pathAfterRooted _, .inr ⟨host, rfl, by simpa using other⟩⟩
    · split at read
      all_goals
        cases read
        exact (here (pathRooted _ _)).imp_right .inl
  all_goals
    cases read
    exact (here (pathRooted _ _)).imp_right .inl

end File

section Scheme

theorem bindAll {α β : Type} {P : β → Prop} {o : Option α} {f : α → Option β}
    (each : ∀ a, ∀ b ∈ f a, P b) : ∀ b ∈ o.bind f, P b := by
  intro b member
  obtain ⟨a, -, kept⟩ := Option.mem_bind_iff.mp member
  exact each a b kept

variable {k : Kind} {scheme : String}

theorem assembled {a : Option Authority} {path : String × List Char} :
    ∀ u ∈ some (assemble k scheme a path), u.scheme = scheme := by
  rintro u ⟨⟩
  rfl

-- Whichever way the reading goes on, it gives nothing or ends by putting the parts together.
theorem authorityScheme {cs : List Char} : ∀ u ∈ readAuthority? k scheme cs, u.scheme = scheme := by
  unfold readAuthority?
  refine bindAll fun ⟨userinfo, rest⟩ => ?_
  dsimp only
  repeat' first
    | exact assembled
    | refine bindAll fun _ => ?_
    | split

theorem parsedFile {text : String} {u : Url} (parsed : parse? text = some u)
    (file : u.scheme = "file") : ∃ cs, readFile? cs = some u := by
  obtain ⟨⟨scheme, rest⟩, -, parsed⟩ := Option.bind_eq_some_iff.mp parsed
  have other (kept : u.scheme = scheme) : Kind.ofScheme scheme = .file := by
    rw [← kept, file]
    rfl
  dsimp only at parsed
  cases kind : Kind.ofScheme scheme with
  | file =>
    rw [kind] at parsed
    exact ⟨rest, parsed⟩
  | web =>
    rw [kind] at parsed
    cases kind.symm.trans (other (authorityScheme u parsed))
  | other =>
    rw [kind] at parsed
    have kept : u.scheme = scheme := by
      dsimp only at parsed
      split at parsed
      · exact authorityScheme u parsed
      · exact assembled u parsed
      · exact assembled u parsed
    cases kind.symm.trans (other kept)

end Scheme

/- An address with the scheme `file` names a file if no host is left in it, and any other address if
its path starts at the root and its host is this one. -/
theorem parsedFilePath {text : String} {u : Url} (parsed : parse? text = some u) :
    u.filePath? = none ↔
      if u.scheme = "file" then u.host? ≠ none else u.isRooted → u.isElsewhere := by
  split
  · rename_i file
    obtain ⟨cs, read⟩ := parsedFile parsed file
    obtain ⟨rooted, host⟩ := fileParts read
    rw [filePathNone]
    constructor
    · intro elsewhere
      obtain ⟨h, kept, -⟩ := elsewhere rooted
      simp [kept]
    · intro left _
      exact host.resolve_left left
  · exact filePathNone

end Scrollback.Url
