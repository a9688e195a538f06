import Mathlib
import Scrollback.Proofs.Config.Addresses
import Scrollback.Proofs.Config.Cuts

/-! Where the reading of a configuration breaks off. Sections are read one part after another, so it
is at the first part that cannot be read, and only if that is a cut text for a colour. -/
namespace Scrollback

namespace Config.Decode

open Toml (Value)

section Steps

variable {α β : Type} {x : Except Error α} {f : α → Except Error β} {P Q : Prop}

-- Reading breaks off just if `P` holds. Whatever else is wrong makes the text invalid.
def Breaks (x : Except Error α) (P : Prop) : Prop :=
  ∀ e, e ≠ .invalid → (x = .error e ↔ e = .splitCharacter ∧ P)

theorem Breaks.same (breaks : Breaks x P) (same : P ↔ Q) : Breaks x Q :=
  fun e other => (breaks e other).trans (and_congr_right fun _ => same)

theorem okBreaks (a : α) : Breaks (.ok a) False := fun _ _ => iff_of_false nofun fun h => h.2

theorem splitBreaks : Breaks (.error .splitCharacter : Except Error α) True := fun _ _ =>
  ⟨fun same => ⟨(Except.error.inj same).symm, trivial⟩, fun h => congrArg _ h.1.symm⟩

theorem invalidBreaks : Breaks (.error .invalid : Except Error α) False :=
  fun _ other => iff_of_false (fun same => other (Except.error.inj same).symm) fun h => h.2

def Fine (x : Except Error α) : Prop := ∃ a, x = .ok a

theorem Breaks.settled (breaks : Breaks x P) (none : ¬P) : Fine x ∨ x = .error .invalid := by
  cases x with
  | ok a => exact .inl ⟨a, rfl⟩
  | error e =>
    by_cases invalid : e = .invalid
    · exact .inr (congrArg _ invalid)
    · exact absurd ((breaks e invalid).mp rfl).2 none

theorem fineBind : Fine (x >>= f) ↔ ∃ a, x = .ok a ∧ Fine (f a) := by
  constructor
  · rintro ⟨b, ok⟩
    obtain ⟨a, read, ok⟩ := boundOk ok
    exact ⟨a, read, b, ok⟩
  · rintro ⟨a, rfl, b, ok⟩
    exact ⟨b, ok⟩

theorem finePure (a : α) : Fine (pure a) := ⟨a, rfl⟩

theorem Breaks.bind {R : α → Prop} (first : Breaks x P) (next : ∀ a, Breaks (f a) (R a)) :
    Breaks (x >>= f) (P ∨ ∃ a, x = .ok a ∧ R a) := by
  intro e other
  rw [boundError, first e other, and_or_left, ← exists_and_left]
  refine or_congr_right (exists_congr fun a => ?_)
  rw [and_left_comm]
  exact and_congr_right fun _ => next a e other

theorem Breaks.bindWhole (first : Breaks x P) (next : ∀ a, Breaks (f a) False) :
    Breaks (x >>= f) P :=
  (first.bind next).same (by simp)

-- The first part of a list for which something holds, after a part that is left behind.
theorem splitCons {a : α} {as : List α} {D : List α → α → Prop} :
    (∃ before w after, a :: as = before ++ w :: after ∧ D before w) ↔
      D [] a ∨ ∃ before w after, as = before ++ w :: after ∧ D (a :: before) w := by
  constructor
  · rintro ⟨before, w, after, split, holds⟩
    cases before with
    | nil =>
      cases split
      exact .inl holds
    | cons b before =>
      cases split
      exact .inr ⟨before, w, after, rfl, holds⟩
  · rintro (holds | ⟨before, w, after, rfl, holds⟩)
    · exact ⟨[], a, as, rfl, holds⟩
    · exact ⟨a :: before, w, after, rfl, holds⟩

theorem splitLater {σ : Type} {as : List α} {x : Except Error σ} {F : σ → List α → Prop}
    {C : List α → α → Prop} :
    (∃ t, x = .ok t ∧ ∃ before w after, as = before ++ w :: after ∧ F t before ∧ C before w) ↔
      ∃ before w after, as = before ++ w :: after ∧ (∃ t, x = .ok t ∧ F t before) ∧ C before w := by
  constructor
  · rintro ⟨t, ok, before, w, after, split, fine, cut⟩
    exact ⟨before, w, after, split, ⟨t, ok, fine⟩, cut⟩
  · rintro ⟨before, w, after, split, ⟨t, ok, fine⟩, cut⟩
    exact ⟨t, ok, before, w, after, split, fine, cut⟩

theorem foldBreaks {σ : Type} {step : σ → α → Except Error σ} {C : α → Prop}
    (each : ∀ s a, Breaks (step s a) (C a)) (as : List α) (s : σ) :
    Breaks (as.foldlM step s) (∃ before w after,
      as = before ++ w :: after ∧ Fine (before.foldlM step s) ∧ C w) := by
  induction as generalizing s with
  | nil => exact (okBreaks s).same (by simp)
  | cons a as ih =>
    rw [List.foldlM_cons]
    refine ((each s a).bind fun t => ih t).same ?_
    have none : Fine (([] : List α).foldlM step s) := ⟨s, rfl⟩
    rw [splitCons]
    simp only [none, true_and, List.foldlM_cons, fineBind]
    exact or_congr_right splitLater

theorem eachBreaks {item : Decode α} {C : Value → Prop} (one : ∀ v, Breaks (item v) (C v))
    (items : List Value) :
    Breaks (items.mapM item) (∃ before w after, items = before ++ w :: after ∧
      (Fine (before.mapM item) ∧ C w)) := by
  induction items with
  | nil => exact (okBreaks []).same (by simp)
  | cons v items ih =>
    rw [List.mapM_cons]
    refine ((one v).bind fun a => ih.bindWhole fun found => okBreaks (a :: found)).same ?_
    have none : Fine (([] : List Value).mapM item) := finePure []
    have further (before : List Value) : Fine ((v :: before).mapM item) ↔
        ∃ a, item v = .ok a ∧ Fine (before.mapM item) := by
      rw [List.mapM_cons, fineBind]
      simp only [fineBind, finePure, and_true]
      rfl
    rw [splitCons]
    simp only [none, true_and, further]
    exact or_congr_right splitLater

end Steps

section Sections

variable {σ : Type} {fields : List (Field σ)} {start : σ} {C : String → Value → Prop}

def names (fields : List (Field σ)) : List String := fields.map (·.name)

def Field.BreaksAt (f : Field σ) (P : Value → Prop) : Prop := ∀ v s, Breaks (f.set v s) (P v)

theorem fieldBreaks {α : Type} {name : String} {value : Decode α} {set : σ → α → σ}
    {P : Value → Prop} (each : ∀ v, Breaks (value v) (P v)) :
    (field name value set).BreaksAt P :=
  fun v s => (each v).bindWhole fun a => okBreaks (set s a)

mutual

theorem skipWhole (low high : Int) : ∀ v : Value, Breaks (skip low high v) False
  | .integer n => by
    rw [skip]
    split
    · exact okBreaks ()
    · exact invalidBreaks
  | .float text => by
    rw [skip]
    split
    · exact invalidBreaks
    · exact okBreaks ()
  | .array _ items => by
    rw [skip]
    exact itemsWhole low high items
  | .table _ entries => by
    rw [skip]
    exact entriesWhole low high entries
  | .string _ | .boolean _ | .time _ => okBreaks ()

theorem itemsWhole (low high : Int) : ∀ items : List Value, Breaks (skipItems low high items) False
  | [] => okBreaks ()
  | v :: rest => by
    rw [skipItems]
    exact (skipWhole low high v).bindWhole fun _ => itemsWhole low high rest

theorem entriesWhole (low high : Int) :
    ∀ entries : List (String × Value), Breaks (skipEntries low high entries) False
  | [] => okBreaks ()
  | (_, v) :: rest => by
    rw [skipEntries]
    exact (skipWhole low high v).bindWhole fun _ => entriesWhole low high rest

end

-- What one entry of a table does. An entry of another name than the fields have is passed over.
def fieldStep (fields : List (Field σ)) (other : σ → String × Value → Except Error σ) (s : σ)
    (entry : String × Value) : Except Error σ :=
  match fields.find? (·.name == entry.1) with
  | some f => f.set entry.2 s
  | none => other s entry

theorem stepBreaks {other : σ → String × Value → Except Error σ}
    (each : ∀ f ∈ fields, f.BreaksAt (C f.name)) (whole : ∀ s entry, Breaks (other s entry) False)
    (s : σ) (entry : String × Value) :
    Breaks (fieldStep fields other s entry) (entry.1 ∈ names fields ∧ C entry.1 entry.2) := by
  rw [fieldStep]
  cases found : fields.find? (·.name == entry.1) with
  | some f =>
    have listed := List.mem_of_find?_eq_some found
    have same : f.name = entry.1 := by simpa using List.find?_some found
    have known : entry.1 ∈ names fields := same ▸ List.mem_map_of_mem listed
    exact (each f listed entry.2 s).same (by rw [same, and_iff_right known])
  | none =>
    have unknown : entry.1 ∉ names fields := by simpa [names] using found
    exact (whole s entry).same (by simp [unknown])

theorem entriesFold (entries : List (String × Value)) (s : σ) :
    ofEntries fields s entries =
      entries.foldlM (fieldStep fields fun s entry => (fun _ => s) <$> ignore entry.2) s := by
  induction entries generalizing s with
  | nil => rfl
  | cons entry rest ih =>
    rw [List.foldlM_cons, ofEntries, fieldStep]
    simp only [ih]
    cases fields.find? (·.name == entry.1) with
    | some f => rfl
    | none => cases ignore entry.2 <;> rfl

theorem entriesBreak (each : ∀ f ∈ fields, f.BreaksAt (C f.name))
    (entries : List (String × Value)) (start : σ) :
    Breaks (ofEntries fields start entries) (∃ before entry after,
      entries = before ++ entry :: after ∧ Fine (ofEntries fields start before) ∧
        entry.1 ∈ names fields ∧ C entry.1 entry.2) := by
  simp only [entriesFold]
  refine foldBreaks (stepBreaks each fun s entry => ?_) entries start
  exact (skipWhole _ _ entry.2).bindWhole fun _ => okBreaks s

theorem itemsBreak (each : ∀ f ∈ fields, f.BreaksAt (C f.name)) (items : List Value) (start : σ) :
    Breaks (ofItems fields start items) (∃ before w after,
      items = before ++ w :: after ∧ Fine (ofItems fields start before) ∧
        ∃ name, (names fields)[before.length]? = some name ∧ C name w) := by
  induction fields generalizing start items with
  | nil => exact (okBreaks start).same (by simp [names])
  | cons f fields ih =>
    cases items with
    | nil => exact (okBreaks start).same (by simp)
    | cons v rest =>
      have later := ih fun f member => each f (.tail _ member)
      refine ((each f (.head _) v start).bind fun s => later rest s).same ?_
      have none : Fine (ofItems (f :: fields) start []) := ⟨start, rfl⟩
      have further (before : List Value) : Fine (ofItems (f :: fields) start (v :: before)) ↔
          ∃ s, f.set v start = .ok s ∧ Fine (ofItems fields s before) := fineBind
      have here : (names (f :: fields))[([] : List Value).length]? = some f.name := rfl
      have next (before : List Value) :
          (names (f :: fields))[(v :: before).length]? = (names fields)[before.length]? := rfl
      rw [splitCons]
      simp only [none, true_and, further, here, next, Option.some.injEq, exists_eq_left']
      exact or_congr_right splitLater

-- The value of a part of a section, if all that stands before it can be read.
inductive Comes {τ : Type} (read : Decode τ) (names : List String) (name : String) (w : Value) :
    Value → Prop where
  | named {o : Toml.Origin} {before after : List (String × Value)} (known : name ∈ names)
      (fine : Fine (read (.table o before))) :
      Comes read names name w (.table o (before ++ (name, w) :: after))
  | placed {b : Bool} {before after : List Value} (placed : names[before.length]? = some name)
      (fine : Fine (read (.array b before))) :
      Comes read names name w (.array b (before ++ w :: after))

theorem recordBreaks (each : ∀ f ∈ fields, f.BreaksAt (C f.name)) (v : Value) :
    Breaks (record start fields v)
      (∃ name w, Comes (record start fields) (names fields) name w v ∧ C name w) := by
  have other {P : Prop} (none : ¬P) : False ↔ P := iff_of_false id none
  cases v with
  | table o entries =>
    refine (entriesBreak each entries start).same ⟨?_, ?_⟩
    · rintro ⟨before, ⟨name, w⟩, after, rfl, fine, known, cut⟩
      exact ⟨name, w, .named known fine, cut⟩
    · rintro ⟨name, w, comes, cut⟩
      cases comes with
      | named known fine => exact ⟨_, (name, w), _, rfl, fine, known, cut⟩
  | array b items =>
    refine (itemsBreak each items start).same ⟨?_, ?_⟩
    · rintro ⟨before, w, after, rfl, fine, name, placed, cut⟩
      exact ⟨name, w, .placed placed fine, cut⟩
    · rintro ⟨name, w, comes, cut⟩
      cases comes with
      | placed placed fine => exact ⟨_, w, _, rfl, fine, name, placed, cut⟩
  | time => exact (okBreaks start).same (other nofun)
  | _ => exact invalidBreaks.same (other nofun)

theorem recordWhole (each : ∀ f ∈ fields, f.BreaksAt fun _ => False) (v : Value) :
    Breaks (record start fields v) False :=
  (recordBreaks (C := fun _ _ => False) each v).same (by simp)

end Sections

section Decoders

theorem booleanWhole (v : Value) : Breaks (boolean v) False := by
  cases v with
  | boolean b => exact okBreaks b
  | _ => exact invalidBreaks

theorem stringWhole (v : Value) : Breaks (string v) False := by
  cases v with
  | string s => exact okBreaks s
  | _ => exact invalidBreaks

theorem naturalWhole (v : Value) : Breaks (natural v) False := by
  cases v with
  | integer n =>
    rw [natural]
    split
    · exact okBreaks n.toNat
    · exact invalidBreaks
  | _ => exact invalidBreaks

theorem urlWhole (v : Value) : Breaks (url v) False := by
  refine (stringWhole v).bindWhole fun text => ?_
  split
  · exact okBreaks _
  · exact invalidBreaks

def ColorCut (v : Value) : Prop := ∃ s, v = .string s ∧ Color.CutText s

theorem colorBreaks (v : Value) : Breaks (color v) (ColorCut v) := by
  refine (Breaks.bind (R := Color.CutText) (stringWhole v) fun text => ?_).same ?_
  · rw [← Color.cutText]
    cases Color.parse text with
    | ok c => exact (okBreaks c).same (by simp)
    | error e => cases e with
      | splitCharacter => exact splitBreaks.same (by simp)
      | _ => exact invalidBreaks.same (by simp)
  · rw [false_or]
    cases v with
    | string s => simp [string, ColorCut]
    | _ => simp [string, ColorCut]

-- The first item of a list that cannot be read.
def ListCut {α : Type} (item : Decode α) (C : Value → Prop) (v : Value) : Prop :=
  ∃ b before w after, v = .array b (before ++ w :: after) ∧ Fine (list item (.array b before)) ∧ C w

theorem listBreaks {α : Type} {item : Decode α} {C : Value → Prop}
    (one : ∀ v, Breaks (item v) (C v)) (v : Value) : Breaks (list item v) (ListCut item C v) := by
  cases v with
  | array b items =>
    refine (eachBreaks one items).same ⟨?_, ?_⟩
    · rintro ⟨before, w, after, rfl, fine, cut⟩
      exact ⟨b, before, w, after, rfl, fine, cut⟩
    · rintro ⟨_, before, w, after, same, fine, cut⟩
      cases same
      exact ⟨before, w, after, rfl, fine, cut⟩
  | _ => exact invalidBreaks.same (iff_of_false id nofun)

theorem listWhole {α : Type} {item : Decode α} (one : ∀ v, Breaks (item v) False) (v : Value) :
    Breaks (list item v) False :=
  (listBreaks one v).same (by simp [ListCut])

theorem plainField {σ α : Type} {name : String} {value : Decode α} {set : σ → α → σ}
    {C : String → Value → Prop} (whole : ∀ v, Breaks (value v) False)
    (other : ∀ v, ¬C name v) : (field name value set).BreaksAt (C name) :=
  fieldBreaks fun v => (whole v).same (iff_of_false id (other v))

variable {σ : Type} {C : String → Value → Prop}

theorem reactionBreaks {get : σ → Highlight.Reaction} {set : σ → Highlight.Reaction → σ}
    (other : ∀ name ∈ ["alert", "sound", "sound_url"], ∀ v, ¬C name v) :
    ∀ f ∈ reactionFields get set, f.BreaksAt (C f.name) := by
  simp only [reactionFields, List.forall_mem_cons, List.not_mem_nil, false_implies, implies_true,
    and_true] at other ⊢
  exact ⟨plainField booleanWhole other.1, plainField booleanWhole other.2.1,
    plainField urlWhole other.2.2⟩

theorem builtinBreaks {get : σ → Highlight.Builtin} {set : σ → Highlight.Builtin → σ} :
    ∀ f ∈ builtinFields get set, f.BreaksAt fun _ => False :=
  List.forall_mem_cons.mpr ⟨fieldBreaks booleanWhole,
    reactionBreaks (C := fun _ _ => False) fun _ _ _ => id⟩

theorem builtinWhole (v : Value) : Breaks (builtin v) False := recordWhole builtinBreaks v

theorem ownNickWhole (v : Value) : Breaks (ownNick v) False :=
  recordWhole (List.forall_mem_append.mpr
    ⟨builtinBreaks, List.forall_mem_singleton.mpr (fieldBreaks booleanWhole)⟩) v

def ColorsCut (v : Value) : Prop :=
  ∃ name w, Comes colors ["highlight", "subscription", "whisper", "self_highlight"] name w v ∧
    ColorCut w

theorem colorsBreaks (v : Value) : Breaks (colors v) (ColorsCut v) := by
  refine recordBreaks (C := fun _ => ColorCut) ?_ v
  simp only [List.forall_mem_cons, List.not_mem_nil, false_implies, implies_true, and_true]
  exact ⟨fieldBreaks colorBreaks, fieldBreaks colorBreaks, fieldBreaks colorBreaks,
    fieldBreaks colorBreaks⟩

-- The colour of a rule comes after entries that can be read. What the rule looks for is read last.
def RuleCut (v : Value) : Prop :=
  ∃ o before w after, v = .table o (before ++ ("color", w) :: after) ∧ Fine (ruleParts {} before) ∧
    ColorCut w

theorem partsFold (entries : List (String × Value)) (s : RuleParts) :
    ruleParts s entries = entries.foldlM (fieldStep ruleFields fun s entry =>
      (fun _ => { s with others := s.others ++ [entry] }) <$> keep entry.2) s := by
  induction entries generalizing s with
  | nil => rfl
  | cons entry rest ih =>
    rw [List.foldlM_cons, ruleParts, fieldStep]
    simp only [ih]
    cases ruleFields.find? (·.name == entry.1) with
    | some f => rfl
    | none => cases keep entry.2 <;> rfl

section Entries

variable {α : Type} {decode : Decode α} (whole : ∀ v, Breaks (decode v) False)
include whole

theorem requiredWhole (entries : List (String × Value)) (key : String) :
    Breaks (required entries key decode) False := by
  rw [required]
  split
  · exact whole _
  · exact invalidBreaks

theorem getDWhole (entries : List (String × Value)) (key : String) (default : α) :
    Breaks (getD entries key decode default) False := by
  rw [getD]
  split
  · exact whole _
  · exact okBreaks default

end Entries

theorem patternWhole (entries : List (String × Value)) : Breaks (rulePattern entries) False := by
  have words : Breaks (wordsPattern entries) False :=
    (requiredWhole (listWhole stringWhole) _ _).bindWhole fun _ =>
      (getDWhole booleanWhole _ _ _).bindWhole fun _ => okBreaks _
  have regex : Breaks (regexPattern entries) False :=
    (requiredWhole stringWhole _ _).bindWhole fun _ =>
      (getDWhole booleanWhole _ _ _).bindWhole fun _ => okBreaks _
  have either : Breaks ((wordsPattern entries).orElseLazy fun _ => regexPattern entries) False := by
    cases made : wordsPattern entries with
    | ok a => exact okBreaks a
    | error => exact regex
  refine either.bindWhole fun made => ?_
  split
  · exact okBreaks _
  · exact invalidBreaks

-- Of what a rule or a badge says, only its colour can be cut.
def OnlyColor (name : String) (v : Value) : Prop := name = "color" ∧ ColorCut v

theorem colorField {σ : Type} {set : σ → Color → σ} :
    (field "color" color set).BreaksAt (OnlyColor "color") :=
  fieldBreaks fun v => (colorBreaks v).same (by simp [OnlyColor])

theorem ruleBreaks (v : Value) : Breaks (rule v) (RuleCut v) := by
  have each : ∀ f ∈ ruleFields, f.BreaksAt (OnlyColor f.name) := by
    refine List.forall_mem_append.mpr ⟨reactionBreaks (by simp [OnlyColor]), ?_⟩
    exact List.forall_mem_cons.mpr ⟨colorField,
      List.forall_mem_singleton.mpr (plainField booleanWhole (by simp [OnlyColor]))⟩
  have known : "color" ∈ names ruleFields := by decide
  cases v with
  | table o entries =>
    have parts : Breaks (ruleParts {} entries) (RuleCut (.table o entries)) := by
      rw [partsFold]
      refine (foldBreaks (stepBreaks each fun s entry => ?_) entries _).same ⟨?_, ?_⟩
      · exact (skipWhole _ _ entry.2).bindWhole fun _ => okBreaks _
      · rintro ⟨before, ⟨name, w⟩, after, rfl, fine, -, same, cut⟩
        obtain rfl : name = "color" := same
        exact ⟨o, before, w, after, rfl, by rwa [partsFold], cut⟩
      · rintro ⟨_, before, w, after, same, fine, cut⟩
        cases same
        rw [partsFold] at fine
        exact ⟨before, ("color", w), after, rfl, fine, known, rfl, cut⟩
    exact parts.bindWhole fun _ => (patternWhole _).bindWhole fun _ => okBreaks _
  | _ => exact invalidBreaks.same (iff_of_false id nofun)

def BadgeCut (v : Value) : Prop :=
  ∃ w, Comes (record {} badgeFields) ["badge", "alert", "sound", "sound_url", "color"] "color" w v ∧
    ColorCut w

theorem badgeBreaks (v : Value) : Breaks (badgeRule v) (BadgeCut v) := by
  have each : ∀ f ∈ badgeFields, f.BreaksAt (OnlyColor f.name) := by
    refine List.forall_mem_cons.mpr ⟨plainField stringWhole (by simp [OnlyColor]), ?_⟩
    exact List.forall_mem_append.mpr ⟨reactionBreaks (by simp [OnlyColor]),
      List.forall_mem_singleton.mpr colorField⟩
  refine ((recordBreaks each v).bindWhole fun parts => ?_).same ⟨?_, ?_⟩
  · split
    · exact okBreaks _
    · exact invalidBreaks
  · rintro ⟨name, w, comes, rfl, cut⟩
    exact ⟨w, comes, cut⟩
  · rintro ⟨w, comes, cut⟩
    exact ⟨"color", w, comes, rfl, cut⟩

def SectionCut (name : String) (v : Value) : Prop :=
  (name = "users" ∨ name = "match") ∧ ListCut rule RuleCut v ∨
    name = "badges" ∧ ListCut badgeRule BadgeCut v ∨ name = "colors" ∧ ColorsCut v

def HighlightsCut (v : Value) : Prop :=
  ∃ name w, Comes highlights
    ["subscription", "whisper", "self", "users", "match", "badges", "blocked", "colors"] name w v ∧
    SectionCut name w

theorem highlightsBreaks (v : Value) : Breaks (highlights v) (HighlightsCut v) := by
  refine recordBreaks (C := SectionCut) ?_ v
  simp only [List.forall_mem_cons, List.not_mem_nil, false_implies, implies_true, and_true]
  refine ⟨plainField builtinWhole ?_, plainField builtinWhole ?_, plainField ownNickWhole ?_,
    fieldBreaks fun v => (listBreaks ruleBreaks v).same ?_,
    fieldBreaks fun v => (listBreaks ruleBreaks v).same ?_,
    fieldBreaks fun v => (listBreaks badgeBreaks v).same ?_,
    plainField (listWhole stringWhole) ?_,
    fieldBreaks fun v => (colorsBreaks v).same ?_⟩
  all_goals simp [SectionCut, field]

theorem deliveryWhole (v : Value) : Breaks (notificationSettings v) False := by
  refine recordWhole ?_ v
  simp only [List.forall_mem_cons, List.not_mem_nil, false_implies, implies_true, and_true]
  exact ⟨fieldBreaks booleanWhole, fieldBreaks booleanWhole, fieldBreaks naturalWhole,
    fieldBreaks booleanWhole, fieldBreaks booleanWhole, fieldBreaks (listWhole stringWhole)⟩

theorem soundWhole (v : Value) : Breaks (sound v) False := by
  refine recordWhole ?_ v
  simp only [List.forall_mem_cons, List.not_mem_nil, false_implies, implies_true, and_true]
  exact ⟨fieldBreaks booleanWhole, fieldBreaks stringWhole⟩

theorem thresholdWhole (v : Value) : Breaks (threshold v) False := by
  have named (t : Option Log.Threshold) : Breaks (threshold.of t) False := by
    cases t with
    | some t => exact okBreaks t
    | none => exact invalidBreaks
  rw [threshold.eq_def]
  split
  · exact named _
  · split
    · exact named _
    · exact invalidBreaks
  · exact invalidBreaks

theorem fieldsBreak :
    ∀ f ∈ Decode.fields, f.BreaksAt fun v => f.name = "highlights" ∧ HighlightsCut v := by
  have single {σ : Type} {f : Field σ} (whole : f.BreaksAt fun _ => False) :
      ∀ f' ∈ [f], f'.BreaksAt fun _ => False := List.forall_mem_singleton.mpr whole
  have part {σ α : Type} {name : String} {value : Decode α} {set : σ → α → σ}
      (whole : ∀ v, Breaks (value v) False) (other : name ≠ "highlights") :
      (field name value set).BreaksAt fun v => name = "highlights" ∧ HighlightsCut v :=
    plainField (C := fun name v => name = "highlights" ∧ HighlightsCut v) whole fun v both =>
      other both.1
  simp only [Decode.fields, List.forall_mem_cons, List.not_mem_nil, false_implies, implies_true,
    and_true]
  refine ⟨fieldBreaks fun v => (highlightsBreaks v).same (by simp [field]), part ?_ (by decide),
    part soundWhole (by decide), part ?_ (by decide), part ?_ (by decide), part ?_ (by decide)⟩
  · exact recordWhole (single (fieldBreaks deliveryWhole))
  · exact recordWhole (single (fieldBreaks (listWhole stringWhole)))
  · exact recordWhole (single (fieldBreaks naturalWhole))
  · exact recordWhole (single (fieldBreaks thresholdWhole))

end Decoders

end Config.Decode

-- A text is a configuration or invalid, unless reading it comes to a cut text for a colour.
theorem Config.parseBreaks (text : String) :
    (∀ e, parse text = .error e → e = .invalid ∨ e = .splitCharacter) ∧
    (parse text = .error .splitCharacter ↔ ∃ before v after,
      Toml.parse? text = some (before ++ ("highlights", v) :: after) ∧
        Decode.Fine (Decode.ofEntries Decode.fields {} before) ∧ Decode.HighlightsCut v) := by
  have breaks : Decode.Breaks (parse text) (∃ before v after,
      Toml.parse? text = some (before ++ ("highlights", v) :: after) ∧
        Decode.Fine (Decode.ofEntries Decode.fields {} before) ∧ Decode.HighlightsCut v) := by
    have known : "highlights" ∈ Decode.names Decode.fields := by decide
    rw [parse]
    cases Toml.parse? text with
    | none => exact Decode.invalidBreaks.same (by simp)
    | some entries =>
      refine (Decode.entriesBreak (C := fun name v => name = "highlights" ∧ Decode.HighlightsCut v)
        Decode.fieldsBreak entries {}).same ⟨?_, ?_⟩
      · rintro ⟨before, ⟨name, v⟩, after, rfl, fine, -, same, cut⟩
        obtain rfl : name = "highlights" := same
        exact ⟨before, v, after, rfl, fine, cut⟩
      · rintro ⟨before, v, after, same, fine, cut⟩
        cases same
        exact ⟨before, ("highlights", v), after, rfl, fine, known, rfl, cut⟩
  refine ⟨fun e failed => ?_, ?_⟩
  · by_cases invalid : e = .invalid
    · exact .inl invalid
    · exact .inr ((breaks e invalid).mp failed).1
  · exact (breaks .splitCharacter nofun).trans (and_iff_right rfl)

theorem Config.cutHighlight :
    Config.parse "[highlights.colors]\nhighlight = \"aé\"\n" = .error .splitCharacter := by
  have inside : Color.Splits 1 ['é'] := ⟨[], 'é', [], rfl, by decide, by decide⟩
  have channels : Color.Cut 1 3 (['a'] ++ ['é']) := .later (by decide) (by decide) (.here inside)
  have cut : Color.CutText "aé" := ⟨1, by decide, by decide, channels⟩
  have alone {τ : Type} {read : Decode τ} {names : List String} {name : String} {w : Toml.Value}
      {o : Toml.Origin} (known : name ∈ names) (fine : Decode.Fine (read (.table o []))) :
      Decode.Comes read names name w (.table o [(name, w)]) := .named known fine
  have colors : Decode.ColorsCut (.table .header [("highlight", .string "aé")]) :=
    ⟨"highlight", _, alone (by decide) ⟨_, rfl⟩, "aé", rfl, cut⟩
  have highlights : Decode.HighlightsCut (.table .implied [("colors", .table .header _)]) :=
    ⟨"colors", _, alone (by decide) ⟨_, rfl⟩, .inr (.inr ⟨rfl, colors⟩)⟩
  exact (parseBreaks _).2.mpr ⟨[], _, [], by cbv, ⟨_, rfl⟩, highlights⟩

end Scrollback
