import Scrollback.Config.Reader

/-! The addresses of sounds in a configuration were each read from a text of it. A field sets its
part of a section and keeps what is known of the others, so a section keeps it however it is
written. -/
namespace Scrollback

def Url.WasRead (u : Url) : Prop := ∃ text, Url.parse? text = some u

def Highlight.Reaction.WasRead (r : Reaction) : Prop := ∀ u ∈ r.soundUrl, u.WasRead

structure Highlight.Settings.WasRead (s : Settings) : Prop where
  subscription : s.subscription.WasRead
  whisper : s.whisper.WasRead
  ownNick : s.ownNick.WasRead
  users : ∀ r ∈ s.users, r.WasRead
  phrases : ∀ r ∈ s.phrases, r.WasRead
  badges : ∀ r ∈ s.badges, r.WasRead

theorem Highlight.Settings.WasRead.soundUrls {s : Settings} (read : s.WasRead) {u : Url}
    (member : u ∈ s.soundUrls) : u.WasRead := by
  simp only [Settings.soundUrls, List.mem_append, List.mem_filterMap, List.mem_cons,
    List.not_mem_nil, or_false] at member
  rcases member with ((⟨_, rfl | rfl | rfl, u?⟩ | ⟨r, rule, u?⟩) | ⟨r, rule, u?⟩) | ⟨r, rule, u?⟩
  · exact read.subscription u u?
  · exact read.whisper u u?
  · exact read.ownNick u u?
  · exact read.users r rule u u?
  · exact read.phrases r rule u u?
  · exact read.badges r rule u u?

namespace Config.Decode

open Toml (Value)
open Highlight (Reaction Builtin)

section Steps

variable {ε α β : Type}

theorem boundOk {x : Except ε α} {f : α → Except ε β} {b : β} (ok : (x >>= f) = .ok b) :
    ∃ a, x = .ok a ∧ f a = .ok b := by
  cases x with
  | error e => cases ok
  | ok a => exact ⟨a, rfl, ok⟩

theorem mappedOk {f : α → Except ε β} {items : List α} {found : List β}
    (ok : items.mapM f = .ok found) : ∀ b ∈ found, ∃ a, f a = .ok b := by
  induction items generalizing found with
  | nil =>
    cases ok
    simp
  | cons a rest ih =>
    rw [List.mapM_cons] at ok
    obtain ⟨b, made, ok⟩ := boundOk ok
    obtain ⟨more, others, ok⟩ := boundOk ok
    cases ok
    exact List.forall_mem_cons.mpr ⟨⟨a, made⟩, ih others⟩

theorem eachOk {item : Decode α} {P : α → Prop} (one : ∀ {v a}, item v = .ok a → P a) {v : Value}
    {found : List α} (ok : list item v = .ok found) : ∀ a ∈ found, P a := by
  intro a member
  cases v with
  | array written items =>
    obtain ⟨v, made⟩ := mappedOk ok a member
    exact one made
  | _ => cases ok

end Steps

section Sections

variable {σ α : Type}

def Field.Keeps (f : Field σ) (P : σ → Prop) : Prop :=
  ∀ v s s', f.set v s = .ok s' → P s → P s'

variable {P : σ → Prop} {fields : List (Field σ)} {start s : σ}

theorem fieldKeeps {name : String} {value : Decode α} {set : σ → α → σ}
    (each : ∀ {v a s}, value v = .ok a → P s → P (set s a)) : (field name value set).Keeps P := by
  intro v s s' ok kept
  obtain ⟨a, read, ok⟩ := boundOk ok
  cases ok
  exact each read kept

variable (keeps : ∀ f ∈ fields, f.Keeps P)
include keeps

theorem entriesKeep {entries : List (String × Value)} (ok : ofEntries fields start entries = .ok s)
    (kept : P start) : P s := by
  induction entries generalizing start with
  | nil =>
    cases ok
    exact kept
  | cons entry rest ih =>
    unfold ofEntries at ok
    split at ok
    · rename_i f found
      obtain ⟨next, step, ok⟩ := boundOk ok
      exact ih ok (keeps f (List.mem_of_find?_eq_some found) _ _ _ step kept)
    · obtain ⟨-, -, ok⟩ := boundOk ok
      exact ih ok kept

theorem itemsKeep {items : List Value} (ok : ofItems fields start items = .ok s)
    (kept : P start) : P s := by
  induction fields generalizing start items with
  | nil =>
    cases ok
    exact kept
  | cons f fields ih =>
    cases items with
    | nil =>
      cases ok
      exact kept
    | cons v rest =>
      obtain ⟨next, step, ok⟩ := boundOk ok
      exact ih (fun f member => keeps f (.tail _ member)) ok (keeps f (.head _) _ _ _ step kept)

theorem recordKeeps {v : Value} (ok : record start fields v = .ok s) (kept : P start) : P s := by
  cases v with
  | table written entries => exact entriesKeep keeps ok kept
  | array written items => exact itemsKeep keeps ok kept
  | time written =>
    cases ok
    exact kept
  | _ => cases ok

end Sections

section Reactions

theorem urlRead {v : Value} {u : Url} (ok : url v = .ok u) : u.WasRead := by
  obtain ⟨text, -, ok⟩ := boundOk ok
  split at ok
  · rename_i parsed
    cases ok
    exact ⟨text, parsed⟩
  · cases ok

variable {σ : Type}

theorem reactionKeeps {get : σ → Reaction} {set : σ → Reaction → σ}
    (same : ∀ s r, get (set s r) = r) :
    ∀ f ∈ reactionFields get set, f.Keeps fun s => (get s).WasRead := by
  simp only [reactionFields, List.forall_mem_cons, List.not_mem_nil, false_implies, implies_true,
    and_true]
  refine ⟨fieldKeeps fun _ kept => ?_, fieldKeeps fun _ kept => ?_, fieldKeeps fun read _ => ?_⟩
  · rw [same]
    exact kept
  · rw [same]
    exact kept
  · rw [same]
    rintro u ⟨⟩
    exact urlRead read

theorem builtinKeeps {get : σ → Builtin} {set : σ → Builtin → σ}
    (same : ∀ s b, get (set s b) = b) :
    ∀ f ∈ builtinFields get set, f.Keeps fun s => (get s).WasRead := by
  refine List.forall_mem_cons.mpr ⟨fieldKeeps fun _ kept => ?_, reactionKeeps fun s r => ?_⟩
  · rw [same]
    exact kept
  · rw [same]

theorem unset : ({} : Reaction).WasRead := by
  rintro u ⟨⟩

theorem builtinRead {v : Value} {b : Builtin} (ok : builtin v = .ok b) : b.WasRead :=
  recordKeeps (P := fun b => b.WasRead) (builtinKeeps fun _ _ => rfl) ok unset

theorem ownNickRead {v : Value} {o : Highlight.OwnNick} (ok : ownNick v = .ok o) : o.WasRead := by
  refine recordKeeps (P := fun o => o.WasRead) (List.forall_mem_append.mpr ⟨?_, ?_⟩) ok unset
  · exact builtinKeeps fun _ _ => rfl
  · exact List.forall_mem_singleton.mpr (fieldKeeps fun _ kept => kept)

theorem rulePartsRead {entries : List (String × Value)} {start parts : RuleParts}
    (ok : ruleParts start entries = .ok parts) (kept : start.WasRead) : parts.WasRead := by
  have keeps : ∀ f ∈ ruleFields, f.Keeps fun s => s.WasRead := by
    refine List.forall_mem_append.mpr ⟨reactionKeeps fun _ _ => rfl, List.forall_mem_cons.mpr ?_⟩
    exact ⟨fieldKeeps fun _ kept => kept,
      List.forall_mem_singleton.mpr (fieldKeeps fun _ kept => kept)⟩
  induction entries generalizing start with
  | nil =>
    cases ok
    exact kept
  | cons entry rest ih =>
    unfold ruleParts at ok
    split at ok
    · rename_i f found
      obtain ⟨next, step, ok⟩ := boundOk ok
      exact ih ok (keeps f (List.mem_of_find?_eq_some found) _ _ _ step kept)
    · obtain ⟨-, -, ok⟩ := boundOk ok
      exact ih ok kept

theorem ruleRead {v : Value} {r : Highlight.Rule} (ok : rule v = .ok r) : r.WasRead := by
  cases v with
  | table written entries =>
    obtain ⟨parts, read, ok⟩ := boundOk ok
    obtain ⟨pattern, -, ok⟩ := boundOk ok
    cases ok
    exact rulePartsRead read unset
  | _ => cases ok

theorem badgeRuleRead {v : Value} {r : Highlight.BadgeRule} (ok : badgeRule v = .ok r) :
    r.WasRead := by
  have keeps : ∀ f ∈ badgeFields, f.Keeps fun s => s.WasRead := by
    refine List.forall_mem_cons.mpr ⟨fieldKeeps fun _ kept => kept, List.forall_mem_append.mpr ?_⟩
    exact ⟨reactionKeeps fun _ _ => rfl,
      List.forall_mem_singleton.mpr (fieldKeeps fun _ kept => kept)⟩
  obtain ⟨parts, read, ok⟩ := boundOk ok
  have kept := recordKeeps keeps read unset
  split at ok
  · cases ok
    exact kept
  · cases ok

end Reactions

theorem allUnset : ({} : Highlight.Settings).WasRead where
  subscription := unset
  whisper := unset
  ownNick := unset
  users := List.forall_mem_nil _
  phrases := List.forall_mem_nil _
  badges := List.forall_mem_nil _

theorem highlightsRead {v : Value} {s : Highlight.Settings} (ok : highlights v = .ok s) :
    s.WasRead := by
  refine recordKeeps ?_ ok allUnset
  simp only [List.forall_mem_cons, List.not_mem_nil, false_implies, implies_true, and_true]
  exact ⟨
    fieldKeeps fun read kept => { kept with subscription := builtinRead read },
    fieldKeeps fun read kept => { kept with whisper := builtinRead read },
    fieldKeeps fun read kept => { kept with ownNick := ownNickRead read },
    fieldKeeps fun read kept => { kept with users := eachOk ruleRead read },
    fieldKeeps fun read kept => { kept with phrases := eachOk ruleRead read },
    fieldKeeps fun read kept => { kept with badges := eachOk badgeRuleRead read },
    fieldKeeps fun _ kept => { kept with },
    fieldKeeps fun _ kept => { kept with }⟩

end Config.Decode

theorem Config.addressesRead {text : String} {config : Config} (parsed : parse text = .ok config) :
    config.highlights.WasRead := by
  unfold parse at parsed
  split at parsed
  · refine Decode.entriesKeep (P := fun c => c.highlights.WasRead) ?_ parsed Decode.allUnset
    simp only [Decode.fields, List.forall_mem_cons, List.not_mem_nil, false_implies, implies_true,
      and_true]
    exact ⟨Decode.fieldKeeps fun read _ => Decode.highlightsRead read,
      Decode.fieldKeeps fun _ kept => kept, Decode.fieldKeeps fun _ kept => kept,
      Decode.fieldKeeps fun _ kept => kept, Decode.fieldKeeps fun _ kept => kept,
      Decode.fieldKeeps fun _ kept => kept⟩
  · cases parsed

end Scrollback
