import Scrollback.Config.Basic
import Scrollback.Disk
import Scrollback.Toml.Document

/-!
Reading of configurations. Sections are tables, of which unknown keys are ignored; they can also be
written as arrays of their values in order. The first thing that is wrong ends the reading.
-/

namespace Scrollback.Config

inductive Error where
  | unreadable (cause : Disk.Failure)
  | invalid
  | splitCharacter
  deriving DecidableEq, Repr

def Error.message? : Error → Option String
  | .unreadable cause => some ("config could not be read: " ++ cause.message)
  | _ => none

open Toml (Value)

abbrev Decode (α : Type) := Value → Except Error α

namespace Decode

def boolean : Decode Bool
  | .boolean b => .ok b
  | _ => .error .invalid

def string : Decode String
  | .string s => .ok s
  | _ => .error .invalid

def natural : Decode Nat
  | .integer n => if 0 ≤ n ∧ n < Int.pow 2 64 then .ok n.toNat else .error .invalid
  | _ => .error .invalid

def url : Decode Url := fun v => do
  match Url.parse? (← string v) with
  | some u => return u
  | none => throw .invalid

def color : Decode Color := fun v => do
  match Color.parse (← string v) with
  | .ok c => return c
  | .error .splitCharacter => throw .splitCharacter
  | .error _ => throw .invalid

def list {α : Type} (item : Decode α) : Decode (List α)
  | .array _ items => items.mapM item
  | _ => .error .invalid

mutual

/- Passes over a value. Integers have to lie in a range, and other numbers must not be too great. -/
def skip (low high : Int) : Value → Except Error Unit
  | .integer n => if low ≤ n ∧ n ≤ high then .ok () else .error .invalid
  | .float text => if Toml.Scalar.isInfinite text then .error .invalid else .ok ()
  | .array _ items => skipItems low high items
  | .table _ entries => skipEntries low high entries
  | _ => .ok ()

def skipItems (low high : Int) : List Value → Except Error Unit
  | [] => .ok ()
  | v :: rest => do
    skip low high v
    skipItems low high rest

def skipEntries (low high : Int) : List (String × Value) → Except Error Unit
  | [] => .ok ()
  | (_, v) :: rest => do
    skip low high v
    skipEntries low high rest

end

def ignore (v : Value) : Except Error Unit := skip (-Int.pow 2 127) (Int.pow 2 128 - 1) v

def keep (v : Value) : Except Error Unit := skip (-Int.pow 2 63) (Int.pow 2 64 - 1) v

structure Field (σ : Type) where
  name : String
  set : Value → σ → Except Error σ

def field {σ α : Type} (name : String) (value : Decode α) (set : σ → α → σ) : Field σ :=
  ⟨name, fun v s => return set s (← value v)⟩

def ofEntries {σ : Type} (fields : List (Field σ)) : σ → List (String × Value) → Except Error σ
  | s, [] => .ok s
  | s, (key, v) :: rest =>
    match fields.find? (·.name == key) with
    | some f => do ofEntries fields (← f.set v s) rest
    | none => do
      ignore v
      ofEntries fields s rest

def ofItems {σ : Type} : List (Field σ) → σ → List Value → Except Error σ
  | f :: fields, s, v :: rest => do ofItems fields (← f.set v s) rest
  | _, s, _ => .ok s

/- A section that is made from its parts, starting with what holds without any. A time counts as a
table of unknown keys. -/
def record {σ : Type} (start : σ) (fields : List (Field σ)) : Decode σ
  | .table _ entries => ofEntries fields start entries
  | .array _ items => ofItems fields start items
  | .time _ => .ok start
  | _ => .error .invalid

def reactionFields {σ : Type} (get : σ → Highlight.Reaction) (set : σ → Highlight.Reaction → σ) :
    List (Field σ) :=
  [field "alert" boolean fun s b => set s { get s with alert := b },
    field "sound" boolean fun s b => set s { get s with sound := b },
    field "sound_url" url fun s u => set s { get s with soundUrl := some u }]

def builtinFields {σ : Type} (get : σ → Highlight.Builtin) (set : σ → Highlight.Builtin → σ) :
    List (Field σ) :=
  field "enabled" boolean (fun s b => set s { get s with enabled := b })
    :: reactionFields (fun s => (get s).toReaction)
      fun s r => set s { get s with toReaction := r }

def builtin : Decode Highlight.Builtin := record {} (builtinFields id fun _ b => b)

def ownNick : Decode Highlight.OwnNick :=
  record {} <|
    builtinFields (·.toBuiltin) (fun s b => { s with toBuiltin := b })
      ++ [field "show_in_mentions" boolean fun s b => { s with showInMentions := b }]

def colors : Decode Highlight.Colors :=
  record {} [
    field "highlight" color fun s c => { s with highlight := c },
    field "subscription" color fun s c => { s with subscription := c },
    field "whisper" color fun s c => { s with whisper := c },
    field "self_highlight" color fun s c => { s with ownNick := c }]

/-! Rules. -/

structure RuleParts extends Highlight.Reaction where
  color : Option Color := none
  showInMentions : Bool := false
  others : List (String × Value) := []

def ruleFields : List (Field RuleParts) :=
  reactionFields (·.toReaction) (fun s r => { s with toReaction := r })
    ++ [field "color" color fun s c => { s with color := some c },
      field "show_in_mentions" boolean fun s b => { s with showInMentions := b }]

def ruleParts : RuleParts → List (String × Value) → Except Error RuleParts
  | s, [] => .ok s
  | s, (key, v) :: rest =>
    match ruleFields.find? (·.name == key) with
    | some f => do ruleParts (← f.set v s) rest
    | none => do
      keep v
      ruleParts { s with others := s.others ++ [(key, v)] } rest

def getD {α : Type} (entries : List (String × Value)) (key : String) (decode : Decode α)
    (default : α) : Except Error α :=
  match entries.lookup key with
  | some v => decode v
  | none => .ok default

def required {α : Type} (entries : List (String × Value)) (key : String) (decode : Decode α) :
    Except Error α :=
  match entries.lookup key with
  | some v => decode v
  | none => .error .invalid

def wordsPattern (entries : List (String × Value)) :
    Except Error (Except Highlight.Pattern.Error Highlight.Pattern) := do
  let words ← required entries "words" (list string)
  let ignoreCase ← getD entries "case_insensitive" boolean true
  return Highlight.Pattern.ofWords words ignoreCase

def regexPattern (entries : List (String × Value)) :
    Except Error (Except Highlight.Pattern.Error Highlight.Pattern) := do
  let source ← required entries "regex" string
  let ignoreCase ← getD entries "case_insensitive" boolean false
  return Highlight.Pattern.ofRegex source ignoreCase

/- Words come first; a regular expression is taken where there are none that make sense. -/
def rulePattern (entries : List (String × Value)) : Except Error Highlight.Pattern := do
  let made ← (wordsPattern entries).orElseLazy fun _ => regexPattern entries
  match made with
  | .ok pattern => return pattern
  | .error _ => throw .invalid

def rule : Decode Highlight.Rule
  | .table _ entries => do
    let parts ← ruleParts {} entries
    let pattern ← rulePattern parts.others
    return {
      toReaction := parts.toReaction, pattern
      color := parts.color, showInMentions := parts.showInMentions }
  | _ => .error .invalid

structure BadgeParts extends Highlight.Reaction where
  badge : Option BadgeMatch := none
  color : Option Color := none

def badgeFields : List (Field BadgeParts) :=
  field "badge" string (fun s b => { s with badge := some (.ofText b) })
    :: reactionFields (·.toReaction) (fun s r => { s with toReaction := r })
    ++ [field "color" color fun s c => { s with color := some c }]

def badgeRule : Decode Highlight.BadgeRule := fun v => do
  let parts ← record {} badgeFields v
  match parts.badge with
  | some badge => return { toReaction := parts.toReaction, badge, color := parts.color }
  | none => throw .invalid

/-! Sections. -/

def highlights : Decode Highlight.Settings :=
  record {} [
    field "subscription" builtin fun s b => { s with subscription := b },
    field "whisper" builtin fun s b => { s with whisper := b },
    field "self" ownNick fun s o => { s with ownNick := o },
    field "users" (list rule) fun s rs => { s with users := rs },
    field "match" (list rule) fun s rs => { s with phrases := rs },
    field "badges" (list badgeRule) fun s rs => { s with badges := rs },
    field "blocked" (list string) fun s names => { s with blocked := names },
    field "colors" colors fun s cs => { s with colors := cs }]

def notificationSettings : Decode Notification.Settings :=
  record {} [
    field "show_toast" boolean fun s b => { s with showToast := b },
    field "show_content" boolean fun s b => { s with showContent := b },
    field "delay" natural fun s n => { s with delay := some n },
    field "always_play_sound" boolean fun s b => { s with alwaysPlaySound := b },
    field "muted" boolean fun s b => { s with muted := b },
    field "exclude" (list string) fun s names => { s with exclude := names }]

def notifications : Decode Notification.Settings :=
  record {} [field "highlight" notificationSettings fun _ s => s]

def sound : Decode Sound.Settings :=
  record {} [
    field "use_custom_fallback" boolean fun s b => { s with useCustomFallback := b },
    field "custom_fallback" string fun s path => { s with customFallback := some path }]

def filters : Decode (List String) :=
  record [] [field "ignore" (list string) fun _ entries => entries]

def history : Decode Nat :=
  record Buffer.defaultLimit [field "limit" natural fun _ n => n]

def threshold? : String → Option Log.Threshold
  | "off" => some none
  | "error" => some (some .error)
  | "warn" => some (some .warn)
  | "info" => some (some .info)
  | "debug" => some (some .debug)
  | "trace" => some (some .trace)
  | _ => none

def isHollow : Value → Bool
  | .array _ items => items.isEmpty
  | .table _ entries => entries.isEmpty
  | _ => false

def threshold : Decode Log.Threshold
  | .string name => of (threshold? name)
  | .table _ [(name, v)] => if isHollow v then of (threshold? name) else .error .invalid
  | _ => .error .invalid
where
  of (t : Option Log.Threshold) : Except Error Log.Threshold :=
    match t with
    | some t => .ok t
    | none => .error .invalid

def logs : Decode Log.Threshold :=
  record (some .info) [field "file_level" threshold fun _ t => t]

def fields : List (Field Config) := [
  field "highlights" highlights fun s h => { s with highlights := h },
  field "notifications" notifications fun s n => { s with notifications := n },
  field "sound" sound fun s p => { s with sound := p },
  field "filters" filters fun s entries => { s with ignore := entries },
  field "history" history fun s n => { s with limit := n },
  field "logs" logs fun s t => { s with logThreshold := t }]

end Decode

def parse (text : String) : Except Error Config :=
  match Toml.parse? text with
  | some entries => Decode.ofEntries Decode.fields {} entries
  | none => .error .invalid

def load (e : Disk.Entry) : Except Error Config :=
  match e.text with
  | .ok text => parse text
  | .error cause => .error (.unreadable cause)

end Scrollback.Config
