import Scrollback.Proofs.Notification.Suppression
import Mathlib.Data.List.Forall2

/-! What notifications without content tell about a text: only whether it repeats. Two runs whose
texts repeat in the same places make the same calls, though the texts themselves are remembered. The
memory of one run is that of the other with each text in it replaced. -/
namespace Scrollback.Notification

section Retelling
variable (f : String → String)

def Key.retell (k : Key) : Key := { k with text := f k.text }

def Recent.retell (a : Recent) : Recent := ⟨a.entries.map fun e => (e.1.retell f, e.2)⟩

def Outcome.retell : Outcome → Outcome
  | .suppressed k => .suppressed (k.retell f)
  | o => o

-- Two requests that agree in all that a notification is made of, but for a text that is replaced.
structure Retold (r q : Request) : Prop where
  now : q.now = r.now
  settings : q.settings = r.settings
  sound : q.sound = r.sound
  author : q.message.author = r.message.author
  channel : q.message.channel = r.message.channel
  text : q.message.text = f r.message.text
  highlight : q.highlight = r.highlight
  focused : q.focused = r.focused

end Retelling

theorem retellSignals (f : String → String) (o : Outcome) : (o.retell f).signals = o.signals := by
  cases o <;> rfl

namespace Retold
variable {f : String → String} {r q : Request}

theorem key (retold : Retold f r q) : q.key = r.key.retell f := by
  simp only [Request.key, Key.of, Key.retell, retold.author, retold.channel, retold.text,
    retold.highlight]

theorem admitted (retold : Retold f r q) : q.isAdmitted = r.isAdmitted := by
  simp only [Request.isAdmitted, retold.highlight, retold.settings, retold.channel]

theorem cutoff (retold : Retold f r q) : q.cutoff = r.cutoff := by
  simp only [Request.cutoff, retold.now, retold.settings]

/- The text is in the body of an alert only where content is to be shown. -/
theorem deliver (retold : Retold f r q) (hidden : r.settings.showContent = false)
    (isFile : String → Bool) : q.deliver isFile = r.deliver isFile := by
  have place : q.place = r.place := by simp only [Request.place, retold.channel]
  have title : q.title = r.title := by
    simp only [Request.title, retold.author, retold.settings, place]
  have body : q.body = r.body := by
    simp only [Request.body, retold.settings, hidden, place]
    rfl
  have audible : q.isAudible = r.isAudible := by
    simp only [Request.isAudible, retold.focused, retold.settings]
  simp only [Request.deliver, Request.sounded, audible, title, body, retold.highlight,
    retold.sound]

end Retold

namespace Recent
variable {f : String → String} {a : Recent} {k : Key}

theorem retellForget (f : String → String) (a : Recent) (cutoff : Option Instant) :
    (a.retell f).forget cutoff = (a.forget cutoff).retell f := by
  simp only [retell, forget, List.filter_map]
  rfl

-- A map that keeps a key apart from those that are remembered.
def Apart (f : String → String) (a : Recent) (k : Key) : Prop :=
  ∀ e ∈ a.entries, f e.1.text = f k.text → e.1.text = k.text

theorem retellSame {l : Key} (apart : f l.text = f k.text → l.text = k.text) :
    l.retell f = k.retell f ↔ l = k := by
  constructor
  · intro same
    simp only [Key.retell, Key.mk.injEq] at same
    obtain ⟨author, channel, text, sound⟩ := same
    obtain ⟨a, c, t, s⟩ := l
    simp only at author channel text sound apart
    rw [author, channel, apart text, sound]
  · exact congrArg (Key.retell f)

theorem retellContains (apart : a.Apart f k) :
    (a.retell f).contains (k.retell f) = a.contains k := by
  rw [contains, contains, retell, List.any_map, Bool.eq_iff_iff, List.any_eq_true,
    List.any_eq_true]
  refine exists_congr fun e => and_congr_right fun member => ?_
  simp only [Function.comp_apply, beq_iff_eq]
  exact retellSame (apart e member)

theorem retellInsert (apart : a.Apart f k) (t : Instant) :
    (a.retell f).insert (k.retell f) t = (a.insert k t).retell f := by
  have kept : (a.entries.filter fun e => e.1.retell f != k.retell f) =
      a.entries.filter fun e => e.1 != k := by
    refine List.filter_congr fun e member => ?_
    rw [Bool.eq_iff_iff, bne_iff_ne, bne_iff_ne, ne_eq, ne_eq, retellSame (apart e member)]
  simp only [insert, retell, List.filter_map, List.map_cons, Function.comp_def, kept]

end Recent

section Run
variable {f : String → String} {isFile : String → Bool} {a : Recent} {r q : Request}

theorem notifyRetold (retold : Retold f r q) (hidden : r.settings.showContent = false)
    (apart : a.Apart f r.key) :
    notify (a.retell f) q isFile =
      ((notify a r isFile).1.retell f, (notify a r isFile).2.retell f) := by
  have apart : (a.forget r.cutoff).Apart f r.key :=
    fun e member => apart e (List.mem_of_mem_filter member)
  simp only [notify, retold.admitted, retold.cutoff, retold.key, retold.now,
    retold.deliver hidden isFile, Recent.retellForget, Recent.retellContains apart,
    Recent.retellInsert apart]
  cases r.isAdmitted with
  | false => rfl
  | true => cases (a.forget r.cutoff).contains r.key <;> rfl

/- The texts that are remembered are those of earlier requests. -/
theorem notifyTexts {texts : List String} (known : ∀ e ∈ a.entries, e.1.text ∈ texts)
    (here : r.message.text ∈ texts) :
    ∀ e ∈ (notify a r isFile).1.entries, e.1.text ∈ texts := by
  rintro ⟨k, t⟩ member
  cases admitted : r.isAdmitted with
  | false =>
    rw [notifyIdle admitted] at member
    exact known _ member
  | true =>
    rcases (notifyMem admitted).mp member with kept | ⟨-, rfl, -⟩
    · exact known _ (forgetMem.mp kept).1
    · exact here

theorem runRetold {rs qs : List Request} {texts : List String}
    (retold : List.Forall₂ (Retold f) rs qs)
    (apart : ∀ s ∈ texts, ∀ t ∈ texts, f s = f t → s = t)
    (hidden : ∀ r ∈ rs, r.settings.showContent = false)
    (asked : ∀ r ∈ rs, r.message.text ∈ texts) (known : ∀ e ∈ a.entries, e.1.text ∈ texts) :
    run isFile (a.retell f) qs = (run isFile a rs).map (Outcome.retell f) := by
  induction retold generalizing a with
  | nil => rfl
  | @cons r q rs qs here _ ih =>
    obtain ⟨plain, hidden⟩ := List.forall_mem_cons.mp hidden
    obtain ⟨text, asked⟩ := List.forall_mem_cons.mp asked
    have first := @notifyRetold f isFile a r q here plain
      fun e member => apart _ (known e member) _ text
    simp only [run, first, List.map_cons]
    rw [ih hidden asked (notifyTexts known text)]

/-- Where no content is shown, a run makes the same calls whatever its texts are, as long as the same
ones are equal. -/
theorem textsHidden {rs qs : List Request} (retold : List.Forall₂ (Retold f) rs qs)
    (apart : ∀ r ∈ rs, ∀ s ∈ rs,
      f r.message.text = f s.message.text → r.message.text = s.message.text)
    (hidden : ∀ r ∈ rs, r.settings.showContent = false) :
    (run isFile {} qs).map Outcome.signals = (run isFile {} rs).map Outcome.signals := by
  have outcomes : run isFile {} qs = (run isFile {} rs).map (Outcome.retell f) := by
    refine @runRetold f isFile {} rs qs (rs.map (·.message.text)) retold ?_ hidden ?_ ?_
    · intro s first t second
      obtain ⟨r, asked, rfl⟩ := List.mem_map.mp first
      obtain ⟨p, again, rfl⟩ := List.mem_map.mp second
      exact apart r asked p again
    · exact fun r asked => List.mem_map_of_mem asked
    · exact fun e member => absurd member List.not_mem_nil
  rw [outcomes, List.map_map]
  exact List.map_congr_left fun o _ => retellSignals f o

end Run

def saying (text : String) (millis : Int) : Request :=
  { greetingAt millis with message := { (greetingAt millis).message with text } }

-- The first text is said again while it still counts as recent.
def talk (first second : String) : List Request :=
  [saying first 0, saying second 100, saying first 600]

def answer (text : String) : String := if text = "hi" then "no" else "yes"

theorem answersHidden :
    List.Forall₂ (Retold answer) (talk "hi" "ho") (talk "no" "yes") ∧
      (∀ r ∈ talk "hi" "ho", ∀ s ∈ talk "hi" "ho",
        answer r.message.text = answer s.message.text → r.message.text = s.message.text) ∧
      (∀ r ∈ talk "hi" "ho", r.settings.showContent = false) ∧
      (run (fun _ => false) {} (talk "no" "yes")).map Outcome.signals =
        [[.alert "b highlighted you" "#a"], [.alert "b highlighted you" "#a"], []] := by
  have retold : List.Forall₂ (Retold answer) (talk "hi" "ho") (talk "no" "yes") :=
    .cons ⟨rfl, rfl, rfl, rfl, rfl, by decide, rfl, rfl⟩ <|
      .cons ⟨rfl, rfl, rfl, rfl, rfl, by decide, rfl, rfl⟩ <|
        .cons ⟨rfl, rfl, rfl, rfl, rfl, by decide, rfl, rfl⟩ .nil
  have apart : ∀ r ∈ talk "hi" "ho", ∀ s ∈ talk "hi" "ho",
      answer r.message.text = answer s.message.text → r.message.text = s.message.text := by
    decide
  have hidden : ∀ r ∈ talk "hi" "ho", r.settings.showContent = false := by decide
  exact ⟨retold, apart, hidden, (textsHidden retold apart hidden).trans (by decide)⟩

end Scrollback.Notification
