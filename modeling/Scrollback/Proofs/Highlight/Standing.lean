import Scrollback.Proofs.Highlight.Colors

/-! What a highlight can look like. It is empty; or it is that of a private message alone, which has
the colour of such messages but does not count as highlighted; or it is highlighted, and then it has
a colour. So the colour tells whether there is anything to show about a message. -/
namespace Scrollback.Highlight

inductive Standing (c : Context) (m : Message) (d : Draft) : Prop where
  | plain (quiet : d.highlighted = false) (hidden : d.showInMentions = false)
      (free : d.colorClaimed = false)
      (origin : d.toHighlight = {} ∨
        whispered c m = true ∧ d.color = some c.settings.colors.whisper)
  | marked (highlighted : d.highlighted = true) (color : d.color.isSome = true)

-- Whether a source makes a message count as highlighted. A further rule for badges finds it so.
def Source.highlights : Source → Bool
  | .whisper => false
  | .badge first _ => first
  | _ => true

theorem takeHighlighted (c : Context) (d : Draft) (s : Source) :
    (take c d s).highlighted = (d.highlighted || s.highlights) := by
  rcases s with _ | _ | r | r | ⟨first, r⟩
  · simp [take, Source.highlights]
  · simp [take, Draft.react, Source.highlights, Draft.colorWhole]
  · simp [take, Draft.react, Source.highlights, applyRule]
  · simp [take, Draft.complement, Source.highlights, applyRule]
  · cases first <;> simp [take, Draft.complement, Source.highlights, paint]

theorem highlightsPaint {s : Source} (highlights : s.highlights = true) (c : Context) :
    (s.color? c).isSome = true := by
  rcases s with _ | _ | r | r | ⟨first, r⟩
  · rfl
  · contradiction
  · rfl
  · rfl
  · simp only [Source.highlights] at highlights
    simp [Source.color?, highlights]

theorem takePaints {c : Context} {d : Draft} {s : Source}
    (color : d.color.isSome = true ∨ d.colorClaimed = false ∧ (s.color? c).isSome = true) :
    (take c d s).color.isSome = true := by
  cases claims : s.claims with
  | true =>
    cases s with
    | subscription => rfl
    | _ => contradiction
  | false =>
    rw [takeColor claims]
    rcases color with there | ⟨free, paints⟩
    · split
      · exact there
      · rw [Option.isSome_or, there, Bool.or_true]
    · rw [free, if_neg Bool.false_ne_true, Option.isSome_or, paints, Bool.true_or]

namespace Standing
variable {c : Context} {m : Message} {d : Draft} {s : Source}

theorem further (standing : Standing c m d) (highlighted : d.highlighted = true) :
    Standing c m (take c d s) := by
  cases standing with
  | plain quiet => simp [quiet] at highlighted
  | marked _ color =>
    refine .marked ?_ (takePaints (.inl color))
    rw [takeHighlighted, highlighted, Bool.true_or]

theorem highlighted (standing : Standing c m d) (highlights : s.highlights = true) :
    Standing c m (take c d s) := by
  refine .marked ?_ (takePaints ?_)
  · rw [takeHighlighted, highlights, Bool.or_true]
  · cases standing with
    | plain _ _ free => exact .inr ⟨free, highlightsPaint highlights c⟩
    | marked _ color => exact .inl color

theorem whisper (standing : Standing c m d) (applies : whispered c m = true) :
    Standing c m (take c d .whisper) := by
  have free : Source.whisper.claims = false := rfl
  cases standing with
  | plain quiet hidden unclaimed =>
    refine .plain ?_ ?_ ?_ (.inr ⟨applies, ?_⟩)
    · rw [takeHighlighted, quiet]
      rfl
    · rw [takeShows, hidden]
      rfl
    · rw [takeClaimed free, unclaimed]
    · rw [takeColor free, unclaimed]
      rfl
  | marked highlighted color => exact (marked highlighted color).further highlighted

/- The first rule for badges highlights, and each one after it finds the message highlighted. -/
theorem badges (standing : Standing c m d) (rs : List BadgeRule) :
    Standing c m (takeAll c d (badgeSources rs)) := by
  cases rs with
  | nil => exact standing
  | cons r rest =>
    have step : ∀ s ∈ rest.map (Source.badge false), ∀ d,
        Standing c m d ∧ d.highlighted = true →
        Standing c m (take c d s) ∧ (take c d s).highlighted = true := by
      rintro s - d ⟨standing, highlighted⟩
      refine ⟨standing.further highlighted, ?_⟩
      rw [takeHighlighted, highlighted, Bool.true_or]
    have first : (take c d (.badge true r)).highlighted = true := by
      rw [takeHighlighted]
      exact Bool.or_true _
    exact (takeAllKeeps step ⟨standing.highlighted rfl, first⟩).1

theorem colorless (standing : Standing c m d) (none : d.color = none) : d.toHighlight = {} := by
  cases standing with
  | plain _ _ _ origin =>
    rcases origin with empty | ⟨-, color⟩
    · exact empty
    · rw [none] at color
      contradiction
  | marked _ color =>
    rw [none] at color
    contradiction

theorem shown (standing : Standing c m d) (shows : d.showInMentions = true) :
    d.highlighted = true := by
  cases standing with
  | plain _ hidden =>
    rw [hidden] at shows
    contradiction
  | marked highlighted => exact highlighted

theorem quietOrigin (standing : Standing c m d) (quiet : d.highlighted = false)
    (something : d.toHighlight ≠ {}) :
    whispered c m = true ∧ d.color = some c.settings.colors.whisper := by
  cases standing with
  | plain _ _ _ origin => exact origin.resolve_left something
  | marked highlighted =>
    rw [quiet] at highlighted
    contradiction

end Standing

theorem cascadeStanding (c : Context) (m : Message) : Standing c m (held c (cascade c m)) := by
  have step : ∀ s ∈ early c m ++ (takenPhrases c m).map .phrase, ∀ d, Standing c m d →
      Standing c m (take c d s) := by
    intro s member d standing
    have applies : s.Applies c m := by
      refine cascadeApplies ?_
      rw [cascade, late, ← List.append_assoc]
      exact List.mem_append_left _ member
    cases s with
    | subscription => exact standing.highlighted rfl
    | whisper => exact standing.whisper applies
    | user r => exact standing.highlighted rfl
    | phrase r => exact standing.highlighted rfl
    | badge first r => simp [early, openers] at member
  have start : Standing c m {} := .plain rfl rfl rfl (.inl rfl)
  rw [cascade, late, ← List.append_assoc, held, takeAllAppend]
  exact (takeAllKeeps step start).badges _

theorem resolveStanding (c : Context) (m : Message) :
    ∃ d, Standing c m d ∧ resolve c m = d.toHighlight := by
  cases blocked : c.settings.isBlocked m.author with
  | true => exact ⟨{}, .plain rfl rfl rfl (.inl rfl), resolveBlocked blocked⟩
  | false => exact ⟨_, cascadeStanding c m, resolveHeld blocked⟩

/-- A highlight without a colour is empty. What is shown among the mentions is highlighted, what
alerts or has a sound has a colour, and where something is there that is not highlighted, it is a
private message, with the colour of those. -/
theorem resolveColored (c : Context) (m : Message) :
    let h := resolve c m
    (h.color = none ↔ h = {}) ∧
      (h.showInMentions = true → h.highlighted = true) ∧
      (h.alert = true ∨ h.sound.isSome = true → h.color.isSome = true) ∧
      (h.highlighted = false → h ≠ {} →
        m.isReceivedWhisper = true ∧ c.settings.whisper.enabled = true ∧
          h.color = some c.settings.colors.whisper) := by
  intro h
  obtain ⟨d, standing, resolved⟩ : ∃ d, Standing c m d ∧ h = d.toHighlight := resolveStanding c m
  rw [resolved]
  refine ⟨⟨standing.colorless, fun empty => by rw [empty]⟩, standing.shown, ?_, ?_⟩
  · intro actionable
    refine Option.isSome_iff_ne_none.mpr fun none => ?_
    rw [standing.colorless none] at actionable
    simp at actionable
  · intro quiet something
    obtain ⟨applies, color⟩ := standing.quietOrigin quiet something
    obtain ⟨received, enabled⟩ := Bool.and_eq_true_iff.mp applies
    exact ⟨received, enabled, color⟩

def silentWhispers : Context := .create { whisper := { enabled := true } } none

-- A private message that neither alerts nor has a sound, and still has something to show.
theorem whisperColored :
    (resolve silentWhispers (greeting [.whisper])).highlighted = false ∧
      (resolve silentWhispers (greeting [.whisper])).isActionable = false ∧
      (resolve silentWhispers (greeting [.whisper])).color = some silentWhispers.settings.colors.whisper := by
  obtain ⟨-, -, -, whisper⟩ := resolveColored silentWhispers (greeting [.whisper])
  exact ⟨by decide, by decide, (whisper (by decide) (by decide)).2.2⟩

end Scrollback.Highlight
