import Scrollback.Proofs.Highlight.Sources

/-! Which source the sound of a highlight comes from. Up to the rules for users a source plays its
sound in place of one that is already there, and from the rules for phrases on only if there is
none; so the last of the former counts, and after them the first of the latter. -/
namespace Scrollback.Highlight

-- Whether the sound of a source comes before one that is already there.
def Source.overrides : Source → Bool
  | .subscription | .whisper | .user _ => true
  | .phrase _ | .badge _ _ => false

def soundOf (r : Reaction) : Sound := .ofUrl? r.soundUrl

theorem soundAsked (r : Reaction) : r.sound? = if r.sound then some (soundOf r) else none := rfl

theorem takeSound (c : Context) (d : Draft) (s : Source) :
    (take c d s).sound =
      if s.overrides then (s.reaction c).sound?.or d.sound
      else d.sound.or (s.reaction c).sound? := by
  rcases s with _ | _ | r | r | ⟨first, r⟩
  · simp [take, Draft.react, Source.overrides]
  · simp [take, Draft.react, Source.overrides, Draft.colorWhole]
  · simp [take, Draft.react, Source.overrides, applyRule, Draft.colorWhole]
  · simp [take, Draft.complement, Source.overrides, applyRule, Draft.colorWhole]
  · cases first <;> simp [take, Draft.complement, Source.overrides, paint, Draft.colorWhole]

theorem soundsGiven (rs : List Reaction) :
    rs.filterMap Reaction.sound? = (rs.filter (·.sound)).map soundOf := by
  induction rs with
  | nil => rfl
  | cons r rs ih =>
    rw [List.filterMap_cons, soundAsked, List.filter_cons, ih]
    cases r.sound <;> rfl

theorem lastSound {c : Context} {ss : List Source} (plays : ∀ s ∈ ss, s.overrides = true)
    (d : Draft) :
    (takeAll c d ss).sound =
      (((ss.map (·.reaction c)).filter (·.sound)).getLast?.map soundOf).or d.sound := by
  have step (s : Source) (member : s ∈ ss) (d : Draft) (_ : True) :
      True ∧ (take c d s).sound = (s.reaction c).sound?.or d.sound :=
    ⟨trivial, (takeSound c d s).trans (if_pos (plays s member))⟩
  rw [lastWins (fun d => d.sound) step trivial, ← List.getLast?_map, ← soundsGiven,
    List.filterMap_map]
  rfl

theorem firstSound {c : Context} {ss : List Source} (fill : ∀ s ∈ ss, s.overrides = false)
    (d : Draft) :
    (takeAll c d ss).sound =
      d.sound.or (((ss.map (·.reaction c)).find? (·.sound)).map soundOf) := by
  induction ss generalizing d with
  | nil => exact Option.or_none.symm
  | cons s ss ih =>
    have here := fill s List.mem_cons_self
    have ih := ih (fun t later => fill t (List.mem_cons_of_mem s later)) (take c d s)
    rw [takeAll, List.foldl_cons, ← takeAll, ih, takeSound, here, soundAsked, List.map_cons,
      List.find?_cons]
    cases (s.reaction c).sound with
    | false => simp
    | true => simp

theorem processedSound {w : Switches} (silent : w.sound = false) (rs : List Rule) :
    (processed w rs).find? (·.sound) = rs.find? (·.sound) := by
  induction rs generalizing w with
  | nil => rfl
  | cons r rs ih =>
    cases sound : r.sound with
    | true => simp only [processed, List.find?_cons, sound]
    | false =>
      have still : (w.add r.toReaction).sound = false := by simp [Switches.add, silent, sound]
      have more : (w.add r.toReaction).both = false := by simp [Switches.both, still]
      simp only [processedMore more, List.find?_cons, sound, ih still]

theorem settlesBoth {w : Switches} {rs : List Rule} (settled : settles w (processed w rs) = true) :
    (w.addAll (processed w rs)).both = true := by
  induction rs generalizing w with
  | nil => contradiction
  | cons r rs ih =>
    cases both : (w.add r.toReaction).both with
    | true =>
      rw [processedLast both]
      exact both
    | false =>
      rw [processedMore both] at settled ⊢
      rw [settles, both, Bool.false_or] at settled
      exact ih settled

/- The last rule for users with a sound that is asked, or else the private message or the
subscription. -/
def earlySource? (c : Context) (m : Message) : Option Reaction :=
  let s := c.settings
  (((takenUsers c m).filter (·.sound)).getLast?.map Rule.toReaction).or <|
    (if whispered c m && s.whisper.sound then some s.whisper.toReaction else none).or
      (if subscribed c m && s.subscription.sound then some s.subscription.toReaction else none)

-- The first rule for phrases with a sound that applies, or else the first for badges.
def lateSource? (c : Context) (m : Message) : Option Reaction :=
  (((phraseRules c m).find? (·.sound)).map Rule.toReaction).or
    (((badgeRules c m).find? (·.sound)).map BadgeRule.toReaction)

def soundSource? (c : Context) (m : Message) : Option Reaction :=
  (earlySource? c m).or (if c.isOwn m.author then none else lateSource? c m)

theorem openersSource (c : Context) (m : Message) :
    (((openers c m).map (·.reaction c)).filter (·.sound)).getLast? =
      (if whispered c m && c.settings.whisper.sound then some c.settings.whisper.toReaction
        else none).or
      (if subscribed c m && c.settings.subscription.sound then
        some c.settings.subscription.toReaction else none) := by
  rw [openers]
  cases subscribed c m <;> cases whispered c m <;> cases whisper : c.settings.whisper.sound <;>
    cases subscription : c.settings.subscription.sound <;>
    simp [Source.reaction, whisper, subscription]

theorem badgeReactions (c : Context) (rs : List BadgeRule) :
    (badgeSources rs).map (·.reaction c) = rs.map BadgeRule.toReaction := by
  cases rs with
  | nil => rfl
  | cons r rs =>
    rw [badgeSources, List.map_cons, List.map_map, List.map_cons]
    rfl

theorem earlySound (c : Context) (m : Message) :
    (held c (early c m)).sound = (earlySource? c m).map soundOf := by
  have plays : ∀ s ∈ early c m, s.overrides = true := by
    intro s member
    rcases List.mem_append.mp member with first | user
    · rcases openersOnly first with rfl | rfl <;> rfl
    · obtain ⟨r, -, rfl⟩ := List.mem_map.mp user
      rfl
  have users : ((takenUsers c m).map Source.user).map (·.reaction c) =
      (takenUsers c m).map Rule.toReaction := List.map_map
  rw [held, lastSound plays, early, List.map_append, users, List.filter_append,
    List.getLast?_append, List.filter_map, List.getLast?_map, openersSource]
  exact Option.or_none

theorem lateFills (c : Context) (m : Message) : ∀ s ∈ late c m, s.overrides = false := by
  intro s member
  rcases lateOnly member with ⟨r, rfl⟩ | ⟨first, r, rfl⟩ <;> rfl

theorem lateSound (c : Context) (m : Message) (d : Draft) :
    (takeAll c d (late c m)).sound = d.sound.or
      ((((takenPhrases c m).find? (·.sound)).map Rule.toReaction).or
        (((takenBadges c m).find? (·.sound)).map BadgeRule.toReaction) |>.map soundOf) := by
  have phrases : ((takenPhrases c m).map Source.phrase).map (·.reaction c) =
      (takenPhrases c m).map Rule.toReaction := List.map_map
  rw [firstSound (lateFills c m), late, List.map_append, phrases, badgeReactions, List.find?_append,
    List.find?_map, List.find?_map]
  rfl

/- If there is no sound before the rules for phrases, no rule for users has stopped the cascade, and
the rules for phrases are asked at least up to the first that has a sound. -/
theorem silentSource {c : Context} {m : Message} (silent : (held c (early c m)).sound = none) :
    (((takenPhrases c m).find? (·.sound)).map Rule.toReaction).or
        (((takenBadges c m).find? (·.sound)).map BadgeRule.toReaction) =
      if c.isOwn m.author then none else lateSource? c m := by
  have off : ((opened c m).addAll (takenUsers c m)).sound = false := by
    rw [← earlySwitches, Draft.switches, silent]
    rfl
  have further : settles (opened c m) (takenUsers c m) = false := by
    refine Bool.eq_false_iff.mpr fun settled => ?_
    have both : ((opened c m).addAll (takenUsers c m)).both = true := settlesBoth settled
    rw [Switches.both, off, Bool.and_false] at both
    contradiction
  rw [takenPhrases, takenBadges, stopped, further, Bool.false_or, lateSource?]
  split
  · rfl
  · rw [processedSound off]

theorem cascadeSound (c : Context) (m : Message) :
    (held c (cascade c m)).sound = (soundSource? c m).map soundOf := by
  have first := earlySound c m
  rw [cascade, held, takeAllAppend, ← held, lateSound, first, ← Option.map_or, soundSource?]
  refine congrArg (Option.map soundOf) ?_
  cases source : earlySource? c m with
  | some r => rfl
  | none =>
    rw [source] at first
    exact congrArg (Option.or none) (silentSource first)

/-- The sound of a highlight is that of the last rule for users with a sound that is asked; or else
of the private message, of the subscription, of the first rule for phrases or of the first for
badges with a sound, in this order. Rules for phrases and badges leave out the local user, and the
rule for the name of the local user comes after the other rules for phrases. -/
theorem resolveSound {c : Context} {m : Message}
    (unblocked : c.settings.isBlocked m.author = false) :
    let s := c.settings
    let subscribes := m.has .subscription && s.subscription.enabled
    let whispers := m.isReceivedWhisper && s.whisper.enabled
    let started := (({} : Switches).addIf subscribes s.subscription.toReaction).addIf whispers
      s.whisper.toReaction
    let users := processed started (s.users.filter (·.accepts m.author))
    let own := c.nick.any (Text.sameName · m.author)
    let phrases := (s.phrases ++ c.nickRule.toList).filter (·.accepts m.text)
    let badges := s.badges.filter fun r => m.badges.any r.accepts
    let source : Option Reaction :=
      ((users.filter (·.sound)).getLast?.map (·.toReaction)).or <|
        (if whispers && s.whisper.sound then some s.whisper.toReaction else none).or <|
          (if subscribes && s.subscription.sound then some s.subscription.toReaction
            else none).or <|
            if own then none
            else
              ((phrases.find? (·.sound)).map (·.toReaction)).or
                ((badges.find? (·.sound)).map (·.toReaction))
    (resolve c m).sound = source.map fun r =>
      match r.soundUrl with
      | some url => .custom url
      | none => .fallback := by
  intro s subscribes whispers started users own phrases badges source
  have spelled : (fun r : Reaction => match r.soundUrl with
      | some url => Sound.custom url
      | none => .fallback) = soundOf := by
    funext r
    rw [soundOf]
    cases r.soundUrl <;> rfl
  have same : soundSource? c m = source := by
    rw [soundSource?, earlySource?, Option.or_assoc, Option.or_assoc]
    rfl
  rw [resolveHeld unblocked, cascadeSound, spelled, same]

-- Each of the first two rules has a sound, and the third is not asked.
def threeUserSounds : Context := .create {
  whisper := { enabled := true, sound := true }
  users := [
    letterRule 'n' { sound := true, soundUrl := some (soundFile "/first") },
    letterRule 'a' { alert := true, sound := true, soundUrl := some (soundFile "/second") },
    letterRule 'n' { sound := true, soundUrl := some (soundFile "/third") }] } none

-- Sounds of rules for phrases, of the rule for the name of the local user and of one for badges.
def phraseSounds (phrases : List Rule) : Context := .create {
  ownNick := { enabled := true, sound := true, soundUrl := some (soundFile "/name") }
  phrases
  badges := [{
    badge := .ofText "moderator", sound := true
    soundUrl := some (soundFile "/badge") }] } (some "HI")

def phraseSound : Rule := letterRule 'i' { sound := true, soundUrl := some (soundFile "/phrase") }

-- The last rule for users that is asked decides, a rule for phrases, and the rule for the name.
theorem rulesSound :
    threeUserSounds.settings.isBlocked (greeting [.whisper]).author = false ∧
      (resolve threeUserSounds (greeting [.whisper])).sound =
        some (.custom (soundFile "/second")) ∧
      (resolve (phraseSounds [letterRule 'h' { alert := true }, phraseSound]) (greeting [])).sound =
        some (.custom (soundFile "/phrase")) ∧
      (resolve (phraseSounds [letterRule 'h' { alert := true }]) (greeting [])).sound =
        some (.custom (soundFile "/name")) := by
  have unblocked : threeUserSounds.settings.isBlocked (greeting [.whisper]).author = false := by
    decide
  exact ⟨unblocked, (resolveSound unblocked).trans (by decide),
    (resolveSound rfl).trans (by decide +kernel), (resolveSound rfl).trans (by decide +kernel)⟩

end Scrollback.Highlight
