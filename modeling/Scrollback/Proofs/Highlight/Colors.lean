import Scrollback.Proofs.Highlight.Sources

/-! The colour of a highlight and whether it is shown among the mentions. A subscription keeps its
colour. Without one each source paints over those before it, but of the rules for badges only the
first paints. -/
namespace Scrollback.Highlight

namespace Source

def color? (c : Context) : Source → Option Color
  | .subscription => some c.settings.colors.subscription
  | .whisper => some c.settings.colors.whisper
  | .user r => some (c.colorOf r.color)
  | .phrase r => some (c.colorOf r.color)
  | .badge first r => if first then some (c.colorOf r.color) else none

def shows : Source → Bool
  | .user r => r.showInMentions
  | .phrase r => r.showInMentions
  | _ => false

def claims : Source → Bool
  | .subscription => true
  | _ => false

end Source

theorem setColorClaimed (d : Draft) (color : Color) :
    (d.setColor color).colorClaimed = d.colorClaimed := by
  rw [Draft.colorWhole]

theorem setColorColor (d : Draft) (color : Color) :
    (d.setColor color).color = if d.colorClaimed then d.color else some color := by
  rw [Draft.colorWhole]

theorem takeShows (c : Context) (d : Draft) (s : Source) :
    (take c d s).showInMentions = (d.showInMentions || s.shows) := by
  rcases s with _ | _ | r | r | ⟨first, r⟩
  · simp [take, Draft.react, Source.shows]
  · simp [take, Draft.react, Source.shows, Draft.colorWhole]
  · simp [take, Draft.react, Source.shows, applyRule]
  · simp [take, Draft.complement, Source.shows, applyRule]
  · cases first <;> simp [take, Draft.complement, Source.shows, paint, Draft.colorWhole]

theorem takeAllShows (c : Context) (d : Draft) (ss : List Source) :
    (takeAll c d ss).showInMentions = (d.showInMentions || ss.any Source.shows) := by
  induction ss generalizing d with
  | nil => simp [takeAll]
  | cons s ss ih =>
    rw [takeAll, List.foldl_cons, ← takeAll, ih, takeShows, List.any_cons, Bool.or_assoc]

theorem takeClaimed {s : Source} (free : s.claims = false) (c : Context) (d : Draft) :
    (take c d s).colorClaimed = d.colorClaimed := by
  rcases s with _ | _ | r | r | ⟨first, r⟩
  · contradiction
  · exact setColorClaimed _ _
  · exact setColorClaimed _ _
  · exact setColorClaimed _ _
  · cases first
    · rfl
    · exact setColorClaimed _ _

theorem takeColor {s : Source} (free : s.claims = false) (c : Context) (d : Draft) :
    (take c d s).color = if d.colorClaimed then d.color else (s.color? c).or d.color := by
  rcases s with _ | _ | r | r | ⟨first, r⟩
  · contradiction
  · exact setColorColor _ _
  · exact setColorColor _ _
  · exact setColorColor _ _
  · cases first
    · exact (ite_self _).symm
    · exact setColorColor _ _

theorem takeAllColor {c : Context} {ss : List Source} (free : ∀ s ∈ ss, s.claims = false)
    (d : Draft) :
    (takeAll c d ss).color =
      if d.colorClaimed then d.color else (ss.filterMap (·.color? c)).getLast?.or d.color := by
  cases claimed : d.colorClaimed with
  | true =>
    have step (s : Source) (member : s ∈ ss) (d : Draft) (claimed : d.colorClaimed = true) :
        (take c d s).colorClaimed = true ∧ (take c d s).color = Option.none.or d.color := by
      rw [takeClaimed (free s member), takeColor (free s member), claimed]
      exact ⟨rfl, rfl⟩
    rw [lastWins (fun d => d.color) step claimed, List.filterMap_eq_nil_iff.mpr fun _ _ => rfl]
    rfl
  | false =>
    have step (s : Source) (member : s ∈ ss) (d : Draft) (unclaimed : d.colorClaimed = false) :
        (take c d s).colorClaimed = false ∧ (take c d s).color = (s.color? c).or d.color := by
      rw [takeClaimed (free s member), takeColor (free s member), unclaimed]
      exact ⟨rfl, rfl⟩
    exact lastWins (fun d => d.color) step claimed

theorem badgesColor (c : Context) (rs : List BadgeRule) :
    (badgeSources rs).filterMap (·.color? c) =
      (rs.head?.map fun r => c.colorOf r.color).toList := by
  cases rs with
  | nil => rfl
  | cons r rs => simp [badgeSources, Source.color?, List.filterMap_map]

theorem badgesShow (rs : List BadgeRule) : (badgeSources rs).any Source.shows = false := by
  cases rs with
  | nil => rfl
  | cons r rs => simp [badgeSources, Source.shows]

theorem rulesColor (c : Context) (make : Rule → Source)
    (paints : ∀ r, (make r).color? c = some (c.colorOf r.color)) (rs : List Rule) :
    (rs.map make).filterMap (·.color? c) = rs.map fun r => c.colorOf r.color := by
  have each : (fun s => s.color? c) ∘ make = some ∘ fun r => c.colorOf r.color := funext paints
  rw [List.filterMap_map, each, List.filterMap_eq_map]

-- The sources of a cascade but for a subscription.
def unclaimed (c : Context) (m : Message) : List Source :=
  (if whispered c m then [.whisper] else []) ++ (takenUsers c m).map .user ++ late c m

theorem cascadeClaimed (c : Context) (m : Message) :
    cascade c m = (if subscribed c m then [.subscription] else []) ++ unclaimed c m := by
  simp only [cascade, early, openers, unclaimed, List.append_assoc]

theorem unclaimedFree (c : Context) (m : Message) : ∀ s ∈ unclaimed c m, s.claims = false := by
  intro s member
  simp only [unclaimed, List.mem_append] at member
  rcases member with (whisper | user) | late
  · split at whisper
    · rw [List.mem_singleton.mp whisper]
      rfl
    · contradiction
  · obtain ⟨r, -, rfl⟩ := List.mem_map.mp user
    rfl
  · rcases lateOnly late with ⟨r, rfl⟩ | ⟨first, r, rfl⟩ <;> rfl

theorem cascadeShows (c : Context) (m : Message) :
    (held c (cascade c m)).showInMentions =
      ((takenUsers c m).any (·.showInMentions) || (takenPhrases c m).any (·.showInMentions)) := by
  have openers : (openers c m).any Source.shows = false := by
    rw [List.any_eq_false]
    intro s member
    rcases openersOnly member with rfl | rfl <;> exact Bool.false_ne_true
  rw [held, takeAllShows, cascade, early, late, List.any_append, List.any_append, List.any_append,
    openers, badgesShow, List.any_map, List.any_map]
  simp only [Bool.false_or, Bool.or_false]
  rfl

theorem unclaimedColor (c : Context) (m : Message) :
    ((unclaimed c m).filterMap (·.color? c)).getLast? =
      (((takenBadges c m).head?.map fun r => c.colorOf r.color).or <|
        ((takenPhrases c m).getLast?.map fun r => c.colorOf r.color).or <|
          ((takenUsers c m).getLast?.map fun r => c.colorOf r.color).or <|
            if whispered c m then some c.settings.colors.whisper else none) := by
  have whisper : ((if whispered c m then [Source.whisper] else []).filterMap
      (·.color? c)).getLast? = if whispered c m then some c.settings.colors.whisper else none := by
    split <;> rfl
  rw [unclaimed, late, List.filterMap_append, List.filterMap_append, List.filterMap_append,
    rulesColor c .user (fun _ => rfl), rulesColor c .phrase (fun _ => rfl), badgesColor,
    List.getLast?_append, List.getLast?_append, List.getLast?_append, whisper, List.getLast?_map,
    List.getLast?_map, Option.or_assoc]
  cases (takenBadges c m).head? <;> rfl

theorem cascadeColor (c : Context) (m : Message) :
    (held c (cascade c m)).color =
      if subscribed c m then some c.settings.colors.subscription
      else
        ((takenBadges c m).head?.map fun r => c.colorOf r.color).or <|
          ((takenPhrases c m).getLast?.map fun r => c.colorOf r.color).or <|
            ((takenUsers c m).getLast?.map fun r => c.colorOf r.color).or <|
              if whispered c m then some c.settings.colors.whisper else none := by
  rw [cascadeClaimed, held, takeAllAppend, takeAllColor (unclaimedFree c m), unclaimedColor]
  cases subscribed c m with
  | true => rfl
  | false => exact Option.or_none

/-- A highlight is shown among the mentions if a rule for users or phrases that is asked wants that.
Its colour is that of the subscription, or else of the first rule for badges, of the last rule for
phrases or the last for users that is asked, or of the private message, in this order. A rule
without a colour has that for highlights in general. The rule for the name of the local user comes
after the other rules for phrases. -/
theorem resolveColor {c : Context} {m : Message}
    (unblocked : c.settings.isBlocked m.author = false) :
    let s := c.settings
    let subscribes := m.has .subscription && s.subscription.enabled
    let whispers := m.isReceivedWhisper && s.whisper.enabled
    let started := (({} : Switches).addIf subscribes s.subscription.toReaction).addIf whispers
      s.whisper.toReaction
    let users := processed started (s.users.filter (·.accepts m.author))
    let stopped := settles started users || c.nick.any (Text.sameName · m.author)
    let phrases :=
      if stopped then []
      else
        processed (started.addAll users)
          ((s.phrases ++ c.nickRule.toList).filter (·.accepts m.text))
    let badges := if stopped then [] else s.badges.filter fun r => m.badges.any r.accepts
    let painted (color : Option Color) := color.getD s.colors.highlight
    (resolve c m).showInMentions =
        (users.any (·.showInMentions) || phrases.any (·.showInMentions)) ∧
      (resolve c m).color =
        if subscribes then some s.colors.subscription
        else
          (badges.head?.map (painted ·.color)).or <|
            (phrases.getLast?.map (painted ·.color)).or <|
              (users.getLast?.map (painted ·.color)).or <|
                if whispers then some s.colors.whisper else none := by
  intro s subscribes whispers started users stopped phrases badges painted
  rw [resolveHeld unblocked]
  exact ⟨cascadeShows c m, cascadeColor c m⟩

-- The first rule for phrases completes the highlight, so the second is not asked, but badges are.
def paintedBadge : Context := .create {
  users := [{ letterRule 'a' { alert := true } with color := some ⟨1, 0, 0⟩ }]
  phrases := [
    { letterRule 'h' { sound := true } with color := some ⟨2, 0, 0⟩ },
    { letterRule 'i' {} with color := some ⟨3, 0, 0⟩, showInMentions := true }]
  badges := [{ badge := .ofText "moderator", color := some ⟨4, 0, 0⟩ }] } none

-- A rule for phrases without a colour, and the rule for the name of the local user after it.
def paintedName (phrase : Reaction) : Context := .create {
  ownNick := { enabled := true, showInMentions := true }
  users := [{ letterRule 'a' {} with color := some ⟨1, 0, 0⟩ }]
  phrases := [letterRule 'h' phrase]
  colors := { highlight := ⟨2, 0, 0⟩, ownNick := ⟨3, 0, 0⟩ } } (some "HI")

/- The rule for badges paints; the rule for phrases does, where it completes the highlight; and the
rule for the name, where it is asked. -/
theorem rulesPaint :
    paintedBadge.settings.isBlocked (greeting []).author = false ∧
      (resolve paintedBadge (greeting [])).showInMentions = false ∧
      (resolve paintedBadge (greeting [])).color = some ⟨4, 0, 0⟩ ∧
      (resolve (paintedName { alert := true, sound := true }) (greeting [])).showInMentions =
        false ∧
      (resolve (paintedName { alert := true, sound := true }) (greeting [])).color =
        some ⟨2, 0, 0⟩ ∧
      (resolve (paintedName {}) (greeting [])).showInMentions = true ∧
      (resolve (paintedName {}) (greeting [])).color = some ⟨3, 0, 0⟩ := by
  have unblocked : paintedBadge.settings.isBlocked (greeting []).author = false := by decide
  obtain ⟨shown, color⟩ := resolveColor unblocked
  have free (phrase : Reaction) :
      (paintedName phrase).settings.isBlocked (greeting []).author = false := rfl
  obtain ⟨phraseShown, phraseColor⟩ := resolveColor (free { alert := true, sound := true })
  obtain ⟨nameShown, nameColor⟩ := resolveColor (free {})
  exact ⟨unblocked, shown.trans (by decide), color.trans (by decide),
    phraseShown.trans (by decide +kernel), phraseColor.trans (by decide +kernel),
    nameShown.trans (by decide +kernel), nameColor.trans (by decide +kernel)⟩

end Scrollback.Highlight
