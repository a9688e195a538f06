import Scrollback.Proofs.Highlight.Sources

/-! What a highlight is resolved from, and what is left of a message that it marks. No source of
highlights looks at a mark, and marks are only ever added, so a message that was marked is resolved
as before and is not changed by marking it again. -/
namespace Scrollback.Highlight

-- Two messages in which the sources of highlights see the same.
structure ReadAlike (m n : Message) : Prop where
  subscription : m.has .subscription = n.has .subscription
  whisper : m.has .whisper = n.has .whisper
  direction : m.direction = n.direction
  author : m.author = n.author
  text : m.text = n.text
  badges : m.badges = n.badges

section Read
variable {m n : Message} (same : ReadAlike m n) (c : Context)
include same

theorem usersRead (rs : List Rule) (d : Draft) : users c m rs d = users c n rs d := by
  induction rs generalizing d with
  | nil => rfl
  | cons r rest ih => simp only [users, same.author, ih]

theorem phrasesRead (rs : List Rule) (d : Draft) : phrases c m rs d = phrases c n rs d := by
  induction rs generalizing d with
  | nil => rfl
  | cons r rest ih => simp only [phrases, same.text, ih]

theorem stageRead (s : Stage) (d : Draft) : s.run c m d = s.run c n d := by
  cases s with
  | subscription => simp only [Stage.run, subscription, same.subscription]
  | blocked => simp only [Stage.run, blocked, same.author]
  | whisper =>
    have received : m.isReceivedWhisper = n.isReceivedWhisper := by
      rw [Message.isReceivedWhisper, same.whisper, same.direction]
      rfl
    simp only [Stage.run, whisper, received]
  | users => simp only [Stage.run, usersRead same]
  | ownMessage => simp only [Stage.run, ownMessage, same.author]
  | phrases => simp only [Stage.run, phrasesRead same]
  | badges => simp only [Stage.run, badges, badgeMatches, same.badges]

theorem draftRead (stages : List Stage) (d : Draft) :
    draftFrom c m stages d = draftFrom c n stages d := by
  induction stages generalizing d with
  | nil => rfl
  | cons s rest ih =>
    rw [draftFrom, draftFrom, stageRead same]
    cases s.run c n d with
    | next e => exact ih e
    | done e => rfl

theorem resolveRead : resolve c m = resolve c n := by
  rw [resolve, draft, draftRead same, resolve, draft]

end Read

-- What a message keeps when it is marked.
structure Kept (m marked : Message) : Prop where
  timestamp : marked.timestamp = m.timestamp
  direction : marked.direction = m.direction
  channel : marked.channel = m.channel
  author : marked.author = m.author
  text : marked.text = m.text
  badges : marked.badges = m.badges
  links : marked.links = m.links
  others : ∀ f, f ≠ .highlighted → f ≠ .showInMentions → marked.has f = m.has f
  flags : ∀ f, m.has f = true → marked.has f = true
  color : m.color.isSome = true → marked.color.isSome = true

theorem applyHas (h : Highlight) (m : Message) (f : Flag) :
    (h.apply m).has f =
      (m.has f || h.highlighted && decide (Flag.highlighted = f) ||
        h.showInMentions && decide (Flag.showInMentions = f)) := by
  unfold apply Message.has
  cases h.highlighted <;> cases h.showInMentions <;> simp

theorem applyKept (h : Highlight) (m : Message) : Kept m (h.apply m) where
  timestamp := rfl
  direction := rfl
  channel := rfl
  author := rfl
  text := rfl
  badges := rfl
  links := rfl
  others f highlighted mention := by
    rw [applyHas]
    simp [Ne.symm highlighted, Ne.symm mention]
  flags f there := by
    rw [applyHas]
    simp [there]
  color there := by
    have painted : (h.apply m).color = (h.color <|> m.color) := rfl
    rw [painted]
    cases h.color <;> simp [there]

theorem Kept.readAlike {m marked : Message} (kept : Kept m marked) : ReadAlike marked m where
  subscription := kept.others _ (by decide) (by decide)
  whisper := kept.others _ (by decide) (by decide)
  direction := kept.direction
  author := kept.author
  text := kept.text
  badges := kept.badges

theorem applyTwice (h : Highlight) (m : Message) : h.apply (h.apply m) = h.apply m := by
  have flags : (h.apply (h.apply m)).flags = (h.apply m).flags := by
    have absorbed (a b c : Bool) : (a || b || c || b || c) = (a || b || c) := by
      cases a <;> cases b <;> cases c <;> rfl
    refine Flags.eq_of_has fun f => ?_
    calc (h.apply (h.apply m)).has f
        = ((h.apply m).has f || h.highlighted && decide (Flag.highlighted = f) ||
            h.showInMentions && decide (Flag.showInMentions = f)) := applyHas h (h.apply m) f
      _ = (h.apply m).has f := by rw [applyHas h m, absorbed]
  have color : (h.apply (h.apply m)).color = (h.apply m).color := by
    simp only [apply]
    cases h.color <;> rfl
  calc h.apply (h.apply m)
      = { h.apply m with
          flags := (h.apply (h.apply m)).flags, color := (h.apply (h.apply m)).color } := rfl
    _ = h.apply m := by rw [flags, color]

/-- Messages in which the sources of highlights see the same are resolved alike. A mark, of whatever
highlight, is not seen, so a message can be marked once or twice, and it takes nothing away. -/
theorem marksSteady (c : Context) (m : Message) :
    (∀ n, ReadAlike n m → resolve c n = resolve c m) ∧
      (∀ h : Highlight, Kept m (h.apply m) ∧ resolve c (h.apply m) = resolve c m) ∧
      c.mark m = ((resolve c m).apply m, resolve c m) ∧
      c.mark (c.mark m).1 = c.mark m := by
  refine ⟨fun n same => resolveRead same c, fun h => ?_, rfl, ?_⟩
  · exact ⟨applyKept h m, resolveRead (applyKept h m).readAlike c⟩
  · have again : resolve c (c.mark m).1 = resolve c m :=
      resolveRead (applyKept (resolve c m) m).readAlike c
    rw [Context.mark, again]
    simp only [Context.mark, applyTwice]

-- A subscription of the same author in another channel, at another time and marked already.
def elsewhere : Message :=
  { greeting [.subscription] with
    timestamp := ⟨60, 0⟩, channel := "#a", color := some ⟨1, 0, 0⟩
    flags := .ofList [.subscription, .highlighted, .reply] }

def listed : Context := .create {
  subscription := { enabled := true, alert := true }
  users := [{ letterRule 'a' { sound := true } with showInMentions := true }] } none

theorem subscriptionSteady :
    ReadAlike elsewhere (greeting [.subscription]) ∧
      resolve listed elsewhere = resolve listed (greeting [.subscription]) ∧
      (resolve listed elsewhere).showInMentions = true ∧
      listed.mark (listed.mark elsewhere).1 = listed.mark elsewhere ∧
      (listed.mark elsewhere).1.has .reply = true ∧
      (listed.mark elsewhere).1.color.isSome = true := by
  have same : ReadAlike elsewhere (greeting [.subscription]) :=
    ⟨by decide, by decide, rfl, rfl, rfl, rfl⟩
  obtain ⟨read, -⟩ := marksSteady listed (greeting [.subscription])
  obtain ⟨-, applied, -, again⟩ := marksSteady listed elsewhere
  have kept : Kept elsewhere (listed.mark elsewhere).1 := (applied (resolve listed elsewhere)).1
  exact ⟨same, read _ same, by decide, again, kept.flags _ (by decide), kept.color rfl⟩

end Scrollback.Highlight
