import Scrollback.Proofs.Highlight.Sounds

/-! Which sounds a highlight can ask for. Each was given by a source that was asked, and the sources
are in the settings but for one: the rule for the name of the local user is made from the settings,
with the sound that they have for it. So the addresses in the settings are all there are. -/
namespace Scrollback.Highlight

theorem takeGiver {c : Context} {d : Draft} {s : Source} {x : Sound}
    (found : (take c d s).sound = some x) :
    d.sound = some x ∨ (s.reaction c).sound? = some x := by
  rw [takeSound] at found
  split at found
  · rcases Option.or_eq_some_iff.mp found with given | ⟨-, there⟩
    · exact .inr given
    · exact .inl there
  · rcases Option.or_eq_some_iff.mp found with there | ⟨-, given⟩
    · exact .inl there
    · exact .inr given

theorem takeAllGiver {c : Context} {d : Draft} {ss : List Source} {x : Sound}
    (found : (takeAll c d ss).sound = some x) :
    d.sound = some x ∨ ∃ s ∈ ss, (s.reaction c).sound? = some x := by
  have step : ∀ s ∈ ss, ∀ e : Draft,
      (e.sound = some x → d.sound = some x ∨ ∃ s ∈ ss, (s.reaction c).sound? = some x) →
      (take c e s).sound = some x →
        d.sound = some x ∨ ∃ s ∈ ss, (s.reaction c).sound? = some x := by
    intro s member e before found
    rcases takeGiver found with there | given
    · exact before there
    · exact .inr ⟨s, member, given⟩
  exact takeAllKeeps step .inl found

theorem soundGiver {c : Context} {m : Message} {x : Sound} (asked : (resolve c m).sound = some x) :
    ∃ s : Source, s.Applies c m ∧ (s.reaction c).sound? = some x := by
  cases blocked : c.settings.isBlocked m.author with
  | true =>
    rw [resolveBlocked blocked] at asked
    contradiction
  | false =>
    rw [resolveHeld blocked] at asked
    rcases takeAllGiver asked with there | ⟨s, member, given⟩
    · contradiction
    · exact ⟨s, cascadeApplies member, given⟩

theorem customUrl {r : Reaction} {u : Url} (given : r.sound? = some (.custom u)) :
    r.soundUrl = some u := by
  rw [soundAsked] at given
  split at given
  · rw [Option.some.injEq, soundOf] at given
    cases url : r.soundUrl with
    | none =>
      rw [url] at given
      contradiction
    | some v =>
      rw [url] at given
      cases given
      rfl
  · contradiction

theorem nickReaction {s : Settings} {nick : Option String} {r : Rule}
    (made : (Context.create s nick).nickRule = some r) : r.toReaction = s.ownNick.toReaction := by
  obtain ⟨n, pattern, -, -, -, -, rfl⟩ := createNick.mp made
  rfl

namespace Settings

-- The reactions that the settings have, whatever they are to.
def reactions (s : Settings) : List Reaction :=
  [s.subscription.toReaction, s.whisper.toReaction, s.ownNick.toReaction]
    ++ s.users.map Rule.toReaction ++ s.phrases.map Rule.toReaction
    ++ s.badges.map BadgeRule.toReaction

theorem soundUrlsReactions (s : Settings) : s.soundUrls = s.reactions.filterMap (·.soundUrl) := by
  simp only [soundUrls, reactions, List.filterMap_append, List.filterMap_map]
  rfl

end Settings

theorem sourceReaction {s : Settings} {nick : Option String} {m : Message} {source : Source}
    (applies : source.Applies (Context.create s nick) m) :
    source.reaction (Context.create s nick) ∈ s.reactions := by
  simp only [Settings.reactions, List.mem_append, List.mem_cons]
  cases source with
  | subscription => exact .inl (.inl (.inl (.inl rfl)))
  | whisper => exact .inl (.inl (.inl (.inr (.inl rfl))))
  | user r =>
    have among : r ∈ s.users := (List.mem_filter.mp applies).1
    exact .inl (.inl (.inr (List.mem_map_of_mem among)))
  | phrase r =>
    rcases List.mem_append.mp (List.mem_filter.mp applies).1 with among | nick
    · exact .inl (.inr (List.mem_map_of_mem among))
    · refine .inl (.inl (.inl (.inr (.inr (.inl ?_)))))
      exact nickReaction (Option.mem_toList.mp nick)
  | badge first r =>
    have among : r ∈ s.badges := (List.mem_filter.mp applies).1
    exact .inr (List.mem_map_of_mem among)

/-- The address of any sound that a highlight asks for is among those of the settings, also where the
sound is that for the name of the local user. -/
theorem soundsListed {s : Settings} {nick : Option String} {m : Message} {u : Url}
    (asked : (resolve (Context.create s nick) m).sound = some (.custom u)) : u ∈ s.soundUrls := by
  obtain ⟨source, applies, given⟩ := soundGiver asked
  rw [Settings.soundUrlsReactions]
  exact List.mem_filterMap.mpr ⟨_, sourceReaction applies, customUrl given⟩

-- The rule for users has no sound, and the one for the name comes from no list of rules.
def namedSound : Settings where
  ownNick := { enabled := true, sound := true, soundUrl := some (soundFile "/name") }
  users := [letterRule 'a' { alert := true, soundUrl := some (soundFile "/user") }]

theorem nameSoundListed :
    (resolve (Context.create namedSound (some "HI")) (greeting [])).sound =
        some (.custom (soundFile "/name")) ∧
      soundFile "/name" ∈ namedSound.soundUrls := by
  have asked : (resolve (Context.create namedSound (some "HI")) (greeting [])).sound =
      some (.custom (soundFile "/name")) := by decide +kernel
  exact ⟨asked, soundsListed asked⟩

end Scrollback.Highlight
