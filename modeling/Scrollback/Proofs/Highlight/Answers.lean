import Scrollback.Highlight.Resolve

/-! Whether a message is highlighted, alerts and has a sound does not depend on the order in
which the sources of highlights are asked, nor on where the asking stops. Each source adds its
own answers to those of the others, and a stage that settles a highlight does so once nothing
can be added. Colours and the choice among sounds do depend on the order. -/
namespace Scrollback.Highlight

structure Answers where
  highlighted : Bool
  alert : Bool
  sound : Bool
  deriving DecidableEq, Repr

namespace Answers

def none : Answers := ⟨false, false, false⟩

def all : Answers := ⟨true, true, true⟩

def join (a b : Answers) : Answers :=
  ⟨a.highlighted || b.highlighted, a.alert || b.alert, a.sound || b.sound⟩

def joinAll (as : List Answers) : Answers := as.foldr join none

-- A source that highlights a message it applies to, and one that does not.
def marking (r : Reaction) : Answers := ⟨true, r.alert, r.sound⟩

def silent (r : Reaction) : Answers := ⟨false, r.alert, r.sound⟩

@[simp] theorem joinNone (a : Answers) : a.join none = a := by simp [join, none]

@[simp] theorem allJoin (a : Answers) : all.join a = all := by simp [join, all]

theorem joinAssoc (a b c : Answers) : (a.join b).join c = a.join (b.join c) := by
  simp [join, Bool.or_assoc]

@[simp] theorem joinAllNil : joinAll [] = none := rfl

@[simp] theorem joinAllCons (a : Answers) (as : List Answers) :
    joinAll (a :: as) = a.join (joinAll as) := rfl

theorem joinMarking {α : Type} (reaction : α → Reaction) (rs : List α) :
    joinAll (rs.map fun r => marking (reaction r)) =
      ⟨!rs.isEmpty, rs.any fun r => (reaction r).alert, rs.any fun r => (reaction r).sound⟩ := by
  induction rs with
  | nil => rfl
  | cons r rs ih =>
    rw [List.map_cons, joinAllCons, ih]
    simp [join, marking]

end Answers

open Answers (marking silent)

def answers (h : Highlight) : Answers := ⟨h.highlighted, h.alert, h.hasSound⟩

namespace Draft

theorem completeAnswers {d : Draft} (complete : d.isComplete = true)
    (highlighted : d.highlighted = true) : answers d.toHighlight = .all := by
  rw [isComplete, Bool.and_eq_true] at complete
  simp [answers, Answers.all, highlighted, complete.1, hasSound, complete.2]

theorem noteAnswers (d : Draft) (r : Remark) :
    answers (d.note r).toHighlight = answers d.toHighlight := rfl

end Draft

theorem soundGiven (r : Reaction) : r.sound?.isSome = r.sound := by
  unfold Reaction.sound?
  split <;> simp_all

theorem reactAnswers (d : Draft) (r : Reaction) :
    answers (d.react r).toHighlight = (answers d.toHighlight).join (silent r) := by
  simp [answers, Draft.react, Answers.join, silent, hasSound, Option.isSome_or, soundGiven,
    Bool.or_comm]

theorem complementAnswers (d : Draft) (r : Reaction) :
    answers (d.complement r).toHighlight = (answers d.toHighlight).join (silent r) := by
  simp [answers, Draft.complement, Answers.join, silent, hasSound, Option.isSome_or, soundGiven]

theorem applyAnswers (c : Context) (r : Rule) (d : Draft) :
    answers (applyRule c r d).toHighlight = (answers d.toHighlight).join ⟨true, false, false⟩ := by
  simp only [applyRule, Draft.setColor]
  split <;> simp [answers, Answers.join, hasSound]

theorem markingJoin (r : Reaction) (a : Answers) :
    (a.join ⟨true, false, false⟩).join (silent r) = a.join (marking r) := by
  simp [Answers.join, silent, marking]

def Flow.draft : Flow → Draft
  | .next d => d
  | .done d => d

/- The rules for users that apply, those for phrases, and those for badges. The rule for the name of
the local user comes after the rules for phrases. -/
def userRules (c : Context) (m : Message) : List Rule :=
  c.settings.users.filter (·.accepts m.author)

def phraseRules (c : Context) (m : Message) : List Rule :=
  (c.settings.phrases ++ c.nickRule.toList).filter (·.accepts m.text)

def badgeRules (c : Context) (m : Message) : List BadgeRule :=
  c.settings.badges.filter fun r => m.badges.any r.accepts

def rulesAnswers (rs : List Rule) : Answers := .joinAll (rs.map fun r => marking r.toReaction)

theorem acceptsOf {r : Rule} {text : String} {b : Option Bool} (h : r.pattern.test? text = b) :
    r.accepts text = (b == some true) := by
  rw [Rule.accepts, Pattern.accepts, Regex.isMatch]
  exact congrArg (· == some true) h

theorem rulesAnswersCons (r : Rule) (rs : List Rule) :
    rulesAnswers (r :: rs) = (marking r.toReaction).join (rulesAnswers rs) := rfl

/- A draft to which rules are left to be added. If it is complete they make no difference, which
is why a stage may stop there. -/
theorem completeStays {d : Draft} {before added rest : Answers} (complete : d.isComplete = true)
    (highlighted : d.highlighted = true) (here : answers d.toHighlight = before.join added) :
    answers d.toHighlight = before.join (added.join rest) := by
  rw [← Answers.joinAssoc, ← here, Draft.completeAnswers complete highlighted, Answers.allJoin]

theorem usersAnswers (c : Context) (m : Message) (rs : List Rule) (d : Draft) :
    answers (users c m rs d).draft.toHighlight =
      (answers d.toHighlight).join (rulesAnswers (rs.filter (·.accepts m.author))) := by
  induction rs generalizing d with
  | nil => simp [users, Flow.draft, rulesAnswers]
  | cons r rs ih =>
    rw [users, List.filter_cons]
    cases h : r.pattern.test? m.author with
    | none => simp only [ih, Draft.noteAnswers, acceptsOf h]; rfl
    | some found =>
      cases found with
      | false => simp only [ih, acceptsOf h]; rfl
      | true =>
        have here : answers ((applyRule c r (d.note .userRule)).react r.toReaction).toHighlight =
            (answers d.toHighlight).join (marking r.toReaction) := by
          rw [reactAnswers, applyAnswers, markingJoin, Draft.noteAnswers]
        simp only [acceptsOf h, beq_self_eq_true, if_true, rulesAnswersCons]
        split
        · rename_i complete
          exact completeStays complete rfl here
        · rw [ih, here, Answers.joinAssoc]

theorem usersDone {c : Context} {m : Message} {rs : List Rule} {d e : Draft}
    (done : users c m rs d = .done e) : answers e.toHighlight = .all := by
  induction rs generalizing d with
  | nil => simp [users] at done
  | cons r rs ih =>
    rw [users] at done
    split at done
    · exact ih done
    · exact ih done
    · dsimp only at done
      split at done
      · rename_i complete
        cases done
        exact Draft.completeAnswers complete rfl
      · exact ih done

theorem phrasesAnswers (c : Context) (m : Message) (rs : List Rule) (d : Draft) :
    answers (phrases c m rs d).toHighlight =
      (answers d.toHighlight).join (rulesAnswers (rs.filter (·.accepts m.text))) := by
  induction rs generalizing d with
  | nil => simp [phrases, rulesAnswers]
  | cons r rs ih =>
    rw [phrases, List.filter_cons]
    cases h : r.pattern.test? m.text with
    | none => simp only [ih, Draft.noteAnswers, acceptsOf h]; rfl
    | some found =>
      cases found with
      | false => simp only [ih, acceptsOf h]; rfl
      | true =>
        have here : answers ((applyRule c r d).complement r.toReaction).toHighlight =
            (answers d.toHighlight).join (marking r.toReaction) := by
          rw [complementAnswers, applyAnswers, markingJoin]
        simp only [acceptsOf h, beq_self_eq_true, if_true, rulesAnswersCons]
        split
        · rename_i complete
          exact completeStays complete rfl here
        · rw [ih, here, Answers.joinAssoc]

def badgesAnswers (rs : List BadgeRule) : Answers := .joinAll (rs.map fun r => marking r.toReaction)

theorem complementAllAnswers (rs : List BadgeRule) (d : Draft) (highlighted : d.highlighted = true) :
    answers (complementAll rs d).toHighlight =
      (answers d.toHighlight).join (badgesAnswers rs) := by
  induction rs generalizing d with
  | nil => simp [complementAll, badgesAnswers]
  | cons r rs ih =>
    have here : answers (d.complement r.toReaction).toHighlight =
        (answers d.toHighlight).join (marking r.toReaction) := by
      rw [complementAnswers]
      simp [answers, Answers.join, silent, marking, highlighted]
    rw [complementAll]
    split
    · rename_i complete
      exact completeStays complete highlighted here
    · rw [ih (d.complement r.toReaction) highlighted, here, Answers.joinAssoc]
      rfl

-- A rule is met once for each badge it applies to, which adds nothing to being met once.
theorem anyMatch (c : Context) (m : Message) (f : BadgeRule → Bool) :
    (badgeMatches c m).any f = (badgeRules c m).any f := by
  rw [badgeMatches, badgeRules, List.any_flatMap, List.any_filter]
  refine congrArg (List.any _ ·) (funext fun r => ?_)
  rw [List.any_map, Bool.eq_iff_iff]
  simp only [List.any_eq_true, List.mem_filter, Function.comp_apply, Bool.and_eq_true]
  exact ⟨fun ⟨b, applies, asks⟩ => ⟨⟨b, applies⟩, asks⟩, fun ⟨⟨b, applies⟩, asks⟩ => ⟨b, applies, asks⟩⟩

theorem emptyAny {α : Type} (l : List α) : (!l.isEmpty) = l.any fun _ => true := by
  cases l <;> simp

theorem matchesAnswers (c : Context) (m : Message) :
    badgesAnswers (badgeMatches c m) = badgesAnswers (badgeRules c m) := by
  rw [badgesAnswers, badgesAnswers, Answers.joinMarking BadgeRule.toReaction,
    Answers.joinMarking BadgeRule.toReaction, emptyAny, emptyAny, anyMatch, anyMatch, anyMatch]

theorem badgesStage (c : Context) (m : Message) (d : Draft) :
    answers (badges c m d).toHighlight =
      (answers d.toHighlight).join (badgesAnswers (badgeRules c m)) := by
  rw [← matchesAnswers, badges]
  split
  · rename_i h
    rw [h]
    simp [badgesAnswers]
  · rename_i r rest h
    have first : answers { d.setColor (c.colorOf r.color) with highlighted := true }.toHighlight =
        (answers d.toHighlight).join ⟨true, false, false⟩ := by
      unfold Draft.setColor
      split <;> simp [answers, Answers.join, hasSound]
    have marked : (⟨true, false, false⟩ : Answers).join (badgesAnswers (r :: rest)) =
        badgesAnswers (r :: rest) := by
      simp [badgesAnswers, Answers.join, marking]
    rw [complementAllAnswers _ _ rfl, h, first, Answers.joinAssoc, marked]

def subscribed (c : Context) (m : Message) : Bool :=
  m.has .subscription && c.settings.subscription.enabled

def whispered (c : Context) (m : Message) : Bool :=
  m.isReceivedWhisper && c.settings.whisper.enabled

def subscriptionAnswers (c : Context) (m : Message) : Answers :=
  if subscribed c m then marking c.settings.subscription.toReaction else .none

def whisperAnswers (c : Context) (m : Message) : Answers :=
  if whispered c m then silent c.settings.whisper.toReaction else .none

theorem subscriptionStage (c : Context) (m : Message) (d : Draft) :
    ∃ e, subscription c m d = .next e ∧
      answers e.toHighlight = (answers d.toHighlight).join (subscriptionAnswers c m) := by
  rw [subscription, subscriptionAnswers, subscribed]
  split
  · refine ⟨_, rfl, ?_⟩
    have reacted := reactAnswers d c.settings.subscription.toReaction
    simp only [answers, Answers.join, silent, Answers.mk.injEq] at reacted
    simp only [answers, Answers.join, marking, Answers.mk.injEq, Bool.or_true, true_and]
    exact reacted.2
  · exact ⟨d, rfl, (Answers.joinNone _).symm⟩

theorem whisperStage (c : Context) (m : Message) (d : Draft) :
    ∃ e, whisper c m d = .next e ∧
      answers e.toHighlight = (answers d.toHighlight).join (whisperAnswers c m) := by
  rw [whisper, whisperAnswers, whispered]
  split
  · refine ⟨_, rfl, ?_⟩
    rw [← reactAnswers, Draft.setColor]
    split <;> rfl
  · exact ⟨d, rfl, (Answers.joinNone _).symm⟩

theorem resolveBlocked {c : Context} {m : Message}
    (blocked : c.settings.isBlocked m.author = true) : resolve c m = {} := by
  obtain ⟨d, subscription, -⟩ := subscriptionStage c m {}
  simp only [resolve, draft, Stage.all, draftFrom, Stage.run, subscription, Highlight.blocked,
    blocked, if_true]
  rfl

-- The answers of all sources together.
def sourceAnswers (c : Context) (m : Message) : Answers :=
  (subscriptionAnswers c m).join <| (whisperAnswers c m).join <|
    (rulesAnswers (userRules c m)).join <|
      if c.isOwn m.author then .none
      else (rulesAnswers (phraseRules c m)).join (badgesAnswers (badgeRules c m))

/- The stages after those for users. They can only add to what the rules for users ask, so none of
them is missed where these rules ask for everything. -/
theorem lastStages (c : Context) (m : Message) (d : Draft) :
    answers (draftFrom c m [.users, .ownMessage, .phrases, .badges] d).toHighlight =
      (answers d.toHighlight).join ((rulesAnswers (userRules c m)).join <|
        if c.isOwn m.author then .none
        else (rulesAnswers (phraseRules c m)).join (badgesAnswers (badgeRules c m))) := by
  have asked := usersAnswers c m c.settings.users d
  simp only [draftFrom, Stage.run]
  cases h : users c m c.settings.users d with
  | done e =>
    rw [h, Flow.draft, ← userRules] at asked
    have all := usersDone h
    rw [← Answers.joinAssoc, ← asked, all, Answers.allJoin]
    exact all
  | next e =>
    rw [h, Flow.draft, ← userRules] at asked
    rw [← Answers.joinAssoc, ← asked]
    by_cases own : c.isOwn m.author = true
    · simp only [ownMessage, own, if_true, Draft.noteAnswers, Answers.joinNone]
    · simp only [ownMessage, own, if_false, Bool.false_eq_true]
      rw [badgesStage, phrasesAnswers, Context.phrases, ← phraseRules, Answers.joinAssoc]

theorem resolveUnblocked {c : Context} {m : Message}
    (unblocked : c.settings.isBlocked m.author = false) :
    answers (resolve c m) = sourceAnswers c m := by
  obtain ⟨d, subscription, subscribed⟩ := subscriptionStage c m {}
  obtain ⟨e, whisper, whispered⟩ := whisperStage c m d
  have first : draft c m = draftFrom c m [.users, .ownMessage, .phrases, .badges] e := by
    simp only [draft, Stage.all, draftFrom, Stage.run, subscription, Highlight.blocked, unblocked,
      Bool.false_eq_true, if_false, whisper]
  have nothing (a : Answers) : (answers ({} : Draft).toHighlight).join a = a := by
    simp [answers, Answers.join, hasSound]
  rw [resolve, first, lastStages, whispered, subscribed, nothing, sourceAnswers, Answers.joinAssoc]

theorem createOwn (s : Settings) (nick : Option String) (author : String) :
    (Context.create s nick).isOwn author =
      nick.any fun n => !n.isEmpty && Text.sameName n author := by
  cases nick with
  | none => rfl
  | some n => cases h : n.isEmpty <;> simp [Context.create, Context.isOwn, Option.filter, h]

/- The rule for the name of the local user. It is there if it is switched on and a pattern can be
made of the name as a word, in whatever case, and it has nothing that is not in the settings. -/
theorem createNick {s : Settings} {nick : Option String} {r : Rule} :
    (Context.create s nick).nickRule = some r ↔
      ∃ n pattern, nick = some n ∧ n ≠ "" ∧ s.ownNick.enabled = true ∧
        Pattern.ofWords [n] true = .ok pattern ∧
        r = {
          toReaction := s.ownNick.toReaction
          pattern
          color := some s.colors.ownNick
          showInMentions := s.ownNick.showInMentions } := by
  have made (n : String) : Context.ruleFor? s n = some r ↔
      s.ownNick.enabled = true ∧ ∃ pattern, Pattern.ofWords [n] true = .ok pattern ∧
        r = ⟨s.ownNick.toReaction, pattern, some s.colors.ownNick, s.ownNick.showInMentions⟩ := by
    rw [Context.ruleFor?]
    cases s.ownNick.enabled <;> cases Pattern.ofWords [n] true <;> simp [eq_comm]
  simp only [Context.create, Option.bind_eq_some_iff, Option.filter_eq_some_iff, made,
    Bool.not_eq_true', String.isEmpty_eq_false_iff]
  constructor
  · rintro ⟨n, ⟨given, named⟩, on, pattern, built, rfl⟩
    exact ⟨n, pattern, given, named, on, built, rfl⟩
  · rintro ⟨n, pattern, given, named, on, built, rfl⟩
    exact ⟨n, ⟨given, named⟩, on, pattern, built, rfl⟩

-- Whether some source asks for what a switch of its reaction stands for.
def asked (c : Context) (m : Message) (switch : Reaction → Bool) : Bool :=
  subscribed c m && switch c.settings.subscription.toReaction ||
    whispered c m && switch c.settings.whisper.toReaction ||
    ((userRules c m).any fun r => switch r.toReaction) ||
    !c.isOwn m.author &&
      (((phraseRules c m).any fun r => switch r.toReaction) ||
        (badgeRules c m).any fun r => switch r.toReaction)

theorem sourceAnswersAsked (c : Context) (m : Message) :
    sourceAnswers c m =
      { highlighted := subscribed c m || !(userRules c m).isEmpty ||
          !c.isOwn m.author && (!(phraseRules c m).isEmpty || !(badgeRules c m).isEmpty)
        alert := asked c m (·.alert)
        sound := asked c m (·.sound) } := by
  rw [sourceAnswers, rulesAnswers, rulesAnswers, badgesAnswers,
    Answers.joinMarking Rule.toReaction, Answers.joinMarking Rule.toReaction,
    Answers.joinMarking BadgeRule.toReaction, subscriptionAnswers, whisperAnswers]
  simp only [asked]
  cases subscribed c m <;> cases whispered c m <;> cases c.isOwn m.author <;>
    simp [Answers.join, Answers.none, marking, silent, Bool.or_assoc]

/- What there is to say about a message no matter in which order its sources are asked. A name
without letters is nobody's, and the rules for phrases include the one for the user's name. -/
theorem resolveAnswers (s : Settings) (nick : Option String) (m : Message) :
    let c := Context.create s nick
    let own := nick.any fun n => !n.isEmpty && Text.sameName n m.author
    let users := s.users.filter (·.accepts m.author)
    let phrases := (s.phrases ++ c.nickRule.toList).filter (·.accepts m.text)
    let badges := s.badges.filter fun r => m.badges.any r.accepts
    let asked (switch : Reaction → Bool) :=
      m.has .subscription && s.subscription.enabled && switch s.subscription.toReaction ||
        m.isReceivedWhisper && s.whisper.enabled && switch s.whisper.toReaction ||
        users.any (switch ·.toReaction) ||
        !own && (phrases.any (switch ·.toReaction) || badges.any (switch ·.toReaction))
    if s.isBlocked m.author then resolve c m = {}
    else
      (resolve c m).highlighted =
          (m.has .subscription && s.subscription.enabled || !users.isEmpty ||
            !own && (!phrases.isEmpty || !badges.isEmpty)) ∧
        (resolve c m).alert = asked (·.alert) ∧
        (resolve c m).hasSound = asked (·.sound) := by
  intro c own users phrases badges asked'
  split
  · rename_i blocked
    exact resolveBlocked blocked
  · rename_i unblocked
    have together := resolveUnblocked (c := c) (Bool.eq_false_iff.mpr unblocked)
    simp only [sourceAnswersAsked, asked, c, createOwn] at together
    exact ⟨congrArg Answers.highlighted together, congrArg Answers.alert together,
      congrArg Answers.sound together⟩

end Scrollback.Highlight
