import Scrollback.Proofs.Json.Passing
import Scrollback.Proofs.Message.Padding
import Scrollback.Proofs.Time.Spelled

/-! The ways to write a record, as an object or as an array, and that each of them is read as the
record it was made from. -/
namespace Scrollback

open Json (Form Blank Named Quoted Chosen Sequence Entry Stops)

def Flag.recordNames : Flag → List String
  | .subscription => ["subscription"]
  | .highlighted => ["highlighted"]
  | .showInMentions => ["show-in-mentions", "mention"]
  | .collapsed => ["collapsed"]
  | .whisper => ["whisper"]
  | .system => ["system"]
  | .action => ["action"]
  | .disabled => ["disabled", "deleted"]
  | .timeout => ["timeout", "ban"]
  | .firstMessage => ["first-message", "first-msg"]
  | .reply => ["reply"]

theorem Flag.recordNameKnown {f : Flag} {name : String} (listed : name ∈ f.recordNames) :
    ofRecordName? name = some f := by
  cases f <;> simp only [recordNames, List.mem_cons, List.not_mem_nil, or_false] at listed
  case showInMentions | disabled | timeout | firstMessage => rcases listed with rfl | rfl <;> rfl
  all_goals
    subst listed
    rfl

def Direction.recordName : Direction → String
  | .sent => "sent"
  | .received => "received"

namespace Received

inductive Field where
  | channel | author | text | tags | flags | direction | timestamp
  deriving DecidableEq

def Field.all : List Field := [.channel, .author, .text, .tags, .flags, .direction, .timestamp]

def Field.names : Field → List String
  | .channel => ["channel"]
  | .author => ["author", "user"]
  | .text => ["text"]
  | .tags => ["tags"]
  | .flags => ["flags"]
  | .direction => ["direction"]
  | .timestamp => ["timestamp"]

section Forms

variable (r : Received)

def FlagText (f : Flag) : Form := fun cs => ∃ name ∈ f.recordNames, Chosen name cs

-- How a record writes the value of a field. Of tags with one name the last one counts.
inductive Value : Field → Form where
  | channel {cs : List Char} (quoted : Quoted r.channel cs) : Value .channel cs
  | author {cs : List Char} (quoted : Quoted r.author cs) : Value .author cs
  | text {cs : List Char} (quoted : Quoted r.text cs) : Value .text cs
  | tags {entries : List (String × String)} {body : List Char}
      (kept : ∀ name, entries.reverse.lookup name = r.tags.lookup name)
      (listed : Sequence Entry true entries body) : Value .tags ('\x7b' :: (body ++ ['\x7d']))
  | flags {body : List Char} (listed : Sequence FlagText true r.flags body) :
      Value .flags ('[' :: (body ++ [']']))
  | direction {cs : List Char} (chosen : Chosen r.direction.recordName cs) : Value .direction cs
  | noTime (unset : r.timestamp = none) : Value .timestamp ['n', 'u', 'l', 'l']
  | time {t : Timestamp} {text : String} {cs : List Char} (set : r.timestamp = some t)
      (spelled : t.Spelled text.toList) (quoted : Quoted text cs) : Value .timestamp cs

def IsDefault : Field → Prop
  | .tags => ∀ name, r.tags.lookup name = none
  | .flags => r.flags = []
  | .direction => r.direction = .received
  | .timestamp => r.timestamp = none
  | _ => False

-- A field under one of its names, or something that is no field.
inductive Member : Option Field → Form where
  | field {x : Field} {name : String} {head cs : List Char} (known : name ∈ x.names)
      (named : Named (Quoted name) head) (value : r.Value x cs) : Member (some x) (head ++ cs)
  | other {name : String} {head cs : List Char} (unknown : ∀ x : Field, name ∉ x.names)
      (named : Named (Quoted name) head) (value : Json.IsValue cs) : Member none (head ++ cs)

inductive Rendering : Form where
  | object {members : List (Option Field)} {w v body : List Char} (before : Blank w)
      (after : Blank v) (listed : Sequence r.Member true members body)
      (once : (members.filterMap id).Nodup)
      (complete : ∀ x, x ∈ members.filterMap id ∨ r.IsDefault x) :
      Rendering (w ++ '\x7b' :: (body ++ '\x7d' :: v))
  | array {fields : List Field} {w v body : List Char} (before : Blank w) (after : Blank v)
      (listed : Sequence r.Value true fields body) (leading : fields <+: Field.all)
      (complete : ∀ x, x ∈ fields ∨ r.IsDefault x) : Rendering (w ++ '[' :: (body ++ ']' :: v))

-- The same record, up to the order in which tags are kept.
structure Same (r' : Received) : Prop where
  channel : r'.channel = r.channel
  author : r'.author = r.author
  text : r'.text = r.text
  tags : ∀ name, r'.tags.lookup name = r.tags.lookup name
  flags : r'.flags = r.flags
  direction : r'.direction = r.direction
  timestamp : r'.timestamp = r.timestamp

end Forms

section Fields

variable {r : Received} {f : Fields} {x : Field} {w cs rest : List Char}

theorem channelRead (blank : Blank w) (value : r.Value .channel cs) (rest : List Char) :
    Json.string.run (w ++ (cs ++ rest)) = .ok (r.channel, rest) := by
  cases value with
  | channel quoted => exact Json.quotedRead blank quoted rest

theorem authorRead (blank : Blank w) (value : r.Value .author cs) (rest : List Char) :
    Json.string.run (w ++ (cs ++ rest)) = .ok (r.author, rest) := by
  cases value with
  | author quoted => exact Json.quotedRead blank quoted rest

theorem textRead (blank : Blank w) (value : r.Value .text cs) (rest : List Char) :
    Json.string.run (w ++ (cs ++ rest)) = .ok (r.text, rest) := by
  cases value with
  | text quoted => exact Json.quotedRead blank quoted rest

theorem directionRead (blank : Blank w) (value : r.Value .direction cs) (rest : List Char) :
    readDirection.run (w ++ (cs ++ rest)) = .ok (r.direction, rest) := by
  cases value with
  | direction chosen =>
    refine Json.chosenRead blank chosen ?_
    cases r.direction <;> rfl

theorem flagsRead (blank : Blank w) (value : r.Value .flags cs) (rest : List Char) :
    readFlags.run (w ++ (cs ++ rest)) = .ok (r.flags, rest) := by
  cases value with
  | flags listed =>
    rw [List.cons_append, List.append_assoc]
    refine Json.arrayRead blank ?_ ?_ listed
    · rintro f cs ⟨name, -, chosen⟩
      exact Json.chosenBegins chosen
    · rintro f cs rest ⟨name, known, chosen⟩
      exact Json.chosenRead Json.noBlank chosen (Flag.recordNameKnown known)

theorem tagsRead (blank : Blank w) (value : r.Value .tags cs) (rest : List Char) :
    ∃ tags, Json.stringMap.run (w ++ (cs ++ rest)) = .ok (tags, rest) ∧
      ∀ name, tags.lookup name = r.tags.lookup name := by
  cases value with
  | @tags entries body kept listed =>
    rw [List.cons_append, List.append_assoc]
    exact ⟨entries.reverse, Json.stringMapRead blank listed, kept⟩

theorem timestampRead (blank : Blank w) (value : r.Value .timestamp cs) (rest : List Char) :
    readTimestamp.run (w ++ (cs ++ rest)) = .ok (r.timestamp, rest) := by
  cases value with
  | noTime unset =>
    rw [readTimestamp, Json.optional, List.cons_append, Json.peekPast blank rfl, unset]
    rfl
  | @time t text cs set spelled quoted =>
    have read := Json.quotedRead Json.noBlank quoted rest
    have parsed := Timestamp.spelledRead spelled
    obtain ⟨pieces, -, rfl⟩ := quoted
    rw [String.ofList_toList] at parsed
    rw [readTimestamp, Json.optional, List.cons_append, Json.peekPast blank rfl, set]
    refine (Json.bindRead (a := t) ?_).trans rfl
    refine (Json.bindRead read).trans ?_
    rw [parsed]
    rfl

def Fields.Lacks (f : Fields) : Field → Prop
  | .channel => f.channel = none
  | .author => f.author = none
  | .text => f.text = none
  | .tags => f.tags = none
  | .flags => f.flags = none
  | .direction => f.direction = none
  | .timestamp => f.timestamp = none

def Fields.Has (f : Fields) (r : Received) : Field → Prop
  | .channel => f.channel = some r.channel
  | .author => f.author = some r.author
  | .text => f.text = some r.text
  | .tags => ∃ tags, f.tags = some tags ∧ ∀ name, tags.lookup name = r.tags.lookup name
  | .flags => f.flags = some r.flags
  | .direction => f.direction = some r.direction
  | .timestamp => f.timestamp = some r.timestamp

def Fields.put (f : Fields) (r : Received) : Field → Fields
  | .channel => { f with channel := some r.channel }
  | .author => { f with author := some r.author }
  | .text => { f with text := some r.text }
  | .tags => { f with tags := some r.tags }
  | .flags => { f with flags := some r.flags }
  | .direction => { f with direction := some r.direction }
  | .timestamp => { f with timestamp := some r.timestamp }

theorem putLacks {y : Field} (other : y ≠ x) (lacks : f.Lacks y) : (f.put r x).Lacks y := by
  cases x <;> cases y <;> first | contradiction | exact lacks

theorem putKeeps {r' : Received} {y : Field} (other : y ≠ x) (has : f.Has r y) :
    (f.put r' x).Has r y := by
  cases x <;> cases y <;> first | contradiction | exact has

theorem putHas {tags : List (String × String)}
    (same : ∀ name, tags.lookup name = r.tags.lookup name) : (f.put { r with tags } x).Has r x := by
  cases x
  case tags => exact ⟨tags, rfl, same⟩
  all_goals rfl

theorem onceRead {α : Type} {read : Json.Read α} {before : Option α} {a : α}
    {left after : List Char} (unset : before = none) (marked : Json.colon.run left = .ok ((), after))
    (taken : read.run after = .ok (a, rest)) :
    (once before read).run left = .ok (some a, rest) := by
  subst unset
  change (Json.colon >>= fun _ => read >>= fun a => pure (some a)).run left = _
  rw [Json.bindRead marked, Json.bindRead taken]
  rfl

-- What is read of a field goes to its own place.
theorem fieldRead {name : String} {left v : List Char} (lacks : f.Lacks x) (known : name ∈ x.names)
    (value : r.Value x cs) (blank : Blank v)
    (marked : Json.colon.run left = .ok ((), v ++ (cs ++ rest))) :
    ∃ tags, (∀ name, tags.lookup name = r.tags.lookup name) ∧
      (readField f name).run left = .ok (f.put { r with tags } x, rest) := by
  cases x <;> simp only [Field.names, List.mem_cons, List.not_mem_nil, or_false] at known
  case channel =>
    subst known
    exact ⟨r.tags, fun _ => rfl,
      (Json.bindRead (onceRead lacks marked (channelRead blank value rest))).trans rfl⟩
  case author =>
    have read := onceRead lacks marked (authorRead blank value rest)
    refine ⟨r.tags, fun _ => rfl, ?_⟩
    rcases known with rfl | rfl <;> exact (Json.bindRead read).trans rfl
  case text =>
    subst known
    exact ⟨r.tags, fun _ => rfl,
      (Json.bindRead (onceRead lacks marked (textRead blank value rest))).trans rfl⟩
  case tags =>
    subst known
    obtain ⟨tags, read, same⟩ := tagsRead blank value rest
    exact ⟨tags, same, (Json.bindRead (onceRead lacks marked read)).trans rfl⟩
  case flags =>
    subst known
    exact ⟨r.tags, fun _ => rfl,
      (Json.bindRead (onceRead lacks marked (flagsRead blank value rest))).trans rfl⟩
  case direction =>
    subst known
    exact ⟨r.tags, fun _ => rfl,
      (Json.bindRead (onceRead lacks marked (directionRead blank value rest))).trans rfl⟩
  case timestamp =>
    subst known
    exact ⟨r.tags, fun _ => rfl,
      (Json.bindRead (onceRead lacks marked (timestampRead blank value rest))).trans rfl⟩

theorem unknownRead {name : String} {left v : List Char} (unknown : ∀ x : Field, name ∉ x.names)
    (value : Json.IsValue cs) (blank : Blank v) (stops : Stops rest)
    (marked : Json.colon.run left = .ok ((), v ++ (cs ++ rest))) :
    (readField f name).run left = .ok (f, rest) := by
  have other (x : Field) {known : String} (listed : known ∈ x.names) : name ≠ known := by
    rintro rfl
    exact unknown x listed
  unfold readField
  split
  · exact absurd rfl (other .channel (.head _))
  · exact absurd rfl (other .author (.head _))
  · exact absurd rfl (other .author (.tail _ (.head _)))
  · exact absurd rfl (other .text (.head _))
  · exact absurd rfl (other .tags (.head _))
  · exact absurd rfl (other .flags (.head _))
  · exact absurd rfl (other .direction (.head _))
  · exact absurd rfl (other .timestamp (.head _))
  · rw [Json.bindRead marked, Json.bindRead (Json.valueIgnored value blank stops)]
    rfl

-- What is there is what the members before those that are left have brought.
def Fields.UpTo (f : Fields) (r : Received) (members more : List (Option Field)) : Prop :=
  ∃ done, done ++ more = members ∧ (∀ x ∈ done.filterMap id, f.Has r x) ∧
    ∀ x ∉ done.filterMap id, f.Lacks x

theorem memberRead {members more : List (Option Field)} {m : Option Field}
    (once : (members.filterMap id).Nodup) (stops : Stops rest) (member : r.Member m cs)
    (before : f.UpTo r members (m :: more)) :
    ∃ f', (Json.member readField f).run (cs ++ rest) = .ok (f', rest) ∧
      f'.UpTo r members more := by
  obtain ⟨done, rfl, has, lacks⟩ := before
  cases member with
  | @field x name head cs known named value =>
    obtain ⟨left, v, gap, read, marked⟩ := Json.namedRead Json.noBlank named (cs ++ rest)
    have fresh : x ∉ done.filterMap id := by
      rw [List.filterMap_append, List.nodup_append] at once
      exact fun seen => once.2.2 x seen x (by simp) rfl
    obtain ⟨tags, same, taken⟩ := fieldRead (lacks x fresh) known value gap marked
    refine ⟨f.put { r with tags } x, ?_, done ++ [some x], by simp, ?_, ?_⟩
    · rw [List.append_assoc]
      exact (Json.bindRead read).trans taken
    · intro y seen
      by_cases here : y = x
      · subst here
        exact putHas same
      · exact putKeeps here (has y (by simpa [here] using seen))
    · intro y unseen
      have both : y ∉ done.filterMap id ∧ y ≠ x := by simpa using unseen
      exact putLacks both.2 (lacks y both.1)
  | @other name head cs unknown named value =>
    obtain ⟨left, v, gap, read, marked⟩ := Json.namedRead Json.noBlank named (cs ++ rest)
    refine ⟨f, ?_, done ++ [none], by simp, by simpa using has, by simpa using lacks⟩
    rw [List.append_assoc]
    exact (Json.bindRead read).trans (unknownRead unknown value gap stops marked)

-- Fields that were left out have their defaults.
theorem toRecordSame (all : ∀ x, f.Has r x ∨ f.Lacks x ∧ r.IsDefault x) :
    ∃ r', f.toRecord? = some r' ∧ r.Same r' := by
  have channel : f.channel = some r.channel := (all .channel).resolve_right fun left => left.2
  have author : f.author = some r.author := (all .author).resolve_right fun left => left.2
  have text : f.text = some r.text := (all .text).resolve_right fun left => left.2
  have tags (name : String) : (f.tags.getD []).lookup name = r.tags.lookup name := by
    rcases all .tags with ⟨tags, set, same⟩ | ⟨unset, empty⟩
    · rw [set]
      exact same name
    · rw [show f.tags = none from unset, empty name]
      rfl
  have flags : f.flags.getD [] = r.flags := by
    rcases all .flags with set | ⟨unset, empty⟩
    · rw [show f.flags = some r.flags from set]
      rfl
    · rw [show f.flags = none from unset, show r.flags = [] from empty]
      rfl
  have direction : f.direction.getD .received = r.direction := by
    rcases all .direction with set | ⟨unset, default⟩
    · rw [show f.direction = some r.direction from set]
      rfl
    · rw [show f.direction = none from unset, show r.direction = .received from default]
      rfl
  have timestamp : f.timestamp.getD none = r.timestamp := by
    rcases all .timestamp with set | ⟨unset, default⟩
    · rw [show f.timestamp = some r.timestamp from set]
      rfl
    · rw [show f.timestamp = none from unset, show r.timestamp = none from default]
      rfl
  let found : Received := {
    channel := r.channel, author := r.author, text := r.text
    tags := f.tags.getD [], flags := f.flags.getD []
    direction := f.direction.getD .received, timestamp := f.timestamp.getD none }
  refine ⟨found, ?_, rfl, rfl, rfl, tags, flags, direction, timestamp⟩
  rw [Fields.toRecord?, channel, author, text]
  rfl

end Fields

section Reading

variable {r : Received} {body w v : List Char}

theorem objectRead {members : List (Option Field)} (listed : Sequence r.Member true members body)
    (once : (members.filterMap id).Nodup)
    (whole : ∀ x, x ∈ members.filterMap id ∨ r.IsDefault x) (before : Blank w) (rest : List Char) :
    ∃ r', read.run (w ++ '\x7b' :: (body ++ '\x7d' :: rest)) = .ok (r', rest) ∧ r.Same r' := by
  have begins {m cs} (member : r.Member m cs) : Json.Begins .object cs := by
    cases member with
    | field known named value =>
      obtain ⟨tail, rfl⟩ := Json.namedBegins named
      exact ⟨_, _, rfl, rfl, rfl⟩
    | other unknown named value =>
      obtain ⟨tail, rfl⟩ := Json.namedBegins named
      exact ⟨_, _, rfl, rfl, rfl⟩
  have start : ({} : Fields).UpTo r members members :=
    ⟨[], rfl, by simp, fun x _ => by cases x <;> rfl⟩
  obtain ⟨f, taken, done, all, has, lacks⟩ : ∃ f : Fields,
      (Json.allItems .object (Json.member readField) {}).run (body ++ '\x7d' :: rest) =
        .ok (f, '\x7d' :: rest) ∧ f.UpTo r members [] :=
    Json.allItemsRead (P := fun more (f : Fields) => f.UpTo r members more) begins
      (fun before member stops => memberRead once stops member before) start listed rest
  rw [List.append_nil] at all
  subst all
  have filled (x : Field) : f.Has r x ∨ f.Lacks x ∧ r.IsDefault x := by
    by_cases seen : x ∈ done.filterMap id
    · exact .inl (has x seen)
    · exact .inr ⟨lacks x seen, (whole x).resolve_left seen⟩
  obtain ⟨r', made, same⟩ := toRecordSame filled
  refine ⟨r', ?_, same⟩
  rw [read, Json.peekPast before rfl]
  refine (Json.bindRead (Json.skipRun _ _)).trans ?_
  rw [Json.bindRead taken, complete, made]
  refine (Json.bindRead rfl).trans ?_
  exact (Json.bindRead (Json.closeNext rfl)).trans rfl

theorem valueBegins {x : Field} {cs : List Char} (value : r.Value x cs) :
    Json.Begins .array cs := by
  have text {s : String} {cs : List Char} (quoted : Quoted s cs) : Json.Begins .array cs :=
    Json.chosenBegins (.string quoted)
  cases value with
  | channel quoted | author quoted | text quoted => exact text quoted
  | direction chosen => exact Json.chosenBegins chosen
  | time _ _ quoted => exact text quoted
  | tags | flags | noTime => exact ⟨_, _, rfl, rfl, by decide⟩

section Next

variable {α : Type} {read : Json.Read α} {first : Bool} {x : Field} {more : List Field}

theorem nextRead (listed : Sequence r.Value first (x :: more) body) (rest : List Char) :
    ∃ cs later, r.Value x cs ∧ Sequence r.Value false more later ∧
      ∀ {a left}, read.run (cs ++ (later ++ ']' :: rest)) = .ok (a, left) →
        (next? first read).run (body ++ ']' :: rest) = .ok (some a, left) := by
  cases listed with
  | @first _ _ w cs later blank here others =>
    refine ⟨cs, later, here, others, fun {a left} read => ?_⟩
    obtain ⟨c, tail, rfl, solid, starts⟩ := valueBegins here
    simp only [List.append_assoc, List.cons_append] at read ⊢
    rw [next?, Json.bindRead (Json.firstItem blank solid starts), if_pos rfl,
      Json.bindRead read]
    rfl
  | @further _ _ w v cs later before after here others =>
    refine ⟨cs, later, here, others, fun {a left} read => ?_⟩
    obtain ⟨c, tail, rfl, solid, starts⟩ := valueBegins here
    simp only [List.append_assoc, List.cons_append] at read ⊢
    rw [next?, Json.bindRead (Json.furtherItem before after solid starts), if_pos rfl,
      Json.bindRead read]
    rfl

theorem requiredRead {others fields : List Field} {a : α} (leading : fields <+: x :: others)
    (here : x ∈ fields) (listed : Sequence r.Value first fields body) (rest : List Char)
    (reads : ∀ {cs} rest, r.Value x cs → read.run ([] ++ (cs ++ rest)) = .ok (a, rest)) :
    ∃ more later, (required first read).run (body ++ ']' :: rest) = .ok (a, later ++ ']' :: rest) ∧
      fields = x :: more ∧ more <+: others ∧ Sequence r.Value false more later := by
  obtain rfl | ⟨more, rfl, shorter⟩ := List.prefix_cons_iff.mp leading
  · contradiction
  obtain ⟨cs, later, value, others, next⟩ := nextRead listed rest
  refine ⟨more, later, ?_, rfl, shorter, others⟩
  exact (Json.bindRead (next (reads _ value))).trans rfl

-- A field at the end of an array may be left off if it has its default.
theorem optionalRead {others fields : List Field} {P : α → Prop} {d : α}
    (leading : fields <+: x :: others) (absent : x ∉ fields → P d)
    (listed : Sequence r.Value false fields body) (rest : List Char)
    (reads : ∀ {cs} rest, r.Value x cs →
      ∃ a, read.run ([] ++ (cs ++ rest)) = .ok (a, rest) ∧ P a) :
    ∃ found more later,
      (next? false read).run (body ++ ']' :: rest) = .ok (found, later ++ ']' :: rest) ∧
      P (found.getD d) ∧ more <+: others ∧ Sequence r.Value false more later ∧
      ∀ y ≠ x, y ∈ fields → y ∈ more := by
  obtain rfl | ⟨more, rfl, shorter⟩ := List.prefix_cons_iff.mp leading
  · cases listed with
    | done blank =>
      refine ⟨none, [], [], ?_, absent (nomatch ·), List.nil_prefix, .done Json.noBlank,
        fun _ _ member => member⟩
      exact Json.bindRead (Json.noItem blank)
  · obtain ⟨cs, later, value, others, next⟩ := nextRead listed rest
    obtain ⟨a, read, holds⟩ := reads (later ++ ']' :: rest) value
    refine ⟨some a, more, later, next read, holds, shorter, others, fun y other member => ?_⟩
    exact (List.mem_cons.mp member).resolve_left other

end Next

theorem placesRead {fields : List Field} (listed : Sequence r.Value true fields body)
    (leading : fields <+: Field.all) (whole : ∀ x, x ∈ fields ∨ r.IsDefault x) (rest : List Char) :
    ∃ r' last, readArray.run (body ++ ']' :: rest) = .ok (r', last ++ ']' :: rest) ∧
      Blank last ∧ r.Same r' := by
  obtain ⟨_, _, channel, rfl, leading, listed⟩ := requiredRead leading
    ((whole .channel).resolve_right id) listed rest fun rest value =>
      channelRead Json.noBlank value rest
  obtain ⟨_, _, author, rfl, leading, listed⟩ := requiredRead leading
    (by simpa using (whole .author).resolve_right id) listed rest fun rest value =>
      authorRead Json.noBlank value rest
  obtain ⟨given, _, text, rfl, leading, listed⟩ := requiredRead leading
    (by simpa using (whole .text).resolve_right id) listed rest fun rest value =>
      textRead Json.noBlank value rest
  have left {x : Field} (absent : x ∉ given) (other : x ∉ [Field.channel, .author, .text]) :
      r.IsDefault x := by
    refine (whole x).resolve_left fun member => ?_
    simp only [List.mem_cons, List.not_mem_nil, or_false, not_or] at member other
    tauto
  obtain ⟨tags, _, _, readTags, sameTags, leading, listed, tagsKeep⟩ := optionalRead
    (P := fun tags : List (String × String) => ∀ name, tags.lookup name = r.tags.lookup name)
    leading
    (d := []) (fun absent name => (left absent (by decide) name).symm) listed rest
    fun rest value => tagsRead Json.noBlank value rest
  obtain ⟨flags, _, _, readFlags, sameFlags, leading, listed, flagsKeep⟩ := optionalRead
    (P := fun flags => flags = r.flags) leading
    (fun absent => (left (fun here => absent (tagsKeep _ (by decide) here)) (by decide)).symm)
    listed rest fun rest value => ⟨_, flagsRead Json.noBlank value rest, rfl⟩
  obtain ⟨direction, _, _, readDirection, sameDirection, leading, listed, directionKeeps⟩ :=
    optionalRead (P := fun direction => direction = r.direction) leading
    (fun absent => (left (fun here => absent
      (flagsKeep _ (by decide) (tagsKeep _ (by decide) here))) (by decide)).symm)
    listed rest fun rest value => ⟨_, directionRead Json.noBlank value rest, rfl⟩
  obtain ⟨timestamp, _, last, readTimestamp, sameTimestamp, leading, listed, -⟩ :=
    optionalRead (P := fun timestamp => timestamp = r.timestamp) leading
    (fun absent => (left (fun here => absent (directionKeeps _ (by decide)
      (flagsKeep _ (by decide) (tagsKeep _ (by decide) here)))) (by decide)).symm)
    listed rest fun rest value => ⟨_, timestampRead Json.noBlank value rest, rfl⟩
  obtain rfl := List.prefix_nil.mp leading
  cases listed with
  | done blank =>
    let found : Received := {
      channel := r.channel, author := r.author, text := r.text
      tags := tags.getD [], flags := flags.getD []
      direction := direction.getD .received, timestamp := timestamp.getD none }
    refine ⟨found, last, ?_, blank, rfl, rfl, rfl, sameTags, sameFlags, sameDirection,
      sameTimestamp⟩
    rw [readArray, Json.bindRead channel, Json.bindRead author, Json.bindRead text,
      Json.bindRead readTags, Json.bindRead readFlags, Json.bindRead readDirection,
      Json.bindRead readTimestamp]
    rfl

theorem arrayRead {fields : List Field} (listed : Sequence r.Value true fields body)
    (leading : fields <+: Field.all) (whole : ∀ x, x ∈ fields ∨ r.IsDefault x) (before : Blank w)
    (rest : List Char) :
    ∃ r', read.run (w ++ '[' :: (body ++ ']' :: rest)) = .ok (r', rest) ∧ r.Same r' := by
  obtain ⟨found, last, all, blank, same⟩ := placesRead listed leading whole rest
  refine ⟨found, ?_, same⟩
  rw [read, Json.peekPast before rfl]
  refine (Json.bindRead (Json.skipRun _ _)).trans ?_
  rw [Json.bindRead all, Json.bindRead (Json.closeRead blank rfl)]
  rfl

theorem readEach {cs : List Char} (rendering : r.Rendering cs) :
    ∃ r', ofJson (String.ofList cs) = .ok r' ∧ r.Same r' := by
  have whole {r' : Received} {v : List Char} (blank : Blank v) (taken : read.run cs = .ok (r', v)) :
      ofJson (String.ofList cs) = .ok r' := by
    rw [ofJson, Json.ofText, String.toList_ofList, taken]
    exact if_pos (List.all_eq_true.mpr blank)
  cases rendering with
  | @object members w v body before after listed once complete =>
    obtain ⟨r', taken, same⟩ := objectRead listed once complete before v
    exact ⟨r', whole after taken, same⟩
  | @array fields w v body before after listed leading complete =>
    obtain ⟨r', taken, same⟩ := arrayRead listed leading complete before v
    exact ⟨r', whole after taken, same⟩

end Reading

section Messages

variable {r r' : Received}

-- Tags show up in a message only as its badges.
theorem Same.toMessage (same : r.Same r') (now : Timestamp) :
    r'.toMessage now = r.toMessage now := by
  have badges : r'.badges = r.badges := by rw [Received.badges, same.tags, Received.badges]
  rw [Received.toMessage, same.timestamp, same.channel, same.author, same.text, same.flags,
    same.direction, badges]
  rfl

theorem toMessageBadges {tags : List (String × String)}
    (same : tags.lookup "badges" = r.tags.lookup "badges") (now : Timestamp) :
    { r with tags }.toMessage now = r.toMessage now := by
  have badges : { r with tags }.badges = r.badges := by
    rw [Received.badges, same, Received.badges]
  rw [Received.toMessage, badges]
  rfl

theorem toMessageFlags (now : Timestamp) (f : Flag) :
    (r.toMessage now).flags.has f = (decide (f = .collapsed) || r.flags.contains f) := by
  rw [Received.toMessage, Flags.has_union, Flags.has_ofList]
  simp [Message.create, eq_comm]

-- Every way to write a record is read as that record, and no tag but the badges says anything.
theorem renderingRead {cs : List Char} (rendering : r.Rendering cs) :
    ∃ r', ofJson (String.ofList cs) = .ok r' ∧ r.Same r' ∧ ∀ now,
      r'.toMessage now = r.toMessage now ∧
      (∀ f, (r'.toMessage now).flags.has f = (decide (f = .collapsed) || r.flags.contains f)) ∧
      ∀ tags : List (String × String), tags.lookup "badges" = r.tags.lookup "badges" →
        { r' with tags }.toMessage now = r.toMessage now := by
  obtain ⟨r', read, same⟩ := readEach rendering
  refine ⟨r', read, same, fun now => ⟨same.toMessage now, fun f => ?_, fun tags badges => ?_⟩⟩
  · rw [toMessageFlags, same.flags]
  · rw [toMessageBadges (badges.trans (same.tags _).symm), same.toMessage]

def mention : Received :=
  { channel := "", author := "Ann", text := "hi", flags := [.showInMentions] }

def mentionText : String :=
  "\x7b\"x\":[1,\x7b\x7d], \"flags\":[\"mention\"],\n" ++
    "\"user\":\"\\u0041nn\",\"text\":\"hi\",\"channel\":\"\"\x7d "

theorem mentionRead :
    ∃ r', ofJson mentionText = .ok r' ∧ mention.Same r' ∧
      ∀ now, r'.toMessage now = mention.toMessage now := by
  have named {s : String} (printed : s.toList.all Json.isPlain = true) :
      Named (Quoted s) ('"' :: (s.toList ++ ['"']) ++ ([] ++ ':' :: [])) :=
    .colon (.plain printed) Json.noBlank Json.noBlank
  have space : Blank [' '] := List.forall_mem_singleton.mpr rfl
  have line : Blank ['\n'] := List.forall_mem_singleton.mpr rfl
  have one : Json.IsValue ['1'] :=
    .number (.parts (.digits rfl (by decide) (List.forall_mem_nil _)) .absent .absent)
  have hollow : Json.IsValue ['\x7b', '\x7d'] :=
    .object (List.forall_mem_nil _) (List.forall_mem_nil _) (.done (w := []) Json.noBlank)
  have pair : Json.IsValue _ :=
    .array (List.forall_mem_cons.mpr ⟨one, List.forall_mem_singleton.mpr hollow⟩)
      (.first (w := []) Json.noBlank rfl (.further (w := []) (v := []) Json.noBlank Json.noBlank rfl
        (.done (w := []) Json.noBlank)))
  have unknown : mention.Member none _ :=
    .other (by intro x; cases x <;> decide) (named (s := "x") (by decide)) pair
  have flags : mention.Member (some .flags) _ := .field (.head _) (named (s := "flags") (by decide))
    (.flags (.first (w := []) Json.noBlank ⟨"mention", by decide, .string (.plain (by decide))⟩
      (.done (w := []) Json.noBlank)))
  have escaped : Json.Spells 'A' "\\u0041".toList :=
    .point (.digits (k := 0) (l := 0) (m := 4) (n := 1) ⟨by decide, .inl rfl⟩ ⟨by decide, .inl rfl⟩
      ⟨by decide, .inl rfl⟩ ⟨by decide, .inl rfl⟩)
  have letter : Json.Spells 'n' ['n'] := .plain (by decide) (by decide) (by decide)
  have author : mention.Member (some .author) _ := .field (by decide)
    (named (s := "user") (by decide))
    (.author ⟨_, .cons escaped (.cons letter (.cons letter .nil)), rfl⟩)
  have text : mention.Member (some .text) _ := .field (.head _) (named (s := "text") (by decide))
    (.text (.plain (by decide)))
  have channel : mention.Member (some .channel) _ := .field (.head _)
    (named (s := "channel") (by decide)) (.channel (.plain (by decide)))
  have listed := Sequence.first Json.noBlank unknown
    (.further Json.noBlank space flags (.further Json.noBlank line author
      (.further Json.noBlank Json.noBlank text (.further Json.noBlank Json.noBlank channel
        (.done Json.noBlank)))))
  have complete (x : Field) :
      x ∈ [none, some .flags, some .author, some .text, some .channel].filterMap id ∨
        mention.IsDefault x := by
    cases x
    case tags => exact .inr fun _ => rfl
    case direction | timestamp => exact .inr rfl
    all_goals exact .inl (by decide)
  have rendering := Rendering.object Json.noBlank space listed (by decide) complete
  obtain ⟨r', read, same, message⟩ := renderingRead rendering
  exact ⟨r', read, same, fun now => (message now).1⟩

end Messages

end Received

end Scrollback
