import Scrollback.Proofs.History.Newest
import Scrollback.Search.Session
import Mathlib.Data.List.Induction

/-! Buffers, and searches in them, as they are worked with: some commands after others. What a
buffer holds, what was kept of it and what a search finds are told from the commands alone, by
looking for the latest ones that matter. -/
namespace Scrollback.Search

-- Buffers and sessions go by numbers.
inductive Command where
  | newBuffer (buffer limit : Nat)
  | push (buffer : Nat) (m : Message)
  | extend (buffer : Nat) (ms : List Message)
  | clear (buffer : Nat)
  | snapshot (buffer : Nat)
  | mentions (buffer : Nat)
  | newSession (session : Nat) (channel : String) (buffer : Nat)
  | setChannel (session : Nat) (channel : String) (buffer : Nat)
  | setFurther (session : Nat) (further : Option (Message → Bool))
  | search (session : Nat) (query : String)

inductive Answer where
  | none
  | kept (s : Snapshot)
  | found (r : Results)

-- The answers are those to all commands so far, each as it was when it was given.
structure Desk where
  buffers : Nat → Buffer := fun _ => .empty
  sessions : Nat → Session := fun _ => {}
  answers : List Answer := []

namespace Desk

def buffer (d : Desk) (b : Nat) : Command → Buffer
  | .newBuffer a limit => if a = b then .ofLimit limit else d.buffers b
  | .push a m => if a = b then (d.buffers b).push m else d.buffers b
  | .extend a ms => if a = b then (d.buffers b).extend ms else d.buffers b
  | .clear a => if a = b then (d.buffers b).clear else d.buffers b
  | _ => d.buffers b

def session (d : Desk) (s : Nat) : Command → Session
  | .newSession a channel b => if a = s then .ofBuffer channel (d.buffers b) else d.sessions s
  | .setChannel a channel b =>
    if a = s then (d.sessions s).setChannel channel (d.buffers b) else d.sessions s
  | .setFurther a further => if a = s then (d.sessions s).setFurther further else d.sessions s
  | _ => d.sessions s

def answer (d : Desk) : Command → Answer
  | .snapshot b => .kept (d.buffers b).snapshot
  | .mentions b => .kept (d.buffers b).mentions
  | .search s query => .found ((d.sessions s).search query)
  | _ => .none

def step (d : Desk) (c : Command) : Desk :=
  ⟨fun b => d.buffer b c, fun s => d.session s c, d.answers ++ [d.answer c]⟩

def run (cs : List Command) : Desk := cs.foldl step {}

theorem runSnoc (cs : List Command) (c : Command) : run (cs ++ [c]) = (run cs).step c := by
  simp [run]

end Desk

section Latest
variable {α β : Type}

-- What comes after the latest element with a property, and all that came before that element.
def since (p : α → Bool) (l : List α) : List α := (l.reverse.takeWhile (!p ·)).reverse

def before (p : α → Bool) (l : List α) : List α := (l.reverse.dropWhile (!p ·)).tail.reverse

def latest? (f : α → Option β) (l : List α) : Option β := l.reverse.findSome? f

@[simp] theorem sinceSnoc (p : α → Bool) (l : List α) (a : α) :
    since p (l ++ [a]) = if p a then [] else since p l ++ [a] := by
  cases h : p a <;> simp [since, h]

@[simp] theorem beforeSnoc (p : α → Bool) (l : List α) (a : α) :
    before p (l ++ [a]) = if p a then l else before p l := by
  cases h : p a <;> simp [before, h]

@[simp] theorem latestSnoc (f : α → Option β) (l : List α) (a : α) :
    latest? f (l ++ [a]) = (f a).or (latest? f l) := by
  cases h : f a <;> simp [latest?, h]

end Latest

namespace Command

def limit? (b : Nat) : Command → Option Nat
  | .newBuffer a limit => if a = b then some limit else none
  | _ => none

def empties (b : Nat) : Command → Bool
  | .newBuffer a _ => a = b
  | .clear a => a = b
  | _ => false

def added (b : Nat) : Command → List Message
  | .push a m => if a = b then [m] else []
  | .extend a ms => if a = b then ms else []
  | _ => []

-- The channel and the buffer to which a session turns.
def source? (s : Nat) : Command → Option (String × Nat)
  | .newSession a channel b => if a = s then some (channel, b) else none
  | .setChannel a channel b => if a = s then some (channel, b) else none
  | _ => none

def begins (s : Nat) : Command → Bool
  | .newSession a _ _ => a = s
  | _ => false

def further? (s : Nat) : Command → Option (Option (Message → Bool))
  | .setFurther a further => if a = s then some further else none
  | _ => none

end Command

section Told
open Command

def room (b : Nat) (cs : List Command) : Nat :=
  max ((latest? (limit? b) cs).getD Buffer.defaultLimit) 1

def contents (b : Nat) (cs : List Command) : List Message :=
  newest (room b cs) ((since (empties b) cs).flatMap (added b))

def channel (s : Nat) (cs : List Command) : String :=
  ((latest? (source? s) cs).map (·.1)).getD ""

-- What a buffer held when the session turned to it.
def searched (s : Nat) (cs : List Command) : List Message :=
  match latest? (source? s) cs with
  | some (_, b) => contents b (before (source? s · |>.isSome) cs)
  | none => []

def further (s : Nat) (cs : List Command) : Option (Message → Bool) :=
  (latest? (further? s) (since (begins s) cs)).join

def answer (cs : List Command) : Command → Answer
  | .snapshot b => .kept ⟨contents b cs⟩
  | .mentions b => .kept ⟨(contents b cs).filter (·.has .showInMentions)⟩
  | .search s query => .found {
      name := channel s cs
      messages := (searched s cs).filter fun m =>
        (parse query).all (·.accepts m) && (further s cs).all (· m) }
  | _ => .none

theorem roomSnoc (b : Nat) (cs : List Command) (c : Command) :
    room b (cs ++ [c]) = ((c.limit? b).map (max · 1)).getD (room b cs) := by
  rw [room, latestSnoc]
  cases c.limit? b <;> rfl

theorem contentsEmptied {b : Nat} {c : Command} (cs : List Command) (empties : c.empties b = true) :
    contents b (cs ++ [c]) = [] := by
  rw [contents, sinceSnoc, if_pos empties, List.flatMap_nil, newest, List.drop_nil]

theorem contentsAdded {b : Nat} {c : Command} (cs : List Command) (kept : c.empties b = false)
    (unlimited : c.limit? b = none) :
    contents b (cs ++ [c]) = newest (room b cs) (contents b cs ++ c.added b) := by
  rw [contents, contents, newestAppend, roomSnoc, unlimited, sinceSnoc, kept]
  simp

/- What a command does to a buffer is to make it anew, to empty it or to add to it. -/
theorem bufferTold (d : Desk) (b : Nat) (c : Command) :
    d.buffer b c =
      match c.limit? b with
      | some limit => .ofLimit limit
      | none => if c.empties b then (d.buffers b).clear else (d.buffers b).extend (c.added b) := by
  cases c with
  | newBuffer a _ | push a _ | extend a _ | clear a =>
    by_cases same : a = b
    · simp [Desk.buffer, limit?, empties, added, same, Buffer.extend]
    · simp [Desk.buffer, limit?, empties, added, same, Buffer.extend]
  | _ => rfl

theorem limitEmpties {b limit : Nat} {c : Command} (limited : c.limit? b = some limit) :
    c.empties b = true := by
  cases c <;> simp_all [limit?, empties]

theorem bufferStep {d : Desk} {cs : List Command} {b : Nat} (c : Command)
    (limit : (d.buffers b).limit = room b cs) (held : (d.buffers b).messages = contents b cs) :
    (d.buffer b c).limit = room b (cs ++ [c]) ∧
      (d.buffer b c).messages = contents b (cs ++ [c]) := by
  rw [bufferTold, roomSnoc]
  cases limited : c.limit? b with
  | some n => exact ⟨rfl, (contentsEmptied cs (limitEmpties limited)).symm⟩
  | none =>
    cases emptied : c.empties b with
    | true => exact ⟨limit, (contentsEmptied cs emptied).symm⟩
    | false =>
      rw [contentsAdded cs emptied limited, ← held, ← limit]
      exact ⟨Buffer.extendLimit _ _, Buffer.extendNewest _ _⟩

theorem turned {s b : Nat} {c : Command} {name : String} (cs : List Command)
    (source : c.source? s = some (name, b)) :
    channel s (cs ++ [c]) = name ∧ searched s (cs ++ [c]) = contents b cs := by
  rw [channel, searched, latestSnoc, beforeSnoc, source]
  exact ⟨rfl, rfl⟩

theorem unturned {s : Nat} {c : Command} (cs : List Command) (source : c.source? s = none) :
    channel s (cs ++ [c]) = channel s cs ∧ searched s (cs ++ [c]) = searched s cs := by
  rw [channel, searched, latestSnoc, beforeSnoc, source]
  exact ⟨rfl, rfl⟩

theorem furtherSnoc (s : Nat) (cs : List Command) (c : Command) :
    further s (cs ++ [c]) =
      if c.begins s then none else (c.further? s).getD (further s cs) := by
  rw [further, sinceSnoc]
  split
  · rfl
  · rw [latestSnoc, further]
    cases c.further? s <;> rfl

-- A session takes its source, a test of its own and nothing else from a command.
theorem sessionTold (d : Desk) (s : Nat) (c : Command) :
    d.session s c =
      { channel := ((c.source? s).map (·.1)).getD (d.sessions s).channel
        snapshot := ((c.source? s).map fun t => (d.buffers t.2).snapshot).getD
          (d.sessions s).snapshot
        further := if c.begins s then none else (c.further? s).getD (d.sessions s).further } := by
  cases c with
  | newSession a _ _ | setChannel a _ _ | setFurther a _ =>
    by_cases same : a = s
    · simp [Desk.session, source?, begins, further?, same, Session.ofBuffer, Session.setChannel,
        Session.setFurther]
    · simp [Desk.session, source?, begins, further?, same]
  | _ => rfl

theorem sessionStep {d : Desk} {cs : List Command} {s : Nat} (c : Command)
    (held : ∀ b, (d.buffers b).messages = contents b cs)
    (told : d.sessions s = ⟨channel s cs, ⟨searched s cs⟩, further s cs⟩) :
    d.session s c = ⟨channel s (cs ++ [c]), ⟨searched s (cs ++ [c])⟩, further s (cs ++ [c])⟩ := by
  rw [sessionTold, furtherSnoc, told]
  cases source : c.source? s with
  | none =>
    rw [(unturned cs source).1, (unturned cs source).2]
    rfl
  | some t =>
    rw [(turned cs source).1, (turned cs source).2, ← held t.2]
    rfl

/- What a desk is to be after some commands. -/
structure Told (cs : List Command) (d : Desk) : Prop where
  limits : ∀ b, (d.buffers b).limit = room b cs
  held : ∀ b, (d.buffers b).messages = contents b cs
  sessions : ∀ s, d.sessions s = ⟨channel s cs, ⟨searched s cs⟩, further s cs⟩

theorem toldStep {cs : List Command} {d : Desk} (told : Told cs d) (c : Command) :
    Told (cs ++ [c]) (d.step c) where
  limits b := (bufferStep c (told.limits b) (told.held b)).1
  held b := (bufferStep c (told.limits b) (told.held b)).2
  sessions s := sessionStep c told.held (told.sessions s)

theorem toldRun (cs : List Command) : Told cs (Desk.run cs) := by
  induction cs using List.reverseRecOn with
  | nil => exact ⟨fun _ => rfl, fun _ => List.drop_nil.symm, fun _ => rfl⟩
  | append_singleton cs c ih =>
    rw [Desk.runSnoc]
    exact toldStep ih c

theorem toldAnswer {cs : List Command} {d : Desk} (told : Told cs d) (c : Command) :
    d.answer c = answer cs c := by
  cases c with
  | snapshot b => rw [Desk.answer, answer, Buffer.snapshot, told.held]
  | mentions b => rw [Desk.answer, answer, Buffer.mentions, told.held]
  | search s query => rw [Desk.answer, answer, told.sessions]; rfl
  | _ => rfl

end Told

/- Nothing that is done later changes what a buffer held or an answer said. -/
theorem deskTold (cs : List Command) :
    (∀ b, ((Desk.run cs).buffers b).messages = contents b cs) ∧
      (Desk.run cs).answers = cs.mapIdx fun i c => answer (cs.take i) c := by
  refine ⟨(toldRun cs).held, ?_⟩
  induction cs using List.reverseRecOn with
  | nil => rfl
  | append_singleton cs c ih =>
    have earlier : cs.mapIdx (fun i c => answer (cs.take i) c) =
        cs.mapIdx (fun i d => answer ((cs ++ [c]).take i) d) := by
      rw [List.mapIdx_eq_mapIdx_iff]
      intro i inside
      rw [List.take_append_of_le_length (Nat.le_of_lt inside)]
    rw [Desk.runSnoc, Desk.step, ih, earlier, toldAnswer (toldRun cs), List.mapIdx_concat,
      List.take_left]

end Scrollback.Search
