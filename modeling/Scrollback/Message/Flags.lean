/-!
Flags of messages, their names, and sets of them.
-/

namespace Scrollback

inductive Flag where
  | subscription | highlighted | showInMentions | collapsed | whisper | system | action | disabled
  | timeout | firstMessage | reply
  deriving DecidableEq, Repr

namespace Flag

def all : List Flag :=
  [.subscription, .highlighted, .showInMentions, .collapsed, .whisper, .system, .action, .disabled,
    .timeout, .firstMessage, .reply]

def bit : Flag → Fin 11
  | .subscription => 0
  | .highlighted => 1
  | .showInMentions => 2
  | .collapsed => 3
  | .whisper => 4
  | .system => 5
  | .action => 6
  | .disabled => 7
  | .timeout => 8
  | .firstMessage => 9
  | .reply => 10

def ofSearchName? : String → Option Flag
  | "sub" | "subscription" => some .subscription
  | "highlighted" => some .highlighted
  | "mention" => some .showInMentions
  | "collapsed" => some .collapsed
  | "whisper" => some .whisper
  | "system" => some .system
  | "action" => some .action
  | "deleted" | "disabled" => some .disabled
  | "timeout" | "ban" => some .timeout
  | "first-msg" => some .firstMessage
  | "reply" => some .reply
  | _ => none

def ofRecordName? : String → Option Flag
  | "subscription" => some .subscription
  | "highlighted" => some .highlighted
  | "show-in-mentions" | "mention" => some .showInMentions
  | "collapsed" => some .collapsed
  | "whisper" => some .whisper
  | "system" => some .system
  | "action" => some .action
  | "disabled" | "deleted" => some .disabled
  | "timeout" | "ban" => some .timeout
  | "first-message" | "first-msg" => some .firstMessage
  | "reply" => some .reply
  | _ => none

end Flag

structure Flags where
  bits : BitVec 11
  deriving DecidableEq, Repr

namespace Flags

def empty : Flags := ⟨0⟩

instance : EmptyCollection Flags := ⟨empty⟩

def single (f : Flag) : Flags := ⟨BitVec.twoPow 11 f.bit⟩

def union (a b : Flags) : Flags := ⟨a.bits ||| b.bits⟩

instance : Union Flags := ⟨union⟩

def insert (a : Flags) (f : Flag) : Flags := a ∪ single f

def has (a : Flags) (f : Flag) : Bool := a.bits.getLsbD f.bit

@[simp] theorem has_empty (f : Flag) : (∅ : Flags).has f = false := by cases f <;> rfl

@[simp] theorem has_single (f g : Flag) : (single f).has g = decide (f = g) := by
  cases f <;> cases g <;> rfl

@[simp] theorem has_union (a b : Flags) (f : Flag) : (a ∪ b).has f = (a.has f || b.has f) :=
  BitVec.getLsbD_or

@[simp] theorem has_insert (a : Flags) (f g : Flag) :
    (a.insert f).has g = (a.has g || decide (f = g)) := by
  rw [insert, has_union, has_single]

theorem eq_of_has {a b : Flags} (same : ∀ f, a.has f = b.has f) : a = b := by
  have bitUsed : ∀ i : Fin 11, ∃ f ∈ Flag.all, f.bit = i := by decide
  have bits : a.bits = b.bits := by
    refine BitVec.eq_of_getLsbD_eq fun i inside => ?_
    obtain ⟨f, -, bit⟩ := bitUsed ⟨i, inside⟩
    simpa only [has, bit] using same f
  exact congrArg Flags.mk bits

def meets (a b : Flags) : Bool := a.bits &&& b.bits != 0

theorem meets_iff {a b : Flags} : a.meets b = true ↔ ∃ f, a.has f = true ∧ b.has f = true := by
  let common : Flags := ⟨a.bits &&& b.bits⟩
  have both (f : Flag) : common.has f = (a.has f && b.has f) := BitVec.getLsbD_and
  rw [meets, bne_iff_ne]
  constructor
  · intro filled
    have different : common ≠ ∅ := fun same => filled (congrArg bits same)
    refine Classical.byContradiction fun none => different (eq_of_has fun f => ?_)
    rw [both, has_empty, Bool.eq_false_iff, ne_eq, Bool.and_eq_true]
    exact fun shared => none ⟨f, shared⟩
  · rintro ⟨f, shared⟩ empty
    have none : common = ∅ := congrArg Flags.mk empty
    have here := both f
    rw [none, has_empty, Bool.and_eq_true_iff.mpr shared] at here
    contradiction

def ofList (fs : List Flag) : Flags := fs.foldl insert ∅

theorem has_foldl_insert (fs : List Flag) (a : Flags) (f : Flag) :
    (fs.foldl insert a).has f = (a.has f || fs.contains f) := by
  induction fs generalizing a with
  | nil => simp
  | cons g fs ih => simp [ih, Bool.or_assoc, eq_comm]

@[simp] theorem has_ofList (fs : List Flag) (f : Flag) : (ofList fs).has f = fs.contains f := by
  rw [ofList, has_foldl_insert, has_empty, Bool.false_or]

end Flags

end Scrollback
