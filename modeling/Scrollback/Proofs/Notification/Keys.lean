import Scrollback.Proofs.Notification.Suppression

/-! Requests about different things leave each other alone. All share one memory, and each of them
forgets what is too old for it, whatever that is about; but with one delay and times that grow, the
next request about the forgotten thing would have forgotten it as well. Without growing times this
fails: a request from a later time can release what an earlier one would hold back. -/
namespace Scrollback.Notification

theorem beforeKeeps {now later t : Instant} {delay : Nat} (order : now.nanos ≤ later.nanos)
    (recent : ((later.before? delay).all fun c => c.nanos < t.nanos) = true) :
    ((now.before? delay).all fun c => c.nanos < t.nanos) = true := by
  simp only [Instant.before?] at recent ⊢
  split
  · rename_i found
    rw [if_pos (by omega)] at recent
    simp only [Option.all_some, decide_eq_true_eq] at recent ⊢
    omega
  · rfl

theorem outcomeSame {isFile : String → Bool} {a b : Recent} {r : Request}
    (same : (a.forget r.cutoff).contains r.key = (b.forget r.cutoff).contains r.key) :
    (notify a r isFile).2 = (notify b r isFile).2 := by
  cases admitted : r.isAdmitted with
  | false => rw [notifyIdle admitted, notifyIdle admitted]
  | true => rw [notifyOutcome admitted, notifyOutcome admitted, same]

/- Two memories that no request about a thing can tell apart, from some time on. -/
def Alike (k : Key) (delay : Nat) (now : Instant) (a b : Recent) : Prop :=
  ∀ later : Instant, now.nanos ≤ later.nanos → ∀ t,
    (k, t) ∈ (a.forget (later.before? delay)).entries ↔
      (k, t) ∈ (b.forget (later.before? delay)).entries

namespace Alike
variable {isFile : String → Bool} {k : Key} {delay : Nat} {now later : Instant} {a b : Recent}
  {r : Request}

theorem mono (alike : Alike k delay now a b) (order : now.nanos ≤ later.nanos) :
    Alike k delay later a b :=
  fun further above => alike further (Int.le_trans order above)

theorem contains (alike : Alike k delay r.now a b) (key : r.key = k)
    (window : r.settings.window = delay) :
    (a.forget r.cutoff).contains r.key = (b.forget r.cutoff).contains r.key := by
  have here := alike r.now (Int.le_refl _)
  rw [Bool.eq_iff_iff, containsIff, containsIff, key, Request.cutoff, window]
  simp only [here]

/- What one request leaves, seen from later: a request about something else adds nothing of
interest, and what it forgets is too old by then. -/
theorem notifyOther (other : r.key ≠ k) (window : r.settings.window = delay) :
    Alike k delay r.now (notify a r isFile).1 a := by
  intro later order t
  cases admitted : r.isAdmitted with
  | false => rw [notifyIdle admitted]
  | true =>
    rw [forgetMem, notifyMem admitted, forgetMem, forgetMem, Request.cutoff, window]
    constructor
    · rintro ⟨⟨member, -⟩ | ⟨-, same, -⟩, recent⟩
      · exact ⟨member, recent⟩
      · exact absurd same.symm other
    · rintro ⟨member, recent⟩
      exact ⟨.inl ⟨member, beforeKeeps order recent⟩, recent⟩

theorem notifySame (alike : Alike k delay r.now a b) (key : r.key = k)
    (window : r.settings.window = delay) :
    Alike k delay r.now (notify a r isFile).1 (notify b r isFile).1 := by
  intro later order t
  cases admitted : r.isAdmitted with
  | false =>
    rw [notifyIdle admitted, notifyIdle admitted]
    exact alike later order t
  | true =>
    have here := alike r.now (Int.le_refl _) t
    have outcome : (notify a r isFile).2 = (notify b r isFile).2 :=
      outcomeSame (alike.contains key window)
    rw [forgetMem, forgetMem, notifyMem admitted, notifyMem admitted, outcome, Request.cutoff,
      window, here]

theorem trans {c : Recent} (first : Alike k delay now a b) (second : Alike k delay now b c) :
    Alike k delay now a c :=
  fun later order t => (first later order t).trans (second later order t)

end Alike

/- The induction keeps two memories: that of all requests, and that of the requests about one
thing alone. -/
theorem runAlike {isFile : String → Bool} {k : Key} {delay : Nat} {rs : List Request}
    (fixed : ∀ r ∈ rs, r.settings.window = delay)
    (ordered : rs.Pairwise fun q r => q.now.nanos ≤ r.now.nanos) {a b : Recent}
    (alike : ∀ r ∈ rs, Alike k delay r.now a b) :
    ((rs.zip (run isFile a rs)).filter (·.1.key = k)).map (·.2) =
      run isFile b (rs.filter (·.key = k)) := by
  induction rs generalizing a b with
  | nil => rfl
  | cons r rs ih =>
    obtain ⟨first, ordered⟩ := List.pairwise_cons.mp ordered
    obtain ⟨window, fixed⟩ := List.forall_mem_cons.mp fixed
    obtain ⟨here, alike⟩ := List.forall_mem_cons.mp alike
    by_cases key : r.key = k
    · have next := ih fixed ordered (a := (notify a r isFile).1) (b := (notify b r isFile).1)
        fun s member => (here.notifySame key window).mono (first s member)
      simp only [run, List.zip_cons_cons, List.filter_cons, key, decide_true, if_true, List.map_cons,
        next, outcomeSame (here.contains key window)]
    · have next := ih fixed ordered (a := (notify a r isFile).1) (b := b)
        fun s member => ((Alike.notifyOther key window).trans here).mono (first s member)
      simp only [run, List.zip_cons_cons, List.filter_cons, key, decide_false, Bool.false_eq_true,
        if_false, next]

/-- The requests about one thing have the outcomes that they would have alone, and so the same
signals. -/
theorem keysApart {isFile : String → Bool} {rs : List Request} {settings : Settings}
    (fixed : ∀ r ∈ rs, r.settings = settings)
    (ordered : rs.Pairwise fun q r => q.now.nanos ≤ r.now.nanos) (k : Key) :
    run isFile {} (rs.filter (·.key = k)) =
      ((rs.zip (run isFile {} rs)).filter (·.1.key = k)).map (·.2) :=
  (runAlike (fun r member => congrArg Settings.window (fixed r member)) ordered
    fun _ _ _ _ _ => Iff.rfl).symm

-- An alert about an author, at some milliseconds after the calendar begins.
def alertOf (author : String) (millis : Int) : Request where
  now := ⟨Instant.earliest.nanos + millis * Instant.perMilli⟩
  settings := { delay := some 1000 }
  sound := {}
  message := { timestamp := ⟨0, 0⟩, channel := "#a", author, text := "hi" }
  highlight := { alert := true }
  focused := false

/- The first two alerts are too early for anything to be forgotten. It is the alert about `c` that
forgets the one about `b`, which is due by then. -/
def earlyAlerts : List Request :=
  [alertOf "b" 0, alertOf "c" 400, alertOf "b" 900, alertOf "c" 1000, alertOf "b" 1000]

theorem earlyAlertsApart :
    (∀ r ∈ earlyAlerts, r.settings = { delay := some 1000 }) ∧
      (earlyAlerts.Pairwise fun q r => q.now.nanos ≤ r.now.nanos) ∧
      (run (fun _ => false) {} [alertOf "b" 0, alertOf "b" 900, alertOf "b" 1000]).map
        (·.isSuppressed) = [false, true, false] ∧
      run (fun _ => false) {} (earlyAlerts.filter (·.key = (alertOf "b" 0).key)) =
        ((earlyAlerts.zip (run (fun _ => false) {} earlyAlerts)).filter
          (·.1.key = (alertOf "b" 0).key)).map (·.2) := by
  have fixed : ∀ r ∈ earlyAlerts, r.settings = { delay := some 1000 } := by decide
  have ordered : earlyAlerts.Pairwise fun q r => q.now.nanos ≤ r.now.nanos := by decide
  exact ⟨fixed, ordered, by decide, keysApart fixed ordered _⟩

-- Times that go back: the alert about `c` releases one about `b` that would be held back alone.
example :
    (run (fun _ => false) {} [alertOf "b" 0, alertOf "c" 5000, alertOf "b" 500]).map
      (·.isSuppressed) = [false, false, false] ∧
    (run (fun _ => false) {} [alertOf "b" 0, alertOf "b" 500]).map
      (·.isSuppressed) = [false, true] := by decide

end Scrollback.Notification
