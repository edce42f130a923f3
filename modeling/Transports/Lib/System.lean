import Mathlib.Algebra.Group.Units.Basic
import Mathlib.Data.List.Induction
import Mathlib.Logic.Relation
import Mathlib.Tactic.Abel

/-!
# Guarded transition systems

A system is an executable partial step function together with the set of its
initial states: `step s a = some t` when the event `a` is enabled in `s` and
leads to `t`, `none` when it is disabled. Replay (`runFrom`), reachability and
inductive invariants are all read off the one function, so the guards a proof
uses are the guards a replay checks.
-/

namespace Lib

/-- Initial states and a guarded step function. -/
structure System (σ α : Type*) where
  init : σ → Prop
  step : σ → α → Option σ

namespace System

variable {σ α τ β : Type*}

/-- Replay a list of events; `none` as soon as one of them is disabled. -/
def runFrom (sys : System σ α) : σ → List α → Option σ
  | s, [] => some s
  | s, a :: rest => (sys.step s a).bind fun t => sys.runFrom t rest

/-- The states some finite run from an initial state leads to. -/
inductive Reachable (sys : System σ α) : σ → Prop
  | init {s} : sys.init s → Reachable sys s
  | step {s a t} : Reachable sys s → sys.step s a = some t → Reachable sys t

/-- `P` holds in every reachable state. -/
def Invariant (sys : System σ α) (P : σ → Prop) : Prop :=
  ∀ s, sys.Reachable s → P s

@[simp] theorem runFrom_nil (sys : System σ α) (s : σ) :
    sys.runFrom s [] = some s := rfl

@[simp] theorem runFrom_cons (sys : System σ α) (s : σ) (a : α) (rest : List α) :
    sys.runFrom s (a :: rest) = (sys.step s a).bind fun t => sys.runFrom t rest := rfl

theorem runFrom_cons_some {sys : System σ α} {s u : σ} {a : α} {rest : List α} :
    sys.runFrom s (a :: rest) = some u ↔
      ∃ t, sys.step s a = some t ∧ sys.runFrom t rest = some u := by
  simp [Option.bind_eq_some_iff]

theorem runFrom_one {sys : System σ α} {s t : σ} {a : α} (taken : sys.step s a = some t) :
    sys.runFrom s [a] = some t :=
  runFrom_cons_some.mpr ⟨t, taken, rfl⟩

/-- A run of `first ++ second` is a run of `first` followed by one of `second`. -/
theorem runFrom_append (sys : System σ α) (s : σ) (first second : List α) :
    sys.runFrom s (first ++ second) =
      (sys.runFrom s first).bind fun t => sys.runFrom t second := by
  induction first generalizing s with
  | nil => rfl
  | cons a rest ih =>
      simp only [List.cons_append, runFrom_cons]
      cases h : sys.step s a with
      | none => rfl
      | some t => simpa using ih t

/-- The state after a list of events, or the start again if one of them is disabled. -/
def replay (sys : System σ α) (s : σ) (events : List α) : σ := (sys.runFrom s events).getD s

/-- A property of a run and where it led to, kept when the run goes on by a step. -/
theorem runFrom_induct {sys : System σ α} {s : σ} {P : List α → σ → Prop} (start : P [] s)
    (step : ∀ events t a u, sys.runFrom s events = some t → P events t →
      sys.step t a = some u → P (events ++ [a]) u)
    {events : List α} {t : σ} (run : sys.runFrom s events = some t) : P events t := by
  induction events using List.reverseRecOn generalizing t with
  | nil =>
      simp only [runFrom_nil, Option.some.injEq] at run
      exact run ▸ start
  | append_singleton before a ih =>
      rw [runFrom_append, Option.bind_eq_some_iff] at run
      obtain ⟨u, first, last⟩ := run
      obtain ⟨v, taken, done⟩ := runFrom_cons_some.mp last
      simp only [runFrom_nil, Option.some.injEq] at done
      subst done
      exact step before u a v first (ih first) taken

/-- What every step preserves, every run preserves. -/
theorem runFrom_preserves {sys : System σ α} {P : σ → Prop}
    (step : ∀ s a t, P s → sys.step s a = some t → P t) {s t : σ} {events : List α}
    (start : P s) (run : sys.runFrom s events = some t) : P t := by
  induction events generalizing s with
  | nil =>
      simp only [runFrom_nil, Option.some.injEq] at run
      exact run ▸ start
  | cons a rest ih =>
      obtain ⟨u, first, tail⟩ := runFrom_cons_some.mp run
      exact ih (step s a u start first) tail

/-- Runs never leave the reachable states. -/
theorem Reachable.run {sys : System σ α} {s t : σ} {events : List α}
    (reach : sys.Reachable s) (run : sys.runFrom s events = some t) : sys.Reachable t :=
  runFrom_preserves (fun _ _ _ before first => before.step first) reach run

theorem Reachable.replay {sys : System σ α} {s : σ} (start : sys.init s) (events : List α) :
    sys.Reachable (sys.replay s events) := by
  unfold System.replay
  cases run : sys.runFrom s events with
  | none => exact .init start
  | some t => exact (Reachable.init start).run run

/-- The induction that carries every invariant: it holds at the start and one
step keeps it, where the step may already use an invariant proved before. -/
theorem Invariant.of_step {sys : System σ α} {P Q : σ → Prop} (known : sys.Invariant Q)
    (init : ∀ s, sys.init s → P s)
    (step : ∀ s a t, Q s → P s → sys.step s a = some t → P t) : sys.Invariant P := by
  intro s reach
  induction reach with
  | init start => exact init _ start
  | step before last ih => exact step _ _ _ (known _ before) ih last

theorem Invariant.true (sys : System σ α) : sys.Invariant fun _ => True :=
  fun _ _ => trivial

/-! ## Progress -/

/-- Allowed steps alone lead from `s` into `Q`. -/
def Leads (sys : System σ α) (allowed : α → Prop) (Q : σ → Prop) (s : σ) : Prop :=
  ∃ events t, sys.runFrom s events = some t ∧ (∀ a ∈ events, allowed a) ∧ Q t

section Leads

variable {sys : System σ α} {allowed : α → Prop} {P Q : σ → Prop} {s t : σ} {a : α}

theorem Leads.here (arrived : Q s) : sys.Leads allowed Q s := by
  refine ⟨[], s, rfl, ?_, arrived⟩
  intro a member
  cases member

theorem Leads.step (later : sys.Leads allowed Q t) (taken : sys.step s a = some t)
    (ok : allowed a) : sys.Leads allowed Q s := by
  obtain ⟨events, u, run, rest, arrived⟩ := later
  refine ⟨a :: events, u, runFrom_cons_some.mpr ⟨t, taken, run⟩, ?_, arrived⟩
  intro b member
  rcases List.mem_cons.mp member with rfl | old
  · exact ok
  · exact rest b old

theorem Leads.imp (later : sys.Leads allowed P s) (weaken : ∀ t, P t → Q t) :
    sys.Leads allowed Q s := by
  obtain ⟨events, t, run, ok, arrived⟩ := later
  exact ⟨events, t, run, ok, weaken t arrived⟩

end Leads

/-! ## Bounded waits -/

/-- A wait of `n` ticks at most, `W n`, which each tick shortens and no other event prolongs:
a run that has not come to its end anywhere on the way has spent its ticks. -/
theorem runFrom_until {sys : System σ α} {W : Nat → σ → Prop} {done : σ → Prop} (tick : α → Bool)
    (step : ∀ n s a t, W n s → sys.step s a = some t →
      done t ∨ ∃ m, W m t ∧ m + (if tick a then 1 else 0) ≤ n)
    {n : Nat} {s t : σ} {events : List α} (start : W n s) (run : sys.runFrom s events = some t) :
    (∃ first later u, events = first ++ later ∧ sys.runFrom s first = some u ∧ done u) ∨
      ∃ m, W m t ∧ m + events.countP tick ≤ n := by
  induction events generalizing n s with
  | nil =>
      simp only [runFrom_nil, Option.some.injEq] at run
      subst run
      exact .inr ⟨n, start, Nat.le_refl _⟩
  | cons a rest ih =>
      obtain ⟨u, first, tail⟩ := runFrom_cons_some.mp run
      rcases step n s a u start first with ended | ⟨m, still, shorter⟩
      · exact .inl ⟨[a], rest, u, rfl, runFrom_one first, ended⟩
      · rcases ih still tail with ⟨way, later, v, rfl, there, ended⟩ | ⟨k, last, spent⟩
        · exact .inl ⟨a :: way, later, v, rfl, runFrom_cons_some.mpr ⟨u, first, there⟩, ended⟩
        · refine .inr ⟨k, last, ?_⟩
          rw [List.countP_cons]
          omega

/-- The same with a measure, where the end, once come to, stays. -/
theorem runFrom_waits {sys : System σ α} {waiting done : σ → Prop} (tick : α → Bool)
    (left : σ → Nat) (stay : ∀ s a t, done s → sys.step s a = some t → done t)
    (step : ∀ s a t, waiting s → sys.step s a = some t →
      done t ∨ waiting t ∧ left t + (if tick a then 1 else 0) ≤ left s)
    {s t : σ} {events : List α} (start : waiting s) (run : sys.runFrom s events = some t) :
    done t ∨ waiting t ∧ left t + events.countP tick ≤ left s := by
  have turn : ∀ n s a t, waiting s ∧ left s = n → sys.step s a = some t →
      done t ∨ ∃ m, (waiting t ∧ left t = m) ∧ m + (if tick a then 1 else 0) ≤ n := by
    rintro n s a t ⟨before, rfl⟩ taken
    rcases step s a t before taken with ended | ⟨still, shorter⟩
    · exact .inl ended
    · exact .inr ⟨left t, ⟨still, rfl⟩, shorter⟩
  rcases runFrom_until tick turn ⟨start, rfl⟩ run with
    ⟨first, later, u, rfl, there, ended⟩ | ⟨m, ⟨still, rfl⟩, spent⟩
  · have rest : sys.runFrom u later = some t := by
      rw [runFrom_append, there] at run
      exact run
    exact .inl (runFrom_preserves stay ended rest)
  · exact .inr ⟨still, spent⟩

/-! ## Simulation -/

/-- A forward simulation: every concrete step is a finite run of abstract steps,
possibly an empty one. -/
structure Simulation (conc : System σ α) (spec : System τ β) where
  abs : σ → τ
  init : ∀ s, conc.init s → spec.init (abs s)
  step : ∀ s a t, conc.Reachable s → conc.step s a = some t →
    ∃ events, spec.runFrom (abs s) events = some (abs t)

/-- Concrete reachable states abstract to reachable ones. -/
theorem Simulation.reachable {conc : System σ α} {spec : System τ β}
    (sim : Simulation conc spec) {s : σ} (reach : conc.Reachable s) :
    spec.Reachable (sim.abs s) := by
  induction reach with
  | init start => exact .init (sim.init _ start)
  | step before last ih =>
      obtain ⟨events, run⟩ := sim.step _ _ _ before last
      exact ih.run run

/-- A concrete run from a reachable state is an abstract one. -/
theorem Simulation.run {conc : System σ α} {spec : System τ β} (sim : Simulation conc spec)
    {s t : σ} {events : List α} (reach : conc.Reachable s)
    (run : conc.runFrom s events = some t) :
    ∃ abstract, spec.runFrom (sim.abs s) abstract = some (sim.abs t) := by
  induction events generalizing s with
  | nil =>
      simp only [runFrom_nil, Option.some.injEq] at run
      exact ⟨[], by rw [run]; rfl⟩
  | cons a rest ih =>
      obtain ⟨u, first, tail⟩ := runFrom_cons_some.mp run
      obtain ⟨moved, taken⟩ := sim.step s a u reach first
      obtain ⟨abstract, later⟩ := ih (reach.step first) tail
      refine ⟨moved ++ abstract, ?_⟩
      rw [runFrom_append, taken]
      exact later

/-- An abstract invariant holds of the abstraction of every concrete state. -/
theorem Simulation.invariant {conc : System σ α} {spec : System τ β}
    (sim : Simulation conc spec) {P : τ → Prop} (inv : spec.Invariant P) :
    conc.Invariant fun s => P (sim.abs s) :=
  fun _ reach => inv _ (sim.reachable reach)

/-- What every step appends to a list, a run appends. -/
theorem runFrom_collects {γ : Type*} {sys : System σ α} {log : σ → List γ} (entry : α → List γ)
    (step : ∀ s a t, sys.step s a = some t → log t = log s ++ entry a) {s t : σ}
    {events : List α} (run : sys.runFrom s events = some t) :
    log t = log s ++ events.flatMap entry := by
  induction events generalizing s with
  | nil =>
      simp only [runFrom_nil, Option.some.injEq] at run
      rw [run, List.flatMap_nil, List.append_nil]
  | cons a rest ih =>
      obtain ⟨u, first, tail⟩ := runFrom_cons_some.mp run
      rw [ih tail, step s a u first, List.flatMap_cons, List.append_assoc]

/-! ## Views -/

/-- A run seen through `view`: if each step is, to the related states, the event in its
view or nothing, then the run is the run of the events in view. -/
theorem runFrom_view {conc : System σ α} {spec : System τ β} {R : σ → τ → Prop}
    (view : α → Option β)
    (step : ∀ s u a t, R s u → conc.step s a = some t →
      ∃ v, spec.runFrom u (view a).toList = some v ∧ R t v)
    {s t : σ} {u : τ} {events : List α} (related : R s u)
    (run : conc.runFrom s events = some t) :
    ∃ v, spec.runFrom u (events.filterMap view) = some v ∧ R t v := by
  induction events generalizing s u with
  | nil =>
      simp only [runFrom_nil, Option.some.injEq] at run
      exact ⟨u, rfl, run ▸ related⟩
  | cons a rest ih =>
      obtain ⟨m, first, tail⟩ := runFrom_cons_some.mp run
      obtain ⟨w, here, after⟩ := step s u a m related first
      obtain ⟨v, later, last⟩ := ih after tail
      refine ⟨v, ?_, last⟩
      have split : (a :: rest).filterMap view = (view a).toList ++ rest.filterMap view := by
        rw [List.filterMap_cons]
        cases view a <;> rfl
      rw [split, runFrom_append, here]
      exact later

/-! ## Accounts

A run with two growing quantities, one of which may fall behind the other. -/

/-- Every step of the run from `s` is an `ok` one. -/
def Along (sys : System σ α) (ok : σ → α → Prop) : σ → List α → Prop
  | _, [] => True
  | s, a :: rest => ok s a ∧ ∀ t, sys.step s a = some t → sys.Along ok t rest

/-- Where every step is `ok`, those of any run are. -/
theorem along_of_forall {sys : System σ α} {ok : σ → α → Prop} (all : ∀ s a, ok s a) (s : σ)
    (events : List α) : sys.Along ok s events := by
  induction events generalizing s with
  | nil => trivial
  | cons a rest ih => exact ⟨all s a, fun t _ => ih t⟩

/-- If each step loses some of what is due, and loses nothing exactly when it is
`ok`, then a run loses nothing exactly when all its steps are `ok`. Losses never
cancel, so several accounts may be kept side by side. -/
theorem runFrom_lost {M : Type*} [AddCancelCommMonoid M] [Subsingleton (AddUnits M)]
    {sys : System σ α} {known : σ → Prop} {due paid : σ → M} {ok : σ → α → Prop}
    (keep : ∀ s a t, known s → sys.step s a = some t → known t)
    (step : ∀ s a t, known s → sys.step s a = some t →
      ∃ lost, due t + paid s = due s + paid t + lost ∧ (lost = 0 ↔ ok s a))
    {s t : σ} {events : List α} (start : known s) (run : sys.runFrom s events = some t) :
    ∃ lost, due t + paid s = due s + paid t + lost ∧ (lost = 0 ↔ sys.Along ok s events) := by
  induction events generalizing s with
  | nil =>
      simp only [runFrom_nil, Option.some.injEq] at run
      subst run
      exact ⟨0, by rw [add_zero], by simp [Along]⟩
  | cons a rest ih =>
      obtain ⟨u, first, tail⟩ := runFrom_cons_some.mp run
      obtain ⟨lost, balance, clean⟩ := step s a u start first
      obtain ⟨more, later, cleanLater⟩ := ih (keep s a u start first) tail
      refine ⟨lost + more, ?_, ?_⟩
      · apply add_right_cancel (b := paid u)
        calc due t + paid s + paid u
            = due t + paid u + paid s := by abel
          _ = due u + paid s + paid t + more := by rw [later]; abel
          _ = due s + paid t + (lost + more) + paid u := by rw [balance]; abel
      · simp only [Along, add_eq_zero, clean, cleanLater, first, Option.some.injEq]
        constructor
        · rintro ⟨here, after⟩
          exact ⟨here, fun t same => same ▸ after⟩
        · rintro ⟨here, after⟩
          exact ⟨here, after u rfl⟩

/-- A property each step keeps exactly when it is `ok` is lost by a run exactly when
some step of it is not. -/
theorem runFrom_along_iff {sys : System σ α} {known P : σ → Prop} {ok : σ → α → Prop}
    (keep : ∀ s a t, known s → sys.step s a = some t → known t)
    (step : ∀ s a t, known s → sys.step s a = some t → (P t ↔ P s ∧ ok s a))
    {s t : σ} {events : List α} (start : known s) (run : sys.runFrom s events = some t) :
    P t ↔ P s ∧ sys.Along ok s events := by
  induction events generalizing s with
  | nil =>
      simp only [runFrom_nil, Option.some.injEq] at run
      rw [run, Along, and_true]
  | cons a rest ih =>
      obtain ⟨u, first, tail⟩ := runFrom_cons_some.mp run
      rw [ih (keep s a u start first) tail, step s a u start first, and_assoc]
      simp only [Along, first, Option.some.injEq, forall_eq']

/-- What `ok` steps keep holds before every step of a run that makes no other, and may
say that its steps are `ok` in another sense too. -/
theorem Along.imp {sys : System σ α} {known : σ → Prop} {ok ok' : σ → α → Prop}
    (keep : ∀ s a t, known s → ok s a → sys.step s a = some t → known t)
    (weaken : ∀ s a, known s → ok s a → ok' s a) {s : σ} {events : List α} (start : known s)
    (along : sys.Along ok s events) : sys.Along ok' s events := by
  induction events generalizing s with
  | nil => trivial
  | cons a rest ih =>
      refine ⟨weaken s a start along.1, ?_⟩
      intro t taken
      exact ih (keep s a t start along.1 taken) (along.2 t taken)

/-! ## Lockstep -/

/-- Two systems that take the same events: from states `R` relates, an event is
enabled in both or in neither and leads to states `R` relates. -/
def Lockstep (left : System σ α) (right : System τ α) (R : σ → τ → Prop) : Prop :=
  ∀ s t a, R s t → Option.Rel R (left.step s a) (right.step t a)

/-- What the steps of two systems agree on, their runs agree on. -/
theorem Lockstep.run {left : System σ α} {right : System τ α} {R : σ → τ → Prop}
    (lock : Lockstep left right R) {s : σ} {t : τ} (related : R s t) (events : List α) :
    Option.Rel R (left.runFrom s events) (right.runFrom t events) := by
  induction events generalizing s t with
  | nil => exact .some related
  | cons a rest ih =>
      have step := lock s t a related
      simp only [runFrom_cons]
      generalize left.step s a = first at step ⊢
      generalize right.step t a = second at step ⊢
      cases step with
      | none => exact .none
      | some next => exact ih next

end System

end Lib
