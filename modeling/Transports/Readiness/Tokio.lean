import Mathlib.Logic.Function.Basic
import Transports.Readiness.Source

/-!
# tokio `readable`

Registered with the reactor, a socket has a cached readiness bit with a tick. The
driver sets the bit and bumps the tick when it processes an event; only a
`try_io` whose closure answers `WouldBlock` clears it, and only if the tick has
not moved since it looked. The raw receives touch none of this, so the bit may be
stale either way, and any number of tasks may be inside `readable`.

`Tracked` ties the pieces together: a readable socket has its bit set or an event
pending, and a task about to clear the bit it read has the event pending if the
socket has become readable since its peek.
-/

namespace Transports.Readiness.Tokio

open Lib Transports.Core Transports.Udp

/-- `peek_ready`, on what the peek answers. -/
def peekReady : Except IoError Nat → Except IoError Unit
  | .ok _ => .ok ()
  | .error e => .error e

/-- Where a task stands in `readable`. -/
inductive TaskPc
  | idle
  /-- in `sock.readable().await` -/
  | awaiting
  /-- about to enter `try_io` -/
  | trying
  /-- in `try_io`, the bit found set under this tick, about to peek -/
  | peeking (tick : Nat)
  /-- in `try_io` after a peek that answered `WouldBlock` -/
  | clearing (tick : Nat)
  | returned (result : Except TransportError Unit)
  deriving DecidableEq

/-- The socket, its registration once there is one, and the tasks. -/
structure Reactor (σ : Type) where
  base : σ
  registered : Bool
  bit : Bool
  tick : Nat
  /-- an event the driver has not processed -/
  pending : Bool
  tasks : Nat → TaskPc

inductive ReactorAction (α : Type)
  | base (a : α)
  | register
  | driver
  | readable (task : Nat)
  | wake (task : Nat)
  | awaitFails (task : Nat) (e : IoError)
  | tryIo (task : Nat)
  | peek (task : Nat) (fault : Option Fault)
  | clear (task : Nat)
  | done (task : Nat)
  | cancel (task : Nat)

variable {σ α : Type}

namespace Reactor

def goto (r : Reactor σ) (task : Nat) (pc : TaskPc) : Reactor σ :=
  { r with tasks := Function.update r.tasks task pc }

@[simp] theorem goto_self (r : Reactor σ) (task : Nat) (pc : TaskPc) :
    (r.goto task pc).tasks task = pc := Function.update_self ..

theorem goto_other {r : Reactor σ} {task other : Nat} {pc : TaskPc} (apart : other ≠ task) :
    (r.goto task pc).tasks other = r.tasks other := Function.update_of_ne apart ..

/-- `try_io` after its closure has answered: `Ok` and failures go to the caller,
a `WouldBlock` first to the registration. -/
def afterPeek (tick : Nat) : Except IoError Unit → TaskPc
  | .ok () => .returned (.ok ())
  | .error e => if e.kind = .wouldBlock then .clearing tick else .returned (.error (.io e))

def step (source : Source σ α) (r : Reactor σ) : ReactorAction α → Option (Reactor σ)
  | .base a =>
    (source.sys.step r.base a).map fun s =>
      { r with
        base := s
        pending :=
          if r.registered then raise (source.readable r.base) (source.readable s) r.pending
          else r.pending }
  | .register =>
    if r.registered then none
    else some { r with registered := true, pending := source.readable r.base }
  | .driver =>
    if r.pending then some { r with bit := true, tick := r.tick + 1, pending := false } else none
  | .readable task =>
    if r.registered ∧ r.tasks task = .idle then some (r.goto task .awaiting) else none
  | .wake task =>
    if r.tasks task = .awaiting ∧ r.bit then some (r.goto task .trying) else none
  -- the reactor is shutting down
  | .awaitFails task e =>
    if r.tasks task = .awaiting then some (r.goto task (.returned (.error (.io e)))) else none
  | .tryIo task =>
    if r.tasks task = .trying then
      -- a clear bit answers `WouldBlock` at once, and the loop continues
      some (r.goto task (if r.bit then .peeking r.tick else .awaiting))
    else none
  | .peek task fault =>
    match r.tasks task with
    | .peeking tick =>
      some (r.goto task (afterPeek tick (peekReady (source.probe fault r.base))))
    | _ => none
  | .clear task =>
    match r.tasks task with
    | .clearing tick =>
      some ({ r with bit := r.bit && decide (tick ≠ r.tick) }.goto task .awaiting)
    | _ => none
  | .done task =>
    match r.tasks task with
    | .returned _ => some (r.goto task .idle)
    | _ => none
  -- the future may be dropped where it is suspended
  | .cancel task => if r.tasks task = .awaiting then some (r.goto task .idle) else none

end Reactor

/-- All runs of a socket, its registration and the tasks in `readable`. -/
def reactor (source : Source σ α) : System (Reactor σ) (ReactorAction α) where
  init r :=
    source.sys.init r.base ∧ r.registered = false ∧ r.bit = false ∧ r.tick = 0 ∧
      r.pending = false ∧ r.tasks = fun _ => .idle
  step := Reactor.step source

/-! ## What a step can do -/

/-- One step, by what it does to the bit, the tick, the event and a task. -/
inductive Move (source : Source σ α) (r : Reactor σ) : ReactorAction α → Reactor σ → Prop
  | base {a s} (taken : source.sys.step r.base a = some s) :
      Move source r (.base a)
        { r with
          base := s
          pending :=
            if r.registered then raise (source.readable r.base) (source.readable s) r.pending
            else r.pending }
  | register (fresh : r.registered = false) :
      Move source r .register { r with registered := true, pending := source.readable r.base }
  | driver (pending : r.pending = true) :
      Move source r .driver { r with bit := true, tick := r.tick + 1, pending := false }
  | called {i} (registered : r.registered = true) (here : r.tasks i = .idle) :
      Move source r (.readable i) (r.goto i .awaiting)
  | woken {i} (here : r.tasks i = .awaiting) (set : r.bit = true) :
      Move source r (.wake i) (r.goto i .trying)
  | entered {i} (here : r.tasks i = .trying) (set : r.bit = true) :
      Move source r (.tryIo i) (r.goto i (.peeking r.tick))
  | refused {i} (here : r.tasks i = .trying) (unset : r.bit = false) :
      Move source r (.tryIo i) (r.goto i .awaiting)
  | saw {i tick fault} (here : r.tasks i = .peeking tick) (level : source.readable r.base = true) :
      Move source r (.peek i fault) (r.goto i (.returned (.ok ())))
  | missed {i tick fault} (here : r.tasks i = .peeking tick)
      (level : source.readable r.base = false) :
      Move source r (.peek i fault) (r.goto i (.clearing tick))
  | failed {i tick fault e} (here : r.tasks i = .peeking tick) :
      Move source r (.peek i fault) (r.goto i (.returned (.error e)))
  | cleared {i tick} (here : r.tasks i = .clearing tick) (same : tick = r.tick) :
      Move source r (.clear i) ({ r with bit := false }.goto i .awaiting)
  | kept {i tick} (here : r.tasks i = .clearing tick) (moved : tick ≠ r.tick) :
      Move source r (.clear i) (r.goto i .awaiting)
  | done {i result} (here : r.tasks i = .returned result) :
      Move source r (.done i) (r.goto i .idle)
  | cancelled {i} (here : r.tasks i = .awaiting) : Move source r (.cancel i) (r.goto i .idle)
  | shutDown {i e} (here : r.tasks i = .awaiting) :
      Move source r (.awaitFails i e) (r.goto i (.returned (.error (.io e))))

theorem move_peek {source : Source σ α} {r : Reactor σ} {i tick : Nat} (fault : Option Fault)
    (here : r.tasks i = .peeking tick) :
    Move source r (.peek i fault)
      (r.goto i (Reactor.afterPeek tick (peekReady (source.probe fault r.base)))) := by
  cases answer : source.probe fault r.base with
  | ok n => exact .saw here (Source.readable_of_probe_ok answer)
  | error e =>
      by_cases kind : e.kind = .wouldBlock
      · simp only [peekReady, Reactor.afterPeek, kind, if_true]
        exact .missed here (Source.not_readable_of_probe answer kind)
      · simp only [peekReady, Reactor.afterPeek, kind, if_false]
        exact .failed here

theorem move_of_step {source : Source σ α} {r t : Reactor σ} {a : ReactorAction α}
    (h : r.step source a = some t) : Move source r a t := by
  cases a with
  | base a =>
      simp only [Reactor.step, Option.map_eq_some_iff] at h
      obtain ⟨s, taken, rfl⟩ := h
      exact .base taken
  | register =>
      simp only [Reactor.step, Option.ite_none_left_eq_some, Option.some.injEq] at h
      obtain ⟨fresh, rfl⟩ := h
      exact .register (by simpa using fresh)
  | driver =>
      simp only [Reactor.step, Option.ite_none_right_eq_some, Option.some.injEq] at h
      obtain ⟨pending, rfl⟩ := h
      exact .driver pending
  | readable i =>
      simp only [Reactor.step, Option.ite_none_right_eq_some, Option.some.injEq] at h
      obtain ⟨⟨registered, here⟩, rfl⟩ := h
      exact .called registered here
  | wake i =>
      simp only [Reactor.step, Option.ite_none_right_eq_some, Option.some.injEq] at h
      obtain ⟨⟨here, set⟩, rfl⟩ := h
      exact .woken here set
  | awaitFails i e =>
      simp only [Reactor.step, Option.ite_none_right_eq_some, Option.some.injEq] at h
      obtain ⟨here, rfl⟩ := h
      exact .shutDown here
  | tryIo i =>
      simp only [Reactor.step, Option.ite_none_right_eq_some, Option.some.injEq] at h
      obtain ⟨here, rfl⟩ := h
      cases set : r.bit with
      | true => exact .entered here set
      | false => exact .refused here set
  | peek i fault =>
      simp only [Reactor.step] at h
      split at h
      · next tick here => cases h; exact move_peek fault here
      · cases h
  | clear i =>
      simp only [Reactor.step] at h
      split at h
      · next tick here =>
          cases h
          by_cases same : tick = r.tick
          · simp only [same, ne_eq, not_true, decide_false, Bool.and_false]
            exact .cleared here same
          · simp only [ne_eq, same, not_false_eq_true, decide_true, Bool.and_true]
            exact .kept here same
      · cases h
  | done i =>
      simp only [Reactor.step] at h
      split at h
      · next result here => cases h; exact .done here
      · cases h
  | cancel i =>
      simp only [Reactor.step, Option.ite_none_right_eq_some, Option.some.injEq] at h
      obtain ⟨here, rfl⟩ := h
      exact .cancelled here

/-! ## The bit, the event and the race between peek and clear -/

/-- What a task may rely on while it is inside `try_io`. -/
def TaskOk (source : Source σ α) (r : Reactor σ) : TaskPc → Prop
  | .peeking tick => tick ≤ r.tick
  | .clearing tick =>
    tick ≤ r.tick ∧ (source.readable r.base = true → tick = r.tick → r.pending = true)
  | _ => True

structure Tracked (source : Source σ α) (r : Reactor σ) : Prop where
  fresh : r.registered = false → ∀ i, r.tasks i = .idle
  covered : r.registered = true → source.readable r.base = true → r.bit = true ∨ r.pending = true
  tasks : ∀ i, TaskOk source r (r.tasks i)

/-- A task that is anywhere but idle runs over a registered socket. -/
theorem Tracked.registered {source : Source σ α} {r : Reactor σ} (tracked : Tracked source r)
    {i : Nat} {pc : TaskPc} (here : r.tasks i = pc) (busy : pc ≠ .idle) : r.registered = true := by
  cases registered : r.registered with
  | true => rfl
  | false => exact absurd (here ▸ tracked.fresh registered i) busy

/-- A task moves on by itself. -/
theorem Tracked.goto {source : Source σ α} {r : Reactor σ} (tracked : Tracked source r)
    {i : Nat} {pc : TaskPc} (registered : r.registered = true) (ok : TaskOk source r pc) :
    Tracked source (r.goto i pc) := by
  refine ⟨fun fresh => ?_, tracked.covered, fun j => ?_⟩
  · have fresh : r.registered = false := fresh
    simp [registered] at fresh
  · by_cases same : j = i
    · subst same
      rw [Reactor.goto_self]
      exact ok
    · rw [Reactor.goto_other same]
      exact tracked.tasks j

/-- What the socket does underneath: a rise is an event. -/
theorem Tracked.base {source : Source σ α} {r : Reactor σ} (tracked : Tracked source r) (s : σ) :
    Tracked source
      { r with
        base := s
        pending :=
          if r.registered then raise (source.readable r.base) (source.readable s) r.pending
          else r.pending } := by
  cases registered : r.registered with
  | false =>
      refine ⟨fun _ => tracked.fresh registered, fun known => (by cases known), fun i => ?_⟩
      show TaskOk _ _ (r.tasks i)
      rw [tracked.fresh registered i]
      trivial
  | true =>
      refine ⟨fun unknown => (by cases unknown), fun _ high => ?_, fun i => ?_⟩
      · show r.bit = true ∨ raise _ _ _ = true
        by_cases set : r.bit = true
        · exact .inl set
        · refine .inr (raise_covers ?_ high)
          intro before
          exact (tracked.covered registered before).resolve_left set
      · have ok := tracked.tasks i
        show TaskOk _ _ (r.tasks i)
        cases here : r.tasks i with
        | peeking tick =>
            rw [here] at ok
            exact ok
        | clearing tick =>
            -- a rise since the peek is an event the clear does not undo
            rw [here] at ok
            refine ⟨ok.1, fun high same => ?_⟩
            exact raise_covers (fun before => ok.2 before same) high
        | idle | awaiting | trying | returned => trivial

theorem tracked_move {source : Source σ α} {r t : Reactor σ} {a : ReactorAction α}
    (tracked : Tracked source r) (h : Move source r a t) : Tracked source t := by
  cases h with
  | base taken => exact tracked.base _
  | register fresh =>
      refine ⟨fun unknown => (by cases unknown), fun _ high => .inr high, fun i => ?_⟩
      show TaskOk _ _ (r.tasks i)
      rw [tracked.fresh fresh i]
      trivial
  | driver pending =>
      refine ⟨tracked.fresh, fun _ _ => .inl rfl, fun i => ?_⟩
      have ok := tracked.tasks i
      show TaskOk _ _ (r.tasks i)
      cases here : r.tasks i with
      | peeking tick =>
          rw [here] at ok
          exact Nat.le_succ_of_le ok
      | clearing tick =>
          -- the tick has moved, so this clear will do nothing
          rw [here] at ok
          refine ⟨Nat.le_succ_of_le ok.1, fun _ same => ?_⟩
          have := ok.1
          have same : tick = r.tick + 1 := same
          omega
      | idle | awaiting | trying | returned => trivial
  | called registered here => exact tracked.goto registered trivial
  | woken here | refused here | failed here | kept here | done here | cancelled here
    | shutDown here =>
      exact tracked.goto (tracked.registered here (by simp)) trivial
  | entered here set =>
      exact tracked.goto (tracked.registered here (by simp)) (Nat.le_refl _)
  | saw here level => exact tracked.goto (tracked.registered here (by simp)) trivial
  | @missed i tick fault here level =>
      have ok := tracked.tasks i
      rw [here] at ok
      refine tracked.goto (tracked.registered here (by simp)) ⟨ok, fun high => ?_⟩
      simp [level] at high
  | @cleared i tick here same =>
      have ok := tracked.tasks i
      rw [here] at ok
      have registered := tracked.registered here (by simp)
      -- the bit goes, but whatever is queued by now has its event
      have cleared : Tracked source { r with bit := false } :=
        ⟨tracked.fresh, fun _ high => .inr (ok.2 high same), tracked.tasks⟩
      exact cleared.goto registered trivial

theorem reactor_tracked (source : Source σ α) : (reactor source).Invariant (Tracked source) := by
  refine System.Invariant.of_step (System.Invariant.true _) ?_ ?_
  · rintro r ⟨_, unregistered, _, _, _, tasks⟩
    refine ⟨fun _ i => by rw [tasks], fun known => ?_, fun i => by rw [tasks]; trivial⟩
    simp [unregistered] at known
  · intro r a t _ tracked taken
    exact tracked_move tracked (move_of_step taken)

/-! ## Only a peek returns `Ok` -/

theorem Reactor.of_goto {r : Reactor σ} {i j : Nat} {pc x : TaskPc}
    (after : (r.goto j pc).tasks i = x) : i = j ∧ pc = x ∨ r.tasks i = x := by
  by_cases same : i = j
  · subst same
    rw [goto_self] at after
    exact .inl ⟨rfl, after⟩
  · rw [goto_other same] at after
    exact .inr after

/-- The step that makes `readable` return `Ok(())` is a peek at a readable socket. -/
theorem ok_of_move {source : Source σ α} {r t : Reactor σ} {a : ReactorAction α} {i : Nat}
    (h : Move source r a t) (before : r.tasks i ≠ .returned (.ok ()))
    (after : t.tasks i = .returned (.ok ())) :
    (∃ fault, a = .peek i fault) ∧ source.readable r.base = true := by
  cases h with
  | base | register | driver => exact absurd after before
  | @saw j tick fault here level =>
      rcases Reactor.of_goto after with ⟨rfl, _⟩ | old
      · exact ⟨⟨fault, rfl⟩, level⟩
      · exact absurd old before
  | called | woken | entered | refused | missed | failed | cleared | kept | done | cancelled
    | shutDown =>
      rcases Reactor.of_goto after with ⟨_, other⟩ | old
      · simp at other
      · exact absurd old before

/-! ## No task is stuck over a readable socket -/

/-- A step of the driver, or of the task itself. -/
def Helps (i : Nat) : ReactorAction α → Prop
  | .driver => True
  | .wake j | .tryIo j | .peek j none | .clear j => j = i
  | _ => False

/-- The driver and the task alone bring the task to `Ok(())`. -/
def Finishes (source : Source σ α) (i : Nat) (r : Reactor σ) : Prop :=
  (reactor source).Leads (Helps i) (fun t => t.tasks i = .returned (.ok ())) r

section Progress

variable {source : Source σ α} {r : Reactor σ} {i : Nat}

theorem finishes_peeking {tick : Nat} (here : r.tasks i = .peeking tick)
    (level : source.readable r.base = true) : Finishes source i r := by
  obtain ⟨n, answer⟩ := Source.readable_iff.mp level
  have taken : (reactor source).step r (.peek i none) = some (r.goto i (.returned (.ok ()))) := by
    simp [reactor, Reactor.step, here, Source.probe, answer, peekReady, Reactor.afterPeek]
  have returned : Finishes source i (r.goto i (.returned (.ok ()))) :=
    .here (Reactor.goto_self ..)
  exact returned.step taken rfl

theorem finishes_trying (here : r.tasks i = .trying) (set : r.bit = true)
    (level : source.readable r.base = true) : Finishes source i r := by
  have taken : (reactor source).step r (.tryIo i) = some (r.goto i (.peeking r.tick)) := by
    simp [reactor, Reactor.step, here, set]
  have next : Finishes source i (r.goto i (.peeking r.tick)) :=
    finishes_peeking (Reactor.goto_self ..) level
  exact next.step taken rfl

theorem finishes_awaiting_set (here : r.tasks i = .awaiting) (set : r.bit = true)
    (level : source.readable r.base = true) : Finishes source i r := by
  have taken : (reactor source).step r (.wake i) = some (r.goto i .trying) := by
    simp [reactor, Reactor.step, here, set]
  have next : Finishes source i (r.goto i .trying) :=
    finishes_trying (Reactor.goto_self ..) set level
  exact next.step taken rfl

/-- With the bit clear there is an event, and the driver sets the bit. -/
theorem finishes_awaiting (tracked : Tracked source r) (here : r.tasks i = .awaiting)
    (level : source.readable r.base = true) : Finishes source i r := by
  have registered := tracked.registered here (by simp)
  rcases tracked.covered registered level with set | pending
  · exact finishes_awaiting_set here set level
  · have taken : (reactor source).step r .driver =
        some { r with bit := true, tick := r.tick + 1, pending := false } := by
      simp [reactor, Reactor.step, pending]
    have later : Finishes source i { r with bit := true, tick := r.tick + 1, pending := false } :=
      finishes_awaiting_set here rfl level
    exact later.step taken trivial

/-- The same from anywhere inside `readable`. -/
theorem finishes_inside (tracked : Tracked source r) (called : r.tasks i ≠ .idle)
    (inside : ∀ result, r.tasks i ≠ .returned result) (level : source.readable r.base = true) :
    Finishes source i r := by
  cases here : r.tasks i with
  | idle => exact absurd here called
  | returned result => exact absurd here (inside result)
  | awaiting => exact finishes_awaiting tracked here level
  | peeking tick => exact finishes_peeking here level
  | trying =>
      by_cases set : r.bit = true
      · exact finishes_trying here set level
      · -- back to waiting, where the event is
        have taken : (reactor source).step r (.tryIo i) = some (r.goto i .awaiting) := by
          simp [reactor, Reactor.step, here, set]
        have next := tracked_move tracked (move_of_step (a := .tryIo i) taken)
        have later : Finishes source i (r.goto i .awaiting) :=
          finishes_awaiting next (Reactor.goto_self ..) level
        exact later.step taken rfl
  | clearing tick =>
      have taken : (reactor source).step r (.clear i) =
          some ({ r with bit := r.bit && decide (tick ≠ r.tick) }.goto i .awaiting) := by
        simp only [reactor, Reactor.step, here]
      have next := tracked_move tracked (move_of_step (a := .clear i) taken)
      have later : Finishes source i
          ({ r with bit := r.bit && decide (tick ≠ r.tick) }.goto i .awaiting) :=
        finishes_awaiting next (Reactor.goto_self ..) level
      exact later.step taken rfl

end Progress

/-- What `readable` promises in one state, `queued` saying that something is there
to read. -/
structure Reflects (source : Source σ α) (queued : σ → Prop) (r : Reactor σ) : Prop where
  /-- `Ok(())` comes of a peek that saw it -/
  honest : ∀ a t i, (reactor source).step r a = some t → r.tasks i ≠ .returned (.ok ()) →
    t.tasks i = .returned (.ok ()) → (∃ fault, a = .peek i fault) ∧ queued r.base
  /-- queued, the bit clear and no event: never -/
  covered : ¬(r.registered = true ∧ queued r.base ∧ r.bit = false ∧ r.pending = false)
  /-- no task inside `readable` is stuck -/
  progress : ∀ i, r.tasks i ≠ .idle → (∀ result, r.tasks i ≠ .returned result) →
    queued r.base → Finishes source i r

theorem reactor_reflects (source : Source σ α) {queued : σ → Prop}
    (level : ∀ s, source.readable s = true ↔ queued s) :
    (reactor source).Invariant (Reflects source queued) := by
  intro r reach
  have tracked := reactor_tracked source r reach
  refine ⟨?_, ?_, ?_⟩
  · intro a t i taken before after
    obtain ⟨peeked, saw⟩ := ok_of_move (move_of_step taken) before after
    exact ⟨peeked, (level _).mp saw⟩
  · rintro ⟨registered, something, clear, lost⟩
    rcases tracked.covered registered ((level _).mpr something) with set | pending
    · simp [clear] at set
    · simp [lost] at pending
  · intro i called inside something
    exact finishes_inside tracked called inside ((level _).mpr something)

/-- **`readable`.** In every run of either transport, with any number of tasks: it
returns `Ok(())` only from a peek that saw a datagram, a byte or the end of the
stream; something queued with the bit clear and no event pending is never
reached; and so no task inside it is stuck while something is queued. -/
theorem readable_reflects (slabCount slabSize : Nat) :
    (∀ r, (reactor (udp .tokio slabCount slabSize)).Reachable r →
      Reflects (udp .tokio slabCount slabSize) (fun w => w.queue ≠ []) r) ∧
    ∀ r, (reactor (tcp .tokio)).Reachable r →
      Reflects (tcp .tokio) (fun s => s.sock.queued ≠ [] ∨ s.sock.closed = true) r :=
  ⟨reactor_reflects _ fun _ => udp_readable_iff, reactor_reflects _ fun _ => tcp_readable_iff⟩

/-- The bit is stale, a task peeks in vain, a datagram arrives, and then the task
clears the bit. -/
def raced : Reactor World :=
  (reactor (udp .tokio 1 2)).replay ⟨oneSlot, false, false, 0, false, fun _ => .idle⟩
    ([.base (.newBatch 1), .register, .base (.arrive ⟨[1], someSender⟩), .driver,
      .base (.recvBurst 0 1), .base (.next none), .base (.next none), .base (.next none),
      .readable 0, .wake 0, .tryIo 0, .peek 0 none, .base (.arrive ⟨[2], someSender⟩), .clear 0])

theorem readable_reflects_raced : raced.bit = false ∧ ¬raced.pending = false := by
  have start : (reactor (udp .tokio 1 2)).init ⟨oneSlot, false, false, 0, false, fun _ => .idle⟩ :=
    ⟨⟨_, _, rfl, rfl⟩, rfl, rfl, rfl, rfl, rfl⟩
  have unset : raced.bit = false := by decide
  refine ⟨unset, fun lost => ?_⟩
  have promised := (readable_reflects 1 2).1 raced (.replay start _)
  exact promised.covered ⟨by decide, by decide, unset, lost⟩

end Transports.Readiness.Tokio
