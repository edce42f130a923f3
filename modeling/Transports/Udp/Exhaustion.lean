import Transports.Udp.Custody

/-!
# What `PoolExhausted` reports

The acquire that fails and the read of `in_use` for the error are two critical sections
of the free list. A slab dropped between them is counted as free, and the error then
names a pool that is not exhausted.
-/

namespace Transports.Udp

open Lib Transports.Core Transports.Pool

/-- An exhausted pool is reported with every slab out. -/
def ReportsFull (returned : Nat × Except TransportError Nat) : Prop :=
  ∀ inUse capacity, returned.2 = .error (.poolExhausted inUse capacity) → inUse = capacity

/-- The step reads `in_use` for the error, and a slot is free again. -/
def StaleRead (w : World) (a : Action) : Prop :=
  ∃ fault c, a = .next fault ∧ w.call = some c ∧ c.pc = .exhausted ∧ w.pool.free ≠ []

/-- The step drops a slab while a call is between the two critical sections. -/
def DropsBetween (w : World) (a : Action) : Prop :=
  (∃ c, w.call = some c ∧ c.pc = .exhausted) ∧ ∃ k, a = .dropFrame k ∨ a = .dropSlab k

/-- The step is the acquire that fails. -/
def Refuses (w : World) (a : Action) (t : World) : Prop :=
  ∃ fault c c', a = .next fault ∧ w.call = some c ∧ c.pc = .acquiring ∧
    t.call = some c' ∧ c'.pc = .exhausted

section Steps

variable {b : Backend} {slabCount slabSize : Nat} {w t : World} {a : Action}

theorem inUse_eq_capacity_iff (owned : Owned slabCount slabSize w.toShared) :
    w.pool.inUse = w.pool.capacity ↔ w.pool.free = [] := by
  have slots : w.pool.free.length + w.live.card = w.pool.slabs.length := owned.free_add_live
  rw [← List.length_eq_zero_iff]
  unfold VecPool.inUse VecPool.capacity
  omega

theorem refused_full (owned : Owned slabCount slabSize w.toShared) (step : Step b w a t)
    (refuses : Refuses w a t) : w.pool.inUse = w.pool.capacity := by
  obtain ⟨fault, c, c', rfl, running, pc, next, pc'⟩ := refuses
  rw [inUse_eq_capacity_iff owned]
  cases step with
  | refused _ _ _ none => exact VecPool.acquire_full_none.mp none
  | acquired =>
      cases next
      cases pc'
  | finished | exhausted | released | aborted => cases next
  | landed own other | stopped own other =>
      rw [running, Option.some.injEq] at own
      rw [← own, pc] at other
      cases other

theorem not_staleRead_of_pc {c : BurstCall} (running : w.call = some c)
    (pc : c.pc ≠ .exhausted) : ¬ StaleRead w a := by
  rintro ⟨fault, c', _, own, stale, _⟩
  rw [running, Option.some.injEq] at own
  exact pc (own ▸ stale)

theorem reportsFull_append {returned : List (Nat × Except TransportError Nat)}
    {last : Nat × Except TransportError Nat} :
    (∀ r ∈ returned ++ [last], ReportsFull r) ↔
      (∀ r ∈ returned, ReportsFull r) ∧ ReportsFull last := by
  simp only [List.forall_mem_append, List.forall_mem_singleton]

/-- One step keeps the reports honest exactly if it is not a stale read. -/
theorem reportsFull_step (owned : Owned slabCount slabSize w.toShared) (step : Step b w a t) :
    (∀ returned ∈ t.returns, ReportsFull returned) ↔
      (∀ returned ∈ w.returns, ReportsFull returned) ∧ ¬ StaleRead w a := by
  cases step with
  | arrive | newBatch | call | drain | dropFrame | acquireNone | acquire | write | setLen
  | dropSlab =>
      refine (and_iff_left ?_).symm
      rintro ⟨_, _, ⟨⟩, _⟩
  | acquired running pc | refused running pc | landed running pc | stopped running pc =>
      refine (and_iff_left ?_).symm
      apply not_staleRead_of_pc running
      rw [pc]
      exact BurstPc.noConfusion
  | finished running pc | released running pc | aborted running pc =>
      -- what is returned is a count or a socket error
      refine reportsFull_append.trans (and_congr_right fun _ => iff_of_true ?_ ?_)
      · rintro inUse capacity ⟨⟩
      · apply not_staleRead_of_pc running
        rw [pc]
        exact BurstPc.noConfusion
  | @exhausted fault c running pc =>
      have stale : StaleRead w (.next fault) ↔ w.pool.free ≠ [] := by
        constructor
        · rintro ⟨_, _, _, _, _, some⟩
          exact some
        · intro some
          exact ⟨fault, c, rfl, running, pc, some⟩
      have full : ReportsFull (c.cap, .error (.poolExhausted w.pool.inUse w.pool.capacity)) ↔
          w.pool.free = [] := by
        rw [← inUse_eq_capacity_iff owned]
        constructor
        · intro reported
          exact reported _ _ rfl
        · rintro same _ _ ⟨⟩
          exact same
      rw [stale, not_not, ← full]
      exact reportsFull_append

/-- Unless a slab is dropped in between, none is free when `in_use` is read. -/
theorem exhausted_kept (empty : ∀ c, w.call = some c → c.pc = .exhausted → w.pool.free = [])
    (held : ¬ DropsBetween w a) (step : Step b w a t) :
    ∀ c, t.call = some c → c.pc = .exhausted → t.pool.free = [] := by
  intro c running pc
  cases step with
  | arrive | newBatch | drain | acquireNone | setLen => exact empty c running pc
  | write => exact empty c running pc
  | dropFrame => exact absurd ⟨⟨c, running, pc⟩, _, .inl rfl⟩ held
  | dropSlab => exact absurd ⟨⟨c, running, pc⟩, _, .inr rfl⟩ held
  | acquire got =>
      have some := (VecPool.acquire_some got).2.2.1
      rw [empty c running pc] at some
      cases some
  | refused _ _ _ none => exact VecPool.acquire_full_none.mp none
  | call | acquired | landed | stopped =>
      cases running
      cases pc
  | finished | exhausted | released | aborted => cases running

end Steps

/-- **What `PoolExhausted` reports.** The acquire that fails finds every slab out. In a
run among other threads every `PoolExhausted` returned says so, `in_use` equal to
`capacity`, if and only if no step reads `in_use` while a slot is free again; and that
holds if no slab is dropped between the failed acquire and the read. -/
theorem exhausted_reported_iff (b : Backend) (slabCount slabSize : Nat) {w t : World}
    {events : List Action} (start : (world b slabCount slabSize).init w)
    (run : (world b slabCount slabSize).runFrom w events = some t) :
    ((∀ returned ∈ t.returns, ReportsFull returned) ↔
      (world b slabCount slabSize).Along (fun w a => ¬ StaleRead w a) w events) ∧
    ((world b slabCount slabSize).Along (fun w a => ¬ DropsBetween w a) w events →
      (world b slabCount slabSize).Along (fun w a => ¬ StaleRead w a) w events) ∧
    ∀ a u, (world b slabCount slabSize).step t a = some u → Refuses t a u →
      t.pool.inUse = t.pool.capacity := by
  have reach := System.Reachable.init start
  have keep : ∀ w a t, (world b slabCount slabSize).Reachable w →
      (world b slabCount slabSize).step w a = some t →
      (world b slabCount slabSize).Reachable t := by
    intro w a t before taken
    exact before.step taken
  have owned := world_owned b slabCount slabSize
  obtain ⟨pool, metrics, _, rfl⟩ := start
  refine ⟨?_, ?_, ?_⟩
  · have step : ∀ w a t, (world b slabCount slabSize).Reachable w →
        (world b slabCount slabSize).step w a = some t →
        ((∀ returned ∈ t.returns, ReportsFull returned) ↔
          (∀ returned ∈ w.returns, ReportsFull returned) ∧ ¬ StaleRead w a) := by
      intro w a t before taken
      exact reportsFull_step (owned w before) (step_of_step taken)
    rw [System.runFrom_along_iff keep step reach run]
    refine and_iff_right ?_
    intro returned none
    cases none
  · intro held
    have kept : ∀ w a t, (∀ c, w.call = some c → c.pc = .exhausted → w.pool.free = []) →
        ¬ DropsBetween w a → (world b slabCount slabSize).step w a = some t →
        ∀ c, t.call = some c → c.pc = .exhausted → t.pool.free = [] := by
      intro w a t empty held taken
      exact exhausted_kept empty held (step_of_step taken)
    refine System.Along.imp kept ?_ ?_ held
    · rintro w a empty _ ⟨_, c, _, running, pc, some⟩
      exact some (empty c running pc)
    · intro c running
      cases running
  · intro a u taken refuses
    exact refused_full (owned t (reach.run run)) (step_of_step taken) refuses

/-- The one slot is out, a call is refused it, and it is dropped before the call reads
`in_use`. -/
def droppedBetween : List Action :=
  [.acquire 2, .newBatch 1, .recvBurst 0 1, .next none, .dropSlab 0, .next none]

/-- The same without the drop. -/
def heldBetween : List Action :=
  [.acquire 2, .newBatch 1, .recvBurst 0 1, .next none, .next none]

theorem exhausted_reported_iff_held :
    (world .tokio 1 2).Along (fun w a => ¬ StaleRead w a) oneSlot heldBetween ∧
      (played .tokio heldBetween).returns = [(1, .error (.poolExhausted 1 1))] := by
  have start : (world .tokio 1 2).init oneSlot := ⟨_, _, rfl, rfl⟩
  have run : (world .tokio 1 2).runFrom oneSlot heldBetween =
      some (played .tokio heldBetween) := rfl
  have reported : ∀ returned ∈ (played .tokio heldBetween).returns, ReportsFull returned := by
    intro returned member
    rw [List.mem_singleton.mp member]
    rintro _ _ ⟨⟩
    rfl
  exact ⟨(exhausted_reported_iff .tokio 1 2 start run).1.mp reported, rfl⟩

/-- Both backends then report an exhausted pool with no slab in use. -/
theorem exhausted_with_free_slab :
    (world .tokio 1 2).Reachable (played .tokio droppedBetween) ∧
    (played .tokio droppedBetween).returns = [(1, .error (.poolExhausted 0 1))] ∧
    (world .mio 1 2).Reachable (played .mio droppedBetween) ∧
    (played .mio droppedBetween).returns = [(1, .error (.poolExhausted 0 1))] ∧
    (TransportError.poolExhausted 0 1).display =
      "buffer pool exhausted (in_use 0 / capacity 1)" :=
  ⟨played_reachable .tokio droppedBetween, rfl, played_reachable .mio droppedBetween, rfl, rfl⟩

end Transports.Udp
