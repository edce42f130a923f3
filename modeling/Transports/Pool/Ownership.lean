import Mathlib.Data.Multiset.MapFold
import Transports.Pool.VecPool

/-!
# Slot ownership over whole runs

`Shared` is one `Arc<VecPool>` with everything that points at it: the
`SharedVecPool` handles and the live `VecSlab`s, wherever they are held. An
event is one critical section of the free list (or an access to a slab its
holder owns alone), so the runs of `shared` are the interleavings of any number
of threads, handles and holders.

The invariant is `Owned`: the free list and the indices of the live slabs are
together `0..slab_count`, each once. One step lemma carries it; the corollaries
are what the callers of the pool rely on.
-/

namespace Transports.Pool

open Lib

/-- The pool, the live slabs of all holders, and the number of handles. -/
structure Shared where
  pool : VecPool
  live : Multiset VecSlab
  handles : Nat
  deriving DecidableEq

inductive PoolEvent
  | clone
  | dropHandle
  | acquire (len : Nat)
  | inUse
  | drop (slab : VecSlab)
  | write (slab : VecSlab) (data : List UInt8)
  | setLen (slab : VecSlab) (len : Nat)

namespace Shared

/-- `SharedVecPool::new`: one handle, no slab out. -/
def new (pool : VecPool) : Shared := ⟨pool, 0, 1⟩

/-- `acquire`, `in_use` and `clone` need a handle; a live slab needs none, so
its drop is enabled after the last handle is gone. -/
def step (s : Shared) : PoolEvent → Option Shared
  | .clone => if 0 < s.handles then some { s with handles := s.handles + 1 } else none
  | .dropHandle => if 0 < s.handles then some { s with handles := s.handles - 1 } else none
  | .acquire len =>
    if 0 < s.handles then
      match s.pool.acquire len with
      | none => some s
      | some (slab, pool) => some { s with pool, live := slab ::ₘ s.live }
    else none
  | .inUse => if 0 < s.handles then some s else none
  | .drop slab =>
    if slab ∈ s.live then
      some { s with pool := s.pool.release slab, live := s.live.erase slab }
    else none
  | .write slab data =>
    if slab ∈ s.live then some { s with pool := s.pool.write slab data } else none
  | .setLen slab len =>
    if slab ∈ s.live then
      some { s with live := slab.setLen len ::ₘ s.live.erase slab }
    else none

end Shared

/-- All runs over a pool of `slabCount` slots of `slabSize` bytes. -/
def shared (slabCount slabSize : Nat) : System Shared PoolEvent where
  init s := ∃ pool, VecPool.build slabCount slabSize = some pool ∧ s = Shared.new pool
  step := Shared.step

/-- What one event does to the pool and the live slabs. -/
theorem Shared.step_cases {s t : Shared} {e : PoolEvent} (h : s.step e = some t) :
    (t.pool = s.pool ∧ t.live = s.live) ∨
      (∃ len slab pool, s.pool.acquire len = some (slab, pool) ∧
        t.pool = pool ∧ t.live = slab ::ₘ s.live) ∨
      (∃ slab ∈ s.live, t.pool = s.pool.release slab ∧ t.live = s.live.erase slab) ∨
      (∃ slab ∈ s.live, ∃ data, t.pool = s.pool.write slab data ∧ t.live = s.live) ∨
      (∃ slab ∈ s.live, ∃ len, t.pool = s.pool ∧
        t.live = slab.setLen len ::ₘ s.live.erase slab) := by
  cases e with
  | clone | dropHandle | inUse =>
      simp only [step, Option.ite_none_right_eq_some, Option.some.injEq] at h
      obtain ⟨_, rfl⟩ := h
      exact .inl ⟨rfl, rfl⟩
  | acquire len =>
      simp only [step, Option.ite_none_right_eq_some] at h
      obtain ⟨_, h⟩ := h
      cases answer : s.pool.acquire len with
      | none =>
          rw [answer, Option.some.injEq] at h
          exact .inl ⟨h ▸ rfl, h ▸ rfl⟩
      | some got =>
          rw [answer, Option.some.injEq] at h
          subst h
          exact .inr (.inl ⟨len, got.1, got.2, answer, rfl, rfl⟩)
  | drop slab =>
      simp only [step, Option.ite_none_right_eq_some, Option.some.injEq] at h
      obtain ⟨out, rfl⟩ := h
      exact .inr (.inr (.inl ⟨slab, out, rfl, rfl⟩))
  | write slab data =>
      simp only [step, Option.ite_none_right_eq_some, Option.some.injEq] at h
      obtain ⟨out, rfl⟩ := h
      exact .inr (.inr (.inr (.inl ⟨slab, out, data, rfl, rfl⟩)))
  | setLen slab len =>
      simp only [step, Option.ite_none_right_eq_some, Option.some.injEq] at h
      obtain ⟨out, rfl⟩ := h
      exact .inr (.inr (.inr (.inr ⟨slab, out, len, rfl, rfl⟩)))

section Enabled

variable {s : Shared} {slab : VecSlab} {rest : Multiset VecSlab}

/-- A slab that is out may drop, whoever holds it. -/
theorem Shared.step_drop (live : s.live = slab ::ₘ rest) :
    s.step (.drop slab) = some { s with pool := s.pool.release slab, live := rest } := by
  simp [step, live]

theorem Shared.step_write (live : s.live = slab ::ₘ rest) (data : List UInt8) :
    s.step (.write slab data) = some { s with pool := s.pool.write slab data } := by
  simp [step, live]

theorem Shared.step_setLen (live : s.live = slab ::ₘ rest) (len : Nat) :
    s.step (.setLen slab len) = some { s with live := slab.setLen len ::ₘ rest } := by
  simp [step, live]

theorem Shared.step_acquire {len : Nat} {pool : VecPool} (handle : 0 < s.handles)
    (got : s.pool.acquire len = some (slab, pool)) :
    s.step (.acquire len) = some { s with pool, live := slab ::ₘ s.live } := by
  simp [step, handle, got]

end Enabled

/-- The free list and the live slabs' indices are `0..slabCount`, each once,
over slots that never change in number or width. -/
structure Owned (slabCount slabSize : Nat) (s : Shared) : Prop where
  indices : Exclusive (Finset.range slabCount) s.pool.free (s.live.map VecSlab.index)
  slots : s.pool.slabs.length = slabCount
  size : s.pool.slabSize = slabSize

namespace Owned

variable {slabCount slabSize : Nat} {s t : Shared}

theorem new {pool : VecPool} (built : VecPool.build slabCount slabSize = some pool) :
    Owned slabCount slabSize (Shared.new pool) := by
  obtain ⟨slabs, free, size, _⟩ := VecPool.build_some built
  refine ⟨?_, by simp [Shared.new, slabs], size⟩
  show (pool.free : Multiset Nat) + 0 = (Finset.range slabCount).val
  rw [free, Multiset.add_zero, Finset.range_val]
  rfl

/-- One critical section keeps the law. -/
theorem step {e : PoolEvent} (owned : Owned slabCount slabSize s) (h : s.step e = some t) :
    Owned slabCount slabSize t := by
  rcases Shared.step_cases h with
    ⟨pool, live⟩ | ⟨len, slab, after, got, pool, live⟩ | ⟨slab, out, pool, live⟩ |
      ⟨slab, out, data, pool, live⟩ | ⟨slab, out, len, pool, live⟩
  · exact ⟨by rw [pool, live]; exact owned.indices, by rw [pool]; exact owned.slots,
      by rw [pool]; exact owned.size⟩
  · -- acquire: the head of the free list moves to the new slab
    obtain ⟨_, _, top, slabs, size⟩ := VecPool.acquire_some got
    have before := owned.indices
    rw [top] at before
    refine ⟨?_, by rw [pool, slabs]; exact owned.slots, by rw [pool, size]; exact owned.size⟩
    rw [pool, live, Multiset.map_cons]
    exact before.take
  · -- drop: the slab's index goes back on top
    have before := owned.indices
    rw [← Multiset.cons_erase out, Multiset.map_cons] at before
    refine ⟨?_, by rw [pool]; exact owned.slots, by rw [pool]; exact owned.size⟩
    rw [pool, live]
    exact before.give
  · -- a write changes the contents of a slot only
    refine ⟨?_, ?_, by rw [pool]; exact owned.size⟩
    · rw [pool, live]
      exact owned.indices
    · rw [pool, VecPool.write_slabs_length]
      exact owned.slots
  · -- set_len keeps the index
    have before := owned.indices
    rw [← Multiset.cons_erase out, Multiset.map_cons] at before
    refine ⟨?_, by rw [pool]; exact owned.slots, by rw [pool]; exact owned.size⟩
    rw [pool, live, Multiset.map_cons]
    exact before

/-- Every live index names a slot. -/
theorem index_lt (owned : Owned slabCount slabSize s) {slab : VecSlab} (out : slab ∈ s.live) :
    slab.index < slabCount :=
  Finset.mem_range.mp (owned.indices.mem (Multiset.mem_map_of_mem _ out))

theorem inRange (owned : Owned slabCount slabSize s) {slab : VecSlab} (out : slab ∈ s.live) :
    slab.index < s.pool.slabs.length := by
  rw [owned.slots]
  exact owned.index_lt out

/-- A slab held next to the others names a slot none of them names. -/
theorem index_ne (owned : Owned slabCount slabSize s) {slab other : VecSlab}
    {rest : Multiset VecSlab} (held : s.live = slab ::ₘ rest) (out : other ∈ rest) :
    other.index ≠ slab.index := by
  have once : (s.live.map VecSlab.index).Nodup := owned.indices.owned_nodup
  rw [held, Multiset.map_cons, Multiset.nodup_cons] at once
  intro same
  exact once.1 (same ▸ Multiset.mem_map_of_mem _ out)

/-- Free and live slots add up, so the subtraction in `in_use` never underflows. -/
theorem free_add_live (owned : Owned slabCount slabSize s) :
    s.pool.free.length + s.live.card = s.pool.slabs.length := by
  have sizes := owned.indices.card
  rw [Multiset.card_map, Finset.card_range] at sizes
  rw [owned.slots, sizes]

theorem inUse_eq (owned : Owned slabCount slabSize s) : s.pool.inUse = s.live.card := by
  have sizes := owned.free_add_live
  unfold VecPool.inUse
  omega

theorem free_eq_nil_iff (owned : Owned slabCount slabSize s) :
    s.pool.free = [] ↔ s.live.card = slabCount := by
  rw [owned.indices.free_eq_nil_iff, Multiset.card_map, Finset.card_range]

theorem acquire_none_iff (owned : Owned slabCount slabSize s) (len : Nat) :
    s.pool.acquire len = none ↔ slabSize < len ∨ s.live.card = slabCount := by
  rw [VecPool.acquire_none, owned.size, owned.free_eq_nil_iff]

end Owned

theorem shared_owned (slabCount slabSize : Nat) :
    (shared slabCount slabSize).Invariant (Owned slabCount slabSize) := by
  refine System.Invariant.of_step (System.Invariant.true _) ?_ ?_
  · rintro s ⟨pool, built, rfl⟩
    exact Owned.new built
  · intro s e t _ owned moved
    exact owned.step moved

/-! ## What one holder does -/

/-- A pool whose live slabs are `live`. -/
abbrev Owns (slabCount slabSize : Nat) (pool : VecPool) (live : Multiset VecSlab) : Prop :=
  Owned slabCount slabSize ⟨pool, live, 1⟩

/-- One landing is an acquire, a write and a `set_len`. -/
theorem Owns.land {slabCount slabSize : Nat} {pool after : VecPool} {live : Multiset VecSlab}
    {slab : VecSlab} (owns : Owns slabCount slabSize pool live)
    (got : pool.acquire pool.slabSize = some (slab, after)) (data : List UInt8) :
    Owns slabCount slabSize (after.write slab data) (slab.setLen data.length ::ₘ live) := by
  have acquired := owns.step (Shared.step_acquire (s := ⟨pool, live, 1⟩) Nat.one_pos got)
  have written := acquired.step
    (Shared.step_write (s := ⟨after, slab ::ₘ live, 1⟩) rfl data)
  exact written.step
    (Shared.step_setLen (s := ⟨after.write slab data, slab ::ₘ live, 1⟩) rfl data.length)

/-- Dropped slabs leave the live ones. -/
theorem Owns.releaseAll {slabCount slabSize : Nat} {pool : VecPool} {slabs : List VecSlab}
    {rest : Multiset VecSlab}
    (owns : Owns slabCount slabSize pool ((slabs : Multiset VecSlab) + rest)) :
    Owns slabCount slabSize (pool.releaseAll slabs) rest := by
  induction slabs generalizing pool with
  | nil =>
      rw [Multiset.coe_nil, Multiset.zero_add] at owns
      exact owns
  | cons slab others ih =>
      have held : ((slab :: others : List VecSlab) : Multiset VecSlab) + rest =
          slab ::ₘ ((others : Multiset VecSlab) + rest) := by
        rw [← Multiset.cons_coe, Multiset.cons_add]
      rw [held] at owns
      exact ih (owns.step (Shared.step_drop (s := ⟨pool, _, 1⟩) rfl))

/-- **Slab ownership.** In every state of every run over a pool of a size it
accepts, the free list and the live slabs partition `0..slab_count`: no index is
live twice, every live index is in range, `in_use` counts the live slabs, and
`acquire` fails only for want of width or of a free slot. -/
theorem pool_ownership (slabCount slabSize : Nat)
    (count : 1 ≤ slabCount ∧ slabCount ≤ u32Max) (size : 0 < slabSize) :
    (∃ s, (shared slabCount slabSize).init s) ∧
      ∀ s, (shared slabCount slabSize).Reachable s →
        (s.pool.free : Multiset Nat) + s.live.map VecSlab.index = Multiset.range slabCount ∧
        (s.live.map VecSlab.index).Nodup ∧
        (∀ slab ∈ s.live, slab.index < slabCount) ∧
        s.pool.free.length ≤ s.pool.slabs.length ∧
        s.pool.inUse = s.live.card ∧
        ∀ len, s.pool.acquire len = none ↔ slabSize < len ∨ s.live.card = slabCount := by
  constructor
  · have accepted := (VecPool.build_isSome slabCount slabSize).mpr ⟨count.1, size, count.2⟩
    obtain ⟨pool, built⟩ := Option.isSome_iff_exists.mp accepted
    exact ⟨Shared.new pool, pool, built, rfl⟩
  · intro s reach
    have owned := shared_owned slabCount slabSize s reach
    have sizes := owned.free_add_live
    exact ⟨owned.indices, owned.indices.owned_nodup, fun slab out => owned.index_lt out,
      by omega, owned.inUse_eq, owned.acquire_none_iff⟩

theorem pool_ownership_two_by_four :
    (1 ≤ 2 ∧ 2 ≤ u32Max) ∧ 0 < 4 ∧
      ∀ s, (shared 2 4).Reachable s → s.pool.inUse = s.live.card :=
  ⟨by decide, by decide, fun s reach =>
    ((pool_ownership 2 4 (by decide) (by decide)).2 s reach).2.2.2.2.1⟩

/-! ## The pool is an allocator of slot indices -/

/-- The set of indices that are out, as the allocator's clients see it. -/
def Shared.ownedIndices (s : Shared) : Finset Nat := (s.live.map VecSlab.index).toFinset

theorem Shared.mem_ownedIndices {s : Shared} {i : Nat} :
    i ∈ s.ownedIndices ↔ i ∈ s.live.map VecSlab.index := Multiset.mem_toFinset

/-- Every run of the pool is a run of the abstract allocator: an acquire takes an
index nobody owns, a drop gives one back, everything else is invisible. -/
def shared_refines_allocator (slabCount slabSize : Nat) :
    System.Simulation (shared slabCount slabSize) (allocator (Finset.range slabCount)) where
  abs := Shared.ownedIndices
  init := by
    rintro s ⟨pool, _, rfl⟩
    rfl
  step := by
    intro s e t reach moved
    have owned := shared_owned slabCount slabSize s reach
    rcases Shared.step_cases moved with
      ⟨_, live⟩ | ⟨len, slab, after, got, _, live⟩ | ⟨slab, out, _, live⟩ |
        ⟨slab, out, data, _, live⟩ | ⟨slab, out, len, _, live⟩
    · exact ⟨[], by rw [Shared.ownedIndices, Shared.ownedIndices, live]; rfl⟩
    · obtain ⟨_, _, top, _, _⟩ := VecPool.acquire_some got
      have before := owned.indices
      rw [top] at before
      have inside : slab.index ∈ Finset.range slabCount :=
        before.take.mem (Multiset.mem_cons_self _ _)
      have fresh : slab.index ∉ s.ownedIndices := fun out =>
        before.head_not_owned (Shared.mem_ownedIndices.mp out)
      refine ⟨[.take slab.index], ?_⟩
      simp only [System.runFrom, allocator]
      rw [if_pos ⟨inside, fresh⟩]
      simp [Shared.ownedIndices, live]
    · have member : slab.index ∈ s.ownedIndices :=
        Shared.mem_ownedIndices.mpr (Multiset.mem_map_of_mem _ out)
      have before := owned.indices.owned_nodup
      rw [← Multiset.cons_erase out, Multiset.map_cons] at before
      have gone : slab.index ∉ (s.live.erase slab).map VecSlab.index :=
        (Multiset.nodup_cons.mp before).1
      have split : s.ownedIndices =
          insert slab.index ((s.live.erase slab).map VecSlab.index).toFinset := by
        rw [Shared.ownedIndices, ← Multiset.cons_erase out]
        simp
      refine ⟨[.give slab.index], ?_⟩
      simp only [System.runFrom, allocator]
      rw [if_pos member, Option.bind_some, Option.some.injEq, split,
        Finset.erase_insert (by simpa using gone), Shared.ownedIndices, live]
    · exact ⟨[], by rw [Shared.ownedIndices, Shared.ownedIndices, live]; rfl⟩
    · refine ⟨[], ?_⟩
      rw [System.runFrom, Option.some.injEq, Shared.ownedIndices, Shared.ownedIndices, live,
        Multiset.map_cons, VecSlab.setLen_index, ← Multiset.map_cons VecSlab.index,
        Multiset.cons_erase out]

end Transports.Pool
