import Mathlib.Algebra.Group.Nat.Defs
import Mathlib.Data.List.GetD
import Transports.Core.Seam
import Transports.Lib.Ownership

/-!
# The slab pool

`VecPool` of both backends (the two files are one text): a fixed array of slots
and a free list of slot indices. The width of every slot is a field of the
structure, since slots are allocated once and only ever written in place. The
`Arc` each slab carries points at the one pool of the state it lives in.
-/

namespace Transports.Pool

open Lib

/-- `u32::MAX`, the largest slot count an index can name. -/
def u32Max : Nat := 2 ^ 32 - 1

/-- The slots, the free list with the end `pop` takes from at its head, and the
common slot width. -/
structure VecPool where
  slabs : List (List UInt8)
  free : List Nat
  slabSize : Nat
  width : ∀ slab ∈ slabs, slab.length = slabSize
  deriving DecidableEq

/-- A handle on one slot and the number of bytes recorded in it. -/
structure VecSlab where
  index : Nat
  len : Nat
  deriving DecidableEq, Repr

def VecSlab.setLen (slab : VecSlab) (len : Nat) : VecSlab := { slab with len }

@[simp] theorem VecSlab.setLen_index (slab : VecSlab) (len : Nat) :
    (slab.setLen len).index = slab.index := rfl

@[simp] theorem VecSlab.setLen_len (slab : VecSlab) (len : Nat) :
    (slab.setLen len).len = len := rfl

namespace VecPool

/-- Zeroed slots and every index free, `0` on top; `none` is a failed `assert!`. -/
def build (capacity slabSize : Nat) : Option VecPool :=
  if 0 < capacity ∧ 0 < slabSize ∧ capacity ≤ u32Max then
    some
      { slabs := List.replicate capacity (List.replicate slabSize 0)
        -- `0..capacity as u32`, pushed in reverse so that `pop` yields 0 first
        free := List.range (capacity % 2 ^ 32)
        slabSize
        width := fun slab member => by simp [List.eq_of_mem_replicate member] }
  else none

def acquire (pool : VecPool) (len : Nat) : Option (VecSlab × VecPool) :=
  if pool.slabSize < len then none
  else
    match pool.free with
    | [] => none
    | index :: free => some (⟨index, 0⟩, { pool with free })

/-- `VecSlab::drop`. -/
def release (pool : VecPool) (slab : VecSlab) : VecPool :=
  { pool with free := slab.index :: pool.free }

/-- Slabs dropped one after the other. -/
def releaseAll (pool : VecPool) (slabs : List VecSlab) : VecPool := slabs.foldl release pool

def capacity (pool : VecPool) : Nat := pool.slabs.length

def inUse (pool : VecPool) : Nat := pool.slabs.length - pool.free.length

/-- The free slots lie in a 64-bit address space. -/
def Addressable (pool : VecPool) : Prop := pool.free.length * pool.slabSize < 2 ^ 64

/-- The contents of a slot. Indexing out of range panics; `Owned.inRange` says no
live slab does it, so what stands here for that case is never read. -/
def slot (pool : VecPool) (index : Nat) : List UInt8 :=
  pool.slabs.getD index (List.replicate pool.slabSize 0)

theorem slot_length (pool : VecPool) (index : Nat) :
    (pool.slot index).length = pool.slabSize := by
  rw [slot, List.getD_eq_getElem?_getD]
  cases found : pool.slabs[index]? with
  | none => simp
  | some slab => exact pool.width slab (List.mem_of_getElem? found)

/-- The full-width view a recv lands into. -/
def bufMut (pool : VecPool) (slab : VecSlab) : List UInt8 := pool.slot slab.index

/-- `data` written to the front of the view `bufMut` hands out. -/
def write (pool : VecPool) (slab : VecSlab) (data : List UInt8) : VecPool :=
  { pool with
    slabs := pool.slabs.set slab.index (overlay (pool.bufMut slab) data)
    width := by
      intro buf member
      rcases List.mem_or_eq_of_mem_set member with old | here
      · exact pool.width buf old
      · rw [here, length_overlay]
        exact pool.slot_length slab.index }

/-- `VecSlab::as_ref`: the recorded prefix of the slot. -/
def asRef (pool : VecPool) (slab : VecSlab) : List UInt8 :=
  let vec := pool.slot slab.index
  vec.take (min slab.len vec.length)

/-! ## What each operation does -/

theorem build_some {capacity slabSize : Nat} {pool : VecPool}
    (h : build capacity slabSize = some pool) :
    pool.slabs = List.replicate capacity (List.replicate slabSize 0) ∧
      pool.free = List.range capacity ∧ pool.slabSize = slabSize ∧
      0 < capacity ∧ 0 < slabSize ∧ capacity ≤ u32Max := by
  unfold build at h
  split at h
  · next ok =>
      cases h
      have small : capacity % 2 ^ 32 = capacity := Nat.mod_eq_of_lt (by
        have := ok.2.2
        unfold u32Max at this
        omega)
      exact ⟨rfl, by rw [small], rfl, ok⟩
  · cases h

/-- The three assertions pass exactly on the sizes the pool can index. -/
theorem build_isSome (capacity slabSize : Nat) :
    (build capacity slabSize).isSome ↔
      0 < capacity ∧ 0 < slabSize ∧ capacity ≤ u32Max := by
  unfold build
  split <;> simp_all

/-- An acquire pops the free list and hands out an empty slab. -/
theorem acquire_some {pool after : VecPool} {len : Nat} {slab : VecSlab}
    (h : pool.acquire len = some (slab, after)) :
    len ≤ pool.slabSize ∧ slab.len = 0 ∧ pool.free = slab.index :: after.free ∧
      after.slabs = pool.slabs ∧ after.slabSize = pool.slabSize := by
  unfold acquire at h
  split at h
  · cases h
  · next fits =>
      split at h
      · cases h
      · next index free top =>
          cases h
          exact ⟨by omega, rfl, top, rfl, rfl⟩

theorem acquire_none {pool : VecPool} {len : Nat} :
    pool.acquire len = none ↔ pool.slabSize < len ∨ pool.free = [] := by
  unfold acquire
  split
  · next wide => simp [wide]
  · next fits => cases pool.free <;> simp [fits]

/-- Asking for the full width fails only on an empty free list. -/
theorem acquire_full_none {pool : VecPool} :
    pool.acquire pool.slabSize = none ↔ pool.free = [] := by
  simp [acquire_none]

@[simp] theorem release_free (pool : VecPool) (slab : VecSlab) :
    (pool.release slab).free = slab.index :: pool.free := rfl

@[simp] theorem release_slabs (pool : VecPool) (slab : VecSlab) :
    (pool.release slab).slabs = pool.slabs := rfl

@[simp] theorem release_slabSize (pool : VecPool) (slab : VecSlab) :
    (pool.release slab).slabSize = pool.slabSize := rfl

@[simp] theorem write_free (pool : VecPool) (slab : VecSlab) (data : List UInt8) :
    (pool.write slab data).free = pool.free := rfl

@[simp] theorem write_slabSize (pool : VecPool) (slab : VecSlab) (data : List UInt8) :
    (pool.write slab data).slabSize = pool.slabSize := rfl

@[simp] theorem write_slabs_length (pool : VecPool) (slab : VecSlab) (data : List UInt8) :
    (pool.write slab data).slabs.length = pool.slabs.length := by
  simp [write]

/-- Handing a slab straight back leaves the pool as it was. -/
theorem release_acquired {pool after : VecPool} {len : Nat} {slab : VecSlab}
    (h : pool.acquire len = some (slab, after)) : after.release slab = pool := by
  obtain ⟨_, _, top, slabs, size⟩ := acquire_some h
  cases pool
  cases after
  simp_all [release]

@[simp] theorem bufMut_length (pool : VecPool) (slab : VecSlab) :
    (pool.bufMut slab).length = pool.slabSize := pool.slot_length slab.index

/-- The view is as long as recorded, if the slot is. -/
theorem asRef_length (pool : VecPool) (slab : VecSlab) :
    (pool.asRef slab).length = min slab.len pool.slabSize := by
  rw [asRef, List.length_take, slot_length]
  omega

/-! ## Reading a slot after a write -/

@[simp] theorem asRef_release (pool : VecPool) (slab other : VecSlab) :
    (pool.release other).asRef slab = pool.asRef slab := rfl

@[simp] theorem asRef_releaseAll (pool : VecPool) (slab : VecSlab) (others : List VecSlab) :
    (pool.releaseAll others).asRef slab = pool.asRef slab := by
  induction others generalizing pool with
  | nil => rfl
  | cons other rest ih => exact ih (pool.release other)

theorem asRef_congr {pool after : VecPool} (slabs : after.slabs = pool.slabs)
    (size : after.slabSize = pool.slabSize) (slab : VecSlab) :
    after.asRef slab = pool.asRef slab := by
  simp only [asRef, slot, slabs, size]

/-- A write through one slab leaves the view of every other slot alone. -/
theorem asRef_write_of_ne {pool : VecPool} {slab other : VecSlab} {data : List UInt8}
    (apart : slab.index ≠ other.index) :
    (pool.write other data).asRef slab = pool.asRef slab := by
  have kept : (pool.write other data).slot slab.index = pool.slot slab.index := by
    simp only [slot, write, List.getD_eq_getElem?_getD]
    rw [List.getElem?_set_ne (Ne.symm apart)]
  simp only [asRef, kept]

/-- After landing `data` and recording its length, the view is `data`: nothing
an earlier occupant left in the slot shows. -/
theorem asRef_write_setLen {pool : VecPool} {slab : VecSlab} {data : List UInt8}
    (inRange : slab.index < pool.slabs.length) (fits : data.length ≤ pool.slabSize) :
    (pool.write slab data).asRef (slab.setLen data.length) = data := by
  have wide : data.length ≤ (pool.bufMut slab).length := by
    rw [bufMut_length]
    exact fits
  have landed : (pool.write slab data).slot slab.index = overlay (pool.bufMut slab) data := by
    simp only [slot, write]
    rw [List.getD_eq_getElem _ _ (by simpa using inRange), List.getElem_set_self]
  simp only [asRef, VecSlab.setLen_index, VecSlab.setLen_len, landed, length_overlay,
    min_eq_left wide]
  exact take_overlay wide

end VecPool

end Transports.Pool
