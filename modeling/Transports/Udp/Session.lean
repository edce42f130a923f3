import Mathlib.Algebra.Order.Group.Multiset
import Mathlib.Tactic.Abel
import Transports.Udp.Landings

/-!
# Bursts and drains in sequence

A driver's use of one transport: it lends the same batch to one `recv_burst`
after another, drains it in between, and drops the frames it took when it is done
with them. Nobody else uses the pool meanwhile, but others may hold slabs of it.

Every slab is accounted for at every exit of every call: a call takes from the
free list exactly the slabs of the frames it appended.
-/

namespace Transports.Udp

open Lib Transports.Core Transports.Pool

variable {S : Type}

/-- A transport, the batch in its `out`, and the frames drained and not dropped. -/
structure Session (S : Type) where
  recv : RecvState S
  frames : List UdpFrame
  -- history: what the calls returned
  returns : List (Except TransportError Nat)

inductive SessionEvent
  | burst (max : Nat)
  /-- `drain()`: the first `keep` frames are taken, and the iterator dropped -/
  | drain (keep : Nat)
  | drop (frame : Nat)

namespace Session

/-- The call returned and the state it left. -/
def burst (b : Backend) (sock : UdpSock S) (s : Session S) (max : Nat) : Session S :=
  let (result, recv) := recvBurst b sock max s.recv
  { s with recv, returns := s.returns ++ [result] }

/-- What the caller did not take drops with the iterator. -/
def drain (s : Session S) (keep : Nat) : Session S :=
  let (frames, out) := s.recv.out.drain
  { s with
    recv :=
      { s.recv with
        out
        pool := s.recv.pool.releaseAll ((frames.drop keep).map UdpFrame.slab) }
    frames := s.frames ++ frames.take keep }

def step (b : Backend) (sock : UdpSock S) (s : Session S) : SessionEvent → Option (Session S)
  | .burst max => some (s.burst b sock max)
  | .drain keep => some (s.drain keep)
  | .drop frame =>
    (pick s.frames frame).map fun (frame, frames) =>
      { s with recv := { s.recv with pool := s.recv.pool.release frame.slab }, frames }

/-- The slabs that are out: of frames in the batch, of frames drained, and `others`. -/
def live (others : Multiset VecSlab) (s : Session S) : Multiset VecSlab :=
  (s.recv.out.frames.map UdpFrame.slab : Multiset VecSlab) +
    ((s.frames.map UdpFrame.slab : Multiset VecSlab) + others)

end Session

/-- All runs of a driver over a transport of backend `b`, from `start`. -/
def session (b : Backend) (sock : UdpSock S) (start : Session S) :
    System (Session S) SessionEvent where
  init s := s = start
  step := Session.step b sock

/-! ## What a call leaves -/

/-- The books of one call that appended `put`. -/
structure Accounted (max : Nat) (st : RecvState S) (put : List UdpFrame) (after : RecvState S) :
    Prop where
  /-- no more than asked for and than there was room for -/
  bound : put.length ≤ min max st.out.spare
  /-- after the frames already there -/
  appended : after.out.frames = st.out.frames ++ put
  /-- whose bytes it left alone -/
  untouched : ∀ frame ∈ st.out.frames, frame.payload after.pool = frame.payload st.pool
  /-- the batch did not grow -/
  capacity : after.out.capacity = st.out.capacity
  /-- only the slabs of `put` left the free list -/
  free : st.pool.free = put.map (fun frame => frame.slab.index) ++ after.pool.free
  inUse : after.pool.inUse = st.pool.inUse + put.length

/-- Every call, by whatever exit, keeps its books. -/
theorem recvBurst_accounted (b : Backend) (sock : UdpSock S) {slabCount slabSize : Nat}
    {others : Multiset VecSlab} (max : Nat) {st : RecvState S}
    (owns : Owns slabCount slabSize st.pool
      ((st.out.frames.map UdpFrame.slab : Multiset VecSlab) + others)) :
    ∃ put, Accounted max st put (recvBurst b sock max st).2 ∧
      Owns slabCount slabSize (recvBurst b sock max st).2.pool
        (((recvBurst b sock max st).2.out.frames.map UdpFrame.slab : Multiset VecSlab) +
          others) := by
  obtain ⟨put, mid, exit, run⟩ := callRun_exists b sock max st
  obtain ⟨_, slots, free⟩ := run.lands.pool
  have frames : (recvBurst b sock max st).2.out.frames = st.out.frames ++ put := by
    rw [run.out, FrameBatch.foldl_push_frames]
  have after := run.lands.owns owns
  refine ⟨put, ⟨run.le_room, frames, ?_, ?_, ?_, ?_⟩, ?_⟩
  case refine_1 =>
      intro frame old
      have out : frame.slab ∈
          (st.out.frames.map UdpFrame.slab : Multiset VecSlab) + others :=
        Multiset.mem_add.mpr (.inl (Multiset.mem_coe.mpr (List.mem_map_of_mem old)))
      rw [UdpFrame.payload, run.pool, run.lands.asRef owns out]
      rfl
  case refine_2 => exact run.capacity
  case refine_3 =>
      rw [run.pool]
      exact free
  case refine_4 =>
      -- the free list is no longer than the slots are many
      have before := owns.free_add_live
      have taken := congrArg List.length free
      rw [List.length_append, List.length_map] at taken
      rw [run.pool]
      simp only [VecPool.inUse, slots]
      simp only at before
      omega
  case refine_5 =>
      rw [run.pool, frames, List.map_append, ← Multiset.coe_add, Multiset.add_comm
        (st.out.frames.map UdpFrame.slab : Multiset VecSlab), Multiset.add_assoc]
      exact after

/-! ## Over a whole session -/

/-- The slots named by the slabs of a session are each held once. -/
def Session.Sane (slabCount slabSize : Nat) (others : Multiset VecSlab) (s : Session S) : Prop :=
  Owns slabCount slabSize s.recv.pool (s.live others)

section Sessions

variable {b : Backend} {sock : UdpSock S} {slabCount slabSize : Nat} {others : Multiset VecSlab}
  {s t : Session S}

theorem Session.Sane.burst (sane : s.Sane slabCount slabSize others) (max : Nat) :
    (s.burst b sock max).Sane slabCount slabSize others := by
  obtain ⟨_, _, owns⟩ := recvBurst_accounted b sock max sane
  exact owns

theorem Session.Sane.drain (sane : s.Sane slabCount slabSize others) (keep : Nat) :
    (s.drain keep).Sane slabCount slabSize others := by
  unfold Sane at sane ⊢
  have parts : s.live others =
      (((s.recv.out.frames.drop keep).map UdpFrame.slab : List VecSlab) : Multiset VecSlab) +
        (s.drain keep).live others := by
    simp only [Session.live, Session.drain, FrameBatch.drain, List.map_nil, Multiset.coe_nil,
      Multiset.zero_add, List.map_append, ← Multiset.coe_add]
    conv_lhs => rw [← List.take_append_drop keep s.recv.out.frames, List.map_append,
      ← Multiset.coe_add]
    abel
  rw [parts] at sane
  exact sane.releaseAll

theorem Session.Sane.drop {k : Nat} (sane : s.Sane slabCount slabSize others)
    (dropped : s.step b sock (.drop k) = some t) : t.Sane slabCount slabSize others := by
  simp only [Session.step, Option.map_eq_some_iff] at dropped
  obtain ⟨⟨frame, rest⟩, picked, rfl⟩ := dropped
  have held : s.live others = frame.slab ::ₘ
      ((s.recv.out.frames.map UdpFrame.slab : Multiset VecSlab) +
        ((rest.map UdpFrame.slab : Multiset VecSlab) + others)) := by
    have perm := (pick_perm picked).map UdpFrame.slab
    rw [Session.live, Multiset.coe_eq_coe.mpr perm, List.map_cons, ← Multiset.cons_coe,
      Multiset.cons_add, Multiset.add_cons]
  unfold Sane at sane
  rw [held] at sane
  exact sane.step (Shared.step_drop (s := ⟨s.recv.pool, _, 1⟩) rfl)

theorem Session.Sane.step {e : SessionEvent} (sane : s.Sane slabCount slabSize others)
    (taken : s.step b sock e = some t) : t.Sane slabCount slabSize others := by
  cases e with
  | burst max =>
      cases taken
      exact sane.burst max
  | drain keep =>
      cases taken
      exact sane.drain keep
  | drop k => exact sane.drop taken

/-- No step of a session makes the batch grow. -/
theorem Session.step_capacity {e : SessionEvent} (taken : s.step b sock e = some t) :
    t.recv.out.capacity = s.recv.out.capacity := by
  cases e with
  | burst max =>
      cases taken
      obtain ⟨put, mid, exit, run⟩ := callRun_exists b sock max s.recv
      exact run.capacity
  | drain keep =>
      cases taken
      rfl
  | drop k =>
      simp only [Session.step, Option.map_eq_some_iff] at taken
      obtain ⟨picked, _, rfl⟩ := taken
      rfl

end Sessions

/-- **Bounds and slab accounting.** For every pool state, batch and socket, in every
state of every sequence of bursts, drains and drops: the batch is within the
capacity it was made with, and the next call, whatever `max` and however it ends,
keeps its books. -/
theorem session_accounted (b : Backend) (sock : UdpSock S) {slabCount slabSize : Nat}
    {others : Multiset VecSlab} {start : Session S}
    (sane : start.Sane slabCount slabSize others) {s : Session S}
    (reach : (session b sock start).Reachable s) :
    s.recv.out.frames.length ≤ s.recv.out.capacity ∧
      s.recv.out.capacity = start.recv.out.capacity ∧
      ∀ max, ∃ put, Accounted max s.recv put (recvBurst b sock max s.recv).2 := by
  have kept : (session b sock start).Invariant fun s =>
      s.Sane slabCount slabSize others ∧ s.recv.out.capacity = start.recv.out.capacity := by
    refine System.Invariant.of_step (System.Invariant.true _) ?_ ?_
    · rintro s rfl
      exact ⟨sane, rfl⟩
    · rintro s e t _ ⟨sane, capacity⟩ taken
      exact ⟨sane.step taken, (Session.step_capacity taken).trans capacity⟩
  obtain ⟨sane, capacity⟩ := kept s reach
  refine ⟨s.recv.out.fits, capacity, ?_⟩
  intro max
  obtain ⟨put, accounted, _⟩ := recvBurst_accounted b sock max sane
  exact ⟨put, accounted⟩

/-- A fresh pool of one slot, an empty batch of two frames and three datagrams queued. -/
def threeQueued : Session KernelSock where
  recv :=
    { sock := ⟨[], [⟨[1], someSender⟩, ⟨[2], someSender⟩, ⟨[3], someSender⟩]⟩
      pool := (VecPool.build 1 4).get rfl
      lastPeer := none
      out := .withCapacity 2
      metrics := ⟨true, []⟩ }
  frames := []
  returns := []

/-- The slot is used for the first datagram, given back, and used for the second. -/
def slotRecycled : Session KernelSock :=
  (session .mio kernelSock threeQueued).replay threeQueued [.burst 2, .drain 0, .burst 2]

theorem session_accounted_recycled :
    slotRecycled.recv.out.capacity = 2 ∧ slotRecycled.returns = [.ok 1, .ok 1] := by
  have sane : threeQueued.Sane 1 4 0 := Owned.new rfl
  have reach : (session .mio kernelSock threeQueued).Reachable slotRecycled := .replay rfl _
  exact ⟨(session_accounted .mio kernelSock sane reach).2.1, rfl⟩

end Transports.Udp
