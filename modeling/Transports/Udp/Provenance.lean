import Transports.Udp.Delivery

/-!
# Where the live frames come from

The frames alive at any moment, wherever they are (in the batch lent to a call, in a
batch at rest or with the application), are a part of the datagrams that arrived, counted
with repetition: no two of them show one datagram, none shows anything else, and none
shows a datagram that is still queued.
-/

namespace Transports.Udp

open Lib Transports.Core Transports.Pool

/-- What the frames alive show now. -/
def World.shown (w : World) : Multiset (List UInt8 × SocketAddr) :=
  w.liveFrames.map (UdpFrame.view w.pool)

/-- Datagrams as slabs of this width hold them. -/
def shortened (slabSize : Nat) (datagrams : List Datagram) : Multiset (List UInt8 × SocketAddr) :=
  (datagrams.map (Datagram.cut slabSize) : List (List UInt8 × SocketAddr))

section Frames

variable {w t : World}

theorem World.liveFrames_newBatch (w : World) (cap : Nat) :
    World.liveFrames { w with batches := .withCapacity cap :: w.batches } = w.liveFrames := by
  simp only [World.liveFrames, World.atRest, World.lent, ← Multiset.cons_coe,
    Multiset.cons_bind, FrameBatch.withCapacity, Multiset.coe_nil, zero_add]

/-- A batch lent to a call is still alive. -/
theorem World.liveFrames_call {i : Nat} {out : FrameBatch UdpFrame}
    {batches : List (FrameBatch UdpFrame)} (idle : w.call = none)
    (lent : pick w.batches i = some (out, batches)) (cap : Nat) :
    World.liveFrames { w with batches, call := some ⟨out, cap, 0, 0, .acquiring⟩ } =
      w.liveFrames := by
  have before : w.liveFrames =
      out.frames + World.atRest { w with batches } + (w.frames : Multiset UdpFrame) := by
    rw [World.liveFrames, World.atRest_of_pick lent, World.lent_idle idle, zero_add]
    rfl
  exact before.symm

theorem World.liveFrames_drain {i : Nat} {out : FrameBatch UdpFrame}
    {batches : List (FrameBatch UdpFrame)} (picked : pick w.batches i = some (out, batches)) :
    World.liveFrames { w with batches := out.drain.2 :: batches, frames := w.frames ++ out.drain.1 }
      = w.liveFrames := by
  rw [World.liveFrames, World.liveFrames, World.atRest_of_pick picked]
  simp only [World.lent, World.atRest, ← Multiset.cons_coe, ← Multiset.coe_add,
    Multiset.cons_bind, FrameBatch.drain_fst, FrameBatch.drain_snd_frames, Multiset.coe_nil]
  abel

theorem World.liveFrames_dropFrame {k : Nat} {frame : UdpFrame} {frames : List UdpFrame}
    (picked : pick w.frames k = some (frame, frames)) (pool : VecPool) :
    World.liveFrames { w with pool, frames } ≤ w.liveFrames := by
  have whole : w.liveFrames = frame ::ₘ World.liveFrames { w with pool, frames } := by
    rw [World.liveFrames, World.liveFrames, pick_coe picked, Multiset.add_cons]
    rfl
  rw [whole]
  exact Multiset.le_cons_self _ _

theorem World.liveFrames_land (b : Backend) {c : BurstCall} (running : w.call = some c)
    (slab : VecSlab) (queue : List Datagram) (data : List UInt8) (peer : SocketAddr) :
    (w.land b c slab queue data peer).liveFrames =
      ⟨slab.setLen data.length, peer, data⟩ ::ₘ w.liveFrames := by
  simp only [World.liveFrames, World.land, World.lent, running, World.atRest,
    FrameBatch.push_frames, ← Multiset.coe_add, Multiset.coe_singleton,
    ← Multiset.singleton_add]
  abel

end Frames

/-- The frames alive are some of those appended, each of them once. -/
def Sourced (w : World) : Prop :=
  w.liveFrames.map UdpFrame.origin ≤ (w.appended : Multiset (List UInt8 × SocketAddr))

/-- A step that lands nothing adds no frame. -/
theorem Sourced.of_le {w t : World} (before : Sourced w) (frames : t.liveFrames ≤ w.liveFrames)
    (appended : t.appended = w.appended) : Sourced t := by
  unfold Sourced at before ⊢
  rw [appended]
  exact (Multiset.map_le_map frames).trans before

theorem sourced_step {b : Backend} {slabCount slabSize : Nat} {w t : World} {a : Action}
    (owned : Owned slabCount slabSize w.toShared) (before : Sourced w) (h : Step b w a t) :
    Sourced t := by
  cases h with
  | arrive | acquireNone | acquire | write | setLen | dropSlab =>
      exact before.of_le le_rfl rfl
  | newBatch cap => exact before.of_le (World.liveFrames_newBatch w cap).le rfl
  | call idle lent => exact before.of_le (World.liveFrames_call idle lent _).le rfl
  | acquired running | refused running | stopped running =>
      refine before.of_le (le_of_eq ?_) rfl
      exact World.liveFrames_goesOn running rfl rfl rfl
  | finished running | exhausted running | released running | aborted running =>
      refine before.of_le (le_of_eq ?_) rfl
      exact World.liveFrames_returned running rfl rfl rfl
  | drain picked => exact before.of_le (World.liveFrames_drain picked).le rfl
  | dropFrame picked => exact before.of_le (World.liveFrames_dropFrame picked _) rfl
  | @landed fault c slab queue data peer running pc answer =>
      have fits : data.length ≤ w.pool.slabSize := by
        cases answer with
        | datagram d _ _ => exact List.length_take_le _ _
      have appended := landed_payload b queue peer owned running pc fits
      unfold Sourced at before ⊢
      rw [World.liveFrames_land b running, Multiset.map_cons, appended, ← Multiset.coe_add,
        add_comm, Multiset.coe_singleton, Multiset.singleton_add]
      exact Multiset.cons_le_cons _ before

theorem world_sourced (b : Backend) (slabCount slabSize : Nat) :
    (world b slabCount slabSize).Invariant Sourced := by
  refine System.Invariant.of_step (world_owned b slabCount slabSize) ?_ ?_
  · rintro w ⟨pool, metrics, _, rfl⟩
    simp [Sourced, World.liveFrames, World.lent, World.atRest, World.start]
  · intro w a t owned before taken
    exact sourced_step owned before (step_of_step taken)

/-- What the live frames show and what is queued are a part of what arrived. -/
theorem views_queued_le {b : Backend} {slabCount slabSize : Nat} {w : World}
    (reach : (world b slabCount slabSize).Reachable w) :
    w.shown + shortened slabSize w.queue ≤ shortened slabSize w.arrived := by
  have stable := world_stable b slabCount slabSize w reach
  have shown : w.shown = w.liveFrames.map UdpFrame.origin := by
    refine Multiset.map_congr rfl fun frame out => ?_
    show (frame.payload w.pool, frame.peer) = _
    rw [stable frame out]
    rfl
  have order := (world_delivered b slabCount slabSize w reach).order
  rw [shown, shortened, shortened, ← order, ← Multiset.coe_add]
  exact add_le_add_left (world_sourced b slabCount slabSize w reach) _

/-- A frame alive shows the first bytes of a datagram, and its sender. -/
theorem frame_from_arrival {b : Backend} {slabCount slabSize : Nat} {w : World}
    (reach : (world b slabCount slabSize).Reachable w) {frame : UdpFrame}
    (alive : frame ∈ w.liveFrames) : ∃ d ∈ w.arrived,
      frame.payload w.pool = d.payload.take slabSize ∧ frame.peer = d.sender := by
  have shown : frame.view w.pool ∈ w.shown := Multiset.mem_map_of_mem _ alive
  have part := views_queued_le reach
  have member := Multiset.mem_of_le part (Multiset.mem_add.mpr (.inl shown))
  obtain ⟨d, came, same⟩ := List.mem_map.mp (Multiset.mem_coe.mp member)
  obtain ⟨payload, sender⟩ := Prod.mk.inj same
  exact ⟨d, came, payload.symm, sender.symm⟩

/-- Where every datagram fits a slab, the payloads appended are the first that arrived. -/
theorem payloads_in_order {b : Backend} {slabCount slabSize : Nat} {w : World}
    (reach : (world b slabCount slabSize).Reachable w)
    (room : ∀ d ∈ w.arrived, d.payload.length ≤ slabSize) :
    w.appended.map Prod.fst ++ (w.queue.map (Datagram.cut slabSize)).map Prod.fst =
      w.arrived.map Datagram.payload := by
  have order := (world_delivered b slabCount slabSize w reach).order
  rw [← List.map_append, order, List.map_map]
  exact List.map_congr_left fun d came => List.take_of_length_le (room d came)

/-- **Provenance.** In every interleaving and at every moment: what the frames alive show,
together with what is still queued, is a part of what arrived, each datagram cut at the
slab width and counted as often as it came. -/
theorem frames_from_arrivals (b : Backend) (slabCount slabSize : Nat) {w : World}
    (reach : (world b slabCount slabSize).Reachable w) :
    w.shown + shortened slabSize w.queue ≤ shortened slabSize w.arrived ∧
      ∀ frame ∈ w.liveFrames, ∃ d ∈ w.arrived,
        frame.payload w.pool = d.payload.take slabSize ∧ frame.peer = d.sender :=
  ⟨views_queued_le reach, fun _ alive => frame_from_arrival reach alive⟩

theorem frames_from_arrivals_reused :
    ∃ d ∈ (played .mio slotReused).arrived,
      UdpFrame.payload (played .mio slotReused).pool ⟨⟨0, 1⟩, someSender, [9]⟩ =
        d.payload.take 2 ∧ someSender = d.sender := by
  have alive : ⟨⟨0, 1⟩, someSender, [9]⟩ ∈ (played .mio slotReused).liveFrames := by decide
  exact (frames_from_arrivals .mio 1 2 (played_reachable .mio slotReused)).2 _ alive

end Transports.Udp
