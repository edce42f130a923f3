import Transports.Udp.Custody
import Transports.Udp.Handover

/-!
# Delivery

The frames ever appended to batches, followed by what is still queued, are the
datagrams that arrived, each cut at the slab width: no exit of the loop loses,
repeats or reorders one. What a datagram longer than a slab loses it loses to the
cut, and nothing in the frame says so.
-/

namespace Transports.Udp

open Lib Transports.Core Transports.Pool

/-- Appended and queued together are what arrived, and `last_peer` is the sender
of the last frame appended. -/
structure Delivered (slabSize : Nat) (w : World) : Prop where
  order : w.appended ++ w.queue.map (Datagram.cut slabSize) =
    w.arrived.map (Datagram.cut slabSize)
  peer : w.lastPeer = w.appended.getLast?.map Prod.snd

/-- A step that neither reads the socket nor is an arrival keeps it. -/
theorem Delivered.of_same {slabSize : Nat} {w t : World} (before : Delivered slabSize w)
    (arrived : t.arrived = w.arrived) (appended : t.appended = w.appended)
    (queue : t.queue = w.queue) (lastPeer : t.lastPeer = w.lastPeer) : Delivered slabSize t := by
  refine ⟨?_, ?_⟩
  · rw [appended, queue, arrived]
    exact before.order
  · rw [lastPeer, appended]
    exact before.peer

/-- What a landing appends is the datagram it took, cut at the slab width. -/
theorem landed_payload (b : Backend) (queue : List Datagram) (peer : SocketAddr)
    {slabCount slabSize : Nat} {w : World} {c : BurstCall} {slab : VecSlab} {data : List UInt8}
    (owned : Owned slabCount slabSize w.toShared) (running : w.call = some c)
    (pc : c.pc = .receiving slab) (fits : data.length ≤ w.pool.slabSize) :
    (w.land b c slab queue data peer).appended = w.appended ++ [(data, peer)] := by
  have out : slab ∈ w.toShared.live := by
    show slab ∈ w.live
    rw [World.live, World.inFlight_running running, pc]
    simp [BurstPc.slabs]
  have shown : (w.pool.write slab data).asRef (slab.setLen data.length) = data :=
    VecPool.asRef_write_setLen (owned.inRange out) fits
  simp only [World.land, UdpFrame.payload, shown]

theorem delivered_step {b : Backend} {slabCount slabSize : Nat} {w t : World} {a : Action}
    (owned : Owned slabCount slabSize w.toShared) (before : Delivered slabSize w)
    (h : Step b w a t) : Delivered slabSize t := by
  cases h with
  | arrive d =>
      refine ⟨?_, before.peer⟩
      show w.appended ++ (w.queue ++ [d]).map _ = (w.arrived ++ [d]).map _
      rw [List.map_append, List.map_append, ← List.append_assoc, before.order]
  | @landed fault c slab queue data peer running pc answer =>
      have size : w.pool.slabSize = slabSize := owned.size
      rw [size] at answer
      cases answer with
      | datagram d rest head =>
          -- the head leaves the queue and is appended in the same step
          have fits : (d.payload.take slabSize).length ≤ w.pool.slabSize := by
            rw [size]
            exact List.length_take_le _ _
          have appended := landed_payload b queue d.sender owned running pc fits
          refine ⟨?_, ?_⟩
          · have order := before.order
            rw [head, List.map_cons] at order
            rw [appended, List.append_assoc, List.singleton_append]
            exact order
          · rw [appended, List.getLast?_concat]
            rfl
  | @stopped fault c slab queue e running pc answer =>
      -- neither an empty queue nor a failure gives anything up
      have kept : queue = w.queue := by
        cases answer with
        | wouldBlock empty => exact empty.symm
        | fault e => rfl
      exact before.of_same rfl rfl kept rfl
  | newBatch | call | acquired | refused | finished | exhausted | released | aborted | drain
    | dropFrame | acquireNone | acquire | write | setLen | dropSlab =>
      exact before.of_same rfl rfl rfl rfl

theorem world_delivered (b : Backend) (slabCount slabSize : Nat) :
    (world b slabCount slabSize).Invariant (Delivered slabSize) := by
  refine System.Invariant.of_step (world_owned b slabCount slabSize) ?_ ?_
  · rintro w ⟨pool, metrics, _, rfl⟩
    exact ⟨rfl, rfl⟩
  · intro w a t owned before taken
    exact delivered_step owned before (step_of_step taken)

/-! ## The record and the batches -/

/-- The record of frames is that of the batches. A call in progress has put its last `n`
frames into the batch it was lent, and they show the last entries; a step that adds an
entry adds the frame to that batch, and a return hands the batch back as it is. -/
structure Batched (b : Backend) (w : World) : Prop where
  inHand : ∀ c, w.call = some c →
    c.put.length = c.n ∧ c.put.map (UdpFrame.view w.pool) <:+ w.appended
  step : ∀ a t, w.step b a = some t → Handed w t

/-- Live frames show what their reads gave. -/
theorem view_eq_origin {w : World} (stable : Stable w) {frames : List UdpFrame}
    (alive : (frames : Multiset UdpFrame) ≤ w.liveFrames) :
    frames.map (UdpFrame.view w.pool) = frames.map UdpFrame.origin := by
  refine List.map_congr_left ?_
  intro frame member
  show (frame.payload w.pool, frame.peer) = _
  rw [stable frame (Multiset.mem_of_le alive (Multiset.mem_coe.mpr member))]
  rfl

/-- The frames in the batch of the call in progress are alive. -/
theorem World.batch_live {w : World} {c : BurstCall} (running : w.call = some c) :
    (c.out.frames : Multiset UdpFrame) ≤ w.liveFrames := by
  rw [World.liveFrames, World.lent_running running, add_assoc]
  exact Multiset.le_add_right _ _

theorem BurstCall.put_live {w : World} {c : BurstCall} (running : w.call = some c) :
    (c.put : Multiset UdpFrame) ≤ w.liveFrames :=
  c.put_le.trans (World.batch_live running)

/-- What the call in progress put is the last that was appended. -/
def Recent (w : World) : Prop :=
  ∀ c, w.call = some c → c.put.map UdpFrame.origin <:+ w.appended

theorem recent_of_handed {w t : World} (counted : Counted w) (stable : Stable t)
    (recent : Recent w) (handed : Handed w t) : Recent t := by
  intro d now
  cases handed with
  | beside call _ appended | fresh call _ appended | drained call _ _ _ appended =>
      rw [appended]
      exact recent d (call ▸ now)
  | lent idle own fresh =>
      rw [own, Option.some.injEq] at now
      subst now
      rw [BurstCall.put_fresh fresh]
      exact List.nil_suffix
  | goesOn running own batches appended =>
      have before := recent _ running
      rw [own, Option.some.injEq] at now
      rw [appended]
      exact now ▸ before
  | @put c d' frame running own cap count batch batches appended =>
      rw [own, Option.some.injEq] at now
      subst now
      have member : frame ∈ d'.out.frames := by
        rw [batch, FrameBatch.push_frames]
        exact List.mem_append_right _ List.mem_cons_self
      have alive : frame ∈ t.liveFrames :=
        Multiset.mem_of_le (World.batch_live own) (Multiset.mem_coe.mpr member)
      have shown : frame.view t.pool = frame.origin := by
        rw [UdpFrame.view, stable frame alive]
        rfl
      obtain ⟨earlier, split⟩ := recent c running
      refine ⟨earlier, ?_⟩
      rw [BurstCall.put_push (counted c running) batch count, appended, shown, ← split,
        List.map_append, List.append_assoc]
      rfl
  | returned running idle =>
      rw [idle] at now
      cases now

theorem world_recent (b : Backend) (slabCount slabSize : Nat) :
    (world b slabCount slabSize).Invariant Recent := by
  refine System.Invariant.of_step (fun _ reach => reach) ?_ ?_
  · rintro w ⟨pool, metrics, _, rfl⟩ c running
    cases running
  · intro w a t reach recent taken
    exact recent_of_handed (world_counted b slabCount slabSize w reach)
      (world_stable b slabCount slabSize t (reach.step taken)) recent
      (handed_of_step (step_of_step taken))

theorem world_batched (b : Backend) (slabCount slabSize : Nat) :
    (world b slabCount slabSize).Invariant (Batched b) := by
  intro w reach
  refine ⟨?_, fun a t taken => handed_of_step (step_of_step taken)⟩
  intro c running
  rw [view_eq_origin (world_stable b slabCount slabSize w reach) (BurstCall.put_live running)]
  exact ⟨BurstCall.put_length (world_counted b slabCount slabSize w reach c running),
    world_recent b slabCount slabSize w reach c running⟩

/-- **Exactly once, in order.** For every interleaving of arrivals, bursts, drains, drops,
outside acquisitions and socket errors, what went into the batches and what is queued is
what arrived; and the record that says so is that of the batches. -/
theorem delivered_in_order (b : Backend) (slabCount slabSize : Nat) {w : World}
    (reach : (world b slabCount slabSize).Reachable w) :
    w.appended ++ w.queue.map (Datagram.cut slabSize) =
        w.arrived.map (Datagram.cut slabSize) ∧
      w.lastPeer = w.appended.getLast?.map Prod.snd ∧ Batched b w :=
  ⟨(world_delivered b slabCount slabSize w reach).order,
    (world_delivered b slabCount slabSize w reach).peer, world_batched b slabCount slabSize w reach⟩

theorem delivered_in_order_reused :
    (played .tokio slotReused).appended ++
        (played .tokio slotReused).queue.map (Datagram.cut 2) =
      [([7, 7], someSender), ([9], someSender)] :=
  (delivered_in_order .tokio 1 2 (played_reachable .tokio slotReused)).1

/-! ## The cut -/

/-- The datagram of number `i` and the frame of number `i` belong together. -/
theorem Delivered.shown {slabSize : Nat} {w : World} (delivered : Delivered slabSize w) {i : Nat}
    {d : Datagram} {shown : List UInt8 × SocketAddr} (arrived : w.arrived[i]? = some d)
    (appended : w.appended[i]? = some shown) : shown = d.cut slabSize := by
  have bound : i < w.appended.length := (List.getElem?_eq_some_iff.mp appended).1
  have both : (w.arrived.map (Datagram.cut slabSize))[i]? = some shown := by
    rw [← delivered.order, List.getElem?_append_left bound, appended]
  rw [List.getElem?_map, arrived, Option.map_some, Option.some.injEq] at both
  exact both.symm

/-- **The cut.** The frame of a datagram holds its first `min(length, slab_size)`
bytes and its sender: the whole datagram if and only if it fits a slab. -/
theorem delivered_whole_iff (b : Backend) (slabCount slabSize : Nat) {w : World}
    (reach : (world b slabCount slabSize).Reachable w) {i : Nat} {d : Datagram}
    {shown : List UInt8 × SocketAddr} (arrived : w.arrived[i]? = some d)
    (appended : w.appended[i]? = some shown) :
    shown = (d.payload.take (min d.payload.length slabSize), d.sender) ∧
      (shown.1 = d.payload ↔ d.payload.length ≤ slabSize) := by
  have cut := (world_delivered b slabCount slabSize w reach).shown arrived appended
  subst cut
  refine ⟨?_, ?_⟩
  · rw [Datagram.cut, Nat.min_comm, ← List.take_take, List.take_length]
  · rw [Datagram.cut, List.take_eq_self_iff]

/-- A datagram of three bytes and slabs of two. -/
def oversized : List Action :=
  [.newBatch 1, .arrive ⟨[1, 2, 3], someSender⟩, .recvBurst 0 1, .next none, .next none,
    .next none]

theorem delivered_whole_iff_oversized :
    ([1, 2] : List UInt8) = [1, 2, 3] ↔ ([1, 2, 3] : List UInt8).length ≤ 2 := by
  have arrived : (played .mio oversized).arrived[0]? = some ⟨[1, 2, 3], someSender⟩ := rfl
  have appended : (played .mio oversized).appended[0]? = some ([1, 2], someSender) := rfl
  exact (delivered_whole_iff .mio 1 2 (played_reachable .mio oversized) arrived appended).2

/-- It is delivered without its last byte, and the burst answers `Ok(1)`. -/
theorem delivered_shortened :
    (world .tokio 1 2).Reachable (played .tokio oversized) ∧
    (played .tokio oversized).arrived = [⟨[1, 2, 3], someSender⟩] ∧
    (played .tokio oversized).appended = [([1, 2], someSender)] ∧
    (played .tokio oversized).returns = [(1, .ok 1)] ∧
    (world .mio 1 2).Reachable (played .mio oversized) ∧
    (played .mio oversized).arrived = [⟨[1, 2, 3], someSender⟩] ∧
    (played .mio oversized).appended = [([1, 2], someSender)] ∧
    (played .mio oversized).returns = [(1, .ok 1)] :=
  ⟨played_reachable .tokio oversized, rfl, rfl, rfl, played_reachable .mio oversized, rfl, rfl, rfl⟩

end Transports.Udp
