import Transports.Udp.Counters
import Transports.Udp.Delivery

/-!
# The byte accumulator of a burst

Nothing in the loop bounds the sum it keeps: `max` and the batch may be as large as
they like. What bounds it is the pool. The batch keeps every frame of the call alive
until the call returns, so the frames hold slots of their own, there are no more of
them than slots, and none is longer than a slot.
-/

namespace Transports.Udp

open Lib Transports.Core Transports.Pool

/-- The bytes the frames show. -/
def payloadBytes (pool : VecPool) (frames : List UdpFrame) : Nat :=
  (frames.map fun frame => (frame.payload pool).length).sum

/-- The sum a call keeps is that of what it appended, up to the word. -/
def BurstCall.Tallied (b : Backend) (c : BurstCall) : Prop :=
  c.bytes = landedBytes c.put % 2 ^ b.accBits

/-- Frames of a batch whose slabs are all live: distinct slots, so no more of them than
slots, and no more bytes than slots have. -/
structure Distinct (slabCount slabSize : Nat) (pool : VecPool) (frames : List UdpFrame) : Prop where
  apart : (frames.map fun frame => frame.slab.index).Nodup
  count : frames.length ≤ slabCount
  bytes : payloadBytes pool frames ≤ slabCount * slabSize

section Slots

variable {slabCount slabSize : Nat} {s : Shared} {frames : List UdpFrame}

/-- Frames whose slabs are among the live ones. -/
theorem distinct_of_owned (owned : Owned slabCount slabSize s)
    (out : (frames.map UdpFrame.slab : Multiset VecSlab) ≤ s.live) :
    Distinct slabCount slabSize s.pool frames := by
  have once : (s.live.map VecSlab.index).Nodup := owned.indices.owned_nodup
  have slots : s.live.card ≤ slabCount := by
    have := owned.free_add_live
    have := owned.slots
    omega
  have count : frames.length ≤ slabCount := by
    have some := Multiset.card_le_card out
    rw [Multiset.coe_card, List.length_map] at some
    exact some.trans slots
  have fits : payloadBytes s.pool frames ≤
      (frames.map fun frame => (frame.payload s.pool).length).length • slabSize := by
    apply List.sum_le_card_nsmul
    intro length member
    obtain ⟨frame, _, rfl⟩ := List.mem_map.mp member
    rw [UdpFrame.payload, VecPool.asRef_length, owned.size]
    exact Nat.min_le_right _ _
  refine ⟨?_, count, ?_⟩
  · have apart := Multiset.nodup_of_le (Multiset.map_le_map out) once
    rw [Multiset.map_coe, Multiset.coe_nodup, List.map_map] at apart
    exact apart
  · rw [List.length_map, smul_eq_mul] at fits
    exact fits.trans (Nat.mul_le_mul_right _ count)

end Slots

/-! ## Call by call -/

section Call

variable {S : Type} {b : Backend} {sock : UdpSock S} {max : Nat} {st mid : RecvState S}
  {frames : List UdpFrame} {exit : Exit} {slabCount slabSize : Nat} {live : Multiset VecSlab}

theorem CallRun.distinct (run : CallRun b sock max st frames mid exit)
    (owns : Owns slabCount slabSize st.pool live) :
    Distinct slabCount slabSize (recvBurst b sock max st).2.pool frames := by
  rw [run.pool]
  have out : (frames.map UdpFrame.slab : Multiset VecSlab) ≤
      (frames.map UdpFrame.slab : Multiset VecSlab) + live := Multiset.le_add_right _ _
  exact distinct_of_owned (run.lands.owns owns) out

/-- The frames a call appends. -/
theorem CallRun.appended (run : CallRun b sock max st frames mid exit) :
    (recvBurst b sock max st).2.out.frames.drop st.out.frames.length = frames := by
  rw [run.burstRun.out_frames, List.drop_left]

/-- The bytes the frames of a call show are those that landed. -/
theorem CallRun.payloadBytes_eq (run : CallRun b sock max st frames mid exit) :
    payloadBytes (recvBurst b sock max st).2.pool frames = landedBytes frames := by
  have put := run.put.2
  simp only [bytesPut, run.appended] at put
  exact put

theorem recvBurst_bytes_exact (b : Backend) (sock : UdpSock S) (max : Nat) (st : RecvState S)
    (owns : Owns slabCount slabSize st.pool live) :
    let after := (recvBurst b sock max st).2
    let put := after.out.frames.drop st.out.frames.length
    Distinct slabCount slabSize after.pool put ∧
      (slabCount * slabSize < 2 ^ b.accBits →
        ¬ ByteOverflow b sock max st ∧
        ∀ n, (recvBurst b sock max st).1 = .ok n →
          after.metrics = st.metrics.recordRecvBurst b.label n (payloadBytes after.pool put)) := by
  intro after put
  obtain ⟨frames, mid, exit, run⟩ := callRun_exists b sock max st
  have same : put = frames := run.appended
  have distinct := run.distinct owns
  rw [same]
  refine ⟨distinct, ?_⟩
  intro word
  have width : b.accBits = 64 := by cases b <;> rfl
  have total := run.payloadBytes_eq
  have small : landedBytes frames < 2 ^ 64 := by
    rw [← total, ← width]
    exact Nat.lt_of_le_of_lt distinct.bytes word
  refine ⟨?_, ?_⟩
  · rw [run.byteOverflow_iff]
    exact Nat.not_le.mpr small
  · intro n result
    show (recvBurst b sock max st).2.metrics = _
    rw [run.metrics, result, total]
    show st.metrics.recordRecvBurst b.label n (landedBytes frames % 2 ^ 64) = _
    rw [Nat.mod_eq_of_lt small]

end Call

/-! ## Among other threads -/

section Steps

variable {b : Backend} {w t : World} {a : Action}

theorem tallied_step (counted : Counted w) (tallied : ∀ c, w.call = some c → c.Tallied b)
    (step : Step b w a t) : ∀ c, t.call = some c → c.Tallied b := by
  cases step with
  | arrive | newBatch | drain | dropFrame | acquireNone | acquire | write | setLen | dropSlab =>
      exact tallied
  | call idle lent =>
      rintro _ ⟨⟩
      simp [BurstCall.Tallied, BurstCall.put, landedBytes]
  | acquired running | refused running | stopped running =>
      have kept := tallied _ running
      rintro _ ⟨⟩
      exact kept
  | @landed fault c slab queue data peer running =>
      have before : c.bytes = landedBytes c.put % 2 ^ b.accBits := tallied c running
      rintro _ ⟨⟩
      rw [BurstCall.Tallied, BurstCall.put_push (counted c running) rfl rfl]
      simp [Backend.accumulate, before, landedBytes]
  | finished | exhausted | released | aborted =>
      intro c running
      cases running

theorem world_tallied (b : Backend) (slabCount slabSize : Nat) :
    (world b slabCount slabSize).Invariant fun w => ∀ c, w.call = some c → c.Tallied b := by
  refine System.Invariant.of_step (world_counted b slabCount slabSize) ?_ ?_
  · rintro w ⟨pool, metrics, _, rfl⟩ c running
    cases running
  · intro w a t counted tallied taken
    exact tallied_step counted tallied (step_of_step taken)

/-- What a call that returns `Ok` records. -/
theorem recorded_of_step {c : BurstCall} {n : Nat} (running : w.call = some c)
    (step : Step b w a t) (returned : t.returns = w.returns ++ [(c.cap, .ok n)]) :
    n = c.n ∧ t.metrics = w.metrics.recordRecvBurst b.label c.n c.bytes := by
  have grows : w.returns ≠ w.returns ++ [(c.cap, .ok n)] := by
    intro same
    exact List.cons_ne_nil _ _ (List.self_eq_append_right.mp same)
  cases step with
  | arrive | newBatch | drain | dropFrame | acquireNone | acquire | write | setLen | dropSlab
  | call | acquired | refused | landed | stopped => exact absurd returned grows
  | finished own | released own =>
      rw [running, Option.some.injEq] at own
      subst own
      simp only [World.finish, List.append_cancel_left_eq, List.cons.injEq, Prod.mk.injEq,
        Except.ok.injEq, true_and, and_true] at returned
      exact ⟨returned.symm, rfl⟩
  | exhausted | aborted => simp [World.fail] at returned

end Steps

/-- The frames of a call in progress hold slots of their own, and show what landed. -/
theorem world_distinct {b : Backend} {slabCount slabSize : Nat} {w : World}
    (reach : (world b slabCount slabSize).Reachable w) {c : BurstCall}
    (running : w.call = some c) :
    Distinct slabCount slabSize w.pool c.put ∧ payloadBytes w.pool c.put = landedBytes c.put := by
  have alive := BurstCall.put_live running
  have out : (c.put.map UdpFrame.slab : Multiset VecSlab) ≤ w.toShared.live := by
    show _ ≤ w.live
    rw [← Multiset.map_coe, World.live, add_assoc]
    exact (Multiset.map_le_map alive).trans
      ((Multiset.le_add_right _ _).trans (Multiset.le_add_left _ _))
  refine ⟨distinct_of_owned (world_owned b slabCount slabSize w reach) out, ?_⟩
  unfold payloadBytes landedBytes
  congr 1
  apply List.map_congr_left
  intro frame member
  rw [world_stable b slabCount slabSize w reach frame
    (Multiset.mem_of_le alive (Multiset.mem_coe.mpr member))]

/-- The bytes of a call in progress and of its next landing fit the slots together. -/
theorem world_landing_fits {b : Backend} {slabCount slabSize : Nat} {w : World}
    (reach : (world b slabCount slabSize).Reachable w) {c : BurstCall}
    (running : w.call = some c) {slab : VecSlab} (pc : c.pc = .receiving slab) {d : Datagram}
    {rest : List Datagram} (queue : w.queue = d :: rest) :
    landedBytes c.put + (d.payload.take w.pool.slabSize).length ≤ slabCount * slabSize := by
  have counted := world_counted b slabCount slabSize w reach c running
  -- the state after the landing is reachable too
  have landing : w.next b c none = w.land b c slab rest (d.payload.take w.pool.slabSize)
      d.sender := by
    simp [World.next, pc, queue, kernelRecv]
  have taken : (world b slabCount slabSize).step w (.next none) =
      some (w.land b c slab rest (d.payload.take w.pool.slabSize) d.sender) := by
    show w.call.map _ = _
    rw [running, Option.map_some, landing]
  obtain ⟨distinct, shown⟩ := world_distinct (reach.step taken) rfl
  have fits := distinct.bytes
  rw [shown, BurstCall.put_push counted rfl rfl] at fits
  simpa [landedBytes] using fits

theorem world_bytes_exact {b : Backend} {slabCount slabSize : Nat} {w : World}
    (reach : (world b slabCount slabSize).Reachable w) {c : BurstCall}
    (running : w.call = some c) :
    c.put.length = c.n ∧ Distinct slabCount slabSize w.pool c.put ∧
      (slabCount * slabSize < 2 ^ b.accBits →
        c.bytes = payloadBytes w.pool c.put ∧ (∀ a, ¬ Wraps w a) ∧
        ∀ a t n, (world b slabCount slabSize).step w a = some t →
          t.returns = w.returns ++ [(c.cap, .ok n)] →
          t.metrics = w.metrics.recordRecvBurst b.label n (payloadBytes w.pool c.put)) := by
  have tallied : c.bytes = landedBytes c.put % 2 ^ b.accBits :=
    world_tallied b slabCount slabSize w reach c running
  obtain ⟨distinct, shown⟩ := world_distinct reach running
  have count : c.put.length = c.n :=
    BurstCall.put_length (world_counted b slabCount slabSize w reach c running)
  refine ⟨count, distinct, ?_⟩
  intro word
  have exact : c.bytes = payloadBytes w.pool c.put := by
    rw [tallied, ← shown]
    exact Nat.mod_eq_of_lt (Nat.lt_of_le_of_lt distinct.bytes word)
  refine ⟨exact, ?_, ?_⟩
  · rintro a ⟨c', slab, d, rest, _, own, pc, queue, many⟩
    rw [running, Option.some.injEq] at own
    subst own
    have fits := world_landing_fits reach running pc queue
    have width : b.accBits = 64 := by cases b <;> rfl
    rw [exact, shown] at many
    rw [width] at word
    omega
  · intro a t n taken returned
    obtain ⟨same, metrics⟩ := recorded_of_step running (step_of_step taken) returned
    rw [metrics, same, exact]

/-- **The byte accumulator.** From every reachable state of the pool and whatever the
socket answers, the frames one `recv_burst` appends hold distinct slots: there are at most
`slab_count` of them and they show at most `slab_count * slab_size` bytes. The same holds
at any moment of a call among other threads. If that many bytes fit the word of the
accumulator, no addition wraps and what is recorded is the sum of the payload lengths. -/
theorem accumulator_exact (b : Backend) (slabCount slabSize : Nat) :
    (∀ {S : Type} (sock : UdpSock S) (max : Nat) (st : RecvState S) (s : Shared),
      (shared slabCount slabSize).Reachable s → st.pool = s.pool →
      let after := (recvBurst b sock max st).2
      let put := after.out.frames.drop st.out.frames.length
      Distinct slabCount slabSize after.pool put ∧
        (slabCount * slabSize < 2 ^ b.accBits →
          ¬ ByteOverflow b sock max st ∧
          ∀ n, (recvBurst b sock max st).1 = .ok n →
            after.metrics =
              st.metrics.recordRecvBurst b.label n (payloadBytes after.pool put))) ∧
    ∀ (w : World) (c : BurstCall), (world b slabCount slabSize).Reachable w → w.call = some c →
      c.put.length = c.n ∧ Distinct slabCount slabSize w.pool c.put ∧
        (slabCount * slabSize < 2 ^ b.accBits →
          c.bytes = payloadBytes w.pool c.put ∧ (∀ a, ¬ Wraps w a) ∧
          ∀ a t n, (world b slabCount slabSize).step w a = some t →
            t.returns = w.returns ++ [(c.cap, .ok n)] →
            t.metrics = w.metrics.recordRecvBurst b.label n (payloadBytes w.pool c.put)) := by
  refine ⟨?_, fun _ _ reach running => world_bytes_exact reach running⟩
  intro S sock max st s reach pool
  have owned := shared_owned slabCount slabSize s reach
  have owns : Owns slabCount slabSize st.pool s.live := by
    rw [pool]
    exact ⟨owned.indices, owned.slots, owned.size⟩
  exact recvBurst_bytes_exact b sock max st owns

/-- Two bytes arrive, and the call that receives them is about to look for more. -/
def landedTwo : List Action :=
  [.newBatch 8, .arrive ⟨[7, 7], someSender⟩, .recvBurst 0 8, .next none, .next none]

theorem accumulator_exact_landedTwo :
    (∃ c, (played .tokio landedTwo).call = some c ∧ c.bytes = 2) ∧
      ¬ ByteOverflow .mio kernelSock 64 threeQueued.recv := by
  have fresh : (shared 1 4).init (Shared.new threeQueued.recv.pool) := ⟨_, rfl, rfl⟩
  have sequential := (accumulator_exact .mio 1 4).1 kernelSock 64 threeQueued.recv _
    (.init fresh) rfl
  have among := (accumulator_exact .tokio 1 2).2 (played .tokio landedTwo) _
    (played_reachable .tokio landedTwo) rfl
  exact ⟨⟨_, rfl, (among.2.2 (by decide)).1⟩, (sequential.2 (by decide)).1⟩

end Transports.Udp
