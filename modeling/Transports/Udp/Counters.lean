import Mathlib.Algebra.Order.Monoid.Prod
import Transports.Udp.Contract
import Transports.Udp.Handover
import Transports.Udp.Session

/-!
# The recv counters

A burst is recorded once, after the loop, while its frames are handed over one by
one inside it. So the counters account for every frame unless an exit skips the
recording, and one does: the exit for a socket error, when datagrams landed
before it. Both accounts of `recv_burst` say so, the call by itself over any
socket, and the call among other threads over whole runs.
-/

namespace Transports.Udp

open Lib Transports.Core Transports.Pool

variable {S : Type}

/-! ## Call by call -/

/-- What a call adds to `transport.recv.packets`. -/
def packetsCounted (b : Backend) (sock : UdpSock S) (call : Nat × RecvState S) : Nat :=
  (recvBurst b sock call.1 call.2).2.metrics.total Telemetry.recvPackets -
    call.2.metrics.total Telemetry.recvPackets

/-- What a call adds to `transport.recv.bytes`. -/
def bytesCounted (b : Backend) (sock : UdpSock S) (call : Nat × RecvState S) : Nat :=
  (recvBurst b sock call.1 call.2).2.metrics.total Telemetry.recvBytes -
    call.2.metrics.total Telemetry.recvBytes

/-- The payload bytes of the frames a call puts in the batch. -/
def bytesPut (b : Backend) (sock : UdpSock S) (call : Nat × RecvState S) : Nat :=
  let after := (recvBurst b sock call.1 call.2).2
  ((after.out.frames.drop call.2.out.frames.length).map fun frame =>
    (frame.payload after.pool).length).sum

/-- The reads of one call hand over more bytes than its accumulator can count. -/
def ByteOverflow (b : Backend) (sock : UdpSock S) (max : Nat) (st : RecvState S) : Prop :=
  ∃ got : List (List UInt8 × SocketAddr),
    got.length ≤ min (min max st.out.spare) st.pool.free.length ∧
    (∀ i (h : i < got.length), st.answer b sock i = .ok got[i]) ∧
    2 ^ 64 ≤ (got.map fun landed => landed.1.length).sum

section Call

variable {b : Backend} {sock : UdpSock S} {max : Nat} {st mid : RecvState S}
  {frames : List UdpFrame} {exit : Exit}

/-- The byte sum is over the frames that landed. -/
theorem CallRun.byteOverflow_iff (run : CallRun b sock max st frames mid exit) :
    ByteOverflow b sock max st ↔ 2 ^ 64 ≤ landedBytes frames := by
  constructor
  · rintro ⟨got, room, reads, many⟩
    have landed : ∀ i < got.length, ∃ data, st.answer b sock i = .ok data := by
      intro i bound
      exact ⟨_, reads i bound⟩
    have count := run.le_frames landed room
    have front : got.map (fun landed => landed.1.length) =
        (frames.map fun frame => frame.landed.length).take got.length := by
      apply List.ext_getElem
      · simp only [List.length_map, List.length_take]
        omega
      · intro i bound _
        rw [List.length_map] at bound
        have same := (reads i bound).symm.trans (run.lands.answer i (by omega))
        rw [Except.ok.injEq] at same
        simp [same]
    rw [front] at many
    exact many.trans (List.Sublist.sum_le_sum (List.take_sublist _ _) fun _ _ => Nat.zero_le _)
  · intro many
    have free := congrArg List.length run.lands.pool.2.2
    rw [List.length_append, List.length_map] at free
    refine ⟨frames.map fun frame => (frame.landed, frame.peer), ?_, ?_, ?_⟩
    · have := run.le_room
      rw [List.length_map]
      omega
    · intro i bound
      rw [List.length_map] at bound
      rw [run.lands.answer i bound, List.getElem_map]
    · rw [List.map_map]
      exact many

/-- A call leaves the counters with the burst recorded if it returns `Ok`, and as
they were if it returns `Err`. -/
theorem CallRun.metrics (run : CallRun b sock max st frames mid exit) :
    (recvBurst b sock max st).2.metrics =
      match (recvBurst b sock max st).1 with
      | .ok n => st.metrics.recordRecvBurst b.label n (landedBytes frames % 2 ^ 64)
      | .error _ => st.metrics := by
  have bytes := b.accumulateAll_eq frames 0
  rw [Nat.zero_mod, Nat.zero_add] at bytes
  rw [run.call, bytes, ← run.lands.metrics]
  cases exit with
  | exhausted =>
      by_cases first : frames.length = 0 <;> simp [Exit.leave, first, RecvState.record]
  | full | drained | failed => rfl

theorem CallRun.put (run : CallRun b sock max st frames mid exit) :
    framesPut b sock (max, st) = frames.length ∧
      bytesPut b sock (max, st) = landedBytes frames := by
  refine ⟨run.burstRun.framesPut_eq, ?_⟩
  simp only [bytesPut, run.burstRun.out_frames, List.drop_left, landedBytes]
  congr 1
  apply List.map_congr_left
  intro frame landed
  obtain ⟨recorded, fits⟩ := run.lands.recorded frame landed
  rw [run.pool, UdpFrame.payload, VecPool.asRef_length, recorded, run.lands.pool.1]
  omega

end Call

/-- With the gate on, the packets counted are the packets reported. -/
theorem packetsCounted_eq (b : Backend) (sock : UdpSock S) {call : Nat × RecvState S}
    (gate : call.2.metrics.enabled = true) :
    packetsCounted b sock call = okCount b sock call := by
  obtain ⟨max, st⟩ := call
  obtain ⟨frames, mid, exit, run⟩ := callRun_exists b sock max st
  simp only [packetsCounted, okCount, run.metrics]
  cases (recvBurst b sock max st).1 with
  | ok n =>
      simp only [Telemetry.total_recvPackets _ _ _ gate]
      omega
  | error e => exact Nat.sub_self _

/-- A call counts the bytes it puts in the batch, or fewer; and all of them exactly
when no fault cut it short and their number fits the accumulator. -/
theorem bytesCounted_spec (b : Backend) (sock : UdpSock S) {call : Nat × RecvState S}
    (gate : call.2.metrics.enabled = true) :
    bytesCounted b sock call ≤ bytesPut b sock call ∧
      (¬ MidBurstFault b sock call.1 call.2 →
        (bytesCounted b sock call = bytesPut b sock call ↔
          ¬ ByteOverflow b sock call.1 call.2)) := by
  obtain ⟨max, st⟩ := call
  obtain ⟨frames, mid, exit, run⟩ := callRun_exists b sock max st
  have gate : st.metrics.enabled = true := gate
  have reported := (okCount_le_framesPut b sock (max, st)).2
  have fits := Nat.mod_le (landedBytes frames) (2 ^ 64)
  rw [run.put.2, run.byteOverflow_iff]
  rw [run.put.1] at reported
  cases result : (recvBurst b sock max st).1 with
  | ok n =>
      have counted : bytesCounted b sock (max, st) = landedBytes frames % 2 ^ 64 := by
        simp only [bytesCounted, run.metrics, result, Telemetry.total_recvBytes _ _ _ gate]
        omega
      rw [counted]
      refine ⟨fits, ?_⟩
      intro _
      constructor
      · intro whole many
        have := Nat.mod_lt (landedBytes frames) (Nat.two_pow_pos 64)
        omega
      · intro within
        exact Nat.mod_eq_of_lt (Nat.lt_of_not_le within)
  | error e =>
      have counted : bytesCounted b sock (max, st) = 0 := by
        simp only [bytesCounted, run.metrics, result, Nat.sub_self]
      rw [counted]
      refine ⟨Nat.zero_le _, ?_⟩
      intro clean
      -- an error without a fault mid-burst put nothing in the batch
      have none : frames = [] := by
        have zero := reported.mpr clean
        simp only [okCount, result] at zero
        exact List.eq_nil_of_length_eq_zero zero.symm
      subst none
      simp [landedBytes]

/-- Over calls made with the gate on, the two counters add up to the frames and bytes
put in batches exactly when no call lost any. -/
theorem calls_counted_iff (b : Backend) (sock : UdpSock S) {calls : List (Nat × RecvState S)}
    (gate : ∀ call ∈ calls, call.2.metrics.enabled = true) :
    ((calls.map (packetsCounted b sock)).sum = (calls.map (framesPut b sock)).sum ∧
        (calls.map (bytesCounted b sock)).sum = (calls.map (bytesPut b sock)).sum) ↔
      ∀ call ∈ calls, ¬ MidBurstFault b sock call.1 call.2 ∧
        ¬ ByteOverflow b sock call.1 call.2 := by
  have packets : ∀ call ∈ calls, packetsCounted b sock call ≤ framesPut b sock call := by
    intro call member
    rw [packetsCounted_eq b sock (gate call member)]
    exact (okCount_le_framesPut b sock call).1
  have bytes : ∀ call ∈ calls, bytesCounted b sock call ≤ bytesPut b sock call := by
    intro call member
    exact (bytesCounted_spec b sock (gate call member)).1
  rw [sum_map_eq_iff packets, sum_map_eq_iff bytes, ← forall₂_and]
  apply forall₂_congr
  intro call member
  rw [packetsCounted_eq b sock (gate call member), (okCount_le_framesPut b sock call).2]
  exact and_congr_right (bytesCounted_spec b sock (gate call member)).2

/-- A pool of less than `2^64` bytes never overflows the accumulator. -/
theorem ByteOverflow.pool_bytes {b : Backend} {sock : UdpSock S} {max : Nat}
    {st : RecvState S} (many : ByteOverflow b sock max st) :
    2 ^ 64 ≤ st.pool.free.length * st.pool.slabSize := by
  obtain ⟨frames, mid, exit, run⟩ := callRun_exists b sock max st
  exact (run.byteOverflow_iff.mp many).trans run.lands.landedBytes_le

/-! ## Over runs of the world -/

/-- The frames ever appended to batches, and their payload bytes. -/
def World.handedOver (w : World) : Nat × Nat :=
  (w.appended.length, (w.appended.map fun put => put.1.length).sum)

/-- What a call in progress will record unless a read still fails. -/
def BurstCall.pending (c : BurstCall) : Nat × Nat :=
  match c.pc with
  | .exhausted => 0
  | .releasing _ e => if e.kind = .wouldBlock then (c.n, c.bytes) else 0
  | .acquiring | .receiving _ => (c.n, c.bytes)

/-- The counters, with what the call in progress is still to record. -/
def World.counted (w : World) : Nat × Nat :=
  w.metrics.totals + w.call.elim 0 BurstCall.pending

/-- The step fails the read of a call that has landed datagrams. -/
def CutShort (w : World) (a : Action) : Prop :=
  ∃ c slab e, a = .next (some e) ∧ w.call = some c ∧ c.pc = .receiving slab ∧ 0 < c.n

/-- The step lands more bytes than the accumulator has room for. -/
def Wraps (w : World) (a : Action) : Prop :=
  ∃ c slab d rest, a = .next none ∧ w.call = some c ∧ c.pc = .receiving slab ∧
    w.queue = d :: rest ∧ 2 ^ 64 ≤ c.bytes + (d.payload.take w.pool.slabSize).length

/-- The step is a read. -/
def Reads (w : World) (a : Action) : Prop :=
  ∃ fault c slab, a = .next fault ∧ w.call = some c ∧ c.pc = .receiving slab

/-- The gate is on, and a call that landed nothing counted no bytes. -/
def Counting (w : World) : Prop :=
  w.metrics.enabled = true ∧ ∀ c, w.call = some c → c.n = 0 → c.bytes = 0

section Steps

variable {b : Backend} {slabCount slabSize : Nat} {w t : World} {a : Action} {c : BurstCall}

theorem counting_step (counting : Counting w) (step : Step b w a t) : Counting t := by
  obtain ⟨gate, bytes⟩ := counting
  cases step with
  | arrive | newBatch | drain | dropFrame | acquireNone | acquire | write | setLen | dropSlab =>
      exact ⟨gate, bytes⟩
  | call idle lent =>
      refine ⟨gate, ?_⟩
      rintro _ ⟨⟩ _
      rfl
  | acquired running | refused running | stopped running =>
      have kept := bytes _ running
      refine ⟨gate, ?_⟩
      rintro _ ⟨⟩
      exact kept
  | landed running =>
      refine ⟨gate, ?_⟩
      rintro _ ⟨⟩ none
      cases none
  | finished running | released running =>
      refine ⟨?_, ?_⟩
      · simpa [World.finish] using gate
      · intro _ running
        cases running
  | exhausted running | aborted running =>
      refine ⟨gate, ?_⟩
      intro _ running
      cases running

/-- Only reads hand over frames or lose counts. -/
theorem counted_of_not_reads (counting : Counting w) (step : Step b w a t)
    (other : ¬ Reads w a) : t.handedOver = w.handedOver ∧ t.counted = w.counted := by
  obtain ⟨gate, bytes⟩ := counting
  cases step with
  | arrive | newBatch | drain | dropFrame | acquireNone | acquire | write | setLen | dropSlab =>
      exact ⟨rfl, rfl⟩
  | call idle lent =>
      refine ⟨rfl, ?_⟩
      simp only [World.counted, idle, Option.elim, BurstCall.pending]
      rfl
  | acquired running pc =>
      refine ⟨rfl, ?_⟩
      simp only [World.counted, running, Option.elim, BurstCall.pending, pc]
  | @refused _ c running pc _ _ first =>
      refine ⟨rfl, ?_⟩
      have nothing : (c.n, c.bytes) = 0 := by rw [first, bytes c running first]; rfl
      simp only [World.counted, running, Option.elim, BurstCall.pending, pc, nothing]
  | finished running pc =>
      refine ⟨rfl, ?_⟩
      simp only [World.counted, World.finish, Telemetry.totals_recordRecvBurst _ _ _ gate,
        running, Option.elim, BurstCall.pending, pc, add_zero]
  | exhausted running pc =>
      refine ⟨rfl, ?_⟩
      simp only [World.counted, World.fail, running, Option.elim, BurstCall.pending, pc]
  | landed running pc | stopped running pc => exact absurd ⟨_, _, _, rfl, running, pc⟩ other
  | released running pc drained =>
      refine ⟨rfl, ?_⟩
      simp only [World.counted, World.finish, Telemetry.totals_recordRecvBurst _ _ _ gate,
        running, Option.elim, BurstCall.pending, pc, if_pos drained, add_zero]
  | aborted running pc failed =>
      refine ⟨rfl, ?_⟩
      simp only [World.counted, World.fail, running, Option.elim, BurstCall.pending, pc,
        if_neg failed]

theorem counted_receiving {slab : VecSlab} (running : w.call = some c)
    (pc : c.pc = .receiving slab) :
    w.counted = w.metrics.totals + (c.n, c.bytes) := by
  simp only [World.counted, running, Option.elim, BurstCall.pending, pc]

/-- A failed read drops what its call counted. -/
theorem counted_failed {slab : VecSlab} (running : w.call = some c) (pc : c.pc = .receiving slab)
    (e : Fault) :
    (w.next b c (some e)).handedOver = w.handedOver ∧
      w.counted = (w.next b c (some e)).counted + (c.n, c.bytes) := by
  rw [counted_receiving running pc]
  simp [World.next, pc, kernelRecv, World.handedOver, World.counted, BurstCall.pending,
    e.property]

/-- A read of an empty queue drops nothing. -/
theorem counted_idle {slab : VecSlab} (running : w.call = some c) (pc : c.pc = .receiving slab)
    (queue : w.queue = []) :
    (w.next b c none).handedOver = w.handedOver ∧ (w.next b c none).counted = w.counted := by
  rw [counted_receiving running pc]
  simp [World.next, pc, queue, kernelRecv, World.handedOver, World.counted, BurstCall.pending,
    IoError.wouldBlock]

/-- A landing hands over what it counts, up to the width of the accumulator. -/
theorem counted_landed {slab : VecSlab} {d : Datagram} {rest : List Datagram}
    (pc : c.pc = .receiving slab) (queue : w.queue = d :: rest) :
    let landed := (d.payload.take w.pool.slabSize).length
    (w.next b c none).handedOver = w.handedOver + (1, landed) ∧
      (w.next b c none).counted =
        w.metrics.totals + (c.n + 1, (c.bytes + landed) % 2 ^ 64) := by
  have width : b.accBits = 64 := by cases b <;> rfl
  constructor
  · simp [World.next, pc, queue, kernelRecv, World.land, World.handedOver, UdpFrame.payload,
      VecPool.asRef_length]
  · simp [World.next, pc, queue, kernelRecv, World.land, World.counted, BurstCall.pending,
      Backend.accumulate, width]

/-- A read cuts its call short if it fails and the call has landed something. -/
theorem cutShort_iff {slab : VecSlab} (running : w.call = some c) (pc : c.pc = .receiving slab)
    (fault : Option Fault) : CutShort w (.next fault) ↔ fault.isSome ∧ 0 < c.n := by
  constructor
  · intro ⟨d, _, e, same, call, _, landed⟩
    cases same
    rw [running, Option.some.injEq] at call
    exact ⟨rfl, call ▸ landed⟩
  · intro ⟨failed, landed⟩
    obtain ⟨e, rfl⟩ := Option.isSome_iff_exists.mp failed
    exact ⟨c, slab, e, rfl, running, pc, landed⟩

/-- A read wraps the accumulator if the datagram it lands does. -/
theorem wraps_iff {slab : VecSlab} {d : Datagram} {rest : List Datagram}
    (running : w.call = some c) (pc : c.pc = .receiving slab) (queue : w.queue = d :: rest) :
    Wraps w (.next none) ↔ 2 ^ 64 ≤ c.bytes + (d.payload.take w.pool.slabSize).length := by
  constructor
  · intro ⟨_, _, _, _, _, call, _, head, many⟩
    rw [running, Option.some.injEq] at call
    rw [queue, List.cons.injEq] at head
    rw [call, head.1]
    exact many
  · intro many
    exact ⟨c, slab, d, rest, rfl, running, pc, queue, many⟩

theorem not_wraps_fault (e : Fault) : ¬ Wraps w (.next (some e)) := by
  intro ⟨_, _, _, _, same, _⟩
  cases same

theorem not_wraps_idle (queue : w.queue = []) : ¬ Wraps w a := by
  intro ⟨_, _, _, _, _, _, _, head, _⟩
  rw [queue] at head
  cases head

/-- A read loses the counts of the call it fails, or the bytes that wrap. -/
theorem counted_of_reads (counting : Counting w) (reads : Reads w a)
    (taken : w.step b a = some t) :
    ∃ lost, t.handedOver + w.counted = w.handedOver + t.counted + lost ∧
      (lost = 0 ↔ ¬ CutShort w a ∧ ¬ Wraps w a) := by
  obtain ⟨fault, c, slab, rfl, running, pc⟩ := reads
  simp only [World.step, running, Option.map_some, Option.some.injEq] at taken
  subst taken
  rw [cutShort_iff running pc]
  cases fault with
  | some e =>
      obtain ⟨put, counted⟩ := counted_failed (b := b) running pc e
      refine ⟨(c.n, c.bytes), ?_, ?_⟩
      · rw [put, counted, add_assoc]
      · -- a call that landed nothing has no bytes to lose either
        rw [and_iff_left (not_wraps_fault e), Option.isSome_some, and_iff_right rfl,
          Nat.pos_iff_ne_zero, not_not, Prod.mk_eq_zero]
        exact and_iff_left_of_imp (counting.2 c running)
  | none =>
      have whole : ¬ ((none : Option Fault).isSome ∧ 0 < c.n) := by
        intro short
        cases short.1
      rw [and_iff_right whole]
      cases queue : w.queue with
      | nil =>
          obtain ⟨put, counted⟩ := counted_idle (b := b) running pc queue
          refine ⟨0, ?_, iff_of_true rfl (not_wraps_idle queue)⟩
          rw [put, counted, add_zero]
      | cons d rest =>
          obtain ⟨put, counted⟩ := counted_landed (b := b) pc queue
          have before := counted_receiving running pc
          rw [wraps_iff running pc queue]
          generalize (d.payload.take w.pool.slabSize).length = landed at put counted ⊢
          have kept := Nat.mod_add_div (c.bytes + landed) (2 ^ 64)
          refine ⟨(0, 2 ^ 64 * ((c.bytes + landed) / 2 ^ 64)), ?_, ?_⟩
          · rw [put, counted, before]
            ext
            · simp only [Prod.fst_add]
              omega
            · simp only [Prod.snd_add]
              omega
          · rw [Prod.mk_eq_zero]
            omega

end Steps

/-- From a fresh transport with the gate on, whenever no call is in progress both
counters stand at what was handed over exactly when no step of the run lost any. -/
theorem run_counted_iff (b : Backend) (slabCount slabSize : Nat) {pool : VecPool}
    {metrics : Telemetry} (gate : metrics.enabled = true) {events : List Action} {t : World}
    (run : (world b slabCount slabSize).runFrom (World.start pool metrics) events = some t)
    (idle : t.call = none) :
    t.metrics.totals = metrics.totals + t.handedOver ↔
      (world b slabCount slabSize).Along (fun w a => ¬ CutShort w a ∧ ¬ Wraps w a)
        (World.start pool metrics) events := by
  have start : Counting (World.start pool metrics) := by
    refine ⟨gate, ?_⟩
    rintro c ⟨⟩
  have step : ∀ w a u, Counting w → (world b slabCount slabSize).step w a = some u →
      ∃ lost, u.handedOver + w.counted = w.handedOver + u.counted + lost ∧
        (lost = 0 ↔ ¬ CutShort w a ∧ ¬ Wraps w a) := by
    intro w a u counting taken
    by_cases reads : Reads w a
    · exact counted_of_reads counting reads taken
    · obtain ⟨put, counted⟩ := counted_of_not_reads counting (step_of_step taken) reads
      refine ⟨0, by rw [put, counted, add_zero], iff_of_true rfl ⟨?_, ?_⟩⟩
      · rintro ⟨c, slab, e, next, running, pc, _⟩
        exact reads ⟨_, c, slab, next, running, pc⟩
      · rintro ⟨c, slab, _, _, next, running, pc, _⟩
        exact reads ⟨_, c, slab, next, running, pc⟩
  obtain ⟨lost, balance, clean⟩ := System.runFrom_lost
    (fun w a u counting taken => counting_step counting (step_of_step taken)) step start run
  rw [← clean]
  have none : (World.start pool metrics).handedOver = 0 := rfl
  have before : (World.start pool metrics).counted = metrics.totals := add_zero _
  have after : t.counted = t.metrics.totals := by
    rw [World.counted, idle]
    exact add_zero _
  rw [none, before, after, zero_add, add_comm] at balance
  rw [balance]
  exact left_eq_add

/-- **The recv counters.** With the gate on: over any calls, each from any state of
its transport, the counters add up to the frames and bytes put in batches if and
only if no call failed after a landing and none overflowed its accumulator; and
in every run of a transport among other threads the counters have grown by what
was handed over if and only if no step of the run is of those kinds. What a step of
the run adds to what was handed over, it puts into the batch in a call's hands. -/
theorem counters_account (b : Backend) :
    (∀ {S : Type} (sock : UdpSock S) (calls : List (Nat × RecvState S)),
      (∀ call ∈ calls, call.2.metrics.enabled = true) →
      (((calls.map (packetsCounted b sock)).sum = (calls.map (framesPut b sock)).sum ∧
          (calls.map (bytesCounted b sock)).sum = (calls.map (bytesPut b sock)).sum) ↔
        ∀ call ∈ calls, ¬ MidBurstFault b sock call.1 call.2 ∧
          ¬ ByteOverflow b sock call.1 call.2)) ∧
    ∀ (slabCount slabSize : Nat) (pool : VecPool) (metrics : Telemetry)
      (events : List Action) (t : World), metrics.enabled = true →
      (world b slabCount slabSize).runFrom (World.start pool metrics) events = some t →
      t.call = none →
      (t.metrics.totals = metrics.totals + t.handedOver ↔
        (world b slabCount slabSize).Along (fun w a => ¬ CutShort w a ∧ ¬ Wraps w a)
          (World.start pool metrics) events) ∧
      (world b slabCount slabSize).Along (fun w a => ∀ u, w.step b a = some u → Handed w u)
        (World.start pool metrics) events := by
  refine ⟨fun sock _ gate => calls_counted_iff b sock gate, ?_⟩
  intro slabCount slabSize pool metrics events t gate run idle
  have put : ∀ w a u, World.step b w a = some u → Handed w u :=
    fun _ _ _ taken => handed_of_step (step_of_step taken)
  exact ⟨run_counted_iff b slabCount slabSize gate run idle, System.along_of_forall put _ events⟩

/-- A fresh transport over one slot. -/
def countedSlot : World := .start threeQueued.recv.pool ⟨true, []⟩

/-- A datagram arrives, and a call with room for it receives it. -/
def receiveOne : List Action :=
  [.arrive ⟨[7], someSender⟩, .newBatch 1, .recvBurst 0 8, .next none, .next none, .next none]

theorem counters_account_one :
    (([(2, threeQueued.recv)].map (packetsCounted .mio kernelSock)).sum =
        ([(2, threeQueued.recv)].map (framesPut .mio kernelSock)).sum ∧
      ([(2, threeQueued.recv)].map (bytesCounted .mio kernelSock)).sum =
        ([(2, threeQueued.recv)].map (bytesPut .mio kernelSock)).sum) ∧
    (world .mio 1 4).Along (fun w a => ¬ CutShort w a ∧ ¬ Wraps w a) countedSlot receiveOne := by
  have account := counters_account .mio
  constructor
  · refine (account.1 kernelSock _ (by decide)).mpr ?_
    intro call member
    rw [List.mem_singleton.mp member]
    constructor
    · rintro ⟨k, _, positive, room, _⟩
      have one : k < 1 := room
      omega
    · intro many
      exact absurd many.pool_bytes (by decide)
  · exact (account.2 1 4 _ _ receiveOne ((world .mio 1 4).replay countedSlot receiveOne) rfl rfl
      rfl).1.mp (by decide)

/-- The state that strands a frame, with the gate on. -/
def resetCounted : RecvState KernelSock := { resetAfterOne with metrics := ⟨true, []⟩ }

/-- There both backends put a frame in the batch and count none. -/
theorem counters_account_lost :
    resetCounted.metrics.enabled = true ∧
    framesPut .tokio kernelSock (2, resetCounted) = 1 ∧
    packetsCounted .tokio kernelSock (2, resetCounted) = 0 ∧
    framesPut .mio kernelSock (2, resetCounted) = 1 ∧
    packetsCounted .mio kernelSock (2, resetCounted) = 0 := by
  decide

end Transports.Udp
