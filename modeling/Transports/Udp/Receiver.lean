import Transports.Udp.Counters
import Transports.Udp.Session

/-!
# The receive loop

`main` of the `recv_metrics` programs: burst, drain and drop every frame, until enough
frames are reaped or, on tokio, the time is up. A full pool is no reason to stop, any
other error is. Nobody but the loop uses the pool.

Whatever the socket answers, the pool is back at rest at the head of the loop, so that the
arm for a full pool is never taken, and `reaped` is what the packet counter grew by.
-/

namespace Transports.Udp

open Lib Transports.Core Transports.Pool

variable {S : Type}

/-- The transport with its batch, and `reaped`. -/
structure Receiver (S : Type) where
  session : Session S
  reaped : Nat

/-- How the loop stands after some turns. -/
inductive Reaping
  | running
  | finished
  | failed (e : TransportError)
  deriving DecidableEq

namespace Receiver

/-- One turn: `recv_burst`, then every frame drained, read and dropped. -/
def turn (b : Backend) (sock : UdpSock S) (depth : Nat) (r : Receiver S) :
    Except TransportError Unit × Receiver S :=
  let session := r.session.burst b sock depth
  match (recvBurst b sock depth r.session.recv).1 with
  | .ok n => (.ok (), ⟨session.drain 0, r.reaped + n⟩)
  -- pool full: the kernel drops, and the loop tries again
  | .error (.poolExhausted _ _) => (.ok (), { r with session })
  | .error e => (.error e, { r with session })

/-- The loop from its check number `i` on, with at most this many turns left; `late i` says
that the time is up by then. -/
def loop (b : Backend) (sock : UdpSock S) (depth target : Nat) (late : Nat → Bool) :
    Nat → Nat → Receiver S → Reaping × Receiver S
  | 0, _, r => (.running, r)
  | turns + 1, i, r =>
    if r.reaped < target ∧ late i = false then
      match r.turn b sock depth with
      | (.ok (), r) => loop b sock depth target late turns (i + 1) r
      | (.error e, r) => (.failed e, r)
    else (.finished, r)

/-- A transport just bound, an empty batch and nothing reaped. -/
def start (recv : RecvState S) : Receiver S := ⟨⟨recv, [], []⟩, 0⟩

end Receiver

/-- `REAP_TARGET`. -/
def reapTarget : Nat := 50000

/-- `BATCH_DEPTH`, also the tokio program's `max`. -/
def batchDepth : Nat := 64

/-- The loop of `recv_metrics_mio`. -/
def Mio.receive (sock : UdpSock S) (turns : Nat) (recv : RecvState S) : Reaping × Receiver S :=
  (Receiver.start recv).loop .mio sock batchDepth reapTarget (fun _ => false) turns 0

/-- The loop of `recv_metrics_tokio`, with what the clock has passed at each check. -/
def Tokio.receive (sock : UdpSock S) (late : Nat → Bool) (turns : Nat) (recv : RecvState S) :
    Reaping × Receiver S :=
  (Receiver.start recv).loop .tokio sock batchDepth reapTarget late turns 0

/-! ## At the head of the loop -/

/-- No slab is out, nothing is left in the batch, and the counter has what was reaped. -/
structure AtHead (slabCount slabSize depth counted : Nat) (r : Receiver S) : Prop where
  sane : r.session.Sane slabCount slabSize 0
  empty : r.session.recv.out.frames = []
  dropped : r.session.frames = []
  capacity : r.session.recv.out.capacity = depth
  gate : r.session.recv.metrics.enabled = true
  packets : r.session.recv.metrics.total Telemetry.recvPackets = counted + r.reaped

section Turns

variable {b : Backend} {sock : UdpSock S} {slabCount slabSize depth counted : Nat}
  {r : Receiver S}

theorem AtHead.free (head : AtHead slabCount slabSize depth counted r) :
    r.session.recv.pool.free.length = slabCount ∧ r.session.recv.pool.inUse = 0 := by
  have none_out : r.session.live 0 = 0 := by
    simp [Session.live, head.empty, head.dropped]
  have sane := head.sane
  unfold Session.Sane at sane
  rw [none_out] at sane
  have slots := sane.free_add_live
  have count := sane.slots
  have used := sane.inUse_eq
  rw [Multiset.card_zero] at slots used
  exact ⟨slots.trans count, used⟩

/-- A call in this state does not find the pool full, and lands what its slabs allow. -/
theorem AtHead.answer (b : Backend) (sock : UdpSock S)
    (head : AtHead slabCount slabSize depth counted r) (some : 0 < slabCount) :
    (∃ n, n ≤ min depth slabCount ∧ (recvBurst b sock depth r.session.recv).1 = .ok n) ∨
      ∃ e, e.kind ≠ .wouldBlock ∧ (recvBurst b sock depth r.session.recv).1 = .error (.io e) := by
  obtain ⟨frames, exit, run⟩ := recvBurst_spec b sock depth r.session.recv
  obtain ⟨free, _⟩ := head.free
  have room := run.le_room
  have slabs := run.le_free
  have fits : frames.length ≤ min depth slabCount := by omega
  have result := run.result
  rw [Nat.zero_add] at result
  cases exit with
  | full | drained => exact .inl ⟨frames.length, fits, result⟩
  | failed e => exact .inr ⟨e, run.reason.2.2.2, result⟩
  | exhausted =>
      have last : frames.length = r.session.recv.pool.free.length := run.reason.2
      have more : frames.length ≠ 0 := by omega
      rw [Exit.result, if_neg more] at result
      exact .inl ⟨frames.length, fits, result⟩

/-- The answer no turn of the loop gets. -/
theorem AtHead.not_exhausted (b : Backend) (sock : UdpSock S)
    (head : AtHead slabCount slabSize depth counted r) (some : 0 < slabCount)
    (inUse capacity : Nat) :
    (recvBurst b sock depth r.session.recv).1 ≠ .error (.poolExhausted inUse capacity) := by
  rcases head.answer b sock some with ⟨n, _, answer⟩ | ⟨e, _, answer⟩
  · rw [answer]
    rintro ⟨⟩
  · rw [answer]
    rintro ⟨⟩

/-- What one turn comes to. -/
theorem AtHead.turn (b : Backend) (sock : UdpSock S)
    (head : AtHead slabCount slabSize depth counted r) (some : 0 < slabCount) :
    (∃ n, n ≤ min depth slabCount ∧ (r.turn b sock depth).1 = .ok () ∧
      (r.turn b sock depth).2.reaped = r.reaped + n ∧
      AtHead slabCount slabSize depth counted (r.turn b sock depth).2) ∨
    ∃ e, e.kind ≠ .wouldBlock ∧ (r.turn b sock depth).1 = .error (.io e) ∧
      (r.turn b sock depth).2.reaped = r.reaped ∧
      (r.turn b sock depth).2.session.recv.metrics.total Telemetry.recvPackets =
        counted + r.reaped := by
  obtain ⟨frames, mid, exit, run⟩ := callRun_exists b sock depth r.session.recv
  have metrics := run.metrics
  rcases head.answer b sock some with ⟨n, fits, answer⟩ | ⟨e, kind, answer⟩
  · rw [answer] at metrics
    have turned : r.turn b sock depth =
        (.ok (), ⟨(r.session.burst b sock depth).drain 0, r.reaped + n⟩) := by
      rw [Receiver.turn, answer]
    refine .inl ⟨n, fits, ?_⟩
    rw [turned]
    refine ⟨rfl, rfl, (head.sane.burst depth).drain 0, rfl, ?_, ?_, ?_, ?_⟩
    · show r.session.frames ++ List.take 0 _ = []
      rw [head.dropped]
      rfl
    · exact run.capacity.trans head.capacity
    · show (recvBurst b sock depth r.session.recv).2.metrics.enabled = true
      rw [metrics, Telemetry.recordRecvBurst_enabled]
      exact head.gate
    · show (recvBurst b sock depth r.session.recv).2.metrics.total _ = _
      rw [metrics, Telemetry.total_recvPackets _ _ _ head.gate, head.packets, Nat.add_assoc]
  · rw [answer] at metrics
    have turned : r.turn b sock depth =
        (.error (.io e), { r with session := r.session.burst b sock depth }) := by
      rw [Receiver.turn, answer]
    refine .inr ⟨e, kind, ?_⟩
    rw [turned]
    refine ⟨rfl, rfl, ?_⟩
    show (recvBurst b sock depth r.session.recv).2.metrics.total _ = _
    rw [metrics]
    exact head.packets

/-- Where every read hands over a datagram, a turn reaps at least one. -/
theorem AtHead.turn_flooded (head : AtHead slabCount slabSize depth counted r)
    (some : 0 < slabCount) (deep : 0 < depth)
    (flooded : ∀ s, ∃ got, b.received (sock.recvFrom s slabSize).1 = .ok got) :
    (r.turn b sock depth).1 = .ok () ∧ r.reaped < (r.turn b sock depth).2.reaped := by
  obtain ⟨frames, exit, run⟩ := recvBurst_spec b sock depth r.session.recv
  obtain ⟨free, _⟩ := head.free
  have size : r.session.recv.pool.slabSize = slabSize := head.sane.size
  have reads : ∀ k, ∃ got, r.session.recv.answer b sock k = .ok got := by
    intro k
    rw [RecvState.answer, UdpSock.answer, size]
    exact flooded _
  have spare : r.session.recv.out.spare = depth := by
    rw [FrameBatch.spare, head.empty, head.capacity]
    rfl
  -- neither error nor `WouldBlock` stops the loop, so it stops full or out of slabs
  have landed : 0 < frames.length ∧
      (recvBurst b sock depth r.session.recv).1 = .ok frames.length := by
    have reason := run.reason
    have result := run.result
    rw [Nat.zero_add] at result
    cases exit with
    | full =>
        have last : frames.length = min depth r.session.recv.out.spare := reason
        exact ⟨by omega, result⟩
    | exhausted =>
        have last : frames.length = r.session.recv.pool.free.length := reason.2
        have more : frames.length ≠ 0 := by omega
        rw [Exit.result, if_neg more] at result
        exact ⟨by omega, result⟩
    | drained =>
        obtain ⟨_, _, e, stopped, _⟩ := reason
        obtain ⟨got, answer⟩ := reads frames.length
        rw [answer] at stopped
        cases stopped
    | failed e =>
        obtain ⟨_, _, stopped, _⟩ := reason
        obtain ⟨got, answer⟩ := reads frames.length
        rw [answer] at stopped
        cases stopped
  obtain ⟨positive, answer⟩ := landed
  rw [Receiver.turn, answer]
  exact ⟨rfl, Nat.lt_add_of_pos_right positive⟩

end Turns

/-! ## The whole loop -/

/-- How the loop may stand after `turns` turns from check number `i` on. -/
inductive Ends (slabCount slabSize depth counted target : Nat) (late : Nat → Bool)
    (i turns : Nat) : Reaping × Receiver S → Prop
  | running {r} (head : AtHead slabCount slabSize depth counted r)
      (few : r.reaped < target + min depth slabCount)
      (inTime : ∀ j < turns, late (i + j) = false) : Ends _ _ _ _ _ _ _ _ (.running, r)
  | finished {r} (head : AtHead slabCount slabSize depth counted r)
      (few : r.reaped < target + min depth slabCount)
      (why : target ≤ r.reaped ∨ ∃ j < turns, late (i + j) = true) :
      Ends _ _ _ _ _ _ _ _ (.finished, r)
  /-- an error of the socket, and no other -/
  | failed {r e} (kind : e.kind ≠ .wouldBlock) (few : r.reaped < target)
      (packets : r.session.recv.metrics.total Telemetry.recvPackets = counted + r.reaped) :
      Ends _ _ _ _ _ _ _ _ (.failed (.io e), r)

section Loop

variable {b : Backend} {sock : UdpSock S} {slabCount slabSize depth counted target : Nat}
  {late : Nat → Bool} {r : Receiver S}

theorem loop_ends (b : Backend) (sock : UdpSock S)
    (head : AtHead slabCount slabSize depth counted r) (some : 0 < slabCount)
    (few : r.reaped < target + min depth slabCount) (turns i : Nat) :
    Ends slabCount slabSize depth counted target late i turns
      (r.loop b sock depth target late turns i) := by
  induction turns generalizing r i with
  | zero => exact .running head few fun j none => absurd none (Nat.not_lt_zero j)
  | succ turns ih =>
      rw [Receiver.loop]
      split
      case isFalse stop =>
          refine .finished head few ?_
          by_cases enough : target ≤ r.reaped
          · exact .inl enough
          · refine .inr ⟨0, Nat.succ_pos turns, ?_⟩
            have up : late i ≠ false := fun inTime => stop ⟨Nat.lt_of_not_le enough, inTime⟩
            simpa using up
      case isTrue go =>
          obtain ⟨short, inTime⟩ := go
          rcases head.turn b sock some with
            ⟨n, fits, answer, reaped, next⟩ | ⟨e, kind, answer, reaped, packets⟩
          · -- the other turns start one check later
            rcases turned : r.turn b sock depth with ⟨verdict, after⟩
            rw [turned] at answer reaped next
            obtain rfl : verdict = .ok () := answer
            have reaped : after.reaped = r.reaped + n := reaped
            have next : AtHead slabCount slabSize depth counted after := next
            have rest := ih next (by omega) (i + 1)
            show Ends _ _ _ _ _ _ _ _ (after.loop b sock depth target late turns (i + 1))
            generalize after.loop b sock depth target late turns (i + 1) = final at rest ⊢
            cases rest with
            | running head few later =>
                refine .running head few ?_
                intro j less
                cases j with
                | zero => exact inTime
                | succ j =>
                    rw [Nat.add_comm j 1, ← Nat.add_assoc]
                    exact later j (by omega)
            | finished head few why =>
                refine .finished head few (why.imp_right ?_)
                rintro ⟨j, less, up⟩
                refine ⟨j + 1, by omega, ?_⟩
                rwa [Nat.add_comm j 1, ← Nat.add_assoc]
            | failed kind few packets => exact .failed kind few packets
          · rcases turned : r.turn b sock depth with ⟨verdict, after⟩
            rw [turned] at answer reaped packets
            obtain rfl : verdict = .error (.io e) := answer
            have reaped : after.reaped = r.reaped := reaped
            refine .failed kind (by omega) ?_
            rw [reaped]
            exact packets

/-- Enough turns on a socket that never runs dry. -/
theorem loop_flooded (head : AtHead slabCount slabSize depth counted r) (some : 0 < slabCount)
    (deep : 0 < depth)
    (flooded : ∀ s, ∃ got, b.received (sock.recvFrom s slabSize).1 = .ok got) {turns i : Nat}
    (enough : target - r.reaped < turns) :
    (r.loop b sock depth target late turns i).1 = .finished := by
  induction turns generalizing r i with
  | zero => exact absurd enough (Nat.not_lt_zero _)
  | succ turns ih =>
      rw [Receiver.loop]
      split
      case isFalse => rfl
      case isTrue go =>
          obtain ⟨answer, more⟩ := head.turn_flooded some deep flooded
          rcases head.turn b sock some with ⟨_, _, _, _, next⟩ | ⟨e, _, failed, _⟩
          · rcases turned : r.turn b sock depth with ⟨verdict, after⟩
            rw [turned] at answer more next
            obtain rfl : verdict = .ok () := answer
            have more : r.reaped < after.reaped := more
            have next : AtHead slabCount slabSize depth counted after := next
            exact ih next (by omega)
          · rw [answer] at failed
            cases failed

end Loop

/-- A transport just bound, with an empty batch and the metrics on. -/
structure JustBound (slabCount slabSize : Nat) (recv : RecvState S) : Prop where
  built : VecPool.build slabCount slabSize = some recv.pool
  batch : recv.out = .withCapacity batchDepth
  gate : recv.metrics.enabled = true

theorem JustBound.atHead {slabCount slabSize : Nat} {recv : RecvState S}
    (bound : JustBound slabCount slabSize recv) :
    AtHead slabCount slabSize batchDepth (recv.metrics.total Telemetry.recvPackets)
        (Receiver.start recv) ∧ 0 < slabCount := by
  have empty : recv.out.frames = [] := by
    rw [bound.batch]
    rfl
  refine ⟨⟨?_, empty, rfl, ?_, bound.gate, rfl⟩, ?_⟩
  · unfold Session.Sane
    have none_out : (Receiver.start recv).session.live 0 = 0 := by
      simp [Session.live, Receiver.start, empty]
    rw [none_out]
    exact Owned.new bound.built
  · show recv.out.capacity = batchDepth
    rw [bound.batch]
    rfl
  · exact ((VecPool.build_isSome slabCount slabSize).mp (by rw [bound.built]; rfl)).1

/-- **The receive programs.** On any socket whatever: at every check both loops find every
slab back in the pool and in `reaped` what the packet counter grew by, less than one burst
above the target; no burst either of them makes answers `PoolExhausted`; they end only by
reaching the target, on tokio also by the clock, or with an error of the socket; and the mio
loop does reach its target if no read finds the socket empty or failing, the tokio loop then
or when the time is up. -/
theorem receive_ends (sock : UdpSock S) {slabCount slabSize : Nat} {recv : RecvState S}
    (bound : JustBound slabCount slabSize recv) (late : Nat → Bool) (turns : Nat) :
    Ends slabCount slabSize batchDepth (recv.metrics.total Telemetry.recvPackets) reapTarget
        (fun _ => false) 0 turns (Mio.receive sock turns recv) ∧
      Ends slabCount slabSize batchDepth (recv.metrics.total Telemetry.recvPackets) reapTarget
        late 0 turns (Tokio.receive sock late turns recv) ∧
      (∀ r inUse capacity, Mio.receive sock turns recv = (.running, r) →
        (recvBurst .mio sock batchDepth r.session.recv).1 ≠
          .error (.poolExhausted inUse capacity)) ∧
      (∀ r inUse capacity, Tokio.receive sock late turns recv = (.running, r) →
        (recvBurst .tokio sock batchDepth r.session.recv).1 ≠
          .error (.poolExhausted inUse capacity)) ∧
      ((∀ s, ∃ got, Backend.received .mio (sock.recvFrom s slabSize).1 = .ok got) →
        reapTarget < turns → (Mio.receive sock turns recv).1 = .finished) ∧
      (((∀ s, ∃ got, Backend.received .tokio (sock.recvFrom s slabSize).1 = .ok got) ∧
        reapTarget < turns ∨ ∃ j < turns, late j = true) →
        (Tokio.receive sock late turns recv).1 ≠ .running) := by
  obtain ⟨head, some⟩ := bound.atHead
  have few : (Receiver.start recv).reaped < reapTarget + min batchDepth slabCount := by
    show 0 < 50000 + _
    omega
  have deep : 0 < batchDepth := by decide
  have mio : Ends slabCount slabSize batchDepth _ reapTarget (fun _ => false) 0 turns
      (Mio.receive sock turns recv) := loop_ends .mio sock head some few turns 0
  have tokio : Ends slabCount slabSize batchDepth _ reapTarget late 0 turns
      (Tokio.receive sock late turns recv) := loop_ends .tokio sock head some few turns 0
  refine ⟨mio, tokio, ?_, ?_, ?_, ?_⟩
  · intro r inUse capacity going
    rw [going] at mio
    cases mio with
    | running here => exact here.not_exhausted .mio sock some inUse capacity
  · intro r inUse capacity going
    rw [going] at tokio
    cases tokio with
    | running here => exact here.not_exhausted .tokio sock some inUse capacity
  · intro flooded enough
    exact loop_flooded head some deep flooded enough
  · rintro (⟨flooded, enough⟩ | ⟨j, less, up⟩)
    · have finished : (Tokio.receive sock late turns recv).1 = .finished :=
        loop_flooded head some deep flooded enough
      rw [finished]
      exact Reaping.noConfusion
    · generalize Tokio.receive sock late turns recv = final at tokio ⊢
      cases tokio with
      | running _ _ early =>
          have early := early j less
          rw [Nat.zero_add, up] at early
          cases early
      | finished | failed => exact Reaping.noConfusion

/-- Three datagrams queued, over a pool of one slot. -/
def threeToReceive : RecvState KernelSock :=
  { threeQueued.recv with out := .withCapacity batchDepth }

/-- The time is up at the fifth check. -/
def upAtFive (i : Nat) : Bool := decide (4 ≤ i)

theorem receive_ends_three :
    Ends 1 4 batchDepth 0 reapTarget upAtFive 0 5
        (Tokio.receive kernelSock upAtFive 5 threeToReceive) ∧
      (Tokio.receive kernelSock upAtFive 5 threeToReceive).1 ≠ .running := by
  have bound : JustBound 1 4 threeToReceive := ⟨rfl, rfl, rfl⟩
  obtain ⟨_, ends, _, _, _, stops⟩ := receive_ends kernelSock bound upAtFive 5
  exact ⟨ends, stops (.inr ⟨4, by decide, rfl⟩)⟩

end Transports.Udp
