import Transports.Udp.Landings

/-!
# The burst contract, call by call

What a caller may conclude from the result of one `recv_burst`: what an `Err`
says about the batch, what `Ok(0)` says about the socket, and what tokio's
`PoolExhausted` does. Each holds on all inputs but one kind, and the kind is
named exactly.
-/

namespace Transports.Udp

open Lib Transports.Core Transports.Pool

variable {S : Type}

/-! ## `Err` and the batch -/

/-- A socket error meets a read of this call after an earlier read of the same
call has landed a datagram. -/
def MidBurstFault (b : Backend) (sock : UdpSock S) (max : Nat) (st : RecvState S) : Prop :=
  ∃ k e, 0 < k ∧ k < min (min max st.out.spare) st.pool.free.length ∧
    (∀ i < k, ∃ got, st.answer b sock i = .ok got) ∧
    st.answer b sock k = .error e ∧ e.kind ≠ .wouldBlock

/-- The count a call reports; an `Err` reports none. -/
def okCount (b : Backend) (sock : UdpSock S) (call : Nat × RecvState S) : Nat :=
  match (recvBurst b sock call.1 call.2).1 with
  | .ok n => n
  | .error _ => 0

/-- The number of frames a call puts in the batch. -/
def framesPut (b : Backend) (sock : UdpSock S) (call : Nat × RecvState S) : Nat :=
  (recvBurst b sock call.1 call.2).2.out.frames.length - call.2.out.frames.length

namespace BurstRun

variable {b : Backend} {sock : UdpSock S} {max : Nat} {st : RecvState S}
  {frames : List UdpFrame} {exit : Exit}

/-- A call that returns `Err` with frames landed is one a fault cut short. -/
theorem midBurst_of_error {e : TransportError}
    (run : BurstRun b sock (min max st.out.spare) 0 st (recvBurst b sock max st) frames exit)
    (err : (recvBurst b sock max st).1 = .error e) (put : 0 < frames.length) :
    MidBurstFault b sock max st := by
  rw [run.result, Nat.zero_add] at err
  cases exit with
  | full | drained => cases err
  | exhausted =>
      rw [Exit.result, if_neg (by omega)] at err
      cases err
  | failed cause =>
      exact ⟨frames.length, cause, put, run.lt_of_reason_failed,
        fun i bound => ⟨_, run.landed i bound⟩, run.reason.2.2.1, run.reason.2.2.2⟩

/-- A fault after a landing makes the call return `Err` with frames landed. -/
theorem error_of_midBurst
    (run : BurstRun b sock (min max st.out.spare) 0 st (recvBurst b sock max st) frames exit)
    (fault : MidBurstFault b sock max st) :
    0 < frames.length ∧ ∃ e, (recvBurst b sock max st).1 = .error (.io e) := by
  obtain ⟨k, e, positive, bound, before, here, kind⟩ := fault
  obtain ⟨count, left⟩ := run.failed_at before bound here kind
  refine ⟨by omega, e, ?_⟩
  rw [run.result, left]
  rfl

theorem framesPut_eq
    (run : BurstRun b sock (min max st.out.spare) 0 st (recvBurst b sock max st) frames exit) :
    framesPut b sock (max, st) = frames.length := by
  simp only [framesPut, run.out_frames, List.length_append]
  omega

end BurstRun

/-- The batch survives an `Err` exactly when no fault struck mid-burst. -/
theorem recvBurst_err_keeps_iff (b : Backend) (sock : UdpSock S) (max : Nat)
    (st : RecvState S) :
    ((∃ e, (recvBurst b sock max st).1 = .error e) →
        (recvBurst b sock max st).2.out.frames = st.out.frames) ↔
      ¬ MidBurstFault b sock max st := by
  obtain ⟨frames, exit, run⟩ := recvBurst_spec b sock max st
  rw [run.out_frames, List.append_right_eq_self]
  constructor
  · intro keeps fault
    obtain ⟨put, e, err⟩ := run.error_of_midBurst fault
    rw [keeps ⟨_, err⟩] at put
    exact Nat.lt_irrefl 0 put
  · rintro clean ⟨e, err⟩
    by_contra some
    exact clean (run.midBurst_of_error err (List.length_pos_of_ne_nil some))

/-- One call reports what it put in the batch, or less after a fault mid-burst. -/
theorem okCount_le_framesPut (b : Backend) (sock : UdpSock S) (call : Nat × RecvState S) :
    okCount b sock call ≤ framesPut b sock call ∧
      (okCount b sock call = framesPut b sock call ↔
        ¬ MidBurstFault b sock call.1 call.2) := by
  obtain ⟨max, st⟩ := call
  obtain ⟨frames, exit, run⟩ := recvBurst_spec b sock max st
  rw [run.framesPut_eq]
  cases result : (recvBurst b sock max st).1 with
  | ok n =>
      have counted : n = frames.length := by
        have spec := run.result
        rw [result, Nat.zero_add] at spec
        cases exit with
        | full | drained => simpa [Exit.result] using spec
        | exhausted =>
            simp only [Exit.result] at spec
            split at spec
            · cases spec
            · simpa using spec
        | failed e => cases spec
      have clean : ¬ MidBurstFault b sock max st := by
        intro fault
        obtain ⟨_, e, err⟩ := run.error_of_midBurst fault
        rw [result] at err
        cases err
      simp [okCount, result, counted, clean]
  | error e =>
      simp only [okCount, result, Nat.zero_le, true_and]
      constructor
      · intro none fault
        have put := (run.error_of_midBurst fault).1
        omega
      · intro clean
        by_contra more
        exact clean (run.midBurst_of_error result (by omega))

/-- **`Err` and the batch.** For every socket, pool, batch and `max`: an `Err`
leaves the batch as it was if and only if no socket error follows a landing in
the same call; and over any sequence of calls, whatever happens between them,
the reported counts add up to the frames put in batches if and only if none of
the calls was cut short so. -/
theorem recvBurst_err_batch (b : Backend) (sock : UdpSock S) :
    (∀ max st, ((∃ e, (recvBurst b sock max st).1 = .error e) →
        (recvBurst b sock max st).2.out.frames = st.out.frames) ↔
      ¬ MidBurstFault b sock max st) ∧
    ∀ calls : List (Nat × RecvState S),
      (calls.map (okCount b sock)).sum = (calls.map (framesPut b sock)).sum ↔
        ∀ call ∈ calls, ¬ MidBurstFault b sock call.1 call.2 := by
  refine ⟨recvBurst_err_keeps_iff b sock, ?_⟩
  intro calls
  rw [sum_map_eq_iff fun call _ => (okCount_le_framesPut b sock call).1]
  exact forall₂_congr fun call _ => (okCount_le_framesPut b sock call).2

/-- A pool of two four-byte slots, both free. -/
def twoSlots : VecPool where
  slabs := [[0, 0, 0, 0], [0, 0, 0, 0]]
  free := [0, 1]
  slabSize := 4
  width := by decide

/-- Two datagrams queued, and a reset on the second read. -/
def resetAfterOne : RecvState KernelSock where
  sock := ⟨[none, some ⟨⟨.other, "Connection reset by peer"⟩, by decide⟩],
    [⟨[1], someSender⟩, ⟨[2], someSender⟩]⟩
  pool := twoSlots
  lastPeer := none
  out := .withCapacity 2
  metrics := ⟨false, []⟩

/-- On that input both backends return `Err(Io)` with a frame left in the batch. -/
theorem recvBurst_err_strands_frame :
    (∃ e, (recvBurst .tokio kernelSock 2 resetAfterOne).1 = .error e) ∧
    (recvBurst .tokio kernelSock 2 resetAfterOne).2.out.frames ≠ resetAfterOne.out.frames ∧
    (∃ e, (recvBurst .mio kernelSock 2 resetAfterOne).1 = .error e) ∧
    (recvBurst .mio kernelSock 2 resetAfterOne).2.out.frames ≠ resetAfterOne.out.frames :=
  ⟨⟨_, rfl⟩, by decide, ⟨_, rfl⟩, by decide⟩

/-! ## `Ok(0)` and the socket -/

/-- The same state with an empty log of the socket's answers. -/
def RecvState.logged (st : RecvState S) : RecvState (S × List RawAnswer) where
  sock := (st.sock, [])
  pool := st.pool
  lastPeer := st.lastPeer
  out := st.out
  metrics := st.metrics

/-- The answers `recv_from` gave during the call. -/
def answers (b : Backend) (sock : UdpSock S) (max : Nat) (st : RecvState S) : List RawAnswer :=
  (recvBurst b sock.logged max st.logged).2.sock.2

/-- `recv_from` answered `WouldBlock` during the call. -/
def SawWouldBlock (b : Backend) (sock : UdpSock S) (max : Nat) (st : RecvState S) : Prop :=
  ∃ e : IoError, .error e ∈ answers b sock max st ∧ e.kind = .wouldBlock

theorem logged_answer (b : Backend) (sock : UdpSock S) (st : RecvState S) (k : Nat) :
    st.logged.answer b sock.logged k = st.answer b sock k := by
  simp only [RecvState.answer, RecvState.logged, UdpSock.logged_answer]

/-- `Ok(0)` from a call with room is a first read that answered `WouldBlock`. -/
theorem BurstRun.ok_zero {b : Backend} {sock : UdpSock S} {room : Nat} {st : RecvState S}
    {res : Except TransportError Nat × RecvState S} {frames : List UdpFrame} {exit : Exit}
    (run : BurstRun b sock room 0 st res frames exit) (positive : 0 < room)
    (zero : res.1 = .ok 0) :
    exit = .drained ∧ frames = [] ∧
      ∃ e : IoError, st.answer b sock 0 = .error e ∧ e.kind = .wouldBlock := by
  have result := run.result
  have reason := run.reason
  rw [zero, Nat.zero_add] at result
  cases exit with
  | full =>
      simp only [Exit.Reason] at reason
      simp only [Exit.result, Except.ok.injEq] at result
      omega
  | exhausted =>
      simp only [Exit.result] at result
      split at result
      · cases result
      · simp only [Except.ok.injEq] at result
        omega
  | drained =>
      simp only [Exit.result, Except.ok.injEq] at result
      obtain ⟨_, _, stopped⟩ := reason
      rw [← result] at stopped
      exact ⟨rfl, List.eq_nil_of_length_eq_zero result.symm, stopped⟩
  | failed e => cases result

theorem recvBurst_of_no_room (b : Backend) (sock : UdpSock S) (max : Nat) {st : RecvState S}
    (full : st.out.spare = 0) :
    recvBurst b sock max st = (.ok 0, st.record b 0 0) := by
  rw [recvBurst, full, Nat.min_zero]
  rfl

/-- Over any socket, `Ok(0)` comes with a `WouldBlock` exactly when the batch had
room. -/
theorem ok_zero_sawWouldBlock_iff (b : Backend) (sock : UdpSock S) (max : Nat)
    (st : RecvState S) (asked : 0 < max) :
    ((recvBurst b sock.logged max st.logged).1 = .ok 0 → SawWouldBlock b sock max st) ↔
      0 < st.out.spare := by
  constructor
  · intro honest
    by_contra none
    have full : st.logged.out.spare = 0 := Nat.eq_zero_of_not_pos none
    have call := recvBurst_of_no_room b sock.logged max full
    obtain ⟨e, answered, _⟩ := honest (by rw [call])
    rw [answers, call] at answered
    simp [RecvState.record, RecvState.logged] at answered
  · intro room zero
    obtain ⟨frames, exit, run⟩ := recvBurst_spec b sock.logged max st.logged
    obtain ⟨rfl, rfl, e, first, kind⟩ := run.ok_zero (Nat.lt_min.mpr ⟨asked, room⟩) zero
    rw [logged_answer] at first
    have raw := Backend.received_wouldBlock first kind
    refine ⟨e, ?_, kind⟩
    rw [answers, run.sock]
    simp only [Exit.reads, List.length_nil, RecvState.logged, UdpSock.logged_after]
    simpa [Exit.reads, List.range_succ] using raw.symm

/-- On the kernel's queue the first read answers `WouldBlock` only when empty. -/
theorem kernel_answer_wouldBlock {b : Backend} {st : RecvState KernelSock} {e : IoError}
    (first : st.answer b kernelSock 0 = .error e) (kind : e.kind = .wouldBlock) :
    st.sock.queue = [] := by
  have raw := Backend.received_wouldBlock first kind
  cases fault : st.sock.faults.head?.join with
  | some cause =>
      simp only [UdpSock.answer_zero, kernelSock, fault, kernelRecv, Except.error.injEq] at raw
      exact absurd (raw ▸ kind) cause.property
  | none =>
      cases queue : st.sock.queue with
      | nil => rfl
      | cons d rest => simp [kernelSock, fault, queue, kernelRecv] at raw

/-- Over the kernel's queue, `Ok(0)` means an empty queue exactly when the batch
had room or the queue was empty to begin with. -/
theorem ok_zero_queue_empty_iff (b : Backend) (max : Nat) (st : RecvState KernelSock)
    (asked : 0 < max) :
    ((recvBurst b kernelSock max st).1 = .ok 0 → st.sock.queue = []) ↔
      0 < st.out.spare ∨ st.sock.queue = [] := by
  constructor
  · intro honest
    by_cases room : 0 < st.out.spare
    · exact .inl room
    · have call := recvBurst_of_no_room b kernelSock max (Nat.eq_zero_of_not_pos room)
      exact .inr (honest (by rw [call]))
  · rintro (room | empty) zero
    · obtain ⟨frames, exit, run⟩ := recvBurst_spec b kernelSock max st
      obtain ⟨_, _, e, first, kind⟩ := run.ok_zero (Nat.lt_min.mpr ⟨asked, room⟩) zero
      exact kernel_answer_wouldBlock first kind
    · exact empty

/-- **`Ok(0)`.** For every transport state, batch and `max ≥ 1`: `Ok(0)` is the
socket's `WouldBlock` if and only if the batch had spare capacity; and it
implies an empty queue if and only if the batch had spare capacity or the queue
was empty anyway. -/
theorem recvBurst_ok_zero (b : Backend) (max : Nat) (asked : 0 < max) :
    (∀ {S : Type} (sock : UdpSock S) (st : RecvState S),
      ((recvBurst b sock.logged max st.logged).1 = .ok 0 → SawWouldBlock b sock max st) ↔
        0 < st.out.spare) ∧
    ∀ st : RecvState KernelSock,
      ((recvBurst b kernelSock max st).1 = .ok 0 → st.sock.queue = []) ↔
        0 < st.out.spare ∨ st.sock.queue = [] :=
  ⟨fun sock st => ok_zero_sawWouldBlock_iff b sock max st asked,
    fun st => ok_zero_queue_empty_iff b max st asked⟩

/-- A default batch, two free slots and a datagram queued. -/
def defaultBatch : RecvState KernelSock where
  sock := ⟨[], [⟨[7], someSender⟩]⟩
  pool := twoSlots
  lastPeer := none
  out := .default
  metrics := ⟨false, []⟩

theorem recvBurst_ok_zero_default :
    0 < 1 ∧ (((recvBurst .mio kernelSock 1 defaultBatch).1 = .ok 0 →
      defaultBatch.sock.queue = []) ↔
        0 < defaultBatch.out.spare ∨ defaultBatch.sock.queue = []) :=
  ⟨by decide, (recvBurst_ok_zero .mio 1 (by decide)).2 defaultBatch⟩

/-- On that input both backends answer `Ok(0)` without a read. -/
theorem recvBurst_ok_zero_unread :
    (recvBurst .tokio kernelSock 64 defaultBatch).1 = .ok 0 ∧
    (recvBurst .mio kernelSock 64 defaultBatch).1 = .ok 0 ∧
    answers .tokio kernelSock 64 defaultBatch = [] ∧
    answers .mio kernelSock 64 defaultBatch = [] ∧ defaultBatch.sock.queue ≠ [] := by
  decide

/-! ## `PoolExhausted` and the socket -/

/-- A call answers `PoolExhausted` exactly when it has room and no slab is free,
whatever the socket has. -/
theorem recvBurst_exhausted_iff (b : Backend) (sock : UdpSock S) (max : Nat) (st : RecvState S) :
    (∃ inUse capacity, (recvBurst b sock max st).1 = .error (.poolExhausted inUse capacity)) ↔
      0 < min max st.out.spare ∧ st.pool.free = [] := by
  constructor
  · rintro ⟨inUse, capacity, answer⟩
    obtain ⟨frames, exit, run⟩ := recvBurst_spec b sock max st
    have result := run.result
    have reason := run.reason
    rw [answer, Nat.zero_add] at result
    cases exit with
    | full | drained => cases result
    | failed e => cases result
    | exhausted =>
        simp only [Exit.result] at result
        split at result
        · next none =>
            obtain ⟨room, free⟩ := reason
            exact ⟨by omega, List.eq_nil_of_length_eq_zero (by omega)⟩
        · cases result
  · rintro ⟨room, empty⟩
    obtain ⟨left, turns⟩ := Nat.exists_eq_succ_of_ne_zero (Nat.ne_of_gt room)
    refine ⟨st.pool.inUse, st.pool.capacity, ?_⟩
    rw [recvBurst, turns, burstLoop_exhausted (VecPool.acquire_full_none.mpr empty), if_pos rfl]

/-- `PoolExhausted` means that no landing slab was free while data was pending, and
an idle socket is `Ok(0)`. -/
def ExhaustedWhilePending (max : Nat) (st : RecvState KernelSock) : Prop :=
  ((∃ inUse capacity, (Tokio.recvBurst kernelSock max st).1 =
      .error (.poolExhausted inUse capacity)) ↔
    0 < min max st.out.spare ∧ st.pool.free = [] ∧ st.sock.queue ≠ []) ∧
  (st.pool.free = [] → st.sock.queue = [] → (Tokio.recvBurst kernelSock max st).1 = .ok 0)

/-- **`PoolExhausted`.** For every pool, batch, `max` and queue: the tokio call keeps
its word exactly when it has no room, a slab is free or a datagram is queued. -/
theorem recvBurst_exhausted_pending (max : Nat) (st : RecvState KernelSock) :
    ExhaustedWhilePending max st ↔
      min max st.out.spare = 0 ∨ st.pool.free ≠ [] ∨ st.sock.queue ≠ [] := by
  have exhausted := recvBurst_exhausted_iff .tokio kernelSock max st
  unfold ExhaustedWhilePending Tokio.recvBurst
  rw [exhausted]
  constructor
  · rintro ⟨⟨pending, _⟩, _⟩
    by_cases room : 0 < min max st.out.spare
    · by_cases empty : st.pool.free = []
      · exact .inr (.inr (pending ⟨room, empty⟩).2.2)
      · exact .inr (.inl empty)
    · exact .inl (Nat.eq_zero_of_not_pos room)
  · intro fine
    refine ⟨⟨?_, ?_⟩, ?_⟩
    · rintro ⟨room, empty⟩
      rcases fine with full | some | queued
      · omega
      · exact absurd empty some
      · exact ⟨room, empty, queued⟩
    · rintro ⟨room, empty, _⟩
      exact ⟨room, empty⟩
    · intro empty idle
      rcases fine with full | some | queued
      · rw [recvBurst, full]
        rfl
      · exact absurd empty some
      · exact absurd idle queued

/-- Both slots out, room for a frame and nothing queued. -/
def idleExhausted : RecvState KernelSock where
  sock := ⟨[], []⟩
  pool := { twoSlots with free := [] }
  lastPeer := none
  out := .withCapacity 1
  metrics := ⟨false, []⟩

/-- On that input the tokio call reports backpressure over an idle socket. -/
theorem recvBurst_exhausted_idle :
    (Tokio.recvBurst kernelSock 8 idleExhausted).1 = .error (.poolExhausted 2 2) ∧
    idleExhausted.sock.queue = [] ∧ ¬ ExhaustedWhilePending 8 idleExhausted := by
  refine ⟨rfl, rfl, ?_⟩
  rintro ⟨_, idle⟩
  cases idle rfl rfl

end Transports.Udp
