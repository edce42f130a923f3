import Transports.Pool.VecPool
import Transports.Udp.Socket

/-!
# `recv_burst`

The loop both backends run, over any socket. `burstLoop` is the `while` with its
locals as arguments; `BurstRun` says everything a call can do: how many datagrams
it landed, which reads it made, and by which of the four exits it left. The
contract results read off it alone.
-/

namespace Transports.Udp

open Transports.Core Transports.Pool

/-- An owned datagram. `landed` is a history variable, the bytes its own
`recv_from` returned; no code reads it. -/
structure UdpFrame where
  slab : VecSlab
  peer : SocketAddr
  landed : List UInt8
  deriving DecidableEq, Repr

/-- `AsPayload::payload`. -/
def UdpFrame.payload (pool : VecPool) (frame : UdpFrame) : List UInt8 := pool.asRef frame.slab

/-- What one call reads and writes: the transport's socket, pool and last peer,
the caller's batch, and the recv counters. -/
structure RecvState (S : Type) where
  sock : S
  pool : VecPool
  lastPeer : Option SocketAddr
  out : FrameBatch UdpFrame
  metrics : Telemetry
  deriving DecidableEq

variable {S : Type}

namespace RecvState

/-- A datagram landed in `slab`: record its length and push the frame. -/
def land (st : RecvState S) (slab : VecSlab) (pool : VecPool) (sock : S) (data : List UInt8)
    (peer : SocketAddr) : RecvState S :=
  { st with
    sock
    pool := pool.write slab data
    lastPeer := some peer
    out := st.out.push ⟨slab.setLen data.length, peer, data⟩ }

def record (st : RecvState S) (b : Backend) (n bytes : Nat) : RecvState S :=
  { st with metrics := st.metrics.recordRecvBurst b.label n bytes }

end RecvState

/-- `bytes += len` in the backend's word. -/
def Backend.accumulate (b : Backend) (bytes len : Nat) : Nat := (bytes + len) % 2 ^ b.accBits

/-- The loop with `room = cap - n` turns left. -/
def burstLoop (b : Backend) (sock : UdpSock S) :
    Nat → Nat → Nat → RecvState S → Except TransportError Nat × RecvState S
  | 0, n, bytes, st => (.ok n, st.record b n bytes)
  | room + 1, n, bytes, st =>
    match st.pool.acquire st.pool.slabSize with
    | none =>
      if n = 0 then (.error (.poolExhausted st.pool.inUse st.pool.capacity), st)
      else (.ok n, st.record b n bytes)
    | some (slab, pool) =>
      let (answer, next) := sock.recvFrom st.sock (pool.bufMut slab).length
      match b.received answer with
      | .ok (data, peer) =>
        burstLoop b sock room (n + 1) (b.accumulate bytes data.length)
          (st.land slab pool next data peer)
      | .error e =>
        -- `slab` drops here, back to the pool
        let st := { st with sock := next, pool := pool.release slab }
        if e.kind = .wouldBlock then (.ok n, st.record b n bytes)
        else (.error (.io e), st)

/-- Reap up to `max` ready datagrams into the batch. -/
def recvBurst (b : Backend) (sock : UdpSock S) (max : Nat) (st : RecvState S) :
    Except TransportError Nat × RecvState S :=
  burstLoop b sock (min max st.out.spare) 0 0 st

/-- The tokio `UdpTransport::recv_burst`. -/
def Tokio.recvBurst (sock : UdpSock S) (max : Nat) (st : RecvState S) :=
  Udp.recvBurst .tokio sock max st

/-- The mio `UdpTransport::recv_burst`. -/
def Mio.recvBurst (sock : UdpSock S) (max : Nat) (st : RecvState S) :=
  Udp.recvBurst .mio sock max st

/-! ## What a call can do -/

/-- How the loop was left. -/
inductive Exit
  | full
  | exhausted
  | drained
  | failed (e : IoError)

/-- Read number `k` of the call, as the loop matches on it. -/
def RecvState.answer (b : Backend) (sock : UdpSock S) (st : RecvState S) (k : Nat) : Answer :=
  b.received (sock.answer st.sock st.pool.slabSize k)

/-- Why the loop stops after `k` landings with `room` turns to begin with. -/
def Exit.Reason (b : Backend) (sock : UdpSock S) (st : RecvState S) (room k : Nat) : Exit → Prop
  | .full => k = room
  | .exhausted => k < room ∧ k = st.pool.free.length
  | .drained => k < room ∧ k < st.pool.free.length ∧
      ∃ e, st.answer b sock k = .error e ∧ e.kind = .wouldBlock
  | .failed e => k < room ∧ k < st.pool.free.length ∧
      st.answer b sock k = .error e ∧ e.kind ≠ .wouldBlock

/-- The result a call returns after `n` landings in all. -/
def Exit.result (pool : VecPool) (n : Nat) : Exit → Except TransportError Nat
  | .full | .drained => .ok n
  | .exhausted => if n = 0 then .error (.poolExhausted pool.inUse pool.capacity) else .ok n
  | .failed e => .error (.io e)

/-- Number of reads made in `k` landings and the exit. -/
def Exit.reads (k : Nat) : Exit → Nat
  | .full | .exhausted => k
  | .drained | .failed _ => k + 1

/-- One call: `frames` were pushed in order, each by one read that handed over a
datagram, and the loop left by `exit`. -/
structure BurstRun (b : Backend) (sock : UdpSock S) (room n : Nat) (st : RecvState S)
    (res : Except TransportError Nat × RecvState S) (frames : List UdpFrame) (exit : Exit) :
    Prop where
  le_room : frames.length ≤ room
  le_free : frames.length ≤ st.pool.free.length
  landed : ∀ i (h : i < frames.length),
    st.answer b sock i = .ok (frames[i].landed, frames[i].peer)
  reason : exit.Reason b sock st room frames.length
  result : res.1 = exit.result st.pool (n + frames.length)
  out : res.2.out = frames.foldl FrameBatch.push st.out
  sock : res.2.sock = sock.after st.sock st.pool.slabSize (exit.reads frames.length)
  free : res.2.pool.free = st.pool.free.drop frames.length

/-! ## One turn of the loop -/

section Turn

variable {b : Backend} {sock : UdpSock S} {room n bytes : Nat} {st : RecvState S}
  {slab : VecSlab} {pool : VecPool}

/-- The socket after the read this turn makes. -/
def RecvState.next (sock : UdpSock S) (st : RecvState S) : S :=
  (sock.recvFrom st.sock st.pool.slabSize).2

theorem RecvState.answer_zero (b : Backend) (sock : UdpSock S) (st : RecvState S) :
    st.answer b sock 0 = b.received (sock.recvFrom st.sock st.pool.slabSize).1 := rfl

theorem burstLoop_exhausted (got : st.pool.acquire st.pool.slabSize = none) :
    burstLoop b sock (room + 1) n bytes st =
      if n = 0 then (.error (.poolExhausted st.pool.inUse st.pool.capacity), st)
      else (.ok n, st.record b n bytes) := by
  simp only [burstLoop, got]

theorem burstLoop_landed {data : List UInt8} {peer : SocketAddr}
    (got : st.pool.acquire st.pool.slabSize = some (slab, pool))
    (answer : st.answer b sock 0 = .ok (data, peer)) :
    burstLoop b sock (room + 1) n bytes st =
      burstLoop b sock room (n + 1) (b.accumulate bytes data.length)
        (st.land slab pool (st.next sock) data peer) := by
  have size := (VecPool.acquire_some got).2.2.2.2
  rw [RecvState.answer_zero] at answer
  simp only [burstLoop, got, VecPool.bufMut_length, size, answer, RecvState.next]

/-- A read that lands nothing gives the slab straight back. -/
theorem burstLoop_stopped {e : IoError}
    (got : st.pool.acquire st.pool.slabSize = some (slab, pool))
    (answer : st.answer b sock 0 = .error e) :
    burstLoop b sock (room + 1) n bytes st =
      if e.kind = .wouldBlock then
        (.ok n, { st with sock := st.next sock }.record b n bytes)
      else (.error (.io e), { st with sock := st.next sock }) := by
  have size := (VecPool.acquire_some got).2.2.2.2
  rw [RecvState.answer_zero] at answer
  simp only [burstLoop, got, VecPool.bufMut_length, size, answer, RecvState.next,
    VecPool.release_acquired got]

/-- After a landing the remaining reads are the ones that were to follow. -/
theorem RecvState.answer_land (got : st.pool.acquire st.pool.slabSize = some (slab, pool))
    (data : List UInt8) (peer : SocketAddr) (k : Nat) :
    (st.land slab pool (st.next sock) data peer).answer b sock k =
      st.answer b sock (k + 1) := by
  have size := (VecPool.acquire_some got).2.2.2.2
  simp only [answer, land, VecPool.write_slabSize, size, UdpSock.answer_succ, next]

end Turn

/-! ## Readings of the spec -/

namespace BurstRun

variable {b : Backend} {sock : UdpSock S} {room n : Nat} {st : RecvState S}
  {res : Except TransportError Nat × RecvState S} {frames : List UdpFrame} {exit : Exit}

/-- The frames a call appends come after the ones already there. -/
theorem out_frames (run : BurstRun b sock room n st res frames exit) :
    res.2.out.frames = st.out.frames ++ frames := by
  rw [run.out, FrameBatch.foldl_push_frames]

theorem lt_of_reason_failed {e : IoError} (run : BurstRun b sock room n st res frames (.failed e)) :
    frames.length < min room st.pool.free.length :=
  Nat.lt_min.mpr ⟨run.reason.1, run.reason.2.1⟩

/-- Two accounts of the landings of one call agree on where an error stops it. -/
theorem failed_at (run : BurstRun b sock room n st res frames exit) {k : Nat} {e : IoError}
    (before : ∀ i < k, ∃ got, st.answer b sock i = .ok got)
    (bound : k < min room st.pool.free.length) (here : st.answer b sock k = .error e)
    (kind : e.kind ≠ .wouldBlock) : frames.length = k ∧ exit = .failed e := by
  obtain ⟨inRoom, inFree⟩ := Nat.lt_min.mp bound
  have notMore : ¬ k < frames.length := by
    intro more
    rw [run.landed k more] at here
    cases here
  have notLess : ¬ frames.length < k := by
    intro less
    obtain ⟨got, ok⟩ := before _ less
    have reason := run.reason
    cases exit with
    | full =>
        simp only [Exit.Reason] at reason
        omega
    | exhausted =>
        simp only [Exit.Reason] at reason
        omega
    | drained =>
        obtain ⟨_, _, e', stopped, _⟩ := reason
        rw [ok] at stopped
        cases stopped
    | failed e' =>
        obtain ⟨_, _, stopped, _⟩ := reason
        rw [ok] at stopped
        cases stopped
  have same : frames.length = k := by omega
  refine ⟨same, ?_⟩
  have reason := run.reason
  rw [same] at reason
  cases exit with
  | full =>
      simp only [Exit.Reason] at reason
      omega
  | exhausted =>
      simp only [Exit.Reason] at reason
      omega
  | drained =>
      obtain ⟨_, _, e', stopped, wouldBlock⟩ := reason
      rw [here, Except.error.injEq] at stopped
      exact absurd (stopped ▸ wouldBlock) kind
  | failed e' =>
      obtain ⟨_, _, stopped, _⟩ := reason
      rw [here, Except.error.injEq] at stopped
      rw [stopped]

end BurstRun

end Transports.Udp
