import Transports.Pool.Ownership
import Transports.Udp.Burst

/-!
# Bursts among other threads

The receive path as an interleaving: one transport over a pool that the
application and other holders of `pool()` use at the same time. A `recv_burst`
in progress is a program counter between two accesses to the free list, and
takes one step at a time (`next`), so arrivals, drops and foreign acquisitions
fall between any two of its steps. A batch lent to a call is held by the call.

`Step` is the inversion of the step function, and everything later is proved by
cases on it.
-/

namespace Transports.Udp

open Lib Transports.Core Transports.Pool

/-- Where a `recv_burst` in progress stands. -/
inductive BurstPc
  /-- at the head of the loop -/
  | acquiring
  /-- the first acquire failed; `in_use` is about to be read for the error -/
  | exhausted
  /-- about to `recv_from` into the slab -/
  | receiving (slab : VecSlab)
  /-- `recv_from` failed with the error; the slab is about to drop -/
  | releasing (slab : VecSlab) (e : IoError)
  deriving DecidableEq, Repr

/-- The locals of a `recv_burst` in progress. -/
structure BurstCall where
  out : FrameBatch UdpFrame
  cap : Nat
  n : Nat
  bytes : Nat
  pc : BurstPc
  deriving DecidableEq

structure World where
  pool : VecPool
  queue : List Datagram
  lastPeer : Option SocketAddr
  metrics : Telemetry
  call : Option BurstCall
  batches : List (FrameBatch UdpFrame)
  frames : List UdpFrame
  slabs : List VecSlab
  -- history: what arrived, what was appended to batches, what calls returned
  -- (each with the room it was given)
  arrived : List Datagram
  appended : List (List UInt8 × SocketAddr)
  returns : List (Nat × Except TransportError Nat)
  deriving DecidableEq

inductive Action
  | arrive (d : Datagram)
  | newBatch (cap : Nat)
  | recvBurst (batch max : Nat)
  | next (fault : Option Fault)
  | drain (batch : Nat)
  | dropFrame (frame : Nat)
  | acquire (len : Nat)
  | write (slab : Nat) (data : List UInt8)
  | setLen (slab len : Nat)
  | dropSlab (slab : Nat)

namespace World

/-- A transport just bound: an idle socket and a fresh pool. -/
def start (pool : VecPool) (metrics : Telemetry) : World where
  pool := pool
  queue := []
  lastPeer := none
  metrics := metrics
  call := none
  batches := []
  frames := []
  slabs := []
  arrived := []
  appended := []
  returns := []

/-- `return Ok(n)`, the burst recorded; the batch goes back to its owner. -/
def finish (b : Backend) (w : World) (c : BurstCall) : World :=
  { w with
    metrics := w.metrics.recordRecvBurst b.label c.n c.bytes
    call := none
    batches := c.out :: w.batches
    returns := w.returns ++ [(c.cap, .ok c.n)] }

/-- `return Err(e)`. -/
def fail (w : World) (c : BurstCall) (e : TransportError) : World :=
  { w with
    call := none
    batches := c.out :: w.batches
    returns := w.returns ++ [(c.cap, .error e)] }

/-- `recv_from` handed over a datagram: record its length and push the frame. -/
def land (b : Backend) (w : World) (c : BurstCall) (slab : VecSlab) (queue : List Datagram)
    (data : List UInt8) (peer : SocketAddr) : World :=
  let pool := w.pool.write slab data
  let frame : UdpFrame := ⟨slab.setLen data.length, peer, data⟩
  { w with
    pool
    queue
    lastPeer := some peer
    call := some
      { c with
        out := c.out.push frame
        n := c.n + 1
        bytes := b.accumulate c.bytes data.length
        pc := .acquiring }
    appended := w.appended ++ [(frame.payload pool, peer)] }

/-- The next step of the call in progress. -/
def next (b : Backend) (w : World) (c : BurstCall) (fault : Option Fault) : World :=
  match c.pc with
  | .acquiring =>
    if c.n < c.cap then
      match w.pool.acquire w.pool.slabSize with
      | some (slab, pool) => { w with pool, call := some { c with pc := .receiving slab } }
      | none =>
        if c.n = 0 then { w with call := some { c with pc := .exhausted } } else w.finish b c
    else w.finish b c
  | .exhausted => w.fail c (.poolExhausted w.pool.inUse w.pool.capacity)
  | .receiving slab =>
    let (answer, queue) := kernelRecv fault w.queue (w.pool.bufMut slab).length
    match b.received answer with
    | .ok (data, peer) => w.land b c slab queue data peer
    | .error e => { w with queue, call := some { c with pc := .releasing slab e } }
  | .releasing slab e =>
    let w := { w with pool := w.pool.release slab }
    if e.kind = .wouldBlock then w.finish b c else w.fail c (.io e)

def step (b : Backend) (w : World) : Action → Option World
  | .arrive d => some { w with queue := w.queue ++ [d], arrived := w.arrived ++ [d] }
  | .newBatch cap => some { w with batches := .withCapacity cap :: w.batches }
  | .recvBurst batch max =>
    match w.call, pick w.batches batch with
    | none, some (out, batches) =>
      some { w with batches, call := some ⟨out, min max out.spare, 0, 0, .acquiring⟩ }
    | _, _ => none
  | .next fault => w.call.map fun c => w.next b c fault
  | .drain batch =>
    (pick w.batches batch).map fun (out, batches) =>
      { w with batches := out.drain.2 :: batches, frames := w.frames ++ out.drain.1 }
  | .dropFrame frame =>
    (pick w.frames frame).map fun (frame, frames) =>
      { w with pool := w.pool.release frame.slab, frames }
  | .acquire len =>
    match w.pool.acquire len with
    | none => some w
    | some (slab, pool) => some { w with pool, slabs := slab :: w.slabs }
  | .write slab data => w.slabs[slab]?.map fun slab => { w with pool := w.pool.write slab data }
  | .setLen slab len =>
    (pick w.slabs slab).map fun (slab, slabs) => { w with slabs := slab.setLen len :: slabs }
  | .dropSlab slab =>
    (pick w.slabs slab).map fun (slab, slabs) =>
      { w with pool := w.pool.release slab, slabs }

end World

/-- All runs of a transport of backend `b` over a pool of the given size. -/
def world (b : Backend) (slabCount slabSize : Nat) : System World Action where
  init w := ∃ pool metrics, VecPool.build slabCount slabSize = some pool ∧
    w = World.start pool metrics
  step := World.step b

/-! ## What a step can do -/

/-- The answers `recv_from` gives on the kernel's queue. -/
inductive Received (queue : List Datagram) (len : Nat) : Answer → List Datagram → Prop
  | datagram (d : Datagram) (rest : List Datagram) (head : queue = d :: rest) :
      Received queue len (.ok (d.payload.take len, d.sender)) rest
  | wouldBlock (empty : queue = []) : Received queue len (.error .wouldBlock) []
  | fault (e : Fault) : Received queue len (.error e.val) queue

theorem received_kernelRecv (b : Backend) (fault : Option Fault) (queue : List Datagram)
    (len : Nat) :
    Received queue len (b.received (kernelRecv fault queue len).1)
      (kernelRecv fault queue len).2 := by
  cases fault with
  | some e => exact .fault e
  | none =>
      cases queue with
      | nil => exact .wouldBlock rfl
      | cons d rest =>
          simp only [kernelRecv, Backend.received_inet]
          exact .datagram d rest rfl

/-- One step of the world, by what it does. -/
inductive Step (b : Backend) (w : World) : Action → World → Prop
  | arrive (d) :
      Step b w (.arrive d) { w with queue := w.queue ++ [d], arrived := w.arrived ++ [d] }
  | newBatch (cap) :
      Step b w (.newBatch cap) { w with batches := .withCapacity cap :: w.batches }
  | call {i max out batches} (idle : w.call = none)
      (lent : pick w.batches i = some (out, batches)) :
      Step b w (.recvBurst i max)
        { w with batches, call := some ⟨out, min max out.spare, 0, 0, .acquiring⟩ }
  | acquired {fault c slab pool} (running : w.call = some c) (pc : c.pc = .acquiring)
      (room : c.n < c.cap) (got : w.pool.acquire w.pool.slabSize = some (slab, pool)) :
      Step b w (.next fault) { w with pool, call := some { c with pc := .receiving slab } }
  | refused {fault c} (running : w.call = some c) (pc : c.pc = .acquiring)
      (room : c.n < c.cap) (none : w.pool.acquire w.pool.slabSize = none) (first : c.n = 0) :
      Step b w (.next fault) { w with call := some { c with pc := .exhausted } }
  | finished {fault c} (running : w.call = some c) (pc : c.pc = .acquiring)
      (why : c.cap ≤ c.n ∨ w.pool.acquire w.pool.slabSize = none ∧ 0 < c.n) :
      Step b w (.next fault) (w.finish b c)
  | exhausted {fault c} (running : w.call = some c) (pc : c.pc = .exhausted) :
      Step b w (.next fault) (w.fail c (.poolExhausted w.pool.inUse w.pool.capacity))
  | landed {fault c slab queue data peer} (running : w.call = some c)
      (pc : c.pc = .receiving slab)
      (answer : Received w.queue w.pool.slabSize (.ok (data, peer)) queue) :
      Step b w (.next fault) (w.land b c slab queue data peer)
  | stopped {fault c slab queue e} (running : w.call = some c) (pc : c.pc = .receiving slab)
      (answer : Received w.queue w.pool.slabSize (.error e) queue) :
      Step b w (.next fault) { w with queue, call := some { c with pc := .releasing slab e } }
  | released {fault c slab e} (running : w.call = some c) (pc : c.pc = .releasing slab e)
      (drained : e.kind = .wouldBlock) :
      Step b w (.next fault) ({ w with pool := w.pool.release slab }.finish b c)
  | aborted {fault c slab e} (running : w.call = some c) (pc : c.pc = .releasing slab e)
      (failed : e.kind ≠ .wouldBlock) :
      Step b w (.next fault) ({ w with pool := w.pool.release slab }.fail c (.io e))
  | drain {i out batches} (picked : pick w.batches i = some (out, batches)) :
      Step b w (.drain i)
        { w with batches := out.drain.2 :: batches, frames := w.frames ++ out.drain.1 }
  | dropFrame {k frame frames} (picked : pick w.frames k = some (frame, frames)) :
      Step b w (.dropFrame k) { w with pool := w.pool.release frame.slab, frames }
  | acquireNone {len} (none : w.pool.acquire len = none) : Step b w (.acquire len) w
  | acquire {len slab pool} (got : w.pool.acquire len = some (slab, pool)) :
      Step b w (.acquire len) { w with pool, slabs := slab :: w.slabs }
  | write {k data slab} (held : w.slabs[k]? = some slab) :
      Step b w (.write k data) { w with pool := w.pool.write slab data }
  | setLen {k len slab slabs} (picked : pick w.slabs k = some (slab, slabs)) :
      Step b w (.setLen k len) { w with slabs := slab.setLen len :: slabs }
  | dropSlab {k slab slabs} (picked : pick w.slabs k = some (slab, slabs)) :
      Step b w (.dropSlab k) { w with pool := w.pool.release slab, slabs }

/-- The steps of a call in progress. -/
theorem step_next (b : Backend) (w : World) {c : BurstCall} (running : w.call = some c)
    (fault : Option Fault) : Step b w (.next fault) (w.next b c fault) := by
  unfold World.next
  cases pc : c.pc with
  | acquiring =>
      by_cases room : c.n < c.cap
      · simp only [room, if_true]
        cases got : w.pool.acquire w.pool.slabSize with
        | none =>
            by_cases first : c.n = 0
            · simp only [first, if_true]
              have step : Step b w (.next fault)
                  { w with call := some { c with pc := .exhausted } } :=
                .refused running pc room got first
              simpa only [first] using step
            · simp only [first, if_false]
              exact .finished running pc (.inr ⟨got, Nat.pos_of_ne_zero first⟩)
        | some acquired => exact .acquired running pc room got
      · simp only [room, if_false]
        exact .finished running pc (.inl (Nat.le_of_not_lt room))
  | exhausted => exact .exhausted running pc
  | receiving slab =>
      have spec := received_kernelRecv b fault w.queue w.pool.slabSize
      simp only [VecPool.bufMut_length]
      cases answer : b.received (kernelRecv fault w.queue w.pool.slabSize).1 with
      | ok got =>
          rw [answer] at spec
          exact .landed running pc spec
      | error e =>
          rw [answer] at spec
          exact .stopped running pc spec
  | releasing slab e =>
      by_cases kind : e.kind = .wouldBlock
      · simp only [kind, if_true]
        exact .released running pc kind
      · simp only [kind, if_false]
        exact .aborted running pc kind

theorem step_of_step {b : Backend} {w t : World} {a : Action} (h : w.step b a = some t) :
    Step b w a t := by
  cases a with
  | arrive d => cases h; exact .arrive d
  | newBatch cap => cases h; exact .newBatch cap
  | recvBurst i max =>
      simp only [World.step] at h
      split at h
      · next idle lent => cases h; exact .call idle lent
      · cases h
  | next fault =>
      simp only [World.step, Option.map_eq_some_iff] at h
      obtain ⟨c, running, rfl⟩ := h
      exact step_next b w running fault
  | drain i =>
      simp only [World.step, Option.map_eq_some_iff] at h
      obtain ⟨⟨out, batches⟩, picked, rfl⟩ := h
      exact .drain picked
  | dropFrame k =>
      simp only [World.step, Option.map_eq_some_iff] at h
      obtain ⟨⟨frame, frames⟩, picked, rfl⟩ := h
      exact .dropFrame picked
  | acquire len =>
      simp only [World.step] at h
      split at h
      · next none => cases h; exact .acquireNone none
      · next slab pool got => cases h; exact .acquire got
  | write k data =>
      simp only [World.step, Option.map_eq_some_iff] at h
      obtain ⟨slab, held, rfl⟩ := h
      exact .write held
  | setLen k len =>
      simp only [World.step, Option.map_eq_some_iff] at h
      obtain ⟨⟨slab, slabs⟩, picked, rfl⟩ := h
      exact .setLen picked
  | dropSlab k =>
      simp only [World.step, Option.map_eq_some_iff] at h
      obtain ⟨⟨slab, slabs⟩, picked, rfl⟩ := h
      exact .dropSlab picked

end Transports.Udp
