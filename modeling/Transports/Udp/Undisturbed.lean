import Transports.Udp.World

/-!
# A burst nobody interrupts

The two accounts of `recv_burst` are one: from any state of the world, a call
whose steps follow each other without anything in between returns what
`recvBurst` computes over the kernel's queue and leaves what it leaves. So the
contract results, which are about `recvBurst`, are about calls of the world, and
what the world adds is interleaving.
-/

namespace Transports.Udp

open Lib Transports.Core Transports.Pool

/-- What the call in progress reads and writes, given the failures its reads meet. -/
def World.recvState (w : World) (c : BurstCall) (faults : List (Option Fault)) :
    RecvState KernelSock where
  sock := ⟨faults, w.queue⟩
  pool := w.pool
  lastPeer := w.lastPeer
  out := c.out
  metrics := w.metrics

/-- The call begun in `w` with this room has returned in `t`, with this result. -/
structure Returned (w : World) (cap : Nat) (res : Except TransportError Nat × RecvState KernelSock)
    (t : World) : Prop where
  call : t.call = none
  returns : t.returns = w.returns ++ [(cap, res.1)]
  queue : t.queue = res.2.sock.queue
  pool : t.pool = res.2.pool
  lastPeer : t.lastPeer = res.2.lastPeer
  batches : t.batches = res.2.out :: w.batches
  metrics : t.metrics = res.2.metrics
  frames : t.frames = w.frames
  slabs : t.slabs = w.slabs
  arrived : t.arrived = w.arrived

/-- A step of the call in progress. -/
def OwnStep (a : Action) : Prop := ∃ fault, a = .next fault

/-- Steps of the call alone lead from `w` to its return. -/
def Completes (b : Backend) (slabCount slabSize : Nat) (w : World) (cap : Nat)
    (res : Except TransportError Nat × RecvState KernelSock) : Prop :=
  (world b slabCount slabSize).Leads OwnStep (Returned w cap res) w

section Steps

variable {b : Backend} {slabCount slabSize cap : Nat} {w t : World} {c : BurstCall}
  {res : Except TransportError Nat × RecvState KernelSock}

theorem world_next (slabCount slabSize : Nat) (fault : Option Fault) (running : w.call = some c)
    (next : w.next b c fault = t) :
    (world b slabCount slabSize).step w (.next fault) = some t := by
  show w.call.map _ = some t
  rw [running, Option.map_some, next]

/-- A step that leaves everything alone that the return adds to. -/
theorem Completes.step (fault : Option Fault) (running : w.call = some c)
    (next : w.next b c fault = t) (returns : t.returns = w.returns)
    (batches : t.batches = w.batches) (frames : t.frames = w.frames)
    (slabs : t.slabs = w.slabs) (arrived : t.arrived = w.arrived)
    (later : Completes b slabCount slabSize t cap res) :
    Completes b slabCount slabSize w cap res := by
  have taken := world_next slabCount slabSize fault running next
  apply System.Leads.imp (System.Leads.step later taken ⟨fault, rfl⟩)
  intro u returned
  exact
    { returned with
      returns := by rw [returned.returns, returns]
      batches := by rw [returned.batches, batches]
      frames := by rw [returned.frames, frames]
      slabs := by rw [returned.slabs, slabs]
      arrived := by rw [returned.arrived, arrived] }

/-- The last step of a call. -/
theorem Completes.last (running : w.call = some c) (next : w.next b c none = t)
    (returned : Returned w cap res t) : Completes b slabCount slabSize w cap res :=
  System.Leads.step (.here returned) (world_next _ _ none running next) ⟨none, rfl⟩

end Steps

/-! ## One turn of the loop -/

section Turn

variable {b : Backend} {slabCount slabSize : Nat} {w : World} {c : BurstCall} {slab : VecSlab}
  {pool : VecPool} {fault : Option Fault}

/-- The call with its slab acquired. -/
def BurstCall.receiving (c : BurstCall) (slab : VecSlab) : BurstCall :=
  { c with pc := .receiving slab }

def World.acquired (w : World) (c : BurstCall) (slab : VecSlab) (pool : VecPool) : World :=
  { w with pool, call := some (c.receiving slab) }

/-- The queue after the read. -/
def World.afterRead (w : World) (fault : Option Fault) : List Datagram :=
  (kernelRecv fault w.queue w.pool.slabSize).2

theorem completes_landed {data : List UInt8} {peer : SocketAddr}
    {res : Except TransportError Nat × RecvState KernelSock} (running : w.call = some c)
    (head : c.pc = .acquiring) (more : c.n < c.cap)
    (got : w.pool.acquire w.pool.slabSize = some (slab, pool))
    (answer : b.received (kernelRecv fault w.queue w.pool.slabSize).1 = .ok (data, peer))
    (later : Completes b slabCount slabSize
      ((w.acquired c slab pool).land b (c.receiving slab) slab (w.afterRead fault) data peer)
      c.cap res) :
    Completes b slabCount slabSize w c.cap res := by
  have size := (VecPool.acquire_some got).2.2.2.2
  have first : w.next b c none = w.acquired c slab pool := by
    simp only [World.next, head, if_pos more, got, World.acquired, BurstCall.receiving]
  have second : (w.acquired c slab pool).next b (c.receiving slab) fault =
      (w.acquired c slab pool).land b (c.receiving slab) slab (w.afterRead fault) data peer := by
    simp only [World.next, World.acquired, BurstCall.receiving, VecPool.bufMut_length, size,
      answer, World.afterRead]
  refine .step none running first rfl rfl rfl rfl rfl ?_
  exact .step fault rfl second rfl rfl rfl rfl rfl later

/-- The read lands nothing: the slab drops and the call returns. -/
theorem completes_stopped {e : IoError} (faults : List (Option Fault))
    (running : w.call = some c) (head : c.pc = .acquiring) (more : c.n < c.cap)
    (got : w.pool.acquire w.pool.slabSize = some (slab, pool))
    (answer : b.received (kernelRecv faults.head?.join w.queue w.pool.slabSize).1 = .error e) :
    Completes b slabCount slabSize w c.cap
      (if e.kind = .wouldBlock then
        (.ok c.n, { w.recvState c faults with
          sock := (w.recvState c faults).next kernelSock }.record b c.n c.bytes)
      else (.error (.io e), { w.recvState c faults with
          sock := (w.recvState c faults).next kernelSock })) := by
  have size := (VecPool.acquire_some got).2.2.2.2
  have back := VecPool.release_acquired got
  have first : w.next b c none = w.acquired c slab pool := by
    simp only [World.next, head, if_pos more, got, World.acquired, BurstCall.receiving]
  have second : (w.acquired c slab pool).next b (c.receiving slab) faults.head?.join =
      { w with
        pool
        queue := w.afterRead faults.head?.join
        call := some { c with pc := .releasing slab e } } := by
    simp only [World.next, World.acquired, BurstCall.receiving, VecPool.bufMut_length, size,
      answer, World.afterRead]
  refine .step none running first rfl rfl rfl rfl rfl ?_
  refine .step faults.head?.join rfl second rfl rfl rfl rfl rfl ?_
  by_cases kind : e.kind = .wouldBlock
  · rw [if_pos kind]
    refine .last rfl (if_pos kind) ?_
    constructor
    case pool => exact back
    all_goals rfl
  · rw [if_neg kind]
    refine .last rfl (if_neg kind) ?_
    constructor
    case pool => exact back
    all_goals rfl

/-- The pool has no slot: the call returns what it has, or the error that names the
pool's state. -/
theorem completes_exhausted (faults : List (Option Fault)) (running : w.call = some c)
    (head : c.pc = .acquiring) (more : c.n < c.cap)
    (got : w.pool.acquire w.pool.slabSize = none) :
    Completes b slabCount slabSize w c.cap
      (if c.n = 0 then (.error (.poolExhausted w.pool.inUse w.pool.capacity), w.recvState c faults)
      else (.ok c.n, (w.recvState c faults).record b c.n c.bytes)) := by
  by_cases first : c.n = 0
  · -- two steps: the failed acquire, then the error
    rw [if_pos first]
    have next : w.next b c none = { w with call := some { c with pc := .exhausted } } := by
      simp only [World.next, head, if_pos more, got, if_pos first]
    refine .step none running next rfl rfl rfl rfl rfl ?_
    refine .last rfl rfl ?_
    constructor <;> rfl
  · rw [if_neg first]
    have next : w.next b c none = w.finish b c := by
      simp only [World.next, head, if_pos more, got, if_neg first]
    exact .last running next (by constructor <;> rfl)

end Turn

/-- The loop of a call in progress, run to its end by itself, is `burstLoop`. -/
theorem burstLoop_completes (b : Backend) (slabCount slabSize room : Nat) (w : World)
    (c : BurstCall) (faults : List (Option Fault)) (running : w.call = some c)
    (head : c.pc = .acquiring) (left : c.cap - c.n = room) :
    Completes b slabCount slabSize w c.cap
      (burstLoop b kernelSock room c.n c.bytes (w.recvState c faults)) := by
  induction room generalizing w c faults with
  | zero =>
      have full : ¬ c.n < c.cap := by omega
      have next : w.next b c none = w.finish b c := by
        simp only [World.next, head, if_neg full]
      exact .last running next (by constructor <;> rfl)
  | succ room ih =>
      have more : c.n < c.cap := by omega
      cases got : w.pool.acquire w.pool.slabSize with
      | none =>
          have empty : (w.recvState c faults).pool.acquire (w.recvState c faults).pool.slabSize =
              none := got
          rw [burstLoop_exhausted empty]
          exact completes_exhausted faults running head more got
      | some acquired =>
          obtain ⟨slab, pool⟩ := acquired
          have held : (w.recvState c faults).pool.acquire (w.recvState c faults).pool.slabSize =
              some (slab, pool) := got
          have read : (w.recvState c faults).answer b kernelSock 0 =
              b.received (kernelRecv faults.head?.join w.queue w.pool.slabSize).1 := rfl
          cases answer : b.received (kernelRecv faults.head?.join w.queue w.pool.slabSize).1 with
          | ok landed =>
              obtain ⟨data, peer⟩ := landed
              rw [burstLoop_landed held (read.trans answer)]
              apply completes_landed running head more got answer
              have fewer : c.cap - (c.n + 1) = room := by omega
              exact ih _ ⟨c.out.push ⟨slab.setLen data.length, peer, data⟩, c.cap, c.n + 1,
                b.accumulate c.bytes data.length, .acquiring⟩ faults.tail rfl rfl fewer
          | error e =>
              rw [burstLoop_stopped held (read.trans answer)]
              exact completes_stopped faults running head more got answer

/-- **A call is a `recvBurst`.** From any state with no call in progress, lending a
batch and letting the call run by itself returns what `recvBurst` returns over
the queue and leaves what it leaves. -/
theorem recvBurst_completes (b : Backend) (slabCount slabSize max : Nat) {w : World} {i : Nat}
    {out : FrameBatch UdpFrame} {rest : List (FrameBatch UdpFrame)} (idle : w.call = none)
    (lent : pick w.batches i = some (out, rest)) (faults : List (Option Fault)) :
    ∃ t, (world b slabCount slabSize).step w (.recvBurst i max) = some t ∧
      Completes b slabCount slabSize t (min max out.spare)
        (recvBurst b kernelSock max
          ⟨⟨faults, w.queue⟩, w.pool, w.lastPeer, out, w.metrics⟩) := by
  refine ⟨{ w with batches := rest, call := some ⟨out, min max out.spare, 0, 0, .acquiring⟩ },
    ?_, ?_⟩
  · simp only [world, World.step, idle, lent]
  · exact burstLoop_completes b slabCount slabSize _ _
      ⟨out, min max out.spare, 0, 0, .acquiring⟩ faults rfl rfl rfl

end Transports.Udp
