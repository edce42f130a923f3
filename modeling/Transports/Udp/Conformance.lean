import Transports.Core.Tolerance
import Transports.Udp.Splitting

/-!
# The UDP backends under the conformance suite

A bound `UdpTransport` is a datagram source, and over a queue that nothing disturbs a
lawful one that never lags: its ledger is the queue and `in_use`. What the suite says of
it is then a matter of the pool's size alone.
-/

namespace Transports.Udp

open Lib Transports.Core Transports.Pool

/-- A bound transport and the kernel's queue behind its socket. -/
structure UdpTransport where
  sock : KernelSock
  pool : VecPool
  lastPeer : Option SocketAddr
  metrics : Telemetry

namespace UdpTransport

/-- The transport with a batch lent to it for one call. -/
def lend (t : UdpTransport) (out : FrameBatch UdpFrame) : RecvState KernelSock where
  sock := t.sock
  pool := t.pool
  lastPeer := t.lastPeer
  out := out
  metrics := t.metrics

/-- What of the call's state stays in the transport. -/
def keep (st : RecvState KernelSock) : UdpTransport where
  sock := st.sock
  pool := st.pool
  lastPeer := st.lastPeer
  metrics := st.metrics

/-- The transport as the suite drives it, by `recv_burst` and `pool()`. -/
def source (b : Backend) : DatagramSource UdpTransport UdpFrame VecSlab where
  recvBurst t out max :=
    let (answer, st) := Udp.recvBurst b kernelSock max (t.lend out)
    (answer, st.out, keep st)
  acquire t len :=
    match t.pool.acquire len with
    | none => (none, t)
    | some (slab, pool) => (some slab, { t with pool })
  capacity t := t.pool.capacity
  inUse t := t.pool.inUse
  dropFrame t frame := { t with pool := t.pool.release frame.slab }
  -- a slab's drop locks the free list and pushes: it does not panic
  dropThread t frames := some { t with pool := t.pool.releaseAll (frames.map UdpFrame.slab) }

/-! ## It is lawful -/

/-- The ledger of a transport: its slabs are back as soon as they drop. -/
def account (t : UdpTransport) : Ledger where
  pending := t.sock.queue.map fun d => d.payload.take t.pool.slabSize
  lent := t.pool.inUse
  returning := 0
  mayLag := false

/-- No read will fail, and the free list is within the slots. -/
structure Sound (t : UdpTransport) : Prop where
  quiet : t.sock.faults = []
  slots : t.pool.free.length ≤ t.pool.slabs.length
  wide : 0 < t.pool.slabSize

section Calls

variable {b : Backend} {max : Nat} {t : UdpTransport} {out : FrameBatch UdpFrame}
  {frames : List UdpFrame} {mid : RecvState KernelSock}

/-- The pool and the queue after a call, by what landed. -/
theorem call_left (sound : t.Sound) (call : QuietCall b max (t.lend out) frames mid) :
    let after := (Udp.recvBurst b kernelSock max (t.lend out)).2
    (keep after).Sound ∧ after.pool.slabSize = t.pool.slabSize ∧
      after.pool.slabs.length = t.pool.slabs.length ∧
      after.pool.inUse = t.pool.inUse + frames.length ∧
      frames.map UdpFrame.landed ++ (keep after).account.pending = t.account.pending := by
  intro after
  have quiet : (t.lend out).Quiet := sound.quiet
  have pool : after.pool = mid.pool := call.pool
  have sock : after.sock = mid.sock := call.sock
  obtain ⟨size, slots, _⟩ := call.lands.pool
  have free := call.lands.free_length
  have before := sound.slots
  obtain ⟨still, _, left, read⟩ := call.lands.queue quiet
  have landed : frames.map UdpFrame.landed =
      (t.sock.queue.take frames.length).map fun d => d.payload.take t.pool.slabSize := by
    have first := congrArg (List.map Prod.fst) read
    rw [List.map_map, List.map_map] at first
    exact first
  have slabSize : mid.pool.slabSize = t.pool.slabSize := size
  have slabs : mid.pool.slabs.length = t.pool.slabs.length := slots
  have taken : frames.length + mid.pool.free.length = t.pool.free.length := free
  have queue : mid.sock.queue = t.sock.queue.drop frames.length := left
  refine ⟨⟨?_, ?_, ?_⟩, ?_, ?_, ?_, ?_⟩
  · show after.sock.faults = []
    rw [sock]
    exact still
  · show after.pool.free.length ≤ after.pool.slabs.length
    rw [pool]
    omega
  · show 0 < after.pool.slabSize
    rw [pool, slabSize]
    exact sound.wide
  · rw [pool, slabSize]
  · rw [pool, slabs]
  · rw [pool]
    unfold VecPool.inUse
    omega
  · show _ ++ after.sock.queue.map (fun d => d.payload.take after.pool.slabSize) = _
    rw [sock, pool, slabSize, queue, landed, ← List.map_append, List.take_append_drop]
    rfl

theorem call_reply (sound : t.Sound) (call : QuietCall b max (t.lend out) frames mid) :
    let after := Udp.recvBurst b kernelSock max (t.lend out)
    Reply UdpFrame.landed t.pool.capacity (min max out.spare) t.account (keep after.2).account
      after.1 frames := by
  intro after
  obtain ⟨_, _, _, inUse, pending⟩ := call_left sound call
  have count : frames.length =
      min (min (min max out.spare) t.pool.free.length) t.sock.queue.length := call.count
  rcases call.result with result | ⟨rfl, room, empty, result⟩
  · have answer : after.1 = .ok frames.length := result
    rw [answer]
    refine .delivered (by omega) ?_ (List.Perm.of_eq pending) inUse
    intro none
    by_contra ready
    rw [not_or] at ready
    have queued : t.sock.queue ≠ [] := by
      intro idle
      exact ready.2 (by rw [account, idle, List.map_nil])
    have some := List.length_pos_iff.mpr queued
    -- then no slab was free, and the call says so
    have empty : (t.lend out).pool.free = [] := by
      rw [none, List.length_nil] at count
      exact List.eq_nil_of_length_eq_zero (show t.pool.free.length = 0 by omega)
    have room : 0 < min max (t.lend out).out.spare := Nat.pos_of_ne_zero ready.1
    obtain ⟨_, _, refused⟩ := (recvBurst_exhausted_iff b kernelSock max _).mpr ⟨room, empty⟩
    rw [result] at refused
    cases refused
  · have answer : after.1 = .error (.poolExhausted t.pool.inUse t.pool.capacity) := result
    have all : t.pool.inUse = t.pool.capacity := by
      have empty : t.pool.free = [] := empty
      rw [VecPool.inUse, empty]
      rfl
    rw [answer]
    exact .exhausted _ _ all pending inUse

end Calls

/-- Dropped slabs go back one by one. -/
theorem releaseAll_free (pool : VecPool) (slabs : List VecSlab) :
    (pool.releaseAll slabs).free.length = pool.free.length + slabs.length ∧
      (pool.releaseAll slabs).slabs = pool.slabs ∧
      (pool.releaseAll slabs).slabSize = pool.slabSize := by
  induction slabs generalizing pool with
  | nil => exact ⟨rfl, rfl, rfl⟩
  | cons slab rest ih =>
      obtain ⟨free, kept, size⟩ := ih (pool.release slab)
      refine ⟨?_, kept, size⟩
      show ((pool.release slab).releaseAll rest).free.length = _
      rw [free, VecPool.release_free, List.length_cons, List.length_cons]
      omega

/-- As many slabs dropped as are out, at most. -/
theorem returned_releaseAll {t : UdpTransport} (sound : t.Sound) (slabs : List VecSlab)
    (out : slabs.length ≤ t.account.lent) :
    let after := { t with pool := t.pool.releaseAll slabs }
    Core.Returned slabs.length t.account after.account ∧ after.Sound ∧
      after.pool.capacity = t.pool.capacity := by
  intro after
  obtain ⟨free, kept, size⟩ := releaseAll_free t.pool slabs
  have lent : t.account.lent = t.pool.slabs.length - t.pool.free.length := rfl
  have inUse : after.account.lent = t.pool.slabs.length - (t.pool.free.length + slabs.length) := by
    show (t.pool.releaseAll slabs).inUse = _
    rw [VecPool.inUse, free, kept]
  have within := sound.slots
  refine ⟨⟨by omega, Nat.zero_le _, ?_, rfl⟩, ⟨sound.quiet, ?_, ?_⟩, ?_⟩
  · show t.sock.queue.map (fun d => d.payload.take (t.pool.releaseAll slabs).slabSize) = _
    rw [size]
    rfl
  · show (t.pool.releaseAll slabs).free.length ≤ (t.pool.releaseAll slabs).slabs.length
    rw [free, kept]
    omega
  · show 0 < (t.pool.releaseAll slabs).slabSize
    rw [size]
    exact sound.wide
  · show (t.pool.releaseAll slabs).slabs.length = _
    rw [kept]
    rfl

/-- A call is answered as the ledgers say, and leaves nothing on its way back. -/
theorem recvBurst_keeps (b : Backend) {t : UdpTransport} (sound : t.Sound)
    (out : FrameBatch UdpFrame) (max : Nat) :
    ∃ answer frames s', (source b).recvBurst t out max =
        (answer, frames.foldl FrameBatch.push out, s') ∧
      Reply UdpFrame.landed t.pool.capacity (min max out.spare) t.account s'.account
        answer frames ∧
      s'.account.returning = 0 ∧ s'.account.mayLag = false ∧
      s'.Sound ∧ s'.pool.capacity = t.pool.capacity := by
  have quiet : (t.lend out).Quiet := sound.quiet
  obtain ⟨frames, mid, call⟩ := quietCall_exists b max quiet
  obtain ⟨after, _, slots, _, _⟩ := call_left sound call
  refine ⟨_, frames, _, ?_, call_reply sound call, rfl, rfl, after, slots⟩
  show (_, (Udp.recvBurst b kernelSock max (t.lend out)).2.out, _) = _
  rw [call.out, call.lands.out]
  rfl

/-- A slab is lent, or none was free. -/
theorem acquire_keeps (b : Backend) {t : UdpTransport} (sound : t.Sound) :
    ∃ slab s', (source b).acquire t 1 = (slab, s') ∧
      Loan t.pool.capacity t.account s'.account slab ∧
      s'.account.returning ≤ t.account.returning ∧
      s'.account.pending = t.account.pending ∧ s'.account.mayLag = t.account.mayLag ∧
      s'.Sound ∧ s'.pool.capacity = t.pool.capacity := by
  have fits : ¬ t.pool.slabSize < 1 := Nat.not_lt.mpr sound.wide
  have within := sound.slots
  cases free : t.pool.free with
  | nil =>
      have got : t.pool.acquire 1 = none := VecPool.acquire_none.mpr (.inr free)
      refine ⟨none, t, ?_, .refused ?_ rfl, Nat.le_refl _, rfl, rfl, sound, rfl⟩
      · simp only [source, got]
      · show t.pool.slabs.length - t.pool.free.length = t.pool.slabs.length
        rw [free]
        rfl
  | cons index rest =>
      have got : t.pool.acquire 1 = some (⟨index, 0⟩, { t.pool with free := rest }) := by
        simp only [VecPool.acquire, fits, if_false, free]
      rw [free, List.length_cons] at within
      refine ⟨some ⟨index, 0⟩, { t with pool := { t.pool with free := rest } }, ?_,
        .granted _ ?_, Nat.le_refl _, rfl, rfl, ⟨sound.quiet, ?_, sound.wide⟩, rfl⟩
      · simp only [source, got]
      · show t.pool.slabs.length - rest.length = t.pool.slabs.length - t.pool.free.length + 1
        rw [free, List.length_cons]
        omega
      · exact Nat.le_of_succ_le within

/-- Both backends keep the recv contract, and never lag. -/
def contract (b : Backend) : (source b).Contract where
  payload := UdpFrame.landed
  ledger := account
  valid := Sound
  inUse _ _ := rfl
  within t _ := Nat.sub_le _ _
  recvBurst _ out max sound := recvBurst_keeps b sound out max
  acquire _ sound := acquire_keeps b sound
  dropFrame t frame sound out :=
    returned_releaseAll sound [frame.slab] out
  dropThread t frames sound out := by
    rw [← List.length_map UdpFrame.slab] at out ⊢
    exact ⟨_, rfl, returned_releaseAll sound (frames.map UdpFrame.slab) out⟩

/-! ## Which pools pass -/

/-- What a builder of the suite hands over: a transport bound with a fresh pool, so many
datagrams queued, and no socket errors to come. -/
structure Bound (slabCount slabSize count : Nat) (t : UdpTransport) : Prop where
  pool : VecPool.build slabCount slabSize = some t.pool
  quiet : t.sock.faults = []
  queued : t.sock.queue.length = count

theorem Bound.stocked {slabCount slabSize count : Nat} {t : UdpTransport}
    (bound : t.Bound slabCount slabSize count) (b : Backend) :
    (contract b).Stocked slabCount count t := by
  obtain ⟨slabs, free, size, _, wide, _⟩ := VecPool.build_some bound.pool
  have slots : t.pool.slabs.length = slabCount := by rw [slabs, List.length_replicate]
  have fresh : t.pool.free.length = slabCount := by rw [free, List.length_range]
  refine ⟨⟨⟨bound.quiet, ?_, ?_⟩, slots, ?_, ?_⟩, rfl⟩
  · omega
  · rw [size]
    exact wide
  · show (t.sock.queue.map _).length = count
    rw [List.length_map, bound.queued]
  · show t.pool.slabs.length - t.pool.free.length = 0
    omega

/-- **The backends under the suite.** Over transports of either backend, each bound with a
pool of `slab_count` slabs and the datagrams asked for preloaded, the suite comes to a
report as soon as its last loop has one turn more than that; and all five cases pass if and
only if the pool has two slabs or more. -/
theorem run_allFive_iff (b : Backend) {slabCount slabSize : Nat}
    (build : DatagramCase → Nat → UdpTransport)
    (bound : ∀ case count, (build case count).Bound slabCount slabSize count) {turns : Nat}
    (enough : slabCount < turns) :
    ∃ report, (source b).run turns build = some report ∧
      (report = .allFive ↔ 2 ≤ slabCount) := by
  have slabs : 0 < slabCount := (VecPool.build_some (bound .burstLeqMax 0).pool).2.2.2.1
  apply DatagramSource.run_prompt_iff (contract b) (fun _ _ => rfl) build slabs ?_ enough
  intro case count
  exact (bound case count).stocked b

/-- A transport over two slabs of four bytes. -/
def overTwoSlabs (count : Nat) : UdpTransport where
  sock := ⟨[], List.replicate count ⟨[1, 2], someSender⟩⟩
  pool := (VecPool.build 2 4).get rfl
  lastPeer := none
  metrics := ⟨false, []⟩

theorem run_allFive_iff_twoSlabs :
    (source .tokio).run 3 (fun _ count => overTwoSlabs count) = some .allFive ∧
      (source .mio).run 3 (fun _ count => overTwoSlabs count) = some .allFive := by
  have bound : ∀ count, (overTwoSlabs count).Bound 2 4 count := by
    intro count
    exact ⟨rfl, rfl, List.length_replicate⟩
  have tokio := run_allFive_iff .tokio _ (fun _ => bound) (Nat.lt_succ_self 2)
  have mio := run_allFive_iff .mio _ (fun _ => bound) (Nat.lt_succ_self 2)
  obtain ⟨report, ended, passes⟩ := tokio
  obtain ⟨other, endedToo, passesToo⟩ := mio
  exact ⟨passes.mpr (Nat.le_refl 2) ▸ ended, passesToo.mpr (Nat.le_refl 2) ▸ endedToo⟩

end UdpTransport

end Transports.Udp
