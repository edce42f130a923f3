import Transports.Udp.Counters

/-!
# Splitting a burst

On a queue that nothing arrives at and no read of which fails, a burst lands as
many datagrams as the cap, the batch, the pool and the queue all leave room for,
and landings from one state are determined by their number. So a burst of `m + n`
is a burst of `m` and then one of `n`: the numbers add up, and the rest follows.
-/

namespace Transports.Udp

open Lib Transports.Core Transports.Pool

/-! ## A queue nothing disturbs -/

/-- No read of the socket fails. -/
def RecvState.Quiet (st : RecvState KernelSock) : Prop := st.sock.faults = []

section Quiet

variable {b : Backend} {max : Nat} {st mid : RecvState KernelSock} {frames : List UdpFrame}
  {exit : Exit}

theorem quiet_answer (quiet : st.Quiet) :
    st.answer b kernelSock 0 =
      match st.sock.queue with
      | [] => .error .wouldBlock
      | d :: _ => .ok (d.cut st.pool.slabSize) := by
  unfold RecvState.Quiet at quiet
  rw [RecvState.answer_zero]
  cases queue : st.sock.queue <;> simp [kernelSock, kernelRecv, quiet, queue, Datagram.cut]

/-- Only an empty queue answers with an error, and it is `WouldBlock`. -/
theorem quiet_stopped {e : IoError} (quiet : st.Quiet)
    (stopped : st.answer b kernelSock 0 = .error e) :
    e = .wouldBlock ∧ st.sock.queue = [] := by
  rw [quiet_answer quiet] at stopped
  cases queue : st.sock.queue with
  | nil =>
      rw [queue, Except.error.injEq] at stopped
      exact ⟨stopped.symm, rfl⟩
  | cons d rest =>
      rw [queue] at stopped
      cases stopped

theorem quiet_next (quiet : st.Quiet) : st.next kernelSock = ⟨[], st.sock.queue.tail⟩ := by
  unfold RecvState.Quiet at quiet
  cases queue : st.sock.queue <;>
    simp [RecvState.next, kernelSock, kernelRecv, quiet, queue]

/-- The landings take the front of the queue, in order. -/
theorem Lands.queue (lands : Lands b kernelSock st frames mid) (quiet : st.Quiet) :
    mid.Quiet ∧ st.sock.queue.length = frames.length + mid.sock.queue.length ∧
      mid.sock.queue = st.sock.queue.drop frames.length ∧
      frames.map (fun frame => (frame.landed, frame.peer)) =
        (st.sock.queue.take frames.length).map (Datagram.cut st.pool.slabSize) := by
  induction lands with
  | nil => exact ⟨quiet, by simp, by simp, by simp⟩
  | @cons st slab pool data peer frames mid got answer _ ih =>
      have size := (VecPool.acquire_some got).2.2.2.2
      rw [quiet_answer quiet] at answer
      have rest := ih (congrArg KernelSock.faults (quiet_next quiet))
      simp only [RecvState.land, quiet_next quiet, VecPool.write_slabSize, size] at rest
      obtain ⟨after, count, left, reads⟩ := rest
      cases queue : st.sock.queue with
      | nil =>
          rw [queue] at answer
          cases answer
      | cons d waiting =>
          rw [queue, Except.ok.injEq] at answer
          rw [queue, List.tail_cons] at count left reads
          refine ⟨after, ?_, left, ?_⟩
          · simp only [List.length_cons]
            omega
          · simp only [List.map_cons, List.length_cons, List.take_succ_cons, reads, answer]

end Quiet

/-- What a call on a quiet queue does. -/
structure QuietCall (b : Backend) (max : Nat) (st : RecvState KernelSock)
    (frames : List UdpFrame) (mid : RecvState KernelSock) : Prop where
  lands : Lands b kernelSock st frames mid
  /-- as many landings as there is room and need for -/
  count : frames.length =
    min (min (min max st.out.spare) st.pool.free.length) st.sock.queue.length
  /-- and nothing else happens, but for the counters -/
  sock : (recvBurst b kernelSock max st).2.sock = mid.sock
  pool : (recvBurst b kernelSock max st).2.pool = mid.pool
  lastPeer : (recvBurst b kernelSock max st).2.lastPeer = mid.lastPeer
  out : (recvBurst b kernelSock max st).2.out = mid.out
  result : (recvBurst b kernelSock max st).1 = .ok frames.length ∨
    frames = [] ∧ 0 < min max st.out.spare ∧ st.pool.free = [] ∧
      (recvBurst b kernelSock max st).1 = .error (.poolExhausted st.pool.inUse st.pool.capacity)
  gate : (recvBurst b kernelSock max st).2.metrics.enabled = st.metrics.enabled
  totals : (recvBurst b kernelSock max st).2.metrics.totals = st.metrics.totals +
    if st.metrics.enabled then (frames.length, landedBytes frames % 2 ^ 64) else 0

/-- A call that reports what it landed records it. -/
theorem CallRun.totals {S : Type} {b : Backend} {sock : UdpSock S} {max : Nat}
    {st mid : RecvState S} {frames : List UdpFrame} {exit : Exit}
    (run : CallRun b sock max st frames mid exit)
    (reported : (recvBurst b sock max st).1 = .ok frames.length ∨
      frames = [] ∧ ∃ e, (recvBurst b sock max st).1 = .error e) :
    (recvBurst b sock max st).2.metrics.enabled = st.metrics.enabled ∧
      (recvBurst b sock max st).2.metrics.totals = st.metrics.totals +
        if st.metrics.enabled then (frames.length, landedBytes frames % 2 ^ 64) else 0 := by
  rw [run.metrics]
  rcases reported with result | ⟨rfl, e, result⟩ <;> rw [result]
  · refine ⟨Telemetry.recordRecvBurst_enabled _ _ _, ?_⟩
    by_cases gate : st.metrics.enabled = true
    · rw [if_pos gate]
      exact Telemetry.totals_recordRecvBurst _ _ _ gate
    · rw [if_neg gate, add_zero]
      exact congrArg Telemetry.totals (if_neg gate)
  · refine ⟨rfl, ?_⟩
    have nothing : (([] : List UdpFrame).length, landedBytes [] % 2 ^ 64) = 0 := rfl
    rw [nothing, ite_self, add_zero]

theorem quietCall_exists (b : Backend) (max : Nat) {st : RecvState KernelSock}
    (quiet : st.Quiet) : ∃ frames mid, QuietCall b max st frames mid := by
  obtain ⟨frames, mid, exit, run⟩ := callRun_exists b kernelSock max st
  obtain ⟨still, queued, _, _⟩ := run.lands.queue quiet
  have slots := run.lands.free_length
  have room := run.le_room
  have stops := run.stops
  -- the numbers first, then the state and the result by the exit
  suffices plain : frames.length =
        min (min (min max st.out.spare) st.pool.free.length) st.sock.queue.length ∧
      (recvBurst b kernelSock max st).2 =
        { mid with metrics := (recvBurst b kernelSock max st).2.metrics } ∧
      ((recvBurst b kernelSock max st).1 = .ok frames.length ∨
        frames = [] ∧ 0 < min max st.out.spare ∧ st.pool.free = [] ∧
          (recvBurst b kernelSock max st).1 =
            .error (.poolExhausted st.pool.inUse st.pool.capacity)) by
    obtain ⟨count, after, result⟩ := plain
    obtain ⟨gate, totals⟩ :=
      run.totals (result.imp_right fun ⟨nothing, _, _, failed⟩ => ⟨nothing, _, failed⟩)
    refine ⟨frames, mid, run.lands, count, ?_, ?_, ?_, ?_, result, gate, totals⟩ <;> rw [after]
  cases exit with
  | full =>
      simp only [Exit.Stops] at stops
      refine ⟨by omega, ?_, .inl ?_⟩ <;> rw [run.call] <;> rfl
  | exhausted =>
      obtain ⟨positive, empty⟩ := stops
      rw [empty, List.length_nil] at slots
      by_cases first : frames.length = 0
      · -- nothing landed: the pool was empty from the start
        have none := List.eq_nil_of_length_eq_zero first
        subst none
        have same := (run.lands.unique .nil rfl).2
        subst same
        refine ⟨by omega, ?_, .inr ⟨rfl, positive, empty, ?_⟩⟩ <;> rw [run.call] <;> rfl
      · refine ⟨by omega, ?_, .inl ?_⟩ <;> rw [run.call, Exit.leave, if_neg first]
        rfl
  | drained =>
      obtain ⟨_, _, e, stopped, _⟩ := stops
      have empty := (quiet_stopped still stopped).2
      have same : mid.next kernelSock = mid.sock := by
        have whole : mid.sock = ⟨mid.sock.faults, mid.sock.queue⟩ := rfl
        rw [quiet_next still, whole, show mid.sock.faults = [] from still, empty]
        rfl
      rw [empty, List.length_nil] at queued
      refine ⟨by omega, ?_, .inl ?_⟩ <;> rw [run.call, Exit.leave]
      rw [same]
      rfl
  | failed e =>
      obtain ⟨_, _, stopped, kind⟩ := stops
      exact absurd (by rw [(quiet_stopped still stopped).1]; rfl) kind

/-- What a burst lands at most: the batch, the pool and the queue set it. -/
def RecvState.limit (st : RecvState KernelSock) : Nat :=
  min st.out.spare (min st.pool.free.length st.sock.queue.length)

section Call

variable {b : Backend} {max : Nat} {st mid : RecvState KernelSock} {frames : List UdpFrame}

theorem QuietCall.count_eq (call : QuietCall b max st frames mid) :
    frames.length = min max st.limit := by
  rw [call.count, RecvState.limit, Nat.min_assoc, Nat.min_assoc]

/-- What the call leaves for the next one. -/
theorem QuietCall.left (call : QuietCall b max st frames mid) (quiet : st.Quiet) :
    (recvBurst b kernelSock max st).2.Quiet ∧
      (recvBurst b kernelSock max st).2.out.spare + frames.length = st.out.spare ∧
      (recvBurst b kernelSock max st).2.pool.free.length + frames.length =
        st.pool.free.length ∧
      (recvBurst b kernelSock max st).2.sock.queue.length + frames.length =
        st.sock.queue.length := by
  have count := call.count
  have slots := call.lands.free_length
  obtain ⟨still, queued, _, _⟩ := call.lands.queue quiet
  have room : frames.length ≤ st.out.spare := by omega
  have spare : mid.out.spare + frames.length = st.out.spare := by
    rw [call.lands.out, FrameBatch.spare, FrameBatch.foldl_push_frames,
      FrameBatch.foldl_push_capacity frames st.out room, List.length_append]
    simp only [FrameBatch.spare] at room ⊢
    omega
  rw [RecvState.Quiet, call.out, call.pool, call.sock]
  exact ⟨still, spare, by omega, by omega⟩

theorem QuietCall.limit_left (call : QuietCall b max st frames mid) (quiet : st.Quiet) :
    (recvBurst b kernelSock max st).2.limit + frames.length = st.limit := by
  obtain ⟨_, spare, free, queue⟩ := call.left quiet
  simp only [RecvState.limit]
  omega

end Call

/-! ## One burst and two -/

/-- Both calls of a split burst, and the burst they split. -/
theorem QuietCall.split {b : Backend} {m n : Nat} {st mid mid₁ mid₂ : RecvState KernelSock}
    {frames frames₁ frames₂ : List UdpFrame} (quiet : st.Quiet)
    (first : QuietCall b m st frames₁ mid₁)
    (second : QuietCall b n (recvBurst b kernelSock m st).2 frames₂ mid₂)
    (single : QuietCall b (m + n) st frames mid) :
    frames = frames₁ ++ frames₂ ∧ mid = { mid₂ with metrics := mid₁.metrics } := by
  have back : { (recvBurst b kernelSock m st).2 with metrics := mid₁.metrics } = mid₁ := by
    simp only [first.sock, first.pool, first.lastPeer, first.out]
  have later := second.lands.withMetrics mid₁.metrics
  rw [back] at later
  have left := first.limit_left quiet
  have count₁ := first.count_eq
  have count₂ := second.count_eq
  apply single.lands.unique (first.lands.append later)
  rw [List.length_append, single.count_eq]
  omega

/-- The same transport, with counters that show the same. A 64-bit counter shows
its total modulo `2^64`; the totals themselves agree if `whole`. -/
structure Alike (whole : Prop) (s t : RecvState S) : Prop where
  sock : s.sock = t.sock
  pool : s.pool = t.pool
  lastPeer : s.lastPeer = t.lastPeer
  out : s.out = t.out
  gate : s.metrics.enabled = t.metrics.enabled
  packets : s.metrics.totals.1 = t.metrics.totals.1
  bytes : s.metrics.totals.2 % 2 ^ 64 = t.metrics.totals.2 % 2 ^ 64
  bytesWhole : whole → s.metrics.totals.2 = t.metrics.totals.2

theorem Alike.trans {S : Type} {whole : Prop} {s t u : RecvState S} (first : Alike whole s t)
    (second : Alike whole t u) : Alike whole s u where
  sock := first.sock.trans second.sock
  pool := first.pool.trans second.pool
  lastPeer := first.lastPeer.trans second.lastPeer
  out := first.out.trans second.out
  gate := first.gate.trans second.gate
  packets := first.packets.trans second.packets
  bytes := first.bytes.trans second.bytes
  bytesWhole exact := (first.bytesWhole exact).trans (second.bytesWhole exact)

theorem landedBytes_append (frames more : List UdpFrame) :
    landedBytes (frames ++ more) = landedBytes frames + landedBytes more := by
  rw [landedBytes, List.map_append, List.sum_append]
  rfl

/-- A burst of `m` and one of `n` leave what a burst of `m + n` leaves. -/
theorem split_alike (b : Backend) {st : RecvState KernelSock} (quiet : st.Quiet) (m n : Nat) :
    Alike st.pool.Addressable
      (recvBurst b kernelSock n (recvBurst b kernelSock m st).2).2
      (recvBurst b kernelSock (m + n) st).2 := by
  obtain ⟨frames₁, mid₁, first⟩ := quietCall_exists b m quiet
  obtain ⟨frames₂, mid₂, second⟩ := quietCall_exists b n (first.left quiet).1
  obtain ⟨frames, mid, single⟩ := quietCall_exists b (m + n) quiet
  obtain ⟨rfl, rfl⟩ := first.split quiet second single
  have gate := second.gate.trans first.gate
  have two := second.totals
  have one := single.totals
  rw [first.gate, first.totals] at two
  rw [landedBytes_append, List.length_append] at one
  have fits := single.lands.landedBytes_le
  rw [landedBytes_append] at fits
  constructor
  case sock => rw [second.sock, single.sock]
  case pool => rw [second.pool, single.pool]
  case lastPeer => rw [second.lastPeer, single.lastPeer]
  case out => rw [second.out, single.out]
  case gate => rw [gate, single.gate]
  case packets =>
      rw [two, one]
      by_cases on : st.metrics.enabled = true
      · simp only [if_pos on, Prod.fst_add]
        omega
      · simp only [if_neg on, add_zero]
  case bytes =>
      rw [two, one]
      by_cases on : st.metrics.enabled = true
      · simp only [if_pos on, Prod.snd_add]
        omega
      · simp only [if_neg on, add_zero]
  case bytesWhole =>
      intro addressable
      unfold VecPool.Addressable at addressable
      rw [two, one]
      by_cases on : st.metrics.enabled = true
      · simp only [if_pos on, Prod.snd_add]
        have small := Nat.mod_eq_of_lt (fits.trans_lt addressable)
        omega
      · simp only [if_neg on, add_zero]

/-- If the one burst returns `Ok`, so does the first of the two; the second returns
the rest, or finds the pool empty when there is no rest. -/
theorem split_results (b : Backend) {st : RecvState KernelSock} (quiet : st.Quiet)
    {m n total : Nat} (ok : (recvBurst b kernelSock (m + n) st).1 = .ok total) :
    ∃ landed ≤ total, (recvBurst b kernelSock m st).1 = .ok landed ∧
      ((recvBurst b kernelSock n (recvBurst b kernelSock m st).2).1 = .ok (total - landed) ∨
        landed = total ∧ ∃ inUse capacity,
          (recvBurst b kernelSock n (recvBurst b kernelSock m st).2).1 =
            .error (.poolExhausted inUse capacity)) := by
  obtain ⟨frames₁, mid₁, first⟩ := quietCall_exists b m quiet
  obtain ⟨frames₂, mid₂, second⟩ := quietCall_exists b n (first.left quiet).1
  obtain ⟨frames, mid, single⟩ := quietCall_exists b (m + n) quiet
  obtain ⟨rfl, rfl⟩ := first.split quiet second single
  have count : total = frames₁.length + frames₂.length := by
    rcases single.result with result | ⟨_, _, _, result⟩
    · rw [ok, Except.ok.injEq, List.length_append] at result
      exact result
    · rw [ok] at result
      cases result
  refine ⟨frames₁.length, by omega, ?_, ?_⟩
  · rcases first.result with result | ⟨none, room, empty, _⟩
    · exact result
    · -- an empty pool would have stopped the one burst as well
      have stopped := (recvBurst_exhausted_iff b kernelSock (m + n) st).mpr ⟨by omega, empty⟩
      obtain ⟨_, _, exhausted⟩ := stopped
      rw [ok] at exhausted
      cases exhausted
  · rcases second.result with result | ⟨none, _, _, result⟩
    · left
      rw [result, count, Nat.add_sub_cancel_left]
    · right
      rw [none, List.length_nil, Nat.add_zero] at count
      exact ⟨count.symm, _, _, result⟩

/-! ## Any number of bursts -/

/-- Bursts one after the other: what they returned, and the state they left. -/
def bursts (b : Backend) (sock : UdpSock S) :
    List Nat → RecvState S → List (Except TransportError Nat) × RecvState S
  | [], st => ([], st)
  | max :: rest, st =>
    let (result, st) := recvBurst b sock max st
    let (results, st) := bursts b sock rest st
    (result :: results, st)

/-- The count a result reports. -/
def reported : Except TransportError Nat → Nat
  | .ok n => n
  | .error _ => 0

section Bursts

variable {b : Backend} {st : RecvState KernelSock}

theorem Alike.imp {S : Type} {whole whole' : Prop} {s t : RecvState S}
    (alike : Alike whole s t) (weaken : whole' → whole) : Alike whole' s t :=
  { alike with bytesWhole := fun exact => alike.bytesWhole (weaken exact) }

/-- A burst of none changes nothing that shows. -/
theorem alike_zero (quiet : st.Quiet) (whole : Prop) :
    Alike whole st (recvBurst b kernelSock 0 st).2 := by
  obtain ⟨frames, mid, call⟩ := quietCall_exists b 0 quiet
  have none : frames = [] := by
    have count := call.count
    exact List.eq_nil_of_length_eq_zero (by omega)
  subst none
  obtain rfl := (call.lands.unique .nil rfl).2
  have nothing : (([] : List UdpFrame).length, landedBytes [] % 2 ^ 64) = 0 := rfl
  have same : (recvBurst b kernelSock 0 mid).2.metrics.totals = mid.metrics.totals := by
    rw [call.totals, nothing, ite_self, add_zero]
  exact ⟨call.sock.symm, call.pool.symm, call.lastPeer.symm, call.out.symm, call.gate.symm,
    by rw [same], by rw [same], fun _ => by rw [same]⟩

theorem bursts_alike (quiet : st.Quiet) (maxes : List Nat) :
    Alike st.pool.Addressable (bursts b kernelSock maxes st).2
      (recvBurst b kernelSock maxes.sum st).2 := by
  induction maxes generalizing st with
  | nil => exact alike_zero quiet _
  | cons max rest ih =>
      obtain ⟨frames, mid, first⟩ := quietCall_exists b max quiet
      obtain ⟨still, _, free, _⟩ := first.left quiet
      have smaller : st.pool.Addressable →
          (recvBurst b kernelSock max st).2.pool.Addressable := by
        intro addressable
        have slots : (recvBurst b kernelSock max st).2.pool.free.length ≤ st.pool.free.length := by
          omega
        have width : (recvBurst b kernelSock max st).2.pool.slabSize = st.pool.slabSize := by
          rw [first.pool, first.lands.pool.1]
        rw [VecPool.Addressable, width]
        exact (Nat.mul_le_mul_right _ slots).trans_lt addressable
      rw [List.sum_cons]
      exact ((ih still).imp smaller).trans (split_alike b quiet max rest.sum)

theorem reported_put (quiet : st.Quiet) (max : Nat) :
    st.out.frames.length + reported (recvBurst b kernelSock max st).1 =
      (recvBurst b kernelSock max st).2.out.frames.length := by
  obtain ⟨frames, mid, call⟩ := quietCall_exists b max quiet
  rw [call.out, call.lands.out, FrameBatch.foldl_push_frames, List.length_append]
  rcases call.result with result | ⟨rfl, _, _, result⟩ <;> rw [result] <;> rfl

theorem bursts_put (quiet : st.Quiet) (maxes : List Nat) :
    st.out.frames.length + ((bursts b kernelSock maxes st).1.map reported).sum =
      (bursts b kernelSock maxes st).2.out.frames.length := by
  induction maxes generalizing st with
  | nil => rfl
  | cons max rest ih =>
      obtain ⟨frames, mid, first⟩ := quietCall_exists b max quiet
      have later := ih (first.left quiet).1
      have here := reported_put (b := b) quiet max
      simp only [bursts, List.map_cons, List.sum_cons]
      omega

/-- All the bursts report together what the one burst reports. -/
theorem bursts_reported (quiet : st.Quiet) (maxes : List Nat) :
    ((bursts b kernelSock maxes st).1.map reported).sum =
      reported (recvBurst b kernelSock maxes.sum st).1 := by
  have many := bursts_put (b := b) quiet maxes
  have one := reported_put (b := b) quiet maxes.sum
  rw [(bursts_alike quiet maxes).out] at many
  omega

end Bursts

/-- **Bursts split.** On a quiet queue, for every pool, batch, `m` and `n`: a burst of
`m` and one of `n` leave the batch, pool, queue, last peer and counters that the one
burst of `m + n` leaves. If the one returns `Ok`, the first of the two returns `Ok`
and the second the rest, or `PoolExhausted` if there is none. Likewise any number
of bursts, as `k` bursts of one. -/
theorem recvBurst_split (b : Backend) {st : RecvState KernelSock} (quiet : st.Quiet) :
    (∀ m n, Alike st.pool.Addressable
        (recvBurst b kernelSock n (recvBurst b kernelSock m st).2).2
        (recvBurst b kernelSock (m + n) st).2 ∧
      ∀ total, (recvBurst b kernelSock (m + n) st).1 = .ok total →
        ∃ landed ≤ total, (recvBurst b kernelSock m st).1 = .ok landed ∧
          ((recvBurst b kernelSock n (recvBurst b kernelSock m st).2).1 = .ok (total - landed) ∨
            landed = total ∧ ∃ inUse capacity,
              (recvBurst b kernelSock n (recvBurst b kernelSock m st).2).1 =
                .error (.poolExhausted inUse capacity))) ∧
    ∀ k, Alike st.pool.Addressable (bursts b kernelSock (List.replicate k 1) st).2
        (recvBurst b kernelSock k st).2 ∧
      ((bursts b kernelSock (List.replicate k 1) st).1.map reported).sum =
        reported (recvBurst b kernelSock k st).1 := by
  constructor
  · intro m n
    refine ⟨split_alike b quiet m n, ?_⟩
    intro total ok
    exact split_results b quiet ok
  · intro k
    have ones : (List.replicate k 1).sum = k := by simp
    have alike := bursts_alike (b := b) quiet (List.replicate k 1)
    have counts := bursts_reported (b := b) quiet (List.replicate k 1)
    rw [ones] at alike counts
    exact ⟨alike, counts⟩

/-- Over one slot: a burst of one takes it, and the burst after it finds none. -/
theorem recvBurst_split_threeQueued :
    (recvBurst .mio kernelSock 2 (recvBurst .mio kernelSock 1 threeQueued.recv).2).2.out =
        (recvBurst .mio kernelSock 3 threeQueued.recv).2.out ∧
      ∃ landed ≤ 1, (recvBurst .mio kernelSock 1 threeQueued.recv).1 = .ok landed := by
  have quiet : threeQueued.recv.Quiet := rfl
  obtain ⟨alike, results⟩ := (recvBurst_split .mio quiet).1 1 2
  obtain ⟨landed, within, first, _⟩ := results 1 rfl
  exact ⟨alike.out, landed, within, first⟩

end Transports.Udp
