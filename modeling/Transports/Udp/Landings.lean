import Mathlib.Algebra.Group.Action.Defs
import Transports.Pool.Ownership
import Transports.Udp.Burst

/-!
# The landings of a burst

A `recv_burst` is a run of landings and then one exit. `Lands` is the run, as a
relation between the states before the first landing and after the last;
`Exit.leave` is what the call does at the end of it. The loop makes such a run
(`burstLoop_lands`), and whatever run there is from its state, the loop is that
run (`burstLoop_of_lands`). So a burst may be cut in two, put together again or
replayed on another transport by cutting, appending and replaying its landings,
and what it does to the pool is proved landing by landing.
-/

namespace Transports.Udp

open Lib Transports.Core Transports.Pool

variable {S : Type}

/-- `frames` land one after the other and take the transport from `st` to `mid`. -/
inductive Lands (b : Backend) (sock : UdpSock S) :
    RecvState S → List UdpFrame → RecvState S → Prop
  | nil {st} : Lands b sock st [] st
  | cons {st slab pool data peer frames mid}
      (got : st.pool.acquire st.pool.slabSize = some (slab, pool))
      (answer : st.answer b sock 0 = .ok (data, peer))
      (rest : Lands b sock (st.land slab pool (st.next sock) data peer) frames mid) :
      Lands b sock st (⟨slab.setLen data.length, peer, data⟩ :: frames) mid

/-- Why the loop goes no further from `mid` with `room` turns left. -/
def Exit.Stops (b : Backend) (sock : UdpSock S) (mid : RecvState S) (room : Nat) : Exit → Prop
  | .full => room = 0
  | .exhausted => 0 < room ∧ mid.pool.free = []
  | .drained => 0 < room ∧ mid.pool.free ≠ [] ∧
      ∃ e, mid.answer b sock 0 = .error e ∧ e.kind = .wouldBlock
  | .failed e => 0 < room ∧ mid.pool.free ≠ [] ∧
      mid.answer b sock 0 = .error e ∧ e.kind ≠ .wouldBlock

/-- What a call that has landed `n` datagrams of `bytes` bytes does at its exit. -/
def Exit.leave (b : Backend) (sock : UdpSock S) (mid : RecvState S) (n bytes : Nat) :
    Exit → Except TransportError Nat × RecvState S
  | .full => (.ok n, mid.record b n bytes)
  | .exhausted =>
    if n = 0 then (.error (.poolExhausted mid.pool.inUse mid.pool.capacity), mid)
    else (.ok n, mid.record b n bytes)
  | .drained => (.ok n, { mid with sock := mid.next sock }.record b n bytes)
  | .failed e => (.error (.io e), { mid with sock := mid.next sock })

/-- The byte accumulator after `frames`. -/
def Backend.accumulateAll (b : Backend) (bytes : Nat) (frames : List UdpFrame) : Nat :=
  frames.foldl (fun bytes frame => b.accumulate bytes frame.landed.length) bytes

/-- The bytes that landed in all. -/
def landedBytes (frames : List UdpFrame) : Nat := (frames.map fun frame => frame.landed.length).sum

theorem Backend.accumulateAll_eq (b : Backend) (frames : List UdpFrame) (bytes : Nat) :
    b.accumulateAll (bytes % 2 ^ 64) frames = (bytes + landedBytes frames) % 2 ^ 64 := by
  have width : b.accBits = 64 := by cases b <;> rfl
  induction frames generalizing bytes with
  | nil => rfl
  | cons frame rest ih =>
      have first : b.accumulate (bytes % 2 ^ 64) frame.landed.length =
          (bytes + frame.landed.length) % 2 ^ 64 := by
        rw [accumulate, width, Nat.mod_add_mod]
      have total : landedBytes (frame :: rest) = frame.landed.length + landedBytes rest := by
        simp [landedBytes]
      rw [accumulateAll, List.foldl_cons, first, total, ← Nat.add_assoc]
      exact ih (bytes + frame.landed.length)

/-! ## The loop is its landings -/

section Loop

variable {b : Backend} {sock : UdpSock S} {st mid last : RecvState S} {frames : List UdpFrame}
  {exit : Exit}

/-- A run of landings up to an exit is what the loop does. -/
theorem burstLoop_of_lands {room : Nat} (lands : Lands b sock st frames mid)
    (stops : exit.Stops b sock mid room) (n bytes : Nat) :
    burstLoop b sock (frames.length + room) n bytes st =
      exit.leave b sock mid (n + frames.length) (b.accumulateAll bytes frames) := by
  induction lands generalizing n bytes with
  | @nil st =>
      rw [List.length_nil, Nat.zero_add, Nat.add_zero]
      cases exit with
      | full =>
          cases stops
          rfl
      | exhausted =>
          obtain ⟨positive, empty⟩ := stops
          obtain ⟨left, rfl⟩ := Nat.exists_eq_succ_of_ne_zero (Nat.ne_of_gt positive)
          exact burstLoop_exhausted (VecPool.acquire_full_none.mpr empty)
      | drained =>
          obtain ⟨positive, some, e, answer, kind⟩ := stops
          obtain ⟨left, rfl⟩ := Nat.exists_eq_succ_of_ne_zero (Nat.ne_of_gt positive)
          obtain ⟨⟨slab, pool⟩, got⟩ := Option.ne_none_iff_exists'.mp
            (mt VecPool.acquire_full_none.mp some)
          rw [burstLoop_stopped got answer, if_pos kind]
          rfl
      | failed e =>
          obtain ⟨positive, some, answer, kind⟩ := stops
          obtain ⟨left, rfl⟩ := Nat.exists_eq_succ_of_ne_zero (Nat.ne_of_gt positive)
          obtain ⟨⟨slab, pool⟩, got⟩ := Option.ne_none_iff_exists'.mp
            (mt VecPool.acquire_full_none.mp some)
          rw [burstLoop_stopped got answer, if_neg kind]
          rfl
  | @cons st slab pool data peer frames mid got answer rest ih =>
      have turns : (⟨slab.setLen data.length, peer, data⟩ :: frames : List UdpFrame).length + room =
          frames.length + room + 1 := by
        rw [List.length_cons]
        omega
      rw [turns, burstLoop_landed got answer, ih stops, List.length_cons]
      have count : n + 1 + frames.length = n + (frames.length + 1) := by omega
      rw [count]
      rfl

/-- From every state the loop makes some run of landings, up to some exit. -/
theorem lands_exists (b : Backend) (sock : UdpSock S) (room : Nat) (st : RecvState S) :
    ∃ frames mid, ∃ exit : Exit, Lands b sock st frames mid ∧ frames.length ≤ room ∧
      exit.Stops b sock mid (room - frames.length) := by
  induction room generalizing st with
  | zero => exact ⟨[], st, .full, .nil, Nat.le_refl _, rfl⟩
  | succ room ih =>
      cases got : st.pool.acquire st.pool.slabSize with
      | none =>
          exact ⟨[], st, .exhausted, .nil, Nat.zero_le _, Nat.succ_pos _,
            VecPool.acquire_full_none.mp got⟩
      | some acquired =>
          obtain ⟨slab, pool⟩ := acquired
          have some : st.pool.free ≠ [] := by
            intro empty
            rw [VecPool.acquire_full_none.mpr empty] at got
            cases got
          cases answer : st.answer b sock 0 with
          | error e =>
              by_cases kind : e.kind = .wouldBlock
              · exact ⟨[], st, .drained, .nil, Nat.zero_le _, Nat.succ_pos _, some, e, answer,
                  kind⟩
              · exact ⟨[], st, .failed e, .nil, Nat.zero_le _, Nat.succ_pos _, some, answer, kind⟩
          | ok landed =>
              obtain ⟨data, peer⟩ := landed
              obtain ⟨frames, mid, exit, lands, room, stops⟩ :=
                ih (st.land slab pool (st.next sock) data peer)
              refine ⟨_, mid, exit, .cons got answer lands, Nat.succ_le_succ room, ?_⟩
              rw [List.length_cons, Nat.add_sub_add_right]
              exact stops

end Loop

/-- One call: its landings, its exit, and what it comes to. -/
structure CallRun (b : Backend) (sock : UdpSock S) (max : Nat) (st : RecvState S)
    (frames : List UdpFrame) (mid : RecvState S) (exit : Exit) : Prop where
  lands : Lands b sock st frames mid
  le_room : frames.length ≤ min max st.out.spare
  stops : exit.Stops b sock mid (min max st.out.spare - frames.length)
  call : recvBurst b sock max st =
    exit.leave b sock mid frames.length (b.accumulateAll 0 frames)

theorem callRun_of_lands {b : Backend} {sock : UdpSock S} {max : Nat} {st mid : RecvState S}
    {frames : List UdpFrame} {exit : Exit} (lands : Lands b sock st frames mid)
    (room : frames.length ≤ min max st.out.spare)
    (stops : exit.Stops b sock mid (min max st.out.spare - frames.length)) :
    CallRun b sock max st frames mid exit := by
  refine ⟨lands, room, stops, ?_⟩
  have loop := burstLoop_of_lands lands stops 0 0
  rw [Nat.add_sub_cancel' room, Nat.zero_add] at loop
  exact loop

theorem callRun_exists (b : Backend) (sock : UdpSock S) (max : Nat) (st : RecvState S) :
    ∃ frames mid exit, CallRun b sock max st frames mid exit := by
  obtain ⟨frames, mid, exit, lands, room, stops⟩ :=
    lands_exists b sock (min max st.out.spare) st
  exact ⟨frames, mid, exit, callRun_of_lands lands room stops⟩

/-! ## Cutting and joining -/

section Lands

variable {b : Backend} {sock : UdpSock S} {st mid last : RecvState S}
  {frames more : List UdpFrame}

theorem Lands.append (first : Lands b sock st frames mid) (second : Lands b sock mid more last) :
    Lands b sock st (frames ++ more) last := by
  induction first with
  | nil => exact second
  | cons got answer _ ih => exact .cons got answer (ih second)

theorem Lands.split (lands : Lands b sock st (frames ++ more) last) :
    ∃ mid, Lands b sock st frames mid ∧ Lands b sock mid more last := by
  induction frames generalizing st with
  | nil => exact ⟨st, .nil, lands⟩
  | cons frame rest ih =>
      cases lands with
      | cons got answer tail =>
          obtain ⟨mid, first, second⟩ := ih tail
          exact ⟨mid, .cons got answer first, second⟩

/-- A landing looks at no counter. -/
theorem Lands.withMetrics (lands : Lands b sock st frames mid) (metrics : Telemetry) :
    Lands b sock { st with metrics } frames { mid with metrics } := by
  induction lands with
  | nil => exact .nil
  | cons got answer _ ih => exact .cons got answer ih

/-! ## What landings leave -/

theorem Lands.out (lands : Lands b sock st frames mid) :
    mid.out = frames.foldl FrameBatch.push st.out := by
  induction lands with
  | nil => rfl
  | cons got answer _ ih => exact ih

theorem Lands.metrics (lands : Lands b sock st frames mid) : mid.metrics = st.metrics := by
  induction lands with
  | nil => rfl
  | cons got answer _ ih => exact ih

/-- The landings take the front of the free list, in order, over the same slots. -/
theorem Lands.pool (lands : Lands b sock st frames mid) :
    mid.pool.slabSize = st.pool.slabSize ∧ mid.pool.slabs.length = st.pool.slabs.length ∧
      st.pool.free = frames.map (fun frame => frame.slab.index) ++ mid.pool.free := by
  induction lands with
  | nil => exact ⟨rfl, rfl, rfl⟩
  | cons got answer _ ih =>
      obtain ⟨_, _, top, slabs, size⟩ := VecPool.acquire_some got
      obtain ⟨width, count, free⟩ := ih
      refine ⟨width.trans size, ?_, ?_⟩
      · rw [count]
        simp only [RecvState.land, VecPool.write_slabs_length, slabs]
      · rw [top, List.map_cons, List.cons_append]
        exact congrArg _ free

/-- The reads that follow landings are the ones that were to follow. -/
theorem Lands.answer_after (lands : Lands b sock st frames mid) (k : Nat) :
    mid.answer b sock k = st.answer b sock (frames.length + k) := by
  induction lands generalizing k with
  | nil => rw [List.length_nil, Nat.zero_add]
  | @cons st slab pool data peer frames mid got answer _ ih =>
      have count : frames.length + 1 + k = frames.length + k + 1 := by omega
      rw [ih, RecvState.answer_land got, List.length_cons, count]

/-- Each landing made one read. -/
theorem Lands.sock_after (lands : Lands b sock st frames mid) (k : Nat) :
    sock.after mid.sock mid.pool.slabSize k =
      sock.after st.sock st.pool.slabSize (frames.length + k) := by
  induction lands generalizing k with
  | nil => rw [List.length_nil, Nat.zero_add]
  | @cons st slab pool data peer frames mid got answer _ ih =>
      have size := (VecPool.acquire_some got).2.2.2.2
      have count : frames.length + 1 + k = frames.length + k + 1 := by omega
      rw [ih, List.length_cons, count, UdpSock.after_succ]
      simp only [RecvState.land, RecvState.next, VecPool.write_slabSize, size]

/-- Each frame is what the read of its number handed over. -/
theorem Lands.answer (lands : Lands b sock st frames mid) :
    ∀ i (h : i < frames.length),
      st.answer b sock i = .ok (frames[i].landed, frames[i].peer) := by
  induction lands with
  | nil =>
      intro i bound
      cases bound
  | @cons st slab pool data peer frames mid got answer _ ih =>
      intro i bound
      cases i with
      | zero => exact answer
      | succ i =>
          rw [← RecvState.answer_land got data peer i]
          exact ih i (Nat.lt_of_succ_lt_succ bound)

/-- A read hands over no more than a slab holds. -/
theorem RecvState.answer_fits {k : Nat} {data : List UInt8} {peer : SocketAddr}
    (answer : st.answer b sock k = .ok (data, peer)) : data.length ≤ st.pool.slabSize := by
  unfold RecvState.answer at answer
  cases raw : sock.answer st.sock st.pool.slabSize k with
  | error e =>
      rw [raw] at answer
      cases answer
  | ok got =>
      obtain ⟨bytes, sender⟩ := got
      have fits := sock.fits _ _ _ _ raw
      rw [raw] at answer
      cases resolved : b.peerOf sender with
      | error e => simp [Backend.received, resolved] at answer
      | ok addr =>
          simp only [Backend.received, resolved, Except.ok.injEq, Prod.mk.injEq] at answer
          rw [← answer.1]
          exact fits

/-- The length recorded for a frame is the length of what landed, and fits a slab. -/
theorem Lands.recorded (lands : Lands b sock st frames mid) :
    ∀ frame ∈ frames,
      frame.slab.len = frame.landed.length ∧ frame.landed.length ≤ st.pool.slabSize := by
  induction lands with
  | nil =>
      intro frame member
      cases member
  | @cons st slab pool data peer frames mid got answer _ ih =>
      intro frame member
      have size : pool.slabSize = st.pool.slabSize := (VecPool.acquire_some got).2.2.2.2
      rcases List.mem_cons.mp member with rfl | later
      · exact ⟨rfl, RecvState.answer_fits answer⟩
      · obtain ⟨len, fits⟩ := ih frame later
        exact ⟨len, fits.trans (Nat.le_of_eq size)⟩

/-- Each landing takes one free slot. -/
theorem Lands.free_length (lands : Lands b sock st frames mid) :
    frames.length + mid.pool.free.length = st.pool.free.length := by
  have free := congrArg List.length lands.pool.2.2
  rw [List.length_append, List.length_map] at free
  exact free.symm

/-- The bytes that landed fit the slots that were free. -/
theorem Lands.landedBytes_le (lands : Lands b sock st frames mid) :
    landedBytes frames ≤ st.pool.free.length * st.pool.slabSize := by
  have fits : landedBytes frames ≤
      (frames.map fun frame => frame.landed.length).length • st.pool.slabSize := by
    apply List.sum_le_card_nsmul
    intro length member
    obtain ⟨frame, landed, rfl⟩ := List.mem_map.mp member
    exact (lands.recorded frame landed).2
  rw [List.length_map, smul_eq_mul] at fits
  have slots := lands.free_length
  exact fits.trans (Nat.mul_le_mul_right _ (by omega))

/-- Two runs of as many landings from one state are one run. -/
theorem Lands.unique {mid' : RecvState S} {frames' : List UdpFrame}
    (first : Lands b sock st frames mid) (second : Lands b sock st frames' mid')
    (count : frames.length = frames'.length) : frames = frames' ∧ mid = mid' := by
  induction first generalizing frames' with
  | nil =>
      cases second with
      | nil => exact ⟨rfl, rfl⟩
      | cons => cases count
  | cons got answer _ ih =>
      cases second with
      | nil => cases count
      | cons got' answer' rest' =>
          rw [got, Option.some.injEq, Prod.mk.injEq] at got'
          rw [answer, Except.ok.injEq, Prod.mk.injEq] at answer'
          obtain ⟨rfl, rfl⟩ := got'
          obtain ⟨rfl, rfl⟩ := answer'
          obtain ⟨rfl, rfl⟩ := ih rest' (Nat.succ.inj count)
          exact ⟨rfl, rfl⟩

end Lands

/-! ## What a call comes to -/

section Call

variable {b : Backend} {sock : UdpSock S} {max : Nat} {st mid : RecvState S}
  {frames : List UdpFrame} {exit : Exit}

@[simp] theorem Exit.leave_pool (exit : Exit) (mid : RecvState S) (n bytes : Nat) :
    (exit.leave b sock mid n bytes).2.pool = mid.pool := by
  cases exit with
  | exhausted =>
      by_cases first : n = 0 <;> simp [leave, first, RecvState.record]
  | full | drained | failed => rfl

@[simp] theorem Exit.leave_out (exit : Exit) (mid : RecvState S) (n bytes : Nat) :
    (exit.leave b sock mid n bytes).2.out = mid.out := by
  cases exit with
  | exhausted =>
      by_cases first : n = 0 <;> simp [leave, first, RecvState.record]
  | full | drained | failed => rfl

/-- Two of the exits follow a read that landed nothing. -/
theorem Exit.leave_sock (exit : Exit) (mid : RecvState S) (n bytes : Nat) :
    (exit.leave b sock mid n bytes).2.sock =
      sock.after mid.sock mid.pool.slabSize (exit.reads 0) := by
  cases exit with
  | exhausted =>
      by_cases first : n = 0 <;> simp [leave, first, RecvState.record, reads]
  | full | drained | failed => rfl

theorem CallRun.pool (run : CallRun b sock max st frames mid exit) :
    (recvBurst b sock max st).2.pool = mid.pool := by
  rw [run.call, Exit.leave_pool]

theorem CallRun.out (run : CallRun b sock max st frames mid exit) :
    (recvBurst b sock max st).2.out = frames.foldl FrameBatch.push st.out := by
  rw [run.call, Exit.leave_out, run.lands.out]

/-- A call never makes the batch reallocate. -/
theorem CallRun.capacity (run : CallRun b sock max st frames mid exit) :
    (recvBurst b sock max st).2.out.capacity = st.out.capacity := by
  rw [run.out]
  exact FrameBatch.foldl_push_capacity frames st.out (run.le_room.trans (Nat.min_le_right _ _))

/-- No run of reads that all land goes past the landings of the call. -/
theorem CallRun.le_frames {max k : Nat} {exit : Exit}
    (run : CallRun b sock max st frames mid exit)
    (reads : ∀ i < k, ∃ got, st.answer b sock i = .ok got)
    (room : k ≤ min (min max st.out.spare) st.pool.free.length) : k ≤ frames.length := by
  by_contra more
  obtain ⟨got, answer⟩ := reads frames.length (by omega)
  have here := run.lands.answer_after 0
  rw [Nat.add_zero, answer] at here
  have stops := run.stops
  cases exit with
  | full =>
      simp only [Exit.Stops] at stops
      omega
  | exhausted =>
      have free := congrArg List.length run.lands.pool.2.2
      rw [stops.2, List.append_nil, List.length_map] at free
      omega
  | drained =>
      obtain ⟨_, _, e, stopped, _⟩ := stops
      rw [here] at stopped
      cases stopped
  | failed e =>
      obtain ⟨_, _, stopped, _⟩ := stops
      rw [here] at stopped
      cases stopped

/-- The call, told from the state it started in. -/
theorem CallRun.burstRun (run : CallRun b sock max st frames mid exit) :
    BurstRun b sock (min max st.out.spare) 0 st (recvBurst b sock max st) frames exit := by
  have slots := run.lands.free_length
  have room := run.le_room
  have stops := run.stops
  have last := run.lands.answer_after 0
  rw [Nat.add_zero] at last
  constructor
  case le_room => exact room
  case le_free => omega
  case landed => exact run.lands.answer
  case reason =>
      cases exit with
      | full =>
          simp only [Exit.Stops] at stops
          simp only [Exit.Reason]
          omega
      | exhausted =>
          obtain ⟨left, empty⟩ := stops
          rw [empty, List.length_nil] at slots
          exact ⟨by omega, slots⟩
      | drained =>
          obtain ⟨left, some, answer⟩ := stops
          rw [last] at answer
          have := List.length_pos_iff.mpr some
          exact ⟨by omega, by omega, answer⟩
      | failed e =>
          obtain ⟨left, some, answer⟩ := stops
          rw [last] at answer
          have := List.length_pos_iff.mpr some
          exact ⟨by omega, by omega, answer⟩
  case result =>
      rw [run.call, Nat.zero_add]
      cases exit with
      | full | drained | failed => rfl
      | exhausted =>
          by_cases first : frames.length = 0
          · -- nothing landed, so the pool is the one the call found
            have none := List.eq_nil_of_length_eq_zero first
            subst none
            obtain rfl := (run.lands.unique .nil rfl).2
            rfl
          · simp only [Exit.leave, Exit.result, if_neg first]
  case out => exact run.out
  case sock =>
      have reads : exit.reads frames.length = frames.length + exit.reads 0 := by
        cases exit <;> rfl
      rw [run.call, Exit.leave_sock, run.lands.sock_after, reads]
  case free =>
      rw [run.pool, run.lands.pool.2.2]
      exact (List.drop_left' (List.length_map _)).symm

theorem recvBurst_spec (b : Backend) (sock : UdpSock S) (max : Nat) (st : RecvState S) :
    ∃ frames exit, BurstRun b sock (min max st.out.spare) 0 st (recvBurst b sock max st)
      frames exit := by
  obtain ⟨frames, mid, exit, run⟩ := callRun_exists b sock max st
  exact ⟨frames, exit, run.burstRun⟩

end Call

/-! ## Landings and the holders of the pool -/

section Custody

variable {b : Backend} {sock : UdpSock S} {slabCount slabSize : Nat} {st mid : RecvState S}
  {frames : List UdpFrame} {live : Multiset VecSlab}

/-- The slabs of landed frames join the live ones. -/
theorem Lands.owns (lands : Lands b sock st frames mid)
    (owns : Owns slabCount slabSize st.pool live) :
    Owns slabCount slabSize mid.pool
      ((frames.map UdpFrame.slab : Multiset VecSlab) + live) := by
  induction lands generalizing live with
  | nil => simpa using owns
  | @cons st slab pool data peer frames mid got answer _ ih =>
      have later := ih (owns.land got data)
      rw [Multiset.add_cons, ← Multiset.cons_add, Multiset.cons_coe] at later
      exact later

/-- Landings write to no slot that was out. -/
theorem Lands.asRef (lands : Lands b sock st frames mid)
    (owns : Owns slabCount slabSize st.pool live) {slab : VecSlab} (out : slab ∈ live) :
    mid.pool.asRef slab = st.pool.asRef slab := by
  induction lands generalizing live with
  | nil => rfl
  | @cons st fresh pool data peer frames mid got answer _ ih =>
      obtain ⟨_, _, _, slabs, size⟩ := VecPool.acquire_some got
      have landed := owns.land got data
      have other : slab.index ≠ (fresh.setLen data.length).index := landed.index_ne rfl out
      have apart : slab.index ≠ fresh.index := other
      have same : (pool.write fresh data).asRef slab = st.pool.asRef slab := by
        rw [VecPool.asRef_write_of_ne apart, VecPool.asRef_congr slabs size]
      rw [ih landed (Multiset.mem_cons_of_mem out)]
      exact same

/-- Every landed frame shows what landed in it. -/
theorem Lands.shown (lands : Lands b sock st frames mid)
    (owns : Owns slabCount slabSize st.pool live) :
    ∀ frame ∈ frames, frame.payload mid.pool = frame.landed := by
  induction lands generalizing live with
  | nil =>
      intro frame member
      cases member
  | @cons st slab pool data peer frames mid got answer rest ih =>
      obtain ⟨_, _, _, slabs, size⟩ := VecPool.acquire_some got
      have landed := owns.land got data
      intro frame member
      rcases List.mem_cons.mp member with rfl | later
      · -- its slot was written last by its own landing
        have out : slab.setLen data.length ∈ slab.setLen data.length ::ₘ live :=
          Multiset.mem_cons_self _ _
        have inRange : slab.index < pool.slabs.length := by
          have bound := landed.inRange out
          simpa using bound
        have fits : data.length ≤ pool.slabSize := by
          rw [size]
          exact RecvState.answer_fits answer
        rw [UdpFrame.payload, rest.asRef landed out]
        exact VecPool.asRef_write_setLen inRange fits
      · exact ih landed frame later

end Custody

end Transports.Udp
