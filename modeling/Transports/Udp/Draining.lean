import Transports.Udp.Session
import Transports.Udp.Splitting

/-!
# Draining a queue

The driver's loop: a burst into an empty batch, then every frame drained, read and
dropped, and again until `Ok(0)`. Each round lands as many datagrams as the cap,
the batch and the pool allow together, because the round before gave its slabs
back; so the queue runs out after as many rounds as that number fits in it, and
the round after that is the first to answer `Ok(0)`.
-/

namespace Transports.Udp

open Lib Transports.Core Transports.Pool

variable {S : Type}

namespace Session

/-- `recv_burst`, then every frame drained, read and dropped. -/
def reap (b : Backend) (sock : UdpSock S) (max : Nat) (s : Session S) :
    Session S × List (List UInt8 × SocketAddr) :=
  let s := s.burst b sock max
  (s.drain 0, s.recv.out.frames.map fun frame => (frame.payload s.recv.pool, frame.peer))

/-- The same `k` times; everything that was read. -/
def reaps (b : Backend) (sock : UdpSock S) (max : Nat) :
    Nat → Session S → Session S × List (List UInt8 × SocketAddr)
  | 0, s => (s, [])
  | k + 1, s =>
    let (s, first) := s.reap b sock max
    let (s, later) := s.reaps b sock max k
    (s, first ++ later)

theorem reaps_succ_fst (b : Backend) (sock : UdpSock S) (max k : Nat) (s : Session S) :
    (s.reaps b sock max (k + 1)).1 = ((s.reap b sock max).1.reaps b sock max k).1 := rfl

theorem reaps_succ_snd (b : Backend) (sock : UdpSock S) (max k : Nat) (s : Session S) :
    (s.reaps b sock max (k + 1)).2 =
      (s.reap b sock max).2 ++ ((s.reap b sock max).1.reaps b sock max k).2 := rfl

end Session

/-- Between two rounds: an undisturbed queue, an empty batch, and `held` slabs out. -/
structure Between (slabCount slabSize held spare : Nat) (s : Session KernelSock) : Prop where
  quiet : s.recv.Quiet
  empty : s.recv.out.frames = []
  spare : s.recv.out.spare = spare
  sane : ∃ others, s.Sane slabCount slabSize others ∧ (s.live others).card = held

section Rounds

variable {b : Backend} {slabCount slabSize held spare max : Nat} {s : Session KernelSock}

theorem Between.free (between : Between slabCount slabSize held spare s) :
    s.recv.pool.free.length + held = slabCount ∧ s.recv.pool.inUse = held ∧
      s.recv.pool.slabSize = slabSize := by
  obtain ⟨others, sane, rfl⟩ := between.sane
  have slots := sane.free_add_live
  have count := sane.slots
  exact ⟨slots.trans count, sane.inUse_eq, sane.size⟩

/-- One round lands what fits, reads it all and gives every slab back. -/
theorem Between.reap (between : Between slabCount slabSize held spare s)
    (room : 0 < min (min max spare) (slabCount - held)) {n : Nat}
    (count : n = min (min (min max spare) (slabCount - held)) s.recv.sock.queue.length) :
    Between slabCount slabSize held spare (s.reap b kernelSock max).1 ∧
      (s.reap b kernelSock max).1.recv.sock.queue = s.recv.sock.queue.drop n ∧
      (s.reap b kernelSock max).1.returns = s.returns ++ [.ok n] ∧
      (s.reap b kernelSock max).2 =
        (s.recv.sock.queue.take n).map (Datagram.cut slabSize) := by
  obtain ⟨free, _, size⟩ := between.free
  obtain ⟨others, sane, card⟩ := between.sane
  obtain ⟨frames, mid, call⟩ := quietCall_exists b max between.quiet
  obtain ⟨still, spare', _, _⟩ := call.left between.quiet
  obtain ⟨_, _, left, read⟩ := call.lands.queue between.quiet
  have landed : frames.length = n := by
    have slots : s.recv.pool.free.length = slabCount - held := by omega
    rw [call.count, between.spare, slots, count]
  rw [landed] at left read
  rw [size] at read
  have result : (recvBurst b kernelSock max s.recv).1 = .ok n := by
    rcases call.result with ok | ⟨_, _, none, _⟩
    · rw [← landed]
      exact ok
    · -- a slab is free between rounds
      rw [none, List.length_nil] at free
      omega
  have batch : (recvBurst b kernelSock max s.recv).2.out.frames = frames := by
    rw [call.out, call.lands.out, FrameBatch.foldl_push_frames, between.empty, List.nil_append]
  refine ⟨⟨still, rfl, ?_, others, (sane.burst max).drain 0, ?_⟩, ?_, ?_, ?_⟩
  · have fits := (recvBurst b kernelSock max s.recv).2.out.fits
    have before := between.spare
    simp only [FrameBatch.spare, batch] at spare' fits before
    show (recvBurst b kernelSock max s.recv).2.out.capacity - 0 = spare
    omega
  · have same : (s.reap b kernelSock max).1.live others = s.live others := by
      simp only [Session.live, Session.reap, Session.drain, Session.burst, FrameBatch.drain,
        List.take_zero, List.append_nil, between.empty]
    rw [← card]
    exact congrArg Multiset.card same
  · rw [← left, ← call.sock]
    rfl
  · rw [← result]
    rfl
  · show ((recvBurst b kernelSock max s.recv).2.out.frames.map _) = _
    rw [batch, ← read, show (s.burst b kernelSock max).recv.pool = mid.pool from call.pool]
    apply List.map_congr_left
    intro frame member
    rw [call.lands.shown sane frame member]

/-- Rounds on an empty queue answer `Ok(0)` and change nothing that shows. -/
theorem Between.idle (between : Between slabCount slabSize held spare s)
    (room : 0 < min (min max spare) (slabCount - held)) (none : s.recv.sock.queue = [])
    (k : Nat) :
    Between slabCount slabSize held spare (s.reaps b kernelSock max k).1 ∧
      (s.reaps b kernelSock max k).1.returns = s.returns ++ List.replicate k (.ok 0) ∧
      (s.reaps b kernelSock max k).2 = [] := by
  induction k generalizing s with
  | zero => exact ⟨between, (List.append_nil _).symm, rfl⟩
  | succ k ih =>
      obtain ⟨after, queue, returned, read⟩ := between.reap (b := b) room (n := 0)
        (by rw [none, List.length_nil, Nat.min_zero])
      rw [none, List.drop_nil] at queue
      obtain ⟨last, returns, later⟩ := ih after queue
      refine ⟨last, ?_, ?_⟩
      · rw [Session.reaps_succ_fst, returns, returned, List.append_assoc, List.replicate_succ]
        rfl
      · rw [Session.reaps_succ_snd, read, later, List.take_zero]
        rfl

/-- The number of rounds of `each` that a queue of `m` takes: `⌈m / each⌉`. -/
def roundsFor (m each : Nat) : Nat := (m + each - 1) / each

theorem roundsFor_succ {m each : Nat} (positive : 0 < each) (some : 0 < m) :
    roundsFor m each = roundsFor (m - min each m) each + 1 := by
  unfold roundsFor
  by_cases whole : each ≤ m
  · have split : m + each - 1 = m - min each m + each - 1 + each := by omega
    rw [split, Nat.add_div_right _ positive]
  · have last : m - min each m + each - 1 = each - 1 := by omega
    rw [last, Nat.div_eq_of_lt (Nat.sub_lt positive Nat.one_pos)]
    apply Nat.div_eq_of_lt_le <;> omega

/-- The queue runs out after `roundsFor` rounds, each of which lands something. -/
theorem Between.drained (between : Between slabCount slabSize held spare s)
    {each : Nat} (fit : each = min (min max spare) (slabCount - held)) (positive : 0 < each) :
    ∃ counts : List Nat, counts.length = roundsFor s.recv.sock.queue.length each ∧
      (∀ n ∈ counts, 0 < n) ∧
      Between slabCount slabSize held spare (s.reaps b kernelSock max counts.length).1 ∧
      (s.reaps b kernelSock max counts.length).1.recv.sock.queue = [] ∧
      (s.reaps b kernelSock max counts.length).1.returns = s.returns ++ counts.map .ok ∧
      (s.reaps b kernelSock max counts.length).2 =
        s.recv.sock.queue.map (Datagram.cut slabSize) := by
  induction needed : s.recv.sock.queue.length using Nat.strong_induction_on generalizing s with
  | _ m ih =>
      rcases Nat.eq_zero_or_pos m with rfl | some
      · have none := List.eq_nil_of_length_eq_zero needed
        refine ⟨[], ?_, by simp, between, none, (List.append_nil _).symm, ?_⟩
        · rw [List.length_nil, roundsFor, Nat.zero_add,
            Nat.div_eq_of_lt (Nat.sub_lt positive Nat.one_pos)]
        · rw [none]
          rfl
      · -- one round, and the rounds that what is left takes
        have room : 0 < min (min max spare) (slabCount - held) := fit ▸ positive
        obtain ⟨after, queue, returned, read⟩ := between.reap (b := b) room
          (n := min each m) (by rw [fit, needed])
        have fewer : (s.reap b kernelSock max).1.recv.sock.queue.length = m - min each m := by
          rw [queue, List.length_drop, needed]
        obtain ⟨counts, length, nonzero, last, empty, returns, later⟩ :=
          ih (m - min each m) (by omega) after fewer
        refine ⟨min each m :: counts, ?_, ?_, last, empty, ?_, ?_⟩
        · rw [List.length_cons, length, roundsFor_succ positive some]
        · intro n member
          rcases List.mem_cons.mp member with rfl | old
          · omega
          · exact nonzero n old
        · rw [List.length_cons, Session.reaps_succ_fst, returns, returned, List.append_assoc]
          rfl
        · rw [List.length_cons, Session.reaps_succ_snd, read, later, queue, ← List.map_append,
            List.take_append_drop]

end Rounds

/-- `k` rounds and `j` more are `k` rounds, then `j`. -/
theorem Session.reaps_add (b : Backend) (sock : UdpSock S) (max k j : Nat) (s : Session S) :
    (s.reaps b sock max (k + j)).1 = ((s.reaps b sock max k).1.reaps b sock max j).1 ∧
      (s.reaps b sock max (k + j)).2 =
        (s.reaps b sock max k).2 ++ ((s.reaps b sock max k).1.reaps b sock max j).2 := by
  induction k generalizing s with
  | zero =>
      rw [Nat.zero_add]
      exact ⟨rfl, rfl⟩
  | succ k ih =>
      obtain ⟨state, read⟩ := ih (s.reap b sock max).1
      rw [Nat.add_right_comm, reaps_succ_fst, reaps_succ_snd, reaps_succ_fst, reaps_succ_snd,
        List.append_assoc, ← read]
      exact ⟨state, rfl⟩

/-- **The drain loop.** For every finite queue that nothing disturbs, `max ≥ 1`, empty
batch with spare capacity and pool with fewer slabs held elsewhere than it has:
the loop lands something in each of the first `⌈m / each⌉` calls, answers `Ok(0)` in
the next and every later one, has by then read every datagram in order of arrival,
and leaves exactly the slabs out that others hold. -/
theorem drain_loop (b : Backend) {slabCount slabSize max : Nat} {others : Multiset VecSlab}
    {s : Session KernelSock} (quiet : s.recv.Quiet) (empty : s.recv.out.frames = [])
    (sane : s.Sane slabCount slabSize others) (asked : 0 < max) (room : 0 < s.recv.out.spare)
    (free : (s.live others).card < slabCount) :
    let each := min (min max s.recv.out.spare) (slabCount - (s.live others).card)
    ∃ counts : List Nat, counts.length = roundsFor s.recv.sock.queue.length each ∧
      (∀ n ∈ counts, 0 < n) ∧
      ∀ k, let run := s.reaps b kernelSock max (counts.length + k)
        run.1.returns = s.returns ++ counts.map .ok ++ List.replicate k (.ok 0) ∧
        run.2 = s.recv.sock.queue.map (Datagram.cut slabSize) ∧
        run.1.recv.pool.inUse = (s.live others).card := by
  intro each
  have between : Between slabCount slabSize (s.live others).card s.recv.out.spare s :=
    ⟨quiet, empty, rfl, others, sane, rfl⟩
  have positive : 0 < each := by omega
  obtain ⟨counts, length, nonzero, after, none, returns, read⟩ :=
    between.drained (b := b) rfl positive
  refine ⟨counts, length, nonzero, ?_⟩
  intro k
  obtain ⟨last, idle, nothing⟩ := after.idle (b := b) positive none k
  obtain ⟨state, all⟩ := Session.reaps_add b kernelSock max counts.length k s
  refine ⟨?_, ?_, ?_⟩
  · rw [state, idle, returns]
  · rw [all, read, nothing, List.append_nil]
  · rw [state]
    exact last.free.2.1

/-- Three datagrams through one slot take three rounds, and the fourth finds nothing. -/
theorem drain_loop_threeQueued :
    ∃ counts : List Nat, counts.length = 3 ∧
      (threeQueued.reaps .mio kernelSock 64 (counts.length + 1)).1.returns =
        counts.map .ok ++ [.ok 0] := by
  have quiet : threeQueued.recv.Quiet := rfl
  have sane : threeQueued.Sane 1 4 0 := Owned.new rfl
  have held : (threeQueued.live 0).card = 0 := rfl
  have asked : 0 < 64 := by decide
  obtain ⟨counts, length, _, runs⟩ :=
    drain_loop .mio quiet rfl sane asked (by decide) (by rw [held]; decide)
  rw [held] at length
  exact ⟨counts, length, (runs 1).1⟩

end Transports.Udp
