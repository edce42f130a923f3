import Transports.Udp.Contract
import Transports.Udp.Session

/-!
# Two backends, one contract

The tokio and the mio loop read the socket through different calls, resolve the
sender differently and count bytes in different types. On sockets whose senders
are IP addresses none of it shows: call by call, and over every sequence of
calls, drains and drops, the two leave states that agree in all but the label
their bursts are recorded under.
-/

namespace Transports.Udp

open Lib Transports.Core Transports.Pool

variable {S : Type}

/-- Every datagram comes from an IP address. -/
def UdpSock.IpOnly (sock : UdpSock S) : Prop :=
  ∀ s len data sender, (sock.recvFrom s len).1 = .ok (data, sender) →
    ∃ addr, sender = .inet addr

theorem UdpSock.IpOnly.logged {sock : UdpSock S} (ip : sock.IpOnly) : sock.logged.IpOnly :=
  fun s len data sender answer => ip s.1 len data sender answer

/-- The amounts recorded, under their names and without the label. -/
def amounts (metrics : Telemetry) : Bool × List (String × Nat) :=
  (metrics.enabled, metrics.increments.map fun increment => (increment.name, increment.amount))

/-- Two transports that differ at most in the labels of their increments. -/
structure Agree (st st' : RecvState S) : Prop where
  sock : st'.sock = st.sock
  pool : st'.pool = st.pool
  lastPeer : st'.lastPeer = st.lastPeer
  out : st'.out = st.out
  recorded : amounts st'.metrics = amounts st.metrics

/-- Bursts of the same size, whatever the label, are recorded in the same amounts. -/
theorem amounts_record {metrics metrics' : Telemetry}
    (same : amounts metrics' = amounts metrics) (label label' : String) (packets bytes : Nat) :
    amounts (metrics'.recordRecvBurst label' packets bytes) =
      amounts (metrics.recordRecvBurst label packets bytes) := by
  obtain ⟨gate, increments⟩ := Prod.mk.inj same
  unfold Telemetry.recordRecvBurst
  rw [gate]
  split
  · simp only [amounts, List.map_append, increments, List.map_cons, List.map_nil]
  · exact same

section Call

variable {sock : UdpSock S} {b : Backend} {st mid : RecvState S} {frames : List UdpFrame}
  {exit : Exit}

/-- With an IP sender the two loops match on the same answer. -/
theorem RecvState.answer_backend (ip : sock.IpOnly) (b' : Backend) (st : RecvState S) (k : Nat) :
    st.answer b' sock k = st.answer b sock k := by
  unfold RecvState.answer
  cases raw : sock.answer st.sock st.pool.slabSize k with
  | error e => rfl
  | ok got =>
      obtain ⟨data, sender⟩ := got
      obtain ⟨addr, rfl⟩ := ip _ _ _ _ raw
      rw [Backend.received_inet, Backend.received_inet]

/-- So the landings of one are landings of the other. -/
theorem Lands.backend (ip : sock.IpOnly) (b' : Backend) (lands : Lands b sock st frames mid) :
    Lands b' sock st frames mid := by
  induction lands with
  | nil => exact .nil
  | cons got answer _ ih => exact .cons got ((RecvState.answer_backend ip b' _ 0).trans answer) ih

theorem Exit.Stops.backend {room : Nat} (ip : sock.IpOnly) (b' : Backend)
    (stops : exit.Stops b sock mid room) : exit.Stops b' sock mid room := by
  have same := RecvState.answer_backend (b := b) ip b' mid 0
  cases exit with
  | full | exhausted => exact stops
  | drained | failed =>
      unfold Stops at stops ⊢
      rw [same]
      exact stops

/-- Where the exits leave states that agreed before. -/
theorem Agree.leave {mid' : RecvState S} (agree : Agree mid mid') (b b' : Backend)
    (exit : Exit) (n bytes : Nat) :
    (exit.leave b' sock mid' n bytes).1 = (exit.leave b sock mid n bytes).1 ∧
      Agree (exit.leave b sock mid n bytes).2 (exit.leave b' sock mid' n bytes).2 := by
  obtain ⟨socks, pool, lastPeer, out, recorded⟩ := agree
  have burst := amounts_record recorded b.label b'.label n bytes
  have next : mid'.next sock = mid.next sock := by
    simp only [RecvState.next, socks, pool]
  cases exit with
  | full => exact ⟨rfl, socks, pool, lastPeer, out, burst⟩
  | exhausted =>
      unfold Exit.leave
      by_cases first : n = 0
      · rw [if_pos first, if_pos first]
        exact ⟨by rw [pool], socks, pool, lastPeer, out, recorded⟩
      · rw [if_neg first, if_neg first]
        exact ⟨rfl, socks, pool, lastPeer, out, burst⟩
  | drained => exact ⟨rfl, next, pool, lastPeer, out, burst⟩
  | failed e => exact ⟨rfl, next, pool, lastPeer, out, recorded⟩

/-- One call of each backend, on states that agree. -/
theorem Agree.recvBurst (ip : sock.IpOnly) (b b' : Backend) (max : Nat) {st' : RecvState S}
    (agree : Agree st st') :
    (recvBurst b' sock max st').1 = (recvBurst b sock max st).1 ∧
      Agree (recvBurst b sock max st).2 (recvBurst b' sock max st').2 := by
  obtain ⟨socks, pool, lastPeer, out, recorded⟩ := agree
  obtain ⟨frames, mid, exit, run⟩ := callRun_exists b sock max st
  have state : st' = { st with metrics := st'.metrics } := by
    cases st'
    simp_all
  -- the landings of the one call, made by the other backend with its own counters
  have lands := (run.lands.backend ip b').withMetrics st'.metrics
  rw [← state] at lands
  have room : frames.length ≤ min max st'.out.spare := by
    rw [out]
    exact run.le_room
  have stops : exit.Stops b' sock { mid with metrics := st'.metrics }
      (min max st'.out.spare - frames.length) := by
    rw [out]
    have same := run.stops.backend ip b'
    cases exit <;> exact same
  have other := callRun_of_lands lands room stops
  have bytes : b'.accumulateAll 0 frames = b.accumulateAll 0 frames := by
    rw [show (0 : Nat) = 0 % 2 ^ 64 from rfl, b'.accumulateAll_eq, b.accumulateAll_eq]
  have landed : Agree mid { mid with metrics := st'.metrics } :=
    ⟨rfl, rfl, rfl, rfl, by rw [run.lands.metrics]; exact recorded⟩
  rw [run.call, other.call, bytes]
  exact landed.leave b b' exit _ _

end Call

/-! ## Whole sessions -/

/-- Sessions that took the same course. -/
structure Session.Agree (s s' : Session S) : Prop where
  recv : Udp.Agree s.recv s'.recv
  frames : s'.frames = s.frames
  returns : s'.returns = s.returns

theorem session_lockstep {sock : UdpSock S} (ip : sock.IpOnly) (b b' : Backend)
    (start start' : Session S) :
    System.Lockstep (session b sock start) (session b' sock start') Session.Agree := by
  intro s s' e agree
  obtain ⟨recv, frames, returns⟩ := agree
  cases e with
  | burst max =>
      obtain ⟨result, state⟩ := recv.recvBurst ip b b' max
      refine .some ⟨state, frames, ?_⟩
      simp only [Session.burst, returns, result]
  | drain keep =>
      refine .some ⟨⟨recv.sock, ?_, recv.lastPeer, ?_, recv.recorded⟩, ?_, returns⟩
      · simp only [Session.drain, recv.pool, recv.out]
      · simp only [Session.drain, recv.out]
      · simp only [Session.drain, recv.out, frames]
  | drop k =>
      show Option.Rel _ ((pick s.frames k).map _) ((pick s'.frames k).map _)
      rw [frames]
      cases pick s.frames k with
      | none => exact .none
      | some picked =>
          refine .some ⟨⟨recv.sock, ?_, recv.lastPeer, recv.out, recv.recorded⟩, rfl, returns⟩
          simp only [recv.pool]

/-- **One contract.** From the same state, over any socket of IP senders: one call
of either backend returns the same, leaves states that agree and read the socket
as often; and any sequence of bursts, drains and drops goes through on both or on
neither, to sessions that agree. -/
theorem backends_agree (sock : UdpSock S) (ip : sock.IpOnly) :
    (∀ max st,
      (Mio.recvBurst sock max st).1 = (Tokio.recvBurst sock max st).1 ∧
      Agree (Tokio.recvBurst sock max st).2 (Mio.recvBurst sock max st).2 ∧
      answers .mio sock max st = answers .tokio sock max st) ∧
    ∀ start events,
      Option.Rel Session.Agree ((session .tokio sock start).runFrom start events)
        ((session .mio sock start).runFrom start events) := by
  refine ⟨?_, ?_⟩
  · intro max st
    have same : Agree st st := ⟨rfl, rfl, rfl, rfl, rfl⟩
    have logged : Agree st.logged st.logged := ⟨rfl, rfl, rfl, rfl, rfl⟩
    obtain ⟨result, state⟩ := same.recvBurst ip .tokio .mio max
    refine ⟨result, state, ?_⟩
    have reads := (logged.recvBurst ip.logged .tokio .mio max).2.sock
    rw [answers, answers, reads]
  · intro start events
    have same : Session.Agree start start := ⟨⟨rfl, rfl, rfl, rfl, rfl⟩, rfl, rfl⟩
    exact (session_lockstep ip .tokio .mio start start).run same events

/-- The kernel's datagrams have IP senders. -/
theorem kernelSock_ipOnly : kernelSock.IpOnly := by
  intro s len data sender answer
  cases fault : s.faults.head?.join with
  | some e => simp [kernelSock, fault, kernelRecv] at answer
  | none =>
      cases queue : s.queue with
      | nil => simp [kernelSock, fault, queue, kernelRecv] at answer
      | cons d rest =>
          simp only [kernelSock, fault, queue, kernelRecv, Except.ok.injEq, Prod.mk.injEq]
            at answer
          exact ⟨d.sender, answer.2.symm⟩

theorem backends_agree_recycled :
    kernelSock.IpOnly ∧
      Option.Rel Session.Agree
        ((session .tokio kernelSock threeQueued).runFrom threeQueued
          [.burst 2, .drain 1, .burst 2, .drop 0])
        ((session .mio kernelSock threeQueued).runFrom threeQueued
          [.burst 2, .drain 1, .burst 2, .drop 0]) :=
  ⟨kernelSock_ipOnly, (backends_agree kernelSock kernelSock_ipOnly).2 threeQueued _⟩

end Transports.Udp
