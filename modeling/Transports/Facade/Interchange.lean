import Transports.Facade.Sends
import Transports.Udp.Backends

/-!
# One enum for the other

A program written over the transport enum runs alike on both backends: event by event, from
nodes that agree, the two are answered the same up to the name an `Unsupported` carries, and
end in nodes that agree. Only the sends of a stream are each backend's own, and there the
two accept the same bytes as long as mio's poller answers.
-/

namespace Transports.Facade

open Lib Transports.Core Transports.Pool Transports.Udp
open Transports.Readiness.Mio (Outcome TcpTransport WriteAnswer PollAnswer sendLoop sendLoop_nil
  sendLoop_done sendLoop_zero sendLoop_wrote sendLoop_stalled sendLoop_failed writeZero
  take_accepted)

/-! ## The same course -/

/-- The error without the name of the transport. -/
def unnamed : TransportError → TransportError
  | .unsupported _ reason => .unsupported "" reason
  | e => e

def unnamedOutcome {α : Type} : Outcome α → Outcome α
  | .returned answer => .returned (answer.mapError unnamed)
  | other => other

/-- What the two backends' replies have in common: all but the name, and all but what a
`send` on a stream comes to. -/
def Reply.common (shape : Shape) : Reply → Option Reply
  | .burst answer => some (.burst (answer.mapError unnamed))
  | .landing dst answer buf => some (.landing dst (answer.mapError unnamed) buf)
  | .joined answer => some (.joined (answer.mapError unnamed))
  | .sent d outcome =>
    if shape = .stream ∧ d.dest = none then none else some (.sent d (unnamedOutcome outcome))

/-- The same variant in states that agree, and the same batch. -/
inductive SameTransport (n n' : Node) : Prop
  | udp {u u'} (here : n.transport = .udp u) (there : n'.transport = .udp u')
      (agree : Agree (u.lend n.batch) (u'.lend n'.batch))
  | tcp {u stream} (here : n.transport = .tcp u stream) (there : n'.transport = .tcp u stream)
      (batch : n'.batch = n.batch)

/-- Nodes of the two backends that took the same course. -/
structure Alike (n n' : Node) : Prop where
  transport : SameTransport n n'
  frames : n'.frames = n.frames
  joined : n'.joined = n.joined
  datagrams : n'.out.datagrams = n.out.datagrams
  replies : n'.log.filterMap (Reply.common n.transport.shape) =
    n.log.filterMap (Reply.common n.transport.shape)

theorem common_append {shape : Shape} {log log' : List Reply} {r r' : Reply}
    (before : log'.filterMap (Reply.common shape) = log.filterMap (Reply.common shape))
    (last : r'.common shape = r.common shape) :
    (log' ++ [r']).filterMap (Reply.common shape) =
      (log ++ [r]).filterMap (Reply.common shape) := by
  rw [List.filterMap_append, List.filterMap_append, before]
  simp only [List.filterMap_cons, last, List.filterMap_nil]

/-- The batch and the frames, once a session is put back. -/
theorem agree_keep {st st' : RecvState KernelSock} (agree : Agree st st') :
    Agree ((UdpTransport.keep st).lend st.out) ((UdpTransport.keep st').lend st'.out) :=
  ⟨agree.sock, agree.pool, agree.lastPeer, agree.out, agree.recorded⟩

/-- One datagram of each backend. -/
theorem sendDatagram_alike (b b' : Backend) (d : Outgoing) (answers : SendAnswers)
    {wire wire' : List Outgoing} (same : wire' = wire) :
    (sendDatagram b' d answers wire').2 = (sendDatagram b d answers wire).2 ∧
      (sendDatagram b' d answers wire').1 = (sendDatagram b d answers wire).1 := by
  rw [sendDatagram_eq, sendDatagram_eq, same]
  exact ⟨rfl, rfl⟩

section Steps

variable {b b' : Backend} {n n' : Node} {u u' : UdpTransport}

theorem alike_udp (b b' : Backend) (alike : Alike n n') (here : n.transport = .udp u)
    (there : n'.transport = .udp u') (agree : Agree (u.lend n.batch) (u'.lend n'.batch))
    (e : Event) : Option.Rel Alike (n.step b e) (n'.step b' e) := by
  obtain ⟨transport, batch, frames, joined, out, log⟩ := n
  obtain ⟨transport', batch', frames', joined', out', log'⟩ := n'
  obtain rfl : transport = .udp u := here
  obtain rfl : transport' = .udp u' := there
  obtain ⟨_, rfl, rfl, datagrams, replies⟩ := alike
  cases e with
  | recvBurst max =>
      obtain ⟨answer, after⟩ := agree.recvBurst kernelSock_ipOnly b b' max
      refine .some ⟨.udp rfl rfl (agree_keep after), rfl, rfl, datagrams, ?_⟩
      exact common_append replies (congrArg
        (fun a : Except TransportError Nat => some (Reply.burst (a.mapError unnamed))) answer)
  | recvInto fault dst =>
      exact .some ⟨.udp rfl rfl agree, rfl, rfl, datagrams, common_append replies rfl⟩
  | joinMulticast group interface kernel =>
      exact .some ⟨.udp rfl rfl agree, rfl, rfl, datagrams, common_append replies rfl⟩
  | send buf answers =>
      obtain ⟨wire, outcome⟩ := sendDatagram_alike b b' ⟨buf, none⟩ answers datagrams
      refine .some ⟨.udp rfl rfl agree, rfl, rfl, wire, ?_⟩
      exact common_append replies (congrArg
        (fun o => some (Reply.sent ⟨buf, none⟩ (unnamedOutcome (void o)))) outcome)
  | sendTo buf addr answers =>
      obtain ⟨wire, outcome⟩ := sendDatagram_alike b b' ⟨buf, some addr⟩ answers datagrams
      refine .some ⟨.udp rfl rfl agree, rfl, rfl, wire, ?_⟩
      exact common_append replies (congrArg
        (fun o => some (Reply.sent ⟨buf, some addr⟩ (unnamedOutcome (void o)))) outcome)
  | drain keep =>
      have drained := session_lockstep kernelSock_ipOnly b b' ⟨u.lend batch, frames', []⟩
        ⟨u'.lend batch', frames', []⟩ ⟨u.lend batch, frames', []⟩ ⟨u'.lend batch', frames', []⟩
        (.drain keep) ⟨agree, rfl, rfl⟩
      cases drained with
      | some after =>
          exact .some ⟨.udp rfl rfl (agree_keep after.recv), after.frames, rfl, datagrams, replies⟩
  | drop frame =>
      have dropped := session_lockstep kernelSock_ipOnly b b' ⟨u.lend batch, frames', []⟩
        ⟨u'.lend batch', frames', []⟩ ⟨u.lend batch, frames', []⟩ ⟨u'.lend batch', frames', []⟩
        (.drop frame) ⟨agree, rfl, rfl⟩
      show Option.Rel Alike
        (((session b kernelSock ⟨u.lend batch, frames', []⟩).step ⟨u.lend batch, frames', []⟩
          (.drop frame)).map _)
        (((session b' kernelSock ⟨u'.lend batch', frames', []⟩).step ⟨u'.lend batch', frames', []⟩
          (.drop frame)).map _)
      generalize (session b kernelSock _).step _ _ = first at dropped ⊢
      generalize (session b' kernelSock _).step _ _ = second at dropped ⊢
      cases dropped with
      | none => exact .none
      | some after =>
          exact .some ⟨.udp rfl rfl (agree_keep after.recv), after.frames, rfl, datagrams, replies⟩
  | arrive d =>
      refine .some ⟨.udp rfl rfl ⟨?_, agree.pool, agree.lastPeer, agree.out, agree.recorded⟩, rfl,
        rfl, datagrams, replies⟩
      show (⟨u'.sock.faults, u'.sock.queue ++ [d]⟩ : KernelSock) =
        ⟨u.sock.faults, u.sock.queue ++ [d]⟩
      rw [show u'.sock = u.sock from agree.sock]
  | write | close => exact .none

theorem alike_tcp (b b' : Backend) {v : TcpTransport} {stream : Tcp.StreamSock}
    (alike : Alike n n') (here : n.transport = .tcp v stream)
    (there : n'.transport = .tcp v stream) (same : n'.batch = n.batch) (e : Event) :
    Option.Rel Alike (n.step b e) (n'.step b' e) := by
  obtain ⟨transport, batch, frames, joined, out, log⟩ := n
  obtain ⟨transport', batch', frames', joined', out', log'⟩ := n'
  obtain rfl : transport = .tcp v stream := here
  obtain rfl : transport' = .tcp v stream := there
  obtain rfl : batch' = batch := same
  obtain ⟨_, rfl, rfl, datagrams, replies⟩ := alike
  cases e with
  | recvBurst max =>
      exact .some ⟨.tcp rfl rfl rfl, rfl, rfl, datagrams, common_append replies rfl⟩
  | recvInto fault dst =>
      simp only [Node.step, Transport.recvInto, Tcp.backendRecvInto_eq]
      exact .some ⟨.tcp rfl rfl rfl, rfl, rfl, datagrams, common_append replies rfl⟩
  | joinMulticast group interface kernel =>
      exact .some ⟨.tcp rfl rfl rfl, rfl, rfl, datagrams, common_append replies rfl⟩
  | send buf answers =>
      exact .some ⟨.tcp rfl rfl rfl, rfl, rfl, datagrams, common_append replies rfl⟩
  | sendTo buf addr answers =>
      exact .some ⟨.tcp rfl rfl rfl, rfl, rfl, datagrams, common_append replies rfl⟩
  | drain | drop | arrive => exact .none
  | write data =>
      by_cases closed : stream.closed = true
      · simp only [Node.step, closed, if_true]
        exact .none
      · simp only [Node.step, closed]
        exact .some ⟨.tcp rfl rfl rfl, rfl, rfl, datagrams, replies⟩
  | close => exact .some ⟨.tcp rfl rfl rfl, rfl, rfl, datagrams, replies⟩

theorem nodes_lockstep (b b' : Backend) (start start' : Node) :
    System.Lockstep (node b start) (node b' start') Alike := by
  intro n n' e alike
  cases alike.transport with
  | udp here there agree => exact alike_udp b b' alike here there agree e
  | tcp here there batch => exact alike_tcp b b' alike here there batch e

end Steps

/-! ## Sends of a stream -/

/-- Every poll answers, and there is one for each write that would block. -/
def Calm (answers : SendAnswers) : Prop :=
  (∀ poll ∈ answers.polls, ∃ events, poll = .ok events) ∧
    answers.writes.countP (fun write => !decisive write) ≤ answers.polls.length

/-- The same bytes accepted, and the same outcome but for the text of `WriteZero`. -/
def SameSend (tokio mio : Outcome Unit × List UInt8) : Prop :=
  mio.2 = tokio.2 ∧ (mio.1 = tokio.1 ∨
    mio.1 = .returned (.error (.io writeZero)) ∧
      tokio.1 = .returned (.error (.io ⟨.writeZero, "write zero"⟩)))

/-- What is left once a write was accepted. -/
theorem drop_accepted (buf : List UInt8) (off room : Nat) :
    (buf.drop off).drop room = buf.drop (off + min room (buf.length - off)) := by
  rw [List.drop_drop]
  rcases Nat.le_total room (buf.length - off) with fits | past
  · rw [Nat.min_eq_left fits]
  · rw [Nat.min_eq_right past, List.drop_eq_nil_of_le (by omega), List.drop_eq_nil_of_le (by omega)]

theorem sameSend_loop (buf : List UInt8) (writes : List WriteAnswer) (polls : List PollAnswer)
    (answer : ∀ poll ∈ polls, ∃ events, poll = .ok events)
    (enough : writes.countP (fun write => !decisive write) ≤ polls.length) {off : Nat}
    (bound : off ≤ buf.length) :
    SameSend (writeAll (buf.drop off) writes (buf.take off))
      (sendLoop buf writes polls off (buf.take off)) := by
  induction writes generalizing polls off with
  | nil =>
      by_cases more : off < buf.length
      · have left : buf.drop off ≠ [] := by
          intro none
          have short := List.drop_eq_nil_iff.mp none
          omega
        rw [sendLoop_nil more]
        unfold writeAll
        rw [if_neg left]
        exact ⟨rfl, .inl rfl⟩
      · have none : buf.drop off = [] := List.drop_eq_nil_iff.mpr (by omega)
        rw [sendLoop_done more]
        unfold writeAll
        rw [if_pos none]
        exact ⟨rfl, .inl rfl⟩
  | cons write writes ih =>
      by_cases more : off < buf.length
      · have left : buf.drop off ≠ [] := by
          intro none
          have short := List.drop_eq_nil_iff.mp none
          omega
        unfold writeAll
        rw [if_neg left]
        cases write with
        | ok room =>
            have counted : writes.countP (fun write => !decisive write) ≤ polls.length := by
              simpa [List.countP_cons, decisive] using enough
            rcases Nat.eq_zero_or_pos room with rfl | some
            · rw [sendLoop_zero more]
              exact ⟨rfl, .inr ⟨rfl, rfl⟩⟩
            · have next : off + min room (buf.length - off) ≤ buf.length := by omega
              have later := ih polls answer counted next
              have grown := take_accepted buf off room
              have rest := drop_accepted buf off room
              have positive : room ≠ 0 := Nat.ne_of_gt some
              rw [sendLoop_wrote more some, grown]
              simp only [positive, if_false]
              rw [grown, rest]
              exact later
        | error e =>
            by_cases kind : e.kind = .wouldBlock
            · rw [sendLoop_stalled more kind]
              cases polls with
              | nil =>
                  simp [decisive, kind] at enough
              | cons poll polls =>
                  obtain ⟨⟨events, rfl⟩, others⟩ := List.forall_mem_cons.mp answer
                  have counted : writes.countP (fun write => !decisive write) ≤ polls.length := by
                    simpa [List.countP_cons, decisive, kind] using enough
                  simp only [kind, if_true]
                  exact ih polls others counted bound
            · rw [sendLoop_failed more kind]
              simp only [kind, if_false]
              exact ⟨rfl, .inl rfl⟩
      · have none : buf.drop off = [] := List.drop_eq_nil_iff.mpr (by omega)
        rw [sendLoop_done more]
        unfold writeAll
        rw [if_pos none]
        exact ⟨rfl, .inl rfl⟩

/-- **One enum for the other.** From nodes that agree, every list of calls and arrivals goes
through on both backends or on neither, to nodes that agree: the same batch, frames, groups
and datagrams on the wire, and the same replies but for the name in an `Unsupported` and
what a `send` on a stream comes to. Such a send is accepted to the same byte on the same
write answers, and comes to the same but for the text of a `WriteZero`, as long as mio's
polls answer. -/
theorem backends_interchangeable {n n' : Node} (alike : Alike n n') (events : List Event) :
    Option.Rel Alike ((node .tokio n).runFrom n events) ((node .mio n').runFrom n' events) ∧
      ∀ buf answers, Calm answers →
        SameSend (sendStream .tokio buf answers) (sendStream .mio buf answers) := by
  refine ⟨(nodes_lockstep .tokio .mio n n').run alike events, ?_⟩
  intro buf answers calm
  exact sameSend_loop buf answers.writes answers.polls calm.1 calm.2 (Nat.zero_le _)

theorem backends_interchangeable_both :
    Option.Rel Alike ((node .tokio oneWaiting).runFrom oneWaiting bothShapes)
      ((node .mio oneWaiting).runFrom oneWaiting bothShapes) := by
  have alike : Alike oneWaiting oneWaiting :=
    ⟨.udp rfl rfl ⟨rfl, rfl, rfl, rfl, rfl⟩, rfl, rfl, rfl, rfl⟩
  exact (backends_interchangeable alike bothShapes).1

end Transports.Facade
