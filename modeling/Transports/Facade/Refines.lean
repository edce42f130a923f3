import Transports.Facade.Transport
import Transports.Udp.Bind

/-!
# Below the enum

A node of the datagram variant is a driver's session on a bound socket, one of the stream
variant a connection; each is seen through the events of its shape. From `bind_udp` and
`connect_tcp` on, the pool's `in_use` is the number of frames in the caller's hands, and a
stream transport never draws a slab.
-/

namespace Transports.Facade

open Lib Transports.Core Transports.Pool Transports.Udp Transports.Sockets
open Transports.Readiness.Mio (Outcome TcpTransport)
open Transports.Tcp (RingConfig Dial connectTcp)

/-! ## What is seen of a node -/

/-- What a bound socket is used for, and what reaches it. -/
inductive DatagramEvent
  | session (e : SessionEvent)
  | arrive (d : Datagram)

/-- A driver's session on a bound socket. -/
def datagrams (b : Backend) (start : Session KernelSock) :
    System (Session KernelSock) DatagramEvent where
  init s := s = start
  step s
    | .session e => s.step b kernelSock e
    | .arrive d =>
      some { s with
        recv := { s.recv with sock := { s.recv.sock with queue := s.recv.sock.queue ++ [d] } } }

def Event.asDatagram : Event → Option DatagramEvent
  | .recvBurst max => some (.session (.burst max))
  | .drain keep => some (.session (.drain keep))
  | .drop frame => some (.session (.drop frame))
  | .arrive d => some (.arrive d)
  | _ => none

def Event.asStream : Event → Option Tcp.Action
  | .recvInto fault dst => some (.recvInto fault dst)
  | .write data => some (.write data)
  | .close => some .close
  | _ => none

/-- The answer of a `recv_burst`. -/
def Reply.reaped : Reply → Option (Except TransportError Nat)
  | .burst answer => some answer
  | _ => none

/-- The destination, the answer and the buffer left of a `recv_into`. -/
def Reply.landed : Reply → Option (Tcp.Buffer × Except TransportError Nat × Tcp.Buffer)
  | .landing dst answer buf => some (dst, answer, buf)
  | _ => none

/-- A call as its reply shows it. -/
def shown (c : Tcp.Call) : Tcp.Buffer × Except TransportError Nat × Tcp.Buffer :=
  (c.dst, c.result, c.buf)

/-- A node of the datagram variant, and the session it is. -/
structure AsSession (start n : Node) (s : Session KernelSock) : Prop where
  transport : n.transport = .udp (UdpTransport.keep s.recv)
  batch : n.batch = s.recv.out
  frames : n.frames = s.frames
  replies : ∃ replies, n.log = start.log ++ replies ∧ s.returns = replies.filterMap Reply.reaped

/-- A node of the stream variant, and the connection it is. -/
structure AsConn (start n : Node) (u : TcpTransport) (c : Tcp.Conn) : Prop where
  transport : n.transport = .tcp u c.sock
  batch : n.batch = start.batch
  frames : n.frames = start.frames
  replies : ∃ replies, n.log = start.log ++ replies ∧
    c.calls.map shown = replies.filterMap Reply.landed

section Steps

variable {b : Backend} {start n t : Node} {e : Event} {s : Session KernelSock} {u : TcpTransport}
  {c : Tcp.Conn}

/-- A reply that is no burst's, and nothing of the session moved. -/
theorem AsSession.quiet {reply : Reply} (before : AsSession start n s)
    (transport : t.transport = n.transport) (batch : t.batch = n.batch)
    (frames : t.frames = n.frames) (log : t.log = n.log ++ [reply]) (other : reply.reaped = none) :
    AsSession start t s := by
  obtain ⟨udp, out, held, replies, logged, returns⟩ := before
  refine ⟨transport.trans udp, batch.trans out, frames.trans held, replies ++ [reply], ?_, ?_⟩
  · rw [log, logged, List.append_assoc]
  · rw [List.filterMap_append, returns]
    simp [other]

theorem AsConn.quiet {reply : Reply} (before : AsConn start n u c)
    (transport : t.transport = n.transport) (batch : t.batch = n.batch)
    (frames : t.frames = n.frames) (log : t.log = n.log ++ [reply]) (other : reply.landed = none) :
    AsConn start t u c := by
  obtain ⟨tcp, out, held, replies, logged, calls⟩ := before
  refine ⟨transport.trans tcp, batch.trans out, frames.trans held, replies ++ [reply], ?_, ?_⟩
  · rw [log, logged, List.append_assoc]
  · rw [List.filterMap_append, calls]
    simp [other]

theorem asDatagram_of_wrong (wrong : e.fits .datagram = false) : e.asDatagram = none := by
  cases e <;> first | rfl | cases wrong

theorem asStream_of_wrong (wrong : e.fits .stream = false) : e.asStream = none := by
  cases e <;> first | rfl | cases wrong

/-- The session behind a node, but for what its calls returned. -/
theorem AsSession.session {v : UdpTransport} (as : AsSession start n s)
    (udp : n.transport = .udp v) : n.session v = { s with returns := [] } := by
  have same : v = UdpTransport.keep s.recv := Transport.udp.inj (udp.symm.trans as.transport)
  rw [Node.session, same, as.batch, as.frames]
  rfl

theorem AsSession.not_tcp {v : TcpTransport} {stream : Tcp.StreamSock} (as : AsSession start n s)
    (tcp : n.transport = .tcp v stream) : False := by
  have both := tcp.symm.trans as.transport
  cases both

theorem asSession_step {first : Session KernelSock} (before : AsSession start n s)
    (h : Step b n e t) :
    ∃ v, (datagrams b first).runFrom s e.asDatagram.toList = some v ∧ AsSession start t v := by
  cases h with
  | refused wrong refusal =>
      rw [before.transport] at wrong refusal
      refine ⟨s, ?_, before.quiet rfl rfl rfl rfl ?_⟩
      · rw [asDatagram_of_wrong wrong]
        rfl
      · cases refusal
        rfl
  | @burst u max here =>
      have lent : u.lend n.batch = s.recv := congrArg Session.recv (before.session here)
      obtain ⟨replies, logged, returns⟩ := before.replies
      rw [lent]
      refine ⟨s.burst b kernelSock max, rfl, rfl, rfl, before.frames,
        replies ++ [.burst (Udp.recvBurst b kernelSock max s.recv).1], ?_, ?_⟩
      · show n.log ++ _ = _
        rw [logged, List.append_assoc]
      · rw [List.filterMap_append, ← returns]
        rfl
  | join group interface kernel here => exact ⟨s, rfl, before.quiet rfl rfl rfl rfl rfl⟩
  | datagram here call =>
      refine ⟨s, ?_, before.quiet rfl rfl rfl rfl rfl⟩
      rcases call with ⟨rfl, _⟩ | ⟨addr, rfl, _⟩ <;> rfl
  | drain keep here =>
      rw [before.session here]
      exact ⟨s.drain keep, rfl, rfl, rfl, rfl, before.replies⟩
  | drop here dropped =>
      rw [before.session here] at dropped
      obtain ⟨⟨frame, rest⟩, picked, rfl⟩ := Option.map_eq_some_iff.mp dropped
      refine ⟨_, System.runFrom_one (Option.map_eq_some_iff.mpr ⟨(frame, rest), picked, rfl⟩),
        rfl, rfl, rfl, before.replies⟩
  | arrive d here =>
      have same := Transport.udp.inj (here.symm.trans before.transport)
      rw [same]
      exact ⟨_, rfl, rfl, before.batch, before.frames, before.replies⟩
  | landing _ _ here | stream _ _ here | write _ here | close here =>
      exact (before.not_tcp here).elim

theorem AsConn.stream_eq {v : TcpTransport} {stream : Tcp.StreamSock} (as : AsConn start n u c)
    (tcp : n.transport = .tcp v stream) : v = u ∧ stream = c.sock :=
  Transport.tcp.inj (tcp.symm.trans as.transport)

theorem AsConn.not_udp {v : UdpTransport} (as : AsConn start n u c)
    (udp : n.transport = .udp v) : False := by
  have both := udp.symm.trans as.transport
  cases both

theorem asConn_step (before : AsConn start n u c) (h : Step b n e t) :
    ∃ v, (Tcp.stream b).runFrom c e.asStream.toList = some v ∧ AsConn start t u v := by
  cases h with
  | refused wrong refusal =>
      rw [before.transport] at wrong refusal
      refine ⟨c, ?_, before.quiet rfl rfl rfl rfl ?_⟩
      · rw [asStream_of_wrong wrong]
        rfl
      · generalize stream : Transport.shape _ = shape at refusal
        cases refusal with
        | landing => cases stream
        | burst | join | sendTo => rfl
  | landing fault dst here =>
      obtain ⟨rfl, rfl⟩ := before.stream_eq here
      obtain ⟨replies, logged, calls⟩ := before.replies
      refine ⟨c.recvInto b fault dst, rfl, ?_, before.batch, before.frames,
        replies ++ [.landing dst (Tcp.recvInto fault c.sock dst).1
          (Tcp.recvInto fault c.sock dst).2.2], ?_, ?_⟩
      · simp only [Tcp.Conn.recvInto, Tcp.backendRecvInto_eq]
      · show n.log ++ _ = _
        rw [logged, List.append_assoc]
      · simp only [Tcp.Conn.recvInto, Tcp.backendRecvInto_eq, List.map_append,
          List.filterMap_append, calls]
        rfl
  | stream buf answers here => exact ⟨c, rfl, before.quiet rfl rfl rfl rfl rfl⟩
  | write data here opened =>
      obtain ⟨rfl, rfl⟩ := before.stream_eq here
      refine ⟨_, System.runFrom_one (Option.ite_none_left_eq_some.mpr ⟨?_, rfl⟩), rfl,
        before.batch, before.frames, before.replies⟩
      rw [opened]
      exact Bool.false_ne_true
  | close here =>
      obtain ⟨rfl, rfl⟩ := before.stream_eq here
      exact ⟨_, rfl, rfl, before.batch, before.frames, before.replies⟩
  | burst _ here | join _ _ _ here | datagram here | drain _ here | drop here | arrive _ here =>
      exact (before.not_udp here).elim

end Steps

section Runs

variable {b : Backend} {start t : Node} {events : List Event}

theorem node_asSession {u : UdpTransport} (udp : start.transport = .udp u)
    (run : (node b start).runFrom start events = some t) :
    ∃ s, (datagrams b ⟨u.lend start.batch, start.frames, []⟩).runFrom
        ⟨u.lend start.batch, start.frames, []⟩ (events.filterMap Event.asDatagram) = some s ∧
      AsSession start t s := by
  have fresh : AsSession start start ⟨u.lend start.batch, start.frames, []⟩ :=
    ⟨udp, rfl, rfl, [], (List.append_nil _).symm, rfl⟩
  refine System.runFrom_view Event.asDatagram ?_ fresh run
  intro n s e t before taken
  exact asSession_step before (step_of_step taken)

theorem node_asConn {u : TcpTransport} {stream : Tcp.StreamSock}
    (tcp : start.transport = .tcp u stream)
    (run : (node b start).runFrom start events = some t) :
    ∃ c, (Tcp.stream b).runFrom ⟨stream, [], [], []⟩ (events.filterMap Event.asStream) = some c ∧
      AsConn start t u c := by
  have fresh : AsConn start start u ⟨stream, [], [], []⟩ :=
    ⟨tcp, rfl, rfl, [], (List.append_nil _).symm, rfl⟩
  refine System.runFrom_view (R := fun n c => AsConn start n u c) Event.asStream ?_ fresh run
  intro n c e t before taken
  exact asConn_step before (step_of_step taken)

end Runs

/-- **Below the enum.** Every run of a node is, by its variant, a run of a driver's session on
the bound socket over the bursts, drains, drops and arrivals, or a run of the connection
over the landings, writes and the close, with the replies of those calls; on a stream the
pool, the batch and the frames stay what they were. -/
theorem node_refines (b : Backend) {start t : Node} {events : List Event}
    (run : (node b start).runFrom start events = some t) :
    (∀ u, start.transport = .udp u → ∃ s,
      (datagrams b ⟨u.lend start.batch, start.frames, []⟩).runFrom
        ⟨u.lend start.batch, start.frames, []⟩ (events.filterMap Event.asDatagram) = some s ∧
      AsSession start t s) ∧
    ∀ u stream, start.transport = .tcp u stream → ∃ c,
      (Tcp.stream b).runFrom ⟨stream, [], [], []⟩ (events.filterMap Event.asStream) = some c ∧
      AsConn start t u c :=
  ⟨fun _ udp => node_asSession udp run, fun _ _ tcp => node_asConn tcp run⟩

theorem node_refines_both : ∃ s : Session KernelSock, AsSession oneWaiting (afterBoth .tokio) s := by
  obtain ⟨s, _, as⟩ := (node_refines .tokio (afterBoth_run .tokio)).1 _ rfl
  exact ⟨s, as⟩

/-! ## From the constructors on -/

theorem build_of_newPool {slabCount slabSize : Nat} {pool : VecPool}
    (made : Readiness.Mio.newPool slabCount slabSize = .returned (.ok pool)) :
    VecPool.build slabCount slabSize = some pool := by
  unfold Readiness.Mio.newPool at made
  cases built : VecPool.build slabCount slabSize with
  | none =>
      rw [built] at made
      cases made
  | some other =>
      rw [built] at made
      cases made
      rfl

/-- A connected transport has the pool it was asked for. -/
theorem connectTcp_pool {b : Backend} {text : SocketAddr → String} {bind : BindConfig}
    {rx : RecvBufConfig} {tx : SendBufConfig} {ring : RingConfig} {dial : Dial}
    {transport : TcpTransport}
    (connected : connectTcp b text bind rx tx ring dial = .returned (.ok transport)) :
    VecPool.build ring.slabCount ring.slabSize = some transport.pool := by
  cases b with
  | tokio =>
      obtain ⟨_, _, connected⟩ := Outcome.bind_ok.mp connected
      obtain ⟨_, _, connected⟩ := Outcome.bind_ok.mp connected
      obtain ⟨_, _, connected⟩ := Outcome.bind_ok.mp connected
      obtain ⟨pool, made, handed⟩ := Outcome.bind_ok.mp connected
      cases handed
      exact build_of_newPool made
  | mio =>
      obtain ⟨_, _, connected⟩ := Outcome.bind_ok.mp connected
      obtain ⟨_, _, connected⟩ := Outcome.bind_ok.mp connected
      obtain ⟨_, _, connected⟩ := Outcome.bind_ok.mp connected
      obtain ⟨_, _, connected⟩ := Outcome.bind_ok.mp connected
      obtain ⟨pool, made, connected⟩ := Outcome.bind_ok.mp connected
      obtain ⟨_, _, handed⟩ := Outcome.bind_ok.mp connected
      cases handed
      exact build_of_newPool made

/-- A node right after `bind_udp` or `connect_tcp`, with an empty batch for `cap` frames. -/
inductive Opened (b : Backend) (ring : RingConfig) (cap : Nat) : Node → Prop
  | udp {text bind rx tx batch affinity opening handle} (faults metrics)
      (bound : (bindUdp b text bind rx tx ring batch affinity opening).outcome =
        .returned (.ok handle)) :
      Opened b ring cap
        { transport := .udp ⟨⟨faults, []⟩, handle.pool, handle.lastPeer, metrics⟩
          batch := .withCapacity cap
          frames := []
          joined := []
          out := ⟨[], []⟩
          log := [] }
  | tcp {text bind rx tx dial transport}
      (connected : connectTcp b text bind rx tx ring dial = .returned (.ok transport)) :
      Opened b ring cap
        { transport := .tcp transport Tcp.Conn.start.sock
          batch := .withCapacity cap
          frames := []
          joined := []
          out := ⟨[], []⟩
          log := [] }

/-- Neither a driver nor an arrival loses track of a slab. -/
theorem datagrams_sane {b : Backend} {ring : RingConfig} {start s : Session KernelSock}
    {events : List DatagramEvent} (sane : start.Sane ring.slabCount ring.slabSize 0)
    (run : (datagrams b start).runFrom start events = some s) :
    s.Sane ring.slabCount ring.slabSize 0 ∧ s.recv.out.capacity = start.recv.out.capacity := by
  have step : ∀ u e v,
      u.Sane ring.slabCount ring.slabSize 0 ∧ u.recv.out.capacity = start.recv.out.capacity →
      (datagrams b start).step u e = some v →
      v.Sane ring.slabCount ring.slabSize 0 ∧
        v.recv.out.capacity = start.recv.out.capacity := by
    rintro u e v ⟨before, capacity⟩ taken
    cases e with
    | session e => exact ⟨before.step taken, (Session.step_capacity taken).trans capacity⟩
    | arrive d =>
        cases taken
        exact ⟨before, capacity⟩
  exact System.runFrom_preserves step ⟨sane, rfl⟩ run

/-- The bytes the peer wrote. -/
def wrote : Tcp.Action → List UInt8
  | .write data => data
  | _ => []

theorem written_eq {b : Backend} {c d : Tcp.Conn} {events : List Tcp.Action}
    (run : (Tcp.stream b).runFrom c events = some d) :
    d.written = c.written ++ events.flatMap wrote := by
  refine System.runFrom_collects wrote ?_ run
  intro s a t taken
  cases Tcp.step_of_step taken with
  | write data => rfl
  | close | recvInto | probe => exact (List.append_nil _).symm

/-- **From the constructors on.** A node opened over a pool of any size, after every run: the
pool has the slots configured, `in_use` is the number of frames in the batch and with the
caller, and the batch has not grown. On a stream these frames are none, and the bytes
landed followed by the bytes queued are what the peer wrote. -/
theorem node_accounted (b : Backend) {ring : RingConfig} {cap : Nat} {start t : Node}
    {events : List Event} (opened : Opened b ring cap start)
    (run : (node b start).runFrom start events = some t) :
    t.transport.pool.capacity = ring.slabCount ∧
      t.transport.pool.inUse = t.batch.frames.length + t.frames.length ∧
      t.batch.capacity = cap ∧
      ∀ u stream, t.transport = .tcp u stream → t.batch.frames = [] ∧ t.frames = [] ∧
        ((t.log.filterMap Reply.landed).flatMap fun r => Tcp.initialised r.2.1 r.2.2) ++
            stream.queued.map some =
          ((events.filterMap Event.asStream).flatMap wrote).map some := by
  cases opened with
  | @udp text bind rx tx batch affinity opening handle faults metrics bound =>
      obtain ⟨_, built, _⟩ := (bindUdp_ok_iff _ _ _ _ _ _ _ _ _ _).mp bound
      obtain ⟨s, ran, as⟩ := node_asSession rfl run
      have fresh : Session.Sane ring.slabCount ring.slabSize 0
          ⟨UdpTransport.lend ⟨⟨faults, []⟩, handle.pool, handle.lastPeer, metrics⟩
            (.withCapacity cap), [], []⟩ := Owned.new built
      obtain ⟨sane, capacity⟩ := datagrams_sane fresh ran
      have pool : t.transport.pool = s.recv.pool := by
        rw [as.transport]
        rfl
      have live : (s.live 0).card = s.recv.out.frames.length + s.frames.length := by
        simp [Session.live]
      refine ⟨?_, ?_, ?_, ?_⟩
      · rw [pool]
        exact sane.slots
      · rw [pool, as.batch, as.frames, ← live]
        exact sane.inUse_eq
      · rw [as.batch]
        exact capacity
      · intro u stream tcp
        exact (as.not_tcp tcp).elim
  | @tcp text bind rx tx dial transport connected =>
      have built := connectTcp_pool connected
      obtain ⟨c, ran, as⟩ := node_asConn rfl run
      have fresh : Owned ring.slabCount ring.slabSize ⟨transport.pool, 0, 1⟩ := Owned.new built
      refine ⟨?_, ?_, ?_, ?_⟩
      · rw [as.transport]
        exact fresh.slots
      · rw [as.transport, as.batch, as.frames]
        exact fresh.inUse_eq
      · rw [as.batch]
        rfl
      · intro u stream tcp
        obtain ⟨rfl, rfl⟩ := as.stream_eq tcp
        obtain ⟨replies, logged, calls⟩ := as.replies
        have intact := (Tcp.stream_intact b c ((System.Reachable.init rfl).run ran)).1
        have written : c.written = (events.filterMap Event.asStream).flatMap wrote :=
          written_eq ran
        refine ⟨congrArg FrameBatch.frames as.batch, as.frames, ?_⟩
        rw [show t.log = replies from logged, ← calls, List.flatMap_map, ← written]
        exact intact

/-- A transport bound over one slot, and a batch for two frames. -/
def justBound : Node where
  transport := .udp ⟨⟨[], []⟩, oneSlot.pool, none, ⟨true, []⟩⟩
  batch := .withCapacity 2
  frames := []
  joined := []
  out := ⟨[], []⟩
  log := []

/-- The one slot is in a frame that was drained. -/
def slotOut : Node := (node .mio justBound).replay justBound
  [.arrive ⟨[7], someSender⟩, .recvBurst 2, .drain 1]

theorem node_accounted_slotOut :
    slotOut.transport.pool.inUse = slotOut.batch.frames.length + slotOut.frames.length := by
  have bound : (bindUdp .mio (fun _ => "0.0.0.0:0") (.new .unspecified) .default .default ⟨1, 2⟩
      .default .default granting).outcome =
        .returned (.ok ⟨oneSlot.pool, 0, none, some someSender⟩) := rfl
  have opened : Opened .mio ⟨1, 2⟩ 2 justBound := .udp [] ⟨true, []⟩ bound
  have run : (node .mio justBound).runFrom justBound
      [.arrive ⟨[7], someSender⟩, .recvBurst 2, .drain 1] = some slotOut := rfl
  exact (node_accounted .mio opened run).2.1

end Transports.Facade
