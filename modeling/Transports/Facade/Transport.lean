import Transports.Readiness.Connect
import Transports.Udp.Conformance
import Transports.Udp.Send

/-!
# The transport enum

`TokioTransport` and `MioTransport`: a datagram or a stream transport behind one type that
has the calls of both. A call of the shape the variant lacks is answered `Unsupported`
before anything is looked at.

A `Node` is such a transport in the hands of one caller, with its batch and the frames it
drained, and with the network at the other side of the socket.
-/

namespace Transports.Facade

open Lib Transports.Core Transports.Pool Transports.Udp
open Transports.Readiness.Mio (Outcome TcpTransport WriteAnswer PollAnswer)

/-! ## Sends -/

/-- What the socket answers the tries of one send, and the poller in between. -/
structure SendAnswers where
  tries : List SendAnswer
  writes : List WriteAnswer
  polls : List PollAnswer

/-- All that has gone out. -/
structure Outbound where
  datagrams : List Outgoing
  bytes : List UInt8
  deriving DecidableEq

/-- `send` and `send_to` of a UDP transport. -/
def sendDatagram (b : Backend) (d : Outgoing) (answers : SendAnswers) (wire : List Outgoing) :
    Outcome Nat × List Outgoing :=
  sendOut b d answers.tries wire

/-- `AsyncWriteExt::write_all`: each write is awaited, and one of no bytes is an error. -/
def writeAll (buf : List UInt8) (writes : List WriteAnswer) (accepted : List UInt8) :
    Outcome Unit × List UInt8 :=
  if buf = [] then (.returned (.ok ()), accepted)
  else
    match writes with
    | [] => (.running, accepted)
    | .ok room :: writes =>
      if room = 0 then (.returned (.error (.io ⟨.writeZero, "write zero"⟩)), accepted)
      else writeAll (buf.drop room) writes (accepted ++ buf.take room)
    | .error e :: writes =>
      if e.kind = .wouldBlock then writeAll buf writes accepted
      else (.returned (.error (.io e)), accepted)

/-- `TcpTransport::send`, and what the stream accepted of the buffer. -/
def sendStream (b : Backend) (buf : List UInt8) (answers : SendAnswers) :
    Outcome Unit × List UInt8 :=
  match b with
  | .tokio => writeAll buf answers.writes []
  | .mio => Readiness.Mio.send buf answers.writes answers.polls

/-- `.map(|_| ())` -/
def void (o : Outcome Nat) : Outcome Unit := o >>= fun _ => pure ()

/-! ## Multicast -/

/-- `std::net::IpAddr`. -/
inductive IpAddr
  | v4 (addr : BitVec 32)
  | v6 (addr : BitVec 128)
  deriving DecidableEq, Repr

structure MulticastInterface where
  v4 : Option (BitVec 32)
  v6ScopeId : Option UInt32
  deriving DecidableEq, Repr

/-- What the socket is asked to join: a group, at an address or a scope. -/
inductive Membership
  | v4 (group interface : BitVec 32)
  | v6 (group : BitVec 128) (scope : UInt32)
  deriving DecidableEq, Repr

/-- `Ipv4Addr::UNSPECIFIED` and scope 0 stand for any interface. -/
def membership (group : IpAddr) (interface : MulticastInterface) : Membership :=
  match group with
  | .v4 m => .v4 m (interface.v4.getD 0)
  | .v6 m => .v6 m (interface.v6ScopeId.getD 0)

/-- `UdpTransport::join_multicast`, as the kernel answers. -/
def joinGroup (group : IpAddr) (interface : MulticastInterface)
    (kernel : Membership → Except IoError Unit) (joined : List Membership) :
    Except TransportError Unit × List Membership :=
  match kernel (membership group interface) with
  | .ok () => (.ok (), joined ++ [membership group interface])
  | .error e => (.error (.io e), joined)

/-! ## The enum -/

/-- The variants, the stream of a TCP transport beside it. -/
inductive Transport
  | udp (t : UdpTransport)
  | tcp (t : TcpTransport) (stream : Tcp.StreamSock)

/-- Which calls a transport takes. -/
inductive Shape
  | datagram
  | stream
  deriving DecidableEq, Repr

/-- `"tokio-udp"` and its like. -/
def nameOf : Backend → Shape → String
  | .tokio, .datagram => "tokio-udp"
  | .tokio, .stream => "tokio-tcp"
  | .mio, .datagram => "mio-udp"
  | .mio, .stream => "mio-tcp"

namespace Transport

def shape : Transport → Shape
  | .udp _ => .datagram
  | .tcp _ _ => .stream

/-- `TransportCore::name`. -/
def name (b : Backend) (t : Transport) : String := nameOf b t.shape

/-- `TransportCore::send`. -/
def send (b : Backend) (t : Transport) (buf : List UInt8) (answers : SendAnswers)
    (out : Outbound) : Outcome Unit × Outbound :=
  match t with
  | .udp _ =>
    let (outcome, datagrams) := sendDatagram b ⟨buf, none⟩ answers out.datagrams
    (void outcome, { out with datagrams })
  | .tcp _ _ =>
    let (outcome, accepted) := sendStream b buf answers
    (outcome, { out with bytes := out.bytes ++ accepted })

/-- `DatagramSource::recv_burst`. -/
def recvBurst (b : Backend) (t : Transport) (out : FrameBatch UdpFrame) (max : Nat) :
    Except TransportError Nat × FrameBatch UdpFrame × Transport :=
  match t with
  | .udp u =>
    let (answer, st) := Udp.recvBurst b kernelSock max (u.lend out)
    (answer, st.out, .udp (UdpTransport.keep st))
  | .tcp _ _ =>
    (.error (.unsupported (nameOf b .stream) "recv_burst is datagram-only; use recv_into"), out, t)

/-- `StreamSource::recv_into`. -/
def recvInto (b : Backend) (t : Transport) (fault : Option Tcp.StreamFault) (dst : Tcp.Buffer) :
    Except TransportError Nat × Transport × Tcp.Buffer :=
  match t with
  | .tcp u stream =>
    let (answer, stream, dst) := Tcp.backendRecvInto b fault stream dst
    (answer, .tcp u stream, dst)
  | .udp _ =>
    (.error (.unsupported (nameOf b .datagram) "recv_into is stream-only; use recv_burst"), t, dst)

/-- `PoolAccess::pool`. -/
def pool : Transport → VecPool
  | .udp u => u.pool
  | .tcp u _ => u.pool

/-- `UdpTransport::join_multicast`. -/
def joinMulticast (b : Backend) (t : Transport) (group : IpAddr) (interface : MulticastInterface)
    (kernel : Membership → Except IoError Unit) (joined : List Membership) :
    Except TransportError Unit × List Membership :=
  match t with
  | .udp _ => joinGroup group interface kernel joined
  | .tcp _ _ =>
    (.error (.unsupported (nameOf b .stream) "multicast join unsupported on TCP"), joined)

/-- `UdpTransport::send_to`. -/
def sendTo (b : Backend) (t : Transport) (buf : List UInt8) (addr : SocketAddr)
    (answers : SendAnswers) (out : Outbound) : Outcome Unit × Outbound :=
  match t with
  | .udp _ =>
    let (outcome, datagrams) := sendDatagram b ⟨buf, some addr⟩ answers out.datagrams
    (void outcome, { out with datagrams })
  | .tcp _ _ =>
    (.returned (.error (.unsupported (nameOf b .stream) "send_to unsupported on TCP")), out)

end Transport

/-! ## A transport in use -/

/-- What a call was answered. -/
inductive Reply
  | burst (answer : Except TransportError Nat)
  | landing (dst : Tcp.Buffer) (answer : Except TransportError Nat) (buf : Tcp.Buffer)
  | joined (answer : Except TransportError Unit)
  | sent (d : Outgoing) (outcome : Outcome Unit)

structure Node where
  transport : Transport
  batch : FrameBatch UdpFrame
  frames : List UdpFrame
  joined : List Membership
  out : Outbound
  -- history: what every call was answered
  log : List Reply

inductive Event
  -- the caller's
  | recvBurst (max : Nat)
  | recvInto (fault : Option Tcp.StreamFault) (dst : Tcp.Buffer)
  | joinMulticast (group : IpAddr) (interface : MulticastInterface)
      (kernel : Membership → Except IoError Unit)
  | send (buf : List UInt8) (answers : SendAnswers)
  | sendTo (buf : List UInt8) (addr : SocketAddr) (answers : SendAnswers)
  | drain (keep : Nat)
  | drop (frame : Nat)
  -- the network's
  | arrive (d : Datagram)
  | write (data : List UInt8)
  | close

namespace Node

/-- The caller's side of a UDP node, as `session` runs it. -/
def session (u : UdpTransport) (n : Node) : Session KernelSock where
  recv := u.lend n.batch
  frames := n.frames
  returns := []

/-- The node with a session put back. -/
def resume (n : Node) (s : Session KernelSock) : Node :=
  { n with
    transport := .udp (UdpTransport.keep s.recv)
    batch := s.recv.out
    frames := s.frames }

def step (b : Backend) (n : Node) : Event → Option Node
  | .recvBurst max =>
    let (answer, batch, transport) := n.transport.recvBurst b n.batch max
    some { n with transport, batch, log := n.log ++ [.burst answer] }
  | .recvInto fault dst =>
    let (answer, transport, buf) := n.transport.recvInto b fault dst
    some { n with transport, log := n.log ++ [.landing dst answer buf] }
  | .joinMulticast group interface kernel =>
    let (answer, joined) := n.transport.joinMulticast b group interface kernel n.joined
    some { n with joined, log := n.log ++ [.joined answer] }
  | .send buf answers =>
    let (outcome, out) := n.transport.send b buf answers n.out
    some { n with out, log := n.log ++ [.sent ⟨buf, none⟩ outcome] }
  | .sendTo buf addr answers =>
    let (outcome, out) := n.transport.sendTo b buf addr answers n.out
    some { n with out, log := n.log ++ [.sent ⟨buf, some addr⟩ outcome] }
  -- frames come from a datagram transport, and their slabs go back to it
  | .drain keep =>
    match n.transport with
    | .udp u => some (n.resume ((n.session u).drain keep))
    | .tcp _ _ => none
  | .drop frame =>
    match n.transport with
    | .udp u => ((n.session u).step b kernelSock (.drop frame)).map n.resume
    | .tcp _ _ => none
  | .arrive d =>
    match n.transport with
    | .udp u =>
      some { n with
        transport := .udp { u with sock := { u.sock with queue := u.sock.queue ++ [d] } } }
    | .tcp _ _ => none
  | .write data =>
    match n.transport with
    | .tcp u stream =>
      if stream.closed then none
      else some { n with
        transport := .tcp u { stream with queued := stream.queued ++ data } }
    | .udp _ => none
  | .close =>
    match n.transport with
    | .tcp u stream => some { n with transport := .tcp u { stream with closed := true } }
    | .udp _ => none

end Node

/-- All runs of a node of backend `b`, from `start`. -/
def node (b : Backend) (start : Node) : System Node Event where
  init n := n = start
  step := Node.step b

/-! ## What a step can do -/

/-- The shape an event needs; `send` goes with either. -/
def Event.shape : Event → Option Shape
  | .recvBurst _ | .joinMulticast _ _ _ | .sendTo _ _ _ | .drain _ | .drop _ | .arrive _ =>
    some .datagram
  | .recvInto _ _ | .write _ | .close => some .stream
  | .send _ _ => none

/-- The event goes with a transport of this shape. -/
def Event.fits (shape : Shape) (e : Event) : Bool := e.shape.all (· == shape)

/-- The shape of the call that was answered. -/
def Reply.shape : Reply → Option Shape
  | .burst _ | .joined _ => some .datagram
  | .landing _ _ _ => some .stream
  | .sent d _ => d.dest.map fun _ => .datagram

/-- The reply is to a call of this shape. -/
def Reply.fits (shape : Shape) (r : Reply) : Bool := r.shape.all (· == shape)

/-- What a call of the wrong shape is answered: the transport's own name, and which call to
use; no byte of a destination is written. -/
inductive Refusal (b : Backend) : Shape → Reply → Prop
  | burst : Refusal b .stream
      (.burst (.error (.unsupported (nameOf b .stream)
        "recv_burst is datagram-only; use recv_into")))
  | landing (dst) : Refusal b .datagram
      (.landing dst (.error (.unsupported (nameOf b .datagram)
        "recv_into is stream-only; use recv_burst")) dst)
  | join : Refusal b .stream
      (.joined (.error (.unsupported (nameOf b .stream) "multicast join unsupported on TCP")))
  | sendTo (buf addr) : Refusal b .stream
      (.sent ⟨buf, some addr⟩ (.returned (.error (.unsupported (nameOf b .stream)
        "send_to unsupported on TCP"))))

/-- One step of a node, by what it does. -/
inductive Step (b : Backend) (n : Node) : Event → Node → Prop
  | refused {e reply} (wrong : e.fits n.transport.shape = false)
      (refusal : Refusal b n.transport.shape reply) :
      Step b n e { n with log := n.log ++ [reply] }
  | burst {u} (max) (udp : n.transport = .udp u) :
      Step b n (.recvBurst max)
        { n with
          transport := .udp (UdpTransport.keep (Udp.recvBurst b kernelSock max (u.lend n.batch)).2)
          batch := (Udp.recvBurst b kernelSock max (u.lend n.batch)).2.out
          log := n.log ++ [.burst (Udp.recvBurst b kernelSock max (u.lend n.batch)).1] }
  | join {u} (group interface kernel) (udp : n.transport = .udp u) :
      Step b n (.joinMulticast group interface kernel)
        { n with
          joined := (joinGroup group interface kernel n.joined).2
          log := n.log ++ [.joined (joinGroup group interface kernel n.joined).1] }
  | datagram {u e d answers} (udp : n.transport = .udp u)
      (call : e = .send d.payload answers ∧ d.dest = none ∨
        ∃ addr, e = .sendTo d.payload addr answers ∧ d.dest = some addr) :
      Step b n e
        { n with
          out := { n.out with datagrams := (sendDatagram b d answers n.out.datagrams).2 }
          log := n.log ++ [.sent d (void (sendDatagram b d answers n.out.datagrams).1)] }
  | drain {u} (keep) (udp : n.transport = .udp u) :
      Step b n (.drain keep) (n.resume ((n.session u).drain keep))
  | drop {u k s} (udp : n.transport = .udp u)
      (dropped : (n.session u).step b kernelSock (.drop k) = some s) :
      Step b n (.drop k) (n.resume s)
  | arrive {u} (d) (udp : n.transport = .udp u) :
      Step b n (.arrive d)
        { n with transport := .udp { u with sock := { u.sock with queue := u.sock.queue ++ [d] } } }
  | landing {u stream} (fault dst) (tcp : n.transport = .tcp u stream) :
      Step b n (.recvInto fault dst)
        { n with
          transport := .tcp u (Tcp.recvInto fault stream dst).2.1
          log := n.log ++
            [.landing dst (Tcp.recvInto fault stream dst).1 (Tcp.recvInto fault stream dst).2.2] }
  | stream {u stream} (buf answers) (tcp : n.transport = .tcp u stream) :
      Step b n (.send buf answers)
        { n with
          out := { n.out with bytes := n.out.bytes ++ (sendStream b buf answers).2 }
          log := n.log ++ [.sent ⟨buf, none⟩ (sendStream b buf answers).1] }
  | write {u stream} (data) (tcp : n.transport = .tcp u stream) (opened : stream.closed = false) :
      Step b n (.write data)
        { n with transport := .tcp u { stream with queued := stream.queued ++ data } }
  | close {u stream} (tcp : n.transport = .tcp u stream) :
      Step b n .close { n with transport := .tcp u { stream with closed := true } }

theorem step_of_udp {b : Backend} {n t : Node} {e : Event} {u : UdpTransport}
    (udp : n.transport = .udp u) (h : n.step b e = some t) : Step b n e t := by
  obtain ⟨transport, batch, frames, joined, out, log⟩ := n
  obtain rfl : transport = .udp u := udp
  cases e with
  | recvBurst max => cases h; exact .burst max rfl
  | recvInto fault dst => cases h; exact .refused rfl (.landing dst)
  | joinMulticast group interface kernel => cases h; exact .join group interface kernel rfl
  | send buf answers =>
      cases h
      exact .datagram (d := ⟨buf, none⟩) rfl (.inl ⟨rfl, rfl⟩)
  | sendTo buf addr answers =>
      cases h
      exact .datagram (d := ⟨buf, some addr⟩) rfl (.inr ⟨addr, rfl, rfl⟩)
  | drain keep => cases h; exact .drain keep rfl
  | drop k =>
      obtain ⟨s, dropped, rfl⟩ := Option.map_eq_some_iff.mp h
      exact .drop rfl dropped
  | arrive d => cases h; exact .arrive d rfl
  | write | close => cases h

theorem step_of_tcp {b : Backend} {n t : Node} {e : Event} {u : TcpTransport}
    {stream : Tcp.StreamSock} (tcp : n.transport = .tcp u stream) (h : n.step b e = some t) :
    Step b n e t := by
  obtain ⟨transport, batch, frames, joined, out, log⟩ := n
  obtain rfl : transport = .tcp u stream := tcp
  cases e with
  | recvBurst max => cases h; exact .refused rfl .burst
  | recvInto fault dst =>
      simp only [Node.step, Transport.recvInto, Tcp.backendRecvInto_eq, Option.some.injEq] at h
      subst h
      exact .landing fault dst rfl
  | joinMulticast => cases h; exact .refused rfl .join
  | send buf answers => cases h; exact .stream buf answers rfl
  | sendTo buf addr answers => cases h; exact .refused rfl (.sendTo buf addr)
  | write data =>
      obtain ⟨opened, same⟩ := Option.ite_none_left_eq_some.mp h
      cases same
      exact .write data rfl (by simpa using opened)
  | close => cases h; exact .close rfl
  | drain | drop | arrive => cases h

theorem step_of_step {b : Backend} {n t : Node} {e : Event} (h : n.step b e = some t) :
    Step b n e t := by
  cases here : n.transport with
  | udp u => exact step_of_udp here h
  | tcp u stream => exact step_of_tcp here h

/-- No step turns one variant into the other. -/
theorem Step.shape {b : Backend} {n t : Node} {e : Event} (h : Step b n e t) :
    t.transport.shape = n.transport.shape := by
  cases h with
  | refused | join | datagram | stream => rfl
  | burst max here | drain keep here | drop here | arrive d here | landing fault dst here
    | write data here | close here =>
      rw [here]
      rfl

/-- A UDP transport of two slabs and one datagram queued. -/
def oneWaiting : Node where
  transport := .udp (UdpTransport.overTwoSlabs 1)
  batch := .withCapacity 4
  frames := []
  joined := []
  out := ⟨[], []⟩
  log := []

/-- Calls of both shapes. -/
def bothShapes : List Event :=
  [.recvBurst 4, .recvInto none [none], .drain 1, .sendTo [1] someSender ⟨[.ok 1], [], []⟩]

/-- The transport after them. -/
def afterBoth (b : Backend) : Node := (node b oneWaiting).replay oneWaiting bothShapes

theorem afterBoth_run (b : Backend) :
    (node b oneWaiting).runFrom oneWaiting bothShapes = some (afterBoth b) := by
  cases b <;> rfl

end Transports.Facade
