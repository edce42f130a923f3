import Transports.Readiness.Connect
import Transports.Tcp.Stream

/-!
# `read_chunk`

The bound on a landing is a field of `RecvBufConfig`, which `connect_tcp` is given and
hands on for the kernel's buffer sizes only. The transport it returns has no such bound,
and `recv_into` lands as much as the destination and the queue allow together.
-/

namespace Transports.Tcp

open Lib Transports.Core Transports.Udp Transports.Pool Transports.Sockets Transports.Readiness
open Transports.Readiness.Mio (Outcome Setup TcpTransport Round openStream newPool)

/-! ## `connect_tcp` -/

/-- The pool sizes. -/
structure RingConfig where
  slabCount : Nat
  slabSize : Nat
  deriving DecidableEq, Repr

/-- What the network and the kernel answer to one `connect`. -/
structure Dial where
  stream : Except IoError Unit
  sock : Sock
  poll : Except IoError Unit
  register : Except IoError Unit
  peerAddr : Except IoError SocketAddr
  rounds : List Round

/-- The answers as `connect` meets them under these configs. -/
def Dial.setup (dial : Dial) (bind : BindConfig) (rx : RecvBufConfig) (tx : SendBufConfig)
    (ring : RingConfig) : Setup where
  addr := bind.addr
  stream := dial.stream
  sock := dial.sock
  rx := rx
  tx := tx
  poll := dial.poll
  register := dial.register
  slabCount := ring.slabCount
  slabSize := ring.slabSize
  peerAddr := dial.peerAddr

/-- The tokio `TcpTransport::connect`. -/
def Tokio.connect (text : SocketAddr → String) (bind : BindConfig) (rx : RecvBufConfig)
    (tx : SendBufConfig) (ring : RingConfig) (dial : Dial) : Outcome TcpTransport := do
  openStream text (dial.setup bind rx tx ring)
  let peer ← Outcome.io dial.peerAddr
  .returned (Sockets.Tokio.applyTcpSocketOpts dial.sock rx tx).result
  let pool ← newPool ring.slabCount ring.slabSize
  return { pool, peer }

/-- The mio `TcpTransport::connect`. -/
def Mio.connect (text : SocketAddr → String) (bind : BindConfig) (rx : RecvBufConfig)
    (tx : SendBufConfig) (ring : RingConfig) (dial : Dial) : Outcome TcpTransport :=
  Readiness.Mio.connect text (dial.setup bind rx tx ring) dial.rounds

/-- `TransportBind::connect_tcp`. -/
def connectTcp : Backend → (SocketAddr → String) → BindConfig → RecvBufConfig → SendBufConfig →
    RingConfig → Dial → Outcome TcpTransport
  | .tokio => Tokio.connect
  | .mio => Mio.connect

/-! ## A connection of a connected transport -/

/-- A transport, and the connection behind it with all its calls. -/
structure Connected where
  transport : TcpTransport
  conn : Conn

/-- All runs of the transports `connect_tcp` returns under this config. -/
def connected (b : Backend) (text : SocketAddr → String) (rx : RecvBufConfig) :
    System Connected Action where
  init s := s.conn = Conn.start ∧ ∃ bind tx ring dial,
    connectTcp b text bind rx tx ring dial = .returned (.ok s.transport)
  step s a := (s.conn.step b a).map fun conn => { s with conn }

/-- The call landed no more than `read_chunk` bytes, if the config names a number. -/
def Call.Chunked (rx : RecvBufConfig) (c : Call) : Prop :=
  ∀ k, rx.readChunk = some k → ∀ n, c.result = .ok n → n ≤ k

/-- The step cannot land more than `read_chunk` bytes: the destination has no room for
them, or they are not queued, or the read fails. -/
def WithinChunk (rx : RecvBufConfig) (s : Connected) : Action → Prop
  | .recvInto fault dst => ∀ k, rx.readChunk = some k →
      fault.isSome ∨ dst.length ≤ k ∨ s.conn.sock.queued.length ≤ k
  | .write _ | .close | .probe => True

/-- The bytes landed and written since `s`. -/
def Grown (s t : Conn) : Prop :=
  (∃ landed, t.landed = s.landed ++ landed) ∧ ∃ written, t.written = s.written ++ written

section Steps

variable {s t : Conn} {a : Action}

theorem Landing.atMost_iff {k : Nat} {sock after : StreamSock} {dst buf : Buffer}
    {fault : Option StreamFault} {result : Except TransportError Nat}
    (h : Landing sock dst fault (result, after, buf)) :
    (∀ n, result = .ok n → n ≤ k) ↔
      fault.isSome ∨ dst.length ≤ k ∨ sock.queued.length ≤ k := by
  cases h with
  | bytes ready room =>
      simp only [Except.ok.injEq, forall_eq', Option.isSome_none, Bool.false_eq_true, false_or]
      omega
  | noRoom ready full => simp [full]
  | eof empty | idle empty => simp [empty]
  | failed e => simp

/-- A step keeps the bound exactly if it cannot land more. -/
theorem chunked_step {b : Backend} {rx : RecvBufConfig} {u : Conn} (transport : TcpTransport)
    (taken : s.step b a = some u) :
    (∀ c ∈ u.calls, c.Chunked rx) ↔
      (∀ c ∈ s.calls, c.Chunked rx) ∧ WithinChunk rx ⟨transport, s⟩ a := by
  cases step_of_step taken with
  | write | close | probe => exact (and_iff_left trivial).symm
  | recvInto landing =>
      rw [List.forall_mem_append, List.forall_mem_singleton]
      refine and_congr_right fun _ => ?_
      exact forall₂_congr fun k _ => landing.atMost_iff

theorem Grown.refl (s : Conn) : Grown s s :=
  ⟨⟨[], (List.append_nil _).symm⟩, ⟨[], (List.append_nil _).symm⟩⟩

theorem grown_step {u : Conn} (before : Grown s t) (h : Step t a u) : Grown s u := by
  obtain ⟨⟨landed, landings⟩, ⟨written, writes⟩⟩ := before
  cases h with
  | write data opened =>
      refine ⟨⟨landed, landings⟩, written ++ data, ?_⟩
      rw [← List.append_assoc, ← writes]
  | close | probe => exact ⟨⟨landed, landings⟩, ⟨written, writes⟩⟩
  | @recvInto fault dst result sock buf landing =>
      refine ⟨⟨landed ++ initialised result buf, ?_⟩, ⟨written, writes⟩⟩
      rw [← List.append_assoc, ← landings, Conn.landed, List.flatMap_append,
        List.flatMap_singleton]
      rfl

end Steps

/-! ## Runs -/

section Runs

variable {b : Backend} {text : SocketAddr → String} {rx : RecvBufConfig}

theorem conn_step {s t : Connected} {a : Action} (taken : (connected b text rx).step s a = some t) :
    s.conn.step b a = some t.conn ∧ t.transport = s.transport := by
  obtain ⟨conn, step, rfl⟩ := Option.map_eq_some_iff.mp taken
  exact ⟨step, rfl⟩

theorem connected_intact (b : Backend) (text : SocketAddr → String) (rx : RecvBufConfig) :
    (connected b text rx).Invariant fun s => Intact s.conn := by
  refine System.Invariant.of_step (System.Invariant.true _) ?_ ?_
  · rintro s ⟨fresh, _⟩
    rw [fresh]
    exact rfl
  · intro s a t _ intact taken
    exact intact_step intact (step_of_step (conn_step taken).1)

theorem connected_grown {s t : Connected} {events : List Action}
    (run : (connected b text rx).runFrom s events = some t) : Grown s.conn t.conn := by
  have step : ∀ u a v, Grown s.conn u.conn → (connected b text rx).step u a = some v →
      Grown s.conn v.conn := by
    intro u a v before taken
    exact grown_step before (step_of_step (conn_step taken).1)
  exact System.runFrom_preserves step (.refl s.conn) run

end Runs

/-- **`read_chunk`.** For every config and every transport `connect_tcp` returns under it:
in a run of peer writes and `recv_into` calls every call lands at most `read_chunk` bytes
if and only if no call has both a destination and a queue of more than that. What a call
leaves queued is landed by later calls, first and in order, either way. -/
theorem read_chunk_iff (b : Backend) (text : SocketAddr → String) (rx : RecvBufConfig)
    {s t : Connected} {events : List Action} (start : (connected b text rx).init s)
    (run : (connected b text rx).runFrom s events = some t) :
    ((∀ c ∈ t.conn.calls, c.Chunked rx) ↔
      (connected b text rx).Along (WithinChunk rx) s events) ∧
    ∀ later u, (connected b text rx).runFrom t later = some u →
      ∃ landed written, u.conn.landed = t.conn.landed ++ landed ∧
        landed ++ u.conn.sock.queued.map some =
          t.conn.sock.queued.map some ++ List.map some written := by
  have reach := (System.Reachable.init start).run run
  constructor
  · have step : ∀ s a t, True → (connected b text rx).step s a = some t →
        ((∀ c ∈ t.conn.calls, c.Chunked rx) ↔
          (∀ c ∈ s.conn.calls, c.Chunked rx) ∧ WithinChunk rx s a) := by
      intro s a t _ taken
      exact chunked_step s.transport (conn_step taken).1
    rw [System.runFrom_along_iff (fun _ _ _ _ _ => trivial) step trivial run]
    refine and_iff_right ?_
    intro c made
    rw [start.1] at made
    cases made
  · intro later u after
    obtain ⟨⟨landed, landings⟩, ⟨written, writes⟩⟩ := connected_grown after
    have before : Intact t.conn := connected_intact b text rx t reach
    have intact : Intact u.conn := connected_intact b text rx u (reach.run after)
    refine ⟨landed, written, landings, ?_⟩
    unfold Intact at before intact
    rw [landings, writes, List.map_append, ← before, List.append_assoc, List.append_assoc] at intact
    exact List.append_cancel_left intact

/-- A peer that accepts, a pool of one slab, and a handshake seen to its end. -/
def plainDial : Dial where
  stream := .ok ()
  sock := linuxSock 212992 212992
  poll := .ok ()
  register := .ok ()
  peerAddr := .ok someSender
  rounds := [⟨.ok [⟨Readiness.Mio.tcpToken, false, true⟩], .ok none, false, .completed true⟩]

/-- One byte for each landing. -/
def oneByteChunks : RecvBufConfig := { RecvBufConfig.default with readChunk := some 1 }

/-- The transport it is asked of. -/
def chunkedTransport : Connected where
  transport := ⟨(VecPool.build 1 1).get rfl, someSender⟩
  conn := Conn.start

theorem chunkedTransport_init (b : Backend) (text : SocketAddr → String) :
    (connected b text oneByteChunks).init chunkedTransport := by
  refine ⟨rfl, .new someSender, .default, ⟨1, 1⟩, plainDial, ?_⟩
  cases b <;> rfl

/-- Two bytes are written and read into a buffer of two. -/
def readBoth : List Action := [.write [1, 2], .recvInto none [none, none]]

/-- The same into buffers of one. -/
def readOneByOne : List Action := [.write [1, 2], .recvInto none [none], .recvInto none [none]]

/-- The transport after these events. -/
def chunkedAfter (b : Backend) (events : List Action) : Connected :=
  (connected b (fun _ => "") oneByteChunks).replay chunkedTransport events

theorem read_chunk_iff_one_by_one :
    (chunkedAfter .mio readOneByOne).conn.calls.map Call.result = [.ok 1, .ok 1] ∧
      ∀ c ∈ (chunkedAfter .mio readOneByOne).conn.calls, c.Chunked oneByteChunks := by
  have start := chunkedTransport_init .mio fun _ => ""
  have run : (connected .mio (fun _ => "") oneByteChunks).runFrom chunkedTransport readOneByOne =
      some (chunkedAfter .mio readOneByOne) := rfl
  refine ⟨rfl, (read_chunk_iff .mio (fun _ => "") oneByteChunks start run).1.mpr ⟨trivial, ?_⟩⟩
  have room : ∀ s, WithinChunk oneByteChunks s (.recvInto none [none]) := by
    rintro s k ⟨⟩
    exact .inr (.inl (Nat.le_refl 1))
  intro _ _
  exact ⟨room _, fun _ _ => ⟨room _, fun _ _ => trivial⟩⟩

/-- Both backends land two bytes in one call that was promised one. -/
theorem read_chunk_ignored :
    oneByteChunks.readChunk = some 1 ∧
    (connected .tokio (fun _ => "") oneByteChunks).init chunkedTransport ∧
    (chunkedAfter .tokio readBoth).conn.calls.map Call.result = [.ok 2] ∧
    (connected .mio (fun _ => "") oneByteChunks).init chunkedTransport ∧
    (chunkedAfter .mio readBoth).conn.calls.map Call.result = [.ok 2] :=
  ⟨rfl, chunkedTransport_init .tokio _, rfl, chunkedTransport_init .mio _, rfl⟩

end Transports.Tcp
