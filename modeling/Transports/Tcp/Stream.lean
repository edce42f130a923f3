import Transports.Lib.Ownership
import Transports.Udp.Socket

/-!
# `recv_into`

The stream path: one `recv` per call, straight into the caller's uninitialised
buffer. Both backends have the same text. `stream` runs it against a peer that
writes and closes when it likes, with readiness probes in between, and keeps
every call with what it found and left, so that what the calls landed, what they
answered and what is still queued can be compared over whole runs.
-/

namespace Transports.Tcp

open Lib Transports.Core Transports.Udp

/-! ## The socket -/

/-- The bytes queued on this side, and whether the peer has closed its own. -/
structure StreamSock where
  queued : List UInt8
  closed : Bool
  deriving DecidableEq, Repr

/-- A failed `recv`. No errno reads as `UnexpectedEof`; that kind is `recv_into`'s own. -/
def StreamFault : Type := { e : Fault // e.val.kind ≠ .unexpectedEof }

instance : DecidableEq StreamFault :=
  inferInstanceAs (DecidableEq { e : Fault // e.val.kind ≠ .unexpectedEof })

/-- `recv` with room for `room` bytes: the first queued ones, as many as fit. -/
def streamRecv (fault : Option StreamFault) (sock : StreamSock) (room : Nat) :
    Except IoError (List UInt8) × StreamSock :=
  match fault with
  | some e => (.error e.val.val, sock)
  | none =>
    if sock.queued = [] then
      if sock.closed then (.ok [], sock) else (.error .wouldBlock, sock)
    else (.ok (sock.queued.take room), { sock with queued := sock.queued.drop room })

/-- `MSG_PEEK` into one byte: the same answer, and nothing is removed. -/
def streamPeek (sock : StreamSock) : Except IoError Nat :=
  if sock.queued = [] then
    if sock.closed then .ok 0 else .error .wouldBlock
  else .ok (min 1 sock.queued.length)

/-! ## The call -/

/-- Uninitialised memory: `none` has never been written. -/
abbrev Buffer := List (Option UInt8)

/-- The error a zero-byte read surfaces as. -/
def peerClosed : IoError := ⟨.unexpectedEof, "peer closed"⟩

/-- Land one read into `dst`. -/
def recvInto (fault : Option StreamFault) (sock : StreamSock) (dst : Buffer) :
    Except TransportError Nat × StreamSock × Buffer :=
  let (answer, sock) := streamRecv fault sock dst.length
  match answer with
  | .ok data =>
    let dst := overlay dst (data.map some)
    if data.length = 0 then (.error (.io peerClosed), sock, dst) else (.ok data.length, sock, dst)
  | .error e => if e.kind = .wouldBlock then (.ok 0, sock, dst) else (.error (.io e), sock, dst)

/-- The tokio `TcpTransport::recv_into`. -/
def Tokio.recvInto (fault : Option StreamFault) (sock : StreamSock) (dst : Buffer) :=
  Tcp.recvInto fault sock dst

/-- The mio `TcpTransport::recv_into`. -/
def Mio.recvInto (fault : Option StreamFault) (sock : StreamSock) (dst : Buffer) :=
  Tcp.recvInto fault sock dst

/-- The backend's `recv_into`. -/
def backendRecvInto : Backend → Option StreamFault → StreamSock → Buffer →
    Except TransportError Nat × StreamSock × Buffer
  | .tokio => Tokio.recvInto
  | .mio => Mio.recvInto

@[simp] theorem backendRecvInto_eq (b : Backend) : backendRecvInto b = recvInto := by
  cases b <;> rfl

/-- Everything one `recv_into` does. -/
inductive Landing (sock : StreamSock) (dst : Buffer) :
    Option StreamFault → Except TransportError Nat × StreamSock × Buffer → Prop
  /-- bytes were queued and there was room for some -/
  | bytes (ready : sock.queued ≠ []) (room : dst ≠ []) :
      Landing sock dst none
        (.ok (min dst.length sock.queued.length),
          { sock with queued := sock.queued.drop dst.length },
          overlay dst ((sock.queued.take dst.length).map some))
  /-- bytes were queued and there was room for none -/
  | noRoom (ready : sock.queued ≠ []) (full : dst = []) :
      Landing sock dst none (.error (.io peerClosed), sock, dst)
  | eof (empty : sock.queued = []) (closed : sock.closed = true) :
      Landing sock dst none (.error (.io peerClosed), sock, dst)
  | idle (empty : sock.queued = []) (opened : sock.closed = false) :
      Landing sock dst none (.ok 0, sock, dst)
  | failed (e : StreamFault) : Landing sock dst (some e) (.error (.io e.val.val), sock, dst)

theorem landing_recvInto (fault : Option StreamFault) (sock : StreamSock) (dst : Buffer) :
    Landing sock dst fault (recvInto fault sock dst) := by
  cases fault with
  | some e =>
      have call : recvInto (some e) sock dst = (.error (.io e.val.val), sock, dst) := by
        simp only [recvInto, streamRecv, e.val.property, if_false]
      rw [call]
      exact .failed e
  | none =>
      by_cases empty : sock.queued = []
      · cases closed : sock.closed with
        | true =>
            have call : recvInto none sock dst = (.error (.io peerClosed), sock, dst) := by
              simp [recvInto, streamRecv, empty, closed, overlay]
            rw [call]
            exact .eof empty closed
        | false =>
            have call : recvInto none sock dst = (.ok 0, sock, dst) := by
              simp [recvInto, streamRecv, empty, closed, IoError.wouldBlock]
            rw [call]
            exact .idle empty closed
      · by_cases full : dst = []
        · have call : recvInto none sock dst = (.error (.io peerClosed), sock, dst) := by
            simp [recvInto, streamRecv, empty, full, overlay]
          rw [call]
          exact .noRoom empty full
        · have some : (sock.queued.take dst.length).length ≠ 0 := by
            have := List.length_pos_iff.mpr empty
            have := List.length_pos_iff.mpr full
            rw [List.length_take]
            omega
          have call := Landing.bytes empty full
          rw [← List.length_take] at call
          simpa only [recvInto, streamRecv, empty, some, if_false] using call

/-! ## What a call leaves and answers -/

/-- The bytes the caller of a `recv_into` marks initialised. -/
def initialised (result : Except TransportError Nat) (buf : Buffer) : Buffer :=
  match result with
  | .ok n => buf.take n
  | .error _ => []

/-- The answer at the end of the stream. -/
def endOfStream (fault : Option StreamFault) : Except TransportError Nat :=
  .error (.io (match fault with
    | none => peerClosed
    | some e => e.val.val))

section Landing

variable {sock after : StreamSock} {dst buf : Buffer} {fault : Option StreamFault}
  {result : Except TransportError Nat}

/-- `Ok(n)`: the first `n` bytes of the destination are written, no others. -/
theorem Landing.untouched {n : Nat} (h : Landing sock dst fault (.ok n, after, buf)) :
    n ≤ dst.length ∧ buf.drop n = dst.drop n := by
  cases h with
  | bytes ready room =>
      have fits : ((sock.queued.take dst.length).map some).length ≤ dst.length := by
        rw [List.length_map]
        exact List.length_take_le _ _
      have kept := drop_overlay fits
      rw [List.length_map, List.length_take] at kept
      exact ⟨Nat.min_le_left _ _, kept⟩
  | idle empty opened => exact ⟨Nat.zero_le _, rfl⟩

/-- An error leaves the destination and the socket as they were. -/
theorem Landing.err_kept {e : TransportError} (h : Landing sock dst fault (.error e, after, buf)) :
    after = sock ∧ buf = dst := by
  cases h <;> exact ⟨rfl, rfl⟩

theorem Landing.ok_zero (h : Landing sock dst fault (.ok 0, after, buf)) :
    sock.queued = [] ∧ sock.closed = false := by
  generalize zero : (Except.ok 0 : Except TransportError Nat) = answer at h
  cases h with
  | bytes ready room =>
      -- a read with room for a byte and a byte to read is not empty
      have := List.length_pos_iff.mpr ready
      have := List.length_pos_iff.mpr room
      rw [Except.ok.injEq] at zero
      omega
  | idle empty opened => exact ⟨empty, opened⟩
  | noRoom | eof | failed => cases zero

/-- The bytes a call landed and those it left queued are those it found queued. -/
theorem Landing.split (h : Landing sock dst fault (result, after, buf)) :
    initialised result buf ++ after.queued.map some = sock.queued.map some := by
  cases h with
  | bytes ready room =>
      have fits : ((sock.queued.take dst.length).map some).length ≤ dst.length := by
        rw [List.length_map]
        exact List.length_take_le _ _
      have landed := take_overlay fits
      rw [List.length_map, List.length_take] at landed
      rw [initialised, landed, ← List.map_append, List.take_append_drop]
  | idle => simp [initialised]
  | noRoom | eof | failed => rfl

/-- After the last byte of a closed stream there is only its end, or a failure. -/
theorem Landing.at_end (closed : sock.closed = true) (empty : sock.queued = [])
    (h : Landing sock dst fault (result, after, buf)) :
    after = sock ∧ result = endOfStream fault := by
  cases h with
  | bytes ready | noRoom ready => exact absurd empty ready
  | idle _ opened => simp [closed] at opened
  | eof | failed => exact ⟨rfl, rfl⟩

/-- An end of stream is one, unless the destination was empty over queued bytes. -/
theorem Landing.eof_iff (h : Landing sock dst fault (result, after, buf)) :
    (result = .error (.io peerClosed) → sock.closed = true ∧ sock.queued = []) ↔
      dst ≠ [] ∨ sock.queued = [] ∨ fault.isSome := by
  cases h with
  | bytes ready room => simp [room]
  | noRoom ready full => simp [full, ready]
  | eof empty closed => simp [empty, closed]
  | idle empty opened => simp [empty]
  | failed e =>
      have other : e.val.val ≠ peerClosed := fun same => e.property (same ▸ rfl)
      simp [other]

end Landing

/-! ## Runs -/

/-- One `recv_into`: what it was given and found, and what it answered and left. -/
structure Call where
  fault : Option StreamFault
  sock : StreamSock
  dst : Buffer
  result : Except TransportError Nat
  buf : Buffer

/-- The bytes the caller marks initialised. -/
def Call.landed (c : Call) : Buffer := initialised c.result c.buf

structure Conn where
  sock : StreamSock
  -- history: all the peer wrote, the calls and the probes made
  written : List UInt8
  calls : List Call
  probes : List (Except IoError Nat)

inductive Action
  | write (data : List UInt8)
  | close
  | recvInto (fault : Option StreamFault) (dst : Buffer)
  | probe

namespace Conn

/-- A connection just established. -/
def start : Conn := ⟨⟨[], false⟩, [], [], []⟩

/-- All bytes landed, in order. -/
def landed (s : Conn) : Buffer := s.calls.flatMap Call.landed

def recvInto (b : Backend) (s : Conn) (fault : Option StreamFault) (dst : Buffer) : Conn :=
  let (result, sock, buf) := backendRecvInto b fault s.sock dst
  { s with sock, calls := s.calls ++ [⟨fault, s.sock, dst, result, buf⟩] }

def step (b : Backend) (s : Conn) : Action → Option Conn
  | .write data =>
    if s.sock.closed then none
    else
      some
        { s with
          sock := { s.sock with queued := s.sock.queued ++ data }
          written := s.written ++ data }
  | .close => some { s with sock := { s.sock with closed := true } }
  | .recvInto fault dst => some (s.recvInto b fault dst)
  | .probe => some { s with probes := s.probes ++ [streamPeek s.sock] }

end Conn

/-- All runs of a connection of backend `b`. -/
def stream (b : Backend) : System Conn Action where
  init s := s = Conn.start
  step := Conn.step b

/-- One step of a connection, by what it does. -/
inductive Step (s : Conn) : Action → Conn → Prop
  | write (data) (opened : s.sock.closed = false) :
      Step s (.write data)
        { s with
          sock := { s.sock with queued := s.sock.queued ++ data }
          written := s.written ++ data }
  | close : Step s .close { s with sock := { s.sock with closed := true } }
  | recvInto {fault dst result sock buf} (landing : Landing s.sock dst fault (result, sock, buf)) :
      Step s (.recvInto fault dst)
        { s with sock, calls := s.calls ++ [⟨fault, s.sock, dst, result, buf⟩] }
  | probe : Step s .probe { s with probes := s.probes ++ [streamPeek s.sock] }

theorem step_of_step {b : Backend} {s t : Conn} {a : Action} (h : s.step b a = some t) :
    Step s a t := by
  cases a with
  | write data =>
      simp only [Conn.step, Option.ite_none_left_eq_some, Option.some.injEq] at h
      obtain ⟨opened, rfl⟩ := h
      exact .write data (by simpa using opened)
  | close => cases h; exact .close
  | recvInto fault dst =>
      cases h
      simp only [Conn.recvInto, backendRecvInto_eq]
      exact .recvInto (landing_recvInto fault s.sock dst)
  | probe => cases h; exact .probe

/-- What was landed and what is queued are what was written. -/
def Intact (s : Conn) : Prop := s.landed ++ s.sock.queued.map some = s.written.map some

theorem intact_step {s t : Conn} {a : Action} (before : Intact s) (h : Step s a t) :
    Intact t := by
  unfold Intact at before ⊢
  cases h with
  | write data opened =>
      show s.landed ++ (s.sock.queued ++ data).map some = (s.written ++ data).map some
      rw [List.map_append, List.map_append, ← List.append_assoc, before]
  | close | probe => exact before
  | recvInto landing =>
      rw [Conn.landed, List.flatMap_append, List.flatMap_singleton, List.append_assoc,
        Call.landed, landing.split]
      exact before

/-- Every call did one of the things `recv_into` does. -/
def Explained (s : Conn) : Prop :=
  ∀ c ∈ s.calls, ∃ after, Landing c.sock c.dst c.fault (c.result, after, c.buf)

theorem explained_step {s t : Conn} {a : Action} (before : Explained s) (h : Step s a t) :
    Explained t := by
  cases h with
  | write | close | probe => exact before
  | recvInto landing =>
      intro c made
      rw [List.mem_append, List.mem_singleton] at made
      rcases made with old | rfl
      · exact before c old
      · exact ⟨_, landing⟩

theorem stream_intact (b : Backend) : (stream b).Invariant fun s => Intact s ∧ Explained s := by
  refine System.Invariant.of_step (System.Invariant.true _) ?_ ?_
  · rintro s rfl
    exact ⟨rfl, fun c made => by cases made⟩
  · rintro s a t _ ⟨intact, explained⟩ taken
    exact ⟨intact_step intact (step_of_step taken), explained_step explained (step_of_step taken)⟩

/-- The stream has ended, and every call since `s` said so. -/
structure EndedSince (s t : Conn) : Prop where
  closed : t.sock.closed = true
  empty : t.sock.queued = []
  calls : ∃ later, t.calls = s.calls ++ later ∧ ∀ c ∈ later, c.result = endOfStream c.fault

theorem endedSince_step {s t u : Conn} {a : Action} (before : EndedSince s t) (h : Step t a u) :
    EndedSince s u := by
  cases h with
  | write data opened => simp [before.closed] at opened
  | close => exact ⟨rfl, before.empty, before.calls⟩
  | probe => exact ⟨before.closed, before.empty, before.calls⟩
  | @recvInto fault dst result sock buf landing =>
      obtain ⟨kept, ended⟩ := landing.at_end before.closed before.empty
      obtain ⟨later, calls, ends⟩ := before.calls
      refine ⟨kept ▸ before.closed, kept ▸ before.empty,
        later ++ [⟨fault, t.sock, dst, result, buf⟩], ?_, ?_⟩
      · rw [← List.append_assoc, ← calls]
      · intro c made
        rw [List.mem_append, List.mem_singleton] at made
        rcases made with old | rfl
        · exact ends c old
        · exact ended

theorem endedSince_run {b : Backend} {s t : Conn} {events : List Action}
    (closed : s.sock.closed = true) (empty : s.sock.queued = [])
    (run : (stream b).runFrom s events = some t) : EndedSince s t := by
  have start : EndedSince s s := by
    refine ⟨closed, empty, [], (List.append_nil _).symm, ?_⟩
    intro c made
    cases made
  have step : ∀ u a v, EndedSince s u → (stream b).step u a = some v → EndedSince s v := by
    intro u a v before taken
    exact endedSince_step before (step_of_step taken)
  exact System.runFrom_preserves step start run

/-- **Stream integrity.** The landed bytes followed by the queued ones are the
peer's byte stream; an `Ok(n)` writes the first `n` bytes of its destination and
an `Err` none; `Ok(0)` means nothing was ready on an open connection; and after
the end of the stream every call reports it. -/
theorem stream_integrity (b : Backend) {s : Conn} (reach : (stream b).Reachable s) :
    s.landed ++ s.sock.queued.map some = s.written.map some ∧
    (∀ c ∈ s.calls,
      (∀ n, c.result = .ok n → n ≤ c.dst.length ∧ c.buf.drop n = c.dst.drop n) ∧
      (∀ e, c.result = .error e → c.buf = c.dst) ∧
      (c.result = .ok 0 → c.sock.queued = [] ∧ c.sock.closed = false)) ∧
    (s.sock.closed = true → s.sock.queued = [] →
      ∀ events t, (stream b).runFrom s events = some t →
        ∃ later, t.calls = s.calls ++ later ∧ ∀ c ∈ later, c.result = endOfStream c.fault) := by
  obtain ⟨intact, explained⟩ := stream_intact b s reach
  refine ⟨intact, ?_, ?_⟩
  · intro c made
    obtain ⟨after, landing⟩ := explained c made
    refine ⟨?_, ?_, ?_⟩
    · intro n ok
      rw [ok] at landing
      exact landing.untouched
    · intro e err
      rw [err] at landing
      exact landing.err_kept.2
    · intro zero
      rw [zero] at landing
      exact landing.ok_zero
  · intro closed empty events t run
    exact (endedSince_run closed empty run).calls

/-- The connection after a list of events. -/
def played (b : Backend) (events : List Action) : Conn := (stream b).replay Conn.start events

theorem played_reachable (b : Backend) (events : List Action) :
    (stream b).Reachable (played b events) :=
  System.Reachable.replay rfl events

/-- Three bytes read by two, a probe, the close, the last byte and the end. -/
def readInTwos : List Action :=
  [.recvInto none [none], .write [1, 2, 3], .recvInto none [none, none], .probe, .close,
    .recvInto none [none, none], .recvInto none [none, none]]

theorem stream_integrity_readInTwos :
    (played .mio readInTwos).landed ++ (played .mio readInTwos).sock.queued.map some =
      [some 1, some 2, some 3] :=
  (stream_integrity .mio (played_reachable .mio readInTwos)).1

/-! ## The end of the stream -/

/-- A call that reports the end of the stream is at it. -/
def Call.Honest (c : Call) : Prop :=
  c.result = .error (.io peerClosed) → c.sock.closed = true ∧ c.sock.queued = []

/-- The call had room for a byte, or nothing to put there, or failed by itself. -/
def Call.Roomy (c : Call) : Prop :=
  c.dst ≠ [] ∨ c.sock.queued = [] ∨ c.fault.isSome

/-- Nothing is queued exactly when everything written has been landed. -/
theorem Intact.queued_nil_iff {s : Conn} (intact : Intact s) :
    s.sock.queued = [] ↔ s.landed = s.written.map some := by
  unfold Intact at intact
  rw [← intact]
  constructor
  · intro empty
    rw [empty, List.map_nil, List.append_nil]
  · intro all
    have rest : s.sock.queued.map some = [] := List.self_eq_append_right.mp all
    exact List.map_eq_nil_iff.mp rest

/-- **Peer close.** In any state of any run, `recv_into` answers `UnexpectedEof`
only at a closed stream with every byte landed, if and only if the destination is
not empty over queued bytes; so a run reports no false end of stream if and only
if no call of it passed an empty destination while bytes were queued. -/
theorem eof_honest_iff (b : Backend) {s : Conn} (reach : (stream b).Reachable s) :
    (∀ fault dst,
      ((backendRecvInto b fault s.sock dst).1 = .error (.io peerClosed) →
        s.sock.closed = true ∧ s.landed = s.written.map some) ↔
      dst ≠ [] ∨ s.sock.queued = [] ∨ fault.isSome) ∧
    ((∀ c ∈ s.calls, c.Honest) ↔ ∀ c ∈ s.calls, c.Roomy) := by
  obtain ⟨intact, explained⟩ := stream_intact b s reach
  refine ⟨?_, ?_⟩
  · intro fault dst
    rw [← intact.queued_nil_iff, backendRecvInto_eq]
    exact (landing_recvInto fault s.sock dst).eof_iff
  · refine forall₂_congr fun c made => ?_
    obtain ⟨after, landing⟩ := explained c made
    exact landing.eof_iff

theorem eof_honest_iff_readInTwos :
    (∀ c ∈ (played .tokio readInTwos).calls, c.Honest) ↔
      ∀ c ∈ (played .tokio readInTwos).calls, c.Roomy :=
  (eof_honest_iff .tokio (played_reachable .tokio readInTwos)).2

/-- One byte queued on an open connection, and a decode buffer with no room left. -/
def fullBuffer : List Action := [.write [1], .recvInto none []]

/-- Both backends report the peer as closed. -/
theorem eof_on_live_stream :
    (stream .tokio).Reachable (played .tokio fullBuffer) ∧
    (played .tokio fullBuffer).calls.map Call.result =
      [.error (.io ⟨.unexpectedEof, "peer closed"⟩)] ∧
    (played .tokio fullBuffer).sock = ⟨[1], false⟩ ∧ (played .tokio fullBuffer).landed = [] ∧
    (stream .mio).Reachable (played .mio fullBuffer) ∧
    (played .mio fullBuffer).calls.map Call.result =
      [.error (.io ⟨.unexpectedEof, "peer closed"⟩)] ∧
    (played .mio fullBuffer).sock = ⟨[1], false⟩ ∧ (played .mio fullBuffer).landed = [] :=
  ⟨played_reachable .tokio fullBuffer, rfl, rfl, rfl,
    played_reachable .mio fullBuffer, rfl, rfl, rfl⟩

end Transports.Tcp
