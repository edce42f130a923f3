import Transports.Core.Seam
import Transports.Lib.Script
import Transports.Testing.Wire

/-!
# `MockPeer`

The scripted peer of the conformance tests: `run_udp` and `run_tcp` take the actions of a
script in order and stop at the first error. The sockets are tokio's, so they stand here
as what each call answers and what it does to the state behind it. The draw of
`should_drop` is part of the script, and a jitter only delays.
-/

namespace Transports.Testing

open Lib Transports.Core

/-! ## Scripts and reports -/

inductive MockAction
  | sendMoldPacket (seq : UInt64) (payload : List UInt8)
  | sendMoldHeartbeat
  | sendSoupPacket (ty : UInt8) (payload : List UInt8)
  | expectClientBytes (expected : List UInt8)
  | sleep (millis : Nat)
  deriving DecidableEq, Repr

/-- An action, with what `should_drop` draws if it is a send. -/
structure Scripted where
  action : MockAction
  dropped : Bool
  deriving DecidableEq, Repr

structure MockRunReport where
  actionsCompleted : Nat
  bytesSent : Nat
  bytesDroppedSynthetic : Nat
  deriving DecidableEq, Repr

/-- `MockRunReport::default`. -/
def MockRunReport.default : MockRunReport := ⟨0, 0, 0⟩

inductive MockPeerError
  | bind (e : IoError)
  | io (e : IoError)
  | missingUdpTarget
  | tcpExpectShort
  | expectMismatch (expected got : List UInt8)
  deriving DecidableEq, Repr

/-! ## What an await leads to -/

/-- No value: the call fails, or nothing ever ends the wait for it. -/
inductive Halt (ε : Type)
  | waiting
  | failed (e : ε)
  deriving DecidableEq, Repr

def Halt.map {ε ε' : Type} (wrap : ε → ε') : Halt ε → Halt ε'
  | .waiting => .waiting
  | .failed e => .failed (wrap e)

/-- The value of an awaited call, and the state it leaves. -/
abbrev Awaited (ε S α : Type) := Except (Halt ε) α × S

/-- `map_err(wrap)` and `?`. -/
def attempt {S α : Type} (wrap : IoError → MockPeerError) (call : Awaited IoError S α) :
    Awaited MockPeerError S α :=
  match call with
  | (.ok a, s) => (.ok a, s)
  | (.error h, s) => (.error (h.map wrap), s)

/-- A UDP socket, before and after `bind`. -/
structure UdpSocket (U : Type) where
  bind : U → SocketAddr → Awaited IoError U Unit
  sendTo : U → List UInt8 → SocketAddr → Awaited IoError U Nat
  /-- The bytes put into a buffer of this length. -/
  recvFrom : U → Nat → Awaited IoError U (List UInt8)

/-- A TCP listener and the stream it accepts. -/
structure TcpPeer (T : Type) where
  bind : T → SocketAddr → Awaited IoError T Unit
  accept : T → Awaited IoError T Unit
  writeAll : T → List UInt8 → Awaited IoError T Unit
  /-- The bytes of one read into a buffer of this length; none at the end of the stream. -/
  read : T → Nat → Awaited IoError T (List UInt8)

/-- `AsyncReadExt::read_exact`: read until the buffer is full. -/
def TcpPeer.readExact {T : Type} (io : TcpPeer T) (t : T) (missing : Nat) :
    Awaited IoError T (List UInt8) :=
  if missing = 0 then (.ok [], t)
  else match io.read t missing with
    | (.error h, u) => (.error h, u)
    | (.ok [], u) => (.error (.failed ⟨.unexpectedEof, "early eof"⟩), u)
    | (.ok (byte :: chunk), u) =>
      match io.readExact u (missing - (chunk.length + 1)) with
      | (.error h, v) => (.error h, v)
      | (.ok rest, v) => (.ok (byte :: chunk ++ rest), v)
termination_by missing

/-! ## The run -/

/-- Where a run stands: the socket, and the report so far. -/
structure Run (S : Type) where
  sock : S
  report : MockRunReport

variable {S U T : Type}

/-- `send_udp` and `send_tcp` up to how they deliver a buffer that is not dropped, which
gives what `bytes_sent` counts. -/
def sendVia (deliver : S → List UInt8 → Awaited MockPeerError S Nat) (bytes : List UInt8)
    (dropped : Bool) (run : Run S) : Awaited MockPeerError (Run S) Unit :=
  if dropped then
    (.ok (), { run with report := { run.report with
      bytesDroppedSynthetic := run.report.bytesDroppedSynthetic + bytes.length } })
  else match deliver run.sock bytes with
    | (.error h, sock) => (.error h, { run with sock })
    | (.ok n, sock) =>
      (.ok (), { sock, report := { run.report with bytesSent := run.report.bytesSent + n } })

/-- What the two loops differ in. -/
structure Port (S : Type) where
  send : List UInt8 → Bool → Run S → Awaited MockPeerError (Run S) Unit
  expect : S → List UInt8 → Awaited MockPeerError S Unit
  deliver : S → List UInt8 → Awaited MockPeerError S Nat
  via : send = sendVia deliver

/-- `report.actions_completed += 1`, unless the action failed. -/
def complete : Awaited MockPeerError (Run S) Unit → Awaited MockPeerError (Run S) Unit
  | (.error h, run) => (.error h, run)
  | (.ok (), run) => (.ok (), { run with report := { run.report with
      actionsCompleted := run.report.actionsCompleted + 1 } })

/-- One turn of the loop over the script. -/
def act (port : Port S) (run : Run S) (a : Scripted) : Awaited MockPeerError (Run S) Unit :=
  complete <| match a.action with
    | .sendMoldPacket seq payload => port.send (encodeMoldData seq payload) a.dropped run
    | .sendMoldHeartbeat => port.send encodeMoldHeartbeat a.dropped run
    | .sendSoupPacket ty payload => port.send (encodeSoup ty payload) a.dropped run
    | .expectClientBytes expected =>
      match port.expect run.sock expected with
      | (verdict, sock) => (verdict, { run with sock })
    | .sleep _ => (.ok (), run)

/-- `Ok(report)` at the end of the loop. -/
def conclude : Awaited MockPeerError (Run S) Unit → Awaited MockPeerError (Run S) MockRunReport
  | (.error h, run) => (.error h, run)
  | (.ok (), run) => (.ok run.report, run)

/-- `run_udp` and `run_tcp` once their sockets are asked for. -/
def runOn (port : Port S) (opened : Awaited MockPeerError S Unit) (script : List Scripted) :
    Awaited MockPeerError (Run S) MockRunReport :=
  match opened with
  | (.error h, s) => (.error h, ⟨s, .default⟩)
  | (.ok (), s) => conclude (runAll (act port) script ⟨s, .default⟩)

/-- `if got != expected` of an `ExpectClientBytes`. -/
def matched (expected : List UInt8) :
    Awaited MockPeerError S (List UInt8) → Awaited MockPeerError S Unit
  | (.error h, s) => (.error h, s)
  | (.ok got, s) =>
    if got ≠ expected then (.error (.failed (.expectMismatch expected got)), s) else (.ok (), s)

/-! ## UDP -/

/-- `64 * 1024`. -/
def recvBufLen : Nat := 65536

def deliverUdp (io : UdpSocket U) (target : Option SocketAddr) (u : U) (bytes : List UInt8) :
    Awaited MockPeerError U Nat :=
  match target with
  | none => (.error (.failed .missingUdpTarget), u)
  | some target => attempt .io (io.sendTo u bytes target)

def sendUdp (io : UdpSocket U) (target : Option SocketAddr) :
    List UInt8 → Bool → Run U → Awaited MockPeerError (Run U) Unit :=
  sendVia (deliverUdp io target)

/-- The `ExpectClientBytes` arm of `run_udp`. -/
def expectUdp (io : UdpSocket U) (u : U) (expected : List UInt8) : Awaited MockPeerError U Unit :=
  matched expected (attempt .io (io.recvFrom u recvBufLen))

def udpPort (io : UdpSocket U) (target : Option SocketAddr) : Port U where
  send := sendUdp io target
  expect := expectUdp io
  deliver := deliverUdp io target
  via := rfl

def runUdp (io : UdpSocket U) (bind : SocketAddr) (script : List Scripted)
    (target : Option SocketAddr) (u : U) : Awaited MockPeerError (Run U) MockRunReport :=
  runOn (udpPort io target) (attempt .bind (io.bind u bind)) script

/-! ## TCP -/

/-- `write_all` keeps no count: the buffer's length is what is added up. -/
def deliverTcp (io : TcpPeer T) (t : T) (bytes : List UInt8) : Awaited MockPeerError T Nat :=
  match attempt .io (io.writeAll t bytes) with
  | (.error h, u) => (.error h, u)
  | (.ok (), u) => (.ok bytes.length, u)

def sendTcp (io : TcpPeer T) : List UInt8 → Bool → Run T → Awaited MockPeerError (Run T) Unit :=
  sendVia (deliverTcp io)

/-- The `ExpectClientBytes` arm of `run_tcp`. -/
def expectTcp (io : TcpPeer T) (t : T) (expected : List UInt8) : Awaited MockPeerError T Unit :=
  matched expected (attempt (fun _ => .tcpExpectShort) (io.readExact t expected.length))

def tcpPort (io : TcpPeer T) : Port T where
  send := sendTcp io
  expect := expectTcp io
  deliver := deliverTcp io
  via := rfl

/-- Bind, then accept one connection. -/
def listen (io : TcpPeer T) (bind : SocketAddr) (t : T) : Awaited MockPeerError T Unit :=
  match attempt .bind (io.bind t bind) with
  | (.error h, u) => (.error h, u)
  | (.ok (), u) => attempt .io (io.accept u)

def runTcp (io : TcpPeer T) (bind : SocketAddr) (script : List Scripted) (t : T) :
    Awaited MockPeerError (Run T) MockRunReport :=
  runOn (tcpPort io) (listen io bind t) script

/-! ## What one action does -/

/-- The buffer of a send action. -/
def MockAction.encoded : MockAction → Option (List UInt8)
  | .sendMoldPacket seq payload => some (encodeMoldData seq payload)
  | .sendMoldHeartbeat => some encodeMoldHeartbeat
  | .sendSoupPacket ty payload => some (encodeSoup ty payload)
  | .expectClientBytes _ | .sleep _ => none

/-- The buffer this turn hands to the socket. -/
def Scripted.sent (a : Scripted) : Option (List UInt8) :=
  if a.dropped then none else a.action.encoded

/-- The bytes this turn waits for. -/
def Scripted.expected (a : Scripted) : Option (List UInt8) :=
  match a.action with
  | .expectClientBytes expected => some expected
  | _ => none

/-- One more action completed, with this many bytes sent and dropped. -/
def Run.after (run : Run S) (sock : S) (sent dropped : Nat) : Run S :=
  ⟨sock, run.report.actionsCompleted + 1, run.report.bytesSent + sent,
    run.report.bytesDroppedSynthetic + dropped⟩

/-- Everything one turn can do. -/
inductive Acted (port : Port S) (a : Scripted) (run : Run S) :
    Awaited MockPeerError (Run S) Unit → Prop
  | dropped {bytes} : a.action.encoded = some bytes → a.sent = none → a.expected = none →
      Acted port a run (.ok (), run.after run.sock 0 bytes.length)
  | sent {bytes n sock} : a.action.encoded = some bytes → a.sent = some bytes →
      a.expected = none → port.deliver run.sock bytes = (.ok n, sock) →
      Acted port a run (.ok (), run.after sock n 0)
  | unsent {bytes h sock} : a.sent = some bytes → a.expected = none →
      port.deliver run.sock bytes = (.error h, sock) →
      Acted port a run (.error h, { run with sock })
  | met {expected sock} : a.action.encoded = none → a.expected = some expected →
      port.expect run.sock expected = (.ok (), sock) →
      Acted port a run (.ok (), run.after sock 0 0)
  | unmet {expected h sock} : a.sent = none → a.expected = some expected →
      port.expect run.sock expected = (.error h, sock) →
      Acted port a run (.error h, { run with sock })
  | slept : a.action.encoded = none → a.expected = none →
      Acted port a run (.ok (), run.after run.sock 0 0)

theorem Scripted.sent_of_encoded {a : Scripted} (idle : a.action.encoded = none) :
    a.sent = none := by
  rw [Scripted.sent, idle, ite_self]

theorem acted_send (port : Port S) {a : Scripted} {bytes : List UInt8} (run : Run S)
    (sends : a.action.encoded = some bytes) (unread : a.expected = none) :
    Acted port a run (complete (port.send bytes a.dropped run)) := by
  have sent : a.sent = if a.dropped then none else some bytes := by rw [Scripted.sent, sends]
  rw [port.via, sendVia]
  cases draw : a.dropped with
  | true =>
      rw [draw] at sent
      exact .dropped sends sent unread
  | false =>
      rw [draw] at sent
      rcases answer : port.deliver run.sock bytes with ⟨verdict, sock⟩
      cases verdict with
      | error h => exact .unsent sent unread answer
      | ok n => exact .sent sends sent unread answer

theorem acted (port : Port S) (run : Run S) (a : Scripted) : Acted port a run (act port run a) := by
  obtain ⟨action, dropped⟩ := a
  cases action with
  | sendMoldPacket seq payload => exact acted_send port run rfl rfl
  | sendMoldHeartbeat => exact acted_send port run rfl rfl
  | sendSoupPacket ty payload => exact acted_send port run rfl rfl
  | sleep millis => exact .slept rfl rfl
  | expectClientBytes expected =>
      rcases answer : port.expect run.sock expected with ⟨verdict, sock⟩
      have taken : act port run ⟨.expectClientBytes expected, dropped⟩ =
          complete (verdict, { run with sock }) := by
        simp only [act, answer]
      rw [taken]
      cases verdict with
      | error h => exact .unmet (Scripted.sent_of_encoded rfl) rfl answer
      | ok => exact .met rfl rfl answer

theorem acted_of_act {port : Port S} {run : Run S} {a : Scripted}
    {outcome : Awaited MockPeerError (Run S) Unit} (taken : act port run a = outcome) :
    Acted port a run outcome :=
  taken ▸ acted port run a

/-! ## What the calls answer -/

section Calls

variable {α : Type} {wrap : IoError → MockPeerError} {call : Awaited IoError S α} {s : S}
  {h : Halt MockPeerError}

theorem attempt_ok_iff {a : α} : attempt wrap call = (.ok a, s) ↔ call = (.ok a, s) := by
  obtain ⟨verdict, t⟩ := call
  cases verdict <;> simp [attempt]

theorem attempt_error_iff :
    attempt wrap call = (.error h, s) ↔ ∃ h', call = (.error h', s) ∧ h = h'.map wrap := by
  obtain ⟨verdict, t⟩ := call
  cases verdict with
  | ok a => simp [attempt]
  | error h' => simp [attempt, and_comm, eq_comm]

/-- An error `wrap` does not make is not what a wrapped call fails with. -/
theorem Halt.map_ne {e : MockPeerError} (never : ∀ e', wrap e' ≠ e) (h : Halt IoError) :
    h.map wrap ≠ .failed e := by
  cases h with
  | waiting => exact nofun
  | failed e' => exact fun same => never e' (Halt.failed.inj same)

@[simp] theorem attempt_state (wrap : IoError → MockPeerError) (call : Awaited IoError S α) :
    (attempt wrap call).2 = call.2 := by
  obtain ⟨verdict, t⟩ := call
  cases verdict <;> rfl

variable {expected : List UInt8} {answer : Awaited MockPeerError S (List UInt8)}

theorem matched_ok_iff : matched expected answer = (.ok (), s) ↔ answer = (.ok expected, s) := by
  obtain ⟨verdict, t⟩ := answer
  cases verdict with
  | error h => simp [matched]
  | ok got => by_cases same : got = expected <;> simp [matched, same]

theorem matched_error_iff :
    matched expected answer = (.error h, s) ↔
      answer = (.error h, s) ∨
      ∃ got, answer = (.ok got, s) ∧ got ≠ expected ∧
        h = .failed (.expectMismatch expected got) := by
  obtain ⟨verdict, t⟩ := answer
  cases verdict with
  | error h => simp [matched]
  | ok got =>
      by_cases same : got = expected
      · simp [matched, same]
      · have differ : ¬ expected = got := fun back => same back.symm
        simp [matched, same, differ, and_comm, eq_comm]

@[simp] theorem matched_state (expected : List UInt8)
    (answer : Awaited MockPeerError S (List UInt8)) : (matched expected answer).2 = answer.2 := by
  obtain ⟨verdict, t⟩ := answer
  cases verdict with
  | error h => rfl
  | ok got => by_cases same : got = expected <;> simp [matched, same]

end Calls

section Udp

variable {io : UdpSocket U} {target : Option SocketAddr} {u v : U} {bytes : List UInt8}

theorem deliverUdp_ok_iff {n : Nat} :
    deliverUdp io target u bytes = (.ok n, v) ↔
      ∃ addr, target = some addr ∧ io.sendTo u bytes addr = (.ok n, v) := by
  cases target with
  | none => simp [deliverUdp]
  | some addr => simp [deliverUdp, attempt_ok_iff]

theorem deliverUdp_error_iff {h : Halt MockPeerError} :
    deliverUdp io target u bytes = (.error h, v) ↔
      (target = none ∧ h = .failed .missingUdpTarget ∧ v = u) ∨
      ∃ addr h', target = some addr ∧ io.sendTo u bytes addr = (.error h', v) ∧
        h = h'.map .io := by
  cases target with
  | none => simp [deliverUdp, eq_comm]
  | some addr => simp [deliverUdp, attempt_error_iff]

end Udp

section Tcp

variable {io : TcpPeer T} {t v : T} {bytes : List UInt8}

theorem deliverTcp_ok_iff {n : Nat} :
    deliverTcp io t bytes = (.ok n, v) ↔
      n = bytes.length ∧ io.writeAll t bytes = (.ok (), v) := by
  have plain : attempt .io (io.writeAll t bytes) = (.ok (), v) ↔ _ := attempt_ok_iff
  rw [deliverTcp, ← plain]
  rcases attempt .io (io.writeAll t bytes) with ⟨verdict, u⟩
  cases verdict with
  | error h => simp
  | ok => simp [eq_comm]

theorem deliverTcp_error_iff {h : Halt MockPeerError} :
    deliverTcp io t bytes = (.error h, v) ↔
      ∃ h', io.writeAll t bytes = (.error h', v) ∧ h = h'.map .io := by
  rw [deliverTcp, ← attempt_error_iff]
  rcases attempt .io (io.writeAll t bytes) with ⟨verdict, u⟩
  cases verdict <;> simp

end Tcp

/-! ## How a run ends -/

section Ends

variable {port : Port S} {opened : Awaited MockPeerError S Unit} {script : List Scripted}

theorem runOn_opened {s : S} (there : opened = (.ok (), s)) :
    runOn port opened script = conclude (runAll (act port) script ⟨s, .default⟩) := by
  subst there
  rfl

theorem runOn_unopened {h : Halt MockPeerError} {s : S} (absent : opened = (.error h, s)) :
    runOn port opened script = (.error h, ⟨s, .default⟩) := by
  subst absent
  rfl

theorem conclude_ok_iff {outcome : Awaited MockPeerError (Run S) Unit} {report : MockRunReport}
    {after : Run S} :
    conclude outcome = (.ok report, after) ↔ outcome = (.ok (), after) ∧ report = after.report := by
  obtain ⟨verdict, run⟩ := outcome
  cases verdict with
  | error h => simp [conclude]
  | ok =>
      simp only [conclude, Prod.mk.injEq, Except.ok.injEq, true_and]
      constructor
      · intro ⟨same, here⟩
        exact ⟨here, by rw [← same, here]⟩
      · intro ⟨here, same⟩
        exact ⟨by rw [same, here], here⟩

theorem runOn_ok_iff {report : MockRunReport} {after : Run S} :
    runOn port opened script = (.ok report, after) ↔
      ∃ s, opened = (.ok (), s) ∧ runAll (act port) script ⟨s, .default⟩ = (.ok (), after) ∧
        report = after.report := by
  constructor
  · intro ended
    rcases there : opened with ⟨verdict, s⟩
    cases verdict with
    | error h =>
        rw [runOn_unopened there] at ended
        cases ended
    | ok =>
        rw [runOn_opened there] at ended
        exact ⟨s, rfl, conclude_ok_iff.mp ended⟩
  · intro ⟨s, there, ended⟩
    rw [runOn_opened there]
    exact conclude_ok_iff.mpr ended

/-- The socket is not there, or one action fails after those before it completed. -/
inductive Stopped (port : Port S) (opened : Awaited MockPeerError S Unit) :
    List Scripted → Halt MockPeerError → Run S → Prop
  | unopened {script h s} : opened = (.error h, s) → Stopped port opened script h ⟨s, .default⟩
  | action {pre a post s mid h after} : opened = (.ok (), s) →
      runAll (act port) pre ⟨s, .default⟩ = (.ok (), mid) → act port mid a = (.error h, after) →
      Stopped port opened (pre ++ a :: post) h after

theorem runOn_error_iff {h : Halt MockPeerError} {after : Run S} :
    runOn port opened script = (.error h, after) ↔ Stopped port opened script h after := by
  constructor
  · intro stopped
    rcases there : opened with ⟨verdict, s⟩
    cases verdict with
    | error h' =>
        rw [runOn_unopened there] at stopped
        cases stopped
        exact .unopened rfl
    | ok =>
        rw [runOn_opened there] at stopped
        rcases runAll_cases (act port) script ⟨s, .default⟩ with
          ⟨mid, done⟩ | ⟨pre, a, post, mid, h', u, rfl, before, failed, ends⟩
        · rw [done] at stopped
          cases stopped
        · rw [ends] at stopped
          cases stopped
          exact .action rfl before failed
  · intro stopped
    cases stopped with
    | unopened absent => exact runOn_unopened absent
    | action there before failed =>
        rw [runOn_opened there, runAll_append_ok before, runAll_cons_error failed]
        rfl

variable {pre : List Scripted} {report : MockRunReport} {mid : Run S} {expected : List UInt8}
  {v : S}

theorem act_expect (port : Port S) (run : Run S) (expected : List UInt8) (dropped : Bool) :
    act port run ⟨.expectClientBytes expected, dropped⟩ =
      complete ((port.expect run.sock expected).1,
        { run with sock := (port.expect run.sock expected).2 }) := rfl

/-- A run that gets past one more expectation. -/
theorem runOn_met (dropped : Bool) (before : runOn port opened pre = (.ok report, mid))
    (answer : port.expect mid.sock expected = (.ok (), v)) :
    runOn port opened (pre ++ [⟨.expectClientBytes expected, dropped⟩]) =
      (.ok (mid.after v 0 0).report, mid.after v 0 0) := by
  obtain ⟨s, there, done, _⟩ := runOn_ok_iff.mp before
  refine runOn_ok_iff.mpr ⟨s, there, ?_, rfl⟩
  rw [runAll_append_ok done, runAll_one, act_expect, answer]
  rfl

/-- A run that stops at the next expectation. -/
theorem runOn_unmet {h : Halt MockPeerError} (dropped : Bool)
    (before : runOn port opened pre = (.ok report, mid))
    (answer : port.expect mid.sock expected = (.error h, v)) (post : List Scripted) :
    runOn port opened (pre ++ ⟨.expectClientBytes expected, dropped⟩ :: post) =
      (.error h, { mid with sock := v }) := by
  obtain ⟨s, there, done, _⟩ := runOn_ok_iff.mp before
  refine runOn_error_iff.mpr (.action there done ?_)
  rw [act_expect, answer]
  rfl

/-- A run that ends gives a report, or stops. -/
theorem runOn_ends (port : Port S) (opened : Awaited MockPeerError S Unit)
    (script : List Scripted) :
    (∃ report after, runOn port opened script = (.ok report, after)) ∨
      ∃ h after, runOn port opened script = (.error h, after) := by
  rcases runOn port opened script with ⟨verdict, after⟩
  cases verdict with
  | ok report => exact .inl ⟨report, after, rfl⟩
  | error h => exact .inr ⟨h, after, rfl⟩

end Ends

end Transports.Testing
