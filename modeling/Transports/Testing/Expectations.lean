import Transports.Testing.Conservation

/-!
# What the expectations accept

An `ExpectClientBytes` that is met takes exactly its own bytes off the client's stream, or
one datagram off the socket, and a send takes nothing. So the expectations of a script
are met one after the other if and only if they are a first part of the input.
-/

namespace Transports.Testing

open Lib Transports.Core

variable {S U T β : Type}

/-- The byte strings a script waits for, in order. -/
def expectedBy (script : List Scripted) : List (List UInt8) := script.filterMap Scripted.expected

theorem expectedBy_snoc (pre : List Scripted) (a : Scripted) :
    expectedBy (pre ++ [a]) = expectedBy pre ++ a.expected.toList :=
  filterMap_snoc Scripted.expected pre a

theorem mem_sentBy {script : List Scripted} {a : Scripted} {bytes : List UInt8}
    (member : a ∈ script) (sent : a.sent = some bytes) : bytes ∈ sentBy script :=
  List.mem_filterMap.mpr ⟨a, member, sent⟩

/-! ## Any port that takes its input in segments -/

/-- `left` is the input not yet taken, and `segment` what an expectation has to take. -/
structure Port.Consumes (port : Port S) (left : S → List β) (segment : List UInt8 → List β) :
    Prop where
  delivered : ∀ {s bytes verdict t}, port.deliver s bytes = (verdict, t) → left t = left s
  met : ∀ {s expected t}, port.expect s expected = (.ok (), t) →
    left s = segment expected ++ left t
  unmet : ∀ {s expected h t}, port.expect s expected = (.error h, t) →
    ¬ segment expected <+: left s

section Ports

variable {port : Port S} {left : S → List β} {segment : List UInt8 → List β}
  {script pre : List Scripted} {a : Scripted} {run after : Run S} {input : List β}

/-- The loop's invariant: what the actions `pre` wait for is what they have taken. -/
def Taken (left : S → List β) (segment : List UInt8 → List β) (input : List β)
    (pre : List Scripted) (run : Run S) : Prop :=
  input = (expectedBy pre).flatMap segment ++ left run.sock

theorem taken_act (law : port.Consumes left segment) (before : Taken left segment input pre run)
    (turn : act port run a = (.ok (), after)) : Taken left segment input (pre ++ [a]) after := by
  unfold Taken at before ⊢
  rw [expectedBy_snoc]
  cases acted_of_act turn with
  | dropped _ _ quiet | slept _ quiet =>
      rw [quiet, Option.toList_none, List.append_nil]
      exact before
  | sent _ _ quiet answer =>
      rw [quiet, Option.toList_none, List.append_nil, before, ← law.delivered answer]
      rfl
  | @met expected sock _ waits answer =>
      rw [waits, Option.toList_some, List.flatMap_append, List.flatMap_singleton, before,
        law.met answer, List.append_assoc]
      rfl

theorem taken_run (law : port.Consumes left segment) {s : S}
    (done : runAll (act port) script ⟨s, .default⟩ = (.ok (), after)) :
    left s = (expectedBy script).flatMap segment ++ left after.sock := by
  have start : Taken left segment (left s) [] (⟨s, .default⟩ : Run S) := rfl
  refine runAll_induction (P := Taken left segment (left s)) start ?_ done
  intro pre a run after _ before turn
  exact taken_act law before turn

/-- If no send fails, a run that stops does so at an expectation it cannot take. -/
theorem refused_of_stopped (law : port.Consumes left segment) {s : S}
    (sendable : ∀ bytes ∈ sentBy script, ∀ s h t, port.deliver s bytes ≠ (.error h, t))
    {h : Halt MockPeerError}
    (stopped : Stopped port (.ok (), s) script h after) :
    ∃ pre expected dropped post mid,
      script = pre ++ ⟨.expectClientBytes expected, dropped⟩ :: post ∧
      runAll (act port) pre ⟨s, .default⟩ = (.ok (), mid) ∧
      left s = (expectedBy pre).flatMap segment ++ left mid.sock ∧
      port.expect mid.sock expected = (.error h, after.sock) := by
  cases stopped with
  | unopened absent => cases absent
  | @action pre a post _ mid _ _ there before failed =>
      cases there
      cases acted_of_act failed with
      | unsent handed _ answer =>
          have member : a ∈ pre ++ a :: post := List.mem_append_right pre (.head post)
          exact absurd answer (sendable _ (mem_sentBy member handed) _ _ _)
      | @unmet expected _ sock _ waits answer =>
          obtain ⟨action, dropped⟩ := a
          cases action with
          | expectClientBytes bytes =>
              cases waits
              exact ⟨pre, expected, dropped, post, mid, rfl, before, taken_run law before, answer⟩
          | sendMoldPacket | sendMoldHeartbeat | sendSoupPacket | sleep => cases waits

/-- **Acceptance.** If no send fails, a run completes if and only if its expectations are
a first part of the input. -/
theorem runOn_ok_iff_prefix (law : port.Consumes left segment) {s : S}
    (sendable : ∀ bytes ∈ sentBy script, ∀ s h t, port.deliver s bytes ≠ (.error h, t)) :
    (∃ report after, runOn port (.ok (), s) script = (.ok report, after)) ↔
      (expectedBy script).flatMap segment <+: left s := by
  constructor
  · intro ⟨report, after, ended⟩
    obtain ⟨_, there, done, _⟩ := runOn_ok_iff.mp ended
    cases there
    exact ⟨left after.sock, (taken_run law done).symm⟩
  · intro ⟨later, whole⟩
    rcases runOn_ends port (.ok (), s) script with ended | ⟨h, after, ended⟩
    · exact ended
    obtain ⟨pre, expected, dropped, post, mid, cut, _, taken, answer⟩ :=
      refused_of_stopped law sendable (runOn_error_iff.mp ended)
    refine absurd ?_ (law.unmet answer)
    -- what the prefix leaves starts with the segment the run could not take
    have waits : expectedBy script = expectedBy pre ++ expected :: expectedBy post := by
      rw [cut, expectedBy, List.filterMap_append]
      rfl
    rw [waits, List.flatMap_append, List.flatMap_cons, List.append_assoc, taken] at whole
    have next := List.append_cancel_left whole
    rw [List.append_assoc] at next
    exact ⟨_, next⟩

end Ports

/-! ## TCP -/

/-- A client that ends its stream: `left` is what it has written and nobody has read. A
read gives some of it, and nothing only when there is nothing left. -/
structure TcpPeer.Client (io : TcpPeer T) (left : T → List UInt8) : Prop where
  bind : ∀ t addr, ∃ v, io.bind t addr = (.ok (), v) ∧ left v = left t
  accept : ∀ t, ∃ v, io.accept t = (.ok (), v) ∧ left v = left t
  wrote : ∀ {t bytes verdict v}, io.writeAll t bytes = (verdict, v) → left v = left t
  read : ∀ t room, 0 < room → ∃ chunk v, io.read t room = (.ok chunk, v) ∧
    left t = chunk ++ left v ∧ chunk.length ≤ room ∧ (chunk = [] → left t = [])

/-- How `run_tcp` ends at an expectation that what is left does not start with. -/
def shortOrMismatch (expected rest : List UInt8) : MockPeerError :=
  if rest.length < expected.length then .tcpExpectShort
  else .expectMismatch expected (rest.take expected.length)

section Tcp

variable {io : TcpPeer T} {left : T → List UInt8}

/-- A read that gives bytes gives the next ones. -/
theorem read_ok (client : io.Client left) {t v : T} {room : Nat} {chunk : List UInt8}
    (some : room ≠ 0) (answer : io.read t room = (.ok chunk, v)) :
    left t = chunk ++ left v ∧ chunk.length ≤ room ∧ (chunk = [] → left t = []) := by
  obtain ⟨_, _, read, rest⟩ := client.read t room (Nat.pos_of_ne_zero some)
  rw [answer] at read
  cases read
  exact rest

/-- No read of a client that ends its stream fails. -/
theorem read_ne_error (client : io.Client left) {t v : T} {room : Nat} {h : Halt IoError}
    (some : room ≠ 0) : io.read t room ≠ (.error h, v) := by
  intro answer
  obtain ⟨_, _, read, _⟩ := client.read t room (Nat.pos_of_ne_zero some)
  rw [answer] at read
  cases read

/-- What `read_exact` has come to: its bytes off the front, or there were fewer. -/
def ReadWhole (left : T → List UInt8) (t : T) (missing : Nat) :
    Awaited IoError T (List UInt8) → Prop
  | (.ok got, v) => got.length = missing ∧ left t = got ++ left v
  | (.error h, _) => (∃ e, h = .failed e) ∧ (left t).length < missing

/-- So it is in whatever chunks the client writes. -/
theorem readExact_whole (client : io.Client left) (t : T) (missing : Nat) :
    ReadWhole left t missing (io.readExact t missing) := by
  fun_induction TcpPeer.readExact io t missing with
  | case1 t => exact ⟨rfl, rfl⟩
  | case2 t missing more h u answer => exact absurd answer (read_ne_error client more)
  | case3 t missing more u answer =>
      obtain ⟨_, _, ended⟩ := read_ok client more answer
      refine ⟨⟨_, rfl⟩, ?_⟩
      rw [ended rfl]
      exact Nat.pos_of_ne_zero more
  | case4 t missing more byte chunk u answer h v rest ih =>
      obtain ⟨joined, fits, _⟩ := read_ok client more answer
      rw [rest] at ih
      obtain ⟨how, short⟩ := ih
      refine ⟨how, ?_⟩
      rw [joined, List.length_append]
      rw [List.length_cons] at fits ⊢
      omega
  | case5 t missing more byte chunk u answer later v rest ih =>
      obtain ⟨joined, fits, _⟩ := read_ok client more answer
      rw [rest] at ih
      obtain ⟨long, tail⟩ := ih
      refine ⟨?_, ?_⟩
      · rw [List.length_append, long]
        rw [List.length_cons] at fits ⊢
        omega
      · rw [joined, tail, List.append_assoc]

theorem expectTcp_met (client : io.Client left) {t v : T} {expected : List UInt8}
    (answer : expectTcp io t expected = (.ok (), v)) : left t = expected ++ left v := by
  have whole := readExact_whole client t expected.length
  rw [attempt_ok_iff.mp (matched_ok_iff.mp answer)] at whole
  exact whole.2

theorem expectTcp_unmet (client : io.Client left) {t v : T} {expected : List UInt8}
    {h : Halt MockPeerError} (answer : expectTcp io t expected = (.error h, v)) :
    ¬ expected <+: left t ∧ h = .failed (shortOrMismatch expected (left t)) := by
  have whole := readExact_whole client t expected.length
  unfold shortOrMismatch
  rcases matched_error_iff.mp answer with failed | ⟨got, read, differs, rfl⟩
  · obtain ⟨h', read, rfl⟩ := attempt_error_iff.mp failed
    rw [read] at whole
    obtain ⟨⟨e, rfl⟩, short⟩ := whole
    rw [if_pos short]
    refine ⟨?_, rfl⟩
    intro first
    exact absurd first.length_le (Nat.not_le_of_lt short)
  · rw [attempt_ok_iff.mp read] at whole
    obtain ⟨long, joined⟩ := whole
    have enough : ¬ (left t).length < expected.length := by
      rw [joined, List.length_append, long]
      omega
    have front : (left t).take expected.length = got := by
      rw [joined, ← long, List.take_left]
    rw [if_neg enough, front]
    refine ⟨?_, rfl⟩
    intro first
    exact differs (front.symm.trans (List.prefix_iff_eq_take.mp first).symm)

theorem tcpPort_consumes (client : io.Client left) : (tcpPort io).Consumes left id where
  delivered := by
    intro t bytes verdict v answer
    have here : (io.writeAll t bytes).2 = v := by
      cases verdict with
      | ok n =>
          rw [(deliverTcp_ok_iff.mp answer).2]
      | error h =>
          obtain ⟨h', failed, _⟩ := deliverTcp_error_iff.mp answer
          rw [failed]
    rw [← here]
    exact client.wrote rfl
  met := expectTcp_met client
  unmet := fun answer => (expectTcp_unmet client answer).1

/-- The client connects with all its input still unread. -/
theorem listen_client (client : io.Client left) (bind : SocketAddr) (t : T) :
    ∃ s, listen io bind t = (.ok (), s) ∧ left s = left t := by
  obtain ⟨u, bound, first⟩ := client.bind t bind
  obtain ⟨v, accepted, second⟩ := client.accept u
  refine ⟨v, ?_, second.trans first⟩
  rw [listen, attempt_ok_iff.mpr bound]
  exact attempt_ok_iff.mpr accepted

variable {bind : SocketAddr} {script : List Scripted} {t : T}

theorem tcp_sendable {outgoing : List (List UInt8)}
    (writes : ∀ bytes ∈ outgoing, ∀ t, ∃ v, io.writeAll t bytes = (.ok (), v)) :
    ∀ bytes ∈ outgoing, ∀ t h v, (tcpPort io).deliver t bytes ≠ (.error h, v) := by
  intro bytes member t h v answer
  obtain ⟨h', failed, _⟩ := deliverTcp_error_iff.mp answer
  obtain ⟨w, wrote⟩ := writes bytes member t
  rw [failed] at wrote
  cases wrote

theorem runTcp_ok_iff (client : io.Client left)
    (writes : ∀ bytes ∈ sentBy script, ∀ t, ∃ v, io.writeAll t bytes = (.ok (), v)) :
    (∃ report after, runTcp io bind script t = (.ok report, after)) ↔
      (expectedBy script).flatten <+: left t := by
  obtain ⟨s, there, unread⟩ := listen_client client bind t
  rw [runTcp, there, runOn_ok_iff_prefix (tcpPort_consumes client) (tcp_sendable writes),
    List.flatMap_id, unread]

theorem runTcp_error (client : io.Client left)
    (writes : ∀ bytes ∈ sentBy script, ∀ t, ∃ v, io.writeAll t bytes = (.ok (), v))
    {h : Halt MockPeerError} {after : Run T}
    (stopped : runTcp io bind script t = (.error h, after)) :
    ∃ pre expected dropped post report mid rest,
      script = pre ++ ⟨.expectClientBytes expected, dropped⟩ :: post ∧
      runTcp io bind pre t = (.ok report, mid) ∧
      left t = (expectedBy pre).flatten ++ rest ∧ ¬ expected <+: rest ∧
      h = .failed (shortOrMismatch expected rest) := by
  obtain ⟨s, there, unread⟩ := listen_client client bind t
  rw [runTcp, there] at stopped
  obtain ⟨pre, expected, dropped, post, mid, cut, before, taken, answer⟩ :=
    refused_of_stopped (tcpPort_consumes client) (tcp_sendable writes)
      (runOn_error_iff.mp stopped)
  rw [List.flatMap_id, unread] at taken
  obtain ⟨refused, how⟩ := expectTcp_unmet client answer
  have completed : runTcp io bind pre t = (.ok mid.report, mid) :=
    runOn_ok_iff.mpr ⟨s, there, before, rfl⟩
  exact ⟨pre, expected, dropped, post, mid.report, mid, left mid.sock, cut, completed, taken,
    refused, how⟩

end Tcp

/-! ## UDP -/

/-- `inbox` is what arrives and has not been received, in order: a receive takes the first
datagram whole if the buffer has room, and waits while there is none. -/
structure UdpSocket.Client (io : UdpSocket U) (inbox : U → List (List UInt8)) : Prop where
  bind : ∀ u addr, ∃ v, io.bind u addr = (.ok (), v) ∧ inbox v = inbox u
  sent : ∀ {u bytes addr verdict v}, io.sendTo u bytes addr = (verdict, v) → inbox v = inbox u
  empty : ∀ u room, inbox u = [] → ∃ v, io.recvFrom u room = (.error .waiting, v)
  received : ∀ u room got rest, inbox u = got :: rest →
    ∃ v, io.recvFrom u room = (.ok (got.take room), v) ∧ inbox v = rest
  short : ∀ u, ∀ datagram ∈ inbox u, datagram.length ≤ 65535

/-- How `run_udp` ends at an expectation that is not the datagram there, or without one. -/
def waitingOrMismatch (expected : List UInt8) : Option (List UInt8) → Halt MockPeerError
  | none => .waiting
  | some got => .failed (.expectMismatch expected got)

section Udp

variable {io : UdpSocket U} {inbox : U → List (List UInt8)} {u v : U} {expected : List UInt8}

/-- The buffer has room for every datagram, so none is received in part. -/
theorem recvFrom_ok (client : io.Client inbox) {got : List UInt8}
    (answer : io.recvFrom u recvBufLen = (.ok got, v)) : inbox u = got :: inbox v := by
  cases there : inbox u with
  | nil =>
      obtain ⟨_, silent⟩ := client.empty u recvBufLen there
      rw [answer] at silent
      cases silent
  | cons first rest =>
      obtain ⟨_, read, left⟩ := client.received u recvBufLen first rest there
      have short := client.short u first (by rw [there]; exact .head rest)
      have room : first.length ≤ recvBufLen := by
        show first.length ≤ 65536
        omega
      rw [answer, List.take_of_length_le room] at read
      cases read
      rw [left]

/-- A receive that gives nothing waits for a datagram. -/
theorem recvFrom_error (client : io.Client inbox) {h : Halt IoError}
    (answer : io.recvFrom u recvBufLen = (.error h, v)) : inbox u = [] ∧ h = .waiting := by
  cases there : inbox u with
  | nil =>
      obtain ⟨_, silent⟩ := client.empty u recvBufLen there
      rw [answer] at silent
      cases silent
      exact ⟨rfl, rfl⟩
  | cons first rest =>
      obtain ⟨_, read, _⟩ := client.received u recvBufLen first rest there
      rw [answer] at read
      cases read

theorem expectUdp_met (client : io.Client inbox)
    (answer : expectUdp io u expected = (.ok (), v)) : inbox u = [expected] ++ inbox v :=
  recvFrom_ok client (attempt_ok_iff.mp (matched_ok_iff.mp answer))

theorem expectUdp_unmet (client : io.Client inbox) {h : Halt MockPeerError}
    (answer : expectUdp io u expected = (.error h, v)) :
    (inbox u)[0]? ≠ some expected ∧ h = waitingOrMismatch expected (inbox u)[0]? := by
  rcases matched_error_iff.mp answer with failed | ⟨got, read, differs, rfl⟩
  · obtain ⟨h', read, rfl⟩ := attempt_error_iff.mp failed
    obtain ⟨nothing, rfl⟩ := recvFrom_error client read
    rw [nothing]
    exact ⟨nofun, rfl⟩
  · rw [recvFrom_ok client (attempt_ok_iff.mp read)]
    exact ⟨fun same => differs (Option.some.inj same), rfl⟩

theorem udpPort_consumes (client : io.Client inbox) (target : Option SocketAddr) :
    (udpPort io target).Consumes inbox fun expected => [expected] where
  delivered := by
    intro u bytes verdict v answer
    cases verdict with
    | ok n =>
        obtain ⟨addr, _, sent⟩ := deliverUdp_ok_iff.mp answer
        exact client.sent sent
    | error h =>
        rcases deliverUdp_error_iff.mp answer with ⟨_, _, same⟩ | ⟨addr, h', _, refused, _⟩
        · rw [same]
        · exact client.sent refused
  met := expectUdp_met client
  unmet := by
    intro u expected h v answer ⟨rest, first⟩
    have differs := (expectUdp_unmet client answer).1
    rw [← first] at differs
    exact differs rfl

/-- Past its expectation the run goes on exactly if the next datagram is what it waits for. -/
theorem expectUdp_ok_iff (client : io.Client inbox) :
    (∃ v, expectUdp io u expected = (.ok (), v)) ↔ (inbox u)[0]? = some expected := by
  constructor
  · intro ⟨v, answer⟩
    rw [expectUdp_met client answer]
    rfl
  · intro first
    rcases answer : expectUdp io u expected with ⟨verdict, v⟩
    cases verdict with
    | ok => exact ⟨v, rfl⟩
    | error h => exact absurd first (expectUdp_unmet client answer).1

variable {bind : SocketAddr} {script : List Scripted} {target : Option SocketAddr}

theorem udp_sendable {outgoing : List (List UInt8)} (targeted : target = none → outgoing = [])
    (sends : ∀ bytes ∈ outgoing, ∀ u addr, ∃ n v, io.sendTo u bytes addr = (.ok n, v)) :
    ∀ bytes ∈ outgoing, ∀ u h v, (udpPort io target).deliver u bytes ≠ (.error h, v) := by
  intro bytes member u h v answer
  rcases deliverUdp_error_iff.mp answer with ⟨absent, _, _⟩ | ⟨addr, h', _, refused, _⟩
  · rw [targeted absent] at member
    cases member
  · obtain ⟨n, w, sent⟩ := sends bytes member u addr
    rw [refused] at sent
    cases sent

/-- A completed run without a target has sent nothing. -/
theorem sentBy_untargeted {report : MockRunReport} {after : Run U}
    (ended : runUdp io bind script none u = (.ok report, after)) : sentBy script = [] := by
  obtain ⟨s, _, done, _⟩ := runOn_ok_iff.mp ended
  rw [sentBy, List.filterMap_eq_nil_iff]
  intro a member
  by_contra sends
  obtain ⟨run, next, taken⟩ := runAll_ok_mem done a member
  rw [act_untargeted io run sends] at taken
  cases taken

/-- One byte string against one datagram each. -/
theorem prefix_iff_getElem {first whole : List (List UInt8)} :
    first <+: whole ↔ ∀ (i : Nat) bytes, first[i]? = some bytes → whole[i]? = some bytes := by
  rw [List.prefix_iff_getElem?]
  constructor
  · intro agree i bytes there
    obtain ⟨within, same⟩ := List.getElem?_eq_some_iff.mp there
    rw [agree i within, same]
  · intro agree i within
    exact agree i _ (List.getElem?_eq_getElem within)

theorem bind_client (client : io.Client inbox) (bind : SocketAddr) (u : U) :
    ∃ s, attempt .bind (io.bind u bind) = (.ok (), s) ∧ inbox s = inbox u := by
  obtain ⟨s, bound, unread⟩ := client.bind u bind
  exact ⟨s, attempt_ok_iff.mpr bound, unread⟩

theorem runUdp_ok_iff (client : io.Client inbox)
    (sends : ∀ bytes ∈ sentBy script, ∀ u addr, ∃ n v, io.sendTo u bytes addr = (.ok n, v)) :
    (∃ report after, runUdp io bind script target u = (.ok report, after)) ↔
      (∀ (i : Nat) bytes, (expectedBy script)[i]? = some bytes → (inbox u)[i]? = some bytes) ∧
        (target = none → sentBy script = []) := by
  obtain ⟨s, bound, unread⟩ := bind_client client bind u
  have accepts (targeted : target = none → sentBy script = []) :
      (∃ report after, runUdp io bind script target u = (.ok report, after)) ↔
        expectedBy script <+: inbox u := by
    rw [runUdp, bound,
      runOn_ok_iff_prefix (udpPort_consumes client target) (udp_sendable targeted sends),
      List.flatMap_singleton', unread]
  rw [← prefix_iff_getElem]
  constructor
  · intro ended
    have targeted : target = none → sentBy script = [] := by
      intro absent
      subst absent
      obtain ⟨_, _, ended⟩ := ended
      exact sentBy_untargeted ended
    exact ⟨(accepts targeted).mp ended, targeted⟩
  · intro ⟨first, targeted⟩
    exact (accepts targeted).mpr first

/-- What has arrived beyond what the actions before have taken comes next. -/
theorem inbox_of_ok (client : io.Client inbox) {pre : List Scripted} {report : MockRunReport}
    {mid : Run U} (before : runUdp io bind pre target u = (.ok report, mid)) :
    (inbox u)[(expectedBy pre).length]? = (inbox mid.sock)[0]? := by
  obtain ⟨s, bound, done, _⟩ := runOn_ok_iff.mp before
  obtain ⟨s', bound', unread⟩ := bind_client client bind u
  rw [bound] at bound'
  cases bound'
  have taken := taken_run (udpPort_consumes client target) done
  rw [List.flatMap_singleton', unread] at taken
  rw [taken, List.getElem?_append_right (Nat.le_refl _), Nat.sub_self]

/-- An expectation the run gets to meets the datagram of its own number. -/
theorem runUdp_expect (client : io.Client inbox) {pre post : List Scripted}
    {expected : List UInt8} {dropped : Bool} {report : MockRunReport} {mid : Run U}
    (cut : script = pre ++ ⟨.expectClientBytes expected, dropped⟩ :: post)
    (before : runUdp io bind pre target u = (.ok report, mid)) :
    ((∃ report after, runUdp io bind (pre ++ [⟨.expectClientBytes expected, dropped⟩]) target u =
        (.ok report, after)) ↔ (inbox u)[(expectedBy pre).length]? = some expected) ∧
      ((inbox u)[(expectedBy pre).length]? ≠ some expected →
        (runUdp io bind script target u).1 =
          .error (waitingOrMismatch expected (inbox u)[(expectedBy pre).length]?)) := by
  rw [inbox_of_ok client before]
  rcases answer : expectUdp io mid.sock expected with ⟨verdict, v⟩
  cases verdict with
  | ok =>
      have first := (expectUdp_ok_iff client).mp ⟨v, answer⟩
      have ended := runOn_met dropped before answer
      exact ⟨iff_of_true ⟨_, _, ended⟩ first, fun differs => absurd first differs⟩
  | error h =>
      obtain ⟨differs, how⟩ := expectUdp_unmet client answer
      have stops (post : List Scripted) : runUdp io bind
          (pre ++ ⟨.expectClientBytes expected, dropped⟩ :: post) target u =
            (.error h, { mid with sock := v }) := runOn_unmet dropped before answer post
      refine ⟨iff_of_false ?_ differs, fun _ => ?_⟩
      · intro ⟨_, _, ended⟩
        rw [stops []] at ended
        cases ended
      · rw [cut, stops post, how]

end Udp

/-- **Expectations.** With all other I/O succeeding, for every script: `run_tcp` gets past
all its expectations if and only if their concatenation is a prefix of the client's
stream, in whatever chunks that is read, and otherwise stops at the first that what is
left does not start with. `run_udp` gets past an expectation it reaches if and only if the
datagram of the same number is the one expected; it completes if and only if that is so
for all and no send lacks its target. -/
theorem expectations_accept_exactly {tcp : TcpPeer T} {left : T → List UInt8}
    (client : tcp.Client left) {udp : UdpSocket U} {inbox : U → List (List UInt8)}
    (sender : udp.Client inbox) (bind : SocketAddr) (script : List Scripted)
    (writes : ∀ bytes ∈ sentBy script, ∀ t, ∃ v, tcp.writeAll t bytes = (.ok (), v))
    (sends : ∀ bytes ∈ sentBy script, ∀ u addr, ∃ n v, udp.sendTo u bytes addr = (.ok n, v)) :
    (∀ t,
      ((∃ report after, runTcp tcp bind script t = (.ok report, after)) ↔
        (expectedBy script).flatten <+: left t) ∧
      ∀ h after, runTcp tcp bind script t = (.error h, after) →
        ∃ pre expected dropped post report mid rest,
          script = pre ++ ⟨.expectClientBytes expected, dropped⟩ :: post ∧
          runTcp tcp bind pre t = (.ok report, mid) ∧
          left t = (expectedBy pre).flatten ++ rest ∧ ¬ expected <+: rest ∧
          h = .failed (shortOrMismatch expected rest)) ∧
    ∀ target u,
      ((∃ report after, runUdp udp bind script target u = (.ok report, after)) ↔
        (∀ (i : Nat) bytes, (expectedBy script)[i]? = some bytes → (inbox u)[i]? = some bytes) ∧
          (target = none → sentBy script = [])) ∧
      ∀ pre expected dropped post report mid,
        script = pre ++ ⟨.expectClientBytes expected, dropped⟩ :: post →
        runUdp udp bind pre target u = (.ok report, mid) →
        ((∃ report after, runUdp udp bind (pre ++ [⟨.expectClientBytes expected, dropped⟩])
            target u = (.ok report, after)) ↔
          (inbox u)[(expectedBy pre).length]? = some expected) ∧
        ((inbox u)[(expectedBy pre).length]? ≠ some expected →
          (runUdp udp bind script target u).1 =
            .error (waitingOrMismatch expected (inbox u)[(expectedBy pre).length]?)) := by
  refine ⟨?_, ?_⟩
  · intro t
    refine ⟨runTcp_ok_iff client writes, ?_⟩
    intro h after stopped
    exact runTcp_error client writes stopped
  · intro target u
    refine ⟨runUdp_ok_iff sender sends, ?_⟩
    intro pre expected dropped post report mid cut before
    exact runUdp_expect sender cut before

theorem pipe_client : pipe.Client Pipe.left where
  bind := fun t _ => ⟨t, rfl, rfl⟩
  accept := fun t => ⟨t, rfl, rfl⟩
  wrote := by
    intro t bytes verdict v answer
    cases answer
    rfl
  read := by
    intro t room positive
    refine ⟨t.left.take (min room 2), _, rfl, (List.take_append_drop _ _).symm, ?_, ?_⟩
    · rw [List.length_take]
      omega
    · intro nothing
      rcases List.take_eq_nil_iff.mp nothing with zero | ended
      · omega
      · exact ended

/-- The datagrams a mailbox holds. -/
def Mailbox.contents (m : Mailbox) : List (List UInt8) := m.inbox.map Subtype.val

theorem mailbox_client : mailbox.Client Mailbox.contents where
  bind := fun u _ => ⟨u, rfl, rfl⟩
  sent := by
    intro u bytes addr verdict v answer
    simp only [mailbox] at answer
    split at answer <;> cases answer <;> rfl
  empty := by
    intro u room nothing
    refine ⟨u, ?_⟩
    rw [Mailbox.contents, List.map_eq_nil_iff] at nothing
    simp only [mailbox, nothing]
  received := by
    intro u room got rest there
    obtain ⟨first, later, held, same, tail⟩ := List.map_eq_cons_iff.mp there
    refine ⟨{ u with inbox := later }, ?_, tail⟩
    simp only [mailbox, held, same]
  short := by
    intro u datagram member
    obtain ⟨held, _, same⟩ := List.mem_map.mp member
    exact same ▸ held.2

/-- Two expectations that follow each other, a send between them, and one for nothing. -/
def talk : List Scripted :=
  [⟨.expectClientBytes [1, 2, 3], false⟩, ⟨.sendMoldHeartbeat, false⟩,
    ⟨.expectClientBytes [], false⟩, ⟨.expectClientBytes [4], false⟩]

/-- A client of the same words. -/
def sameWords : Mailbox := ⟨[⟨[1, 2, 3], by decide⟩, ⟨[], by decide⟩, ⟨[4], by decide⟩], []⟩

theorem expectations_accept_exactly_talk :
    (∃ report after, runTcp pipe localhost talk ⟨[1, 2, 3, 4, 5], []⟩ = (.ok report, after)) ∧
    ∃ report after, runUdp mailbox localhost talk (some localhost) sameWords =
      (.ok report, after) := by
  have writes : ∀ bytes ∈ sentBy talk, ∀ t, ∃ v, pipe.writeAll t bytes = (.ok (), v) :=
    fun _ _ _ => ⟨_, rfl⟩
  have sends : ∀ bytes ∈ sentBy talk, ∀ u addr, ∃ n v,
      mailbox.sendTo u bytes addr = (.ok n, v) := by
    intro bytes member u addr
    rw [List.mem_singleton.mp member]
    exact ⟨20, _, rfl⟩
  obtain ⟨tcp, udp⟩ :=
    expectations_accept_exactly pipe_client mailbox_client localhost talk writes sends
  have datagrams : expectedBy talk <+: sameWords.contents := List.prefix_rfl
  refine ⟨(tcp _).1.mpr ⟨[5], rfl⟩, (udp (some localhost) sameWords).1.mpr ⟨?_, ?_⟩⟩
  · exact prefix_iff_getElem.mp datagrams
  · exact fun absent => absurd absent (Option.some_ne_none _)

end Transports.Testing
