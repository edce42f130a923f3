import Transports.Facade.Sends
import Transports.Testing.EndToEnd
import Transports.Testing.Expectations

/-!
# From the sends to the expectations

The other way: a transport sends, and `MockPeer` waits for what its script expects. However
the peer's run ends, the expectations it has met are what the transport's sends put out. Over
a network that delivers everything it completes if and only if its expectations are the
first of what was sent: datagram by datagram on UDP, and on TCP byte by byte in whatever
pieces the stream takes and gives them, which for SoupBinTCP is packet by packet.
-/

namespace Transports.Testing

open Lib Transports.Core Transports.Facade
open Transports.Udp (Backend Outgoing)
open Transports.Readiness.Mio (Outcome)

variable {S U T β : Type}

/-! ## The expectations met -/

/-- What the completed actions of a run have waited for. -/
def metBy (script : List Scripted) (run : Run S) : List (List UInt8) :=
  expectedBy (script.take run.report.actionsCompleted)

/-- The run returned `Ok`. -/
def Completes (ended : Awaited MockPeerError (Run S) MockRunReport) : Prop :=
  ∃ report after, ended = (.ok report, after)

section Ports

variable {port : Port S} {left : S → List β} {segment : List UInt8 → List β}
  {script : List Scripted} {a : Scripted} {run after : Run S}

theorem report_of_failed {h : Halt MockPeerError} (failed : act port run a = (.error h, after)) :
    after.report = run.report := by
  cases acted_of_act failed with
  | unsent => rfl
  | unmet => rfl

theorem actionsCompleted_of_done {s : S}
    (done : runAll (act port) script ⟨s, .default⟩ = (.ok (), after)) :
    after.report.actionsCompleted = script.length := by
  refine runAll_induction (P := fun pre run => run.report.actionsCompleted = pre.length) rfl
    ?_ done
  intro pre a run after _ before turn
  rw [List.length_append, List.length_singleton, ← before]
  cases acted_of_act turn with
  | dropped | sent | met | slept => rfl

theorem metBy_of_done {s : S}
    (done : runAll (act port) script ⟨s, .default⟩ = (.ok (), after)) (post : List Scripted) :
    metBy (script ++ post) after = expectedBy script := by
  rw [metBy, actionsCompleted_of_done done, List.take_left]

/-- However a run ends, it has met what its input starts with. -/
theorem metBy_first (law : port.Consumes left segment) {s : S}
    {verdict : Except (Halt MockPeerError) MockRunReport}
    (ended : runOn port (.ok (), s) script = (verdict, after)) :
    (metBy script after).flatMap segment <+: left s := by
  cases verdict with
  | ok report =>
      obtain ⟨_, there, done, _⟩ := runOn_ok_iff.mp ended
      cases there
      have met := metBy_of_done done []
      rw [List.append_nil] at met
      rw [met]
      exact ⟨_, (taken_run law done).symm⟩
  | error h =>
      cases runOn_error_iff.mp ended with
      | unopened absent => cases absent
      | @action pre a post _ mid _ _ there before failed =>
          cases there
          have same : metBy (pre ++ a :: post) after = metBy (pre ++ a :: post) mid := by
            rw [metBy, report_of_failed failed]
            rfl
          rw [same, metBy_of_done before]
          exact ⟨_, (taken_run law before).symm⟩

/-- The expectations met are the first ones of the script. -/
theorem metBy_expected (script : List Scripted) (run : Run S) :
    metBy script run <+: expectedBy script :=
  (List.take_prefix _ script).filterMap _

end Ports

/-! ## UDP -/

/-- The datagrams for the peer, among those sent. -/
def towards (toPeer : Outgoing → Bool) (sent : List Outgoing) : List (List UInt8) :=
  (sent.filter toPeer).map Outgoing.payload

section Udp

variable {io : UdpSocket U} {inbox : U → List (List UInt8)} {script : List Scripted}
  {bind : SocketAddr} {target : Option SocketAddr} {u : U}

theorem metBy_inbox (client : io.Client inbox) {after : Run U}
    {verdict : Except (Halt MockPeerError) MockRunReport}
    (ended : runUdp io bind script target u = (verdict, after)) :
    metBy script after <+: inbox u := by
  obtain ⟨s, bound, unread⟩ := bind_client client bind u
  rw [runUdp, bound] at ended
  have first := metBy_first (udpPort_consumes client target) ended
  rwa [List.flatMap_singleton', unread] at first

/-- **Datagrams asserted.** For every run of either backend's UDP transport and every script,
however the peer's run ends: over a network that makes nothing up, every expectation met is
the payload of a send that returned `Ok`; if it only loses, of another send each, in the
order of the sends; and if it delivers all, of the first sends, and then the run completes,
its own sends not failing, if and only if the datagrams it expects are the first ones sent
and no send of its own lacks the target. -/
theorem datagrams_asserted (client : io.Client inbox) (bind : SocketAddr)
    (script : List Scripted) (target : Option SocketAddr) (b : Backend) {start n : Node}
    {events : List Event} (run : (node b start).runFrom start events = some n)
    (datagram : start.transport.shape = .datagram) (fresh : start.out.datagrams = [])
    (toPeer : Outgoing → Bool) {after : Run U}
    {verdict : Except (Halt MockPeerError) MockRunReport}
    (ended : runUdp io bind script target u = (verdict, after)) :
    ∃ replies, n.log = start.log ++ replies ∧
      n.out.datagrams = replies.filterMap Reply.gone ∧
      ((∀ d ∈ inbox u, d ∈ towards toPeer n.out.datagrams) →
        ∀ d ∈ metBy script after, d ∈ towards toPeer n.out.datagrams) ∧
      ((inbox u).Sublist (towards toPeer n.out.datagrams) →
        (metBy script after).Sublist (towards toPeer n.out.datagrams)) ∧
      (inbox u = towards toPeer n.out.datagrams →
        metBy script after <+: towards toPeer n.out.datagrams ∧
        ((∀ bytes ∈ sentBy script, ∀ u addr, ∃ n v, io.sendTo u bytes addr = (.ok n, v)) →
          (Completes (runUdp io bind script target u) ↔
            expectedBy script <+: towards toPeer n.out.datagrams ∧
              (target = none → sentBy script = [])))) := by
  have ⟨_, replies, logged, wentOut⟩ := accounts_run run
  rw [datagram] at wentOut
  have out : n.out.datagrams = start.out.datagrams ++ _ := wentOut.2
  rw [fresh, List.nil_append] at out
  have met := metBy_inbox client ended
  refine ⟨replies, logged, out, ?_, ?_, ?_⟩
  · intro honest d member
    exact honest d (met.subset member)
  · intro lossy
    exact met.sublist.trans lossy
  · intro all
    rw [← all]
    refine ⟨met, ?_⟩
    intro sends
    rw [prefix_iff_getElem]
    exact runUdp_ok_iff client sends

/-- The peer that gets the datagram of `bothShapes`. -/
def oneHeard : Mailbox := ⟨[⟨[1], by decide⟩], []⟩

theorem datagrams_asserted_both :
    Completes (runUdp mailbox localhost [⟨.expectClientBytes [1], false⟩] none oneHeard) := by
  obtain ⟨_, _, _, _, _, all⟩ := datagrams_asserted mailbox_client localhost
    [⟨.expectClientBytes [1], false⟩] none .mio (afterBoth_run .mio) rfl rfl (fun _ => true)
    (u := oneHeard) rfl
  have sends : ∀ bytes ∈ sentBy [⟨.expectClientBytes [1], false⟩], ∀ u addr, ∃ n v,
      mailbox.sendTo u bytes addr = (.ok n, v) := by
    intro bytes member
    cases member
  exact ((all rfl).2 sends).mpr ⟨List.prefix_rfl, fun _ => rfl⟩

end Udp

/-! ## TCP -/

/-- A SoupBinTCP packet on the stream. -/
def soupBytes (packet : UInt8 × List UInt8) : List UInt8 := encodeSoup packet.1 packet.2

theorem soupFrame_injective : Function.Injective soupFrame := by
  intro p q same
  obtain ⟨ty, payload⟩ := List.cons.inj same
  exact Prod.ext ty payload

/-- Packets that are the first of others are so byte by byte, and only they. -/
theorem soupBytes_prefix_iff {first whole : List (UInt8 × List UInt8)}
    (fits : ∀ p ∈ first, p.2.length ≤ 65534) (others : ∀ p ∈ whole, p.2.length ≤ 65534) :
    (first.map soupBytes).flatten <+: (whole.map soupBytes).flatten ↔ first <+: whole := by
  have stream (packets : List (UInt8 × List UInt8)) :
      (packets.map soupBytes).flatten = (packets.map soupFrame).flatMap (frame 2) := by
    rw [flatMap_soupFrame, List.flatMap_def]
    rfl
  rw [stream, stream, flatMap_frame_prefix_iff (by omega) (soupFrame_fits fits) (soupFrame_fits others),
    List.prefix_map_iff_of_injective soupFrame_injective]

/-- The stream took every buffer whose send returned `Ok`. -/
theorem parts_of_ok {bufs : List (List UInt8)} {parts : List (List UInt8)}
    (taken : List.Forall₂ Facade.Taken (bufs.map fun buf => (buf, .returned (.ok ()))) parts) :
    parts = bufs := by
  induction bufs generalizing parts with
  | nil =>
      cases taken
      rfl
  | cons buf bufs ih =>
      cases taken with
      | cons first rest => rw [first.2.mp rfl, ih rest]

section Tcp

variable {io : TcpPeer T} {left : T → List UInt8} {script : List Scripted} {bind : SocketAddr}
  {t : T}

theorem metBy_left (client : io.Client left) {after : Run T}
    {verdict : Except (Halt MockPeerError) MockRunReport}
    (ended : runTcp io bind script t = (verdict, after)) :
    (metBy script after).flatten <+: left t := by
  obtain ⟨s, there, unread⟩ := listen_client client bind t
  rw [runTcp, there] at ended
  have first := metBy_first (tcpPort_consumes client) ended
  rwa [List.flatMap_id, unread] at first

/-- **A stream asserted.** For every run of either backend's TCP transport and every script,
however the peer's run ends, over a network that delivers the first bytes: the expectations
met are the first bytes of what the stream took of the buffers sent, each in full if its
send returned `Ok`; and if it delivers all, the run completes, its own sends not failing, if
and only if all the bytes it expects are that. So if the buffers are SoupBinTCP packets, sent
with `Ok`, and the script waits for such packets, those it has met are the first ones sent,
and it completes if and only if all it expects are. -/
theorem stream_asserted (client : io.Client left) (bind : SocketAddr) (script : List Scripted)
    (b : Backend) {start n : Node} {events : List Event}
    (run : (node b start).runFrom start events = some n)
    (stream : start.transport.shape = .stream) (fresh : start.out.bytes = []) {after : Run T}
    {verdict : Except (Halt MockPeerError) MockRunReport}
    (ended : runTcp io bind script t = (verdict, after)) (network : left t <+: n.out.bytes) :
    ∃ replies parts, n.log = start.log ++ replies ∧
      List.Forall₂ Facade.Taken (replies.filterMap Reply.offered) parts ∧
      n.out.bytes = parts.flatten ∧ (metBy script after).flatten <+: parts.flatten ∧
      (left t = n.out.bytes →
        (∀ bytes ∈ sentBy script, ∀ t, ∃ v, io.writeAll t bytes = (.ok (), v)) →
        (Completes (runTcp io bind script t) ↔
          (expectedBy script).flatten <+: parts.flatten)) ∧
      ∀ expected sent : List (UInt8 × List UInt8),
        (∀ p ∈ expected, p.2.length ≤ 65534) → (∀ p ∈ sent, p.2.length ≤ 65534) →
        expectedBy script = expected.map soupBytes →
        replies.filterMap Reply.offered =
          (sent.map soupBytes).map (fun buf => (buf, .returned (.ok ()))) →
        ∃ met, metBy script after = met.map soupBytes ∧ met <+: expected ∧ met <+: sent ∧
          (left t = n.out.bytes →
            (∀ bytes ∈ sentBy script, ∀ t, ∃ v, io.writeAll t bytes = (.ok (), v)) →
            (Completes (runTcp io bind script t) ↔ expected <+: sent)) := by
  have ⟨_, replies, logged, wentOut⟩ := accounts_run run
  rw [stream] at wentOut
  obtain ⟨_, parts, taken, out⟩ := wentOut
  rw [fresh, List.nil_append] at out
  have met := (metBy_left client ended).trans network
  have accepts (all : left t = n.out.bytes)
      (writes : ∀ bytes ∈ sentBy script, ∀ t, ∃ v, io.writeAll t bytes = (.ok (), v)) :
      Completes (runTcp io bind script t) ↔ (expectedBy script).flatten <+: parts.flatten := by
    rw [← out, ← all]
    exact runTcp_ok_iff client writes
  rw [out] at met
  refine ⟨replies, parts, logged, taken, out, met, accepts, ?_⟩
  intro expected sent fits others waits offered
  rw [offered] at taken
  obtain rfl := parts_of_ok taken
  have ⟨rest, joined⟩ := metBy_expected script after
  rw [waits] at joined
  obtain ⟨packets, later, rfl, same, _⟩ := List.append_eq_map_iff.mp joined
  have few : ∀ p ∈ packets, p.2.length ≤ 65534 :=
    fun p member => fits p (List.mem_append_left later member)
  refine ⟨packets, same.symm, List.prefix_append packets later, ?_, ?_⟩
  · rw [← same] at met
    exact (soupBytes_prefix_iff few others).mp met
  · intro all writes
    rw [accepts all writes, waits, soupBytes_prefix_iff fits others]

/-- A TCP transport just connected. -/
def justConnected : Node where
  transport := .tcp ⟨(Udp.UdpTransport.overTwoSlabs 0).pool, localhost⟩ Tcp.Conn.start.sock
  batch := .withCapacity 1
  frames := []
  joined := []
  out := ⟨[], []⟩
  log := []

/-- Two packets, the first taken four bytes at a time. -/
def twoSends : List Event :=
  [.send [0, 4, 83, 1, 2, 3] ⟨[], [.ok 4, .ok 4], []⟩, .send [0, 1, 72] ⟨[], [.ok 4], []⟩]

/-- The peer waits for both. -/
def twoExpected : List Scripted :=
  (twoPackets.map soupBytes).map fun bytes => ⟨.expectClientBytes bytes, false⟩

theorem stream_asserted_two :
    Completes (runTcp pipe localhost twoExpected ⟨[0, 4, 83, 1, 2, 3, 0, 1, 72], []⟩) := by
  have run : (node .mio justConnected).runFrom justConnected twoSends =
      some ((node .mio justConnected).replay justConnected twoSends) := rfl
  obtain ⟨replies, parts, logged, _, _, _, _, packets⟩ :=
    stream_asserted pipe_client localhost twoExpected .mio run rfl rfl
      (t := ⟨[0, 4, 83, 1, 2, 3, 0, 1, 72], []⟩) rfl List.prefix_rfl
  have fits : ∀ p ∈ twoPackets, p.2.length ≤ 65534 := by decide
  obtain rfl : [.sent ⟨[0, 4, 83, 1, 2, 3], none⟩ (.returned (.ok ())),
    .sent ⟨[0, 1, 72], none⟩ (.returned (.ok ()))] = replies := logged
  obtain ⟨_, _, _, _, accepts⟩ := packets twoPackets twoPackets fits fits rfl rfl
  refine (accepts rfl ?_).mpr List.prefix_rfl
  intro bytes member
  exact fun _ => ⟨_, rfl⟩

end Tcp

end Transports.Testing
