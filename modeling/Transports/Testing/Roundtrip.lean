import Mathlib.Data.List.Forall2
import Transports.Testing.Conservation

/-!
# What the peer sends reads back

The encoders cut every length to `u16`. On UDP the socket refuses a datagram long before
a length field would lose a bit, so everything that gets out decodes to its action. A TCP
stream refuses nothing: one SoupBinTCP payload above 65534 bytes, and the reader loses it
with all that follows.
-/

namespace Transports.Testing

open Lib Transports.Core

variable {U T : Type}

/-! ## TCP -/

/-- These packets, one `SendSoupPacket` each and none dropped. -/
def soupScript (packets : List (UInt8 × List UInt8)) : List Scripted :=
  packets.map fun p => ⟨.sendSoupPacket p.1 p.2, false⟩

theorem flatten_sentBy_soup (packets : List (UInt8 × List UInt8)) :
    (sentBy (soupScript packets)).flatten = packets.flatMap fun p => encodeSoup p.1 p.2 := by
  induction packets with
  | nil => rfl
  | cons p rest ih =>
      rw [List.flatMap_cons, ← ih]
      rfl

/-- What a completed run of soup packets leaves on a fresh stream. -/
theorem written_soup {io : TcpPeer T} {written : T → List UInt8} (unbroken : io.Whole written)
    {bind : SocketAddr} {t : T} {packets : List (UInt8 × List UInt8)} {report : MockRunReport}
    {after : Run T} (fresh : written t = [])
    (done : runTcp io bind (soupScript packets) t = (.ok report, after)) :
    written after.sock = packets.flatMap fun p => encodeSoup p.1 p.2 := by
  have start := sentOn_start unbroken bind t
  have conserved := runOn_conserves (tcpPort_accountable unbroken t) start (soupScript packets)
  have sent : written after.sock = _ := (conserved.ok report after done).2
  rw [sent, fresh, List.nil_append, List.append_nil, flatten_sentBy_soup]

/-- **SoupBinTCP over a stream.** For every list of packets `run_tcp` completes without a
drop, the reader recovers exactly that list from the bytes written, with nothing left
over, if and only if no payload has more than 65534 bytes. -/
theorem soup_stream_recovered_iff {io : TcpPeer T} {written : T → List UInt8}
    (unbroken : io.Whole written) {bind : SocketAddr} {t : T}
    {packets : List (UInt8 × List UInt8)} {report : MockRunReport} {after : Run T}
    (fresh : written t = [])
    (done : runTcp io bind (soupScript packets) t = (.ok report, after)) :
    readSoup (written after.sock) = some packets ↔ ∀ p ∈ packets, p.2.length ≤ 65534 := by
  rw [written_soup unbroken fresh done]
  exact readSoup_iff packets

/-- A packet, and one without a payload. -/
def twoPackets : List (UInt8 × List UInt8) := [(83, [1, 2, 3]), (72, [])]

/-- Where `run_tcp` ends with them. -/
def twoWritten : Run Pipe := ⟨⟨[], [0, 4, 83, 1, 2, 3, 0, 1, 72]⟩, ⟨2, 9, 0⟩⟩

theorem soup_stream_recovered_iff_two :
    readSoup twoWritten.sock.written = some twoPackets ∧
      ∀ p ∈ twoPackets, p.2.length ≤ 65534 := by
  have done : runTcp pipe localhost (soupScript twoPackets) ⟨[], []⟩ =
      (.ok ⟨2, 9, 0⟩, twoWritten) := rfl
  have short : ∀ p ∈ twoPackets, p.2.length ≤ 65534 := by decide
  exact ⟨(soup_stream_recovered_iff pipe_whole rfl done).mpr short, short⟩

/-- One byte more than the length field holds beside the type. -/
def overlong : UInt8 × List UInt8 := (83, List.replicate 65535 0)

theorem unrecovered_of_long {ty : UInt8} {payload : List UInt8} (long : 65534 < payload.length) :
    ∃ report after, runTcp pipe localhost (soupScript [(ty, payload)]) ⟨[], []⟩ =
      (.ok report, after) ∧ readSoup after.sock.written ≠ some [(ty, payload)] := by
  have done : runTcp pipe localhost (soupScript [(ty, payload)]) ⟨[], []⟩ =
      (.ok ⟨1, 0 + (encodeSoup ty payload).length, 0⟩,
        ⟨⟨[], [] ++ encodeSoup ty payload⟩, ⟨1, 0 + (encodeSoup ty payload).length, 0⟩⟩) := rfl
  refine ⟨_, _, done, ?_⟩
  intro recovered
  have short := (readSoup_iff [(ty, payload)]).mp
  rw [List.flatMap_singleton] at short
  exact absurd (short recovered (ty, payload) (.head _)) (Nat.not_le_of_lt long)

/-- The stream takes all of it, behind a length of zero. -/
theorem overlong_unrecovered :
    ∃ report after, runTcp pipe localhost (soupScript [overlong]) ⟨[], []⟩ = (.ok report, after) ∧
      readSoup after.sock.written ≠ some [overlong] := by
  have long : 65534 < (List.replicate 65535 (0 : UInt8)).length := by
    rw [List.length_replicate]
    omega
  exact unrecovered_of_long long

/-! ## UDP -/

/-- The datagram says what the action says, and no length in it was cut. -/
def MockAction.DecodesFrom (datagram : List UInt8) : MockAction → Prop
  | .sendMoldPacket seq payload =>
    decodeMold datagram = some ⟨mockSession, seq, 1, [payload]⟩ ∧ payload.length < 65536
  | .sendMoldHeartbeat =>
    decodeMold datagram = some ⟨mockSession, 0, 0, []⟩ ∧
      ∀ seq payload, datagram ≠ encodeMoldData seq payload
  | .sendSoupPacket ty payload =>
    decodeSoup datagram = some ⟨1 + payload.length, ty, payload⟩ ∧ 1 + payload.length < 65536
  | .expectClientBytes _ | .sleep _ => False

/-- A buffer a UDP socket takes is too short for its length field to be cut. -/
theorem decodesFrom_encoded {action : MockAction} {bytes : List UInt8}
    (encoded : action.encoded = some bytes) (small : bytes.length ≤ 65507) :
    action.DecodesFrom bytes := by
  cases action with
  | sendMoldPacket seq payload =>
      obtain rfl := Option.some.inj encoded
      rw [length_encodeMoldData] at small
      have fits : payload.length < 65536 := by omega
      exact ⟨decodeMold_data fits, fits⟩
  | sendMoldHeartbeat =>
      obtain rfl := Option.some.inj encoded
      refine ⟨decodeMold_heartbeat, ?_⟩
      intro seq payload same
      exact encodeMoldData_ne_heartbeat seq payload same.symm
  | sendSoupPacket ty payload =>
      obtain rfl := Option.some.inj encoded
      rw [length_encodeSoup] at small
      have fits : 1 + payload.length < 65536 := by omega
      exact ⟨decodeSoup_soup fits, fits⟩
  | expectClientBytes expected => cases encoded
  | sleep millis => cases encoded

theorem Scripted.encoded_of_sent {a : Scripted} {bytes : List UInt8} (sent : a.sent = some bytes) :
    a.action.encoded = some bytes := by
  unfold Scripted.sent at sent
  split at sent
  · cases sent
  · exact sent

/-- One datagram for each send that is not dropped, in order. -/
theorem decodesFrom_sentBy (script : List Scripted)
    (small : ∀ bytes ∈ sentBy script, bytes.length ≤ 65507) :
    List.Forall₂ (fun a bytes => a.action.DecodesFrom bytes)
      (script.filter fun a => a.sent.isSome) (sentBy script) := by
  induction script with
  | nil => exact .nil
  | cons a rest ih =>
      rw [sentBy, List.filterMap_cons] at small ⊢
      rw [List.filter_cons]
      cases sent : a.sent with
      | none =>
          rw [sent] at small
          exact ih small
      | some bytes =>
          rw [sent] at small
          obtain ⟨first, later⟩ := List.forall_mem_cons.mp small
          exact .cons (decodesFrom_encoded (Scripted.encoded_of_sent sent) first) (ih later)

/-- What holds of every buffer the port delivers holds of all that were sent. -/
theorem Port.Accountable.and {S : Type} {port : Port S}
    {Sent : List (List UInt8) → List UInt8 → S → Prop} {P : List UInt8 → Prop}
    (law : port.Accountable Sent)
    (each : ∀ {s bytes n t}, port.deliver s bytes = (.ok n, t) → P bytes) :
    port.Accountable fun bufs part s => Sent bufs part s ∧ ∀ bytes ∈ bufs, P bytes where
  delivered := by
    intro s bytes n t bufs answer ⟨sent, all⟩
    obtain ⟨counted, more⟩ := law.delivered answer sent
    refine ⟨counted, more, ?_⟩
    rw [List.forall_mem_append, List.forall_mem_singleton]
    exact ⟨all, each answer⟩
  failed := by
    intro s bytes h t bufs answer ⟨sent, all⟩
    obtain ⟨part, first, torn⟩ := law.failed answer sent
    exact ⟨part, first, torn, all⟩
  expected := by
    intro s bytes verdict t bufs answer ⟨sent, all⟩
    exact ⟨law.expected answer sent, all⟩

/-- However a run ends, what it sent is what some of its first actions make it send. -/
theorem Conserves.first {S : Type}
    {run : List Scripted → Awaited MockPeerError (Run S) MockRunReport}
    {Sent : List (List UInt8) → List UInt8 → S → Prop} {script : List Scripted}
    (conserved : Conserves run Sent script) :
    ∃ pre post part, script = pre ++ post ∧ Sent (sentBy pre) part (run script).2.sock := by
  rcases ended : run script with ⟨verdict, after⟩
  cases verdict with
  | ok report =>
      exact ⟨script, [], [], (List.append_nil _).symm, (conserved.ok report after ended).2⟩
  | error h =>
      rcases conserved.err h after ended with
        ⟨_, sent⟩ | ⟨pre, a, post, _, _, part, cut, _, _, _, sent⟩
      · exact ⟨[], script, [], rfl, sent⟩
      · exact ⟨pre, a :: post, part, cut, sent⟩

/-- **Datagrams.** If the socket refuses whatever is above 65507 bytes, then for every
script, all draws and whatever the run comes to: what it put on the wire is one datagram
for each send not dropped among its first actions, in order, and each decodes to its
action. -/
theorem datagrams_well_formed {io : UdpSocket U} {datagrams : U → List (SocketAddr × List UInt8)}
    (whole : io.Whole datagrams)
    (refuses : ∀ {u bytes addr n v}, io.sendTo u bytes addr = (.ok n, v) → bytes.length ≤ 65507)
    (bind : SocketAddr) (script : List Scripted) (target : Option SocketAddr) (u : U) :
    ∃ pre post news, script = pre ++ post ∧
      datagrams (runUdp io bind script target u).2.sock = datagrams u ++ news ∧
      (∀ d ∈ news, target = some d.1) ∧
      List.Forall₂ (fun a d => a.action.DecodesFrom d.2)
        (pre.filter fun a => a.sent.isSome) news := by
  have small : ∀ {u bytes n v}, (udpPort io target).deliver u bytes = (.ok n, v) →
      bytes.length ≤ 65507 := by
    intro u bytes n v answer
    obtain ⟨addr, _, answer⟩ := deliverUdp_ok_iff.mp answer
    exact refuses answer
  have law := (udpPort_accountable whole target u).and small
  have none_yet : ∀ bytes ∈ ([] : List (List UInt8)), bytes.length ≤ 65507 :=
    fun _ member => absurd member List.not_mem_nil
  have start := And.intro (sentTo_start whole bind target u) none_yet
  obtain ⟨pre, post, part, cut, ⟨_, news, log, contents, addressed⟩, short⟩ :=
    (runOn_conserves law start script).first
  have decoded := decodesFrom_sentBy pre short
  rw [← contents, List.forall₂_map_right_iff] at decoded
  exact ⟨pre, post, news, cut, log, addressed, decoded⟩

theorem mailbox_refuses {m v : Mailbox} {bytes : List UInt8} {addr : SocketAddr} {n : Nat}
    (answer : mailbox.sendTo m bytes addr = (.ok n, v)) : bytes.length ≤ 65507 := by
  simp only [mailbox] at answer
  split at answer
  case isTrue small => exact small
  case isFalse => cases answer

/-- One send of each kind. -/
def oneOfEach : List Scripted :=
  [⟨.sendMoldPacket 7 [1, 2, 3], false⟩, ⟨.sendMoldHeartbeat, false⟩,
    ⟨.sendSoupPacket 83 [4], false⟩]

theorem datagrams_well_formed_each :
    ∃ pre post news, oneOfEach = pre ++ post ∧
      (runUdp mailbox localhost oneOfEach (some localhost) ⟨[], []⟩).2.sock.datagrams = news ∧
      (∀ d ∈ news, some localhost = some d.1) ∧
      List.Forall₂ (fun a d => a.action.DecodesFrom d.2)
        (pre.filter fun a => a.sent.isSome) news :=
  datagrams_well_formed mailbox_whole mailbox_refuses localhost oneOfEach (some localhost) ⟨[], []⟩

end Transports.Testing
