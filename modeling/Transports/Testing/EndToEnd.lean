import Mathlib.Data.List.ReduceOption
import Transports.Tcp.Stream
import Transports.Testing.Roundtrip
import Transports.Udp.Conformance
import Transports.Udp.Provenance

/-!
# From a script to the frames

`MockPeer` at one end, a transport at the other, and a network between them that makes
nothing up. On UDP it may lose, repeat and reorder datagrams, and a frame still decodes
to an action of the script if and only if the datagram fits a slab. On TCP it delivers the
first bytes of what was written, and the packets read from them are the first ones of the
script, in whatever pieces `recv_into` lands them.
-/

namespace Transports.Testing

open Lib Transports.Core

variable {U T : Type} {script : List Scripted} {bind : SocketAddr}

/-! ## UDP -/

/-- A datagram that lost its end says nothing of its action. -/
theorem MockAction.DecodesFrom.of_prefix_iff {action : MockAction} {bytes early : List UInt8}
    (whole : action.DecodesFrom bytes) (part : early <+: bytes) :
    action.DecodesFrom early ↔ early = bytes := by
  constructor
  · intro again
    obtain ⟨more, rfl⟩ := part
    suffices none_lost : more = [] by rw [none_lost, List.append_nil]
    by_contra lost
    cases action with
    | sendMoldPacket seq payload =>
        have longer := decodeMold_append again.1 more
        rw [whole.1, if_neg lost] at longer
        cases longer
    | sendMoldHeartbeat =>
        have longer := decodeMold_append again.1 more
        rw [whole.1, if_neg lost] at longer
        cases longer
    | sendSoupPacket ty payload =>
        have longer := decodeSoup_append again.1 more
        rw [whole.1, if_neg lost] at longer
        cases longer
    | expectClientBytes expected => exact whole
    | sleep millis => exact whole
  · rintro rfl
    exact whole

/-- The datagrams on the wire after a run. -/
def onWire (io : UdpSocket U) (datagrams : U → List (SocketAddr × List UInt8)) (bind : SocketAddr)
    (script : List Scripted) (target : Option SocketAddr) (u : U) : List (List UInt8) :=
  (datagrams (runUdp io bind script target u).2.sock).map Prod.snd

section Udp

variable {io : UdpSocket U} {datagrams : U → List (SocketAddr × List UInt8)}
  {target : Option SocketAddr} {u : U}

/-- The socket refuses what no datagram can hold. -/
def Refuses (io : UdpSocket U) : Prop :=
  ∀ {u bytes addr n v}, io.sendTo u bytes addr = (.ok n, v) → bytes.length ≤ 65507

/-- What is on the wire is what some of the first actions send. -/
theorem onWire_first (whole : io.Whole datagrams) (refuses : Refuses io)
    (fresh : datagrams u = []) (bind : SocketAddr) (script : List Scripted)
    (target : Option SocketAddr) : ∃ pre post, script = pre ++ post ∧
      onWire io datagrams bind script target u = sentBy pre ∧
      ∀ bytes ∈ sentBy pre, bytes.length ≤ 65507 := by
  have small : ∀ {u bytes n v}, (udpPort io target).deliver u bytes = (.ok n, v) →
      bytes.length ≤ 65507 := by
    intro u bytes n v answer
    obtain ⟨addr, _, answer⟩ := deliverUdp_ok_iff.mp answer
    exact refuses answer
  have law := (udpPort_accountable whole target u).and small
  have none_yet : ∀ bytes ∈ ([] : List (List UInt8)), bytes.length ≤ 65507 :=
    fun _ member => absurd member List.not_mem_nil
  have start := And.intro (sentTo_start whole bind target u) none_yet
  obtain ⟨pre, post, part, split, ⟨_, news, log, contents, _⟩, short⟩ :=
    (runOn_conserves law start script).first
  refine ⟨pre, post, split, ?_, short⟩
  have sent : datagrams (runUdp io bind script target u).2.sock = datagrams u ++ news := log
  rw [onWire, sent, fresh, List.nil_append, contents]

/-- **Any network.** Whatever the run comes to, and whatever is lost, repeated or reordered
on the way as long as nothing is made up: every frame alive, at any moment, shows the first
bytes of a datagram an action of the script sent, and decodes to that action if and only if
the datagram fits a slab. -/
theorem frames_decode_iff (whole : io.Whole datagrams) (refuses : Refuses io)
    (fresh : datagrams u = []) (bind : SocketAddr) (script : List Scripted)
    (target : Option SocketAddr) (b : Udp.Backend) (slabCount slabSize : Nat) {w : Udp.World}
    (reach : (Udp.world b slabCount slabSize).Reachable w)
    (honest : ∀ d ∈ w.arrived, d.payload ∈ onWire io datagrams bind script target u) :
    ∀ frame ∈ w.liveFrames, ∃ a ∈ script, ∃ bytes, a.sent = some bytes ∧
      frame.payload w.pool = bytes.take slabSize ∧
      (a.action.DecodesFrom (frame.payload w.pool) ↔ bytes.length ≤ slabSize) := by
  intro frame alive
  obtain ⟨pre, post, rfl, wire, short⟩ := onWire_first whole refuses fresh bind script target
  obtain ⟨d, came, shown, _⟩ := Udp.frame_from_arrival reach alive
  have sent := honest d came
  rw [wire] at sent
  obtain ⟨a, done, sends⟩ := List.mem_filterMap.mp sent
  have decodes := decodesFrom_encoded (Scripted.encoded_of_sent sends) (short _ sent)
  refine ⟨a, List.mem_append_left _ done, d.payload, sends, shown, ?_⟩
  rw [shown, decodes.of_prefix_iff (List.take_prefix _ _), List.take_eq_self_iff]

/-- A login without a payload, and a packet that is dropped. -/
def oneLogin : List Scripted := [⟨.sendSoupPacket 72 [], false⟩, ⟨.sendMoldHeartbeat, true⟩]

/-- The receiver that got it, over slabs of four bytes. -/
def loginHeard : Udp.World :=
  (Udp.world .mio 2 4).replay (.start (Udp.UdpTransport.overTwoSlabs 1).pool ⟨false, []⟩)
    [.newBatch 1, .arrive ⟨[0, 1, 72], Udp.someSender⟩, .recvBurst 0 1, .next none, .next none,
      .next none]

theorem loginHeard_reachable : (Udp.world .mio 2 4).Reachable loginHeard := by
  have start : (Udp.world .mio 2 4).init
      (.start (Udp.UdpTransport.overTwoSlabs 1).pool ⟨false, []⟩) := ⟨_, _, rfl, rfl⟩
  exact .replay start _

/-- Its one frame. -/
def loginFrame : Udp.UdpFrame := ⟨⟨0, 3⟩, Udp.someSender, [0, 1, 72]⟩

theorem frames_decode_iff_login :
    ∃ a ∈ oneLogin, ∃ bytes, a.sent = some bytes ∧
      loginFrame.payload loginHeard.pool = bytes.take 4 ∧
      (a.action.DecodesFrom (loginFrame.payload loginHeard.pool) ↔ bytes.length ≤ 4) := by
  have honest : ∀ d ∈ loginHeard.arrived, d.payload ∈
      onWire mailbox Mailbox.datagrams localhost oneLogin (some localhost) ⟨[], []⟩ := by decide
  have alive : loginFrame ∈ loginHeard.liveFrames := by decide
  exact frames_decode_iff mailbox_whole mailbox_refuses rfl localhost oneLogin (some localhost)
    .mio 2 4 loginHeard_reachable honest _ alive

/-- A run that completes has put its whole script on the wire. -/
theorem onWire_ok (whole : io.Whole datagrams) (fresh : datagrams u = [])
    {report : MockRunReport} {after : Run U}
    (done : runUdp io bind script target u = (.ok report, after)) :
    onWire io datagrams bind script target u = sentBy script := by
  have law := udpPort_accountable whole target u
  have start := sentTo_start whole bind target u
  obtain ⟨_, _, news, log, contents, _⟩ := (runOn_conserves law start script).ok report after done
  rw [onWire, done, log, fresh, List.nil_append, contents]

/-- Of the elements that match a list, those that match a part of it are a part. -/
theorem forall₂_of_sublist {α β : Type} {R : α → β → Prop} {all : List α} {part of : List β}
    (sub : part.Sublist of) (matched : List.Forall₂ R all of) :
    ∃ some : List α, some.Sublist all ∧ List.Forall₂ R some part := by
  induction sub generalizing all with
  | slnil => exact ⟨[], List.nil_sublist _, .nil⟩
  | cons first rest ih =>
      cases matched with
      | cons one later =>
          obtain ⟨some, inside, still⟩ := ih later
          exact ⟨some, inside.cons _, still⟩
  | cons_cons first rest ih =>
      cases matched with
      | cons one later =>
          obtain ⟨some, inside, still⟩ := ih later
          exact ⟨_, inside.cons_cons _, .cons one still⟩

/-- The end of a list matches the end of what the list matches. -/
theorem forall₂_of_suffix {α β : Type} {R : α → β → Prop} {all : List α} {part of : List β}
    (suffix : part <:+ of) (matched : List.Forall₂ R all of) :
    ∃ mine : List α, mine <:+ all ∧ List.Forall₂ R mine part := by
  refine ⟨all.drop (of.length - part.length), List.drop_suffix _ _, ?_⟩
  have last := List.forall₂_drop (of.length - part.length) matched
  rwa [← List.suffix_iff_eq_drop.mp suffix] at last

/-- **A network that keeps the order.** If it loses datagrams only, and the slabs have room
for what the script sends, the frames ever appended decode one by one to sends of the script
in the script's order; and to all of them, once a run that completed has lost nothing and
the queue is empty. The frames a call in progress put behind those of its batch decode to
the last of these sends, and every step puts into the batch what it appends. -/
theorem received_in_order (whole : io.Whole datagrams) (refuses : Refuses io)
    (fresh : datagrams u = []) (bind : SocketAddr) (script : List Scripted)
    (target : Option SocketAddr) (b : Udp.Backend) (slabCount slabSize : Nat) {w : Udp.World}
    (reach : (Udp.world b slabCount slabSize).Reachable w)
    (lossy : (w.arrived.map Udp.Datagram.payload).Sublist
      (onWire io datagrams bind script target u))
    (room : ∀ bytes ∈ sentBy script, bytes.length ≤ slabSize) :
    (∃ got, got.Sublist (script.filter fun a => a.sent.isSome) ∧
      List.Forall₂ (fun a shown => a.action.DecodesFrom shown.1) got w.appended ∧
      ∀ c, w.call = some c → ∃ mine, mine <:+ got ∧
        List.Forall₂ (fun a frame => a.action.DecodesFrom (frame.payload w.pool)) mine c.put) ∧
    (∀ report after, runUdp io bind script target u = (.ok report, after) →
      w.arrived.map Udp.Datagram.payload = onWire io datagrams bind script target u →
      w.queue = [] → List.Forall₂ (fun a shown => a.action.DecodesFrom shown.1)
        (script.filter fun a => a.sent.isSome) w.appended) ∧
    Udp.Batched b w := by
  obtain ⟨pre, post, rfl, wire, short⟩ := onWire_first whole refuses fresh bind script target
  have decoded := decodesFrom_sentBy pre short
  have fits : ∀ d ∈ w.arrived, d.payload.length ≤ slabSize := by
    intro d came
    have sent := lossy.subset (List.mem_map_of_mem came)
    rw [wire] at sent
    refine room _ ?_
    rw [sentBy, List.filterMap_append]
    exact List.mem_append_left _ sent
  have order := Udp.payloads_in_order reach fits
  have first : (w.appended.map Prod.fst).Sublist (sentBy pre) := by
    rw [← wire]
    refine List.Sublist.trans ?_ lossy
    rw [← order]
    exact List.sublist_append_left _ _
  have batched := Udp.world_batched b slabCount slabSize w reach
  refine ⟨?_, ?_, batched⟩
  · obtain ⟨got, inside, each⟩ := forall₂_of_sublist first decoded
    have matched := List.forall₂_map_right_iff.mp each
    refine ⟨got, inside.trans ?_, matched, ?_⟩
    · rw [List.filter_append]
      exact List.sublist_append_left _ _
    · intro c running
      obtain ⟨mine, last, put⟩ := forall₂_of_suffix (batched.inHand c running).2 matched
      exact ⟨mine, last, List.forall₂_map_right_iff.mp put⟩
  · intro report after done lossless empty
    have all : w.appended.map Prod.fst = sentBy (pre ++ post) := by
      rw [empty, List.map_nil, List.map_nil, List.append_nil] at order
      rw [order, lossless, onWire_ok whole fresh done]
    have every := decodesFrom_sentBy (pre ++ post) (by rwa [← onWire_ok whole fresh done, wire])
    rw [← all] at every
    exact List.forall₂_map_right_iff.mp every

theorem received_in_order_login :
    List.Forall₂ (fun a shown => a.action.DecodesFrom shown.1)
      (oneLogin.filter fun a => a.sent.isSome) loginHeard.appended := by
  have lossy : (loginHeard.arrived.map Udp.Datagram.payload).Sublist
      (onWire mailbox Mailbox.datagrams localhost oneLogin (some localhost) ⟨[], []⟩) :=
    List.Sublist.refl _
  have room : ∀ bytes ∈ sentBy oneLogin, bytes.length ≤ 4 := by decide
  exact (received_in_order mailbox_whole mailbox_refuses rfl localhost oneLogin (some localhost)
    .mio 2 4 loginHeard_reachable lossy room).2.1 _ _ rfl rfl rfl

end Udp

/-! ## TCP -/

/-- The SoupBinTCP packet an action sends. -/
def Scripted.soup (a : Scripted) : Option (UInt8 × List UInt8) :=
  match a.dropped, a.action with
  | false, .sendSoupPacket ty payload => some (ty, payload)
  | _, _ => none

/-- The packets of a script, in order. -/
def soupOf (script : List Scripted) : List (UInt8 × List UInt8) := script.filterMap Scripted.soup

/-- What the script sends is SoupBinTCP packets. -/
def OnlySoup (script : List Scripted) : Prop := ∀ a ∈ script, a.sent ≠ none → a.soup ≠ none

/-- A packet as the frame it is. -/
def soupFrame (packet : UInt8 × List UInt8) : List UInt8 := packet.1 :: packet.2

/-- The bytes the calls landed, one piece for each call. -/
def pieces (client : Tcp.Conn) : List (List UInt8) :=
  client.calls.map fun call => call.landed.reduceOption

/-- A reader that is given the pieces as they come: the frames so far, and the bytes left. -/
def readPieces (client : Tcp.Conn) : List (List UInt8) × List UInt8 :=
  (pieces client).foldl (feed 2) ([], [])

/-- What the reader has of these packets: `got` in full, and of the others less than the
first of them. -/
structure Reading (packets : List (UInt8 × List UInt8)) (client : Tcp.Conn)
    (got missing : List (UInt8 × List UInt8)) : Prop where
  split : packets = got ++ missing
  frames : typed (readPieces client).1 = some got
  bytes : (pieces client).flatten =
    (got.flatMap fun p => encodeSoup p.1 p.2) ++ (readPieces client).2
  early : (readPieces client).2 <+: missing.flatMap fun p => encodeSoup p.1 p.2
  short : ∀ next ∈ missing.head?, (readPieces client).2.length < 3 + next.2.length

section Tcp

theorem Scripted.sent_of_soup {a : Scripted} {packet : UInt8 × List UInt8}
    (packed : a.soup = some packet) : a.sent = some (encodeSoup packet.1 packet.2) := by
  unfold Scripted.soup at packed
  split at packed
  · next kept sends =>
      cases packed
      rw [Scripted.sent, kept, sends]
      rfl
  · cases packed

theorem sentBy_soupOf (only : OnlySoup script) :
    sentBy script = (soupOf script).map fun p => encodeSoup p.1 p.2 := by
  induction script with
  | nil => rfl
  | cons a rest ih =>
      obtain ⟨first, others⟩ := List.forall_mem_cons.mp only
      rw [sentBy, soupOf, List.filterMap_cons, List.filterMap_cons]
      cases packed : a.soup with
      | none =>
          have unsent : a.sent = none := by
            by_contra sends
            exact first sends packed
          rw [unsent]
          exact ih others
      | some packet =>
          rw [Scripted.sent_of_soup packed, List.map_cons]
          exact congrArg (_ :: ·) (ih others)

theorem flatMap_soupFrame (packets : List (UInt8 × List UInt8)) :
    (packets.map soupFrame).flatMap (frame 2) =
      packets.flatMap fun p => encodeSoup p.1 p.2 := by
  rw [List.flatMap_map]
  simp only [encodeSoup_eq]
  rfl

theorem sentBy_append (first second : List Scripted) :
    sentBy (first ++ second) = sentBy first ++ sentBy second :=
  List.filterMap_append

/-- However a run ends, it has written the first bytes of what its script sends. -/
theorem written_first {io : TcpPeer T} {written : T → List UInt8} (unbroken : io.Whole written)
    {t : T} (fresh : written t = []) (bind : SocketAddr) (script : List Scripted) :
    written (runTcp io bind script t).2.sock <+: (sentBy script).flatten := by
  have start := sentOn_start unbroken bind t
  have conserved := runOn_conserves (tcpPort_accountable unbroken t) start script
  rcases ended : runTcp io bind script t with ⟨verdict, after⟩
  cases verdict with
  | ok report =>
      have sent : written after.sock = _ := (conserved.ok report after ended).2
      rw [sent, fresh, List.nil_append, List.append_nil]
  | error h =>
      rcases conserved.err h after ended with
        ⟨_, sent⟩ | ⟨pre, a, post, _, _, part, split, _, _, early, sent⟩
      · have none_sent : written after.sock = _ := sent
        rw [none_sent, fresh]
        exact List.nil_prefix
      · have some_sent : written after.sock = _ := sent
        have whole : sentBy (a :: post) = sentBy [a] ++ sentBy post := sentBy_append [a] post
        rw [some_sent, fresh, List.nil_append, split, sentBy_append, whole, List.flatten_append,
          List.flatten_append]
        exact (List.prefix_append_right_inj _).mpr (early.trans (List.prefix_append _ _))

theorem reduceOption_some {α : Type} (l : List α) : (l.map some).reduceOption = l := by
  induction l with
  | nil => rfl
  | cons first rest ih => rw [List.map_cons, List.reduceOption_cons_of_some, ih]

/-- The pieces are the bytes landed, cut where the calls end. -/
theorem flatten_pieces (client : Tcp.Conn) :
    (pieces client).flatten = client.landed.reduceOption := by
  rw [pieces, Tcp.Conn.landed, ← List.flatMap_def, List.reduceOption, List.filterMap_flatMap]

theorem pieces_written {b : Udp.Backend} {client : Tcp.Conn}
    (reach : (Tcp.stream b).Reachable client) :
    (pieces client).flatten ++ client.sock.queued = client.written := by
  obtain ⟨intact, _⟩ := Tcp.stream_intact b client reach
  have bytes := congrArg List.reduceOption intact
  rwa [List.reduceOption_append, reduceOption_some, reduceOption_some, ← flatten_pieces] at bytes

/-- The length field has room for the packets. -/
theorem soupFrame_fits {packets : List (UInt8 × List UInt8)}
    (fits : ∀ p ∈ packets, p.2.length ≤ 65534) :
    ∀ f ∈ packets.map soupFrame, f.length < 256 ^ 2 := by
  intro f member
  obtain ⟨p, inside, rfl⟩ := List.mem_map.mp member
  have := fits p inside
  show (p.1 :: p.2).length < 256 ^ 2
  rw [List.length_cons]
  omega

/-- Whatever the reader was given of the packets, it has the first of them. -/
theorem reading_of_part {packets : List (UInt8 × List UInt8)} {client : Tcp.Conn}
    (fits : ∀ p ∈ packets, p.2.length ≤ 65534)
    (part : (pieces client).flatten <+: packets.flatMap fun p => encodeSoup p.1 p.2) :
    ∃ got missing, Reading packets client got missing := by
  rw [← flatMap_soupFrame] at part
  obtain ⟨before, after, left, read⟩ := unframeReady_part (by omega) (soupFrame_fits fits) part
  obtain ⟨got, missing, rfl, rfl, rfl⟩ := List.map_eq_append_iff.mp read.split
  have final : readPieces client = (got.map soupFrame, left) := by
    rw [readPieces, foldl_feed, read.read]
  refine ⟨got, missing, rfl, ?_, ?_, ?_, ?_⟩
  · rw [final]
    exact typed_eq_some_iff.mpr rfl
  · rw [final, ← flatMap_soupFrame]
    exact read.bytes
  · rw [final, ← flatMap_soupFrame]
    exact read.early
  · intro next member
    rw [final]
    have first := read.short (soupFrame next) (by
      rw [List.head?_map]
      exact Option.mem_map_of_mem soupFrame member)
    rw [soupFrame, List.length_cons] at first
    show left.length < _
    omega

/-- Nothing is missing once all bytes are there. -/
theorem Reading.complete {packets got missing : List (UInt8 × List UInt8)} {client : Tcp.Conn}
    (reading : Reading packets client got missing)
    (all : (pieces client).flatten = packets.flatMap fun p => encodeSoup p.1 p.2) :
    got = packets ∧ (readPieces client).2 = [] := by
  have bytes := reading.bytes
  rw [all, reading.split, List.flatMap_append] at bytes
  have rest := List.append_cancel_left bytes
  cases missing with
  | nil =>
      refine ⟨?_, rest.symm⟩
      rw [reading.split, List.append_nil]
  | cons next later =>
      have few := reading.short next rfl
      rw [← rest, List.flatMap_cons, List.length_append, length_encodeSoup] at few
      omega

/-- A client of a stream that starts as the script's does. -/
theorem reading_of_written (only : OnlySoup script)
    (fits : ∀ p ∈ soupOf script, p.2.length ≤ 65534) {b : Udp.Backend} {client : Tcp.Conn}
    (reach : (Tcp.stream b).Reachable client) (first : client.written <+: (sentBy script).flatten) :
    ∃ got missing, Reading (soupOf script) client got missing ∧
      (client.written = (sentBy script).flatten → client.sock.queued = [] →
        got = soupOf script ∧ (readPieces client).2 = []) := by
  have stream : (sentBy script).flatten =
      (soupOf script).flatMap fun p => encodeSoup p.1 p.2 := by
    rw [sentBy_soupOf only, List.flatMap_def]
  have landed := pieces_written reach
  have part : (pieces client).flatten <+: (sentBy script).flatten := by
    refine List.IsPrefix.trans ?_ first
    rw [← landed]
    exact List.prefix_append _ _
  rw [stream] at part
  obtain ⟨got, missing, reading⟩ := reading_of_part fits part
  refine ⟨got, missing, reading, ?_⟩
  intro all empty
  rw [empty, List.append_nil] at landed
  exact reading.complete (landed.trans (all.trans stream))

/-- **A stream in pieces.** Whatever the run comes to, wherever the network and the calls of
`recv_into` cut the stream, and whatever else is going on at the connection: a reader given
the landings as they come has the first packets of the script in full and less than the next
one; and all of them, with nothing left, once a run that completed is landed to its end. -/
theorem packets_in_pieces {io : TcpPeer T} {written : T → List UInt8} (unbroken : io.Whole written)
    {t : T} (fresh : written t = []) (bind : SocketAddr) {script : List Scripted}
    (only : OnlySoup script) (fits : ∀ p ∈ soupOf script, p.2.length ≤ 65534)
    (b : Udp.Backend) {client : Tcp.Conn} (reach : (Tcp.stream b).Reachable client)
    (network : client.written <+: written (runTcp io bind script t).2.sock) :
    ∃ got missing, Reading (soupOf script) client got missing ∧
      ∀ report after, runTcp io bind script t = (.ok report, after) →
        client.written = written after.sock → client.sock.queued = [] →
        got = soupOf script ∧ (readPieces client).2 = [] := by
  have first := network.trans (written_first unbroken fresh bind script)
  obtain ⟨got, missing, reading, complete⟩ := reading_of_written only fits reach first
  refine ⟨got, missing, reading, ?_⟩
  intro report after done arrived empty
  have start := sentOn_start unbroken bind t
  have conserved := runOn_conserves (tcpPort_accountable unbroken t) start script
  have sent : written after.sock = _ := (conserved.ok report after done).2
  refine complete ?_ empty
  rw [arrived, sent, fresh, List.nil_append, List.append_nil]

/-- The client of `twoPackets`, four bytes at a time. -/
def inFours : Tcp.Conn :=
  (Tcp.stream .mio).replay Tcp.Conn.start
    [.write [0, 4, 83, 1, 2, 3, 0, 1, 72], .recvInto none [none, none, none, none],
      .recvInto none [none, none, none, none], .recvInto none [none, none, none, none]]

theorem packets_in_pieces_two :
    typed (readPieces inFours).1 = some twoPackets ∧ (readPieces inFours).2 = [] := by
  have only : OnlySoup (soupScript twoPackets) := by
    unfold OnlySoup
    decide
  have fits : ∀ p ∈ soupOf (soupScript twoPackets), p.2.length ≤ 65534 := by decide
  have reach : (Tcp.stream .mio).Reachable inFours := .replay rfl _
  have network : inFours.written <+:
      (runTcp pipe localhost (soupScript twoPackets) ⟨[], []⟩).2.sock.written :=
    List.prefix_refl _
  obtain ⟨got, missing, reading, complete⟩ :=
    packets_in_pieces pipe_whole rfl localhost only fits .mio reach network
  obtain ⟨all, left⟩ := complete _ _ rfl rfl rfl
  refine ⟨?_, left⟩
  rw [reading.frames, all]
  rfl

end Tcp

end Transports.Testing
