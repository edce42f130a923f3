import Transports.Testing.MockPeer

/-!
# The report accounts for the script

Every send action is either handed to the socket or counted as dropped. With sockets that
take a whole datagram or buffer, or fail, the report of a run and what the peer was sent
are a function of the script and the draws; a run that stops has sent what the actions
before the one it stopped at make it send.
-/

namespace Transports.Testing

open Lib Transports.Core

variable {S U T : Type}

/-! ## What a script amounts to -/

/-- The buffers of the send actions that are not dropped, in order. -/
def sentBy (script : List Scripted) : List (List UInt8) := script.filterMap Scripted.sent

/-- The buffers of all send actions, in order. -/
def offeredBy (script : List Scripted) : List (List UInt8) :=
  script.filterMap fun a => a.action.encoded

def totalBytes (bufs : List (List UInt8)) : Nat := (bufs.map List.length).sum

/-- The report of a run that completed these actions. -/
structure MockRunReport.Accounts (report : MockRunReport) (script : List Scripted) : Prop where
  completed : report.actionsCompleted = script.length
  sent : report.bytesSent = totalBytes (sentBy script)
  conserved : report.bytesSent + report.bytesDroppedSynthetic = totalBytes (offeredBy script)

/-- What holds of one transport: `run` runs a script, and `Sent bufs part s` says
that by the state `s` exactly `bufs` were sent in full, and of one more buffer `part`. -/
structure Conserves (run : List Scripted → Awaited MockPeerError (Run S) MockRunReport)
    (Sent : List (List UInt8) → List UInt8 → S → Prop) (script : List Scripted) : Prop where
  ok : ∀ report after, run script = (.ok report, after) →
    report.Accounts script ∧ Sent (sentBy script) [] after.sock
  /-- There was no socket to send on, or `a` failed and all before it completed. -/
  err : ∀ h after, run script = (.error h, after) →
    (run [] = (.error h, after) ∧ Sent [] [] after.sock) ∨
    ∃ pre a post report mid part, script = pre ++ a :: post ∧ run pre = (.ok report, mid) ∧
      run (pre ++ [a]) = (.error h, after) ∧ part <+: (sentBy [a]).flatten ∧
      Sent (sentBy pre) part after.sock

/-- All actions before `a` complete, so that the run gets to it. -/
def Reached (run : List Scripted → Awaited MockPeerError (Run S) MockRunReport)
    (script : List Scripted) (a : Scripted) : Prop :=
  ∃ pre post report mid, script = pre ++ a :: post ∧ run pre = (.ok report, mid)

section Scripts

variable {pre : List Scripted} {a : Scripted}

theorem sentBy_snoc (pre : List Scripted) (a : Scripted) :
    sentBy (pre ++ [a]) = sentBy pre ++ a.sent.toList :=
  filterMap_snoc Scripted.sent pre a

theorem sentBy_quiet (unsent : a.sent = none) : sentBy (pre ++ [a]) = sentBy pre := by
  rw [sentBy_snoc, unsent, Option.toList_none, List.append_nil]

theorem offeredBy_snoc (pre : List Scripted) (a : Scripted) :
    offeredBy (pre ++ [a]) = offeredBy pre ++ a.action.encoded.toList :=
  filterMap_snoc (fun a : Scripted => a.action.encoded) pre a

theorem totalBytes_append (first second : List (List UInt8)) :
    totalBytes (first ++ second) = totalBytes first + totalBytes second := by
  rw [totalBytes, List.map_append, List.sum_append]
  rfl

/-- One more action, whose buffer is counted on one side or the other. -/
theorem accounts_snoc {run : Run S} {sock : S} {sent dropped : Nat}
    (before : run.report.Accounts pre) (out : totalBytes a.sent.toList = sent)
    (offered : totalBytes a.action.encoded.toList = sent + dropped) :
    (run.after sock sent dropped).report.Accounts (pre ++ [a]) := by
  refine ⟨?_, ?_, ?_⟩
  · show run.report.actionsCompleted + 1 = _
    rw [List.length_append, List.length_singleton, before.completed]
  · show run.report.bytesSent + sent = _
    rw [sentBy_snoc, totalBytes_append, out, before.sent]
  · show run.report.bytesSent + sent + (run.report.bytesDroppedSynthetic + dropped) = _
    have conserved := before.conserved
    rw [offeredBy_snoc, totalBytes_append, offered]
    omega

end Scripts

/-! ## Any port that keeps to its account -/

/-- The socket takes the whole buffer or fails, and receiving sends nothing. -/
structure Port.Accountable (port : Port S) (Sent : List (List UInt8) → List UInt8 → S → Prop) :
    Prop where
  delivered : ∀ {s bytes n t bufs}, port.deliver s bytes = (.ok n, t) → Sent bufs [] s →
    n = bytes.length ∧ Sent (bufs ++ [bytes]) [] t
  failed : ∀ {s bytes h t bufs}, port.deliver s bytes = (.error h, t) → Sent bufs [] s →
    ∃ part, part <+: bytes ∧ Sent bufs part t
  expected : ∀ {s bytes verdict t bufs}, port.expect s bytes = (verdict, t) → Sent bufs [] s →
    Sent bufs [] t

/-- The loop's invariant after the actions `pre`. -/
structure Tallied (Sent : List (List UInt8) → List UInt8 → S → Prop) (pre : List Scripted)
    (run : Run S) : Prop where
  accounts : run.report.Accounts pre
  sent : Sent (sentBy pre) [] run.sock

section Ports

variable {port : Port S} {Sent : List (List UInt8) → List UInt8 → S → Prop}
  {pre script : List Scripted} {a : Scripted} {run after : Run S}

/-- A turn that is no send leaves the account as it is. -/
theorem tallied_idle {sock : S} (before : Tallied Sent pre run) (idle : a.action.encoded = none)
    (kept : Sent (sentBy pre) [] sock) : Tallied Sent (pre ++ [a]) (run.after sock 0 0) := by
  have unsent := Scripted.sent_of_encoded idle
  refine ⟨?_, ?_⟩
  · exact accounts_snoc before.accounts (by rw [unsent]; rfl) (by rw [idle]; rfl)
  · rw [sentBy_quiet unsent]
    exact kept

/-- One turn that completes keeps the account. -/
theorem tallied_act (law : port.Accountable Sent) (before : Tallied Sent pre run)
    (taken : act port run a = (.ok (), after)) : Tallied Sent (pre ++ [a]) after := by
  have whole (bytes : List UInt8) : totalBytes (some bytes).toList = bytes.length := rfl
  cases acted_of_act taken with
  | dropped encoded unsent _ =>
      refine ⟨?_, ?_⟩
      · refine accounts_snoc before.accounts (by rw [unsent]; rfl) ?_
        rw [encoded, whole, Nat.zero_add]
      · rw [sentBy_quiet unsent]
        exact before.sent
  | sent encoded handed _ answer =>
      obtain ⟨counted, sent⟩ := law.delivered answer before.sent
      refine ⟨?_, ?_⟩
      · refine accounts_snoc before.accounts ?_ ?_
        · rw [handed, whole, counted]
        · rw [encoded, whole, counted, Nat.add_zero]
      · rw [sentBy_snoc, handed]
        exact sent
  | met idle _ answer => exact tallied_idle before idle (law.expected answer before.sent)
  | slept idle _ => exact tallied_idle before idle before.sent

theorem tallied_run (law : port.Accountable Sent) {s : S} (fresh : Sent [] [] s)
    (done : runAll (act port) script ⟨s, .default⟩ = (.ok (), after)) :
    Tallied Sent script after := by
  have start : Tallied Sent [] ⟨s, .default⟩ := ⟨⟨rfl, rfl, rfl⟩, fresh⟩
  refine runAll_induction start ?_ done
  intro pre a run after _ before taken
  exact tallied_act law before taken

/-- A turn that fails has sent a part of its own buffer at most. -/
theorem sent_of_failed {h : Halt MockPeerError} (law : port.Accountable Sent)
    (before : Tallied Sent pre run) (failed : act port run a = (.error h, after)) :
    ∃ part, part <+: (sentBy [a]).flatten ∧ Sent (sentBy pre) part after.sock := by
  cases acted_of_act failed with
  | unsent handed _ answer =>
      obtain ⟨part, first, sent⟩ := law.failed answer before.sent
      refine ⟨part, ?_, sent⟩
      rw [sentBy, List.filterMap_cons, handed]
      simpa using first
  | unmet _ _ answer => exact ⟨[], List.nil_prefix, law.expected answer before.sent⟩

theorem runOn_conserves (law : port.Accountable Sent) {opened : Awaited MockPeerError S Unit}
    (fresh : Sent [] [] opened.2) (script : List Scripted) :
    Conserves (runOn port opened) Sent script := by
  refine ⟨?_, ?_⟩
  · intro report after ended
    obtain ⟨s, there, done, rfl⟩ := runOn_ok_iff.mp ended
    rw [there] at fresh
    have tally := tallied_run law fresh done
    exact ⟨tally.accounts, tally.sent⟩
  · intro h after stopped
    cases runOn_error_iff.mp stopped with
    | @unopened _ _ s absent =>
        rw [absent] at fresh
        exact .inl ⟨runOn_unopened absent, fresh⟩
    | @action pre a post s mid _ _ there before failed =>
        rw [there] at fresh
        obtain ⟨part, first, sent⟩ := sent_of_failed law (tallied_run law fresh before) failed
        refine .inr ⟨pre, a, post, mid.report, mid, part, rfl, ?_, ?_, first, sent⟩
        · exact runOn_ok_iff.mpr ⟨s, there, before, rfl⟩
        · exact runOn_error_iff.mpr (.action there before failed)

end Ports

/-! ## The two transports -/

/-- The socket accepts a whole datagram or fails; `datagrams` are those it accepted. -/
structure UdpSocket.Whole (io : UdpSocket U)
    (datagrams : U → List (SocketAddr × List UInt8)) : Prop where
  bind : ∀ {u addr verdict v}, io.bind u addr = (verdict, v) → datagrams v = datagrams u
  sent : ∀ {u bytes addr n v}, io.sendTo u bytes addr = (.ok n, v) →
    n = bytes.length ∧ datagrams v = datagrams u ++ [(addr, bytes)]
  refused : ∀ {u bytes addr h v}, io.sendTo u bytes addr = (.error h, v) →
    datagrams v = datagrams u
  received : ∀ {u room verdict v}, io.recvFrom u room = (verdict, v) → datagrams v = datagrams u

/-- The stream accepts a whole buffer or fails, with any part of it written. -/
structure TcpPeer.Whole (io : TcpPeer T) (written : T → List UInt8) : Prop where
  bind : ∀ {t addr verdict v}, io.bind t addr = (verdict, v) → written v = written t
  accept : ∀ {t verdict v}, io.accept t = (verdict, v) → written v = written t
  wrote : ∀ {t bytes v}, io.writeAll t bytes = (.ok (), v) → written v = written t ++ bytes
  broke : ∀ {t bytes h v}, io.writeAll t bytes = (.error h, v) →
    ∃ part, part <+: bytes ∧ written v = written t ++ part
  read : ∀ {t room verdict v}, io.read t room = (verdict, v) → written v = written t

/-- Since `start` exactly these datagrams were sent, all to the target. -/
def SentTo (datagrams : U → List (SocketAddr × List UInt8)) (target : Option SocketAddr)
    (start : U) (bufs : List (List UInt8)) (part : List UInt8) (u : U) : Prop :=
  part = [] ∧ ∃ news, datagrams u = datagrams start ++ news ∧ news.map Prod.snd = bufs ∧
    ∀ d ∈ news, target = some d.1

/-- Since `start` exactly these buffers were written, and the part. -/
def SentOn (written : T → List UInt8) (start : T) (bufs : List (List UInt8))
    (part : List UInt8) (t : T) : Prop :=
  written t = written start ++ bufs.flatten ++ part

section Udp

variable {io : UdpSocket U} {datagrams : U → List (SocketAddr × List UInt8)}
  {target : Option SocketAddr} {u v : U} {bytes : List UInt8}

theorem udpPort_accountable (law : io.Whole datagrams) (target : Option SocketAddr) (start : U) :
    (udpPort io target).Accountable (SentTo datagrams target start) where
  delivered := by
    intro u bytes n v bufs answer ⟨_, news, log, contents, addressed⟩
    obtain ⟨addr, there, answer⟩ := deliverUdp_ok_iff.mp answer
    obtain ⟨counted, logged⟩ := law.sent answer
    refine ⟨counted, rfl, news ++ [(addr, bytes)], ?_, ?_, ?_⟩
    · rw [logged, log, List.append_assoc]
    · rw [List.map_append, contents]
      rfl
    · intro d member
      rcases List.mem_append.mp member with old | new
      · exact addressed d old
      · rw [List.mem_singleton.mp new]
        exact there
  failed := by
    intro u bytes h v bufs answer ⟨_, news, log, rest⟩
    refine ⟨[], List.nil_prefix, rfl, news, ?_, rest⟩
    rcases deliverUdp_error_iff.mp answer with ⟨_, _, same⟩ | ⟨addr, h', _, answer, _⟩
    · rw [same, log]
    · rw [law.refused answer, log]
  expected := by
    intro u bytes verdict v bufs answer ⟨whole, news, log, rest⟩
    have here : (io.recvFrom u recvBufLen).2 = v := by
      rw [← attempt_state .io, ← matched_state bytes]
      exact congrArg Prod.snd answer
    exact ⟨whole, news, by rw [← here, law.received rfl, log], rest⟩

/-- Binding sends nothing. -/
theorem sentTo_start (law : io.Whole datagrams) (bind : SocketAddr) (target : Option SocketAddr)
    (u : U) : SentTo datagrams target u [] [] (attempt .bind (io.bind u bind)).2 := by
  refine ⟨rfl, [], ?_, rfl, fun _ member => absurd member List.not_mem_nil⟩
  rw [attempt_state, law.bind rfl, List.append_nil]

/-- The turn of a send that is not dropped, without a target. -/
theorem act_untargeted (io : UdpSocket U) (run : Run U) {a : Scripted} (sends : a.sent ≠ none) :
    act (udpPort io none) run a = (.error (.failed .missingUdpTarget), run) := by
  have undelivered (bytes : List UInt8) : (udpPort io none).deliver run.sock bytes =
      (.error (.failed .missingUdpTarget), run.sock) := rfl
  generalize taken : act (udpPort io none) run a = outcome
  cases acted_of_act taken with
  | dropped _ unsent _ => exact absurd unsent sends
  | sent _ _ _ answer =>
      rw [undelivered] at answer
      cases answer
  | unsent _ _ answer =>
      rw [undelivered] at answer
      cases answer
      rfl
  | met encoded _ _ => exact absurd (Scripted.sent_of_encoded encoded) sends
  | unmet unsent _ _ => exact absurd unsent sends
  | slept encoded _ => exact absurd (Scripted.sent_of_encoded encoded) sends

/-- Nothing else asks for a target. -/
theorem act_missing {run after : Run U} {a : Scripted}
    (failed : act (udpPort io target) run a = (.error (.failed .missingUdpTarget), after)) :
    target = none ∧ a.sent ≠ none := by
  cases acted_of_act failed with
  | unsent handed _ answer =>
      rcases deliverUdp_error_iff.mp answer with ⟨absent, _, _⟩ | ⟨addr, h', _, _, same⟩
      · exact ⟨absent, by rw [handed]; exact Option.some_ne_none _⟩
      · exact absurd same.symm (Halt.map_ne (by intro e; nofun) h')
  | unmet _ _ answer =>
      rcases matched_error_iff.mp answer with silent | ⟨got, _, _, same⟩
      · obtain ⟨h', _, same⟩ := attempt_error_iff.mp silent
        exact absurd same.symm (Halt.map_ne (by intro e; nofun) h')
      · cases same

theorem missing_iff (io : UdpSocket U) (bind : SocketAddr) (script : List Scripted)
    (target : Option SocketAddr) (u : U) :
    (runUdp io bind script target u).1 = .error (.failed .missingUdpTarget) ↔
      target = none ∧
        ∃ a, Reached (fun script => runUdp io bind script target u) script a ∧ a.sent ≠ none := by
  constructor
  · intro missing
    rcases ended : runUdp io bind script target u with ⟨verdict, after⟩
    rw [ended] at missing
    obtain rfl : verdict = _ := missing
    cases runOn_error_iff.mp ended with
    | unopened absent =>
        obtain ⟨h', _, same⟩ := attempt_error_iff.mp absent
        exact absurd same.symm (Halt.map_ne (by intro e; nofun) h')
    | @action pre a post s mid _ _ there before failed =>
        obtain ⟨absent, sends⟩ := act_missing failed
        have reached := runOn_ok_iff.mpr ⟨s, there, before, rfl⟩
        exact ⟨absent, a, ⟨pre, post, mid.report, mid, rfl, reached⟩, sends⟩
  · intro ⟨absent, a, ⟨pre, post, report, mid, cut, before⟩, sends⟩
    obtain ⟨s, there, before, _⟩ := runOn_ok_iff.mp before
    subst absent cut
    have stopped : runUdp io bind (pre ++ a :: post) none u =
        (.error (.failed .missingUdpTarget), mid) :=
      runOn_error_iff.mpr (.action there before (act_untargeted io mid sends))
    rw [stopped]

end Udp

section Tcp

variable {io : TcpPeer T} {written : T → List UInt8}

/-- However many reads it takes, `read_exact` writes nothing. -/
theorem readExact_written (law : io.Whole written) (t : T) (missing : Nat) :
    written (io.readExact t missing).2 = written t := by
  fun_induction TcpPeer.readExact io t missing with
  | case1 t => rfl
  | case2 t missing more h u answer => exact law.read answer
  | case3 t missing more u answer => exact law.read answer
  | case4 t missing more byte chunk u answer h v rest ih =>
      rw [rest] at ih
      exact ih.trans (law.read answer)
  | case5 t missing more byte chunk u answer got v rest ih =>
      rw [rest] at ih
      exact ih.trans (law.read answer)

/-- Neither binding nor accepting writes. -/
theorem sentOn_start (law : io.Whole written) (bind : SocketAddr) (t : T) :
    SentOn written t [] [] (listen io bind t).2 := by
  have bound : written (attempt .bind (io.bind t bind)).2 = written t := by
    rw [attempt_state]
    exact law.bind rfl
  show written _ = written t ++ [] ++ []
  rw [List.append_nil, List.append_nil, listen]
  rcases answer : attempt .bind (io.bind t bind) with ⟨verdict, u⟩
  rw [answer] at bound
  cases verdict with
  | error h => exact bound
  | ok =>
      show written (attempt .io (io.accept u)).2 = _
      rw [attempt_state, law.accept rfl, bound]

theorem tcpPort_accountable (law : io.Whole written) (start : T) :
    (tcpPort io).Accountable (SentOn written start) where
  delivered := by
    intro t bytes n v bufs answer sent
    obtain ⟨counted, answer⟩ := deliverTcp_ok_iff.mp answer
    refine ⟨counted, ?_⟩
    show written v = _
    rw [law.wrote answer, sent]
    simp
  failed := by
    intro t bytes h v bufs answer sent
    obtain ⟨h', answer, _⟩ := deliverTcp_error_iff.mp answer
    obtain ⟨part, first, broke⟩ := law.broke answer
    refine ⟨part, first, ?_⟩
    show written v = _
    rw [broke, sent, List.append_nil]
  expected := by
    intro t bytes verdict v bufs answer sent
    have here : (io.readExact t bytes.length).2 = v := by
      rw [← attempt_state fun _ => .tcpExpectShort, ← matched_state bytes]
      exact congrArg Prod.snd answer
    show written v = _
    rw [← here, readExact_written law, sent]

/-- No call of `run_tcp` needs a target. -/
theorem act_tcp_ne_missing {run after : Run T} {a : Scripted} {h : Halt MockPeerError}
    (failed : act (tcpPort io) run a = (.error h, after)) : h ≠ .failed .missingUdpTarget := by
  cases acted_of_act failed with
  | unsent _ _ answer =>
      obtain ⟨h', _, rfl⟩ := deliverTcp_error_iff.mp answer
      exact Halt.map_ne (by intro e; nofun) h'
  | unmet _ _ answer =>
      rcases matched_error_iff.mp answer with short | ⟨got, _, _, rfl⟩
      · obtain ⟨h', _, rfl⟩ := attempt_error_iff.mp short
        exact Halt.map_ne (by intro e; nofun) h'
      · exact nofun

theorem runTcp_ne_missing (io : TcpPeer T) (bind : SocketAddr) (script : List Scripted) (t : T) :
    (runTcp io bind script t).1 ≠ .error (.failed .missingUdpTarget) := by
  intro missing
  rcases ended : runTcp io bind script t with ⟨verdict, after⟩
  rw [ended] at missing
  obtain rfl : verdict = _ := missing
  cases runOn_error_iff.mp ended with
  | action _ _ failed => exact act_tcp_ne_missing failed rfl
  | unopened absent =>
      rw [listen] at absent
      split at absent
      case h_1 answer =>
          cases absent
          obtain ⟨h', _, same⟩ := attempt_error_iff.mp answer
          exact absurd same.symm (Halt.map_ne (by intro e; nofun) h')
      case h_2 =>
          obtain ⟨h', _, same⟩ := attempt_error_iff.mp absent
          exact absurd same.symm (Halt.map_ne (by intro e; nofun) h')

end Tcp

/-- **The report.** On either transport, for every script and all draws: a run that ends
`Ok` completed the whole script and sent exactly the buffers of the sends not dropped,
with the report adding up; a run that stops at an action sent exactly those of the actions
before it in full. `run_udp` misses its target if and only if there is none and it gets to
a send that is not dropped; `run_tcp` never does. -/
theorem report_conserves_script {udp : UdpSocket U}
    {datagrams : U → List (SocketAddr × List UInt8)} (whole : udp.Whole datagrams)
    {tcp : TcpPeer T} {written : T → List UInt8} (unbroken : tcp.Whole written)
    (bind : SocketAddr) (script : List Scripted) :
    (∀ target u,
      Conserves (fun script => runUdp udp bind script target u) (SentTo datagrams target u) script ∧
      ((runUdp udp bind script target u).1 = .error (.failed .missingUdpTarget) ↔
        target = none ∧ ∃ a,
          Reached (fun script => runUdp udp bind script target u) script a ∧ a.sent ≠ none)) ∧
    ∀ t, Conserves (fun script => runTcp tcp bind script t) (SentOn written t) script ∧
      (runTcp tcp bind script t).1 ≠ .error (.failed .missingUdpTarget) := by
  refine ⟨?_, ?_⟩
  · intro target u
    have start := sentTo_start whole bind target u
    have conserved := runOn_conserves (udpPort_accountable whole target u) start script
    exact ⟨conserved, missing_iff udp bind script target u⟩
  · intro t
    have start := sentOn_start unbroken bind t
    have conserved := runOn_conserves (tcpPort_accountable unbroken t) start script
    exact ⟨conserved, runTcp_ne_missing tcp bind script t⟩

/-! ## Two peers in memory -/

/-- A UDP socket: the datagrams that are there for it, and those it sent. -/
structure Mailbox where
  inbox : List { datagram : List UInt8 // datagram.length ≤ 65535 }
  datagrams : List (SocketAddr × List UInt8)

/-- No datagram above the largest payload of IPv4, and a wait without end on an empty inbox. -/
def mailbox : UdpSocket Mailbox where
  bind m _ := (.ok (), m)
  sendTo m bytes addr :=
    if bytes.length ≤ 65507 then
      (.ok bytes.length, { m with datagrams := m.datagrams ++ [(addr, bytes)] })
    else (.error (.failed ⟨.other, "Message too long"⟩), m)
  recvFrom m room :=
    match m.inbox with
    | [] => (.error .waiting, m)
    | datagram :: rest => (.ok (datagram.1.take room), { m with inbox := rest })

/-- A TCP stream: the bytes the client has sent, and those written to it. -/
structure Pipe where
  left : List UInt8
  written : List UInt8

/-- A read gives two bytes at most, and none once the client's are used up. -/
def pipe : TcpPeer Pipe where
  bind p _ := (.ok (), p)
  accept p := (.ok (), p)
  writeAll p bytes := (.ok (), { p with written := p.written ++ bytes })
  read p room := (.ok (p.left.take (min room 2)), { p with left := p.left.drop (min room 2) })

theorem mailbox_whole : mailbox.Whole Mailbox.datagrams where
  bind := by
    intro u addr verdict v answer
    cases answer
    rfl
  sent := by
    intro u bytes addr n v answer
    simp only [mailbox] at answer
    split at answer <;> cases answer
    exact ⟨rfl, rfl⟩
  refused := by
    intro u bytes addr h v answer
    simp only [mailbox] at answer
    split at answer <;> cases answer
    rfl
  received := by
    intro u room verdict v answer
    simp only [mailbox] at answer
    split at answer <;> cases answer <;> rfl

theorem pipe_whole : pipe.Whole Pipe.written where
  bind := by
    intro t addr verdict v answer
    cases answer
    rfl
  accept := by
    intro t verdict v answer
    cases answer
    rfl
  wrote := by
    intro t bytes v answer
    cases answer
    rfl
  broke := by
    intro t bytes h v answer
    cases answer
  read := by
    intro t room verdict v answer
    cases answer
    rfl

/-- A heartbeat sent, a packet dropped, a heartbeat sent. -/
def threeSends : List Scripted :=
  [⟨.sendMoldHeartbeat, false⟩, ⟨.sendSoupPacket 83 [1, 2], true⟩, ⟨.sendMoldHeartbeat, false⟩]

def localhost : SocketAddr := .v4 0x7f000001 0

/-- Where `run_udp` ends with them. -/
def threeSent : Run Mailbox :=
  ⟨⟨[], [(localhost, encodeMoldHeartbeat), (localhost, encodeMoldHeartbeat)]⟩, ⟨3, 40, 5⟩⟩

theorem report_conserves_script_three :
    threeSent.report.Accounts threeSends ∧
      SentTo Mailbox.datagrams (some localhost) ⟨[], []⟩ (sentBy threeSends) [] threeSent.sock ∧
      (runUdp mailbox localhost threeSends none ⟨[], []⟩).1 =
        .error (.failed .missingUdpTarget) := by
  have conserved := (report_conserves_script mailbox_whole pipe_whole localhost threeSends).1
  have ended : runUdp mailbox localhost threeSends (some localhost) ⟨[], []⟩ =
      (.ok ⟨3, 40, 5⟩, threeSent) := rfl
  have ok := (conserved (some localhost) ⟨[], []⟩).1.ok _ _ ended
  have reached : Reached (fun script => runUdp mailbox localhost script none ⟨[], []⟩) threeSends
      ⟨.sendMoldHeartbeat, false⟩ :=
    ⟨[], _, .default, ⟨⟨[], []⟩, .default⟩, rfl, rfl⟩
  have missing := (conserved none ⟨[], []⟩).2.mpr ⟨rfl, _, reached, Option.some_ne_none _⟩
  exact ⟨ok.1, ok.2, missing⟩

end Transports.Testing
