import Transports.Tcp.Stream
import Transports.Testing.Conservation
import Transports.Testing.Expectations

/-!
# A dialogue

`run_tcp` and its client at the same time. The peer takes its script one system call at a
time: each `write` of `write_all` and each `read` of `read_exact` moves as many bytes as the
kernel sees fit, and the client's own writes, its hanging up and its calls of `recv_into`
fall between any two of them. At most `window` bytes wait for the client.

`Kept` is what every step keeps. It says how far each direction has come in terms of the
actions completed and of the place in the one in progress.
-/

namespace Transports.Testing

open Lib Transports.Core
open Transports.Udp (Backend)

/-- Where `run_tcp` stands in the first action left of its script. -/
inductive PeerPc
  /-- at the head of the loop -/
  | ready
  /-- in `write_all`, with this many bytes written -/
  | writing (bytes : List UInt8) (count : Nat)
  /-- in `read_exact`, with these bytes read -/
  | reading (expected got : List UInt8)
  | returned (verdict : Except MockPeerError MockRunReport)
  deriving DecidableEq

structure Dialogue where
  todo : List Scripted
  pc : PeerPc
  report : MockRunReport
  -- the client's stream: all it has accepted, and how much of it the peer has read
  up : List UInt8
  heard : Nat
  hungUp : Bool
  -- the peer's stream, with the client's calls on it
  down : Tcp.Conn
  -- history: the actions completed, and the error that ended the connection
  done : List Scripted
  fault : Option IoError

inductive DialogueEvent
  /-- the peer's next step, which moves this many bytes if it is a `read` or a `write` -/
  | peer (moved : Nat)
  /-- its `read` or `write` fails -/
  | fails (e : IoError)
  | put (data : List UInt8)
  | hangUp
  | recvInto (fault : Option Tcp.StreamFault) (dst : Tcp.Buffer)

namespace Dialogue

/-- A client just accepted. -/
def start (script : List Scripted) : Dialogue where
  todo := script
  pc := .ready
  report := .default
  up := []
  heard := 0
  hungUp := false
  down := .start
  done := []
  fault := none

/-- `report.actions_completed += 1`, with what is added to the other counters. -/
def completed (s : Dialogue) (sent dropped : Nat) : Dialogue :=
  { s with
    todo := s.todo.tail
    pc := .ready
    report := ⟨s.report.actionsCompleted + 1, s.report.bytesSent + sent,
      s.report.bytesDroppedSynthetic + dropped⟩
    done := s.done ++ s.todo.head?.toList }

/-- `run_tcp` returns, and its end of the stream closes. -/
def leave (s : Dialogue) (verdict : Except MockPeerError MockRunReport) : Dialogue :=
  { s with
    pc := .returned verdict
    down := { s.down with sock := { s.down.sock with closed := true } } }

/-- `send_tcp` up to its `write_all`. -/
def begin (s : Dialogue) (bytes : List UInt8) (dropped : Bool) : Dialogue :=
  if dropped then s.completed 0 bytes.length else { s with pc := .writing bytes 0 }

/-- The next step of `run_tcp`. -/
def peer (b : Backend) (window : Nat) (s : Dialogue) (moved : Nat) : Option Dialogue :=
  match s.pc with
  | .ready =>
    match s.todo with
    | [] => some (s.leave (.ok s.report))
    | a :: _ =>
      match a.action with
      | .sendMoldPacket seq payload => some (s.begin (encodeMoldData seq payload) a.dropped)
      | .sendMoldHeartbeat => some (s.begin encodeMoldHeartbeat a.dropped)
      | .sendSoupPacket ty payload => some (s.begin (encodeSoup ty payload) a.dropped)
      | .expectClientBytes expected => some { s with pc := .reading expected [] }
      | .sleep _ => some (s.completed 0 0)
  | .writing bytes count =>
    if count < bytes.length then
      -- one `write`, which waits while the window is full
      if 0 < moved ∧ count + moved ≤ bytes.length ∧ s.down.sock.queued.length + moved ≤ window then
        (s.down.step b (.write ((bytes.drop count).take moved))).map fun down =>
          { s with pc := .writing bytes (count + moved), down }
      else none
    else some (s.completed bytes.length 0)
  | .reading expected got =>
    if got.length < expected.length then
      if s.heard < s.up.length then
        -- one `read`
        if 0 < moved ∧ got.length + moved ≤ expected.length ∧ s.heard + moved ≤ s.up.length then
          some { s with
            pc := .reading expected (got ++ (s.up.drop s.heard).take moved)
            heard := s.heard + moved }
        else none
      else if s.hungUp then some (s.leave (.error .tcpExpectShort))
      else none
    else if got ≠ expected then some (s.leave (.error (.expectMismatch expected got)))
    else some (s.completed 0 0)
  | .returned _ => none

def step (b : Backend) (window : Nat) (s : Dialogue) : DialogueEvent → Option Dialogue
  | .peer moved => s.peer b window moved
  | .fails e =>
    match s.pc with
    | .writing bytes count =>
      if count < bytes.length then some { s.leave (.error (.io e)) with fault := some e } else none
    | .reading expected got =>
      -- any error of `read_exact` is mapped to this one
      if got.length < expected.length then
        some { s.leave (.error .tcpExpectShort) with fault := some e }
      else none
    | .ready | .returned _ => none
  | .put data => if s.hungUp then none else some { s with up := s.up ++ data }
  | .hangUp => some { s with hungUp := true }
  | .recvInto fault dst =>
    (s.down.step b (.recvInto fault dst)).map fun down => { s with down }

end Dialogue

/-- All dialogues of a script with a client of backend `b`. -/
def dialogue (b : Backend) (window : Nat) (script : List Scripted) :
    System Dialogue DialogueEvent where
  init s := s = Dialogue.start script
  step := Dialogue.step b window

/-! ## What a step can do -/

inductive Spoke (b : Backend) (window : Nat) (s : Dialogue) : DialogueEvent → Dialogue → Prop
  | returns {moved} (pc : s.pc = .ready) (finished : s.todo = []) :
      Spoke b window s (.peer moved) (s.leave (.ok s.report))
  | drops {moved a rest bytes} (pc : s.pc = .ready) (head : s.todo = a :: rest)
      (encoded : a.action.encoded = some bytes) (unsent : a.sent = none)
      (silent : a.expected = none) : Spoke b window s (.peer moved) (s.completed 0 bytes.length)
  | begins {moved a rest bytes} (pc : s.pc = .ready) (head : s.todo = a :: rest)
      (encoded : a.action.encoded = some bytes) (sends : a.sent = some bytes)
      (silent : a.expected = none) :
      Spoke b window s (.peer moved) { s with pc := .writing bytes 0 }
  | sleeps {moved a rest} (pc : s.pc = .ready) (head : s.todo = a :: rest)
      (idle : a.action.encoded = none) (silent : a.expected = none) :
      Spoke b window s (.peer moved) (s.completed 0 0)
  | waits {moved a rest expected} (pc : s.pc = .ready) (head : s.todo = a :: rest)
      (idle : a.action.encoded = none) (waits : a.expected = some expected) :
      Spoke b window s (.peer moved) { s with pc := .reading expected [] }
  | writes {moved bytes count down} (pc : s.pc = .writing bytes count) (some : 0 < moved)
      (fits : count + moved ≤ bytes.length)
      (wrote : (Tcp.stream b).step s.down (.write ((bytes.drop count).take moved)) = .some down) :
      Spoke b window s (.peer moved) { s with pc := .writing bytes (count + moved), down }
  | sent {moved bytes count} (pc : s.pc = .writing bytes count) (all : bytes.length ≤ count) :
      Spoke b window s (.peer moved) (s.completed bytes.length 0)
  | reads {moved expected got} (pc : s.pc = .reading expected got) (some : 0 < moved)
      (fits : got.length + moved ≤ expected.length) (there : s.heard + moved ≤ s.up.length) :
      Spoke b window s (.peer moved)
        { s with
          pc := .reading expected (got ++ (s.up.drop s.heard).take moved)
          heard := s.heard + moved }
  | met {moved expected} (pc : s.pc = .reading expected expected) :
      Spoke b window s (.peer moved) (s.completed 0 0)
  | differs {moved expected got} (pc : s.pc = .reading expected got)
      (whole : expected.length ≤ got.length) (differs : got ≠ expected) :
      Spoke b window s (.peer moved) (s.leave (.error (.expectMismatch expected got)))
  | eof {moved expected got} (pc : s.pc = .reading expected got)
      (few : got.length < expected.length) (last : s.up.length ≤ s.heard)
      (gone : s.hungUp = true) :
      Spoke b window s (.peer moved) (s.leave (.error .tcpExpectShort))
  | breaks {e bytes count} (pc : s.pc = .writing bytes count) (more : count < bytes.length) :
      Spoke b window s (.fails e) { s.leave (.error (.io e)) with fault := some e }
  | loses {e expected got} (pc : s.pc = .reading expected got)
      (few : got.length < expected.length) :
      Spoke b window s (.fails e) { s.leave (.error .tcpExpectShort) with fault := some e }
  | put {data} (on : s.hungUp = false) : Spoke b window s (.put data) { s with up := s.up ++ data }
  | hangUp : Spoke b window s .hangUp { s with hungUp := true }
  | landing {fault dst down}
      (landed : (Tcp.stream b).step s.down (.recvInto fault dst) = some down) :
      Spoke b window s (.recvInto fault dst) { s with down }

section Steps

variable {b : Backend} {window : Nat} {script : List Scripted} {s t : Dialogue}
  {e : DialogueEvent}

theorem spoke_begin {moved : Nat} {a : Scripted} {rest : List Scripted} {bytes : List UInt8}
    (pc : s.pc = .ready) (head : s.todo = a :: rest) (encoded : a.action.encoded = some bytes)
    (silent : a.expected = none) :
    Spoke b window s (.peer moved) (s.begin bytes a.dropped) := by
  have sent : a.sent = if a.dropped then none else some bytes := by rw [Scripted.sent, encoded]
  unfold Dialogue.begin
  cases draw : a.dropped with
  | true =>
      rw [draw] at sent
      exact .drops pc head encoded sent silent
  | false =>
      rw [draw] at sent
      exact .begins pc head encoded sent silent

theorem spoke_peer {moved : Nat} (h : s.peer b window moved = some t) :
    Spoke b window s (.peer moved) t := by
  unfold Dialogue.peer at h
  split at h
  · next pc =>
      split at h
      · next finished =>
          cases h
          exact .returns pc finished
      · next a rest head =>
          obtain ⟨action, dropped⟩ := a
          cases action with
          | sendMoldPacket | sendMoldHeartbeat | sendSoupPacket =>
              cases h
              exact spoke_begin pc head rfl rfl
          | expectClientBytes expected =>
              cases h
              exact .waits pc head rfl rfl
          | sleep =>
              cases h
              exact .sleeps pc head rfl rfl
  · next bytes count pc =>
      split at h
      · split at h
        · next room =>
            obtain ⟨down, wrote, rfl⟩ := Option.map_eq_some_iff.mp h
            exact .writes pc room.1 room.2.1 wrote
        · cases h
      · next all =>
          cases h
          exact .sent pc (Nat.le_of_not_lt all)
  · next expected got pc =>
      split at h
      · next few =>
          split at h
          · split at h
            · next there =>
                cases h
                exact .reads pc there.1 there.2.1 there.2.2
            · cases h
          · next last =>
              split at h
              · next gone =>
                  cases h
                  exact .eof pc few (Nat.le_of_not_lt last) gone
              · cases h
      · next whole =>
          split at h
          · next differs =>
              cases h
              exact .differs pc (Nat.le_of_not_lt whole) differs
          · next same =>
              cases h
              rw [ne_eq, not_not] at same
              subst same
              exact .met pc
  · cases h

theorem spoke_of_step (h : s.step b window e = some t) : Spoke b window s e t := by
  cases e with
  | peer moved => exact spoke_peer h
  | fails e =>
      simp only [Dialogue.step] at h
      split at h
      · next bytes count pc =>
          obtain ⟨more, same⟩ := Option.ite_none_right_eq_some.mp h
          cases same
          exact .breaks pc more
      · next expected got pc =>
          obtain ⟨few, same⟩ := Option.ite_none_right_eq_some.mp h
          cases same
          exact .loses pc few
      · cases h
      · cases h
  | put data =>
      obtain ⟨on, same⟩ := Option.ite_none_left_eq_some.mp h
      cases same
      exact .put (by simpa using on)
  | hangUp =>
      cases h
      exact .hangUp
  | recvInto fault dst =>
      simp only [Dialogue.step] at h
      obtain ⟨down, landed, rfl⟩ := Option.map_eq_some_iff.mp h
      exact .landing landed

end Steps

/-! ## What every step keeps -/

/-- The peer has read what the completed actions wait for and then `got`, and written what
they send and then `part`. -/
structure Level (s : Dialogue) (got part : List UInt8) : Prop where
  heard : s.up.take s.heard = (expectedBy s.done).flatten ++ got
  written : s.down.written = (sentBy s.done).flatten ++ part

/-- What the place in the script says of the two streams. -/
inductive At (s : Dialogue) : PeerPc → Prop
  | ready (level : Level s [] []) : At s .ready
  | writing {a rest bytes count} (head : s.todo = a :: rest)
      (encoded : a.action.encoded = some bytes) (sends : a.sent = some bytes)
      (silent : a.expected = none) (within : count ≤ bytes.length)
      (level : Level s [] (bytes.take count)) : At s (.writing bytes count)
  | reading {a rest expected got} (head : s.todo = a :: rest) (idle : a.action.encoded = none)
      (waits : a.expected = some expected) (within : got.length ≤ expected.length)
      (level : Level s got []) : At s (.reading expected got)
  | finished (all : s.todo = []) (level : Level s [] []) : At s (.returned (.ok s.report))
  | differs {a rest expected got} (head : s.todo = a :: rest) (waits : a.expected = some expected)
      (whole : got.length = expected.length) (differs : got ≠ expected)
      (level : Level s got []) : At s (.returned (.error (.expectMismatch expected got)))
  /-- the client has hung up, and the peer read all it put -/
  | short {a rest expected got} (head : s.todo = a :: rest) (waits : a.expected = some expected)
      (few : got.length < expected.length) (level : Level s got []) (gone : s.hungUp = true)
      (last : s.heard = s.up.length) : At s (.returned (.error .tcpExpectShort))
  | failed {e fault a rest got part} (broken : s.fault = some fault) (head : s.todo = a :: rest)
      (early : part <+: (sentBy [a]).flatten) (level : Level s got part) :
      At s (.returned (.error e))

structure Kept (b : Backend) (script : List Scripted) (s : Dialogue) : Prop where
  split : script = s.done ++ s.todo
  accounts : s.report.Accounts s.done
  within : s.heard ≤ s.up.length
  down : (Tcp.stream b).Reachable s.down
  opened : (∀ verdict, s.pc ≠ .returned verdict) → s.down.sock.closed = false
  place : At s s.pc

section Kept

variable {b : Backend} {window : Nat} {script rest : List Scripted} {s t : Dialogue}
  {e : DialogueEvent} {a : Scripted} {got part : List UInt8}

/-- Completing the action in progress. -/
theorem Kept.completed (kept : Kept b script s) (head : s.todo = a :: rest)
    (running : ∀ verdict, s.pc ≠ .returned verdict) (level : Level s got part)
    (waited : a.expected.toList.flatten = got) (wrote : a.sent.toList.flatten = part)
    {sent dropped : Nat} (out : totalBytes a.sent.toList = sent)
    (offered : totalBytes a.action.encoded.toList = sent + dropped) :
    Kept b script (s.completed sent dropped) := by
  have done : (s.completed sent dropped).done = s.done ++ [a] := by
    rw [Dialogue.completed, head]
    rfl
  have todo : (s.completed sent dropped).todo = rest := by
    rw [Dialogue.completed, head]
    rfl
  refine ⟨?_, ?_, kept.within, kept.down, fun _ => kept.opened running, .ready ⟨?_, ?_⟩⟩
  · rw [done, todo, List.append_assoc, List.singleton_append, ← head]
    exact kept.split
  · have before : (⟨(), s.report⟩ : Run Unit).report.Accounts s.done := kept.accounts
    have next : ((⟨(), s.report⟩ : Run Unit).after () sent dropped).report.Accounts
        (s.done ++ [a]) := accounts_snoc before out offered
    rw [done]
    exact next
  · rw [done, expectedBy_snoc, List.flatten_append, waited, List.append_nil]
    exact level.heard
  · rw [done, sentBy_snoc, List.flatten_append, wrote, List.append_nil]
    exact level.written

/-- Completing an action that sends nothing. -/
theorem Kept.idled (kept : Kept b script s) (head : s.todo = a :: rest)
    (running : ∀ verdict, s.pc ≠ .returned verdict) (level : Level s got [])
    (idle : a.action.encoded = none) (waited : a.expected.toList.flatten = got) :
    Kept b script (s.completed 0 0) := by
  have unsent := Scripted.sent_of_encoded idle
  refine kept.completed head running level waited ?_ ?_ ?_
  · rw [unsent]
    rfl
  · rw [unsent]
    rfl
  · rw [idle]
    rfl

/-- Returning, with or without an error of the connection. -/
theorem Kept.leave (kept : Kept b script s) {verdict : Except MockPeerError MockRunReport}
    {fault : Option IoError} (place : At { s.leave verdict with fault } (.returned verdict)) :
    Kept b script { s.leave verdict with fault } := by
  refine ⟨kept.split, kept.accounts, kept.within, ?_, ?_, place⟩
  · have closes : (Tcp.stream b).step s.down .close = some (s.leave verdict).down := rfl
    exact kept.down.step closes
  · intro running
    exact absurd rfl (running verdict)

theorem kept_start (b : Backend) (script : List Scripted) : Kept b script (.start script) :=
  ⟨rfl, ⟨rfl, rfl, rfl⟩, Nat.le_refl 0, .init rfl, fun _ => rfl, .ready ⟨rfl, rfl⟩⟩

/-- The peer stays where it is. -/
theorem At.keep {pc : PeerPc} (place : At s pc) (todo : t.todo = s.todo)
    (report : t.report = s.report) (fault : t.fault = s.fault)
    (level : ∀ {got part}, Level s got part → Level t got part)
    (gone : s.hungUp = true → t.hungUp = true)
    (last : s.hungUp = true → s.heard = s.up.length → t.heard = t.up.length) : At t pc := by
  cases place with
  | ready before => exact .ready (level before)
  | writing head encoded sends silent count before =>
      exact .writing (todo.trans head) encoded sends silent count (level before)
  | reading head idle waits count before =>
      exact .reading (todo.trans head) idle waits count (level before)
  | finished all before =>
      rw [← report]
      exact .finished (todo.trans all) (level before)
  | differs head waits whole differs before =>
      exact .differs (todo.trans head) waits whole differs (level before)
  | short head waits few before off all =>
      exact .short (todo.trans head) waits few (level before) (gone off) (last off all)
  | failed broken head early before =>
      exact .failed (fault.trans broken) (todo.trans head) early (level before)

theorem kept_put (kept : Kept b script s) {data : List UInt8} (on : s.hungUp = false) :
    Kept b script { s with up := s.up ++ data } := by
  have within : s.heard ≤ (s.up ++ data).length := by
    rw [List.length_append]
    exact Nat.le_add_right_of_le kept.within
  refine ⟨kept.split, kept.accounts, within, kept.down, kept.opened, ?_⟩
  refine kept.place.keep rfl rfl rfl ?_ id ?_
  · intro got part level
    exact ⟨(List.take_append_of_le_length kept.within).trans level.heard, level.written⟩
  · intro gone
    rw [on] at gone
    cases gone

theorem kept_landing (kept : Kept b script s) {fault : Option Tcp.StreamFault} {dst : Tcp.Buffer}
    {down : Tcp.Conn} (landed : (Tcp.stream b).step s.down (.recvInto fault dst) = some down) :
    Kept b script { s with down } := by
  have untouched : down.written = s.down.written ∧ down.sock.closed = s.down.sock.closed := by
    have step : Tcp.Step s.down (.recvInto fault dst) down := Tcp.step_of_step landed
    cases step with
    | recvInto landing => cases landing <;> exact ⟨rfl, rfl⟩
  obtain ⟨written, closed⟩ := untouched
  refine ⟨kept.split, kept.accounts, kept.within, kept.down.step landed, ?_, ?_⟩
  · intro running
    exact closed.trans (kept.opened running)
  · refine kept.place.keep rfl rfl rfl ?_ id fun _ => id
    intro got part level
    exact ⟨level.heard, written.trans level.written⟩

/-- One `write` more. -/
theorem kept_writes (kept : Kept b script s) {bytes : List UInt8} {count moved : Nat}
    {down : Tcp.Conn} (pc : s.pc = .writing bytes count) (fits : count + moved ≤ bytes.length)
    (wrote : (Tcp.stream b).step s.down (.write ((bytes.drop count).take moved)) = some down) :
    Kept b script { s with pc := .writing bytes (count + moved), down } := by
  have place := kept.place
  rw [pc] at place
  cases place with
  | writing head encoded sends silent within level =>
      have next : down.written = s.down.written ++ (bytes.drop count).take moved ∧
          down.sock.closed = s.down.sock.closed := by
        have step : Tcp.Step s.down (.write ((bytes.drop count).take moved)) down :=
          Tcp.step_of_step (b := b) wrote
        cases step with
        | write => exact ⟨rfl, rfl⟩
      obtain ⟨written, closed⟩ := next
      refine ⟨kept.split, kept.accounts, kept.within, kept.down.step wrote, ?_, ?_⟩
      · intro _
        refine closed.trans (kept.opened ?_)
        rw [pc]
        exact fun _ => PeerPc.noConfusion
      · refine .writing head encoded sends silent fits ⟨level.heard, ?_⟩
        rw [written, level.written, List.append_assoc, ← List.take_add]

/-- One `read` more. -/
theorem kept_reads (kept : Kept b script s) {expected : List UInt8} {moved : Nat}
    (pc : s.pc = .reading expected got) (fits : got.length + moved ≤ expected.length)
    (there : s.heard + moved ≤ s.up.length) :
    Kept b script
      { s with
        pc := .reading expected (got ++ (s.up.drop s.heard).take moved)
        heard := s.heard + moved } := by
  have place := kept.place
  rw [pc] at place
  cases place with
  | reading head idle waits within level =>
      refine ⟨kept.split, kept.accounts, there, kept.down, ?_, .reading head idle waits ?_ ⟨?_, ?_⟩⟩
      · intro _
        refine kept.opened ?_
        rw [pc]
        exact fun _ => PeerPc.noConfusion
      · rw [List.length_append, List.length_take, List.length_drop]
        omega
      · show s.up.take (s.heard + moved) = _
        rw [List.take_add, level.heard, List.append_assoc]
      · exact level.written

theorem kept_step (kept : Kept b script s) (h : Spoke b window s e t) : Kept b script t := by
  have place := kept.place
  have running (pc : PeerPc) (here : s.pc = pc) (on : ∀ verdict, pc ≠ .returned verdict) :
      ∀ verdict, s.pc ≠ .returned verdict := here ▸ on
  cases h with
  | returns pc finished =>
      rw [pc] at place
      cases place with
      | ready level =>
          have ended : At { s.leave (.ok s.report) with fault := s.fault }
              (.returned (.ok s.report)) := .finished finished ⟨level.heard, level.written⟩
          exact kept.leave ended
  | drops pc head encoded unsent silent =>
      rw [pc] at place
      cases place with
      | ready level =>
          refine kept.completed head (running _ pc fun _ => PeerPc.noConfusion) level ?_ ?_ ?_ ?_
          · rw [silent]
            rfl
          · rw [unsent]
            rfl
          · rw [unsent]
            rfl
          · rw [encoded, Nat.zero_add]
            rfl
  | begins pc head encoded sends silent =>
      rw [pc] at place
      cases place with
      | ready level =>
          exact ⟨kept.split, kept.accounts, kept.within, kept.down,
            fun _ => kept.opened (running _ pc fun _ => PeerPc.noConfusion),
            .writing head encoded sends silent (Nat.zero_le _) ⟨level.heard, level.written⟩⟩
  | sleeps pc head idle silent =>
      rw [pc] at place
      cases place with
      | ready level =>
          refine kept.idled head (running _ pc fun _ => PeerPc.noConfusion) level idle ?_
          rw [silent]
          rfl
  | waits pc head idle waits =>
      rw [pc] at place
      cases place with
      | ready level =>
          exact ⟨kept.split, kept.accounts, kept.within, kept.down,
            fun _ => kept.opened (running _ pc fun _ => PeerPc.noConfusion),
            .reading head idle waits (Nat.zero_le _) ⟨level.heard, level.written⟩⟩
  | writes pc _ fits wrote => exact kept_writes kept pc fits wrote
  | @sent _ bytes count pc all =>
      rw [pc] at place
      cases place with
      | writing head encoded sends silent within level =>
          refine kept.completed head (running _ pc fun _ => PeerPc.noConfusion) level ?_ ?_ ?_ ?_
          · rw [silent]
            rfl
          · rw [sends, List.take_of_length_le all]
            exact List.append_nil bytes
          · rw [sends]
            rfl
          · rw [encoded, Nat.add_zero]
            rfl
  | reads pc _ fits there => exact kept_reads kept pc fits there
  | @met _ expected pc =>
      rw [pc] at place
      cases place with
      | reading head idle waits within level =>
          refine kept.idled head (running _ pc fun _ => PeerPc.noConfusion) level idle ?_
          rw [waits]
          exact List.append_nil expected
  | @differs _ expected got pc whole differs =>
      rw [pc] at place
      cases place with
      | reading head idle waits within level =>
          have ended : At { s.leave (.error (.expectMismatch expected got)) with fault := s.fault }
              (.returned (.error (.expectMismatch expected got))) :=
            .differs head waits (Nat.le_antisymm within whole) differs ⟨level.heard, level.written⟩
          exact kept.leave ended
  | eof pc few last gone =>
      rw [pc] at place
      cases place with
      | reading head idle waits within level =>
          have ended : At { s.leave (.error .tcpExpectShort) with fault := s.fault }
              (.returned (.error .tcpExpectShort)) :=
            .short head waits few ⟨level.heard, level.written⟩ gone
              (Nat.le_antisymm kept.within last)
          exact kept.leave ended
  | @breaks e bytes count pc more =>
      rw [pc] at place
      cases place with
      | @writing a rest _ _ head encoded sends silent within level =>
          refine kept.leave (.failed rfl head ?_ ⟨level.heard, level.written⟩)
          rw [sentBy, List.filterMap_cons, sends]
          simpa using List.take_prefix count bytes
  | loses pc few =>
      rw [pc] at place
      cases place with
      | reading head idle waits within level =>
          exact kept.leave (.failed rfl head List.nil_prefix ⟨level.heard, level.written⟩)
  | put on => exact kept_put kept on
  | hangUp =>
      exact ⟨kept.split, kept.accounts, kept.within, kept.down, kept.opened,
        kept.place.keep rfl rfl rfl (fun level => ⟨level.heard, level.written⟩) (fun _ => rfl)
          fun _ => id⟩
  | landing landed => exact kept_landing kept landed

/-- What every dialogue keeps. -/
theorem dialogue_kept (b : Backend) (window : Nat) (script : List Scripted) :
    (dialogue b window script).Invariant (Kept b script) := by
  refine System.Invariant.of_step (System.Invariant.true _) ?_ ?_
  · rintro s rfl
    exact kept_start b script
  · intro s e t _ before taken
    exact kept_step before (spoke_of_step taken)

end Kept

end Transports.Testing
