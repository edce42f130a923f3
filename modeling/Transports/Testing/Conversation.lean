import Transports.Testing.Dialogue
import Transports.Testing.EndToEnd

/-!
# What a dialogue comes to

In whatever order the steps of the peer and of its client fall, the peer's run comes to what
`run_tcp` comes to on the client's whole stream, and the client lands what `run_tcp` writes.
The peer never gets stuck but for want of the client's bytes or of room for its own.
-/

namespace Transports.Testing

open Lib Transports.Core
open Transports.Udp (Backend)

variable {T : Type} {b : Backend} {window : Nat} {script : List Scripted} {s t : Dialogue}

/-! ## Both directions -/

theorem flatten_sentBy_cons (a : Scripted) (rest : List Scripted) :
    (sentBy [a]).flatten <+: (sentBy (a :: rest)).flatten := by
  have split : sentBy (a :: rest) = sentBy [a] ++ sentBy rest := sentBy_append [a] rest
  rw [split, List.flatten_append]
  exact List.prefix_append _ _

/-- What is written beyond the completed actions is of the next one. -/
theorem At.level {pc : PeerPc} (place : At s pc) :
    ∃ got part, Level s got part ∧ part <+: (sentBy s.todo).flatten := by
  cases place with
  | ready level | reading _ _ _ _ level | finished _ level | differs _ _ _ _ level
    | short _ _ _ level => exact ⟨_, _, level, List.nil_prefix⟩
  | @writing a rest bytes count head _ sends _ _ level =>
      refine ⟨_, _, level, ?_⟩
      rw [head]
      refine List.IsPrefix.trans ?_ (flatten_sentBy_cons a rest)
      rw [sentBy, List.filterMap_cons, sends]
      simpa using List.take_prefix count bytes
  | failed _ head early level =>
      refine ⟨_, _, level, ?_⟩
      rw [head]
      exact early.trans (flatten_sentBy_cons _ _)

theorem Kept.written_first (kept : Kept b script s) :
    s.down.written <+: (sentBy script).flatten := by
  obtain ⟨got, part, level, early⟩ := kept.place.level
  rw [level.written, kept.split, sentBy_append, List.flatten_append]
  exact (List.prefix_append_right_inj _).mpr early

theorem Kept.heard_first (kept : Kept b script s) : (expectedBy s.done).flatten <+: s.up := by
  obtain ⟨got, part, level, _⟩ := kept.place.level
  refine List.IsPrefix.trans ?_ (List.take_prefix s.heard s.up)
  rw [level.heard]
  exact List.prefix_append _ _

/-- **Both directions at once.** At every moment of every dialogue: the expectations met so
far are the first bytes the client put; what the client has landed and what is queued for it
are the first bytes the script sends; its stream is at the end only once the peer has
returned; and of the SoupBinTCP packets of a script that sends no others a reader has the
first ones in full and less than the next, all of them once the peer has returned `Ok` and
the queue is empty. -/
theorem dialogue_duplex (b : Backend) (window : Nat) (script : List Scripted) {s : Dialogue}
    (reach : (dialogue b window script).Reachable s) :
    (expectedBy s.done).flatten <+: s.up ∧ s.done <+: script ∧
      s.down.landed ++ s.down.sock.queued.map some = s.down.written.map some ∧
      s.down.written <+: (sentBy script).flatten ∧
      (s.down.sock.closed = true → ∃ verdict, s.pc = .returned verdict) ∧
      (OnlySoup script → (∀ p ∈ soupOf script, p.2.length ≤ 65534) →
        ∃ got missing, Reading (soupOf script) s.down got missing ∧
          ((∃ report, s.pc = .returned (.ok report)) → s.down.sock.queued = [] →
            got = soupOf script ∧ (readPieces s.down).2 = [])) := by
  have kept := dialogue_kept b window script s reach
  have first := kept.written_first
  refine ⟨kept.heard_first, ?_, (Tcp.stream_intact b _ kept.down).1, first, ?_, ?_⟩
  · rw [kept.split]
    exact List.prefix_append _ _
  · intro closed
    by_contra running
    rw [kept.opened fun verdict there => running ⟨verdict, there⟩] at closed
    cases closed
  · intro only fits
    obtain ⟨got, missing, reading, complete⟩ := reading_of_written only fits kept.down first
    refine ⟨got, missing, reading, ?_⟩
    rintro ⟨report, there⟩ empty
    refine complete ?_ empty
    have place := kept.place
    rw [there] at place
    cases place with
    | finished all level =>
        have whole : s.done = script := by rw [kept.split, all, List.append_nil]
        rw [level.written, List.append_nil, whole]

/-- A packet, and two bytes from the client. -/
def exchange : List Scripted := [⟨.sendSoupPacket 72 [], false⟩, ⟨.expectClientBytes [1, 2], false⟩]

/-- A byte at a time, with the client's part in between. -/
def exchangeEvents : List DialogueEvent :=
  [.peer 0, .peer 1, .peer 1, .put [1], .recvInto none [none, none], .peer 1, .peer 0, .peer 0,
    .peer 1, .put [2], .peer 1, .peer 0, .peer 0, .recvInto none [none]]

def exchanged : Dialogue := (dialogue .mio 2 exchange).replay (.start exchange) exchangeEvents

theorem exchanged_run :
    (dialogue .mio 2 exchange).runFrom (.start exchange) exchangeEvents = some exchanged := rfl

theorem exchanged_reachable : (dialogue .mio 2 exchange).Reachable exchanged :=
  .replay rfl exchangeEvents

theorem dialogue_duplex_exchange :
    typed (readPieces exchanged.down).1 = some [(72, [])] ∧ (readPieces exchanged.down).2 = [] := by
  have only : OnlySoup exchange := by
    unfold OnlySoup
    decide
  have fits : ∀ p ∈ soupOf exchange, p.2.length ≤ 65534 := by decide
  obtain ⟨_, _, _, _, _, packets⟩ := dialogue_duplex .mio 2 exchange exchanged_reachable
  obtain ⟨got, missing, reading, complete⟩ := packets only fits
  obtain ⟨all, left⟩ := complete ⟨_, rfl⟩ rfl
  refine ⟨?_, left⟩
  rw [reading.frames, all]
  rfl

/-! ## The sequential run -/

/-- A report is what the completed actions make it. -/
theorem accounts_unique {report other : MockRunReport} (accounts : report.Accounts script)
    (others : other.Accounts script) : report = other := by
  obtain ⟨completed, sent, conserved⟩ := accounts
  obtain ⟨completed', sent', conserved'⟩ := others
  obtain ⟨_, _, _⟩ := report
  obtain ⟨_, _, _⟩ := other
  simp only [MockRunReport.mk.injEq] at *
  omega

section Sequential

variable {io : TcpPeer T} {left written : T → List UInt8} {pre : List Scripted}
  {a : Scripted} {expected : List UInt8} {bind : SocketAddr} {t : T}

/-- `run_tcp` on a stream that starts with what some actions wait for. -/
theorem runTcp_meets (client : io.Client left) (whole : io.Whole written)
    (writes : ∀ bytes ∈ sentBy script, ∀ t, ∃ v, io.writeAll t bytes = (.ok (), v))
    (bind : SocketAddr) (met : (expectedBy script).flatten <+: left t) :
    ∃ run, runTcp io bind script t = (.ok run.report, run) ∧ run.report.Accounts script ∧
      left t = (expectedBy script).flatten ++ left run.sock ∧
      written run.sock = written t ++ (sentBy script).flatten := by
  have completes : ∃ report after, runTcp io bind script t = (.ok report, after) :=
    (runTcp_ok_iff client writes).mpr met
  obtain ⟨report, run, ended⟩ := completes
  obtain ⟨s, there, done, rfl⟩ := runOn_ok_iff.mp ended
  obtain ⟨s', there', unread⟩ := listen_client client bind t
  rw [there] at there'
  cases there'
  have conserved := runOn_conserves (tcpPort_accountable whole t) (sentOn_start whole bind t) script
  obtain ⟨accounts, sent⟩ := conserved.ok _ _ ended
  have taken := taken_run (tcpPort_consumes client) done
  rw [List.flatMap_id, unread] at taken
  have sent : written run.sock = written t ++ (sentBy script).flatten ++ [] := sent
  rw [List.append_nil] at sent
  exact ⟨run, ended, accounts, taken, sent⟩

/-- `run_tcp` on a stream that goes on otherwise than the next action waits for. -/
theorem runTcp_stops (client : io.Client left) (whole : io.Whole written)
    (writes : ∀ bytes ∈ sentBy pre, ∀ t, ∃ v, io.writeAll t bytes = (.ok (), v))
    (bind : SocketAddr) (post : List Scripted) (waits : a.expected = some expected)
    {later : List UInt8} (input : left t = (expectedBy pre).flatten ++ later) (differs : ¬ expected <+: later) :
    ∃ run, runTcp io bind (pre ++ a :: post) t =
        (.error (.failed (shortOrMismatch expected later)), run) ∧ run.report.Accounts pre ∧
      written run.sock = written t ++ (sentBy pre).flatten := by
  have met : (expectedBy pre).flatten <+: left t := ⟨later, input.symm⟩
  obtain ⟨mid, before, accounts, taken, sent⟩ := runTcp_meets client whole writes bind met
  have next : later = left mid.sock := List.append_cancel_left (input.symm.trans taken)
  obtain ⟨action, dropped⟩ := a
  cases action with
  | expectClientBytes bytes =>
      cases waits
      rcases answer : expectTcp io mid.sock expected with ⟨verdict, v⟩
      cases verdict with
      | ok =>
          have starts := expectTcp_met client answer
          rw [← next] at starts
          exact absurd ⟨_, starts.symm⟩ differs
      | error h =>
          obtain ⟨_, rfl⟩ := expectTcp_unmet client answer
          have kept : written v = written mid.sock ++ [].flatten ++ [] :=
            (tcpPort_accountable whole mid.sock).expected answer (by
              show written mid.sock = written mid.sock ++ [].flatten ++ []
              simp)
          refine ⟨{ mid with sock := v }, ?_, accounts, ?_⟩
          · rw [next]
            exact runOn_unmet dropped before answer post
          · rw [kept, sent]
            simp
  | sendMoldPacket | sendMoldHeartbeat | sendSoupPacket | sleep => cases waits

end Sequential

/-- What is left of the input after the bytes read. -/
theorem Level.input {got part : List UInt8} (level : Level s got part) :
    s.up = (expectedBy s.done).flatten ++ (got ++ s.up.drop s.heard) := by
  rw [← List.append_assoc, ← level.heard, List.take_append_drop]

/-- **The order does not matter.** Once the peer of a dialogue has returned, over a
connection that did not fail: its verdict, its report and what it has written are those of
`run_tcp` on its own, over any socket that gives it, in whatever chunks, the bytes the client
has put; and it is `Ok` if and only if these start with all that the script expects. -/
theorem dialogue_sequential (b : Backend) (window : Nat) (script : List Scripted) {s : Dialogue}
    (reach : (dialogue b window script).Reachable s)
    {verdict : Except MockPeerError MockRunReport} (returned : s.pc = .returned verdict)
    (unbroken : s.fault = none) {io : TcpPeer T} {left written : T → List UInt8}
    (client : io.Client left) (whole : io.Whole written)
    (writes : ∀ bytes ∈ sentBy script, ∀ t, ∃ v, io.writeAll t bytes = (.ok (), v))
    (bind : SocketAddr) {t : T} (input : left t = s.up) (fresh : written t = []) :
    (∃ sock, runTcp io bind script t = (verdict.mapError .failed, ⟨sock, s.report⟩) ∧
      written sock = s.down.written) ∧
    ((∃ report, verdict = .ok report) ↔ (expectedBy script).flatten <+: s.up) := by
  have kept := dialogue_kept b window script s reach
  suffices run : ∃ sock, runTcp io bind script t =
      (verdict.mapError .failed, ⟨sock, s.report⟩) ∧ written sock = s.down.written by
    refine ⟨run, ?_⟩
    obtain ⟨sock, ended, _⟩ := run
    have accepts : (∃ report after, runTcp io bind script t = (.ok report, after)) ↔ _ :=
      runTcp_ok_iff client writes
    rw [← input, ← accepts, ended]
    cases verdict with
    | ok report => exact iff_of_true ⟨report, rfl⟩ ⟨report, _, rfl⟩
    | error e =>
        refine iff_of_false ?_ ?_
        · rintro ⟨_, ok⟩
          cases ok
        · rintro ⟨_, _, ok⟩
          cases ok
  have place := kept.place
  have accounts := kept.accounts
  have split := kept.split
  have earlier : ∀ bytes ∈ sentBy s.done, ∀ t, ∃ v, io.writeAll t bytes = (.ok (), v) := by
    intro bytes member
    refine writes bytes ?_
    rw [split, sentBy_append]
    exact List.mem_append_left _ member
  -- at an expectation that what is left does not start with, the sequential run stops too
  have stops {a : Scripted} {rest : List Scripted} {expected got : List UInt8}
      (head : s.todo = a :: rest) (waits : a.expected = some expected) (level : Level s got [])
      (differs : ¬ expected <+: got ++ s.up.drop s.heard) :
      ∃ sock, runTcp io bind script t =
        (.error (.failed (shortOrMismatch expected (got ++ s.up.drop s.heard))),
          ⟨sock, s.report⟩) ∧ written sock = s.down.written := by
    obtain ⟨run, ended, same, sent⟩ := runTcp_stops client whole earlier bind rest waits
      (input.trans level.input) differs
    rw [head] at split
    rw [← split] at ended
    refine ⟨run.sock, ?_, ?_⟩
    · rw [ended, accounts_unique accounts same]
    · rw [sent, fresh, level.written, List.nil_append, List.append_nil]
  rw [returned] at place
  cases place with
  | finished all level =>
      have finished : s.done = script := by rw [split, all, List.append_nil]
      have met : (expectedBy script).flatten <+: left t := by
        rw [input, ← finished]
        exact kept.heard_first
      obtain ⟨run, ended, same, _, sent⟩ := runTcp_meets client whole writes bind met
      rw [finished] at accounts
      refine ⟨run.sock, ?_, ?_⟩
      · rw [ended, accounts_unique accounts same]
        rfl
      · rw [sent, fresh, level.written, finished, List.nil_append, List.append_nil]
  | @differs a rest expected got head waits length other level =>
      have front : ¬ expected <+: got ++ s.up.drop s.heard := by
        intro starts
        have same := List.prefix_of_prefix_length_le starts (List.prefix_append got _)
          (Nat.le_of_eq length.symm)
        exact other (same.eq_of_length length.symm).symm
      obtain ⟨sock, ended, sent⟩ := stops head waits level front
      refine ⟨sock, ?_, sent⟩
      have enough : ¬ (got ++ s.up.drop s.heard).length < expected.length := by
        rw [List.length_append]
        omega
      rw [ended, shortOrMismatch, if_neg enough, ← length, List.take_left]
      rfl
  | @short a rest expected got head waits few level gone last =>
      have none_left : s.up.drop s.heard = [] := by
        rw [last]
        exact List.drop_length
      have front : ¬ expected <+: got ++ s.up.drop s.heard := by
        intro starts
        have long := starts.length_le
        rw [none_left, List.append_nil] at long
        omega
      obtain ⟨sock, ended, sent⟩ := stops head waits level front
      refine ⟨sock, ?_, sent⟩
      have short : (got ++ s.up.drop s.heard).length < expected.length := by
        rw [none_left, List.append_nil]
        exact few
      rw [ended, shortOrMismatch, if_pos short]
      rfl
  | failed broken =>
      rw [unbroken] at broken
      cases broken

theorem dialogue_sequential_exchange :
    (∃ sock, runTcp pipe localhost exchange ⟨[1, 2], []⟩ = (.ok ⟨2, 3, 0⟩, ⟨sock, ⟨2, 3, 0⟩⟩) ∧
      sock.written = [0, 1, 72]) ∧
    ((∃ report, (.ok ⟨2, 3, 0⟩ : Except MockPeerError MockRunReport) = .ok report) ↔
      (expectedBy exchange).flatten <+: [1, 2]) := by
  have writes : ∀ bytes ∈ sentBy exchange, ∀ t, ∃ v, pipe.writeAll t bytes = (.ok (), v) :=
    fun _ _ _ => ⟨_, rfl⟩
  have returned : exchanged.pc = .returned (.ok ⟨2, 3, 0⟩) := rfl
  exact dialogue_sequential .mio 2 exchange exchanged_reachable returned rfl pipe_client pipe_whole
    writes localhost (t := ⟨[1, 2], []⟩) rfl rfl

/-! ## Progress -/

/-- The steps `run_tcp` takes for an action at most: one for each byte moved, and two. -/
def Scripted.cost (a : Scripted) : Nat :=
  2 + (a.action.encoded.getD []).length + (a.expected.getD []).length

def costOf (script : List Scripted) : Nat := (script.map Scripted.cost).sum

/-- The steps of its own the peer may still take. -/
def Dialogue.cost (s : Dialogue) : Nat :=
  match s.pc with
  | .ready => costOf s.todo + 1
  | .writing bytes count => bytes.length - count + costOf s.todo.tail + 2
  | .reading expected got => expected.length - got.length + costOf s.todo.tail + 2
  | .returned _ => 0

def DialogueEvent.own : DialogueEvent → Bool
  | .peer _ => true
  | _ => false

theorem costOf_cons (a : Scripted) (rest : List Scripted) :
    costOf (a :: rest) = a.cost + costOf rest := by
  rw [costOf, List.map_cons, List.sum_cons]
  rfl

theorem Scripted.two_le_cost (a : Scripted) : 2 ≤ a.cost := by
  unfold Scripted.cost
  omega

/-- Completing an action of the script. -/
theorem cost_completed {a : Scripted} {rest : List Scripted} (pc : s.pc = .ready)
    (head : s.todo = a :: rest) (sent dropped : Nat) :
    (s.completed sent dropped).cost + 1 ≤ s.cost := by
  have after : (s.completed sent dropped).cost = costOf rest + 1 := by
    simp only [Dialogue.cost, Dialogue.completed, head, List.tail_cons]
  have before : s.cost = costOf (a :: rest) + 1 := by
    simp only [Dialogue.cost, pc, head]
  have := a.two_le_cost
  rw [after, before, costOf_cons]
  omega

/-- Each step of the peer's own costs, and nothing else adds to the cost. -/
theorem cost_step {e : DialogueEvent} (h : Spoke b window s e t) :
    t.cost + (if e.own then 1 else 0) ≤ s.cost := by
  cases h with
  | returns pc _ =>
      simp only [Dialogue.cost, Dialogue.leave, pc, DialogueEvent.own, if_true]
      omega
  | drops pc head => exact cost_completed pc head _ _
  | sleeps pc head => exact cost_completed pc head _ _
  | begins pc head encoded sends silent =>
      simp only [Dialogue.cost, pc, head, DialogueEvent.own, List.tail_cons, costOf_cons,
        Scripted.cost, encoded, Option.getD_some, if_true]
      omega
  | waits pc head idle waits =>
      simp only [Dialogue.cost, pc, head, DialogueEvent.own, List.tail_cons, costOf_cons,
        Scripted.cost, waits, Option.getD_some, List.length_nil, if_true]
      omega
  | writes pc some fits =>
      simp only [Dialogue.cost, pc, DialogueEvent.own, if_true]
      omega
  | reads pc some fits there =>
      simp only [Dialogue.cost, pc, DialogueEvent.own, if_true, List.length_append,
        List.length_take, List.length_drop]
      omega
  | sent pc all =>
      simp only [Dialogue.cost, Dialogue.completed, pc, DialogueEvent.own, if_true]
      omega
  | met pc =>
      simp only [Dialogue.cost, Dialogue.completed, pc, DialogueEvent.own, if_true]
      omega
  | differs pc =>
      simp only [Dialogue.cost, Dialogue.leave, pc, DialogueEvent.own, if_true]
      omega
  | eof pc =>
      simp only [Dialogue.cost, Dialogue.leave, pc, DialogueEvent.own, if_true]
      omega
  | breaks | loses => exact Nat.zero_le _
  | put | hangUp | landing => exact Nat.le_refl _

/-- What the peer can wait for: bytes of the client, which has not put all it expects, or
room for its own. -/
inductive Stalled (window : Nat) (script : List Scripted) (s : Dialogue) : Prop
  | client {expected got} (pc : s.pc = .reading expected got) (last : s.heard = s.up.length)
      (on : s.hungUp = false) (missing : ¬ (expectedBy script).flatten <+: s.up)
  | full {bytes count} (pc : s.pc = .writing bytes count)
      (full : window ≤ s.down.sock.queued.length)

theorem stalled_or_moves (kept : Kept b script s) :
    (∃ verdict, s.pc = .returned verdict) ∨
      (∃ moved t, (dialogue b window script).step s (.peer moved) = some t) ∨
      Stalled window script s := by
  have place := kept.place
  rcases pc : s.pc with _ | ⟨bytes, count⟩ | ⟨expected, got⟩ | verdict
  · -- at the head of the loop there is always a step
    refine .inr (.inl ⟨0, ?_⟩)
    show ∃ t, s.peer b window 0 = some t
    simp only [Dialogue.peer, pc]
    split
    · exact ⟨_, rfl⟩
    · split <;> exact ⟨_, rfl⟩
  · by_cases more : count < bytes.length
    · by_cases full : window ≤ s.down.sock.queued.length
      · exact .inr (.inr (.full pc full))
      · have opened : s.down.sock.closed = false := by
          refine kept.opened ?_
          rw [pc]
          exact fun _ => PeerPc.noConfusion
        have room : 0 < 1 ∧ count + 1 ≤ bytes.length ∧
            s.down.sock.queued.length + 1 ≤ window := by omega
        refine .inr (.inl ⟨1, ?_⟩)
        show ∃ t, s.peer b window 1 = some t
        simp only [Dialogue.peer, pc, if_pos more, if_pos room, Tcp.Conn.step, opened]
        exact ⟨_, rfl⟩
    · refine .inr (.inl ⟨0, ?_⟩)
      show ∃ t, s.peer b window 0 = some t
      simp only [Dialogue.peer, pc, if_neg more]
      exact ⟨_, rfl⟩
  · by_cases few : got.length < expected.length
    · by_cases there : s.heard < s.up.length
      · have room : 0 < 1 ∧ got.length + 1 ≤ expected.length ∧ s.heard + 1 ≤ s.up.length := by
          omega
        refine .inr (.inl ⟨1, ?_⟩)
        show ∃ t, s.peer b window 1 = some t
        simp only [Dialogue.peer, pc, if_pos few, if_pos there, if_pos room]
        exact ⟨_, rfl⟩
      · cases gone : s.hungUp with
        | true =>
            refine .inr (.inl ⟨0, ?_⟩)
            show ∃ t, s.peer b window 0 = some t
            simp only [Dialogue.peer, pc, if_pos few, if_neg there, gone]
            exact ⟨_, rfl⟩
        | false =>
            have last : s.heard = s.up.length :=
              Nat.le_antisymm kept.within (Nat.le_of_not_lt there)
            refine .inr (.inr (.client pc last gone ?_))
            rw [pc] at place
            cases place with
            | @reading a rest _ _ head idle waits within level =>
                intro whole
                have read := level.input
                have split : expectedBy script = expectedBy s.done ++ expectedBy (a :: rest) := by
                  rw [kept.split, head, expectedBy, List.filterMap_append]
                  rfl
                have next : expectedBy (a :: rest) = expected :: expectedBy rest := by
                  rw [expectedBy, List.filterMap_cons, waits]
                  rfl
                -- all the client put is read, and that is less than the next expectation
                have long := whole.length_le
                rw [last, List.drop_length, List.append_nil] at read
                rw [read, split, next, List.flatten_append, List.flatten_cons,
                  List.length_append, List.length_append, List.length_append] at long
                omega
    · refine .inr (.inl ⟨0, ?_⟩)
      show ∃ t, s.peer b window 0 = some t
      simp only [Dialogue.peer, pc, if_neg few]
      split <;> exact ⟨_, rfl⟩
  · exact .inl ⟨verdict, rfl⟩

theorem cost_run {events : List DialogueEvent}
    (run : (dialogue b window script).runFrom s events = some t) :
    t.cost + events.countP DialogueEvent.own ≤ s.cost := by
  have stay : ∀ u e v, False → (dialogue b window script).step u e = some v → False :=
    fun _ _ _ never _ => never
  have step : ∀ u e v, True → (dialogue b window script).step u e = some v →
      False ∨ True ∧ v.cost + (if e.own then 1 else 0) ≤ u.cost :=
    fun u e v _ taken => .inr ⟨trivial, cost_step (spoke_of_step taken)⟩
  have spent : False ∨ True ∧ t.cost + events.countP DialogueEvent.own ≤ s.cost :=
    System.runFrom_waits DialogueEvent.own Dialogue.cost stay step trivial run
  exact spent.elim False.elim And.right

/-- Only a peer that has returned has no step left to take. -/
theorem returned_of_cost (none_left : s.cost = 0) : ∃ verdict, s.pc = .returned verdict := by
  unfold Dialogue.cost at none_left
  split at none_left
  · omega
  · omega
  · omega
  · next verdict pc => exact ⟨verdict, pc⟩

/-- **Nothing else holds the peer up.** At every moment of every dialogue the peer has
returned, or can take a step, or waits for its client: at an expectation, having read all
that a client still connected has put, which is not yet all the script expects; or before a
write, with the window full. And however its steps fall among the client's, it has returned
once it has taken as many as the script costs. -/
theorem dialogue_progress (b : Backend) (window : Nat) (script : List Scripted) {s : Dialogue}
    {events : List DialogueEvent}
    (run : (dialogue b window script).runFrom (.start script) events = some s) :
    ((∃ verdict, s.pc = .returned verdict) ∨
      (∃ moved t, (dialogue b window script).step s (.peer moved) = some t) ∨
      Stalled window script s) ∧
    events.countP DialogueEvent.own ≤ costOf script + 1 ∧
    (events.countP DialogueEvent.own = costOf script + 1 →
      ∃ verdict, s.pc = .returned verdict) := by
  have reach : (dialogue b window script).Reachable s := (System.Reachable.init rfl).run run
  have spent : s.cost + events.countP DialogueEvent.own ≤ costOf script + 1 := cost_run run
  refine ⟨stalled_or_moves (dialogue_kept b window script s reach), by omega, ?_⟩
  intro all
  exact returned_of_cost (by omega)

theorem dialogue_progress_exchange : ∃ verdict, exchanged.pc = .returned verdict :=
  (dialogue_progress .mio 2 exchange exchanged_run).2.2 rfl

end Transports.Testing
