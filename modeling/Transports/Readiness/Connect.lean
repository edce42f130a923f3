import Transports.Readiness.Blocking
import Transports.Sockets.Options

/-!
# mio `connect`

`wait_connect` takes the first writable event, with no error pending on the
stream, for the end of the handshake. A round of its loop is what it is answered
there, next to how far the handshake really was; the first round that is not quiet
decides (`waitConnect_eq`), so whether `connect` hands out an unconnected stream
is whether that round's event was an early hint.
-/

namespace Transports.Readiness.Mio

open Lib Transports.Core Transports.Udp Transports.Pool Transports.Sockets

/-- How far the TCP handshake is. -/
inductive Handshake
  | pending
  | completed (inTime : Bool)
  | failed
  deriving DecidableEq, Repr

/-- One round of `wait_connect`. -/
structure Round where
  poll : PollAnswer
  /-- `stream.take_error()`, if it comes to that -/
  takeError : Except IoError (Option IoError)
  /-- `Instant::now() >= deadline`, if it comes to that -/
  expired : Bool
  -- history: the handshake when the events were looked at; no code reads it
  handshake : Handshake

def timedOut : IoError := ⟨.timedOut, "tcp connect timed out"⟩

/-- `TcpTransport::wait_connect`. -/
def waitConnect : List Round → Outcome Unit
  | [] => .running
  | round :: rounds =>
    match round.poll with
    | .error e => .returned (.error (.io e))
    | .ok events =>
      if sawWritable tcpToken events then
        match round.takeError with
        | .error e => .returned (.error (.io e))
        | .ok (some e) => .returned (.error (.io e))
        | .ok none => .returned (.ok ())
      else if round.expired then .returned (.error (.io timedOut))
      else waitConnect rounds

/-- What `connect` is given and answered outside `wait_connect`. -/
structure Setup where
  addr : SocketAddr
  stream : Except IoError Unit
  sock : Sock
  rx : RecvBufConfig
  tx : SendBufConfig
  poll : Except IoError Unit
  register : Except IoError Unit
  slabCount : Nat
  slabSize : Nat
  peerAddr : Except IoError SocketAddr

/-- The transport handed out: its pool and the peer it names. -/
structure TcpTransport where
  pool : VecPool
  peer : SocketAddr
  deriving DecidableEq

/-- `mio::net::TcpStream::connect(bind.addr)`; `text` is the `Display` of an address. -/
def openStream (text : SocketAddr → String) (setup : Setup) : Outcome Unit :=
  match setup.stream with
  | .ok () => pure ()
  | .error e => .returned (.error (.bindFailed (text setup.addr) e.message))

/-- `SharedVecPool::new`, which asserts its sizes. -/
def newPool (slabCount slabSize : Nat) : Outcome VecPool :=
  match VecPool.build slabCount slabSize with
  | some pool => pure pool
  | none => .panicked

/-- The peer the transport names; an address that cannot be read is passed over. -/
def Setup.peer (setup : Setup) : SocketAddr :=
  match setup.peerAddr with
  | .ok peer => peer
  | .error _ => setup.addr

/-- `TcpTransport::connect`. -/
def connect (text : SocketAddr → String) (setup : Setup) (rounds : List Round) :
    Outcome TcpTransport := do
  openStream text setup
  .returned (Sockets.Mio.applyTcpSocketOpts setup.sock setup.rx setup.tx).result
  Outcome.io setup.poll
  Outcome.io setup.register
  let pool ← newPool setup.slabCount setup.slabSize
  waitConnect rounds
  return { pool, peer := setup.peer }

/-! ## The round that decides -/

/-- No failure, no writable event, and the deadline not passed. -/
def Round.quiet (round : Round) : Bool :=
  match round.poll with
  | .error _ => false
  | .ok events => !sawWritable tcpToken events && !round.expired

/-- The first round that is not quiet. -/
def deciding (rounds : List Round) : Option Round := rounds.find? fun round => !round.quiet

/-- The stream looks connected: a writable event, and no error pending. -/
def Round.Hints (round : Round) : Prop :=
  ∃ events, round.poll = .ok events ∧ sawWritable tcpToken events = true ∧
    round.takeError = .ok none

/-- What a round that is not quiet returns. -/
def Round.verdict (round : Round) : Except TransportError Unit :=
  match round.poll with
  | .error e => .error (.io e)
  | .ok events =>
    if sawWritable tcpToken events then
      match round.takeError with
      | .error e => .error (.io e)
      | .ok (some e) => .error (.io e)
      | .ok none => .ok ()
    else .error (.io timedOut)

theorem Round.verdict_ok_iff (round : Round) : round.verdict = .ok () ↔ round.Hints := by
  unfold verdict Hints
  cases answer : round.poll with
  | error e => simp
  | ok events =>
      cases writable : sawWritable tcpToken events with
      | false => simp [writable]
      | true =>
          cases waiting : round.takeError with
          | error e => simp [writable]
          | ok pending => cases pending <;> simp [writable]

theorem Round.verdict_cases (round : Round) :
    round.verdict = .ok () ∨ ∃ e, round.verdict = .error (.io e) := by
  unfold verdict
  split
  · exact .inr ⟨_, rfl⟩
  · split
    · split
      · exact .inr ⟨_, rfl⟩
      · exact .inr ⟨_, rfl⟩
      · exact .inl rfl
    · exact .inr ⟨_, rfl⟩

theorem waitConnect_quiet {round : Round} (quiet : round.quiet = true) (rounds : List Round) :
    waitConnect (round :: rounds) = waitConnect rounds := by
  unfold Round.quiet at quiet
  rw [waitConnect]
  split at quiet
  · cases quiet
  · next events answer =>
      simp only [Bool.and_eq_true, Bool.not_eq_true'] at quiet
      simp [quiet.1, quiet.2]

theorem waitConnect_loud {round : Round} (loud : round.quiet = false) (rounds : List Round) :
    waitConnect (round :: rounds) = .returned round.verdict := by
  rw [waitConnect, Round.verdict]
  cases answer : round.poll with
  | error e => rfl
  | ok events =>
      cases writable : sawWritable tcpToken events with
      | true =>
          cases waiting : round.takeError with
          | error e => simp [writable]
          | ok pending => cases pending <;> simp [writable]
      | false =>
          simp only [Round.quiet, answer, writable, Bool.not_false, Bool.true_and,
            Bool.not_eq_false'] at loud
          simp [writable, loud]

/-- The deciding round alone determines the result; without one the call goes on. -/
theorem waitConnect_eq (rounds : List Round) :
    waitConnect rounds =
      match deciding rounds with
      | none => .running
      | some round => .returned round.verdict := by
  induction rounds with
  | nil => rfl
  | cons round rounds ih =>
      cases quiet : round.quiet with
      | true =>
          rw [waitConnect_quiet quiet, ih, deciding, deciding,
            List.find?_cons_of_neg (by simp [quiet])]
      | false =>
          rw [waitConnect_loud quiet, deciding, List.find?_cons_of_pos (by simp [quiet])]

theorem waitConnect_ok_iff (rounds : List Round) :
    waitConnect rounds = .returned (.ok ()) ↔
      ∃ round, deciding rounds = some round ∧ round.Hints := by
  rw [waitConnect_eq]
  cases deciding rounds with
  | none => simp
  | some round => simp [Round.verdict_ok_iff]

/-- A round after the deadline is the last at the latest. -/
theorem waitConnect_returns {rounds : List Round} {round : Round} (member : round ∈ rounds)
    (expired : round.expired = true) : ∃ result, waitConnect rounds = .returned result := by
  have loud : round.quiet = false := by
    unfold Round.quiet
    cases round.poll <;> simp [expired]
  rw [waitConnect_eq]
  cases decided : deciding rounds with
  | none =>
      have quiet := List.find?_eq_none.mp decided round member
      simp [loud] at quiet
  | some first => exact ⟨_, rfl⟩

/-- The poller's `wait_connect` is this one. -/
theorem waitConnect_plays {σ α : Type} {owner : Owner σ α} {p : Poller σ}
    (writes : owner.writes = true) (rounds : List Round)
    (honest : ∀ round ∈ rounds, ∀ e, round.poll = .error e → e.kind ≠ .wouldBlock)
    (here : p.pc = .connecting) (clear : p.writeEdge = false)
    {result : Except TransportError Unit} (returned : waitConnect rounds = .returned result) :
    Returns owner .waitConnect result p := by
  induction rounds generalizing p with
  | nil => cases returned
  | cons round rounds ih =>
      cases quiet : round.quiet with
      | true =>
          -- the poll collects whatever else was pending
          rw [waitConnect_quiet quiet] at returned
          have blind : sawWritable owner.token (p.events owner false false) = false := by
            unfold Poller.events
            split <;> simp [sawWritable, clear]
          have taken : p.step owner (.poll none false false) = some p.cleared := by
            simp [Poller.step, here, blind]
          have rest : ∀ later ∈ rounds, ∀ e, later.poll = .error e → e.kind ≠ .wouldBlock := by
            intro later member
            exact honest later (List.mem_cons_of_mem _ member)
          exact .step taken rfl (ih rest here rfl returned)
      | false =>
          rw [waitConnect_loud quiet] at returned
          cases returned
          cases answer : round.poll with
          | error e =>
              have kind := honest round List.mem_cons_self e answer
              have taken : p.step owner (.poll (some ⟨e, kind⟩) false false) =
                  some (p.goto (.returned .waitConnect (.error (.io e)))) := by
                simp only [Poller.step, here]
              refine .step taken rfl (.here ?_)
              simp only [Round.verdict, answer, Poller.goto_pc]
          | ok events =>
              rcases round.verdict_cases with ok | ⟨e, failed⟩
              · -- the event is raised, and the poll collects it
                rw [ok]
                have raised : p.step owner .becomesWritable =
                    some { p with writeEdge := true } := by
                  simp [Poller.step, writes]
                have taken : Poller.step owner { p with writeEdge := true }
                    (.poll none false false) =
                      some ((Poller.cleared { p with writeEdge := true }).goto
                        (.returned .waitConnect (.ok ()))) := by
                  simp [Poller.step, here, sawWritable, Poller.events]
                exact .step raised rfl (.step taken rfl (.here rfl))
              · rw [failed]
                have taken : p.step owner (.connectFails e) =
                    some (p.goto (.returned .waitConnect (.error (.io e)))) := by
                  simp only [Poller.step, here, if_true]
                exact .step taken rfl (.here rfl)

/-! ## `connect` -/

/-- Everything before `wait_connect` succeeds. -/
structure Setup.Opens (setup : Setup) : Prop where
  stream : setup.stream = .ok ()
  options : (Sockets.Mio.applyTcpSocketOpts setup.sock setup.rx setup.tx).result = .ok ()
  poll : setup.poll = .ok ()
  register : setup.register = .ok ()
  pool : (VecPool.build setup.slabCount setup.slabSize).isSome

section Connect

variable {text : SocketAddr → String} {setup : Setup} {rounds : List Round}

theorem connect_ok_iff :
    (∃ t, connect text setup rounds = .returned (.ok t)) ↔
      setup.Opens ∧ waitConnect rounds = .returned (.ok ()) := by
  constructor
  · rintro ⟨t, returned⟩
    simp only [connect, Outcome.bind_ok, Outcome.io_ok] at returned
    obtain ⟨_, stream, _, options, _, poll, _, register, pool, built, _, waited, _⟩ := returned
    refine ⟨⟨?_, Outcome.returned.inj options, poll, register, ?_⟩, waited⟩
    · unfold openStream at stream
      split at stream
      · assumption
      · cases stream
    · unfold newPool at built
      split at built
      · next found => rw [found]; rfl
      · cases built
  · rintro ⟨opens, waited⟩
    obtain ⟨pool, built⟩ := Option.isSome_iff_exists.mp opens.pool
    refine ⟨⟨pool, setup.peer⟩, ?_⟩
    simp only [connect, Outcome.bind_ok, Outcome.io_ok]
    refine ⟨(), ?_, (), congrArg _ opens.options, (), opens.poll, (), opens.register, pool, ?_, (),
      waited, rfl⟩
    · rw [openStream, opens.stream]
      rfl
    · rw [newPool, built]
      rfl

/-- Once everything before it has succeeded, `connect` returns with `wait_connect`. -/
theorem connect_returns (opens : setup.Opens) {result : Except TransportError Unit}
    (waited : waitConnect rounds = .returned result) :
    ∃ result, connect text setup rounds = .returned result := by
  cases result with
  | ok =>
      obtain ⟨t, returned⟩ := connect_ok_iff.mpr ⟨opens, waited⟩
      exact ⟨.ok t, returned⟩
  | error e =>
      obtain ⟨pool, built⟩ := Option.isSome_iff_exists.mp opens.pool
      refine ⟨.error e, ?_⟩
      simp only [connect, openStream, newPool, opens.stream, opens.options, opens.poll,
        opens.register, built, waited]
      rfl

end Connect

/-! ## Hints and handshakes -/

def Handshake.Done : Handshake → Prop
  | .completed _ => True
  | .pending | .failed => False

def Handshake.DoneInTime : Handshake → Prop
  | .completed inTime => inTime = true
  | .pending | .failed => False

/-- The deciding round is a hint, and the handshake is not what it hints at. -/
def Misled (good : Handshake → Prop) (rounds : List Round) : Prop :=
  ∃ round, deciding rounds = some round ∧ round.Hints ∧ ¬ good round.handshake

theorem connect_good_iff (text : SocketAddr → String) (setup : Setup) (rounds : List Round)
    (good : Handshake → Prop) :
    (∀ t, connect text setup rounds = .returned (.ok t) →
        ∃ round, deciding rounds = some round ∧ good round.handshake) ↔
      ¬ (setup.Opens ∧ Misled good rounds) := by
  constructor
  · rintro honest ⟨opens, round, decided, hints, bad⟩
    have waited := (waitConnect_ok_iff rounds).mpr ⟨round, decided, hints⟩
    obtain ⟨t, returned⟩ : ∃ t, connect text setup rounds = .returned (.ok t) :=
      connect_ok_iff.mpr ⟨opens, waited⟩
    obtain ⟨other, same, fine⟩ := honest t returned
    rw [decided, Option.some.injEq] at same
    exact bad (same ▸ fine)
  · intro clean t returned
    obtain ⟨opens, waited⟩ := connect_ok_iff.mp ⟨t, returned⟩
    obtain ⟨round, decided, hints⟩ := (waitConnect_ok_iff rounds).mp waited
    refine ⟨round, decided, ?_⟩
    by_contra bad
    exact clean ⟨opens, round, decided, hints, bad⟩

/-- **`connect`.** For every sequence of poll answers, pending errors and handshake
progress: `Ok` means that the handshake had completed if and only if the event that
ended the wait was not an early hint, and that it completed before the deadline if
and only if that event did not come of a poll that ran past it; and once the
deadline has passed the call returns. -/
theorem connect_honest_iff (text : SocketAddr → String) (setup : Setup) (rounds : List Round) :
    ((∀ t, connect text setup rounds = .returned (.ok t) →
        ∃ round, deciding rounds = some round ∧ round.handshake.Done) ↔
      ¬ (setup.Opens ∧ Misled Handshake.Done rounds)) ∧
    ((∀ t, connect text setup rounds = .returned (.ok t) →
        ∃ round, deciding rounds = some round ∧ round.handshake.DoneInTime) ↔
      ¬ (setup.Opens ∧ Misled Handshake.DoneInTime rounds)) ∧
    ∀ round ∈ rounds, round.expired = true → setup.Opens →
      ∃ result, connect text setup rounds = .returned result := by
  refine ⟨connect_good_iff text setup rounds _, connect_good_iff text setup rounds _, ?_⟩
  intro round member expired opens
  obtain ⟨result, waited⟩ := waitConnect_returns member expired
  exact connect_returns opens waited

/-- A connect to `127.0.0.1:9000` with nothing asked of the buffers; the peer's address
cannot be read. -/
def plainSetup : Setup where
  addr := someSender
  stream := .ok ()
  sock := linuxSock 212992 212992
  rx := .default
  tx := .default
  poll := .ok ()
  register := .ok ()
  slabCount := 1
  slabSize := 4
  peerAddr := .error ⟨.other, "Socket is not connected"⟩

/-- A poll that came back with nothing, after the deadline. -/
def lateRound : Round := ⟨.ok [], .ok none, true, .pending⟩

theorem connect_honest_iff_late :
    ∃ result, connect (fun _ => "") plainSetup [lateRound] = .returned result := by
  have opens : plainSetup.Opens := ⟨rfl, rfl, rfl, rfl, rfl⟩
  exact (connect_honest_iff (fun _ => "") plainSetup [lateRound]).2.2 lateRound
    List.mem_cons_self rfl opens

/-- A writable event, no error pending, and the handshake still under way. -/
def earlyHint : Round := ⟨.ok [⟨tcpToken, false, true⟩], .ok none, false, .pending⟩

/-- There `connect` hands out an unconnected stream. -/
theorem connect_unconnected :
    (∃ t, connect (fun _ => "127.0.0.1:9000") plainSetup [earlyHint] = .returned (.ok t)) ∧
      deciding [earlyHint] = some earlyHint ∧ ¬ earlyHint.handshake.Done :=
  ⟨⟨_, rfl⟩, rfl, id⟩

end Transports.Readiness.Mio
