import Transports.Tcp.ReadChunk
import Transports.Udp.Delivery

/-!
# `bind`

The constructors of the UDP transports, `UdpTransport::bind` of mio and `bind_sync` of
tokio: a socket of the address's family, its options, nonblocking mode, `bind(2)`, the
registration with the poller or the runtime, and the pool last. What the kernel answers to
each step is given, and a step that fails ends the call; the warnings logged on the way are
kept beside its outcome.

A transport that comes out is where the runs of a transport start.
-/

namespace Transports.Udp

open Lib Transports.Core Transports.Pool Transports.Sockets
open Transports.Readiness.Mio (Outcome newPool)
open Transports.Tcp (RingConfig)

/-! ## Configs and answers -/

/-- `RingConfig::default()`, as far as the pool goes. -/
def defaultRing : RingConfig := ⟨1024, 2048⟩

structure BatchConfig where
  recvSize : UInt32
  sendSize : UInt32
  deriving DecidableEq, Repr

/-- `BatchConfig::default()`. -/
def BatchConfig.default : BatchConfig := ⟨0, 0⟩

structure AffinityConfig where
  ioCpu : Option Nat
  sqpollCpu : Option Nat
  deriving DecidableEq, Repr

/-- `AffinityConfig::default()`. -/
def AffinityConfig.default : AffinityConfig := ⟨none, none⟩

/-- `socket2::Domain`. -/
inductive Domain
  | ipv4
  | ipv6
  deriving DecidableEq, Repr

/-- `Domain::for_address`, and the test in tokio's `create_socket`. -/
def Domain.forAddress : SocketAddr → Domain
  | .v4 _ _ => .ipv4
  | .v6 _ _ _ _ => .ipv6

/-- What the kernel, the poller and the runtime answer to one `bind`. -/
structure Opening where
  socket : Domain → Except IoError Unit
  sock : Sock
  setNonblocking : Except IoError Unit
  bind : SocketAddr → Except IoError Unit
  /-- asked by mio's `bind` only -/
  localAddr : Except IoError SocketAddr
  /-- `Poll::new`, mio only -/
  poll : Except IoError Unit
  /-- `register` of mio, and `UdpSocket::from_std` of tokio -/
  register : Backend → Except IoError Unit

/-! ## Warnings beside an outcome -/

inductive Logged
  /-- `warn_affinity` -/
  | affinity (backend text : String)
  | options (warning : Warning)
  deriving DecidableEq

/-- What a constructor has come to, and what it has logged. -/
structure Attempt (α : Type) where
  log : List Logged
  outcome : Outcome α

namespace Attempt

variable {α β : Type}

/-- `?`: nothing is logged after a failure. -/
def andThen (first : Attempt α) (next : α → Attempt β) : Attempt β where
  log :=
    match first.outcome with
    | .returned (.ok a) => first.log ++ (next a).log
    | _ => first.log
  outcome := first.outcome >>= fun a => (next a).outcome

instance : Monad Attempt where
  pure a := ⟨[], pure a⟩
  bind := andThen

def quiet (outcome : Outcome α) : Attempt α := ⟨[], outcome⟩

/-- The options, with what applying them logs. -/
def apply (applied : Applied) : Attempt Unit :=
  ⟨applied.warnings.map .options, .returned applied.result⟩

@[simp] theorem outcome_bind (first : Attempt α) (next : α → Attempt β) :
    (first >>= next).outcome = first.outcome >>= fun a => (next a).outcome := rfl

@[simp] theorem outcome_pure (a : α) : (pure a : Attempt α).outcome = .returned (.ok a) := rfl

@[simp] theorem outcome_quiet (outcome : Outcome α) : (quiet outcome).outcome = outcome := rfl

@[simp] theorem outcome_apply (applied : Applied) :
    (apply applied).outcome = .returned applied.result := rfl

end Attempt

/-- `warn_affinity`: neither backend has a thread to pin. -/
def warnAffinity (backend text : String) (affinity : AffinityConfig) : Attempt Unit where
  log :=
    if affinity.ioCpu.isSome || affinity.sqpollCpu.isSome then [.affinity backend text] else []
  outcome := pure ()

@[simp] theorem outcome_warnAffinity (backend text : String) (affinity : AffinityConfig) :
    (warnAffinity backend text affinity).outcome = .returned (.ok ()) := rfl

/-- `map_err(|e| TransportError::BindFailed { .. })?` at an address. -/
def orBindFailed (addr : String) : Except IoError Unit → Outcome Unit
  | .ok () => pure ()
  | .error e => .returned (.error (.bindFailed addr e.message))

/-! ## The two constructors -/

/-- The transport handed out. -/
structure Handle where
  pool : VecPool
  batchRecvSize : UInt32
  lastPeer : Option SocketAddr
  /-- mio keeps the local address, tokio asks for it each time -/
  kept : Option SocketAddr
  deriving DecidableEq

namespace Tokio

/-- `create_socket`. -/
def createSocket (addr : SocketAddr) (opening : Opening) : Outcome Unit :=
  Outcome.io (opening.socket (.forAddress addr))

def affinityText : String := "CPU affinity requested but tokio manages its own worker threads; " ++
  "ignoring"

/-- `UdpTransport::bind_sync`, which `bind` awaits nothing to call. -/
def bindSync (text : SocketAddr → String) (bind : BindConfig) (rx : RecvBufConfig)
    (tx : SendBufConfig) (ring : RingConfig) (batch : BatchConfig) (affinity : AffinityConfig)
    (opening : Opening) : Attempt Handle := do
  warnAffinity "tokio-udp" affinityText affinity
  .quiet (createSocket bind.addr opening)
  .apply (Sockets.Tokio.applySocketOpts opening.sock bind rx tx)
  .quiet (Outcome.io opening.setNonblocking)
  .quiet (orBindFailed (text bind.addr) (opening.bind bind.addr))
  .quiet (Outcome.io (opening.register .tokio))
  let pool ← .quiet (newPool ring.slabCount ring.slabSize)
  return { pool, batchRecvSize := batch.recvSize, lastPeer := none, kept := none }

end Tokio

namespace Mio

def affinityText : String := "CPU affinity requested but the mio backend owns no thread to pin; " ++
  "the caller pins its own recv loop"

/-- `UdpTransport::bind`. -/
def bind (text : SocketAddr → String) (bind : BindConfig) (rx : RecvBufConfig)
    (tx : SendBufConfig) (ring : RingConfig) (batch : BatchConfig) (affinity : AffinityConfig)
    (opening : Opening) : Attempt Handle := do
  warnAffinity "mio-udp" affinityText affinity
  .quiet (orBindFailed (text bind.addr) (opening.socket (.forAddress bind.addr)))
  .apply (Sockets.Mio.applySocketOpts opening.sock bind rx tx)
  .quiet (Outcome.io opening.setNonblocking)
  .quiet (orBindFailed (text bind.addr) (opening.bind bind.addr))
  let addr ← .quiet (Outcome.io opening.localAddr)
  .quiet (Outcome.io opening.poll)
  .quiet (Outcome.io (opening.register .mio))
  let pool ← .quiet (newPool ring.slabCount ring.slabSize)
  return { pool, batchRecvSize := batch.recvSize, lastPeer := none, kept := some addr }

end Mio

/-- `TransportBind::bind_udp`. -/
def bindUdp : Backend → (SocketAddr → String) → BindConfig → RecvBufConfig → SendBufConfig →
    RingConfig → BatchConfig → AffinityConfig → Opening → Attempt Handle
  | .tokio => Tokio.bindSync
  | .mio => Mio.bind

/-- `local_addr`, with what the socket answers if it is asked. -/
def Handle.localAddr (handle : Handle) (answer : Except IoError SocketAddr) :
    Except TransportError SocketAddr :=
  match handle.kept, answer with
  | some addr, _ => .ok addr
  | none, .ok addr => .ok addr
  | none, .error e => .error (.io e)

/-! ## What the options come to -/

section Options

variable {first rest : Applied} {e : TransportError}

theorem result_andThen (first rest : Applied) :
    (first.andThen rest).result =
      match first.result with
      | .ok () => rest.result
      | .error e => .error e := by
  unfold Applied.andThen
  cases result : first.result with
  | ok _ => rfl
  | error e => exact result

/-- An option is refused with the error the kernel answered. -/
def IoOnly (applied : Applied) : Prop := ∀ e, applied.result = .error e → ∃ io, e = .io io

theorem IoOnly.of_ok (ok : first.result = .ok ()) : IoOnly first := by
  intro e refused
  rw [ok] at refused
  cases refused

theorem ioOnly_io (answer : Except IoError Unit) : IoOnly (.io answer) := by
  intro e refused
  cases answer with
  | ok _ => cases refused
  | error io =>
      cases refused
      exact ⟨io, rfl⟩

theorem IoOnly.andThen (one : IoOnly first) (two : IoOnly rest) : IoOnly (first.andThen rest) := by
  intro e refused
  rw [result_andThen] at refused
  cases result : first.result with
  | ok _ =>
      rw [result] at refused
      exact two e refused
  | error other =>
      rw [result] at refused
      cases refused
      exact one e result

theorem ioOnly_bufferSize (text : String) (set : Nat → Except IoError Unit)
    (get : Nat → Except IoError Nat) (requested : Option UInt32) :
    IoOnly (applyBufferSize text set get requested) := by
  cases requested with
  | none => exact .of_ok rfl
  | some req =>
      refine (ioOnly_io _).andThen ?_
      intro e refused
      split at refused
      · cases refused
        exact ⟨_, rfl⟩
      · split at refused
        · cases refused
        · cases refused

theorem ioOnly_reuse (sock : Sock) (bind : BindConfig) : IoOnly (applyReuse sock bind) := by
  refine IoOnly.andThen ?_ ?_
  · split
    · exact ioOnly_io _
    · exact .of_ok rfl
  · split
    · exact ioOnly_io _
    · exact .of_ok rfl

/-- A buffer is set or refused whatever text a warning about it has. -/
theorem result_bufferSize (text text' : String) (set : Nat → Except IoError Unit)
    (get : Nat → Except IoError Nat) (requested : Option UInt32) :
    (applyBufferSize text set get requested).result =
      (applyBufferSize text' set get requested).result := by
  cases requested with
  | none => rfl
  | some req =>
      simp only [applyBufferSize, result_andThen]
      cases get req.toNat with
      | error e => rfl
      | ok effective =>
          dsimp only
          by_cases short : effective < req.toNat
          · simp only [short, if_true, Applied.warn]
          · simp only [short, if_false]

/-- What only tokio applies never fails: it warns. -/
theorem result_extras (sock : Sock) (rx : RecvBufConfig) :
    ((Sockets.Tokio.applyBusyPoll sock rx).andThen
      ((Sockets.Tokio.applyRxqOvfl sock rx).andThen
        (Sockets.Tokio.applyTimestamping rx))).result = .ok () := by
  have busy : (Sockets.Tokio.applyBusyPoll sock rx).result = .ok () := by
    unfold Sockets.Tokio.applyBusyPoll
    split
    · rfl
    · split <;> rfl
  have overflow : (Sockets.Tokio.applyRxqOvfl sock rx).result = .ok () := by
    unfold Sockets.Tokio.applyRxqOvfl
    split
    · split <;> rfl
    · rfl
  have stamps : (Sockets.Tokio.applyTimestamping rx).result = .ok () := by
    unfold Sockets.Tokio.applyTimestamping
    split <;> rfl
  rw [result_andThen, busy, result_andThen, overflow, stamps]

/-- So the options of the two UDP backends are refused alike. -/
theorem result_socketOpts (sock : Sock) (bind : BindConfig) (rx : RecvBufConfig)
    (tx : SendBufConfig) :
    (Sockets.Tokio.applySocketOpts sock bind rx tx).result =
      (Sockets.Mio.applySocketOpts sock bind rx tx).result := by
  have sizes : (applyBufferSizes Sockets.Tokio.udpTexts sock rx tx).result =
      (applyBufferSizes Sockets.Mio.udpTexts sock rx tx).result := by
    simp only [applyBufferSizes, result_andThen]
    rw [result_bufferSize Sockets.Tokio.udpTexts.rcvbuf Sockets.Mio.udpTexts.rcvbuf,
      result_bufferSize Sockets.Tokio.udpTexts.sndbuf Sockets.Mio.udpTexts.sndbuf]
  rw [Sockets.Tokio.applySocketOpts, Sockets.Mio.applySocketOpts, result_andThen, result_andThen,
    result_extras, sizes, result_andThen]
  cases (applyReuse sock bind).result with
  | error e => rfl
  | ok _ =>
      cases (applyBufferSizes Sockets.Mio.udpTexts sock rx tx).result with
      | error e => rfl
      | ok _ => rfl

theorem ioOnly_socketOpts (sock : Sock) (bind : BindConfig) (rx : RecvBufConfig)
    (tx : SendBufConfig) : IoOnly (Sockets.Mio.applySocketOpts sock bind rx tx) :=
  (ioOnly_reuse sock bind).andThen ((ioOnly_bufferSize _ _ _ _).andThen (ioOnly_bufferSize _ _ _ _))

end Options

/-! ## Steps in turn -/

/-- Steps one after the other, up to the first that does not succeed. -/
def inTurn : List (Outcome Unit) → Outcome Unit
  | [] => pure ()
  | step :: rest => step >>= fun _ => inTurn rest

/-- Nothing follows a step that does not succeed. -/
theorem outcome_stop {step : Outcome Unit} (other : step ≠ .returned (.ok ()))
    (next : Unit → Outcome Unit) : step >>= next = step := by
  cases step with
  | running | panicked => rfl
  | returned result =>
      cases result with
      | ok _ => exact absurd rfl other
      | error e => rfl

theorem bind_returned {α β : Type} (result : Except TransportError α) (next : α → Outcome β) :
    (Outcome.returned result >>= next) =
      match result with
      | .ok a => next a
      | .error e => .returned (.error e) := by
  cases result <;> rfl

theorem outcome_bind_assoc {α β γ : Type} (first : Outcome α) (next : α → Outcome β)
    (last : β → Outcome γ) :
    (first >>= next) >>= last = first >>= fun a => next a >>= last := by
  cases first with
  | running | panicked => rfl
  | returned result => cases result <;> rfl

theorem outcome_bind_congr {α β : Type} {first : Outcome α} {next next' : α → Outcome β}
    (same : ∀ a, next a = next' a) : (first >>= next) = (first >>= next') := by
  rw [show next = next' from funext same]

theorem inTurn_cons_bind {α : Type} (step : Outcome Unit) (rest : List (Outcome Unit))
    (next : Unit → Outcome α) :
    (inTurn (step :: rest) >>= next) = step >>= fun _ => inTurn rest >>= next :=
  outcome_bind_assoc step _ next

theorem inTurn_ok_iff {steps : List (Outcome Unit)} :
    inTurn steps = .returned (.ok ()) ↔ ∀ step ∈ steps, step = .returned (.ok ()) := by
  induction steps with
  | nil => exact iff_of_true rfl fun _ member => absurd member List.not_mem_nil
  | cons step rest ih =>
      rw [inTurn, Outcome.bind_ok, List.forall_mem_cons, ← ih]
      constructor
      · rintro ⟨_, first, later⟩
        exact ⟨first, later⟩
      · rintro ⟨first, later⟩
        exact ⟨(), first, later⟩

/-- The error of a sequence is that of its first step that does not succeed. -/
theorem inTurn_error_iff {steps : List (Outcome Unit)} {e : TransportError} :
    inTurn steps = .returned (.error e) ↔
      ∃ pre post, steps = pre ++ .returned (.error e) :: post ∧
        ∀ step ∈ pre, step = .returned (.ok ()) := by
  induction steps with
  | nil =>
      refine iff_of_false (fun refused => by cases refused) ?_
      rintro ⟨pre, post, cut, _⟩
      exact absurd cut.symm (by simp)
  | cons step rest ih =>
      constructor
      · intro refused
        by_cases done : step = .returned (.ok ())
        · subst done
          obtain ⟨pre, post, rfl, before⟩ := ih.mp refused
          refine ⟨.returned (.ok ()) :: pre, post, rfl, ?_⟩
          exact List.forall_mem_cons.mpr ⟨rfl, before⟩
        · have here : step = .returned (.error e) := by
            rw [inTurn, outcome_stop done] at refused
            exact refused
          exact ⟨[], rest, by rw [here]; rfl, fun _ member => absurd member List.not_mem_nil⟩
      · rintro ⟨pre, post, cut, before⟩
        cases pre with
        | nil =>
            obtain ⟨rfl, rfl⟩ := List.cons.inj cut
            rfl
        | cons first more =>
            obtain ⟨rfl, rfl⟩ := List.cons.inj cut
            obtain ⟨rfl, later⟩ := List.forall_mem_cons.mp before
            exact ih.mpr ⟨more, post, rfl, later⟩

theorem inTurn_returned {steps : List (Outcome Unit)}
    (all : ∀ step ∈ steps, ∃ result, step = .returned result) :
    ∃ result, inTurn steps = .returned result := by
  induction steps with
  | nil => exact ⟨_, rfl⟩
  | cons step rest ih =>
      obtain ⟨⟨result, rfl⟩, later⟩ := List.forall_mem_cons.mp all
      cases result with
      | error e => exact ⟨_, rfl⟩
      | ok _ => exact ih later

/-! ## What a constructor comes to -/

/-- The steps of a constructor before the pool. -/
def Opening.steps (opening : Opening) (text : SocketAddr → String) (bind : BindConfig)
    (rx : RecvBufConfig) (tx : SendBufConfig) : Backend → List (Outcome Unit)
  | .tokio =>
    [Tokio.createSocket bind.addr opening,
      .returned (Sockets.Tokio.applySocketOpts opening.sock bind rx tx).result,
      Outcome.io opening.setNonblocking,
      orBindFailed (text bind.addr) (opening.bind bind.addr),
      Outcome.io (opening.register .tokio)]
  | .mio =>
    [orBindFailed (text bind.addr) (opening.socket (.forAddress bind.addr)),
      .returned (Sockets.Mio.applySocketOpts opening.sock bind rx tx).result,
      Outcome.io opening.setNonblocking,
      orBindFailed (text bind.addr) (opening.bind bind.addr),
      Outcome.io (opening.localAddr.map fun _ => ()),
      Outcome.io opening.poll,
      Outcome.io (opening.register .mio)]

/-- The local address as the backend keeps it. -/
def Opening.kept (opening : Opening) : Backend → Option SocketAddr
  | .tokio => none
  | .mio => opening.localAddr.toOption

section Constructor

variable {b : Backend} {text : SocketAddr → String} {bind : BindConfig} {rx : RecvBufConfig}
  {tx : SendBufConfig} {ring : RingConfig} {batch : BatchConfig} {affinity : AffinityConfig}
  {opening : Opening}

theorem bindUdp_eq (b : Backend) (text : SocketAddr → String) (bind : BindConfig)
    (rx : RecvBufConfig) (tx : SendBufConfig) (ring : RingConfig) (batch : BatchConfig)
    (affinity : AffinityConfig) (opening : Opening) :
    (bindUdp b text bind rx tx ring batch affinity opening).outcome =
      (inTurn (opening.steps text bind rx tx b) >>= fun _ =>
        newPool ring.slabCount ring.slabSize >>= fun pool =>
          .returned (.ok ⟨pool, batch.recvSize, none, opening.kept b⟩)) := by
  cases b with
  | tokio =>
      simp only [Opening.steps, inTurn_cons_bind]
      rfl
  | mio =>
      simp only [Opening.steps, inTurn_cons_bind]
      cases answer : opening.localAddr with
      | error e =>
          simp only [bindUdp, Mio.bind, Attempt.outcome_bind, Attempt.outcome_quiet, answer]
          rfl
      | ok addr =>
          simp only [bindUdp, Mio.bind, Attempt.outcome_bind, Attempt.outcome_quiet, answer,
            Opening.kept]
          rfl

/-- The kernel's own error, or a failure to bind at the address asked for. -/
def Names (addr : String) (e : TransportError) : Prop :=
  (∃ io, e = .io io) ∨ ∃ io : IoError, e = .bindFailed addr io.message

/-- Each step answers, and a refusal says what was refused. -/
def Answers (addr : String) (step : Outcome Unit) : Prop :=
  ∃ result, step = .returned result ∧ ∀ e, result = .error e → Names addr e

theorem answers_io (addr : String) (answer : Except IoError Unit) :
    Answers addr (Outcome.io answer) := by
  cases answer with
  | ok _ => exact ⟨_, rfl, fun e refused => by cases refused⟩
  | error io =>
      refine ⟨_, rfl, ?_⟩
      intro e refused
      cases refused
      exact .inl ⟨io, rfl⟩

theorem answers_orBindFailed (addr : String) (answer : Except IoError Unit) :
    Answers addr (orBindFailed addr answer) := by
  cases answer with
  | ok _ => exact ⟨_, rfl, fun e refused => by cases refused⟩
  | error io =>
      refine ⟨_, rfl, ?_⟩
      intro e refused
      cases refused
      exact .inr ⟨io, rfl⟩

theorem answers_steps (b : Backend) (text : SocketAddr → String) (bind : BindConfig)
    (rx : RecvBufConfig) (tx : SendBufConfig) (opening : Opening) :
    ∀ step ∈ opening.steps text bind rx tx b, Answers (text bind.addr) step := by
  have options : Answers (text bind.addr)
      (.returned (Sockets.Mio.applySocketOpts opening.sock bind rx tx).result) :=
    ⟨_, rfl, fun e refused => .inl (ioOnly_socketOpts opening.sock bind rx tx e refused)⟩
  cases b with
  | tokio =>
      simp only [Opening.steps, List.forall_mem_cons, result_socketOpts, List.not_mem_nil,
        false_implies, implies_true, and_true]
      exact ⟨answers_io _ _, options, answers_io _ _, answers_orBindFailed _ _, answers_io _ _⟩
  | mio =>
      simp only [Opening.steps, List.forall_mem_cons, List.not_mem_nil, false_implies,
        implies_true, and_true]
      exact ⟨answers_orBindFailed _ _, options, answers_io _ _, answers_orBindFailed _ _,
        answers_io _ _, answers_io _ _, answers_io _ _⟩

/-- What is handed out after all steps. -/
theorem handOut_eq (slabCount slabSize : Nat) (handOut : VecPool → Handle) :
    (newPool slabCount slabSize >>= fun pool => .returned (.ok (handOut pool))) =
      match VecPool.build slabCount slabSize with
      | some pool => .returned (.ok (handOut pool))
      | none => .panicked := by
  unfold newPool
  cases VecPool.build slabCount slabSize <;> rfl

/-- The sizes `SharedVecPool::new` accepts. -/
def ValidRing (ring : RingConfig) : Prop :=
  0 < ring.slabCount ∧ 0 < ring.slabSize ∧ ring.slabCount ≤ u32Max

end Constructor

section Constructed

variable (b : Backend) (text : SocketAddr → String) (bind : BindConfig) (rx : RecvBufConfig)
  (tx : SendBufConfig) (ring : RingConfig) (batch : BatchConfig) (affinity : AffinityConfig)
  (opening : Opening)

/-- The steps come to a result, and what the call comes to is that and the pool. -/
theorem bindUdp_cases : ∃ result,
    inTurn (opening.steps text bind rx tx b) = .returned result ∧
      (bindUdp b text bind rx tx ring batch affinity opening).outcome =
        match result, VecPool.build ring.slabCount ring.slabSize with
        | .error e, _ => .returned (.error e)
        | .ok _, none => .panicked
        | .ok _, some pool => .returned (.ok ⟨pool, batch.recvSize, none, opening.kept b⟩) := by
  have answers := answers_steps b text bind rx tx opening
  obtain ⟨result, came⟩ := inTurn_returned fun step member =>
    let ⟨result, same, _⟩ := answers step member
    ⟨result, same⟩
  refine ⟨result, came, ?_⟩
  rw [bindUdp_eq, came, bind_returned, handOut_eq]
  cases result with
  | error e => rfl
  | ok _ => cases VecPool.build ring.slabCount ring.slabSize <;> rfl

theorem bindUdp_error_iff (e : TransportError) :
    (bindUdp b text bind rx tx ring batch affinity opening).outcome = .returned (.error e) ↔
      inTurn (opening.steps text bind rx tx b) = .returned (.error e) := by
  obtain ⟨result, came, whole⟩ := bindUdp_cases b text bind rx tx ring batch affinity opening
  rw [came, whole]
  cases result with
  | error other => simp
  | ok _ => cases VecPool.build ring.slabCount ring.slabSize <;> simp

theorem bindUdp_panicked_iff :
    (bindUdp b text bind rx tx ring batch affinity opening).outcome = .panicked ↔
      inTurn (opening.steps text bind rx tx b) = .returned (.ok ()) ∧ ¬ ValidRing ring := by
  obtain ⟨result, came, whole⟩ := bindUdp_cases b text bind rx tx ring batch affinity opening
  rw [came, whole, ValidRing, ← VecPool.build_isSome ring.slabCount ring.slabSize]
  cases result with
  | error e => simp
  | ok _ => cases VecPool.build ring.slabCount ring.slabSize <;> simp

theorem bindUdp_ok_iff (handle : Handle) :
    (bindUdp b text bind rx tx ring batch affinity opening).outcome = .returned (.ok handle) ↔
      inTurn (opening.steps text bind rx tx b) = .returned (.ok ()) ∧
        VecPool.build ring.slabCount ring.slabSize = some handle.pool ∧
        handle = ⟨handle.pool, batch.recvSize, none, opening.kept b⟩ := by
  obtain ⟨result, came, whole⟩ := bindUdp_cases b text bind rx tx ring batch affinity opening
  rw [came, whole]
  cases result with
  | error e => simp
  | ok _ =>
      cases VecPool.build ring.slabCount ring.slabSize with
      | none => simp
      | some pool =>
          simp only [Outcome.returned.injEq, Except.ok.injEq, true_and, Option.some.injEq]
          constructor
          · rintro rfl
            exact ⟨rfl, rfl⟩
          · rintro ⟨rfl, same⟩
            exact same.symm

/-- **`bind_udp`.** For every config and whatever the kernel answers, in both backends: the
call fails with the error of the first step refused, which is the kernel's own or names the
address asked for; it panics exactly when every step succeeds and the pool's sizes are out
of range; and it hands out a transport exactly when every step and the pool succeed, fresh
and with nothing received. -/
theorem bindUdp_outcome :
    let steps := opening.steps text bind rx tx b
    let outcome := (bindUdp b text bind rx tx ring batch affinity opening).outcome
    (∀ e, outcome = .returned (.error e) ↔
      ∃ pre post, steps = pre ++ .returned (.error e) :: post ∧
        ∀ step ∈ pre, step = .returned (.ok ())) ∧
    (∀ e, outcome = .returned (.error e) → Names (text bind.addr) e) ∧
    (outcome = .panicked ↔
      (∀ step ∈ steps, step = .returned (.ok ())) ∧ ¬ ValidRing ring) ∧
    ∀ handle, outcome = .returned (.ok handle) ↔
      (∀ step ∈ steps, step = .returned (.ok ())) ∧
        VecPool.build ring.slabCount ring.slabSize = some handle.pool ∧
        handle = ⟨handle.pool, batch.recvSize, none, opening.kept b⟩ := by
  intro steps outcome
  have refused := bindUdp_error_iff b text bind rx tx ring batch affinity opening
  refine ⟨?_, ?_, ?_, ?_⟩
  · intro e
    rw [refused, inTurn_error_iff]
  · intro e failed
    obtain ⟨pre, post, cut, _⟩ := inTurn_error_iff.mp ((refused e).mp failed)
    have member : Outcome.returned (.error e) ∈ steps := by
      show _ ∈ opening.steps text bind rx tx b
      rw [cut]
      exact List.mem_append_right pre List.mem_cons_self
    obtain ⟨result, same, names⟩ := answers_steps b text bind rx tx opening _ member
    cases same
    exact names e rfl
  · rw [← inTurn_ok_iff]
    exact bindUdp_panicked_iff b text bind rx tx ring batch affinity opening
  · intro handle
    rw [← inTurn_ok_iff]
    exact bindUdp_ok_iff b text bind rx tx ring batch affinity opening handle

end Constructed

/-- The default sizes are in range, so a bind with them never panics. -/
theorem validRing_default : ValidRing defaultRing := by
  refine ⟨?_, ?_, ?_⟩ <;> decide

/-! ## Two backends -/

/-- Nothing is refused. -/
def granting : Opening where
  socket _ := .ok ()
  sock := linuxSock 212992 212992
  setNonblocking := .ok ()
  bind _ := .ok ()
  localAddr := .ok someSender
  poll := .ok ()
  register _ := .ok ()

section Alike

variable {text : SocketAddr → String} {bind : BindConfig} {rx : RecvBufConfig}
  {tx : SendBufConfig} {ring : RingConfig} {batch : BatchConfig} {affinity : AffinityConfig}
  {opening : Opening} {handle : Handle}

/-- Where tokio hands out a transport, what mio comes to is decided by the three steps it
makes besides. -/
theorem mio_of_tokio (bound : (bindUdp .tokio text bind rx tx ring batch affinity opening).outcome =
      .returned (.ok handle)) :
    (bindUdp .mio text bind rx tx ring batch affinity opening).outcome =
      Outcome.io opening.localAddr >>= fun addr => Outcome.io opening.poll >>= fun _ =>
        Outcome.io (opening.register .mio) >>= fun _ =>
          .returned (.ok { handle with kept := some addr }) := by
  obtain ⟨done, built, same⟩ := (bindUdp_ok_iff _ _ _ _ _ _ _ _ _ _).mp bound
  have each := inTurn_ok_iff.mp done
  simp only [Opening.steps, List.forall_mem_cons, result_socketOpts, Tokio.createSocket] at each
  obtain ⟨created, options, nonblocking, named, _⟩ := each
  have socket : opening.socket (.forAddress bind.addr) = .ok () := Outcome.io_ok.mp created
  have size : handle.batchRecvSize = batch.recvSize := congrArg Handle.batchRecvSize same
  have peer : handle.lastPeer = none := congrArg Handle.lastPeer same
  rw [bindUdp_eq, size, peer]
  simp only [Opening.steps, inTurn_cons_bind, socket, options, nonblocking, named, handOut_eq,
    built, Opening.kept]
  cases opening.localAddr <;> rfl

/-- Where mio hands out a transport, what tokio comes to is decided by its registration. -/
theorem tokio_of_mio (bound : (bindUdp .mio text bind rx tx ring batch affinity opening).outcome =
      .returned (.ok handle)) :
    (bindUdp .tokio text bind rx tx ring batch affinity opening).outcome =
      Outcome.io (opening.register .tokio) >>= fun _ =>
        .returned (.ok { handle with kept := none }) := by
  obtain ⟨done, built, same⟩ := (bindUdp_ok_iff _ _ _ _ _ _ _ _ _ _).mp bound
  have each := inTurn_ok_iff.mp done
  simp only [Opening.steps, List.forall_mem_cons] at each
  obtain ⟨created, options, nonblocking, named, _⟩ := each
  have socket : opening.socket (.forAddress bind.addr) = .ok () := by
    cases answer : opening.socket (.forAddress bind.addr) with
    | ok _ => rfl
    | error e =>
        rw [answer] at created
        cases created
  have size : handle.batchRecvSize = batch.recvSize := congrArg Handle.batchRecvSize same
  have peer : handle.lastPeer = none := congrArg Handle.lastPeer same
  rw [bindUdp_eq, size, peer]
  simp only [Opening.steps, inTurn_cons_bind, Tokio.createSocket, socket, result_socketOpts,
    options, nonblocking, named, handOut_eq, built, Opening.kept]
  rfl

end Alike

/-- **One bind.** On the same answers of the kernel the two constructors come to the same
error, the same panic, or transports that differ in the kept address only, as long as the
socket is created, the local address told, the poll made and each registration done. A
socket refused they report differently: tokio as an I/O error, mio as a failure to bind.
Where tokio hands out a transport, mio does unless it is refused the local address, its poll
or its registration, and then fails with that; where mio does, tokio does unless it is
refused its registration. -/
theorem bindUdp_alike (text : SocketAddr → String) (bind : BindConfig) (rx : RecvBufConfig)
    (tx : SendBufConfig) (ring : RingConfig) (batch : BatchConfig) (affinity : AffinityConfig)
    (opening : Opening) :
    (∀ addr, opening.socket (.forAddress bind.addr) = .ok () → opening.localAddr = .ok addr →
      opening.poll = .ok () → (∀ b, opening.register b = .ok ()) →
      (bindUdp .mio text bind rx tx ring batch affinity opening).outcome =
        ((bindUdp .tokio text bind rx tx ring batch affinity opening).outcome >>= fun handle =>
          .returned (.ok { handle with kept := some addr }))) ∧
    (∀ e, opening.socket (.forAddress bind.addr) = .error e →
      (bindUdp .tokio text bind rx tx ring batch affinity opening).outcome =
        .returned (.error (.io e)) ∧
      (bindUdp .mio text bind rx tx ring batch affinity opening).outcome =
        .returned (.error (.bindFailed (text bind.addr) e.message))) ∧
    (∀ handle, (bindUdp .tokio text bind rx tx ring batch affinity opening).outcome =
        .returned (.ok handle) →
      (bindUdp .mio text bind rx tx ring batch affinity opening).outcome =
        Outcome.io opening.localAddr >>= fun addr => Outcome.io opening.poll >>= fun _ =>
          Outcome.io (opening.register .mio) >>= fun _ =>
            .returned (.ok { handle with kept := some addr })) ∧
    ∀ handle, (bindUdp .mio text bind rx tx ring batch affinity opening).outcome =
        .returned (.ok handle) →
      (bindUdp .tokio text bind rx tx ring batch affinity opening).outcome =
        Outcome.io (opening.register .tokio) >>= fun _ =>
          .returned (.ok { handle with kept := none }) := by
  refine ⟨?_, ?_, fun _ bound => mio_of_tokio bound, fun _ bound => tokio_of_mio bound⟩
  · intro addr created asked polled registered
    rw [bindUdp_eq, bindUdp_eq, outcome_bind_assoc]
    simp only [handOut_eq, Opening.steps, inTurn_cons_bind, Tokio.createSocket, created,
      asked, polled, registered, result_socketOpts, Opening.kept]
    -- what is left are the options, nonblocking mode, `bind(2)` and the pool
    generalize (Sockets.Mio.applySocketOpts opening.sock bind rx tx).result = options
    generalize Outcome.io opening.setNonblocking = nonblocking
    generalize orBindFailed (text bind.addr) (opening.bind bind.addr) = bound
    show (Outcome.returned options >>= _) = (Outcome.returned options >>= _)
    refine outcome_bind_congr fun _ => ?_
    refine outcome_bind_congr fun _ => ?_
    refine outcome_bind_congr fun _ => ?_
    cases VecPool.build ring.slabCount ring.slabSize with
    | none => rfl
    | some pool => rfl
  · intro e refused
    rw [bindUdp_eq, bindUdp_eq]
    simp only [Opening.steps, inTurn_cons_bind, Tokio.createSocket, refused]
    exact ⟨rfl, rfl⟩

theorem bindUdp_alike_granting :
    (bindUdp .mio (fun _ => "0.0.0.0:0") (.new .unspecified) .default .default ⟨1, 2⟩ .default
        .default granting).outcome =
      ((bindUdp .tokio (fun _ => "0.0.0.0:0") (.new .unspecified) .default .default ⟨1, 2⟩ .default
        .default granting).outcome >>= fun handle =>
          .returned (.ok { handle with kept := some someSender })) :=
  (bindUdp_alike (fun _ => "0.0.0.0:0") (.new .unspecified) .default .default ⟨1, 2⟩ .default
    .default granting).1 someSender rfl rfl rfl fun _ => rfl

/-! ## Where runs start -/

/-- **From bind on.** Whatever a transport handed out by `bind_udp` is used for, and
whatever else uses its pool: the pool keeps the slots it was configured with, `in_use`
counts the slabs alive, and the frames appended followed by the datagrams queued are what
has arrived since, each cut at the slab size asked for. The record of the frames appended
is that of the batches. -/
theorem bound_runs (b : Backend) (text : SocketAddr → String) (bind : BindConfig)
    (rx : RecvBufConfig) (tx : SendBufConfig) (ring : RingConfig) (batch : BatchConfig)
    (affinity : AffinityConfig) (opening : Opening) {handle : Handle}
    (bound : (bindUdp b text bind rx tx ring batch affinity opening).outcome =
      .returned (.ok handle))
    (metrics : Telemetry) {events : List Action} {w : World}
    (run : (world b ring.slabCount ring.slabSize).runFrom (World.start handle.pool metrics)
      events = some w) :
    w.pool.capacity = ring.slabCount ∧ w.pool.inUse = w.live.card ∧
      w.appended ++ w.queue.map (Datagram.cut ring.slabSize) =
        w.arrived.map (Datagram.cut ring.slabSize) ∧ Batched b w := by
  obtain ⟨_, built, _⟩ :=
    (bindUdp_ok_iff b text bind rx tx ring batch affinity opening handle).mp bound
  have start : (world b ring.slabCount ring.slabSize).init (World.start handle.pool metrics) :=
    ⟨handle.pool, metrics, built, rfl⟩
  have reach := (System.Reachable.init start).run run
  have owned := world_owned b ring.slabCount ring.slabSize w reach
  exact ⟨owned.slots, owned.inUse_eq, (world_delivered b _ _ w reach).order,
    world_batched b _ _ w reach⟩

theorem bound_runs_reused :
    (played .mio slotReused).pool.inUse = (played .mio slotReused).live.card := by
  have bound : (bindUdp .mio (fun _ => "0.0.0.0:0") (.new .unspecified) .default .default ⟨1, 2⟩
      .default .default granting).outcome =
        .returned (.ok ⟨oneSlot.pool, 0, none, some someSender⟩) := rfl
  have run : (world .mio 1 2).runFrom (World.start oneSlot.pool ⟨false, []⟩) slotReused =
      some (played .mio slotReused) := rfl
  exact (bound_runs .mio _ _ _ _ _ _ _ _ bound _ run).2.1

end Transports.Udp
