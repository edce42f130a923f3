import Transports.Facade.Transport
import Transports.Udp.Bind

/-!
# The construction suite

`run_conformance_suite`: a bind with the default configs, the name of what it hands out, and
a connect to a listener of the suite's own. The listener's task is awaited whatever the
connect came to.
-/

namespace Transports.Facade

open Transports.Core Transports.Pool Transports.Udp Transports.Sockets
open Transports.Readiness.Mio (Outcome TcpTransport newPool openStream waitConnect)
open Transports.Tcp (Dial RingConfig connectTcp)

inductive ConformanceCase
  | bindUdp
  | connectTcp
  | nameNonEmpty
  deriving DecidableEq, Repr

def ConformanceCase.label : ConformanceCase → String
  | .bindUdp => "bind_udp"
  | .connectTcp => "connect_tcp"
  | .nameNonEmpty => "name_non_empty"

structure ConformanceReport where
  passed : List String
  failed : List (String × String)
  deriving DecidableEq, Repr

namespace ConformanceReport

/-- `ConformanceReport::default`. -/
def default : ConformanceReport := ⟨[], []⟩

def allPassed (report : ConformanceReport) : Bool := report.failed.isEmpty

/-- A verdict, the error as its text. -/
def record (report : ConformanceReport) (case : ConformanceCase) :
    Except String Unit → ConformanceReport
  | .ok () => { report with passed := report.passed ++ [case.label] }
  | .error e => { report with failed := report.failed ++ [(case.label, e)] }

/-- The labels that have a verdict. -/
def labels (report : ConformanceReport) : List String :=
  report.passed ++ report.failed.map Prod.fst

end ConformanceReport

/-- What the suite asks of a `TransportBind`. -/
structure Constructors (σ : Type) where
  bindUdp : Outcome σ
  connectTcp : SocketAddr → Outcome Unit
  name : σ → String

/-- What the suite's own listener comes to. -/
structure Listener where
  bind : Except IoError Unit
  localAddr : Except IoError SocketAddr
  /-- `accept` answers, with a connection or an error -/
  accepted : Bool

/-- The texts of the verdicts on `connect_tcp`. -/
def spinTcpPeerAndConnect (listener : Listener) (connect : SocketAddr → Outcome Unit) :
    Outcome (Except String Unit) :=
  match listener.bind with
  | .error e => .returned (.ok (.error ("conformance listener bind failed: " ++ e.message)))
  | .ok () =>
    match listener.localAddr with
    | .error e => .returned (.ok (.error ("conformance listener local_addr failed: " ++ e.message)))
    | .ok addr =>
      match connect addr with
      | .running => .running
      | .panicked => .panicked
      | .returned res =>
        -- `accept_task.await`
        if listener.accepted then .returned (.ok (res.mapError TransportError.display))
        else .running

/-- The name of what was bound, if something was. -/
def nameVerdict {σ : Type} (t : Constructors σ) : Except TransportError σ → Except String Unit
  | .ok s => if (t.name s).isEmpty then .error "empty transport name" else .ok ()
  | .error _ => .error "bind_udp failed, name unchecked"

def runConformanceSuite {σ : Type} (t : Constructors σ) (listener : Listener) :
    Outcome ConformanceReport :=
  match t.bindUdp with
  | .running => .running
  | .panicked => .panicked
  | .returned bound => do
    let report := ConformanceReport.default.record .nameNonEmpty (nameVerdict t bound)
    let report := report.record .bindUdp ((bound.map fun _ => ()).mapError TransportError.display)
    let connected ← spinTcpPeerAndConnect listener t.connectTcp
    return report.record .connectTcp connected

/-- The constructors of a backend's enum, as the suite calls them. -/
def constructors (b : Backend) (text : SocketAddr → String) (opening : Opening) (dial : Dial) :
    Constructors Handle where
  bindUdp := (bindUdp b text (.new .unspecified) .default .default defaultRing .default .default
    opening).outcome
  connectTcp addr := do
    let _ ← connectTcp b text (.new addr) .default .default defaultRing dial
    return ()
  name _ := nameOf b .datagram

/-! ## Constructors do not panic -/

section Panics

variable {α β : Type} {o : Outcome α} {next : α → Outcome β}

theorem running_ne_panicked : (.running : Outcome α) ≠ .panicked := by
  intro same
  cases same

theorem returned_ne_panicked (result : Except TransportError α) :
    Outcome.returned result ≠ .panicked := by
  intro same
  cases same

theorem bind_ne_panicked (first : o ≠ .panicked) (later : ∀ a, next a ≠ .panicked) :
    o >>= next ≠ .panicked := by
  cases o with
  | running => exact running_ne_panicked
  | panicked => exact absurd rfl first
  | returned result =>
      cases result with
      | ok a => exact later a
      | error e => exact returned_ne_panicked _

theorem io_ne_panicked (answer : Except IoError α) : Outcome.io answer ≠ .panicked := by
  cases answer <;> exact returned_ne_panicked _

theorem newPool_ne_panicked {ring : RingConfig} (valid : ValidRing ring) :
    newPool ring.slabCount ring.slabSize ≠ .panicked := by
  obtain ⟨pool, built⟩ := Option.isSome_iff_exists.mp
    ((VecPool.build_isSome ring.slabCount ring.slabSize).mpr valid)
  rw [newPool, built]
  exact returned_ne_panicked _

theorem openStream_ne_panicked (text : SocketAddr → String) (setup : Readiness.Mio.Setup) :
    openStream text setup ≠ .panicked := by
  unfold openStream
  cases setup.stream <;> exact returned_ne_panicked _

theorem waitConnect_ne_panicked (rounds : List Readiness.Mio.Round) :
    waitConnect rounds ≠ .panicked := by
  induction rounds with
  | nil => exact running_ne_panicked
  | cons round rounds ih =>
      unfold waitConnect
      split
      · exact returned_ne_panicked _
      · split
        · split <;> exact returned_ne_panicked _
        · split
          · exact returned_ne_panicked _
          · exact ih

/-- `connect_tcp` panics only where the pool's sizes are out of range. -/
theorem connectTcp_ne_panicked (b : Backend) (text : SocketAddr → String) (bind : BindConfig)
    (rx : RecvBufConfig) (tx : SendBufConfig) {ring : RingConfig} (dial : Dial)
    (valid : ValidRing ring) : connectTcp b text bind rx tx ring dial ≠ .panicked := by
  have pool := newPool_ne_panicked valid
  cases b with
  | tokio =>
      refine bind_ne_panicked (openStream_ne_panicked _ _) fun _ => ?_
      refine bind_ne_panicked (io_ne_panicked _) fun _ => ?_
      refine bind_ne_panicked (returned_ne_panicked _) fun _ => ?_
      exact bind_ne_panicked pool fun _ => returned_ne_panicked _
  | mio =>
      refine bind_ne_panicked (openStream_ne_panicked _ _) fun _ => ?_
      refine bind_ne_panicked (returned_ne_panicked _) fun _ => ?_
      refine bind_ne_panicked (io_ne_panicked _) fun _ => ?_
      refine bind_ne_panicked (io_ne_panicked _) fun _ => ?_
      refine bind_ne_panicked pool fun _ => ?_
      exact bind_ne_panicked (waitConnect_ne_panicked _) fun _ => returned_ne_panicked _

end Panics

/-! ## Verdicts -/

namespace ConformanceReport

variable (report : ConformanceReport) (case : ConformanceCase) (verdict : Except String Unit)

theorem labels_record : (report.record case verdict).labels.Perm (case.label :: report.labels) := by
  cases verdict with
  | ok _ =>
      show ((report.passed ++ [case.label]) ++ report.failed.map Prod.fst).Perm _
      rw [List.append_assoc]
      exact List.perm_middle
  | error e =>
      show (report.passed ++ (report.failed ++ [(case.label, e)]).map Prod.fst).Perm _
      rw [List.map_append, ← List.append_assoc]
      exact List.perm_append_singleton _ _

theorem mem_record_passed (label : String) :
    label ∈ (report.record case verdict).passed ↔
      label ∈ report.passed ∨ label = case.label ∧ verdict = .ok () := by
  cases verdict with
  | ok _ => simp [record]
  | error e => simp [record]

theorem allPassed_record :
    (report.record case verdict).allPassed = true ↔
      report.allPassed = true ∧ verdict = .ok () := by
  cases verdict with
  | ok _ => simp [record, allPassed]
  | error e => simp [record, allPassed]

end ConformanceReport

/-- The three verdicts in the order the suite records them. -/
def verdicts (named bound connected : Except String Unit) : ConformanceReport :=
  ((ConformanceReport.default.record .nameNonEmpty named).record .bindUdp bound).record
    .connectTcp connected

/-- Each case has one verdict, and it is a pass exactly if the case succeeded. -/
structure Exact (report : ConformanceReport) (hasName binds connects : Prop) : Prop where
  labels : report.labels.Perm ["connect_tcp", "bind_udp", "name_non_empty"]
  named : "name_non_empty" ∈ report.passed ↔ hasName
  bound : "bind_udp" ∈ report.passed ↔ binds
  connected : "connect_tcp" ∈ report.passed ↔ connects
  all : report.allPassed = true ↔ hasName ∧ binds ∧ connects

theorem verdicts_exact (named bound connected : Except String Unit) :
    Exact (verdicts named bound connected) (named = .ok ()) (bound = .ok ())
      (connected = .ok ()) := by
  refine ⟨?_, ?_, ?_, ?_, ?_⟩
  · refine (ConformanceReport.labels_record _ _ _).trans (List.Perm.cons _ ?_)
    refine (ConformanceReport.labels_record _ _ _).trans (List.Perm.cons _ ?_)
    exact ConformanceReport.labels_record _ _ _
  · simp [verdicts, ConformanceReport.mem_record_passed, ConformanceReport.default,
      ConformanceCase.label]
  · simp [verdicts, ConformanceReport.mem_record_passed, ConformanceReport.default,
      ConformanceCase.label]
  · simp [verdicts, ConformanceReport.mem_record_passed, ConformanceReport.default,
      ConformanceCase.label]
  · simp only [verdicts, ConformanceReport.allPassed_record]
    simp [ConformanceReport.allPassed, ConformanceReport.default, and_assoc]

theorem Exact.congr {report : ConformanceReport} {p q r p' q' r' : Prop}
    (given : Exact report p q r) (one : p ↔ p') (two : q ↔ q') (three : r ↔ r') :
    Exact report p' q' r' :=
  ⟨given.labels, given.named.trans one, given.bound.trans two, given.connected.trans three,
    given.all.trans (and_congr one (and_congr two three))⟩

/-! ## What the suite comes to -/

/-- The suite's listener is there, at this address. -/
def Listener.At (listener : Listener) (addr : SocketAddr) : Prop :=
  listener.bind = .ok () ∧ listener.localAddr = .ok addr

section Spin

variable {listener : Listener} {connect : SocketAddr → Outcome Unit}

/-- Without a listener the verdict is a failure; with one it is that of the connect, once a
connection was accepted. -/
theorem spin_cases (listener : Listener) (connect : SocketAddr → Outcome Unit) :
    ((∀ addr, ¬ listener.At addr) ∧
      ∃ text, spinTcpPeerAndConnect listener connect = .returned (.ok (.error text))) ∨
    ∃ addr, listener.At addr ∧ spinTcpPeerAndConnect listener connect =
      match connect addr with
      | .running => .running
      | .panicked => .panicked
      | .returned res =>
        if listener.accepted then .returned (.ok (res.mapError TransportError.display))
        else .running := by
  unfold spinTcpPeerAndConnect Listener.At
  cases bound : listener.bind with
  | error e =>
      refine .inl ⟨?_, _, rfl⟩
      rintro addr ⟨there, _⟩
      cases there
  | ok _ =>
      cases there : listener.localAddr with
      | error e =>
          refine .inl ⟨?_, _, rfl⟩
          rintro addr ⟨_, there⟩
          cases there
      | ok addr => exact .inr ⟨addr, ⟨rfl, rfl⟩, rfl⟩

theorem mapError_ok {α ε ε' : Type} {f : ε → ε'} {res : Except ε α} {a : α} :
    res.mapError f = .ok a ↔ res = .ok a := by
  cases res <;> simp [Except.mapError]

end Spin

section Backends

variable (b : Backend) (text : SocketAddr → String) (opening : Opening) (dial : Dial)
  (listener : Listener)

/-- With the default sizes `bind_udp` comes to a result. -/
theorem bindUdp_default_returned : ∃ bound,
    (bindUdp b text (.new .unspecified) .default .default defaultRing .default .default
      opening).outcome = .returned bound := by
  obtain ⟨result, _, whole⟩ := bindUdp_cases b text (.new .unspecified) .default .default
    defaultRing .default .default opening
  obtain ⟨pool, built⟩ := Option.isSome_iff_exists.mp
    ((VecPool.build_isSome defaultRing.slabCount defaultRing.slabSize).mpr validRing_default)
  rw [whole, built]
  cases result with
  | error e => exact ⟨_, rfl⟩
  | ok _ => exact ⟨_, rfl⟩

/-- The default configs, at the listener's address. -/
def dialled (addr : SocketAddr) : Outcome TcpTransport :=
  connectTcp b text (.new addr) .default .default defaultRing dial

theorem connect_eq (addr : SocketAddr) :
    (constructors b text opening dial).connectTcp addr =
      match dialled b text dial addr with
      | .running => .running
      | .panicked => .panicked
      | .returned res => .returned (res.map fun _ => ()) := by
  show (connectTcp b text (.new addr) .default .default defaultRing dial >>= fun _ => pure ()) = _
  unfold dialled
  cases connectTcp b text (.new addr) .default .default defaultRing dial with
  | running | panicked => rfl
  | returned res => cases res <;> rfl

/-- The report of a bind and a connect that came to these. -/
theorem exact_report {bound : Except TransportError Handle} (connected : Except String Unit) :
    Exact (verdicts (nameVerdict (constructors b text opening dial) bound)
        ((bound.map fun _ => ()).mapError TransportError.display) connected)
      (∃ handle, bound = .ok handle) (∃ handle, bound = .ok handle) (connected = .ok ()) := by
  refine (verdicts_exact _ _ _).congr ?_ ?_ Iff.rfl
  · cases bound with
    | error e => simp [nameVerdict]
    | ok handle =>
        -- neither label is empty
        refine iff_of_true ?_ ⟨handle, rfl⟩
        cases b <;> rfl
  · cases bound with
    | error e => simp [Except.map, Except.mapError]
    | ok handle => exact iff_of_true rfl ⟨handle, rfl⟩

/-- The suite over a backend's constructors. -/
def suite : Outcome ConformanceReport :=
  runConformanceSuite (constructors b text opening dial) listener

/-- `bind_udp` with the default configs returns a transport. -/
def Binds : Prop :=
  ∃ handle, (bindUdp b text (.new .unspecified) .default .default defaultRing .default .default
    opening).outcome = .returned (.ok handle)

/-- **The construction suite.** For either backend and whatever the kernel answers: the suite
does not panic; it never returns exactly if its listener is there and either the connect
does not return or nothing was accepted, so that a connect refused before it reaches the
listener is not reported; and its report has one verdict for each case, `bind_udp` and
`connect_tcp` passing exactly if the call returned `Ok`, the name exactly if the bind did. -/
theorem conformance_suite :
    suite b text opening dial listener ≠ .panicked ∧
    (suite b text opening dial listener = .running ↔ ∃ addr, listener.At addr ∧
      (dialled b text dial addr = .running ∨ listener.accepted = false)) ∧
    ∀ report, suite b text opening dial listener = .returned (.ok report) →
      Exact report (Binds b text opening) (Binds b text opening)
        (∃ addr transport, listener.At addr ∧
          dialled b text dial addr = .returned (.ok transport)) := by
  obtain ⟨bound, came⟩ := bindUdp_default_returned b text opening
  have whole : suite b text opening dial listener = (spinTcpPeerAndConnect listener
      (constructors b text opening dial).connectTcp >>= fun connected =>
        .returned (.ok (verdicts (nameVerdict (constructors b text opening dial) bound)
          ((bound.map fun _ => ()).mapError TransportError.display) connected))) := by
    have here : (constructors b text opening dial).bindUdp = .returned bound := came
    show runConformanceSuite _ _ = _
    rw [runConformanceSuite, here]
    rfl
  have bindsIff : (∃ handle, bound = .ok handle) ↔ Binds b text opening := by
    show _ ↔ ∃ handle, (bindUdp b text _ _ _ _ _ _ opening).outcome = _
    rw [came]
    simp only [Outcome.returned.injEq]
  rcases spin_cases listener (constructors b text opening dial).connectTcp with
    ⟨absent, reason, spun⟩ | ⟨addr, there, spun⟩
  · rw [spun] at whole
    refine ⟨?_, ?_, ?_⟩
    · rw [whole]
      exact nofun
    · rw [whole]
      refine iff_of_false nofun ?_
      rintro ⟨addr, there, _⟩
      exact absent addr there
    · intro report returned
      rw [whole] at returned
      cases returned
      refine (exact_report b text opening dial _).congr bindsIff bindsIff ?_
      refine iff_of_false nofun ?_
      rintro ⟨addr, _, there, _⟩
      exact absent addr there
  · have only : ∀ other, listener.At other → other = addr := by
      rintro other ⟨_, asked⟩
      exact Except.ok.inj (asked.symm.trans there.2)
    have sane := connectTcp_ne_panicked b text (.new addr) .default .default dial validRing_default
    rw [connect_eq] at spun
    cases dialling : dialled b text dial addr with
    | panicked => exact absurd dialling sane
    | running =>
        rw [spun, dialling] at whole
        refine ⟨by rw [whole]; exact nofun, iff_of_true whole ⟨addr, there, .inl dialling⟩, ?_⟩
        intro report returned
        rw [whole] at returned
        cases returned
    | returned res =>
        rw [spun, dialling] at whole
        cases accepted : listener.accepted with
        | false =>
            rw [accepted] at whole
            refine ⟨by rw [whole]; exact nofun, iff_of_true whole ⟨addr, there, .inr rfl⟩, ?_⟩
            intro report returned
            rw [whole] at returned
            cases returned
        | true =>
            rw [accepted] at whole
            refine ⟨by rw [whole]; exact nofun, iff_of_false (by rw [whole]; exact nofun) ?_, ?_⟩
            · rintro ⟨other, there, waits | none⟩
              · rw [only other there, dialling] at waits
                cases waits
              · cases none
            · intro report returned
              rw [whole] at returned
              cases returned
              refine (exact_report b text opening dial _).congr bindsIff bindsIff ?_
              rw [mapError_ok]
              constructor
              · intro connected
                cases res with
                | error e => cases connected
                | ok transport => exact ⟨addr, transport, there, dialling⟩
              · rintro ⟨other, transport, there, connected⟩
                rw [only other there, dialling] at connected
                cases connected
                rfl

end Backends

end Transports.Facade
