import Transports.Facade.Sends

/-!
# Calls of either shape

In a run of calls of both shapes, those of the shape the variant lacks are refused under the
transport's own name and do nothing else: the run without them comes to the same node. What
is left is a run of the datagram transport alone, or of the stream alone.
-/

namespace Transports.Facade

open Lib Transports.Core Transports.Pool Transports.Udp
open Transports.Readiness.Mio (Outcome TcpTransport)

/-! ## Errors of the right calls -/

/-- The error of a call that failed. -/
def Reply.error : Reply → Option TransportError
  | .burst (.error e) => some e
  | .landing _ (.error e) _ => some e
  | .joined (.error e) => some e
  | .sent _ (.returned (.error e)) => some e
  | _ => none

/-- `Err(TransportError::Unsupported { .. })`. -/
def Reply.Unsupported (r : Reply) : Prop := ∃ name reason, r.error = some (.unsupported name reason)

theorem Refusal.unsupported {b : Backend} {shape : Shape} {r : Reply} (refusal : Refusal b shape r) :
    r.Unsupported ∧ r.fits shape = false := by
  cases refusal <;> exact ⟨⟨_, _, rfl⟩, rfl⟩

theorem recvBurst_supported (b : Backend) (max : Nat) (st : RecvState KernelSock) :
    ¬ (Reply.burst (Udp.recvBurst b kernelSock max st).1).Unsupported := by
  obtain ⟨frames, mid, exit, run⟩ := callRun_exists b kernelSock max st
  rw [run.call]
  rintro ⟨name, reason, error⟩
  cases exit with
  | full | drained | failed e => cases error
  | exhausted =>
      dsimp only [Exit.leave] at error
      split at error
      · cases error
      · cases error

theorem recvInto_supported (fault : Option Tcp.StreamFault) (sock : Tcp.StreamSock)
    (dst : Tcp.Buffer) :
    ¬ (Reply.landing dst (Tcp.recvInto fault sock dst).1
      (Tcp.recvInto fault sock dst).2.2).Unsupported := by
  have landing := Tcp.landing_recvInto fault sock dst
  rintro ⟨name, reason, error⟩
  generalize Tcp.recvInto fault sock dst = answer at error landing
  cases landing <;> cases error

theorem joinGroup_supported (group : IpAddr) (interface : MulticastInterface)
    (kernel : Membership → Except IoError Unit) (joined : List Membership) :
    ¬ (Reply.joined (joinGroup group interface kernel joined).1).Unsupported := by
  rintro ⟨name, reason, error⟩
  unfold joinGroup at error
  split at error <;> cases error

theorem FailsByIo.supported {d : Outgoing} {o : Outcome Unit} (fails : FailsByIo o) :
    ¬ (Reply.sent d o).Unsupported := by
  rintro ⟨name, reason, error⟩
  cases o with
  | running | panicked => cases error
  | returned result =>
      cases result with
      | ok a => cases error
      | error e =>
          obtain ⟨io, rfl⟩ := fails e rfl
          cases error

/-! ## Refused calls -/

section Steps

variable {b : Backend} {n t : Node} {e : Event}

/-- A step of the right shape replies as such calls are answered, whatever was logged. -/
structure Fitting (b : Backend) (n t : Node) (e : Event) (more : List Reply) : Prop where
  log : t.log = n.log ++ more
  replies : ∀ r ∈ more, r.fits n.transport.shape = true ∧ ¬ r.Unsupported
  step : ∀ log, ({ n with log } : Node).step b e = some { t with log := log ++ more }

theorem Fitting.silent (log : t.log = n.log)
    (step : ∀ log, ({ n with log } : Node).step b e = some { t with log }) :
    Fitting b n t e [] := by
  refine ⟨by rw [log, List.append_nil], fun r member => absurd member List.not_mem_nil, ?_⟩
  intro log
  rw [step log, List.append_nil]

theorem Fitting.reply {r : Reply} (log : t.log = n.log ++ [r])
    (fits : r.fits n.transport.shape = true) (supported : ¬ r.Unsupported)
    (step : ∀ log, ({ n with log } : Node).step b e = some { t with log := log ++ [r] }) :
    Fitting b n t e [r] := by
  refine ⟨log, ?_, step⟩
  intro other member
  rw [List.mem_singleton.mp member]
  exact ⟨fits, supported⟩

theorem fitting_udp {u : UdpTransport} (udp : n.transport = .udp u) (h : n.step b e = some t)
    (fits : e.fits n.transport.shape = true) : ∃ more, Fitting b n t e more := by
  obtain ⟨transport, batch, frames, joined, out, log⟩ := n
  obtain rfl : transport = .udp u := udp
  cases e with
  | recvBurst max =>
      cases h
      exact ⟨_, .reply rfl rfl (recvBurst_supported b max _) fun log => rfl⟩
  | joinMulticast group interface kernel =>
      cases h
      exact ⟨_, .reply rfl rfl (joinGroup_supported group interface kernel joined) fun log => rfl⟩
  | send buf answers =>
      cases h
      have fails := (sendDatagram_whole b ⟨buf, none⟩ answers out.datagrams).2
      exact ⟨_, .reply rfl rfl fails.supported fun log => rfl⟩
  | sendTo buf addr answers =>
      cases h
      have fails := (sendDatagram_whole b ⟨buf, some addr⟩ answers out.datagrams).2
      exact ⟨_, .reply rfl rfl fails.supported fun log => rfl⟩
  | drain keep =>
      cases h
      exact ⟨[], .silent rfl fun log => rfl⟩
  | drop k =>
      obtain ⟨s, dropped, rfl⟩ := Option.map_eq_some_iff.mp h
      refine ⟨[], .silent rfl fun log => ?_⟩
      exact Option.map_eq_some_iff.mpr ⟨s, dropped, rfl⟩
  | arrive d =>
      cases h
      exact ⟨[], .silent rfl fun log => rfl⟩
  | recvInto | write | close => cases fits

theorem fitting_tcp {u : TcpTransport} {stream : Tcp.StreamSock}
    (tcp : n.transport = .tcp u stream) (h : n.step b e = some t)
    (fits : e.fits n.transport.shape = true) : ∃ more, Fitting b n t e more := by
  obtain ⟨transport, batch, frames, joined, out, log⟩ := n
  obtain rfl : transport = .tcp u stream := tcp
  cases e with
  | recvInto fault dst =>
      cases h
      refine ⟨_, .reply rfl rfl ?_ fun log => rfl⟩
      show ¬ (Reply.landing dst (Tcp.backendRecvInto b fault stream dst).1
        (Tcp.backendRecvInto b fault stream dst).2.2).Unsupported
      rw [Tcp.backendRecvInto_eq]
      exact recvInto_supported fault stream dst
  | send buf answers =>
      cases h
      exact ⟨_, .reply rfl rfl (sendStream_sent b buf answers).error.supported fun log => rfl⟩
  | write data =>
      obtain ⟨opened, same⟩ := Option.ite_none_left_eq_some.mp h
      cases same
      refine ⟨[], .silent rfl fun log => ?_⟩
      exact Option.ite_none_left_eq_some.mpr ⟨opened, rfl⟩
  | close =>
      cases h
      exact ⟨[], .silent rfl fun log => rfl⟩
  | recvBurst | joinMulticast | sendTo | drain | drop | arrive => cases fits

theorem fitting_of_step (h : n.step b e = some t) (fits : e.fits n.transport.shape = true) :
    ∃ more, Fitting b n t e more := by
  cases here : n.transport with
  | udp u => exact fitting_udp here h fits
  | tcp u stream => exact fitting_tcp here h fits

theorem refused_of_step (h : Step b n e t) (wrong : e.fits n.transport.shape = false) :
    ∃ reply, Refusal b n.transport.shape reply ∧ t = { n with log := n.log ++ [reply] } := by
  cases h with
  | refused _ refusal => exact ⟨_, refusal, rfl⟩
  | burst _ here | join _ _ _ here | drain _ here | drop here | arrive _ here | landing _ _ here
    | stream _ _ here | write _ here | close here =>
      rw [here] at wrong
      cases wrong
  | datagram here call =>
      rw [here] at wrong
      rcases call with ⟨rfl, _⟩ | ⟨addr, rfl, _⟩ <;> cases wrong

end Steps

/-- `m` is `n` without the refused calls since `start`. -/
structure Erased (b : Backend) (start n m : Node) : Prop where
  shape : n.transport.shape = start.transport.shape
  replies : ∃ replies, n.log = start.log ++ replies ∧
    (∀ r ∈ replies, r.Unsupported ↔ r.fits start.transport.shape = false) ∧
    (∀ r ∈ replies, r.Unsupported → Refusal b start.transport.shape r) ∧
    m = { n with log := start.log ++ replies.filter (Reply.fits start.transport.shape) }

theorem erased_step {b : Backend} {start n t m : Node} {e : Event} (before : Erased b start n m)
    (h : n.step b e = some t) :
    ∃ u, (node b start).runFrom m (Option.guard (Event.fits start.transport.shape) e).toList =
      some u ∧ Erased b start t u := by
  obtain ⟨shape, replies, log, wrong, refused, rfl⟩ := before
  have same := (step_of_step h).shape.trans shape
  cases fits : e.fits start.transport.shape with
  | true =>
      obtain ⟨more, fitting⟩ := fitting_of_step h (shape ▸ fits)
      have right : ∀ r ∈ more, r.fits start.transport.shape = true ∧ ¬ r.Unsupported := by
        rw [← shape]
        exact fitting.replies
      have kept : more.filter (Reply.fits start.transport.shape) = more :=
        List.filter_eq_self.mpr fun r member => (right r member).1
      refine ⟨_, ?_, same, replies ++ more, ?_, ?_, ?_, rfl⟩
      · have taken : (node b start).runFrom _ [e] = some _ := System.runFrom_one (fitting.step
          (start.log ++ replies.filter (Reply.fits start.transport.shape)))
        rw [Option.guard_pos fits, Option.toList_some, taken, List.filter_append, kept,
          List.append_assoc]
      · rw [fitting.log, log, List.append_assoc]
      · refine List.forall_mem_append.mpr ⟨wrong, ?_⟩
        intro r member
        obtain ⟨here, supported⟩ := right r member
        exact iff_of_false supported (Bool.not_eq_false _ ▸ here)
      · refine List.forall_mem_append.mpr ⟨refused, ?_⟩
        intro r member unsupported
        exact absurd unsupported (right r member).2
  | false =>
      obtain ⟨reply, refusal, rfl⟩ := refused_of_step (step_of_step h) (shape ▸ fits)
      rw [shape] at refusal
      obtain ⟨unsupported, unfit⟩ := refusal.unsupported
      -- the erased node does not move
      refine ⟨{ n with log := start.log ++ replies.filter (Reply.fits start.transport.shape) }, ?_,
        same, replies ++ [reply], ?_, ?_, ?_, ?_⟩
      · have unseen : Option.guard (Event.fits start.transport.shape) e = none := by
          rw [Option.guard, fits]
          rfl
        rw [unseen]
        rfl
      · show n.log ++ [reply] = _
        rw [log, List.append_assoc]
      · refine List.forall_mem_append.mpr ⟨wrong, List.forall_mem_singleton.mpr ?_⟩
        exact iff_of_true unsupported unfit
      · exact List.forall_mem_append.mpr
          ⟨refused, List.forall_mem_singleton.mpr fun _ => refusal⟩
      · rw [List.filter_append, List.filter_singleton, unfit]
        simp

/-- **The wrong shape.** In every run of calls of both shapes on a transport of either
backend: the transport keeps its name; a call is answered `Unsupported` exactly if the
variant lacks its shape, under that name; and the run without those calls comes to the same
transport, batch, frames and replies. -/
theorem wrong_shape_harmless (b : Backend) {start t : Node} {events : List Event}
    (run : (node b start).runFrom start events = some t) :
    t.transport.name b = start.transport.name b ∧
    ∃ replies, t.log = start.log ++ replies ∧
      (∀ r ∈ replies, r.Unsupported ↔ r.fits start.transport.shape = false) ∧
      (∀ r ∈ replies, r.Unsupported → Refusal b start.transport.shape r) ∧
      (node b start).runFrom start (events.filter (Event.fits start.transport.shape)) =
        some { t with
          log := start.log ++ replies.filter (Reply.fits start.transport.shape) } := by
  have fresh : Erased b start start start := by
    refine ⟨rfl, [], (List.append_nil _).symm, ?_, ?_, ?_⟩
    · exact fun r member => absurd member List.not_mem_nil
    · exact fun r member => absurd member List.not_mem_nil
    · rw [List.filter_nil, List.append_nil]
  have step : ∀ n m e t, Erased b start n m → (node b start).step n e = some t →
      ∃ u, (node b start).runFrom m
        (Option.guard (Event.fits start.transport.shape) e).toList = some u ∧
          Erased b start t u :=
    fun n m e t before taken => erased_step before taken
  obtain ⟨u, left, shape, replies, log, wrong, refused, rfl⟩ :=
    System.runFrom_view _ step fresh run
  refine ⟨congrArg (nameOf b) shape, replies, log, wrong, refused, ?_⟩
  rw [← List.filterMap_eq_filter]
  exact left

theorem wrong_shape_harmless_both : (afterBoth .mio).transport.name .mio = "mio-udp" :=
  (wrong_shape_harmless .mio (afterBoth_run .mio)).1

end Transports.Facade
