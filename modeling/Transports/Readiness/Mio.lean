import Transports.Readiness.Source

/-!
# mio `ready`

A transport owns its `Poll`, and the poller is edge-triggered: an edge is raised
when the socket becomes readable (or writable), and one `poll` collects and
clears whatever is pending. Three sites collect: `ready`, `wait_connect` and
`send`; the raw receives consume data without touching the poller at all.

`ready` probes once and then only ever waits for an edge. What makes that right
is `Awake`: from the probe on, a readable socket has its edge pending, because
nothing but a `&mut self` call can make it unreadable and none runs meanwhile.
-/

namespace Transports.Readiness

open Lib Transports.Core Transports.Udp

/-- A transport behind `&mut self`: its receive calls exclude `ready`, `send` and
each other. No other action makes the socket unreadable or starts a call. -/
structure Owner (σ α : Type) extends Source σ α where
  token : Nat
  /-- registered for writability, with `wait_connect` and `send` polling for it -/
  writes : Bool
  exclusive : α → Bool
  idle : σ → Bool
  idle_init : ∀ s, sys.init s → idle s = true
  readable_kept : ∀ s a t, sys.step s a = some t → exclusive a = false →
    toSource.readable s = true → toSource.readable t = true
  idle_kept : ∀ s a t, sys.step s a = some t → exclusive a = false →
    idle s = true → idle t = true

namespace Mio

/-- `mio::event::Event`, as far as the transports look at it. -/
structure Event where
  token : Nat
  readable : Bool
  writable : Bool
  deriving DecidableEq, Repr

/-- `events.iter().any(|ev| ev.token() == TOKEN && ev.is_writable())` -/
def sawWritable (token : Nat) (events : List Event) : Bool :=
  events.any fun ev => ev.token == token && ev.writable

/-- `events.iter().any(|ev| ev.token() == TOKEN && ev.is_readable())` -/
def sawReadable (token : Nat) (events : List Event) : Bool :=
  events.any fun ev => ev.token == token && ev.readable

/-- `udp::probe_readable`, on what the peek answers. -/
def probeReadable : Except IoError Nat → Except IoError Bool
  | .ok _ => .ok true
  | .error e => if e.kind = .wouldBlock then .ok false else .error e

inductive Method
  | waitConnect
  | send
  | ready
  deriving DecidableEq, Repr

/-- Where the transport's thread stands. -/
inductive Pc
  /-- `bind` or `connect`, the socket not yet registered -/
  | binding
  | idle
  /-- `wait_connect`, about to poll -/
  | connecting
  /-- `send` with so many bytes left, about to write -/
  | writing (left : Nat)
  /-- `send`, about to poll after a write that would have blocked -/
  | stalled (left : Nat)
  /-- `ready`, about to probe -/
  | probing
  /-- `ready`, in `poll` with no timeout -/
  | parked
  /-- `ready`, about to look at the events collected -/
  | collected (events : List Event)
  | returned (method : Method) (result : Except TransportError Unit)
  deriving DecidableEq

structure Poller (σ : Type) where
  base : σ
  readEdge : Bool
  writeEdge : Bool
  pc : Pc

inductive PollerAction (α : Type)
  | base (a : α)
  | register (raised : Bool)
  | becomesWritable
  | connectFails (e : IoError)
  | send (len : Nat)
  | write (answer : Except IoError Nat)
  | ready
  | probe (fault : Option Fault)
  | poll (fault : Option Fault) (alsoReadable alsoWritable : Bool)
  | scan
  | done

variable {σ α : Type}

namespace Poller

/-- One `poll`: the pending edges, cleared. Readable is reported only of a readable
socket; a pending edge of the other kind may bring it along. -/
def events (owner : Owner σ α) (p : Poller σ) (alsoReadable alsoWritable : Bool) : List Event :=
  if p.readEdge || p.writeEdge then
    [{ token := owner.token
       readable := owner.readable p.base && (p.readEdge || alsoReadable)
       writable := p.writeEdge || alsoWritable }]
  else []

def cleared (p : Poller σ) : Poller σ := { p with readEdge := false, writeEdge := false }

def goto (p : Poller σ) (pc : Pc) : Poller σ := { p with pc }

@[simp] theorem goto_pc (p : Poller σ) (pc : Pc) : (p.goto pc).pc = pc := rfl

@[simp] theorem goto_base (p : Poller σ) (pc : Pc) : (p.goto pc).base = p.base := rfl

@[simp] theorem goto_readEdge (p : Poller σ) (pc : Pc) :
    (p.goto pc).readEdge = p.readEdge := rfl

@[simp] theorem cleared_base (p : Poller σ) : p.cleared.base = p.base := rfl

@[simp] theorem cleared_readEdge (p : Poller σ) : p.cleared.readEdge = false := rfl

/-- `ready` after its probe. -/
def afterProbe : Except IoError Bool → Pc
  | .ok true => .returned .ready (.ok ())
  | .ok false => .parked
  | .error e => .returned .ready (.error (.io e))

/-- `send` after one `write` with bytes left. -/
def afterWrite (left : Nat) : Except IoError Nat → Pc
  | .ok 0 => .returned .send (.error (.io ⟨.writeZero, "write returned zero"⟩))
  | .ok n => .writing (left - n)
  | .error e => if e.kind = .wouldBlock then .stalled left else .returned .send (.error (.io e))

def step (owner : Owner σ α) (p : Poller σ) : PollerAction α → Option (Poller σ)
  | .base a =>
    if owner.exclusive a = true ∧ p.pc ≠ .idle then none
    else
      (owner.sys.step p.base a).map fun s =>
        { p with
          base := s
          readEdge := raise (owner.readable p.base) (owner.readable s) p.readEdge }
  | .register raised =>
    if p.pc = .binding then
      some { p with readEdge := raised, pc := if owner.writes then .connecting else .idle }
    else none
  | .becomesWritable => if owner.writes then some { p with writeEdge := true } else none
  -- the deadline passed, or the stream had an error waiting
  | .connectFails e =>
    if p.pc = .connecting then some (p.goto (.returned .waitConnect (.error (.io e)))) else none
  | .send len =>
    if owner.writes ∧ p.pc = .idle ∧ owner.idle p.base then some (p.goto (.writing len)) else none
  | .write answer =>
    match p.pc with
    | .writing 0 => some (p.goto (.returned .send (.ok ())))
    | .writing left => some (p.goto (afterWrite left answer))
    | _ => none
  | .ready =>
    if p.pc = .idle ∧ owner.idle p.base then some (p.goto .probing) else none
  | .probe fault =>
    if p.pc = .probing then
      some (p.goto (afterProbe (probeReadable (owner.probe fault p.base))))
    else none
  | .poll (some e) _ _ =>
    match p.pc with
    | .connecting => some (p.goto (.returned .waitConnect (.error (.io e.val))))
    | .stalled _ => some (p.goto (.returned .send (.error (.io e.val))))
    | .parked => some (p.goto (.returned .ready (.error (.io e.val))))
    | _ => none
  | .poll none alsoReadable alsoWritable =>
    let events := p.events owner alsoReadable alsoWritable
    match p.pc with
    | .connecting =>
      if sawWritable owner.token events then some (p.cleared.goto (.returned .waitConnect (.ok ())))
      else some p.cleared
    | .stalled left => some (p.cleared.goto (.writing left))
    -- without a timeout the call comes back only with something
    | .parked => if events = [] then none else some (p.cleared.goto (.collected events))
    | _ => none
  | .scan =>
    match p.pc with
    | .collected events =>
      if sawReadable owner.token events then some (p.goto (.returned .ready (.ok ())))
      else some (p.goto .parked)
    | _ => none
  | .done =>
    match p.pc with
    | .returned .waitConnect (.error _) => none
    | .returned _ _ => some (p.goto .idle)
    | _ => none

end Poller

/-- All runs of a transport and its poller. -/
def poller (owner : Owner σ α) : System (Poller σ) (PollerAction α) where
  init p := owner.sys.init p.base ∧ p.readEdge = false ∧ p.writeEdge = false ∧ p.pc = .binding
  step := Poller.step owner

/-! ## What a step can do -/

/-- No probe or poll of `ready` has promised anything here. -/
def Pc.Plain : Pc → Prop
  | .parked | .collected _ | .returned .ready (.ok ()) => False
  | _ => True

/-- One step, as far as the socket, the read edge and `ready` go. -/
inductive Move (owner : Owner σ α) (p : Poller σ) : Poller σ → Prop
  | base {a s} (taken : owner.sys.step p.base a = some s)
      (free : owner.exclusive a = true → p.pc = .idle) :
      Move owner p
        { p with
          base := s
          readEdge := raise (owner.readable p.base) (owner.readable s) p.readEdge }
  | writable : Move owner p { p with writeEdge := true }
  /-- anything outside `ready`'s own loop -/
  | plain {t : Poller σ} (base : t.base = p.base) (plain : t.pc.Plain)
      (free : p.pc = .idle → owner.idle p.base = true) : Move owner p t
  | probed {fault} (here : p.pc = .probing) :
      Move owner p (p.goto (Poller.afterProbe (probeReadable (owner.probe fault p.base))))
  | collected {alsoReadable alsoWritable} (here : p.pc = .parked) :
      Move owner p
        (p.cleared.goto (.collected (p.events owner alsoReadable alsoWritable)))
  | woken {events} (here : p.pc = .collected events)
      (sees : sawReadable owner.token events = true) :
      Move owner p (p.goto (.returned .ready (.ok ())))
  | again {events} (here : p.pc = .collected events)
      (blind : sawReadable owner.token events = false) : Move owner p (p.goto .parked)

theorem Poller.afterWrite_plain (left : Nat) (answer : Except IoError Nat) :
    (afterWrite left answer).Plain := by
  unfold afterWrite
  split
  · trivial
  · trivial
  · split <;> trivial

theorem move_poll {owner : Owner σ α} {p t : Poller σ} {fault : Option Fault}
    {alsoReadable alsoWritable : Bool}
    (h : p.step owner (.poll fault alsoReadable alsoWritable) = some t) : Move owner p t := by
  cases fault with
  | some e =>
      simp only [Poller.step] at h
      split at h
      · next here => cases h; exact .plain rfl trivial (by simp [here])
      · next here => cases h; exact .plain rfl trivial (by simp [here])
      · next here => cases h; exact .plain rfl trivial (by simp [here])
      · cases h
  | none =>
      simp only [Poller.step] at h
      split at h
      · next here =>
          split at h
          · cases h; exact .plain rfl trivial (by simp [here])
          · cases h
            exact .plain rfl (by rw [Poller.cleared, here]; trivial) (by simp [here])
      · next here => cases h; exact .plain rfl trivial (by simp [here])
      · next here =>
          split at h
          · cases h
          · cases h; exact .collected here
      · cases h

theorem move_of_step {owner : Owner σ α} {p t : Poller σ} {a : PollerAction α}
    (h : p.step owner a = some t) : Move owner p t := by
  cases a with
  | base a =>
      simp only [Poller.step, Option.ite_none_left_eq_some, Option.map_eq_some_iff] at h
      obtain ⟨free, s, taken, rfl⟩ := h
      exact .base taken fun own => by_contra fun busy => free ⟨own, busy⟩
  | register raised =>
      simp only [Poller.step, Option.ite_none_right_eq_some, Option.some.injEq] at h
      obtain ⟨here, rfl⟩ := h
      refine .plain rfl ?_ (by simp [here])
      cases owner.writes <;> trivial
  | becomesWritable =>
      simp only [Poller.step, Option.ite_none_right_eq_some, Option.some.injEq] at h
      obtain ⟨_, rfl⟩ := h
      exact .writable
  | connectFails e =>
      simp only [Poller.step, Option.ite_none_right_eq_some, Option.some.injEq] at h
      obtain ⟨here, rfl⟩ := h
      exact .plain rfl trivial (by simp [here])
  | send len =>
      simp only [Poller.step, Option.ite_none_right_eq_some, Option.some.injEq] at h
      obtain ⟨⟨_, _, resting⟩, rfl⟩ := h
      exact .plain rfl trivial fun _ => resting
  | write answer =>
      simp only [Poller.step] at h
      split at h
      · next here => cases h; exact .plain rfl trivial (by simp [here])
      · next left _ here =>
          cases h
          exact .plain rfl (Poller.afterWrite_plain _ _) (by simp [here])
      · cases h
  | ready =>
      simp only [Poller.step, Option.ite_none_right_eq_some, Option.some.injEq] at h
      obtain ⟨⟨_, resting⟩, rfl⟩ := h
      exact .plain rfl trivial fun _ => resting
  | probe fault =>
      simp only [Poller.step, Option.ite_none_right_eq_some, Option.some.injEq] at h
      obtain ⟨here, rfl⟩ := h
      exact .probed here
  | poll fault alsoReadable alsoWritable => exact move_poll h
  | scan =>
      simp only [Poller.step] at h
      split at h
      · next events here =>
          split at h
          · next sees => cases h; exact .woken here sees
          · next blind => cases h; exact .again here (by simpa using blind)
      · cases h
  | done =>
      simp only [Poller.step] at h
      split at h
      · cases h
      · next here => cases h; exact .plain rfl trivial (by simp [here])
      · cases h

/-! ## No lost wake-up, no false one -/

/-- What `ready` relies on at each point of its loop, of the socket's level and its
pending edge. -/
def Awake (owner : Owner σ α) (readable edge : Bool) : Pc → Prop
  | .parked => readable = true → edge = true
  | .collected events =>
    if sawReadable owner.token events = true then readable = true
    else readable = true → edge = true
  | .returned .ready (.ok ()) => readable = true
  | _ => True

theorem Awake.of_plain {owner : Owner σ α} {readable edge : Bool} {pc : Pc} (plain : pc.Plain) :
    Awake owner readable edge pc := by
  unfold Awake
  unfold Pc.Plain at plain
  split <;> simp_all

/-- While the level only rises, and every rise is an edge, nothing is lost. -/
theorem Awake.raised {owner : Owner σ α} {before after edge : Bool} {pc : Pc}
    (awake : Awake owner before edge pc) (kept : before = true → after = true) :
    Awake owner after (raise before after edge) pc := by
  unfold Awake at awake ⊢
  split at awake
  · exact raise_covers awake
  · split at awake
    · next sees =>
        rw [if_pos sees]
        exact kept awake
    · next blind =>
        rw [if_neg blind]
        exact raise_covers awake
  · exact kept awake
  · trivial

/-- `Awake`, and no receive call in progress beside another method. -/
structure Sound (owner : Owner σ α) (p : Poller σ) : Prop where
  awake : Awake owner (owner.readable p.base) p.readEdge p.pc
  resting : p.pc ≠ .idle → owner.idle p.base = true

/-- What one poll shows of a socket whose level is covered by its edge. -/
theorem Poller.sawReadable_events {owner : Owner σ α} {p : Poller σ}
    (alsoReadable alsoWritable : Bool)
    (covered : owner.readable p.base = true → p.readEdge = true) :
    sawReadable owner.token (p.events owner alsoReadable alsoWritable) = owner.readable p.base := by
  unfold sawReadable events
  cases level : owner.readable p.base with
  | true => simp [covered level]
  | false => split <;> simp

theorem sound_move {owner : Owner σ α} {p t : Poller σ} (before : Sound owner p)
    (h : Move owner p t) : Sound owner t := by
  obtain ⟨awake, resting⟩ := before
  cases h with
  | @base a s taken free =>
      by_cases busy : p.pc = .idle
      · refine ⟨.of_plain ?_, fun away => absurd busy away⟩
        show p.pc.Plain
        rw [busy]
        trivial
      · -- not one of the transport's own calls, so what was readable stays so
        have other : owner.exclusive a = false := by
          cases own : owner.exclusive a with
          | true => exact absurd (free own) busy
          | false => rfl
        exact ⟨awake.raised (owner.readable_kept _ _ _ taken other),
          fun _ => owner.idle_kept _ _ _ taken other (resting busy)⟩
  | writable => exact ⟨awake, resting⟩
  | plain base plain free =>
      refine ⟨.of_plain plain, fun _ => ?_⟩
      rw [base]
      by_cases here : p.pc = .idle
      · exact free here
      · exact resting here
  | @probed fault here =>
      refine ⟨?_, fun _ => resting (by simp [here])⟩
      cases answer : owner.probe fault p.base with
      | ok n => exact Source.readable_of_probe_ok answer
      | error e =>
          by_cases kind : e.kind = .wouldBlock
          · -- parked only over a socket that was not readable just now
            have level := Source.not_readable_of_probe answer kind
            simp [probeReadable, kind, Poller.afterProbe, Awake, level]
          · simp [probeReadable, kind, Poller.afterProbe, Awake]
  | @collected alsoReadable alsoWritable here =>
      -- the edge is spent, but it covered the level, so the event shows the level
      rw [here] at awake
      refine ⟨?_, fun _ => resting (by simp [here])⟩
      have sees := Poller.sawReadable_events alsoReadable alsoWritable awake
      simp [Awake, sees]
  | woken here sees =>
      rw [here] at awake
      refine ⟨?_, fun _ => resting (by simp [here])⟩
      simpa [Awake, sees] using awake
  | again here blind =>
      rw [here] at awake
      refine ⟨?_, fun _ => resting (by simp [here])⟩
      simpa [Awake, blind] using awake

theorem poller_sound (owner : Owner σ α) : (poller owner).Invariant (Sound owner) := by
  refine System.Invariant.of_step (System.Invariant.true _) ?_ ?_
  · rintro p ⟨init, _, _, binding⟩
    refine ⟨.of_plain (by rw [binding]; trivial), fun _ => owner.idle_init _ init⟩
  · intro p a t _ before taken
    exact sound_move before (move_of_step taken)

/-- The socket under the poller makes a run of the transport. -/
def poller_runs (owner : Owner σ α) : System.Simulation (poller owner) owner.sys where
  abs := Poller.base
  init := fun _ start => start.1
  step := by
    intro p a t _ taken
    cases move_of_step taken with
    | @base b s moved free => exact ⟨[b], System.runFrom_one moved⟩
    | plain base => exact ⟨[], by rw [base]; rfl⟩
    | writable | probed | collected | woken | again => exact ⟨[], rfl⟩

/-- `ready` is never parked over a readable socket without its edge. -/
theorem parked_covered {owner : Owner σ α} {p : Poller σ} (reach : (poller owner).Reachable p)
    (parked : p.pc = .parked) (level : owner.readable p.base = true) : p.readEdge = true := by
  have awake := (poller_sound owner p reach).awake
  rw [parked] at awake
  exact awake level

theorem returned_readable {owner : Owner σ α} {p : Poller σ}
    (reach : (poller owner).Reachable p) (returned : p.pc = .returned .ready (.ok ())) :
    owner.readable p.base = true := by
  have awake := (poller_sound owner p reach).awake
  rw [returned] at awake
  exact awake

/-! ## The two transports -/

/-- The mio `UdpTransport`. -/
def udp (slabCount slabSize : Nat) : Owner World Udp.Action where
  toSource := Readiness.udp .mio slabCount slabSize
  token := 0
  writes := false
  exclusive
    | .recvBurst _ _ | .next _ => true
    | _ => false
  idle w := w.call.isNone
  idle_init := by
    rintro w ⟨pool, metrics, _, rfl⟩
    rfl
  readable_kept := by
    intro w a t taken other readable
    rw [udp_readable_iff] at readable ⊢
    cases Udp.step_of_step taken with
    | arrive d => simp
    | newBatch | drain | dropFrame | acquireNone | acquire | write | setLen | dropSlab =>
        exact readable
    | _ => simp at other
  idle_kept := by
    intro w a t taken other idle
    cases Udp.step_of_step taken with
    | arrive | newBatch | drain | dropFrame | acquireNone | acquire | write | setLen | dropSlab =>
        exact idle
    | _ => simp at other

/-- The mio `TcpTransport`. -/
def tcp : Owner Tcp.Conn Tcp.Action where
  toSource := Readiness.tcp .mio
  token := 1
  writes := true
  exclusive
    | .recvInto _ _ => true
    | _ => false
  idle _ := true
  idle_init _ _ := rfl
  readable_kept := by
    intro s a t taken other readable
    rw [tcp_readable_iff] at readable ⊢
    cases Tcp.step_of_step taken with
    | write data opened =>
        apply readable.imp_left
        intro queued
        simp [queued]
    | close => exact .inr rfl
    | probe => exact readable
    | recvInto => simp at other
  idle_kept _ _ _ _ _ _ := rfl

/-- **`ready`.** In every run of either transport: `ready` is never parked while a
datagram, a byte or the end of the stream is queued and no edge is pending; and
when it returns `Ok(())` something is queued, so that the next burst given room,
and the next `recv_into`, does not answer `Ok(0)`. -/
theorem ready_wakes (slabCount slabSize : Nat) :
    (∀ p, (poller (udp slabCount slabSize)).Reachable p →
      ¬(p.pc = .parked ∧ p.base.queue ≠ [] ∧ p.readEdge = false) ∧
      (p.pc = .returned .ready (.ok ()) →
        p.base.queue ≠ [] ∧
        ∀ events t, (poller (udp slabCount slabSize)).runFrom p events = some t →
          ∀ cap r, t.base.returns[p.base.returns.length]? = some (cap, r) →
            0 < cap → r ≠ .ok 0)) ∧
    ∀ p, (poller tcp).Reachable p →
      ¬(p.pc = .parked ∧ (p.base.sock.queued ≠ [] ∨ p.base.sock.closed = true) ∧
        p.readEdge = false) ∧
      (p.pc = .returned .ready (.ok ()) →
        (p.base.sock.queued ≠ [] ∨ p.base.sock.closed = true) ∧
        ∀ events t, (poller tcp).runFrom p events = some t →
          ∀ c, t.base.calls[p.base.calls.length]? = some c → c.result ≠ .ok 0) := by
  refine ⟨?_, ?_⟩
  · intro p reach
    refine ⟨?_, ?_⟩
    · rintro ⟨parked, queued, lost⟩
      have pending := parked_covered reach parked (udp_readable_iff.mpr queued)
      simp [lost] at pending
    · intro returned
      have queued := udp_readable_iff.mp (returned_readable reach returned)
      refine ⟨queued, ?_⟩
      intro events t run cap r answer room
      have idle : p.base.call = none :=
        Option.isNone_iff_eq_none.mp ((poller_sound _ p reach).resting (by simp [returned]))
      obtain ⟨steps, beneath⟩ := (poller_runs _).run reach run
      exact burst_after_readable idle queued beneath answer room
  · intro p reach
    refine ⟨?_, ?_⟩
    · rintro ⟨parked, ready, lost⟩
      have pending := parked_covered reach parked (tcp_readable_iff.mpr ready)
      simp [lost] at pending
    · intro returned
      have ready := tcp_readable_iff.mp (returned_readable reach returned)
      refine ⟨ready, ?_⟩
      intro events t run c answer
      obtain ⟨steps, beneath⟩ := (poller_runs _).run reach run
      exact recvInto_after_readable ready beneath answer

/-- `ready` parks over an empty queue and an empty datagram arrives. -/
def arrivalWhileParked : Poller World :=
  (poller (udp 1 2)).replay ⟨oneSlot, false, false, .binding⟩
    [.register false, .ready, .probe none, .base (.arrive ⟨[], someSender⟩)]

theorem ready_wakes_parked : ¬arrivalWhileParked.readEdge = false := by
  have start : (poller (udp 1 2)).init ⟨oneSlot, false, false, .binding⟩ :=
    ⟨⟨_, _, rfl, rfl⟩, rfl, rfl, rfl⟩
  intro lost
  exact ((ready_wakes 1 2).1 arrivalWhileParked (.replay start _)).1 ⟨by rfl, by decide, lost⟩

end Mio

end Transports.Readiness
