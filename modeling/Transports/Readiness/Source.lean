import Transports.Tcp.Stream
import Transports.Udp.Custody

/-!
# What the readiness paths look at

`ready` and `readable` are written once per backend and run over either
transport: all they do to the socket is peek at it. A `Source` is a transport as
they see it, its runs and the answer a peek would give. Its UDP and TCP instances
are the systems the receive paths were verified over, so everything those do
(partial drains, exhausted bursts, failed reads) happens underneath.

The last sections say what a socket that was seen readable promises the next
call.
-/

namespace Transports.Readiness

open Lib Transports.Core Transports.Udp

variable {σ α : Type}

/-- The runs of a transport and what a `MSG_PEEK` answers in each state. A peek
that meets no failure fails only with `WouldBlock`. -/
structure Source (σ α : Type) where
  sys : System σ α
  peek : σ → Except IoError Nat
  peek_error : ∀ s e, peek s = .error e → e.kind = .wouldBlock

/-- A peek would answer: a datagram, a byte or the end of the stream. -/
def Source.readable (source : Source σ α) (s : σ) : Bool :=
  match source.peek s with
  | .ok _ => true
  | .error _ => false

/-- The probe's `recv`, which may also meet a socket failure. -/
def Source.probe (source : Source σ α) (fault : Option Fault) (s : σ) : Except IoError Nat :=
  match fault with
  | some e => .error e.val
  | none => source.peek s

/-- The pending bit of an edge-triggered notification after the level went from
`before` to `after`: raised when the level rises, and never lost. -/
def raise (before after pending : Bool) : Bool := pending || (!before && after)

theorem raise_of_pending {before after pending : Bool} (h : pending = true) :
    raise before after pending = true := by
  simp [raise, h]

/-- If a high level was covered before, a high level is covered after. -/
theorem raise_covers {before after pending : Bool} (covered : before = true → pending = true)
    (high : after = true) : raise before after pending = true := by
  cases before with
  | false => simp [raise, high]
  | true => exact raise_of_pending (covered rfl)

namespace Source

variable {source : Source σ α} {s : σ}

theorem readable_iff : source.readable s = true ↔ ∃ n, source.peek s = .ok n := by
  unfold readable
  cases source.peek s <;> simp

/-- A probe that answers saw the socket readable. -/
theorem readable_of_probe_ok {fault : Option Fault} {n : Nat}
    (answer : source.probe fault s = .ok n) : source.readable s = true := by
  cases fault with
  | none => exact readable_iff.mpr ⟨n, answer⟩
  | some e => cases answer

/-- A probe that answers `WouldBlock` saw it not readable. -/
theorem not_readable_of_probe {fault : Option Fault} {e : IoError}
    (answer : source.probe fault s = .error e) (kind : e.kind = .wouldBlock) :
    source.readable s = false := by
  cases fault with
  | none =>
      have answer : source.peek s = .error e := answer
      simp only [readable, answer]
  | some cause =>
      simp only [probe, Except.error.injEq] at answer
      exact absurd (answer ▸ kind) cause.property

end Source

/-! ## The two transports -/

theorem kernelPeek_error {queue : List Datagram} {e : IoError} (h : kernelPeek queue = .error e) :
    e.kind = .wouldBlock := by
  cases queue with
  | nil =>
      cases h
      rfl
  | cons d rest => cases h

/-- A UDP transport: a peek answers when a datagram is queued. -/
def udp (b : Backend) (slabCount slabSize : Nat) : Source World Udp.Action where
  sys := world b slabCount slabSize
  peek w := kernelPeek w.queue
  peek_error _ _ h := kernelPeek_error h

theorem udp_readable_iff {b : Backend} {slabCount slabSize : Nat} {w : World} :
    (udp b slabCount slabSize).readable w = true ↔ w.queue ≠ [] := by
  cases queue : w.queue <;> simp [Source.readable, udp, kernelPeek, queue]

theorem streamPeek_error {sock : Tcp.StreamSock} {e : IoError}
    (h : Tcp.streamPeek sock = .error e) : e.kind = .wouldBlock := by
  unfold Tcp.streamPeek at h
  split at h
  · split at h
    · cases h
    · cases h
      rfl
  · cases h

/-- A TCP transport: a peek answers when a byte is queued or the peer has closed. -/
def tcp (b : Backend) : Source Tcp.Conn Tcp.Action where
  sys := Tcp.stream b
  peek s := Tcp.streamPeek s.sock
  peek_error _ _ h := streamPeek_error h

theorem tcp_readable_iff {b : Backend} {s : Tcp.Conn} :
    (tcp b).readable s = true ↔ s.sock.queued ≠ [] ∨ s.sock.closed = true := by
  by_cases empty : s.sock.queued = []
  · cases closed : s.sock.closed <;>
      simp [Source.readable, tcp, Tcp.streamPeek, empty, closed]
  · simp [Source.readable, tcp, Tcp.streamPeek, empty]

/-! ## What a readable socket promises the next call -/

/-- A call with room that has landed nothing yet still has a datagram to land. -/
def Promising (w : World) (c : BurstCall) : Prop :=
  0 < c.cap → c.n = 0 →
    w.queue ≠ [] ∧ ∀ slab e, c.pc = .releasing slab e → e.kind ≠ .wouldBlock

/-- The return of number `k` has not come yet and will not be an empty one, or it
has come and was none, room given. -/
inductive Armed (k : Nat) (w : World) : Prop
  | waiting (idle : w.call = none) (count : w.returns.length = k) (queued : w.queue ≠ [])
  | running {c} (running : w.call = some c) (count : w.returns.length = k)
      (promising : Promising w c)
  | returned {cap r} (answer : w.returns[k]? = some (cap, r)) (honest : 0 < cap → r ≠ .ok 0)

/-- Steps that leave the call, the queue and the returns alone. -/
theorem Armed.of_same {k : Nat} {w t : World} (before : Armed k w) (call : t.call = w.call)
    (queue : t.queue = w.queue) (returns : t.returns = w.returns) : Armed k t := by
  cases before with
  | waiting idle count queued =>
      exact .waiting (call.trans idle) (returns ▸ count) (queue ▸ queued)
  | running running count promising =>
      refine .running (call.trans running) (returns ▸ count) ?_
      unfold Promising
      rw [queue]
      exact promising
  | returned answer honest => exact .returned (returns ▸ answer) honest

/-- The call in progress is the one that returns next, or the return has come. -/
theorem Armed.of_call {k : Nat} {w : World} {c : BurstCall} (before : Armed k w)
    (running : w.call = some c) :
    w.returns.length = k ∧ Promising w c ∨
      ∃ cap r, w.returns[k]? = some (cap, r) ∧ (0 < cap → r ≠ .ok 0) := by
  cases before with
  | waiting idle => simp [running] at idle
  | running other count promising =>
      rw [running, Option.some.injEq] at other
      exact .inl ⟨count, other ▸ promising⟩
  | returned answer honest => exact .inr ⟨_, _, answer, honest⟩

/-- The call goes on. -/
theorem Armed.continue {k : Nat} {w t : World} {c d : BurstCall} (before : Armed k w)
    (running : w.call = some c) (next : t.call = some d) (returns : t.returns = w.returns)
    (keep : Promising w c → Promising t d) : Armed k t := by
  rcases before.of_call running with ⟨count, promising⟩ | ⟨cap, r, answer, honest⟩
  · exact .running next (returns ▸ count) (keep promising)
  · exact .returned (returns ▸ answer) honest

/-- The call returns. -/
theorem Armed.return {k : Nat} {w t : World} {c : BurstCall} {r : Except TransportError Nat}
    (before : Armed k w) (running : w.call = some c)
    (returns : t.returns = w.returns ++ [(c.cap, r)])
    (honest : Promising w c → 0 < c.cap → r ≠ .ok 0) : Armed k t := by
  rcases before.of_call running with ⟨count, promising⟩ | ⟨cap, r, answer, honest⟩
  · have answer : t.returns[k]? = some (c.cap, r) := by
      rw [returns, ← count, List.getElem?_concat_length]
    exact .returned answer (honest promising)
  · have bound : k < w.returns.length := (List.getElem?_eq_some_iff.mp answer).1
    rw [← List.getElem?_append_left bound, ← returns] at answer
    exact .returned answer honest

theorem armed_step {b : Backend} {k : Nat} {w t : World} {a : Udp.Action} (before : Armed k w)
    (h : Udp.Step b w a t) : Armed k t := by
  cases h with
  | arrive d =>
      -- an arrival only adds to the queue
      cases before with
      | waiting idle count queued => exact .waiting idle count (by simp)
      | running running count promising =>
          refine .running running count fun room first => ⟨by simp, (promising room first).2⟩
      | returned answer honest => exact .returned answer honest
  | call idle picked =>
      cases before with
      | waiting _ count queued =>
          exact .running rfl count fun _ _ => ⟨queued, fun _ _ pc => by cases pc⟩
      | running running => simp [idle] at running
      | returned answer honest => exact .returned answer honest
  | acquired running pc room got =>
      refine before.continue running rfl rfl ?_
      intro promising room first
      exact ⟨(promising room first).1, fun _ _ pc => by cases pc⟩
  | refused running pc room none first =>
      refine before.continue running rfl rfl ?_
      intro promising room first
      exact ⟨(promising room first).1, fun _ _ pc => by cases pc⟩
  | finished running pc why =>
      -- the loop ends by itself only full or with something landed
      refine before.return running rfl ?_
      intro _ room zero
      rw [Except.ok.injEq] at zero
      omega
  | exhausted running pc =>
      refine before.return running rfl ?_
      intro _ _ zero
      cases zero
  | landed running pc answer =>
      refine before.continue running rfl rfl ?_
      intro _ _ first
      simp at first
  | @stopped fault c slab queue e running pc answer =>
      refine before.continue running rfl rfl ?_
      intro promising room first
      obtain ⟨queued, _⟩ := promising room first
      cases answer with
      | wouldBlock empty => exact absurd empty queued
      | fault cause =>
          refine ⟨queued, ?_⟩
          intro slab' e' pc'
          cases pc'
          exact cause.property
  | released running pc drained =>
      refine before.return running rfl ?_
      intro promising room zero
      rw [Except.ok.injEq] at zero
      exact (promising room zero).2 _ _ pc drained
  | aborted running pc failed =>
      refine before.return running rfl ?_
      intro _ _ zero
      cases zero
  | newBatch | drain | dropFrame | acquireNone | acquire | write | setLen | dropSlab =>
      exact before.of_same rfl rfl rfl

/-- From a queued datagram on, the next burst to return does not answer `Ok(0)`,
whatever runs beside it, if it was given room. -/
theorem burst_after_readable {b : Backend} {slabCount slabSize : Nat} {w t : World}
    {events : List Udp.Action} (idle : w.call = none) (queued : w.queue ≠ [])
    (run : (world b slabCount slabSize).runFrom w events = some t) {cap : Nat}
    {r : Except TransportError Nat} (answer : t.returns[w.returns.length]? = some (cap, r))
    (room : 0 < cap) : r ≠ .ok 0 := by
  have step : ∀ u a v, Armed w.returns.length u → (world b slabCount slabSize).step u a = some v →
      Armed w.returns.length v := by
    intro u a v before taken
    exact armed_step before (Udp.step_of_step taken)
  have armed : Armed w.returns.length t :=
    System.runFrom_preserves step (.waiting idle rfl queued) run
  have bound : w.returns.length < t.returns.length := (List.getElem?_eq_some_iff.mp answer).1
  cases armed with
  | waiting _ count => omega
  | running _ count => omega
  | returned other honest =>
      rw [answer, Option.some.injEq, Prod.mk.injEq] at other
      obtain ⟨rfl, rfl⟩ := other
      exact honest room

/-- The connection stays readable until call number `k`, which is not an empty one. -/
inductive ArmedConn (k : Nat) (s : Tcp.Conn) : Prop
  | waiting (count : s.calls.length = k) (ready : s.sock.queued ≠ [] ∨ s.sock.closed = true)
  | called {c} (answer : s.calls[k]? = some c) (honest : c.result ≠ .ok 0)

theorem armedConn_step {k : Nat} {s t : Tcp.Conn} {a : Tcp.Action} (before : ArmedConn k s)
    (h : Tcp.Step s a t) : ArmedConn k t := by
  cases before with
  | waiting count ready =>
      cases h with
      | write data opened =>
          refine .waiting count (ready.imp_left ?_)
          intro queued
          simp [queued]
      | close => exact .waiting count (.inr rfl)
      | probe => exact .waiting count ready
      | @recvInto fault dst result sock buf landing =>
          have answer : (s.calls ++ [⟨fault, s.sock, dst, result, buf⟩])[k]? =
              some ⟨fault, s.sock, dst, result, buf⟩ := by
            rw [← count, List.getElem?_concat_length]
          refine .called answer ?_
          rintro rfl
          obtain ⟨empty, opened⟩ := landing.ok_zero
          simp [empty, opened] at ready
  | called answer honest =>
      have bound : k < s.calls.length := (List.getElem?_eq_some_iff.mp answer).1
      cases h with
      | write | close | probe => exact .called answer honest
      | recvInto landing =>
          refine .called ?_ honest
          rw [List.getElem?_append_left bound]
          exact answer

/-- From a readable stream on, the next call does not answer `Ok(0)`. -/
theorem recvInto_after_readable {b : Backend} {s t : Tcp.Conn} {events : List Tcp.Action}
    (ready : s.sock.queued ≠ [] ∨ s.sock.closed = true)
    (run : (Tcp.stream b).runFrom s events = some t) {c : Tcp.Call}
    (answer : t.calls[s.calls.length]? = some c) : c.result ≠ .ok 0 := by
  have step : ∀ u a v, ArmedConn s.calls.length u → (Tcp.stream b).step u a = some v →
      ArmedConn s.calls.length v := by
    intro u a v before taken
    exact armedConn_step before (Tcp.step_of_step taken)
  have armed : ArmedConn s.calls.length t :=
    System.runFrom_preserves step (.waiting rfl ready) run
  have bound : s.calls.length < t.calls.length := (List.getElem?_eq_some_iff.mp answer).1
  cases armed with
  | waiting count => omega
  | called other honest =>
      rw [answer, Option.some.injEq] at other
      exact other ▸ honest

end Transports.Readiness
