import Transports.Facade.Transport

/-!
# What goes out

A datagram goes out whole or not at all, and a buffer on a stream as far as the stream takes
it. Over a run, a UDP node's wire holds the datagrams of the sends that returned `Ok`, and
what a TCP node's stream holds is one prefix for each buffer, the whole of it exactly when
its send returned `Ok`.
-/

namespace Transports.Facade

open Lib Transports.Core Transports.Pool Transports.Udp
open Transports.Readiness.Mio (Outcome WriteAnswer PollAnswer sendLoop sendLoop_nil sendLoop_done
  sendLoop_zero sendLoop_wrote sendLoop_stalled sendLoop_failed sendLoop_spec)

/-- A call that fails does so with an error of the kernel. -/
def FailsByIo {α : Type} (o : Outcome α) : Prop :=
  ∀ e, o = .returned (.error e) → ∃ io, e = .io io

theorem failsByIo_running {α : Type} : FailsByIo (.running : Outcome α) := by
  intro e failed
  cases failed

theorem failsByIo_ok {α : Type} (a : α) : FailsByIo (.returned (.ok a)) := by
  intro e failed
  cases failed

theorem failsByIo_io {α : Type} (io : IoError) :
    FailsByIo (.returned (.error (.io io)) : Outcome α) := by
  intro e failed
  cases failed
  exact ⟨io, rfl⟩

/-! ## One datagram -/

theorem sendDatagram_eq (b : Backend) (d : Outgoing) (answers : SendAnswers)
    (wire : List Outgoing) :
    sendDatagram b d answers wire = awaitSent d (answers.tries.find? decisive) wire :=
  sendOut_eq b d answers.tries wire

/-- The call returned `Ok`. -/
def returnedOk : Outcome Unit → Bool
  | .returned (.ok _) => true
  | _ => false

/-- A datagram is on the wire exactly if its send returned `Ok`. -/
theorem sendDatagram_whole (b : Backend) (d : Outgoing) (answers : SendAnswers)
    (wire : List Outgoing) :
    (sendDatagram b d answers wire).2 =
        wire ++ (if returnedOk (void (sendDatagram b d answers wire).1) then [d] else []) ∧
      FailsByIo (void (sendDatagram b d answers wire).1) := by
  rw [sendDatagram_eq]
  rcases answers.tries.find? decisive with _ | answer
  · exact ⟨(List.append_nil wire).symm, failsByIo_running⟩
  · cases answer with
    | ok n => exact ⟨rfl, failsByIo_ok ()⟩
    | error io => exact ⟨(List.append_nil wire).symm, failsByIo_io io⟩

/-! ## One buffer on a stream -/

/-- What a stream took of a buffer, next to what the call has come to. -/
def Taken (call : List UInt8 × Outcome Unit) (part : List UInt8) : Prop :=
  part <+: call.1 ∧ (call.2 = .returned (.ok ()) ↔ part = call.1)

/-- After `before` the stream took a prefix of the buffer. -/
structure SentPart (buf before : List UInt8) (res : Outcome Unit × List UInt8) : Prop where
  part : ∃ part, res.2 = before ++ part ∧ Taken (buf, res.1) part
  error : FailsByIo res.1

/-- The call stops before a buffer that is not empty. -/
theorem SentPart.none {buf before : List UInt8} {o : Outcome Unit} (more : buf ≠ [])
    (unsent : o ≠ .returned (.ok ())) (error : FailsByIo o) : SentPart buf before (o, before) :=
  ⟨⟨[], (List.append_nil before).symm, List.nil_prefix, iff_of_false unsent more.symm⟩, error⟩

theorem SentPart.nil (before : List UInt8) : SentPart [] before (.returned (.ok ()), before) :=
  ⟨⟨[], (List.append_nil before).symm, List.nil_prefix, iff_of_true rfl rfl⟩, failsByIo_ok ()⟩

/-- A chunk is taken, and what follows it as far as it is. -/
theorem SentPart.chunk {buf before : List UInt8} {room : Nat} {res : Outcome Unit × List UInt8}
    (later : SentPart (buf.drop room) (before ++ buf.take room) res) :
    SentPart buf before res := by
  obtain ⟨⟨part, left, first, ok⟩, error⟩ := later
  refine ⟨⟨buf.take room ++ part, ?_, ?_, ?_⟩, error⟩
  · rw [left, List.append_assoc]
  · have joined := (List.prefix_append_right_inj (buf.take room)).mpr first
    rwa [List.take_append_drop] at joined
  · rw [ok]
    constructor
    · intro whole
      rw [show part = buf.drop room from whole, List.take_append_drop]
    · intro whole
      have again : buf.take room ++ part = buf.take room ++ buf.drop room :=
        whole.trans (List.take_append_drop room buf).symm
      exact List.append_cancel_left again

theorem writeAll_sent (buf : List UInt8) (writes : List WriteAnswer) (before : List UInt8) :
    SentPart buf before (writeAll buf writes before) := by
  induction writes generalizing buf before with
  | nil =>
      unfold writeAll
      split
      case isTrue done =>
          rw [done]
          exact .nil before
      case isFalse more => exact .none more (by simp) failsByIo_running
  | cons answer writes ih =>
      unfold writeAll
      split
      case isTrue done =>
          rw [done]
          exact .nil before
      case isFalse more =>
          cases answer with
          | ok room =>
              dsimp only
              split
              · exact .none more (by simp) (failsByIo_io _)
              · exact .chunk (ih _ _)
          | error e =>
              dsimp only
              split
              · exact ih _ _
              · exact .none more (by simp) (failsByIo_io _)

theorem sendLoop_failsByIo (buf : List UInt8) (writes : List WriteAnswer)
    (polls : List PollAnswer) (off : Nat) (accepted : List UInt8) :
    FailsByIo (sendLoop buf writes polls off accepted).1 := by
  induction writes generalizing polls off accepted with
  | nil =>
      by_cases more : off < buf.length
      · rw [sendLoop_nil more]
        exact failsByIo_running
      · rw [sendLoop_done more]
        exact failsByIo_ok ()
  | cons answer writes ih =>
      by_cases more : off < buf.length
      · cases answer with
        | ok room =>
            rcases Nat.eq_zero_or_pos room with rfl | some
            · rw [sendLoop_zero more]
              exact failsByIo_io _
            · rw [sendLoop_wrote more some]
              exact ih _ _ _
        | error e =>
            by_cases kind : e.kind = .wouldBlock
            · rw [sendLoop_stalled more kind]
              rcases polls with _ | ⟨poll, polls⟩
              · exact failsByIo_running
              · cases poll with
                | ok events => exact ih _ _ _
                | error e => exact failsByIo_io _
            · rw [sendLoop_failed more kind]
              exact failsByIo_io _
      · rw [sendLoop_done more]
        exact failsByIo_ok ()

theorem sendStream_sent (b : Backend) (buf : List UInt8) (answers : SendAnswers) :
    SentPart buf [] (sendStream b buf answers) := by
  cases b with
  | tokio => exact writeAll_sent buf answers.writes []
  | mio =>
      obtain ⟨upto, _, sent⟩ := sendLoop_spec buf answers.writes answers.polls (Nat.zero_le _)
      refine ⟨⟨buf.take upto, sent.accepted, List.take_prefix upto buf, ?_⟩,
        sendLoop_failsByIo _ _ _ _ _⟩
      have within := sent.within
      rw [sendStream, List.take_eq_self_iff]
      exact sent.ok_iff.trans (by omega)

/-! ## Over a run -/

/-- The datagram of a send that returned `Ok`. -/
def Reply.gone : Reply → Option Outgoing
  | .sent d outcome => if returnedOk outcome then some d else none
  | _ => none

/-- The buffer of a `send`, and what the call came to. -/
def Reply.offered : Reply → Option (List UInt8 × Outcome Unit)
  | .sent ⟨buf, none⟩ outcome => some (buf, outcome)
  | _ => none

theorem Refusal.unsent {b : Backend} {shape : Shape} {reply : Reply}
    (refusal : Refusal b shape reply) : reply.gone = none ∧ reply.offered = none := by
  cases refusal <;> exact ⟨rfl, rfl⟩

/-- What went out from `start` to `after` with these replies, by shape. -/
def WentOut (shape : Shape) (start after : Outbound) (replies : List Reply) : Prop :=
  match shape with
  | .datagram => after.bytes = start.bytes ∧
      after.datagrams = start.datagrams ++ replies.filterMap Reply.gone
  | .stream => after.datagrams = start.datagrams ∧
      ∃ parts, List.Forall₂ Taken (replies.filterMap Reply.offered) parts ∧
        after.bytes = start.bytes ++ parts.flatten

/-- Nothing goes out with a reply to anything but a send. -/
theorem WentOut.quiet {shape : Shape} {start after : Outbound} {replies : List Reply}
    {reply : Reply} (before : WentOut shape start after replies) (gone : reply.gone = none)
    (offered : reply.offered = none) : WentOut shape start after (replies ++ [reply]) := by
  cases shape with
  | datagram =>
      obtain ⟨bytes, datagrams⟩ := before
      refine ⟨bytes, ?_⟩
      rw [List.filterMap_append, datagrams]
      simp [gone]
  | stream =>
      obtain ⟨datagrams, parts, taken, bytes⟩ := before
      refine ⟨datagrams, parts, ?_, bytes⟩
      rw [List.filterMap_append]
      simpa [offered] using taken

/-- A datagram more, or a failure. -/
theorem WentOut.datagram {b : Backend} {start out : Outbound} {replies : List Reply}
    (before : WentOut .datagram start out replies) (d : Outgoing) (answers : SendAnswers) :
    WentOut .datagram start { out with datagrams := (sendDatagram b d answers out.datagrams).2 }
      (replies ++ [.sent d (void (sendDatagram b d answers out.datagrams).1)]) := by
  obtain ⟨bytes, datagrams⟩ := before
  refine ⟨bytes, ?_⟩
  show (sendDatagram b d answers out.datagrams).2 = _
  rw [(sendDatagram_whole b d answers out.datagrams).1, List.filterMap_append, datagrams,
    List.append_assoc]
  congr 2
  simp only [List.filterMap_cons, Reply.gone, List.filterMap_nil]
  cases returnedOk _ <;> rfl

/-- A prefix more. -/
theorem WentOut.stream {b : Backend} {start out : Outbound} {replies : List Reply}
    (before : WentOut .stream start out replies) (buf : List UInt8) (answers : SendAnswers) :
    WentOut .stream start { out with bytes := out.bytes ++ (sendStream b buf answers).2 }
      (replies ++ [.sent ⟨buf, none⟩ (sendStream b buf answers).1]) := by
  obtain ⟨datagrams, parts, taken, bytes⟩ := before
  obtain ⟨part, accepted, last⟩ := (sendStream_sent b buf answers).part
  refine ⟨datagrams, parts ++ [part], ?_, ?_⟩
  · rw [List.filterMap_append]
    exact List.rel_append taken (.cons last .nil)
  · show out.bytes ++ (sendStream b buf answers).2 = _
    rw [accepted, bytes, List.nil_append, List.flatten_append, List.append_assoc]
    simp

/-- What `start` has come to by `n`: more replies, and what went out with them. -/
def Accounts (start n : Node) : Prop :=
  n.transport.shape = start.transport.shape ∧ ∃ replies, n.log = start.log ++ replies ∧
    WentOut start.transport.shape start.out n.out replies

/-- A step that replies, and sends as the reply says. -/
theorem Accounts.reply {start n t : Node} {reply : Reply} (before : Accounts start n)
    (shape : t.transport.shape = n.transport.shape) (log : t.log = n.log ++ [reply])
    (out : ∀ replies, WentOut n.transport.shape start.out n.out replies →
      WentOut n.transport.shape start.out t.out (replies ++ [reply])) : Accounts start t := by
  obtain ⟨same, replies, logged, wentOut⟩ := before
  refine ⟨shape.trans same, replies ++ [reply], ?_, ?_⟩
  · rw [log, logged, List.append_assoc]
  · rw [← same]
    rw [← same] at wentOut
    exact out replies wentOut

/-- A step that replies to nothing. -/
theorem Accounts.silent {start n t : Node} (before : Accounts start n)
    (shape : t.transport.shape = n.transport.shape) (log : t.log = n.log) (out : t.out = n.out) :
    Accounts start t := by
  obtain ⟨same, replies, logged, wentOut⟩ := before
  refine ⟨shape.trans same, replies, log.trans logged, ?_⟩
  rw [out]
  exact wentOut

theorem accounts_step {b : Backend} {start n t : Node} {e : Event} (before : Accounts start n)
    (h : Step b n e t) : Accounts start t := by
  have shape := h.shape
  cases h with
  | refused _ refusal =>
      obtain ⟨gone, offered⟩ := refusal.unsent
      exact before.reply rfl rfl fun replies sofar => sofar.quiet gone offered
  | burst | join | landing =>
      exact before.reply shape rfl fun replies sofar => sofar.quiet rfl rfl
  | @datagram u e d answers here call =>
      refine before.reply rfl rfl fun replies sofar => ?_
      rw [here] at sofar ⊢
      exact sofar.datagram d answers
  | stream buf answers here =>
      refine before.reply rfl rfl fun replies sofar => ?_
      rw [here] at sofar ⊢
      exact sofar.stream buf answers
  | drain | drop | arrive | write | close => exact before.silent shape rfl rfl

/-- What a run comes to. -/
theorem accounts_run {b : Backend} {start t : Node} {events : List Event}
    (run : (node b start).runFrom start events = some t) : Accounts start t := by
  have fresh : Accounts start start := by
    refine ⟨rfl, [], (List.append_nil _).symm, ?_⟩
    cases start.transport.shape with
    | datagram => exact ⟨rfl, (List.append_nil _).symm⟩
    | stream => exact ⟨rfl, [], .nil, (List.append_nil _).symm⟩
  have step : ∀ u e v, Accounts start u → (node b start).step u e = some v → Accounts start v :=
    fun u e v before taken => accounts_step before (step_of_step taken)
  exact System.runFrom_preserves step fresh run

/-- **What goes out.** For every run of either backend's transport, whatever the socket
answers: a UDP transport put on the wire the datagrams whose `send` or `send_to` returned
`Ok`, each once and in order, and nothing else; a TCP transport put on its stream, for each
`send` in order, a prefix of the buffer, which is the whole of it exactly if the call
returned `Ok`. -/
theorem sends_accounted (b : Backend) {start t : Node} {events : List Event}
    (run : (node b start).runFrom start events = some t) :
    ∃ replies, t.log = start.log ++ replies ∧
      WentOut start.transport.shape start.out t.out replies :=
  (accounts_run run).2

theorem sends_accounted_both :
    ∃ replies, (afterBoth .mio).log = oneWaiting.log ++ replies ∧
      WentOut .datagram ⟨[], []⟩ (afterBoth .mio).out replies :=
  sends_accounted .mio (afterBoth_run .mio)

end Transports.Facade
