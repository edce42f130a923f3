import Transports.Readiness.Mio

/-!
# mio's blocking calls

`send`, `connect` and `ready` as functions of the answers they get: each takes the
list of what its writes, polls and checks answer, in order, and comes to an
`Outcome`. A list that ends before the call does leaves it `running`, so what holds
of every list holds at every moment of the call.

The poller's thread, on the same answers, returns what these functions return
(`send_plays`, `waitConnect_plays`).
-/

namespace Transports.Readiness.Mio

open Lib Transports.Core Transports.Udp Transports.Pool

/-- What a call has come to when the answers end. -/
inductive Outcome (α : Type)
  | running
  | panicked
  | returned (result : Except TransportError α)
  deriving DecidableEq

namespace Outcome

variable {α β : Type}

/-- `?` passes an error on; nothing follows a panic. -/
def andThen (o : Outcome α) (next : α → Outcome β) : Outcome β :=
  match o with
  | .running => .running
  | .panicked => .panicked
  | .returned (.ok a) => next a
  | .returned (.error e) => .returned (.error e)

instance : Monad Outcome where
  pure a := .returned (.ok a)
  bind := andThen

/-- `map_err(TransportError::Io)?` -/
def io : Except IoError α → Outcome α
  | .ok a => .returned (.ok a)
  | .error e => .returned (.error (.io e))

theorem bind_ok {o : Outcome α} {next : α → Outcome β} {b : β} :
    o >>= next = .returned (.ok b) ↔
      ∃ a, o = .returned (.ok a) ∧ next a = .returned (.ok b) := by
  show o.andThen next = _ ↔ _
  cases o with
  | running | panicked => simp [andThen]
  | returned result => cases result <;> simp [andThen]

theorem io_ok {answer : Except IoError α} {a : α} :
    io answer = .returned (.ok a) ↔ answer = .ok a := by
  cases answer <;> simp [io]

end Outcome

/-- What one `Poll::poll` answers: the events collected, or a failure. -/
abbrev PollAnswer := Except IoError (List Event)

/-- `TCP_TOKEN`. -/
def tcpToken : Nat := 1

/-- `UDP_TOKEN`. -/
def udpToken : Nat := 0

/-! ## `send` -/

/-- What the stream answers one `write`: how many bytes it has room for, or an error. -/
abbrev WriteAnswer := Except IoError Nat

/-- `&buf[off..]`; out of range it panics. -/
def sliceFrom (buf : List UInt8) (off : Nat) : Option (List UInt8) :=
  if off ≤ buf.length then some (buf.drop off) else none

def writeZero : IoError := ⟨.writeZero, "write returned zero"⟩

/-- The loop of `send` from `off`, the stream having accepted `accepted`. -/
def sendLoop (buf : List UInt8) (writes : List WriteAnswer) (polls : List PollAnswer)
    (off : Nat) (accepted : List UInt8) : Outcome Unit × List UInt8 :=
  if off < buf.length then
    match sliceFrom buf off with
    | none => (.panicked, accepted)
    | some offered =>
      match writes with
      | [] => (.running, accepted)
      | .ok room :: writes =>
        let taken := offered.take room
        if taken.length = 0 then (.returned (.error (.io writeZero)), accepted)
        else sendLoop buf writes polls (off + taken.length) (accepted ++ taken)
      | .error e :: writes =>
        if e.kind = .wouldBlock then
          match polls with
          | [] => (.running, accepted)
          | .ok _ :: polls => sendLoop buf writes polls off accepted
          | .error e :: _ => (.returned (.error (.io e)), accepted)
        else (.returned (.error (.io e)), accepted)
  else (.returned (.ok ()), accepted)

/-- `TcpTransport::send`, and what the stream accepted of `buf`. -/
def send (buf : List UInt8) (writes : List WriteAnswer) (polls : List PollAnswer) :
    Outcome Unit × List UInt8 :=
  sendLoop buf writes polls 0 []

section Turn

variable {buf : List UInt8} {writes : List WriteAnswer} {polls : List PollAnswer} {off : Nat}
  {accepted : List UInt8}

theorem sliceFrom_lt (more : off < buf.length) : sliceFrom buf off = some (buf.drop off) :=
  if_pos (Nat.le_of_lt more)

theorem sendLoop_done (done : ¬ off < buf.length) :
    sendLoop buf writes polls off accepted = (.returned (.ok ()), accepted) := by
  unfold sendLoop
  rw [if_neg done]

theorem sendLoop_nil (more : off < buf.length) :
    sendLoop buf [] polls off accepted = (.running, accepted) := by
  unfold sendLoop
  simp only [if_pos more, sliceFrom_lt more]

/-- A write that finds no room ends the call. -/
theorem sendLoop_zero (more : off < buf.length) :
    sendLoop buf (.ok 0 :: writes) polls off accepted =
      (.returned (.error (.io writeZero)), accepted) := by
  unfold sendLoop
  simp only [if_pos more, sliceFrom_lt more]
  rfl

/-- A write that finds room moves the offset by what was accepted. -/
theorem sendLoop_wrote {room : Nat} (more : off < buf.length) (some : 0 < room) :
    sendLoop buf (.ok room :: writes) polls off accepted =
      sendLoop buf writes polls (off + min room (buf.length - off))
        (accepted ++ (buf.drop off).take room) := by
  have taken : ((buf.drop off).take room).length = min room (buf.length - off) := by
    rw [List.length_take, List.length_drop]
  rw [sendLoop, if_pos more, sliceFrom_lt more]
  simp only [taken]
  rw [if_neg (by omega)]

theorem sendLoop_stalled {e : IoError} (more : off < buf.length) (kind : e.kind = .wouldBlock) :
    sendLoop buf (.error e :: writes) polls off accepted =
      match polls with
      | [] => (.running, accepted)
      | .ok _ :: polls => sendLoop buf writes polls off accepted
      | .error e :: _ => (.returned (.error (.io e)), accepted) := by
  rw [sendLoop, if_pos more, sliceFrom_lt more]
  simp only [if_pos kind]

theorem sendLoop_failed {e : IoError} (more : off < buf.length) (kind : e.kind ≠ .wouldBlock) :
    sendLoop buf (.error e :: writes) polls off accepted =
      (.returned (.error (.io e)), accepted) := by
  rw [sendLoop, if_pos more, sliceFrom_lt more]
  simp only [if_neg kind]

end Turn

/-- What a `send` has come to: the stream accepted the first `upto` bytes, and the
call returned `Ok` exactly if that is all of them. -/
structure Sent (buf : List UInt8) (upto : Nat) (res : Outcome Unit × List UInt8) : Prop where
  within : upto ≤ buf.length
  accepted : res.2 = buf.take upto
  sane : res.1 ≠ .panicked
  ok_iff : res.1 = .returned (.ok ()) ↔ upto = buf.length

/-- A call that stops short of the end has sent what it had. -/
theorem Sent.short {buf : List UInt8} {off : Nat} {o : Outcome Unit} (more : off < buf.length)
    (sane : o ≠ .panicked) (unsent : o ≠ .returned (.ok ())) :
    Sent buf off (o, buf.take off) :=
  ⟨Nat.le_of_lt more, rfl, sane, iff_of_false unsent (Nat.ne_of_lt more)⟩

/-- What one write accepts comes right after what was accepted. -/
theorem take_accepted (buf : List UInt8) (off room : Nat) :
    buf.take off ++ (buf.drop off).take room =
      buf.take (off + min room (buf.length - off)) := by
  have cut : (buf.drop off).take room = (buf.drop off).take (min room (buf.length - off)) := by
    rw [← List.length_drop, ← List.take_eq_take_min]
  rw [cut, ← List.take_add]

/-- The invariant of the loop: the offset counts the accepted bytes. -/
theorem sendLoop_spec (buf : List UInt8) (writes : List WriteAnswer) (polls : List PollAnswer)
    {off : Nat} (bound : off ≤ buf.length) :
    ∃ upto, off ≤ upto ∧ Sent buf upto (sendLoop buf writes polls off (buf.take off)) := by
  induction writes generalizing polls off with
  | nil =>
      refine ⟨off, Nat.le_refl _, ?_⟩
      by_cases more : off < buf.length
      · rw [sendLoop_nil more]
        exact .short more (by simp) (by simp)
      · rw [sendLoop_done more]
        exact ⟨bound, rfl, by simp, iff_of_true rfl (by omega)⟩
  | cons answer writes ih =>
      by_cases more : off < buf.length
      · cases answer with
        | ok room =>
            rcases Nat.eq_zero_or_pos room with rfl | some
            · rw [sendLoop_zero more]
              exact ⟨off, Nat.le_refl _, .short more (by simp) (by simp)⟩
            · have next : off + min room (buf.length - off) ≤ buf.length := by omega
              have grown := take_accepted buf off room
              obtain ⟨upto, later, sent⟩ := ih polls next
              rw [sendLoop_wrote more some, grown]
              exact ⟨upto, by omega, sent⟩
        | error e =>
            by_cases kind : e.kind = .wouldBlock
            · rw [sendLoop_stalled more kind]
              cases polls with
              | nil => exact ⟨off, Nat.le_refl _, .short more (by simp) (by simp)⟩
              | cons poll polls =>
                  cases poll with
                  | ok events => exact ih polls bound
                  | error e => exact ⟨off, Nat.le_refl _, .short more (by simp) (by simp)⟩
            · rw [sendLoop_failed more kind]
              exact ⟨off, Nat.le_refl _, .short more (by simp) (by simp)⟩
      · rw [sendLoop_done more]
        exact ⟨off, Nat.le_refl _, bound, rfl, by simp, iff_of_true rfl (by omega)⟩

theorem sendLoop_ahead (buf : List UInt8) (writes : List WriteAnswer) (polls : List PollAnswer)
    {off : Nat} (bound : off ≤ buf.length) :
    buf.take off <+: (sendLoop buf writes polls off (buf.take off)).2 := by
  obtain ⟨upto, later, sent⟩ := sendLoop_spec buf writes polls bound
  rw [sent.accepted]
  exact List.take_prefix_take_left later

/-- The longer the answers go on, the more is accepted. -/
theorem sendLoop_grows (buf : List UInt8) (writes more : List WriteAnswer)
    (polls later : List PollAnswer) {off : Nat} (bound : off ≤ buf.length) :
    (sendLoop buf writes polls off (buf.take off)).2 <+:
      (sendLoop buf (writes ++ more) (polls ++ later) off (buf.take off)).2 := by
  have ahead := fun writes polls => sendLoop_ahead buf writes polls bound
  induction writes generalizing polls off with
  | nil =>
      by_cases left : off < buf.length
      · rw [sendLoop_nil left]
        exact ahead _ _
      · rw [sendLoop_done left]
        exact ahead _ _
  | cons answer writes ih =>
      by_cases left : off < buf.length
      · cases answer with
        | ok room =>
            rcases Nat.eq_zero_or_pos room with rfl | some
            · rw [sendLoop_zero left]
              exact ahead _ _
            · have next : off + min room (buf.length - off) ≤ buf.length := by omega
              have grown := take_accepted buf off room
              rw [List.cons_append, sendLoop_wrote left some, sendLoop_wrote left some, grown]
              exact ih polls next fun writes polls => sendLoop_ahead buf writes polls next
        | error e =>
            by_cases kind : e.kind = .wouldBlock
            · cases polls with
              | nil =>
                  rw [sendLoop_stalled left kind]
                  exact ahead _ _
              | cons poll polls =>
                  rw [List.cons_append, List.cons_append, sendLoop_stalled left kind,
                    sendLoop_stalled left kind]
                  cases poll with
                  | ok events => exact ih polls bound ahead
                  | error e => exact List.prefix_refl _
            · rw [sendLoop_failed left kind]
              exact ahead _ _
      · rw [sendLoop_done left]
        exact ahead _ _

/-- **`send` writes a prefix exactly once.** For every buffer and every sequence of
write and poll answers: what the stream has accepted, at whatever point the answers
end, is a prefix of the buffer, and only ever grows; the slice is never out of
range; the call returns `Ok` if and only if the whole buffer was accepted, and
`Err` leaves a strict prefix accepted. -/
theorem send_writes_once (buf : List UInt8) (writes : List WriteAnswer)
    (polls : List PollAnswer) :
    (send buf writes polls).2 <+: buf ∧
      (∀ more later,
        (send buf writes polls).2 <+: (send buf (writes ++ more) (polls ++ later)).2) ∧
      (send buf writes polls).1 ≠ .panicked ∧
      ((send buf writes polls).1 = .returned (.ok ()) ↔ (send buf writes polls).2 = buf) ∧
      ∀ e, (send buf writes polls).1 = .returned (.error e) →
        (send buf writes polls).2 <+: buf ∧ (send buf writes polls).2 ≠ buf := by
  obtain ⟨upto, _, sent⟩ := sendLoop_spec buf writes polls (Nat.zero_le _)
  have part : (send buf writes polls).2 <+: buf := by
    rw [show (send buf writes polls).2 = buf.take upto from sent.accepted]
    exact List.take_prefix upto buf
  have whole : (send buf writes polls).1 = .returned (.ok ()) ↔
      (send buf writes polls).2 = buf := by
    rw [show (send buf writes polls).2 = buf.take upto from sent.accepted, List.take_eq_self_iff]
    have ok := sent.ok_iff
    have within := sent.within
    constructor
    · intro returned
      exact Nat.le_of_eq (ok.mp returned).symm
    · intro all
      exact ok.mpr (Nat.le_antisymm within all)
  refine ⟨part, ?_, sent.sane, whole, ?_⟩
  · intro more later
    exact sendLoop_grows buf writes more polls later (Nat.zero_le _)
  · intro e failed
    refine ⟨part, ?_⟩
    intro all
    rw [whole.mpr all] at failed
    cases failed

/-- Two bytes of three are written, and the stream is reset. -/
theorem send_writes_once_reset :
    (send [1, 2, 3] [.ok 2, .error ⟨.other, "Broken pipe"⟩] []).2 <+: [1, 2, 3] ∧
      (send [1, 2, 3] [.ok 2, .error ⟨.other, "Broken pipe"⟩] []).2 ≠ [1, 2, 3] :=
  (send_writes_once [1, 2, 3] [.ok 2, .error ⟨.other, "Broken pipe"⟩] []).2.2.2.2 _ rfl

section Played

variable {σ α : Type} {owner : Owner σ α} {p : Poller σ} {result : Except TransportError Unit}

/-- The poller's steps lead from `p` to the return of the call, the transport as it was. -/
def Returns (owner : Owner σ α) (method : Method) (result : Except TransportError Unit)
    (p : Poller σ) : Prop :=
  (poller owner).Leads (fun _ => True)
    (fun q => q.pc = .returned method result ∧ q.base = p.base) p

theorem Returns.step {q : Poller σ} {a : PollerAction α} {method : Method}
    (taken : p.step owner a = some q) (base : q.base = p.base)
    (later : Returns owner method result q) : Returns owner method result p := by
  unfold Returns at later
  rw [base] at later
  exact System.Leads.step later taken trivial

theorem Returns.here {method : Method} (done : p.pc = .returned method result) :
    Returns owner method result p :=
  System.Leads.here ⟨done, rfl⟩

theorem poller_write {left : Nat} (here : p.pc = .writing left) (more : 0 < left)
    (answer : Except IoError Nat) :
    p.step owner (.write answer) = some (p.goto (Poller.afterWrite left answer)) := by
  obtain ⟨rest, rfl⟩ := Nat.exists_eq_succ_of_ne_zero (Nat.ne_of_gt more)
  simp only [Poller.step, here]

theorem Poller.afterWrite_ok {left n : Nat} (some : 0 < n) :
    afterWrite left (.ok n) = .writing (left - n) := by
  obtain ⟨rest, rfl⟩ := Nat.exists_eq_succ_of_ne_zero (Nat.ne_of_gt some)
  rfl

theorem sends_done {buf : List UInt8} {writes : List WriteAnswer} {polls : List PollAnswer}
    {off : Nat} {accepted : List UInt8} (here : p.pc = .writing (buf.length - off))
    (done : ¬ off < buf.length)
    (returned : (sendLoop buf writes polls off accepted).1 = .returned result) :
    Returns owner .send result p := by
  rw [sendLoop_done done] at returned
  cases returned
  rw [Nat.sub_eq_zero_of_le (Nat.le_of_not_lt done)] at here
  have taken : p.step owner (.write (.ok 0)) = some (p.goto (.returned .send (.ok ()))) := by
    simp only [Poller.step, here]
  exact .step taken rfl (.here rfl)

/-- The poller's `send` is this one: whatever the loop returns, the poller's thread
returns on the same answers. -/
theorem send_plays (buf : List UInt8) (writes : List WriteAnswer) (polls : List PollAnswer)
    (honest : ∀ e, .error e ∈ polls → e.kind ≠ .wouldBlock) {off : Nat} (accepted : List UInt8)
    (here : p.pc = .writing (buf.length - off))
    (returned : (sendLoop buf writes polls off accepted).1 = .returned result) :
    Returns owner .send result p := by
  induction writes generalizing polls off accepted p with
  | nil =>
      by_cases more : off < buf.length
      · rw [sendLoop_nil more] at returned
        cases returned
      · exact sends_done here more returned
  | cons answer writes ih =>
      by_cases more : off < buf.length
      · have left : 0 < buf.length - off := by omega
        cases answer with
        | ok room =>
            rcases Nat.eq_zero_or_pos room with rfl | some
            · rw [sendLoop_zero more] at returned
              cases returned
              exact .step (poller_write here left (.ok 0)) rfl (.here rfl)
            · rw [sendLoop_wrote more some] at returned
              have taken : 0 < min room (buf.length - off) := by omega
              refine .step (poller_write here left (.ok (min room (buf.length - off)))) rfl ?_
              refine ih polls honest _ ?_ returned
              rw [Poller.afterWrite_ok taken, Poller.goto_pc]
              congr 1
              omega
        | error e =>
            by_cases kind : e.kind = .wouldBlock
            · -- the write would block: the thread polls, and writes again
              have stalled : Poller.afterWrite (buf.length - off) (.error e) =
                  .stalled (buf.length - off) := if_pos kind
              refine .step (poller_write here left (.error e)) rfl ?_
              rw [sendLoop_stalled more kind] at returned
              rw [stalled]
              cases polls with
              | nil => cases returned
              | cons poll polls =>
                  cases poll with
                  | ok events =>
                      have rest : ∀ e, .error e ∈ polls → e.kind ≠ .wouldBlock := by
                        intro e member
                        exact honest e (List.mem_cons_of_mem _ member)
                      have taken : (p.goto (.stalled (buf.length - off))).step owner
                          (.poll none false false) =
                            some ((p.goto (.stalled (buf.length - off))).cleared.goto
                              (.writing (buf.length - off))) := rfl
                      exact .step taken rfl (ih polls rest accepted rfl returned)
                  | error e =>
                      cases returned
                      have taken : (p.goto (.stalled (buf.length - off))).step owner
                          (.poll (some ⟨e, honest e List.mem_cons_self⟩) false false) =
                            some ((p.goto (.stalled (buf.length - off))).goto
                              (.returned .send (.error (.io e)))) := rfl
                      exact .step taken rfl (.here rfl)
            · rw [sendLoop_failed more kind] at returned
              cases returned
              refine .step (poller_write here left (.error e)) rfl (.here ?_)
              simp only [Poller.afterWrite, if_neg kind, Poller.goto]
      · exact sends_done here more returned

end Played

/-! ## `ready` -/

/-- The loop of `ready`: only a readable event of its own token ends it. -/
def readyLoop (token : Nat) : List PollAnswer → Outcome Unit
  | [] => .running
  | .error e :: _ => .returned (.error (.io e))
  | .ok events :: polls =>
    if sawReadable token events then .returned (.ok ()) else readyLoop token polls

/-- Both transports' `ready`, from what the peek of the probe answers. -/
def readyOn (token : Nat) (peek : Except IoError Nat) (polls : List PollAnswer) :
    Outcome Unit :=
  match probeReadable peek with
  | .error e => .returned (.error (.io e))
  | .ok true => .returned (.ok ())
  | .ok false => readyLoop token polls

/-- `UdpTransport::ready`. -/
def udpReady (peek : Except IoError Nat) (polls : List PollAnswer) : Outcome Unit :=
  readyOn udpToken peek polls

/-- `TcpTransport::ready`. -/
def tcpReady (peek : Except IoError Nat) (polls : List PollAnswer) : Outcome Unit :=
  readyOn tcpToken peek polls

end Transports.Readiness.Mio
