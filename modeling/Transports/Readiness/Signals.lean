import Transports.Readiness.Connect

/-!
# Signals and the blocking calls

A signal makes a `Poll::poll` in progress fail with `Interrupted`. None of mio's
blocking calls tries again: the failure goes out through `?`. So a signal is
harmless exactly to a call that never polls. `wait_connect` always does; `ready` does
unless its probe finds something; `send` does once a write would block, and then
with part of the buffer gone.
-/

namespace Transports.Readiness.Mio

open Transports.Core

/-- `more` is the list with elements of one kind inserted anywhere. -/
inductive Inserted {α : Type} (extra : α → Prop) : List α → List α → Prop
  | nil : Inserted extra [] []
  | keep {a list more} : Inserted extra list more → Inserted extra (a :: list) (a :: more)
  | insert {a list more} : extra a → Inserted extra list more → Inserted extra list (a :: more)

theorem Inserted.refl {α : Type} (extra : α → Prop) (list : List α) :
    Inserted extra list list := by
  induction list with
  | nil => exact .nil
  | cons a rest ih => exact .keep ih

/-- `poll` was cut off by a signal. -/
def Interrupted (answer : PollAnswer) : Prop :=
  ∃ e : IoError, answer = .error e ∧ e.kind = .interrupted

/-- Some interruption tells itself from whatever a call returned. -/
theorem exists_interrupted {α : Type} (outcome : Outcome α) :
    ∃ e : IoError, e.kind = .interrupted ∧ outcome ≠ .returned (.error (.io e)) := by
  by_cases same : outcome = .returned (.error (.io ⟨.interrupted, "Interrupted system call"⟩))
  · refine ⟨⟨.interrupted, ""⟩, rfl, ?_⟩
    rw [same]
    simp
  · exact ⟨⟨.interrupted, "Interrupted system call"⟩, rfl, same⟩

/-! ## `send` -/

/-- With `left` bytes to go, a write would block before all are accepted: the writes
before it find room, together for less than what is left. -/
def Stalls (left : Nat) (writes : List WriteAnswer) : Prop :=
  ∃ (rooms : List Nat) (e : IoError) (rest : List WriteAnswer),
    writes = rooms.map .ok ++ .error e :: rest ∧ e.kind = .wouldBlock ∧
      (∀ room ∈ rooms, 0 < room) ∧ rooms.sum < left

theorem Stalls.wrote {left room : Nat} {writes : List WriteAnswer}
    (stalls : Stalls (left - room) writes) (some : 0 < room) :
    Stalls left (.ok room :: writes) := by
  obtain ⟨rooms, e, rest, rfl, kind, positive, within⟩ := stalls
  refine ⟨room :: rooms, e, rest, rfl, kind, ?_, ?_⟩
  · intro other member
    rcases List.mem_cons.mp member with rfl | later
    · exact some
    · exact positive other later
  · rw [List.sum_cons]
    omega

/-- A `send` that does not stall never looks at its polls. -/
theorem sendLoop_unpolled {buf : List UInt8} {writes : List WriteAnswer} {off : Nat}
    (free : ¬ Stalls (buf.length - off) writes) (accepted : List UInt8)
    (polls polls' : List PollAnswer) :
    sendLoop buf writes polls off accepted = sendLoop buf writes polls' off accepted := by
  induction writes generalizing off accepted with
  | nil =>
      by_cases more : off < buf.length
      · rw [sendLoop_nil more, sendLoop_nil more]
      · rw [sendLoop_done more, sendLoop_done more]
  | cons answer writes ih =>
      by_cases more : off < buf.length
      · cases answer with
        | ok room =>
            rcases Nat.eq_zero_or_pos room with rfl | some
            · rw [sendLoop_zero more, sendLoop_zero more]
            · rw [sendLoop_wrote more some, sendLoop_wrote more some]
              apply ih
              intro later
              apply free
              refine Stalls.wrote ?_ some
              have left : buf.length - (off + min room (buf.length - off)) =
                  buf.length - off - room := by omega
              rw [← left]
              exact later
        | error e =>
            by_cases kind : e.kind = .wouldBlock
            · refine absurd ⟨[], e, writes, rfl, kind, ?_, ?_⟩ free
              · intro room member
                cases member
              · rw [List.sum_nil]
                omega
            · rw [sendLoop_failed more kind, sendLoop_failed more kind]
      · rw [sendLoop_done more, sendLoop_done more]

/-- A `send` that stalls returns what its first poll fails with. -/
theorem sendLoop_interrupted {buf : List UInt8} {writes : List WriteAnswer} {off : Nat}
    (stalls : Stalls (buf.length - off) writes) (accepted : List UInt8) (e : IoError)
    (polls : List PollAnswer) :
    (sendLoop buf writes (.error e :: polls) off accepted).1 = .returned (.error (.io e)) := by
  obtain ⟨rooms, cause, rest, rfl, kind, positive, within⟩ := stalls
  induction rooms generalizing off accepted with
  | nil =>
      rw [List.sum_nil] at within
      rw [List.map_nil, List.nil_append, sendLoop_stalled (by omega) kind]
  | cons room rooms ih =>
      rw [List.sum_cons] at within
      rw [List.map_cons, List.cons_append,
        sendLoop_wrote (by omega) (positive room List.mem_cons_self)]
      apply ih
      · intro other member
        exact positive other (List.mem_cons_of_mem _ member)
      · omega

theorem send_harmless_iff (buf : List UInt8) (writes : List WriteAnswer)
    (polls : List PollAnswer) :
    (∀ more, Inserted Interrupted polls more → send buf writes more = send buf writes polls) ↔
      ¬ Stalls buf.length writes := by
  constructor
  · intro harmless stalls
    obtain ⟨e, kind, other⟩ := exists_interrupted (send buf writes polls).1
    have same := harmless (.error e :: polls) (.insert ⟨e, rfl, kind⟩ (.refl _ polls))
    have cut : (send buf writes (.error e :: polls)).1 = .returned (.error (.io e)) :=
      sendLoop_interrupted stalls [] e polls
    rw [same] at cut
    exact other cut
  · intro free more _
    exact sendLoop_unpolled free [] more polls

/-! ## `ready` and `wait_connect` -/

theorem readyOn_harmless_iff (token : Nat) (peek : Except IoError Nat)
    (polls : List PollAnswer) :
    (∀ more, Inserted Interrupted polls more →
        readyOn token peek more = readyOn token peek polls) ↔
      probeReadable peek ≠ .ok false := by
  unfold readyOn
  cases probe : probeReadable peek with
  | error e => simp
  | ok ready =>
      cases ready with
      | true => simp
      | false =>
          -- parked: the first poll decides
          refine iff_of_false ?_ ?_
          · intro harmless
            obtain ⟨e, kind, other⟩ := exists_interrupted (readyLoop token polls)
            have same := harmless (.error e :: polls) (.insert ⟨e, rfl, kind⟩ (.refl _ polls))
            exact other same.symm
          · intro other
            exact other rfl

/-- The poll of the round was cut off by a signal. -/
def Round.Interrupted (round : Round) : Prop := Mio.Interrupted round.poll

theorem waitConnect_harmed (rounds : List Round) :
    ∃ more, Inserted Round.Interrupted rounds more ∧ waitConnect more ≠ waitConnect rounds := by
  obtain ⟨e, kind, other⟩ := exists_interrupted (waitConnect rounds)
  have cut : Round.Interrupted ⟨.error e, .ok none, false, .pending⟩ := ⟨e, rfl, kind⟩
  refine ⟨⟨.error e, .ok none, false, .pending⟩ :: rounds, .insert cut (.refl _ rounds), ?_⟩
  intro same
  exact other same.symm

/-- **Signals.** Whatever the other answers are, interruptions inserted among the polls
change neither the result of `send` nor the bytes accepted if and only if no write
would block before the whole buffer is accepted; they do not change the result of
either `ready` if and only if its probe does not answer `WouldBlock`; and there is
no sequence of answers on which they cannot change the result of `wait_connect`. -/
theorem signals_harmless_iff (buf : List UInt8) (writes : List WriteAnswer)
    (peek : Except IoError Nat) (polls : List PollAnswer) (rounds : List Round) :
    ((∀ more, Inserted Interrupted polls more →
        send buf writes more = send buf writes polls) ↔ ¬ Stalls buf.length writes) ∧
    ((∀ more, Inserted Interrupted polls more →
        tcpReady peek more = tcpReady peek polls) ↔ probeReadable peek ≠ .ok false) ∧
    ((∀ more, Inserted Interrupted polls more →
        udpReady peek more = udpReady peek polls) ↔ probeReadable peek ≠ .ok false) ∧
    ¬ ∀ more, Inserted Round.Interrupted rounds more →
      waitConnect more = waitConnect rounds := by
  refine ⟨send_harmless_iff buf writes polls, readyOn_harmless_iff tcpToken peek polls,
    readyOn_harmless_iff udpToken peek polls, ?_⟩
  intro harmless
  obtain ⟨more, inserted, other⟩ := waitConnect_harmed rounds
  exact other (harmless more inserted)

/-- One byte of two is accepted, the next write would block, and a signal cuts off the
poll: the call fails with the message half written. -/
theorem signals_cut_send :
    send [1, 2] [.ok 1, .error .wouldBlock, .ok 1] [.ok []] = (.returned (.ok ()), [1, 2]) ∧
    send [1, 2] [.ok 1, .error .wouldBlock, .ok 1]
        [.error ⟨.interrupted, "Interrupted system call"⟩, .ok []] =
      (.returned (.error (.io ⟨.interrupted, "Interrupted system call"⟩)), [1]) ∧
    Inserted Interrupted [.ok []]
      [.error ⟨.interrupted, "Interrupted system call"⟩, .ok []] := by
  refine ⟨rfl, rfl, ?_⟩
  exact .insert ⟨_, rfl, rfl⟩ (.refl _ _)

end Transports.Readiness.Mio
