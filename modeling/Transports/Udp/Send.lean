import Mathlib.Data.List.InsertIdx
import Transports.Lib.Script
import Transports.Readiness.Blocking

/-!
# Sending datagrams

`send` and `send_to` of the UDP transports. The mio loop tries the socket, sleeps a
millisecond whenever that would block, and tries again; tokio awaits. A datagram the
socket takes is on the wire from then on, so what matters is that no answer makes the
loop offer it a second time, and that none is lost between a socket that took it and a
caller that stopped waiting. Tokio's sends take `&self`: any number may be in flight.
-/

namespace Transports.Udp

open Lib Transports.Core Transports.Readiness.Mio

/-- What the socket answers one try: the bytes it took, or an error. -/
abbrev SendAnswer := Except IoError Nat

/-- A datagram to send, to the connected peer or to an address. -/
structure Outgoing where
  payload : List UInt8
  dest : Option SocketAddr
  deriving DecidableEq, Repr

/-- The loop of `send` and `send_to` over a wire that carries `wire` already. -/
def tryUntilSent (d : Outgoing) : List SendAnswer → List Outgoing → Outcome Nat × List Outgoing
  | [], wire => (.running, wire)
  | .ok n :: _, wire => (.returned (.ok n), wire ++ [d])
  | .error e :: answers, wire =>
    -- `thread::sleep` in between
    if e.kind = .wouldBlock then tryUntilSent d answers wire
    else (.returned (.error (.io e)), wire)

namespace Mio

/-- The mio `UdpTransport::send`. -/
def udpSend (buf : List UInt8) (answers : List SendAnswer) (wire : List Outgoing) :
    Outcome Nat × List Outgoing :=
  tryUntilSent ⟨buf, none⟩ answers wire

/-- The mio `UdpTransport::send_to`. -/
def udpSendTo (buf : List UInt8) (addr : SocketAddr) (answers : List SendAnswer)
    (wire : List Outgoing) : Outcome Nat × List Outgoing :=
  tryUntilSent ⟨buf, some addr⟩ answers wire

/-- The one or the other. -/
def sendOut (d : Outgoing) (answers : List SendAnswer) (wire : List Outgoing) :
    Outcome Nat × List Outgoing :=
  match d.dest with
  | none => udpSend d.payload answers wire
  | some addr => udpSendTo d.payload addr answers wire

end Mio

/-- A send of tokio's socket, awaited: it has come to an answer or is still pending. -/
def awaitSent (d : Outgoing) (answer : Option SendAnswer) (wire : List Outgoing) :
    Outcome Nat × List Outgoing :=
  match answer with
  | none => (.running, wire)
  | some (.ok n) => (.returned (.ok n), wire ++ [d])
  | some (.error e) => (.returned (.error (.io e)), wire)

namespace Tokio

/-- The tokio `UdpTransport::send`. -/
def udpSend (buf : List UInt8) (answer : Option SendAnswer) (wire : List Outgoing) :
    Outcome Nat × List Outgoing :=
  awaitSent ⟨buf, none⟩ answer wire

/-- The tokio `UdpTransport::send_to`. -/
def udpSendTo (buf : List UInt8) (addr : SocketAddr) (answer : Option SendAnswer)
    (wire : List Outgoing) : Outcome Nat × List Outgoing :=
  awaitSent ⟨buf, some addr⟩ answer wire

/-- The one or the other. -/
def sendOut (d : Outgoing) (answer : Option SendAnswer) (wire : List Outgoing) :
    Outcome Nat × List Outgoing :=
  match d.dest with
  | none => udpSend d.payload answer wire
  | some addr => udpSendTo d.payload addr answer wire

end Tokio

/-! ## What decides a send -/

/-- An answer the loop returns on. -/
def decisive : SendAnswer → Bool
  | .ok _ => true
  | .error e => e.kind != .wouldBlock

/-- The loop waits for the first decisive answer, as an await does. -/
theorem tryUntilSent_eq (d : Outgoing) (answers : List SendAnswer) (wire : List Outgoing) :
    tryUntilSent d answers wire = awaitSent d (answers.find? decisive) wire := by
  induction answers with
  | nil => rfl
  | cons answer rest ih =>
      cases answer with
      | ok n => rfl
      | error e =>
          by_cases kind : e.kind = .wouldBlock
          · have passed : ¬ decisive (.error e) = true := by simp [decisive, kind]
            rw [tryUntilSent, if_pos kind, List.find?_cons_of_neg passed, ih]
          · have decided : decisive (.error e) = true := by simp [decisive, kind]
            rw [tryUntilSent, if_neg kind, List.find?_cons_of_pos decided]
            rfl

theorem Mio.sendOut_eq (d : Outgoing) (answers : List SendAnswer) (wire : List Outgoing) :
    Mio.sendOut d answers wire = tryUntilSent d answers wire := by
  obtain ⟨payload, dest⟩ := d
  cases dest <;> rfl

theorem Tokio.sendOut_eq (d : Outgoing) (answer : Option SendAnswer) (wire : List Outgoing) :
    Tokio.sendOut d answer wire = awaitSent d answer wire := by
  obtain ⟨payload, dest⟩ := d
  cases dest <;> rfl

/-- The mio loop is an await of the first answer that decides. -/
theorem mio_sends_as_tokio (d : Outgoing) (answers : List SendAnswer) (wire : List Outgoing) :
    Mio.sendOut d answers wire = Tokio.sendOut d (answers.find? decisive) wire := by
  rw [Mio.sendOut_eq, Tokio.sendOut_eq, tryUntilSent_eq]

/-- `send` and `send_to` of either backend, by what the socket answers one try after the
other. Tokio's await ends with the first answer other than `WouldBlock`. -/
def sendOut (b : Backend) (d : Outgoing) (tries : List SendAnswer) (wire : List Outgoing) :
    Outcome Nat × List Outgoing :=
  match b with
  | .tokio => Tokio.sendOut d (tries.find? decisive) wire
  | .mio => Mio.sendOut d tries wire

theorem sendOut_eq (b : Backend) (d : Outgoing) (tries : List SendAnswer) (wire : List Outgoing) :
    sendOut b d tries wire = awaitSent d (tries.find? decisive) wire := by
  cases b with
  | tokio => exact Tokio.sendOut_eq d _ wire
  | mio => exact (mio_sends_as_tokio d tries wire).trans (Tokio.sendOut_eq d _ wire)

/-! ## Sends in flight -/

/-- A send in progress, and what the socket has answered its tries. -/
structure Sender where
  datagram : Outgoing
  tries : List SendAnswer
  deriving DecidableEq

/-- A transport's sends: those in progress, those that returned with what they returned, and
the wire. -/
structure Senders where
  inFlight : List Sender
  returned : List (Outgoing × Except TransportError Nat)
  wire : List Outgoing

inductive SendEvent
  | call (d : Outgoing)
  /-- the socket answers the next try of a send -/
  | answer (sender : Nat) (answer : SendAnswer)
  /-- the future of a send is dropped -/
  | drop (sender : Nat)

/-- The send at position `i` after one more answer. -/
def Senders.answered (b : Backend) (s : Senders) (i : Nat) (sender : Sender)
    (answer : SendAnswer) : Senders :=
  let tries := sender.tries ++ [answer]
  match sendOut b sender.datagram tries s.wire with
  | (.returned result, wire) =>
    { inFlight := s.inFlight.eraseIdx i
      returned := s.returned ++ [(sender.datagram, result)]
      wire }
  | (_, wire) => { s with inFlight := s.inFlight.set i { sender with tries }, wire }

def Senders.step (b : Backend) (s : Senders) : SendEvent → Option Senders
  | .call d =>
    -- mio's sends take `&mut self` and block
    if b = .mio ∧ s.inFlight ≠ [] then none
    else some { s with inFlight := s.inFlight ++ [⟨d, []⟩] }
  | .answer i answer => s.inFlight[i]?.map fun sender => s.answered b i sender answer
  | .drop i =>
    match b with
    | .tokio => (pick s.inFlight i).map fun (_, inFlight) => { s with inFlight }
    | .mio => none

/-- What a send returns on an answer that decides it. -/
def verdict (answer : SendAnswer) : Except TransportError Nat := answer.mapError .io

section Steps

variable {b : Backend} {s t : Senders} {i : Nat} {sender : Sender} {answer : SendAnswer}
  {e : SendEvent}

end Steps

/-! ## Over a run -/

/-- The datagram an event begins to send. -/
def SendEvent.called : SendEvent → Option Outgoing
  | .call d => some d
  | .answer _ _ | .drop _ => none

/-- A future is dropped. -/
def SendEvent.drops : SendEvent → Bool
  | .drop _ => true
  | .call _ | .answer _ _ => false

/-- Two transports with the same sends in progress, whatever they have been answered. -/
structure SameSends (s t : Senders) : Prop where
  inFlight : s.inFlight.map Sender.datagram = t.inFlight.map Sender.datagram
  returned : s.returned = t.returned
  wire : s.wire = t.wire

section Runs

variable {b : Backend} {s t u : Senders} {i : Nat} {sender : Sender} {events : List SendEvent}
  {e : SendEvent}

/-- The same sends, at the same position. -/
theorem SameSends.at (same : SameSends s t) (here : s.inFlight[i]? = some sender) :
    ∃ other, t.inFlight[i]? = some other ∧ other.datagram = sender.datagram := by
  have datagram := congrArg (fun l => l[i]?) same.inFlight
  simp only [List.getElem?_map, here, Option.map_some] at datagram
  obtain ⟨other, found, equal⟩ := Option.map_eq_some_iff.mp datagram.symm
  exact ⟨other, found, equal⟩

theorem SameSends.erase (same : SameSends s t) (i : Nat) :
    (s.inFlight.eraseIdx i).map Sender.datagram = (t.inFlight.eraseIdx i).map Sender.datagram := by
  rw [← List.eraseIdx_map, ← List.eraseIdx_map, same.inFlight]

end Runs

end Transports.Udp
