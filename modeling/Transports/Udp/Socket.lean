import Transports.Core.Seam

/-!
# The UDP socket under `recv_burst`

A socket is anything that answers a nonblocking `recv_from` with at most as many
bytes as the buffer has room for (`UdpSock`). Three of them matter: an arbitrary
one, over which the burst contract is stated; `kernelSock`, the Unix queue whose
reads may fail by a schedule; and `logged`, which records the answers another
socket gave.
-/

namespace Transports.Udp

open Transports.Core

/-- What a raw `recv_from` returns: the bytes it copied and their sender. -/
abbrev RawAnswer := Except IoError (List UInt8 × SockAddr)

/-- The same with the sender resolved to an IP address. -/
abbrev Answer := Except IoError (List UInt8 × SocketAddr)

/-- A nonblocking datagram socket. -/
structure UdpSock (S : Type) where
  recvFrom : S → Nat → RawAnswer × S
  fits : ∀ s len data sender, (recvFrom s len).1 = .ok (data, sender) → data.length ≤ len

namespace UdpSock

variable {S : Type}

/-- The socket after `k` reads into buffers of `len` bytes. -/
def after (sock : UdpSock S) (s : S) (len : Nat) : Nat → S
  | 0 => s
  | k + 1 => (sock.recvFrom (sock.after s len k) len).2

/-- The answer to read number `k`. -/
def answer (sock : UdpSock S) (s : S) (len k : Nat) : RawAnswer :=
  (sock.recvFrom (sock.after s len k) len).1

@[simp] theorem after_zero (sock : UdpSock S) (s : S) (len : Nat) :
    sock.after s len 0 = s := rfl

theorem after_succ (sock : UdpSock S) (s : S) (len k : Nat) :
    sock.after s len (k + 1) = sock.after (sock.recvFrom s len).2 len k := by
  induction k with
  | zero => rfl
  | succ k ih =>
      rw [after, ih]
      rfl

@[simp] theorem answer_zero (sock : UdpSock S) (s : S) (len : Nat) :
    sock.answer s len 0 = (sock.recvFrom s len).1 := rfl

theorem answer_succ (sock : UdpSock S) (s : S) (len k : Nat) :
    sock.answer s len (k + 1) = sock.answer (sock.recvFrom s len).2 len k := by
  rw [answer, after_succ]
  rfl

/-- The socket that also keeps the answers it gave, oldest first. -/
def logged (sock : UdpSock S) : UdpSock (S × List RawAnswer) where
  recvFrom s len :=
    let (answer, next) := sock.recvFrom s.1 len
    (answer, next, s.2 ++ [answer])
  fits s len data sender h := sock.fits s.1 len data sender h

theorem logged_after (sock : UdpSock S) (s : S) (log : List RawAnswer) (len k : Nat) :
    sock.logged.after (s, log) len k =
      (sock.after s len k, log ++ (List.range k).map (sock.answer s len)) := by
  induction k with
  | zero => simp
  | succ k ih =>
      rw [after, ih, List.range_succ, List.map_append, ← List.append_assoc]
      rfl

theorem logged_answer (sock : UdpSock S) (s : S) (log : List RawAnswer) (len k : Nat) :
    sock.logged.answer (s, log) len k = sock.answer s len k := by
  rw [answer, logged_after]
  rfl

end UdpSock

/-! ## The Unix queue -/

structure Datagram where
  payload : List UInt8
  sender : SocketAddr
  deriving DecidableEq, Repr

/-- `127.0.0.1:9000`. -/
def someSender : SocketAddr := .v4 (BitVec.ofNat 32 2130706433) 9000

/-- The datagram as a buffer of `len` bytes holds it: what does not fit is cut. -/
def Datagram.cut (len : Nat) (d : Datagram) : List UInt8 × SocketAddr :=
  (d.payload.take len, d.sender)

/-- One `recv_from` on the kernel's receive queue. A failure takes nothing; an
empty queue answers `WouldBlock`; otherwise the head leaves the queue and its
first `len` bytes are copied. -/
def kernelRecv (fault : Option Fault) (queue : List Datagram) (len : Nat) :
    RawAnswer × List Datagram :=
  match fault, queue with
  | some e, queue => (.error e.val, queue)
  | none, [] => (.error .wouldBlock, [])
  | none, d :: queue => (.ok (d.payload.take len, .inet d.sender), queue)

/-- A `MSG_PEEK` recv into one byte; nothing leaves the queue. -/
def kernelPeek : List Datagram → Except IoError Nat
  | [] => .error .wouldBlock
  | d :: _ => .ok (min 1 d.payload.length)

/-- The queue with the failures its next reads meet, if any. -/
structure KernelSock where
  faults : List (Option Fault)
  queue : List Datagram
  deriving DecidableEq

def kernelSock : UdpSock KernelSock where
  recvFrom s len :=
    let (answer, queue) := kernelRecv s.faults.head?.join s.queue len
    (answer, ⟨s.faults.tail, queue⟩)
  fits s len data sender h := by
    cases fault : s.faults.head?.join with
    | some e => simp [fault, kernelRecv] at h
    | none =>
        cases queue : s.queue with
        | nil => simp [fault, queue, kernelRecv] at h
        | cons d rest =>
            simp only [fault, queue, kernelRecv, Except.ok.injEq, Prod.mk.injEq] at h
            rw [← h.1, List.length_take]
            exact Nat.min_le_left _ _

/-! ## The two backends -/

inductive Backend
  | tokio
  | mio
  deriving DecidableEq, Repr

/-- The metric label, `UdpTransport::BACKEND`. -/
def Backend.label : Backend → String
  | .tokio => "tokio-udp"
  | .mio => "mio-udp"

/-- Word width of the byte accumulator: `usize` on a 64-bit target, `u64`. -/
def Backend.accBits : Backend → Nat
  | .tokio => 64
  | .mio => 64

/-- The sender of a datagram. The tokio loop reads the raw address and falls
back to the unspecified one; mio's `recv_from` itself fails on a non-IP sender. -/
def Backend.peerOf : Backend → SockAddr → Except IoError SocketAddr
  | .tokio, sender => .ok (sender.asSocket.getD .unspecified)
  | .mio, sender =>
    match sender.asSocket with
    | some addr => .ok addr
    | none => .error ⟨.invalidInput, "invalid argument"⟩

/-- A raw answer as the backend's loop matches on it. -/
def Backend.received (b : Backend) : RawAnswer → Answer
  | .error e => .error e
  | .ok (data, sender) =>
    match b.peerOf sender with
    | .ok peer => .ok (data, peer)
    | .error e => .error e

@[simp] theorem Backend.peerOf_inet (b : Backend) (addr : SocketAddr) :
    b.peerOf (.inet addr) = .ok addr := by
  cases b <;> rfl

@[simp] theorem Backend.received_error (b : Backend) (e : IoError) :
    b.received (.error e) = .error e := rfl

@[simp] theorem Backend.received_inet (b : Backend) (data : List UInt8) (addr : SocketAddr) :
    b.received (.ok (data, .inet addr)) = .ok (data, addr) := by
  simp [received]

theorem Backend.peerOf_error {b : Backend} {sender : SockAddr} {e : IoError}
    (h : b.peerOf sender = .error e) : e.kind ≠ .wouldBlock := by
  cases b with
  | tokio => cases h
  | mio =>
      cases resolved : sender.asSocket with
      | some addr => simp [peerOf, resolved] at h
      | none =>
          simp only [peerOf, resolved, Except.error.injEq] at h
          subst h
          decide

/-- The loop sees `WouldBlock` only when the socket answered it. -/
theorem Backend.received_wouldBlock {b : Backend} {raw : RawAnswer} {e : IoError}
    (h : b.received raw = .error e) (kind : e.kind = .wouldBlock) : raw = .error e := by
  cases raw with
  | error other =>
      rw [received_error, Except.error.injEq] at h
      rw [h]
  | ok got =>
      obtain ⟨bytes, sender⟩ := got
      cases resolved : b.peerOf sender with
      | ok addr => simp [received, resolved] at h
      | error other =>
          simp only [received, resolved, Except.error.injEq] at h
          exact absurd (h ▸ kind) (peerOf_error resolved)

end Transports.Udp
