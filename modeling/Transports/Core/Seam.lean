import Mathlib.Algebra.Group.Prod
import Mathlib.Algebra.GroupWithZero.Nat
import Mathlib.Data.List.Basic

/-!
# The recv seam: errors, addresses, the frame batch, the recv counters

What both backends share. `FrameBatch` carries `frames.length ≤ capacity` as a
field, so a batch longer than its backing allocation cannot be built; the recv
counters are the log of increments `record_recv_burst` makes.
-/

namespace Transports.Core

/-- The `io::ErrorKind`s the backends look at or construct. -/
inductive ErrorKind
  | wouldBlock
  | interrupted
  | unexpectedEof
  | timedOut
  | writeZero
  | invalidInput
  | other
  deriving DecidableEq, Repr

structure IoError where
  kind : ErrorKind
  message : String
  deriving DecidableEq, Repr

/-- The answer of a nonblocking call that has nothing to do. -/
def IoError.wouldBlock : IoError := ⟨.wouldBlock, "Resource temporarily unavailable"⟩

/-- A socket failure proper: any error but `WouldBlock`. -/
def Fault : Type := { e : IoError // e.kind ≠ .wouldBlock }

instance : DecidableEq Fault :=
  inferInstanceAs (DecidableEq { e : IoError // e.kind ≠ .wouldBlock })

inductive TransportError
  | bindFailed (addr reason : String)
  | io (e : IoError)
  | poolExhausted (inUse capacity : Nat)
  | ringFull (capacity : Nat)
  | backendUnavailable (name reason : String)
  | unsupported (name reason : String)
  deriving DecidableEq, Repr

/-- `Display` for `TransportError`. -/
def TransportError.display : TransportError → String
  | .bindFailed addr reason => s!"bind failed for {addr}: {reason}"
  | .io e => "I/O error: " ++ e.message
  | .poolExhausted inUse capacity =>
    s!"buffer pool exhausted (in_use {inUse} / capacity {capacity})"
  | .ringFull capacity => s!"ring full (capacity {capacity})"
  | .backendUnavailable name reason => s!"backend {name} unavailable: {reason}"
  | .unsupported name reason => s!"operation not supported by {name}: {reason}"

/-! ## Addresses -/

/-- `std::net::SocketAddr`. -/
inductive SocketAddr
  | v4 (ip : BitVec 32) (port : UInt16)
  | v6 (ip : BitVec 128) (port : UInt16) (flowinfo scopeId : UInt32)
  deriving DecidableEq, Repr

/-- `0.0.0.0:0`. -/
def SocketAddr.unspecified : SocketAddr := .v4 0 0

/-- `socket2::SockAddr`, as the kernel fills it in: an IP address or not. -/
inductive SockAddr
  | inet (addr : SocketAddr)
  | other
  deriving DecidableEq, Repr

def SockAddr.asSocket : SockAddr → Option SocketAddr
  | .inet addr => some addr
  | .other => none

/-! ## FrameBatch -/

/-- Reusable burst container: a `Vec` and its capacity. -/
structure FrameBatch (F : Type) where
  frames : List F
  capacity : Nat
  fits : frames.length ≤ capacity
  deriving DecidableEq

namespace FrameBatch

variable {F : Type}

@[ext] theorem ext {a b : FrameBatch F} (frames : a.frames = b.frames)
    (capacity : a.capacity = b.capacity) : a = b := by
  cases a; cases b; simp_all

def withCapacity (cap : Nat) : FrameBatch F := ⟨[], cap, Nat.zero_le cap⟩

/-- `FrameBatch::default()`: an empty `Vec`, which has not allocated. -/
def default : FrameBatch F := withCapacity 0

/-- Slots free before the backing `Vec` must reallocate. -/
def spare (b : FrameBatch F) : Nat := b.capacity - b.frames.length

/-- `Vec` growth: the capacity doubles, from four up. -/
def grow (capacity : Nat) : Nat := max (2 * capacity) 4

def push (b : FrameBatch F) (frame : F) : FrameBatch F where
  frames := b.frames ++ [frame]
  capacity := if b.frames.length < b.capacity then b.capacity else grow b.capacity
  fits := by
    have := b.fits
    simp only [List.length_append, List.length_singleton, grow]
    split <;> omega

/-- The frames handed to the caller and the emptied batch. -/
def drain (b : FrameBatch F) : List F × FrameBatch F :=
  (b.frames, ⟨[], b.capacity, Nat.zero_le _⟩)

@[simp] theorem withCapacity_frames (cap : Nat) :
    (withCapacity cap : FrameBatch F).frames = [] := rfl

@[simp] theorem withCapacity_spare (cap : Nat) :
    (withCapacity cap : FrameBatch F).spare = cap := rfl

@[simp] theorem push_frames (b : FrameBatch F) (frame : F) :
    (b.push frame).frames = b.frames ++ [frame] := rfl

@[simp] theorem drain_fst (b : FrameBatch F) : b.drain.1 = b.frames := rfl

@[simp] theorem drain_snd_frames (b : FrameBatch F) : b.drain.2.frames = [] := rfl

/-- A push into spare capacity does not reallocate. -/
theorem push_capacity {b : FrameBatch F} (room : 0 < b.spare) (frame : F) :
    (b.push frame).capacity = b.capacity := by
  simp only [spare] at room
  exact if_pos (by omega)

theorem push_spare {b : FrameBatch F} (room : 0 < b.spare) (frame : F) :
    (b.push frame).spare = b.spare - 1 := by
  simp only [spare, push_capacity room, push_frames, List.length_append, List.length_singleton]
  omega

theorem foldl_push_frames (frames : List F) (out : FrameBatch F) :
    (frames.foldl push out).frames = out.frames ++ frames := by
  induction frames generalizing out with
  | nil => simp
  | cons frame rest ih =>
      rw [List.foldl_cons, ih]
      simp

/-- Pushing into spare capacity never reallocates. -/
theorem foldl_push_capacity (frames : List F) (out : FrameBatch F)
    (room : frames.length ≤ out.spare) :
    (frames.foldl push out).capacity = out.capacity := by
  induction frames generalizing out with
  | nil => rfl
  | cons frame rest ih =>
      rw [List.length_cons] at room
      have positive : 0 < out.spare := by omega
      have fewer : rest.length ≤ (out.push frame).spare := by
        rw [push_spare positive]
        omega
      rw [List.foldl_cons, ih _ fewer, push_capacity positive]

/-- Draining what was pushed into an empty batch gives the frames, and that batch back. -/
theorem drain_foldl_push {frames : List F} {out : FrameBatch F} (empty : out.frames = [])
    (room : frames.length ≤ out.spare) : (frames.foldl push out).drain = (frames, out) := by
  apply Prod.ext
  · rw [drain_fst, foldl_push_frames, empty, List.nil_append]
  · apply FrameBatch.ext
    · rw [drain_snd_frames, empty]
    · exact foldl_push_capacity frames out room

end FrameBatch

/-! ## Recv counters -/

/-- One `counter!(name, "backend" => backend).increment(amount)`. -/
structure Increment where
  name : String
  backend : String
  amount : Nat
  deriving DecidableEq, Repr

/-- The metrics gate and every increment made so far. -/
structure Telemetry where
  enabled : Bool
  increments : List Increment
  deriving DecidableEq, Repr

namespace Telemetry

def recvPackets : String := "transport.recv.packets"

def recvBytes : String := "transport.recv.bytes"

/-- Record one recv burst; a no-op when the gate is off. -/
def recordRecvBurst (t : Telemetry) (backend : String) (packets bytes : Nat) : Telemetry :=
  if t.enabled then
    { t with increments :=
        t.increments ++ [⟨recvPackets, backend, packets⟩, ⟨recvBytes, backend, bytes⟩] }
  else t

/-- The sum of all increments of one counter. -/
def total (t : Telemetry) (name : String) : Nat :=
  ((t.increments.filter fun increment => increment.name = name).map Increment.amount).sum

/-- What the packet and the byte counter stand at. -/
def totals (t : Telemetry) : Nat × Nat := (t.total recvPackets, t.total recvBytes)

section Recorded

variable {t : Telemetry} (label : String) (packets bytes : Nat)

@[simp] theorem recordRecvBurst_enabled :
    (t.recordRecvBurst label packets bytes).enabled = t.enabled := by
  unfold recordRecvBurst
  split <;> rfl

theorem total_recvPackets (gate : t.enabled = true) :
    (t.recordRecvBurst label packets bytes).total recvPackets =
      t.total recvPackets + packets := by
  simp [recordRecvBurst, gate, total, recvPackets, recvBytes]

theorem total_recvBytes (gate : t.enabled = true) :
    (t.recordRecvBurst label packets bytes).total recvBytes = t.total recvBytes + bytes := by
  simp [recordRecvBurst, gate, total, recvPackets, recvBytes]

theorem totals_recordRecvBurst (gate : t.enabled = true) :
    (t.recordRecvBurst label packets bytes).totals = t.totals + (packets, bytes) :=
  Prod.ext (total_recvPackets _ _ _ gate) (total_recvBytes _ _ _ gate)

end Recorded

end Telemetry

end Transports.Core
