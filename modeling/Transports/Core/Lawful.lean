import Mathlib.Data.List.Perm.Basic
import Transports.Core.Conformance

/-!
# What a lawful datagram source is

The recv contract, as a ledger kept beside the source: the datagrams queued, the slabs
out with the caller, the slabs dropped and not yet back in the pool, and whether
readiness may still lag. Any source that keeps such a ledger is lawful. The mock of the
suite's own test does, with a first tick of lag and without.
-/

namespace Transports.Core

structure Ledger where
  /-- payloads queued and not yet delivered -/
  pending : List (List UInt8)
  /-- slabs the caller holds, bare or inside frames -/
  lent : Nat
  /-- slabs dropped whose return the pool has not yet seen -/
  returning : Nat
  /-- the next burst may still find nothing ready -/
  mayLag : Bool
  deriving DecidableEq, Repr

/-- How a burst with room for so many frames may be answered, and with which frames. -/
inductive Reply {F : Type} (payload : F → List UInt8) (capacity room : Nat)
    (before after : Ledger) : Except TransportError Nat → List F → Prop
  | lagged (lag : before.mayLag = true) (pending : after.pending = before.pending)
      (lent : after.lent = before.lent) : Reply payload capacity room before after (.ok 0) []
  | delivered {frames : List F} (fits : frames.length ≤ room)
      (progress : frames = [] → room = 0 ∨ before.pending = [])
      (pending : (frames.map payload ++ after.pending).Perm before.pending)
      (lent : after.lent = before.lent + frames.length) :
      Reply payload capacity room before after (.ok frames.length) frames
  -- also with nothing queued; with data queued and room for it no other answer is left
  | exhausted (inUse cap : Nat) (empty : before.lent = capacity)
      (pending : after.pending = before.pending) (lent : after.lent = before.lent) :
      Reply payload capacity room before after (.error (.poolExhausted inUse cap)) []

theorem Reply.nothing {F : Type} {payload : F → List UInt8} {capacity room : Nat}
    {before after : Ledger} (idle : room = 0 ∨ before.pending = [])
    (pending : after.pending = before.pending) (lent : after.lent = before.lent) :
    Reply payload capacity room before after (.ok 0) [] := by
  refine @Reply.delivered F payload capacity room before after [] (Nat.zero_le _) ?_ ?_ lent
  · intro _
    exact idle
  · show after.pending.Perm before.pending
    exact List.Perm.of_eq pending

/-- An acquire is refused by a pool with nothing free, and by no other. -/
inductive Loan {L : Type} (capacity : Nat) (before after : Ledger) : Option L → Prop
  | granted (slab : L) (lent : after.lent = before.lent + 1) :
      Loan capacity before after (some slab)
  | refused (empty : before.lent + before.returning = capacity)
      (lent : after.lent = before.lent) : Loan capacity before after none

/-- So many slabs dropped: each is back at once, or on its way. -/
structure Returned (count : Nat) (before after : Ledger) : Prop where
  lent : after.lent + count = before.lent
  returning : after.returning ≤ before.returning + count
  pending : after.pending = before.pending
  mayLag : after.mayLag = before.mayLag

namespace DatagramSource

variable {σ F L : Type}

/-- The seam's contract: what each call does to the ledger. `valid` is whatever the
source needs of its own state. -/
structure Contract (src : DatagramSource σ F L) where
  payload : F → List UInt8
  ledger : σ → Ledger
  valid : σ → Prop
  inUse : ∀ s, valid s → src.inUse s = (ledger s).lent + (ledger s).returning
  within : ∀ s, valid s → src.inUse s ≤ src.capacity s
  /-- frames appended equal `n`, and every slab dropped before is back -/
  recvBurst : ∀ s batch max, valid s → ∃ answer frames s',
    src.recvBurst s batch max = (answer, frames.foldl FrameBatch.push batch, s') ∧
      Reply payload (src.capacity s) (min max batch.spare) (ledger s) (ledger s')
        answer frames ∧
      (ledger s').returning = 0 ∧ (ledger s').mayLag = false ∧
      valid s' ∧ src.capacity s' = src.capacity s
  acquire : ∀ s, valid s → ∃ slab s',
    src.acquire s 1 = (slab, s') ∧
      Loan (src.capacity s) (ledger s) (ledger s') slab ∧
      (ledger s').returning ≤ (ledger s).returning ∧
      (ledger s').pending = (ledger s).pending ∧ (ledger s').mayLag = (ledger s).mayLag ∧
      valid s' ∧ src.capacity s' = src.capacity s
  dropFrame : ∀ s frame, valid s → 0 < (ledger s).lent →
    Returned 1 (ledger s) (ledger (src.dropFrame s frame)) ∧
      valid (src.dropFrame s frame) ∧ src.capacity (src.dropFrame s frame) = src.capacity s
  dropThread : ∀ s frames, valid s → frames.length ≤ (ledger s).lent → ∃ s',
    src.dropThread s frames = some s' ∧ Returned frames.length (ledger s) (ledger s') ∧
      valid s' ∧ src.capacity s' = src.capacity s

/-- What `build(count)` hands over: so many datagrams queued, a pool of eight slabs or
more, none of them out. -/
structure Contract.Preloaded {src : DatagramSource σ F L} (c : src.Contract) (count : Nat)
    (s : σ) : Prop where
  valid : c.valid s
  roomy : 8 ≤ src.capacity s
  pending : (c.ledger s).pending.length = count
  lent : (c.ledger s).lent = 0
  returning : (c.ledger s).returning = 0

end DatagramSource

/-! ## The mock of the suite's test -/

/-- `MockSource`: the queue, and the pool as its two numbers. A frame is its bytes. -/
structure MockSource where
  pending : List (List UInt8)
  capacity : Nat
  inUse : Nat
  deriving DecidableEq, Repr

namespace MockSource

/-- `MockPool::acquire`. -/
def acquire (m : MockSource) : Option Unit × MockSource :=
  let prev := m.inUse
  let m := { m with inUse := m.inUse + 1 }
  if prev ≥ m.capacity then (none, { m with inUse := m.inUse - 1 }) else (some (), m)

/-- The loop of `recv_burst`, with so many turns to `cap`. -/
def reapLoop : Nat → MockSource → FrameBatch (List UInt8) → Nat →
    Except TransportError Nat × FrameBatch (List UInt8) × MockSource
  | 0, m, out, n => (.ok n, out, m)
  | turns + 1, m, out, n =>
    match m.pending with
    | [] => (.ok n, out, m)
    | bytes :: rest =>
      match m.acquire with
      | (some _, m) => reapLoop turns { m with pending := rest } (out.push bytes) (n + 1)
      | (none, m) =>
        if n = 0 then (.error (.poolExhausted m.inUse m.capacity), out, m)
        else (.ok n, out, m)

def recvBurst (m : MockSource) (out : FrameBatch (List UInt8)) (max : Nat) :
    Except TransportError Nat × FrameBatch (List UInt8) × MockSource :=
  reapLoop (min max out.spare) m out 0

/-- `MockSlab::drop`. -/
def dropSlab (m : MockSource) : MockSource := { m with inUse := m.inUse - 1 }

/-- The test's `build`. -/
def build (count : Nat) : MockSource where
  pending := (List.range count).map fun i => List.replicate 4 (UInt8.ofNat i)
  capacity := 8
  inUse := 0

/-- The mock as a source. A lagging one answers its first burst `Ok(0)`. -/
def source : DatagramSource (Bool × MockSource) (List UInt8) Unit where
  recvBurst
    | (true, m), out, _ => (.ok 0, out, (false, m))
    | (false, m), out, max =>
      let (answer, out, m) := m.recvBurst out max
      (answer, out, (false, m))
  acquire s _ := (s.2.acquire.1, (s.1, s.2.acquire.2))
  capacity s := s.2.capacity
  inUse s := s.2.inUse
  dropFrame s _ := (s.1, s.2.dropSlab)
  dropThread s frames := some (s.1, frames.foldl (fun m _ => m.dropSlab) s.2)

/-- The ledger reads the mock's own fields: its slabs are back as soon as they drop. -/
def account (s : Bool × MockSource) : Ledger where
  pending := s.2.pending
  lent := s.2.inUse
  returning := 0
  mayLag := s.1

section Acquire

variable {pending : List (List UInt8)} {capacity inUse : Nat}

theorem acquire_of_lt (free : inUse < capacity) :
    acquire ⟨pending, capacity, inUse⟩ = (some (), ⟨pending, capacity, inUse + 1⟩) :=
  if_neg (Nat.not_le.mpr free)

theorem acquire_of_le (full : capacity ≤ inUse) :
    acquire ⟨pending, capacity, inUse⟩ = (none, ⟨pending, capacity, inUse⟩) :=
  if_pos full

end Acquire

/-- Past its first frame the loop does not fail: it reaps what is queued, as far as the
turns and the pool go. -/
theorem reapLoop_started (turns : Nat) (m : MockSource) (out : FrameBatch (List UInt8))
    {n : Nat} (started : n ≠ 0) (valid : m.inUse ≤ m.capacity) :
    ∃ frames rest, reapLoop turns m out n =
        (.ok (n + frames.length), frames.foldl FrameBatch.push out,
          ⟨rest, m.capacity, m.inUse + frames.length⟩) ∧
      frames.length ≤ turns ∧ frames ++ rest = m.pending ∧
      m.inUse + frames.length ≤ m.capacity := by
  induction turns generalizing m out n with
  | zero => exact ⟨[], m.pending, rfl, Nat.le_refl 0, rfl, valid⟩
  | succ turns ih =>
      obtain ⟨pending, capacity, inUse⟩ := m
      cases pending with
      | nil => exact ⟨[], [], rfl, Nat.zero_le _, rfl, valid⟩
      | cons bytes queue =>
          rcases Nat.lt_or_ge inUse capacity with free | full
          · obtain ⟨frames, rest, loop, fits, split, room⟩ :=
              ih ⟨queue, capacity, inUse + 1⟩ (out.push bytes) (Nat.succ_ne_zero n) free
            refine ⟨bytes :: frames, rest, ?_, ?_, ?_, ?_⟩
            · simp only [reapLoop, acquire_of_lt free]
              rw [loop]
              simp [Nat.add_assoc, Nat.add_comm 1]
            · simpa using fits
            · simpa using split
            · simp only [List.length_cons] at room ⊢
              omega
          · refine ⟨[], bytes :: queue, ?_, Nat.zero_le _, rfl, valid⟩
            simp only [reapLoop, acquire_of_le full]
            exact if_neg started

theorem recvBurst_reply (m : MockSource) (out : FrameBatch (List UInt8)) (max : Nat)
    (valid : m.inUse ≤ m.capacity) :
    ∃ answer frames m', m.recvBurst out max = (answer, frames.foldl FrameBatch.push out, m') ∧
      Reply id m.capacity (min max out.spare) (account (false, m)) (account (false, m'))
        answer frames ∧
      m'.inUse ≤ m'.capacity ∧ m'.capacity = m.capacity := by
  unfold recvBurst
  obtain ⟨pending, capacity, inUse⟩ := m
  cases room : min max out.spare with
  | zero =>
      refine ⟨.ok 0, [], ⟨pending, capacity, inUse⟩, rfl, ?_, valid, rfl⟩
      exact .nothing (.inl rfl) rfl rfl
  | succ turns =>
      cases pending with
      | nil =>
          refine ⟨.ok 0, [], ⟨[], capacity, inUse⟩, rfl, ?_, valid, rfl⟩
          exact .nothing (.inr rfl) rfl rfl
      | cons bytes queue =>
          rcases Nat.lt_or_ge inUse capacity with free | full
          · obtain ⟨frames, rest, loop, fits, split, within⟩ :=
              reapLoop_started turns ⟨queue, capacity, inUse + 1⟩ (out.push bytes)
                Nat.one_ne_zero free
            refine ⟨.ok (bytes :: frames).length, bytes :: frames,
              ⟨rest, capacity, inUse + (bytes :: frames).length⟩, ?_, ?_, ?_, rfl⟩
            · simp only [reapLoop, acquire_of_lt free]
              rw [loop]
              simp [Nat.add_assoc, Nat.add_comm 1]
            · refine .delivered (Nat.succ_le_succ fits) ?_ ?_ rfl
              · intro none
                cases none
              · show (bytes :: frames.map id ++ rest).Perm (bytes :: queue)
                rw [List.map_id]
                exact List.Perm.of_eq (congrArg (bytes :: ·) split)
            · simp only [List.length_cons] at within ⊢
              omega
          · have saturated : inUse = capacity := Nat.le_antisymm valid full
            refine ⟨.error (.poolExhausted inUse capacity), [],
              ⟨bytes :: queue, capacity, inUse⟩, ?_, ?_, valid, rfl⟩
            · simp [reapLoop, acquire_of_le full]
            · exact .exhausted _ _ saturated rfl rfl

theorem dropSlabs_eq (frames : List (List UInt8)) (m : MockSource) :
    frames.foldl (fun m _ => m.dropSlab) m = { m with inUse := m.inUse - frames.length } := by
  induction frames generalizing m with
  | nil => rfl
  | cons frame rest ih =>
      rw [List.foldl_cons, ih]
      simp only [dropSlab, List.length_cons, Nat.sub_sub, Nat.add_comm 1]

/-- The mock is lawful, with its lag or without. -/
def contract : source.Contract where
  payload := id
  ledger := account
  valid s := s.2.inUse ≤ s.2.capacity
  inUse _ _ := rfl
  within _ valid := valid
  recvBurst s batch max valid := by
    obtain ⟨lag, m⟩ := s
    cases lag with
    | true =>
        refine ⟨.ok 0, [], (false, m), rfl, ?_, rfl, rfl, valid, rfl⟩
        exact .lagged rfl rfl rfl
    | false =>
        obtain ⟨answer, frames, m', burst, reply, within, capacity⟩ :=
          recvBurst_reply m batch max valid
        refine ⟨answer, frames, (false, m'), ?_, reply, rfl, rfl, within, capacity⟩
        simp only [source, burst]
  acquire s valid := by
    obtain ⟨lag, pending, capacity, inUse⟩ := s
    rcases Nat.lt_or_ge inUse capacity with free | full
    · refine ⟨some (), (lag, ⟨pending, capacity, inUse + 1⟩), ?_, .granted () rfl,
        Nat.le_refl _, rfl, rfl, free, rfl⟩
      simp only [source, acquire_of_lt free]
    · refine ⟨none, (lag, ⟨pending, capacity, inUse⟩), ?_,
        .refused (Nat.le_antisymm valid full) rfl, Nat.le_refl _, rfl, rfl, valid, rfl⟩
      simp only [source, acquire_of_le full]
  dropFrame s frame valid lent := by
    refine ⟨⟨?_, Nat.zero_le _, rfl, rfl⟩, ?_, rfl⟩
    · exact Nat.sub_add_cancel lent
    · exact Nat.le_trans (Nat.sub_le _ _) valid
  dropThread s frames valid lent := by
    refine ⟨_, rfl, ?_⟩
    rw [dropSlabs_eq]
    refine ⟨⟨?_, Nat.zero_le _, rfl, rfl⟩, ?_, rfl⟩
    · exact Nat.sub_add_cancel lent
    · exact Nat.le_trans (Nat.sub_le _ _) valid

theorem preloaded (lag : Bool) (count : Nat) : contract.Preloaded count (lag, build count) where
  valid := Nat.zero_le _
  roomy := Nat.le_refl 8
  pending := by simp [contract, account, build]
  lent := rfl
  returning := rfl

end MockSource

end Transports.Core
