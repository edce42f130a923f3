import Transports.Core.Seam

/-!
# The datagram conformance suite

`run_datagram_source` and its five cases, over anything that can be driven as a
`DatagramSource` with a pool. A source is a state and what its calls do to it;
dropping a frame is one of them, on this thread or on another. A case's loop keeps
the bound and the break conditions of the source text, and each `?` is a bind.
-/

namespace Transports.Core

/-- `DatagramSource + PoolAccess`, with frames `F` and slabs `L`. -/
structure DatagramSource (σ F L : Type) where
  recvBurst : σ → FrameBatch F → Nat → Except TransportError Nat × FrameBatch F × σ
  acquire : σ → Nat → Option L × σ
  capacity : σ → Nat
  inUse : σ → Nat
  dropFrame : σ → F → σ
  /-- frames dropped on another thread, and that thread joined; `none` if it panicked -/
  dropThread : σ → List F → Option σ

inductive DatagramCase
  | burstLeqMax
  | singleIsBurstOfOne
  | drainsToOkZero
  | poolReclaimAfterForeignDrop
  | poolExhaustedWhenEmpty
  deriving DecidableEq, Repr

def DatagramCase.label : DatagramCase → String
  | .burstLeqMax => "burst_leq_max"
  | .singleIsBurstOfOne => "single_is_burst_of_one"
  | .drainsToOkZero => "drains_to_ok_zero"
  | .poolReclaimAfterForeignDrop => "pool_reclaim_after_foreign_drop"
  | .poolExhaustedWhenEmpty => "pool_exhausted_when_empty"

structure DatagramConformanceReport where
  passed : List String
  failed : List (String × String)
  deriving DecidableEq, Repr

namespace DatagramConformanceReport

def allPassed (report : DatagramConformanceReport) : Bool := report.failed.isEmpty

def record (report : DatagramConformanceReport) (case : DatagramCase) :
    Except String Unit → DatagramConformanceReport
  | .ok () => { report with passed := report.passed ++ [case.label] }
  | .error e => { report with failed := report.failed ++ [(case.label, e)] }

end DatagramConformanceReport

namespace DatagramSource

variable {σ F L : Type} (src : DatagramSource σ F L)

/-- `src.recv_burst(&mut batch, max).map_err(|e| e.to_string())?` -/
def reap (s : σ) (batch : FrameBatch F) (max : Nat) :
    Except String (Nat × FrameBatch F × σ) :=
  match src.recvBurst s batch max with
  | (.ok n, batch, s) => .ok (n, batch, s)
  | (.error e, _, _) => .error e.display

def caseBurstLeqMax (s : σ) : Except String Unit := do
  let (n, batch, _) ← src.reap s (.withCapacity 64) 3
  let len := batch.frames.length
  if n > 3 then .error s!"recv_burst(max=3) returned {n} > 3"
  else if len ≠ n then .error s!"batch holds {len} frames, recv_burst said {n}"
  else .ok ()

/-- Up to so many tries at a burst of one. -/
def singleLoop : Nat → σ → FrameBatch F → Nat → Except String Nat
  | 0, _, _, n => .ok n
  | turns + 1, s, batch, _ => do
    let (n, batch, s) ← src.reap s batch 1
    if n > 0 then .ok n else singleLoop turns s batch n

def caseSingleBurst (s : σ) : Except String Unit := do
  let n ← src.singleLoop 8 s (.withCapacity 64) 0
  if n ≠ 1 then
    .error s!"single recv (max=1) returned {n} after retries, not a burst of 1"
  else .ok ()

/-- Reap and drop until a burst answers `Ok(0)`. -/
def drainLoop : Nat → σ → FrameBatch F → Nat → Except String (Nat × FrameBatch F × σ)
  | 0, s, batch, reaped => .ok (reaped, batch, s)
  | turns + 1, s, batch, reaped => do
    let (n, batch, s) ← src.reap s batch 8
    if n > 8 then .error s!"recv_burst(max=8) returned {n} > 8"
    else
      let (frames, batch) := batch.drain
      let s := frames.foldl src.dropFrame s
      if n = 0 then .ok (reaped + n, batch, s) else drainLoop turns s batch (reaped + n)

def caseDrainsToOkZero (s : σ) : Except String Unit := do
  let (reaped, batch, s) ← src.drainLoop 1024 s (.withCapacity 64) 0
  if reaped < 2 then .error s!"expected to reap 2 datagrams, got {reaped}"
  else
    let (after, _, _) ← src.reap s batch 8
    if after ≠ 0 then .error s!"drained source returned {after}, expected Ok(0)" else .ok ()

/-- Reap until two frames are held or a burst answers `Ok(0)`. -/
def collectLoop : Nat → σ → FrameBatch F → List F → Except String (List F × FrameBatch F × σ)
  | 0, s, batch, frames => .ok (frames, batch, s)
  | turns + 1, s, batch, frames => do
    let (n, batch, s) ← src.reap s batch 8
    let (more, batch) := batch.drain
    if 2 ≤ (frames ++ more).length ∨ n = 0 then .ok (frames ++ more, batch, s)
    else collectLoop turns s batch (frames ++ more)

def casePoolReclaim (s : σ) : Except String Unit := do
  let (frames, batch, s) ← src.collectLoop 1024 s (.withCapacity 64) []
  let len := frames.length
  if len < 2 then .error s!"expected 2 frames, reaped {len}"
  else if src.inUse s = 0 then .error "pool in_use stayed 0 while frames were held"
  else
    match src.dropThread s frames with
    | none => .error "drop thread panicked"
    | some s =>
      let (_, batch, s) ← src.reap s batch 8
      let (more, _) := batch.drain
      let s := more.foldl src.dropFrame s
      let inUse := src.inUse s
      if inUse ≠ 0 then
        .error s!"pool in_use = {inUse} after frames dropped, expected 0"
      else .ok ()

/-- Acquire until the pool has no slab, in so many turns; `none` if it takes more. The
check compares with `capacity()` as it is by then, so a pool whose capacity grows with
each acquire is asked again and again. -/
def holdAll : Nat → σ → List L → Option (Except String (List L × σ))
  | 0, _, _ => none
  | turns + 1, s, held =>
    match src.acquire s 1 with
    | (none, s) => some (.ok (held, s))
    | (some slab, s) =>
      if (held ++ [slab]).length > src.capacity s then
        some (.error "pool acquire never returned None at capacity")
      else holdAll turns s (held ++ [slab])

def casePoolExhausted (turns : Nat) (s : σ) : Option (Except String Unit) :=
  (src.holdAll turns s []).map fun held => do
    let (_, s) ← held
    match (src.recvBurst s (.withCapacity 64) 8).1 with
    -- the slabs drop here, and nothing is read after
    | .error (.poolExhausted _ _) => .ok ()
    | .error other => .error ("expected PoolExhausted, got " ++ other.display)
    | .ok n => .error s!"expected PoolExhausted, got Ok({n})"

/-- `run_datagram_source`. Each case builds a source of its own, of so many datagrams. The
report is there once the last case's loop, the one that has no bound, ends within so many
turns. -/
def run (turns : Nat) (build : DatagramCase → Nat → σ) : Option DatagramConformanceReport :=
  let report : DatagramConformanceReport := ⟨[], []⟩
  let report := report.record .burstLeqMax (src.caseBurstLeqMax (build .burstLeqMax 5))
  let report := report.record .singleIsBurstOfOne
    (src.caseSingleBurst (build .singleIsBurstOfOne 3))
  let report := report.record .drainsToOkZero
    (src.caseDrainsToOkZero (build .drainsToOkZero 2))
  let report := report.record .poolReclaimAfterForeignDrop
    (src.casePoolReclaim (build .poolReclaimAfterForeignDrop 2))
  (src.casePoolExhausted turns (build .poolExhaustedWhenEmpty 2)).map
    (report.record .poolExhaustedWhenEmpty)

end DatagramSource

end Transports.Core
