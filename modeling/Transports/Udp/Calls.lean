import Transports.Udp.Delivery

/-!
# Calls among other threads

What a `recv_burst` owes its caller whatever runs beside it. It returns within a number
of its own steps that no other thread can raise, and its answer tells how much it put
into the batch: so the history of a transport, frames and counters together, is the list
of its calls, each from the step that lent it a batch to the step that gave it back.
-/

namespace Transports.Udp

open Lib Transports.Core Transports.Pool

/-! ## Progress -/

/-- A step of the call in progress. -/
def Action.own : Action → Bool
  | .next _ => true
  | _ => false

/-- The most steps a call in progress still takes: two for each turn, and the exit. -/
def BurstCall.left (c : BurstCall) : Nat :=
  match c.pc with
  | .acquiring => 2 * (c.cap - c.n) + 1
  | .receiving _ => 2 * (c.cap - (c.n + 1)) + 2
  | .exhausted | .releasing _ _ => 1

/-- The same for the world, where nothing is left of an idle transport. -/
def World.left (w : World) : Nat :=
  match w.call with
  | none => 0
  | some c => c.left

/-- The call of this room is in progress, and its return will be number `k`. -/
def Waiting (k cap : Nat) (w : World) : Prop :=
  ∃ c, w.call = some c ∧ w.returns.length = k ∧ c.cap = cap

/-- Return number `k` is that of a call of this room. -/
def HasReturned (k cap : Nat) (w : World) : Prop := ∃ r, w.returns[k]? = some (cap, r)

section Progress

variable {b : Backend} {k cap : Nat} {w t : World} {a : Action}

/-- A return is never taken back. -/
theorem returns_step (h : Step b w a t) : ∃ more, t.returns = w.returns ++ more := by
  cases h with
  | finished | exhausted | released | aborted => exact ⟨_, rfl⟩
  | arrive | newBatch | call | acquired | refused | landed | stopped | drain | dropFrame
    | acquireNone | acquire | write | setLen | dropSlab =>
      exact ⟨[], (List.append_nil _).symm⟩

theorem hasReturned_step (before : HasReturned k cap w) (h : Step b w a t) :
    HasReturned k cap t := by
  obtain ⟨r, answer⟩ := before
  obtain ⟨more, grown⟩ := returns_step h
  refine ⟨r, ?_⟩
  have bound : k < w.returns.length := (List.getElem?_eq_some_iff.mp answer).1
  rw [grown, List.getElem?_append_left bound]
  exact answer

/-- The call goes on: its next step is one less. -/
theorem Waiting.goesOn {c d : BurstCall} (before : Waiting k cap w) (running : w.call = some c)
    (now : t.call = some d) (returns : t.returns = w.returns) (room : d.cap = c.cap)
    (less : d.left + 1 ≤ c.left) : Waiting k cap t ∧ t.left + 1 ≤ w.left := by
  obtain ⟨c', same, count, own⟩ := before
  rw [running, Option.some.injEq] at same
  subst same
  refine ⟨⟨d, now, by rw [returns, count], room.trans own⟩, ?_⟩
  simp only [World.left, now, running]
  exact less

/-- The call returns. -/
theorem Waiting.returns {c : BurstCall} {r : Except TransportError Nat}
    (before : Waiting k cap w) (running : w.call = some c)
    (returns : t.returns = w.returns ++ [(c.cap, r)]) : HasReturned k cap t := by
  obtain ⟨c', same, count, own⟩ := before
  rw [running, Option.some.injEq] at same
  subst same
  refine ⟨r, ?_⟩
  rw [returns, ← count, List.getElem?_concat_length, own]

/-- Somebody else's step leaves the call where it stands. -/
theorem Waiting.beside (before : Waiting k cap w) (call : t.call = w.call)
    (returns : t.returns = w.returns) : Waiting k cap t ∧ t.left + 0 ≤ w.left := by
  obtain ⟨c, running, count, own⟩ := before
  refine ⟨⟨c, call.trans running, by rw [returns, count], own⟩, ?_⟩
  simp only [World.left, call]
  exact Nat.le_refl _

theorem waiting_step (before : Waiting k cap w) (h : Step b w a t) :
    HasReturned k cap t ∨
      Waiting k cap t ∧ t.left + (if a.own then 1 else 0) ≤ w.left := by
  cases h with
  | call idle lent =>
      obtain ⟨c, running, _⟩ := before
      rw [idle] at running
      cases running
  | acquired running pc room got =>
      refine .inr (before.goesOn running rfl rfl rfl ?_)
      simp only [BurstCall.left, pc]
      omega
  | refused running pc room none first =>
      refine .inr (before.goesOn running rfl rfl rfl ?_)
      simp only [BurstCall.left, pc]
      omega
  | landed running pc answer =>
      refine .inr (before.goesOn running rfl rfl rfl ?_)
      simp only [BurstCall.left, pc]
      omega
  | stopped running pc answer =>
      refine .inr (before.goesOn running rfl rfl rfl ?_)
      simp only [BurstCall.left, pc]
      omega
  | finished running | exhausted running | released running | aborted running =>
      exact .inl (before.returns running rfl)
  | arrive | newBatch | drain | dropFrame | acquireNone | acquire | write | setLen | dropSlab =>
      exact .inr (before.beside rfl rfl)

end Progress

/-- **No thread holds up a burst.** From the step that begins a call, in whatever order
arrivals, drains, drops and other holders' uses of the pool fall between its steps: the
call can always take its next step, and has returned once it took two for each datagram
there was room for and one more. -/
theorem burst_waitFree (b : Backend) (slabCount slabSize : Nat) {w u t : World} {i max : Nat}
    {out : FrameBatch UdpFrame} {rest : List (FrameBatch UdpFrame)} {events : List Action}
    (lent : pick w.batches i = some (out, rest))
    (begun : (world b slabCount slabSize).step w (.recvBurst i max) = some u)
    (run : (world b slabCount slabSize).runFrom u events = some t) :
    HasReturned w.returns.length (min max out.spare) t ∨
      (∀ fault, ((world b slabCount slabSize).step t (.next fault)).isSome) ∧
        events.countP Action.own ≤ 2 * min max out.spare := by
  have start : Waiting w.returns.length (min max out.spare) u ∧
      u.left = 2 * min max out.spare + 1 := by
    have first : Step b w (.recvBurst i max) u := step_of_step begun
    cases first with
    | call idle picked =>
        rw [lent, Option.some.injEq, Prod.mk.injEq] at picked
        obtain ⟨rfl, rfl⟩ := picked
        exact ⟨⟨_, rfl, rfl, rfl⟩, rfl⟩
  have stay : ∀ s a v, HasReturned w.returns.length (min max out.spare) s →
      (world b slabCount slabSize).step s a = some v →
      HasReturned w.returns.length (min max out.spare) v :=
    fun s a v before taken => hasReturned_step before (step_of_step taken)
  have step : ∀ s a v, Waiting w.returns.length (min max out.spare) s →
      (world b slabCount slabSize).step s a = some v →
      HasReturned w.returns.length (min max out.spare) v ∨
        Waiting w.returns.length (min max out.spare) v ∧
          v.left + (if a.own then 1 else 0) ≤ s.left :=
    fun s a v before taken => waiting_step before (step_of_step taken)
  rcases System.runFrom_waits Action.own World.left stay step start.1 run with
    returned | ⟨⟨c, running, _⟩, spent⟩
  · exact .inl returned
  · refine .inr ⟨?_, ?_⟩
    · intro fault
      rw [show (world b slabCount slabSize).step t (.next fault) =
        t.call.map fun c => t.next b c fault from rfl, running]
      rfl
    · -- a call that has not returned has a step left
      have more : 0 < t.left := by
        simp only [World.left, running, BurstCall.left]
        split <;> omega
      rw [start.2] at spent
      omega

/-- A burst of one is lent an empty batch, and a datagram arrives after its acquire. -/
def lateArrival : List Action :=
  [.next none, .arrive ⟨[1], someSender⟩, .next none, .next none]

/-- The world in which `lateArrival` begins. -/
def lentOne : World := played .tokio [.newBatch 1, .recvBurst 0 1]

theorem burst_waitFree_late :
    HasReturned 0 1 ((world .tokio 1 2).replay lentOne lateArrival) := by
  have begun : (world .tokio 1 2).step (played .tokio [.newBatch 1]) (.recvBurst 0 1) =
      some lentOne := rfl
  have run : (world .tokio 1 2).runFrom lentOne lateArrival =
      some ((world .tokio 1 2).replay lentOne lateArrival) := rfl
  have lent : pick (played .tokio [.newBatch 1]).batches 0 = some (.withCapacity 1, []) := rfl
  rcases burst_waitFree .tokio 1 2 lent begun run with returned | ⟨_, few⟩
  · exact returned
  · -- it took three steps
    exact absurd few (by decide)

/-! ## Books -/

/-- One call as its caller saw it: the room it was given, what it answered, and the
payloads it put into the batch with their senders. -/
structure Reaped where
  room : Nat
  result : Except TransportError Nat
  put : List (List UInt8 × SocketAddr)

namespace Reaped

/-- The payload bytes put. -/
def bytes (put : List (List UInt8 × SocketAddr)) : Nat := (put.map fun p => p.1.length).sum

/-- What the counters record of a call: nothing unless it answers `Ok`. -/
def record (b : Backend) (metrics : Telemetry) (c : Reaped) : Telemetry :=
  match c.result with
  | .ok _ => metrics.recordRecvBurst b.label c.put.length (bytes c.put % 2 ^ b.accBits)
  | .error _ => metrics

/-- What an answer tells of the batch. -/
structure Told (c : Reaped) : Prop where
  le_room : c.put.length ≤ c.room
  ok : ∀ n, c.result = .ok n → c.put.length = n
  err : ∀ e, c.result = .error e →
    (∃ inUse capacity, e = .poolExhausted inUse capacity ∧ c.put = []) ∨
      ∃ io, e = .io io ∧ io.kind ≠ .wouldBlock ∧ c.put.length < c.room

end Reaped

/-- The call in progress has put `put` into the batch so far. -/
structure Counts (b : Backend) (put : List (List UInt8 × SocketAddr)) (c : BurstCall) : Prop where
  count : c.n = put.length
  shown : c.put.map UdpFrame.origin = put
  bytes : c.bytes = Reaped.bytes put % 2 ^ b.accBits
  room : c.n ≤ c.cap
  inLoop : c.pc ≠ .acquiring → c.n < c.cap
  exhausted : c.pc = .exhausted → put = []

def Underway (b : Backend) (put : List (List UInt8 × SocketAddr)) : Option BurstCall → Prop
  | none => put = []
  | some c => Counts b put c

/-- The calls after a step: those before it, and the one it returned from. -/
inductive Entered (w t : World) (calls : List Reaped) : List Reaped → Prop
  | same : Entered w t calls calls
  | one {c result} (running : w.call = some c) (batches : t.batches = c.out :: w.batches)
      (returns : t.returns = w.returns ++ [(c.cap, result)]) :
      Entered w t calls (calls ++ [⟨c.cap, result, c.put.map UdpFrame.origin⟩])

/-- The history so far is that of these calls, and of the one in progress. -/
structure Booked (b : Backend) (metrics : Telemetry) (calls : List Reaped)
    (put : List (List UInt8 × SocketAddr)) (w : World) : Prop where
  returns : w.returns = calls.map fun c => (c.room, c.result)
  appended : w.appended = calls.flatMap Reaped.put ++ put
  told : ∀ c ∈ calls, c.Told
  metrics : w.metrics = calls.foldl (Reaped.record b) metrics
  underway : Underway b put w.call

theorem Reaped.bytes_concat (put : List (List UInt8 × SocketAddr)) (data : List UInt8)
    (peer : SocketAddr) : bytes (put ++ [(data, peer)]) = bytes put + data.length := by
  simp [bytes]

section Books

variable {b : Backend} {metrics : Telemetry} {calls : List Reaped}
  {put : List (List UInt8 × SocketAddr)} {w t : World} {a : Action} {c : BurstCall}

theorem Booked.counts (booked : Booked b metrics calls put w) (running : w.call = some c) :
    Counts b put c := by
  have underway := booked.underway
  rw [running] at underway
  exact underway

/-- A step no history sees, in a call that goes on as `d`. -/
theorem Booked.goesOn {d : BurstCall} (booked : Booked b metrics calls put w)
    (counts : Counts b put d) (now : t.call = some d) (returns : t.returns = w.returns)
    (appended : t.appended = w.appended) (recorded : t.metrics = w.metrics) :
    Booked b metrics calls put t where
  returns := returns.trans booked.returns
  appended := appended.trans booked.appended
  told := booked.told
  metrics := recorded.trans booked.metrics
  underway := by
    rw [now]
    exact counts

/-- A step beside the call. -/
theorem Booked.beside (booked : Booked b metrics calls put w) (call : t.call = w.call)
    (returns : t.returns = w.returns) (appended : t.appended = w.appended)
    (recorded : t.metrics = w.metrics) : Booked b metrics calls put t where
  returns := returns.trans booked.returns
  appended := appended.trans booked.appended
  told := booked.told
  metrics := recorded.trans booked.metrics
  underway := by
    rw [call]
    exact booked.underway

/-- A call that returns is booked with what it put. -/
theorem Booked.closed {result : Except TransportError Nat} (booked : Booked b metrics calls put w)
    (idle : t.call = none) (returns : t.returns = w.returns ++ [(c.cap, result)])
    (appended : t.appended = w.appended)
    (recorded : t.metrics = Reaped.record b w.metrics ⟨c.cap, result, put⟩)
    (told : Reaped.Told ⟨c.cap, result, put⟩) :
    Booked b metrics (calls ++ [⟨c.cap, result, put⟩]) [] t where
  returns := by
    rw [returns, booked.returns, List.map_append]
    rfl
  appended := by
    rw [appended, booked.appended, List.flatMap_append, List.flatMap_singleton, List.append_nil]
  told := by
    rw [List.forall_mem_append, List.forall_mem_singleton]
    exact ⟨booked.told, told⟩
  metrics := by
    rw [recorded, booked.metrics, List.foldl_append]
    rfl
  underway := by
    rw [idle]
    exact rfl

/-- `Ok` counts what was put, and is recorded with its bytes. -/
theorem Counts.finish (counts : Counts b put c) (w : World) :
    Reaped.Told ⟨c.cap, .ok c.n, put⟩ ∧
      (w.finish b c).metrics = Reaped.record b w.metrics ⟨c.cap, .ok c.n, put⟩ := by
  refine ⟨⟨?_, ?_, ?_⟩, ?_⟩
  · show put.length ≤ c.cap
    rw [← counts.count]
    exact counts.room
  · intro n ok
    cases ok
    exact counts.count.symm
  · intro e err
    cases err
  · show w.metrics.recordRecvBurst b.label c.n c.bytes = _
    rw [counts.count, counts.bytes]
    rfl

theorem Counts.landed (counts : Counts b put c) (more : c.n < c.cap)
    (within : c.n ≤ c.out.frames.length) (slab : VecSlab) (data : List UInt8)
    (peer : SocketAddr) :
    Counts b (put ++ [(data, peer)])
      { c with
        out := c.out.push ⟨slab, peer, data⟩
        n := c.n + 1
        bytes := b.accumulate c.bytes data.length
        pc := .acquiring } where
  count := by
    show c.n + 1 = (put ++ [(data, peer)]).length
    rw [counts.count, List.length_append, List.length_singleton]
  shown := by
    rw [BurstCall.put_push within rfl rfl, List.map_append, counts.shown]
    rfl
  bytes := by
    show (c.bytes + data.length) % 2 ^ b.accBits = _
    rw [counts.bytes, Reaped.bytes_concat, Nat.mod_add_mod]
  room := more
  inLoop := fun other => absurd rfl other
  exhausted := fun other => by cases other

/-- A call in its loop goes on to another point of it. -/
theorem Counts.goesOn (counts : Counts b put c) (more : c.n < c.cap) (pc : BurstPc)
    (empty : pc = .exhausted → put = []) : Counts b put { c with pc } where
  count := counts.count
  shown := counts.shown
  bytes := counts.bytes
  room := counts.room
  inLoop := fun _ => more
  exhausted := empty

/-- The books after a return. -/
theorem Booked.entered {result : Except TransportError Nat} (booked : Booked b metrics calls put w)
    (running : w.call = some c) (idle : t.call = none)
    (batches : t.batches = c.out :: w.batches)
    (returns : t.returns = w.returns ++ [(c.cap, result)]) (appended : t.appended = w.appended)
    (recorded : t.metrics = Reaped.record b w.metrics ⟨c.cap, result, put⟩)
    (told : Reaped.Told ⟨c.cap, result, put⟩) :
    ∃ calls' put', Booked b metrics calls' put' t ∧ Entered w t calls calls' := by
  have closed := booked.closed idle returns appended recorded told
  have shown := (booked.counts running).shown
  subst shown
  exact ⟨_, [], closed, .one running batches returns⟩

theorem booked_step {slabCount slabSize : Nat} (owned : Owned slabCount slabSize w.toShared)
    (counted : Counted w) (booked : Booked b metrics calls put w) (h : Step b w a t) :
    ∃ calls' put', Booked b metrics calls' put' t ∧ Entered w t calls calls' := by
  cases h with
  | call idle lent =>
      have underway := booked.underway
      rw [idle] at underway
      have nothing : put = [] := underway
      subst nothing
      refine ⟨calls, [], booked.goesOn ⟨rfl, ?_, ?_, Nat.zero_le _, ?_, ?_⟩ rfl rfl rfl rfl, .same⟩
      · rw [BurstCall.put_fresh rfl]
        rfl
      · exact (Nat.zero_mod _).symm
      · exact fun other => absurd rfl other
      · exact fun _ => rfl
  | @acquired fault c slab pool running pc room got =>
      have counts := (booked.counts running).goesOn room (.receiving slab) fun other => by
        cases other
      exact ⟨calls, put, booked.goesOn counts rfl rfl rfl rfl, .same⟩
  | refused running pc room none first =>
      have counts := booked.counts running
      have nothing := List.eq_nil_of_length_eq_zero (counts.count.symm.trans first)
      have still := counts.goesOn room .exhausted fun _ => nothing
      exact ⟨calls, put, booked.goesOn still rfl rfl rfl rfl, .same⟩
  | finished running pc why =>
      obtain ⟨told, recorded⟩ := (booked.counts running).finish w
      exact booked.entered running rfl rfl rfl rfl recorded told
  | released running pc drained =>
      obtain ⟨told, recorded⟩ := (booked.counts running).finish w
      exact booked.entered running rfl rfl rfl rfl recorded told
  | exhausted running pc =>
      have nothing := (booked.counts running).exhausted pc
      subst nothing
      refine booked.entered running rfl rfl rfl rfl rfl ⟨Nat.zero_le _, ?_, ?_⟩
      · intro n ok
        cases ok
      · intro e err
        cases err
        exact .inl ⟨_, _, rfl, rfl⟩
  | aborted running pc failed =>
      have counts := booked.counts running
      have more : put.length < _ := counts.count ▸ counts.inLoop (by rw [pc]; simp)
      refine booked.entered running rfl rfl rfl rfl rfl ⟨Nat.le_of_lt more, ?_, ?_⟩
      · intro n ok
        cases ok
      · intro e err
        cases err
        exact .inr ⟨_, rfl, failed, more⟩
  | @stopped fault c slab queue e running pc answer =>
      have counts := booked.counts running
      have more := counts.inLoop (by rw [pc]; simp)
      have still := counts.goesOn more (.releasing slab e) fun other => by cases other
      exact ⟨calls, put, booked.goesOn still rfl rfl rfl rfl, .same⟩
  | @landed fault c slab queue data peer running pc answer =>
      have counts := booked.counts running
      have more := counts.inLoop (by rw [pc]; simp)
      have fits : data.length ≤ w.pool.slabSize := by
        cases answer with
        | datagram d rest head => exact List.length_take_le _ _
      have appended := landed_payload b queue peer owned running pc fits
      refine ⟨calls, put ++ [(data, peer)],
        ⟨booked.returns, ?_, booked.told, booked.metrics, ?_⟩, .same⟩
      · rw [appended, booked.appended, List.append_assoc]
      · exact counts.landed more (counted c running) _ data peer
  | arrive | newBatch | drain | dropFrame | acquireNone | acquire | write | setLen | dropSlab =>
      exact ⟨calls, put, booked.beside rfl rfl rfl rfl, .same⟩

/-- A batch just handed back is alive with all its frames. -/
theorem World.returned_live (batches : t.batches = c.out :: w.batches) :
    (c.out.frames : Multiset UdpFrame) ≤ t.liveFrames := by
  have first : t.atRest = (c.out.frames : Multiset UdpFrame) + w.atRest := by
    rw [World.atRest, batches, ← Multiset.cons_coe, Multiset.cons_bind]
    rfl
  rw [World.liveFrames, first]
  exact (Multiset.le_add_right _ _).trans
    ((Multiset.le_add_left _ _).trans (Multiset.le_add_right _ _))

/-- Every call booked handed back the batch it was lent, and so does the one just entered. -/
theorem handedBack_entered {sys : System World Action} {s : World} {events : List Action}
    {calls' : List Reaped} (ran : sys.runFrom s events = some w) (taken : sys.step w a = some t)
    (stable : Stable t) (working : ∀ c, w.call = some c → Working sys s events w c)
    (count : w.returns.length = calls.length)
    (back : ∀ k call, calls[k]? = some call →
      HandedBack sys s events k call.room call.result call.put)
    (entered : Entered w t calls calls') : ∀ k call, calls'[k]? = some call →
      HandedBack sys s (events ++ [a]) k call.room call.result call.put := by
  cases entered with
  | same => exact fun k call entry => (back k call entry).append a
  | @one c result running batches returns =>
      intro k call entry
      rcases Nat.lt_or_ge k calls.length with old | new
      · rw [List.getElem?_append_left old] at entry
        exact (back k call entry).append a
      · have last : k = calls.length := by
          have := (List.getElem?_eq_some_iff.mp entry).1
          rw [List.length_append, List.length_singleton] at this
          omega
        subst last
        rw [List.getElem?_concat_length, Option.some.injEq] at entry
        subst entry
        have alive : (c.put : Multiset UdpFrame) ≤ t.liveFrames :=
          c.put_le.trans (World.returned_live batches)
        exact .intro rfl ran running (working c running) taken count returns batches
          (view_eq_origin stable alive)

end Books

/-- **The books of a run.** For every interleaving of arrivals, bursts, drains, drops,
outside uses of the pool and socket errors, the frames appended are those of the calls that
returned, in order, and of the one in progress. Each return hands back the batch its call was
lent, with the frames it put behind those that were there, and tells what it put: `Ok(n)`
exactly `n` and never more than its room, `PoolExhausted` nothing, an I/O error less than
the room. The counters are those of the calls that answered `Ok`, each recorded once. -/
theorem calls_booked (b : Backend) (slabCount slabSize : Nat) {s t : World}
    {events : List Action} (start : (world b slabCount slabSize).init s)
    (run : (world b slabCount slabSize).runFrom s events = some t) :
    ∃ (calls : List Reaped) (put : List (List UInt8 × SocketAddr)),
      t.returns = (calls.map fun c => (c.room, c.result)) ∧
      t.appended = calls.flatMap Reaped.put ++ put ∧ (t.call = none → put = []) ∧
      (∀ c, t.call = some c → c.put.map (UdpFrame.view t.pool) = put ∧
        Working (world b slabCount slabSize) s events t c) ∧
      (∀ c ∈ calls, c.Told) ∧
      (∀ k c, calls[k]? = some c →
        HandedBack (world b slabCount slabSize) s events k c.room c.result c.put) ∧
      t.metrics = calls.foldl (Reaped.record b) s.metrics := by
  have books : (world b slabCount slabSize).Reachable t ∧
      (∀ c, t.call = some c → Working (world b slabCount slabSize) s events t c) ∧
      ∃ calls put, Booked b s.metrics calls put t ∧ ∀ k c, calls[k]? = some c →
        HandedBack (world b slabCount slabSize) s events k c.room c.result c.put := by
    refine System.runFrom_induct (P := fun events w =>
      (world b slabCount slabSize).Reachable w ∧
      (∀ c, w.call = some c → Working (world b slabCount slabSize) s events w c) ∧
      ∃ calls put, Booked b s.metrics calls put w ∧ ∀ k c, calls[k]? = some c →
        HandedBack (world b slabCount slabSize) s events k c.room c.result c.put) ?_ ?_ run
    · obtain ⟨pool, metrics, built, rfl⟩ := start
      refine ⟨.init ⟨pool, metrics, built, rfl⟩, ?_, [], [], ⟨rfl, rfl, ?_, rfl, rfl⟩, ?_⟩
      · intro c running
        cases running
      · intro c member
        cases member
      · intro k c entry
        cases entry
    · rintro before w a u ran ⟨reach, working, calls, put, booked, back⟩ taken
      have owned := world_owned b slabCount slabSize w reach
      have counted := world_counted b slabCount slabSize w reach
      have stable := world_stable b slabCount slabSize u (reach.step taken)
      have count : w.returns.length = calls.length := by rw [booked.returns, List.length_map]
      obtain ⟨calls', put', after, entered⟩ :=
        booked_step owned counted booked (step_of_step taken)
      exact ⟨reach.step taken, working_step counted ran working (step_of_step taken), calls', put',
        after, handedBack_entered ran taken stable working count back entered⟩
  obtain ⟨reach, working, calls, put, booked, back⟩ := books
  refine ⟨calls, put, booked.returns, booked.appended, ?_, ?_, booked.told, back, booked.metrics⟩
  · intro idle
    have underway := booked.underway
    rw [idle] at underway
    exact underway
  · intro c running
    have stable := world_stable b slabCount slabSize t reach
    have shown := view_eq_origin stable (BurstCall.put_live running)
    exact ⟨shown.trans (booked.counts running).shown, working c running⟩

theorem calls_booked_reused :
    ∃ (calls : List Reaped) (put : List (List UInt8 × SocketAddr)),
      (calls.map fun c => (c.room, c.result)) = [(1, .ok 1), (1, .ok 1)] ∧
      calls.flatMap Reaped.put ++ put = [([7, 7], someSender), ([9], someSender)] ∧
      ∀ c ∈ calls, c.Told := by
  have start : (world .mio 1 2).init oneSlot := ⟨_, _, rfl, rfl⟩
  have run : (world .mio 1 2).runFrom oneSlot slotReused = some (played .mio slotReused) := rfl
  obtain ⟨calls, put, returns, appended, _, _, told, _⟩ := calls_booked .mio 1 2 start run
  exact ⟨calls, put, returns.symm, appended.symm, told⟩

end Transports.Udp
