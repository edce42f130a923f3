import Transports.Udp.World

/-!
# From hand to hand

A batch goes whole from its owner to the call it is lent to, and whole back. In between
the call puts frames at its end, one for each datagram it lands. `appended` is the record
of these frames: it grows when the batch in a call's hands does, by what the frame shows.
-/

namespace Transports.Udp

open Lib Transports.Core Transports.Pool

/-- What a frame's own `recv_from` gave. -/
def UdpFrame.origin (frame : UdpFrame) : List UInt8 × SocketAddr := (frame.landed, frame.peer)

/-- What a frame shows now. -/
def UdpFrame.view (pool : VecPool) (frame : UdpFrame) : List UInt8 × SocketAddr :=
  (frame.payload pool, frame.peer)

/-- The frames the call in progress has appended to its batch. -/
def BurstCall.put (c : BurstCall) : List UdpFrame :=
  c.out.frames.drop (c.out.frames.length - c.n)

/-- What a step does to the batches, and to the record of what went into them. The call, if
there is one, stands where it did in the first three. -/
inductive Handed (w t : World) : Prop
  | beside (call : t.call = w.call) (batches : t.batches = w.batches)
      (appended : t.appended = w.appended) (returns : t.returns = w.returns)
  | fresh {cap} (call : t.call = w.call) (batches : t.batches = .withCapacity cap :: w.batches)
      (appended : t.appended = w.appended) (returns : t.returns = w.returns)
  | drained {i out rest} (call : t.call = w.call) (batch : pick w.batches i = some (out, rest))
      (batches : t.batches = out.drain.2 :: rest) (frames : t.frames = w.frames ++ out.frames)
      (appended : t.appended = w.appended) (returns : t.returns = w.returns)
  | lent {i c} (idle : w.call = none) (now : t.call = some c) (fresh : c.n = 0)
      (batch : pick w.batches i = some (c.out, t.batches))
      (appended : t.appended = w.appended) (returns : t.returns = w.returns)
  | goesOn {c pc} (running : w.call = some c) (now : t.call = some { c with pc })
      (batches : t.batches = w.batches) (appended : t.appended = w.appended)
      (returns : t.returns = w.returns)
  | put {c d frame} (running : w.call = some c) (now : t.call = some d) (cap : d.cap = c.cap)
      (count : d.n = c.n + 1) (batch : d.out = c.out.push frame)
      (batches : t.batches = w.batches)
      (appended : t.appended = w.appended ++ [frame.view t.pool]) (returns : t.returns = w.returns)
  | returned {c result} (running : w.call = some c) (idle : t.call = none)
      (batches : t.batches = c.out :: w.batches) (appended : t.appended = w.appended)
      (returns : t.returns = w.returns ++ [(c.cap, result)])

section Steps

variable {b : Backend} {w t : World} {a : Action} {c : BurstCall}

/-- A landing appends its frame to those of the call. -/
theorem BurstCall.put_push (count : c.n ≤ c.out.frames.length) {d : BurstCall} {frame : UdpFrame}
    (batch : d.out = c.out.push frame) (more : d.n = c.n + 1) : d.put = c.put ++ [frame] := by
  have start : (c.out.frames ++ [frame]).length - (c.n + 1) = c.out.frames.length - c.n := by
    rw [List.length_append, List.length_singleton]
    omega
  simp only [put, batch, more, FrameBatch.push_frames, start]
  exact List.drop_append_of_le_length (Nat.sub_le _ _)

/-- Nothing is put by a call that has landed nothing. -/
theorem BurstCall.put_fresh (fresh : c.n = 0) : c.put = [] := by
  rw [put, fresh, Nat.sub_zero, List.drop_length]

theorem BurstCall.put_length (count : c.n ≤ c.out.frames.length) : c.put.length = c.n := by
  rw [put, List.length_drop]
  omega

theorem BurstCall.put_le (c : BurstCall) : (c.put : Multiset UdpFrame) ≤ c.out.frames :=
  Multiset.coe_le.mpr (List.drop_sublist _ _).subperm

theorem handed_of_step (h : Step b w a t) : Handed w t := by
  cases h with
  | arrive | dropFrame | acquireNone | acquire | write | setLen | dropSlab =>
      exact .beside rfl rfl rfl rfl
  | newBatch cap => exact .fresh rfl rfl rfl rfl
  | drain picked => exact .drained rfl picked rfl rfl rfl rfl
  | call idle lent => exact .lent idle rfl rfl lent rfl rfl
  | acquired running | refused running | stopped running => exact .goesOn running rfl rfl rfl rfl
  | landed running => exact .put running rfl rfl rfl rfl rfl rfl rfl
  | finished running | exhausted running | released running | aborted running =>
      exact .returned running rfl rfl rfl rfl

/-- A call has put no more frames than its batch holds. -/
def Counted (w : World) : Prop := ∀ c, w.call = some c → c.n ≤ c.out.frames.length

theorem counted_of_handed (counted : Counted w) (handed : Handed w t) : Counted t := by
  intro d now
  cases handed with
  | beside call | fresh call | drained call => exact counted d (call ▸ now)
  | lent idle own fresh =>
      rw [own, Option.some.injEq] at now
      subst now
      rw [fresh]
      exact Nat.zero_le _
  | goesOn running own =>
      rw [own, Option.some.injEq] at now
      have before := counted _ running
      exact now ▸ before
  | put running own cap count batch =>
      rw [own, Option.some.injEq] at now
      subst now
      rw [count, batch, FrameBatch.push_frames, List.length_append]
      exact Nat.succ_le_succ (counted _ running)
  | returned running idle =>
      rw [idle] at now
      cases now

end Steps

theorem world_counted (b : Backend) (slabCount slabSize : Nat) :
    (world b slabCount slabSize).Invariant Counted := by
  refine System.Invariant.of_step (System.Invariant.true _) ?_ ?_
  · rintro w ⟨pool, metrics, _, rfl⟩ c running
    cases running
  · intro w a t _ counted taken
    exact counted_of_handed counted (handed_of_step (step_of_step taken))

/-! ## The calls of a run -/

/-- After these events the call `c` is in progress: one of them lent it a batch, and what it
put since stands behind the frames that batch came with. -/
inductive Working (sys : System World Action) (s : World) (events : List Action) (w : World)
    (c : BurstCall) : Prop
  | intro {before during : List Action} {i max : Nat} {out : FrameBatch UdpFrame}
      {rest : List (FrameBatch UdpFrame)} {v : World}
      (split : events = before ++ .recvBurst i max :: during)
      (ran : sys.runFrom s before = some v) (lent : pick v.batches i = some (out, rest))
      (room : c.cap = min max out.spare) (since : w.returns = v.returns)
      (batch : c.out.frames = out.frames ++ c.put)

/-- Return number `k` of the events hands back the batch its call was lent, with frames at
its end that show `put`. -/
inductive HandedBack (sys : System World Action) (s : World) (events : List Action) (k room : Nat)
    (result : Except TransportError Nat) (put : List (List UInt8 × SocketAddr)) : Prop
  | intro {before after : List Action} {a : Action} {w u : World} {c : BurstCall}
      (split : events = before ++ a :: after) (ran : sys.runFrom s before = some w)
      (running : w.call = some c) (working : Working sys s before w c)
      (taken : sys.step w a = some u) (number : w.returns.length = k)
      (returns : u.returns = w.returns ++ [(room, result)])
      (batches : u.batches = c.out :: w.batches) (shown : c.put.map (UdpFrame.view u.pool) = put)

section Calls

variable {sys : System World Action} {s w t : World} {events : List Action} {a : Action}
  {c d : BurstCall}

theorem Working.goesOn (working : Working sys s events w c) (returns : t.returns = w.returns)
    (cap : d.cap = c.cap) {more : List UdpFrame} (out : d.out.frames = c.out.frames ++ more)
    (put : d.put = c.put ++ more) : Working sys s (events ++ [a]) t d := by
  obtain @⟨before, during, i, max, came, rest, v, split, ran, lent, room, since, batch⟩ := working
  have later : events ++ [a] = before ++ .recvBurst i max :: (during ++ [a]) := by
    rw [split, List.append_assoc, List.cons_append]
  refine .intro later ran lent (cap.trans room) (returns.trans since) ?_
  rw [out, batch, put, List.append_assoc]

/-- What a step leaves in progress is the call that was, or one it has just lent a batch. -/
theorem working_step (counted : Counted w) (ran : sys.runFrom s events = some w)
    (working : ∀ c, w.call = some c → Working sys s events w c) {b : Backend} (h : Step b w a t) :
    ∀ d, t.call = some d → Working sys s (events ++ [a]) t d := by
  intro d now
  cases h with
  | @call i max out batches idle lent =>
      cases now
      refine .intro rfl ran lent rfl rfl ?_
      rw [BurstCall.put_fresh rfl, List.append_nil]
  | arrive | newBatch | drain | dropFrame | acquireNone | acquire | write | setLen | dropSlab =>
      exact (working d now).goesOn rfl rfl (List.append_nil _).symm (List.append_nil _).symm
  | acquired running | refused running | stopped running =>
      cases now
      exact (working _ running).goesOn rfl rfl (List.append_nil _).symm (List.append_nil _).symm
  | landed running =>
      cases now
      exact (working _ running).goesOn rfl rfl (FrameBatch.push_frames _ _)
        (BurstCall.put_push (counted _ running) rfl rfl)
  | finished | exhausted | released | aborted => cases now

theorem HandedBack.append {k room : Nat} {result : Except TransportError Nat}
    {put : List (List UInt8 × SocketAddr)} (back : HandedBack sys s events k room result put)
    (a : Action) : HandedBack sys s (events ++ [a]) k room result put := by
  obtain @⟨before, after, last, w, u, c, split, ran, running, working, taken, number, returns,
    batches, shown⟩ := back
  have later : events ++ [a] = before ++ last :: (after ++ [a]) := by
    rw [split, List.append_assoc, List.cons_append]
  exact .intro later ran running working taken number returns batches shown

end Calls

end Transports.Udp
