import Mathlib.Data.Multiset.Bind
import Mathlib.Tactic.Abel
import Transports.Udp.World

/-!
# Who holds which slab

Every slab that is out is in the hands of exactly one party: the call in
progress, a frame (in the lent batch, in a batch at rest or with the
application), or another holder of the pool. `World.live` collects them, and
`world_refines_shared` says that the transport's runs are runs of the pool, so
slot ownership holds of them.

Frame stability is the first use: the slab of a live frame is nobody else's, so
no step but its own drop touches the slot.
-/

namespace Transports.Udp

open Lib Transports.Core Transports.Pool

/-- The slab a burst holds between its acquire and its push or drop. -/
def BurstPc.slabs : BurstPc → Multiset VecSlab
  | .acquiring | .exhausted => 0
  | .receiving slab | .releasing slab _ => {slab}

namespace World

/-- The frames in the batch lent to the call in progress. -/
def lent (w : World) : Multiset UdpFrame :=
  match w.call with
  | none => 0
  | some c => c.out.frames

/-- The slab of the call in progress. -/
def inFlight (w : World) : Multiset VecSlab :=
  match w.call with
  | none => 0
  | some c => c.pc.slabs

/-- The frames in the batches at rest. -/
def atRest (w : World) : Multiset UdpFrame :=
  (w.batches : Multiset (FrameBatch UdpFrame)).bind fun out => (out.frames : Multiset UdpFrame)

/-- All frames that have not been dropped. -/
def liveFrames (w : World) : Multiset UdpFrame :=
  w.lent + w.atRest + (w.frames : Multiset UdpFrame)

/-- All slabs that have not been dropped. -/
def live (w : World) : Multiset VecSlab :=
  w.inFlight + w.liveFrames.map UdpFrame.slab + (w.slabs : Multiset VecSlab)

/-- The world as its pool sees it. -/
def toShared (w : World) : Shared := ⟨w.pool, w.live, 1⟩

end World

/-! ## What one step does to the frames and slabs -/

/-- One step moves no frame out of the live ones except to drop it, and adds one
only by landing it. -/
inductive Moved (w t : World) : Prop
  /-- nothing the pool can see -/
  | same (pool : t.pool = w.pool) (frames : t.liveFrames = w.liveFrames) (live : t.live = w.live)
  | acquired {len slab} (got : w.pool.acquire len = some (slab, t.pool))
      (frames : t.liveFrames = w.liveFrames) (live : t.live = slab ::ₘ w.live)
  | landed {slab rest data peer} (held : w.live = slab ::ₘ rest)
      (apart : ∀ frame ∈ w.liveFrames, frame.slab ∈ rest) (fits : data.length ≤ w.pool.slabSize)
      (pool : t.pool = w.pool.write slab data)
      (frames : t.liveFrames = ⟨slab.setLen data.length, peer, data⟩ ::ₘ w.liveFrames)
      (live : t.live = slab.setLen data.length ::ₘ rest)
  | released {slab} (held : w.live = slab ::ₘ t.live) (pool : t.pool = w.pool.release slab)
      (frames : t.liveFrames ≤ w.liveFrames)
  | wrote {slab rest} (held : w.live = slab ::ₘ rest)
      (apart : ∀ frame ∈ w.liveFrames, frame.slab ∈ rest) (data : List UInt8)
      (pool : t.pool = w.pool.write slab data) (frames : t.liveFrames = w.liveFrames)
      (live : t.live = w.live)
  | setLen {slab rest} (held : w.live = slab ::ₘ rest) (len : Nat)
      (pool : t.pool = w.pool) (frames : t.liveFrames = w.liveFrames)
      (live : t.live = slab.setLen len ::ₘ rest)

section Parts

variable {w t : World} {c : BurstCall}

theorem World.lent_idle (idle : w.call = none) : w.lent = 0 := by
  simp only [lent, idle]

theorem World.lent_running (running : w.call = some c) : w.lent = c.out.frames := by
  simp only [lent, running]

theorem World.inFlight_idle (idle : w.call = none) : w.inFlight = 0 := by
  simp only [inFlight, idle]

theorem World.inFlight_running (running : w.call = some c) : w.inFlight = c.pc.slabs := by
  simp only [inFlight, running]

theorem World.atRest_of_pick {i : Nat} {out : FrameBatch UdpFrame}
    {rest : List (FrameBatch UdpFrame)} (picked : pick w.batches i = some (out, rest)) :
    w.atRest = (out.frames : Multiset UdpFrame) +
      (rest : Multiset (FrameBatch UdpFrame)).bind fun out => (out.frames : Multiset UdpFrame) := by
  rw [atRest, pick_coe picked, Multiset.cons_bind]

/-- A call that returns puts the lent batch back with the others. -/
theorem World.liveFrames_returned (running : w.call = some c) (idle : t.call = none)
    (batches : t.batches = c.out :: w.batches) (frames : t.frames = w.frames) :
    t.liveFrames = w.liveFrames := by
  simp only [liveFrames, lent_running running, lent_idle idle, atRest, batches, frames,
    ← Multiset.cons_coe, Multiset.cons_bind, zero_add]

/-- A call that goes on keeps the batch it was lent. -/
theorem World.liveFrames_goesOn {pc : BurstPc} (running : w.call = some c)
    (now : t.call = some { c with pc }) (batches : t.batches = w.batches)
    (frames : t.frames = w.frames) : t.liveFrames = w.liveFrames := by
  simp only [liveFrames, lent_running running, lent_running now, atRest, batches, frames]

/-- A step that shuffles batches and program counters only. -/
theorem Moved.of_frames (pool : t.pool = w.pool) (frames : t.liveFrames = w.liveFrames)
    (inFlight : t.inFlight = w.inFlight) (slabs : t.slabs = w.slabs) : Moved w t :=
  .same pool frames (by simp only [World.live, frames, inFlight, slabs])

/-- The call goes on with the slab it has, or without one. -/
theorem Moved.goesOn {pc : BurstPc} (running : w.call = some c)
    (now : t.call = some { c with pc }) (still : pc.slabs = c.pc.slabs) (pool : t.pool = w.pool)
    (batches : t.batches = w.batches) (frames : t.frames = w.frames)
    (slabs : t.slabs = w.slabs) : Moved w t := by
  refine .of_frames pool (World.liveFrames_goesOn running now batches frames) ?_ slabs
  rw [World.inFlight_running running, World.inFlight_running now]
  exact still

/-- The call returns, and had no slab. -/
theorem Moved.returned (running : w.call = some c) (idle : t.call = none)
    (empty : c.pc.slabs = 0) (pool : t.pool = w.pool) (batches : t.batches = c.out :: w.batches)
    (frames : t.frames = w.frames) (slabs : t.slabs = w.slabs) : Moved w t := by
  refine .of_frames pool (World.liveFrames_returned running idle batches frames) ?_ slabs
  rw [World.inFlight_running running, World.inFlight_idle idle, empty]

/-- The call returns and drops its slab. -/
theorem Moved.returned_slab {slab : VecSlab} (running : w.call = some c) (idle : t.call = none)
    (holds : c.pc.slabs = {slab}) (pool : t.pool = w.pool.release slab)
    (batches : t.batches = c.out :: w.batches) (frames : t.frames = w.frames)
    (slabs : t.slabs = w.slabs) : Moved w t := by
  have kept := World.liveFrames_returned running idle batches frames
  have held : w.live = slab ::ₘ t.live := by
    rw [World.live, World.live, kept, slabs, World.inFlight_running running,
      World.inFlight_idle idle, holds, zero_add, add_assoc, Multiset.singleton_add]
  exact .released held pool kept.le

end Parts

theorem moved_of_step {b : Backend} {w t : World} {a : Action} (h : Step b w a t) :
    Moved w t := by
  cases h with
  | arrive d => exact .same rfl rfl rfl
  | newBatch cap =>
      refine .of_frames rfl ?_ rfl rfl
      simp only [World.liveFrames, World.atRest, World.lent, ← Multiset.cons_coe,
        Multiset.cons_bind, FrameBatch.withCapacity, Multiset.coe_nil, zero_add]
  | call idle picked =>
      refine .of_frames rfl ?_ ?_ rfl
      · rw [World.liveFrames, World.liveFrames, World.atRest_of_pick picked,
          World.lent_idle idle, zero_add]
        rfl
      · rw [World.inFlight_idle idle]
        rfl
  | @acquired fault c slab pool running pc room got =>
      have frames : World.liveFrames
          { w with pool, call := some { c with pc := .receiving slab } } = w.liveFrames :=
        World.liveFrames_goesOn running rfl rfl rfl
      refine .acquired got frames ?_
      rw [World.live, World.live, frames, World.inFlight_running running, pc]
      simp [World.inFlight, BurstPc.slabs]
  | refused running pc room none first =>
      exact .goesOn running rfl (by rw [pc]; rfl) rfl rfl rfl rfl
  | finished running pc why => exact .returned running rfl (by rw [pc]; rfl) rfl rfl rfl rfl
  | exhausted running pc => exact .returned running rfl (by rw [pc]; rfl) rfl rfl rfl rfl
  | @landed fault c slab queue data peer running pc answer =>
      have frames : (w.land b c slab queue data peer).liveFrames =
          ⟨slab.setLen data.length, peer, data⟩ ::ₘ w.liveFrames := by
        simp only [World.liveFrames, World.land, World.lent, running, World.atRest,
          FrameBatch.push_frames, ← Multiset.coe_add, Multiset.coe_singleton,
          ← Multiset.singleton_add]
        abel
      have fits : data.length ≤ w.pool.slabSize := by
        cases answer with
        | datagram d _ _ => exact List.length_take_le _ _
      have held : w.live = slab ::ₘ (w.liveFrames.map UdpFrame.slab + ↑w.slabs) := by
        rw [World.live, World.inFlight_running running, pc, BurstPc.slabs, add_assoc,
          Multiset.singleton_add]
      refine .landed held ?_ fits rfl frames ?_
      · intro frame out
        exact Multiset.mem_add.mpr (.inl (Multiset.mem_map_of_mem _ out))
      · rw [World.live, frames, Multiset.map_cons]
        simp [World.land, World.inFlight, BurstPc.slabs]
  | stopped running pc answer => exact .goesOn running rfl (by rw [pc]; rfl) rfl rfl rfl rfl
  | released running pc drained =>
      exact .returned_slab running rfl (by rw [pc]; rfl) rfl rfl rfl rfl
  | aborted running pc failed =>
      exact .returned_slab running rfl (by rw [pc]; rfl) rfl rfl rfl rfl
  | drain picked =>
      refine .of_frames rfl ?_ rfl rfl
      rw [World.liveFrames, World.liveFrames, World.atRest_of_pick picked]
      simp only [World.lent, World.atRest, ← Multiset.cons_coe, ← Multiset.coe_add,
        Multiset.cons_bind, FrameBatch.drain_fst, FrameBatch.drain_snd_frames, Multiset.coe_nil]
      abel
  | @dropFrame k frame rest picked =>
      have frames : w.liveFrames =
          frame ::ₘ
            World.liveFrames { w with pool := w.pool.release frame.slab, frames := rest } := by
        rw [World.liveFrames, World.liveFrames, pick_coe picked, Multiset.add_cons]
        rfl
      have held : w.live = frame.slab ::ₘ
          World.live { w with pool := w.pool.release frame.slab, frames := rest } := by
        rw [World.live, World.live, frames, Multiset.map_cons, Multiset.add_cons,
          Multiset.cons_add]
        rfl
      exact .released held rfl (frames ▸ Multiset.le_cons_self _ _)
  | acquireNone none => exact .same rfl rfl rfl
  | acquire got =>
      refine .acquired got rfl ?_
      rw [World.live, World.live, ← Multiset.cons_coe, Multiset.add_cons]
      rfl
  | @write k data slab held =>
      obtain ⟨rest, split⟩ : ∃ rest, (w.slabs : Multiset VecSlab) = slab ::ₘ rest :=
        Multiset.exists_cons_of_mem (Multiset.mem_coe.mpr (List.mem_of_getElem? held))
      have others : w.live = slab ::ₘ (w.inFlight + w.liveFrames.map UdpFrame.slab + rest) := by
        rw [World.live, split, Multiset.add_cons]
      refine .wrote others ?_ data rfl rfl rfl
      intro frame out
      simp only [Multiset.mem_add]
      exact .inl (.inr (Multiset.mem_map_of_mem _ out))
  | @setLen k len slab rest picked =>
      have held : w.live = slab ::ₘ (w.inFlight + w.liveFrames.map UdpFrame.slab + ↑rest) := by
        rw [World.live, pick_coe picked, Multiset.add_cons]
      refine .setLen held len rfl rfl ?_
      rw [World.live, ← Multiset.cons_coe, Multiset.add_cons]
      rfl
  | @dropSlab k slab rest picked =>
      have held : w.live =
          slab ::ₘ World.live { w with pool := w.pool.release slab, slabs := rest } := by
        rw [World.live, World.live, pick_coe picked, Multiset.add_cons]
        rfl
      exact .released held rfl le_rfl

/-! ## The pool under the world -/

/-- Every run of the transport is a run of its pool: a landing is a write and a
`set_len` through the slab in flight, a drop is a drop, and what the transport
does to its queue and batches the pool does not see. -/
def world_refines_shared (b : Backend) (slabCount slabSize : Nat) :
    System.Simulation (world b slabCount slabSize) (shared slabCount slabSize) where
  abs := World.toShared
  init := by
    rintro w ⟨pool, metrics, built, rfl⟩
    exact ⟨pool, built, rfl⟩
  step := by
    intro w a t reach taken
    cases moved_of_step (step_of_step taken) with
    | same pool frames live =>
        exact ⟨[], by simp only [System.runFrom_nil, World.toShared, pool, live]⟩
    | @acquired len slab got frames live =>
        have taken : w.toShared.step (.acquire len) = some t.toShared := by
          rw [Shared.step_acquire (s := w.toShared) Nat.one_pos got]
          simp only [World.toShared, live]
        exact ⟨[.acquire len], System.runFrom_one taken⟩
    | @landed slab rest data peer held apart fits pool frames live =>
        have written := Shared.step_write (s := w.toShared) held data
        have recorded : Shared.step ⟨w.pool.write slab data, w.live, 1⟩
            (.setLen slab data.length) = some t.toShared := by
          rw [Shared.step_setLen held]
          simp only [World.toShared, pool, live]
        exact ⟨[.write slab data, .setLen slab data.length],
          System.runFrom_cons_some.mpr ⟨_, written, System.runFrom_one recorded⟩⟩
    | @released slab held pool frames =>
        have dropped : w.toShared.step (.drop slab) = some t.toShared := by
          rw [Shared.step_drop (s := w.toShared) held]
          simp only [World.toShared, pool]
        exact ⟨[.drop slab], System.runFrom_one dropped⟩
    | @wrote slab rest held apart data pool frames live =>
        have written : w.toShared.step (.write slab data) = some t.toShared := by
          rw [Shared.step_write (s := w.toShared) held]
          simp only [World.toShared, pool, live]
        exact ⟨[.write slab data], System.runFrom_one written⟩
    | @setLen slab rest held len pool frames live =>
        have recorded : w.toShared.step (.setLen slab len) = some t.toShared := by
          rw [Shared.step_setLen (s := w.toShared) held]
          simp only [World.toShared, pool, live]
        exact ⟨[.setLen slab len], System.runFrom_one recorded⟩

/-- The slots a transport's slabs name are each held once. -/
theorem world_owned (b : Backend) (slabCount slabSize : Nat) :
    (world b slabCount slabSize).Invariant fun w => Owned slabCount slabSize w.toShared :=
  (world_refines_shared b slabCount slabSize).invariant (shared_owned slabCount slabSize)

/-! ## Frame stability -/

/-- Every frame alive shows the bytes its own `recv_from` landed. -/
def Stable (w : World) : Prop := ∀ frame ∈ w.liveFrames, frame.payload w.pool = frame.landed

theorem stable_step {slabCount slabSize : Nat} {w t : World}
    (owned : Owned slabCount slabSize w.toShared) (stable : Stable w) (moved : Moved w t) :
    Stable t := by
  cases moved with
  | same pool frames live =>
      intro frame out
      rw [pool]
      exact stable frame (frames ▸ out)
  | acquired got frames live =>
      -- only the free list changes
      obtain ⟨_, _, _, slabs, size⟩ := VecPool.acquire_some got
      intro frame out
      rw [UdpFrame.payload, VecPool.asRef_congr slabs size]
      exact stable frame (frames ▸ out)
  | @landed slab rest data peer held apart fits pool frames live =>
      intro frame out
      rw [frames, Multiset.mem_cons] at out
      rw [UdpFrame.payload, pool]
      rcases out with rfl | old
      · -- the new frame: its slot was overwritten as far as its length goes
        have out : slab ∈ w.toShared.live := by
          show slab ∈ w.live
          rw [held]
          exact Multiset.mem_cons_self _ _
        have inRange : slab.index < w.pool.slabs.length := owned.inRange out
        exact VecPool.asRef_write_setLen inRange fits
      · -- an older one: the slot written is not its own
        rw [VecPool.asRef_write_of_ne (owned.index_ne held (apart frame old))]
        exact stable frame old
  | released held pool frames =>
      intro frame out
      rw [UdpFrame.payload, pool, VecPool.asRef_release]
      exact stable frame (Multiset.mem_of_le frames out)
  | wrote held apart data pool frames live =>
      intro frame out
      rw [frames] at out
      rw [UdpFrame.payload, pool,
        VecPool.asRef_write_of_ne (owned.index_ne held (apart frame out))]
      exact stable frame out
  | setLen held len pool frames live =>
      intro frame out
      rw [pool]
      exact stable frame (frames ▸ out)

theorem world_stable (b : Backend) (slabCount slabSize : Nat) :
    (world b slabCount slabSize).Invariant Stable := by
  refine System.Invariant.of_step (world_owned b slabCount slabSize) ?_ ?_
  · rintro w ⟨pool, metrics, _, rfl⟩ frame out
    simp [World.liveFrames, World.lent, World.atRest, World.start] at out
  · intro w a t owned stable taken
    exact stable_step owned stable (moved_of_step (step_of_step taken))

/-- **Frame stability.** Whatever bursts, drains, drops and other holders of the
pool do in between, a live frame shows exactly the bytes its own `recv_from`
landed, at any moment of any run and at any later one until it drops. -/
theorem frame_stability (b : Backend) (slabCount slabSize : Nat) {w : World}
    (reach : (world b slabCount slabSize).Reachable w) {frame : UdpFrame}
    (out : frame ∈ w.liveFrames) :
    frame.payload w.pool = frame.landed ∧
      ∀ events t, (world b slabCount slabSize).runFrom w events = some t →
        frame ∈ t.liveFrames → frame.payload t.pool = frame.payload w.pool := by
  have shown := world_stable b slabCount slabSize w reach frame out
  refine ⟨shown, ?_⟩
  intro events t run still
  rw [shown]
  exact world_stable b slabCount slabSize t (reach.run run) frame still

/-- A fresh transport over one slot of two bytes. -/
def oneSlot : World := World.start ((VecPool.build 1 2).get rfl) ⟨false, []⟩

/-- The same after a list of events. -/
def played (b : Backend) (events : List Action) : World := (world b 1 2).replay oneSlot events

theorem played_reachable (b : Backend) (events : List Action) :
    (world b 1 2).Reachable (played b events) := by
  have start : (world b 1 2).init oneSlot := ⟨_, _, rfl, rfl⟩
  exact .replay start events

/-- `[7, 7]` lands, its frame drops, and `[9]` lands over it. -/
def slotReused : List Action :=
  [.newBatch 1, .arrive ⟨[7, 7], someSender⟩, .recvBurst 0 1, .next none, .next none, .next none,
    .drain 0, .dropFrame 0, .arrive ⟨[9], someSender⟩, .recvBurst 0 1, .next none, .next none,
    .next none]

theorem frame_stability_reused :
    ⟨⟨0, 1⟩, someSender, [9]⟩ ∈ (played .mio slotReused).liveFrames ∧
      UdpFrame.payload (played .mio slotReused).pool ⟨⟨0, 1⟩, someSender, [9]⟩ = [9] :=
  ⟨by decide, (frame_stability .mio 1 2 (played_reachable .mio slotReused) (by decide)).1⟩

end Transports.Udp
