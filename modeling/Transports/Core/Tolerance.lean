import Transports.Core.Lawful

/-!
# Which lawful sources the suite passes

A lawful source may lag: its first burst answers `Ok(0)` although datagrams are queued.
The burst and the single case pass it all the same. The drain and the reclaim case stop
at the first `Ok(0)` and come out short of datagrams, and the exhaustion case takes the
lag for the wrong answer; these three pass exactly when the source does not use the lag
it is allowed. A source that never lags needs two slabs, and no more.
-/

namespace Transports.Core

/-- What the suite reports when every case passes. -/
def DatagramConformanceReport.allFive : DatagramConformanceReport where
  passed := ["burst_leq_max", "single_is_burst_of_one", "drains_to_ok_zero",
    "pool_reclaim_after_foreign_drop", "pool_exhausted_when_empty"]
  failed := []

namespace DatagramSource

variable {σ F L : Type} {src : DatagramSource σ F L}

/-- The next burst of the suite finds nothing ready. -/
def Lags (src : DatagramSource σ F L) (s : σ) : Prop :=
  (src.recvBurst s (.withCapacity 64) 8).1 = .ok 0

instance (s : σ) : Decidable (src.Lags s) := inferInstanceAs (Decidable (_ = _))

/-- The source once every slab is held: as many acquires as there are slabs, and the one
that is refused. -/
def saturated (src : DatagramSource σ F L) (s : σ) : σ :=
  (fun s => (src.acquire s 1).2)^[src.capacity s + 1] s

/-! ## A source between two calls of a case -/

/-- So many datagrams queued and so many slabs out, of a pool of `slots`. -/
structure Contract.Standing (c : src.Contract) (slots queued held : Nat) (s : σ) : Prop where
  valid : c.valid s
  capacity : src.capacity s = slots
  pending : (c.ledger s).pending.length = queued
  lent : (c.ledger s).lent = held

/-- What a burst into the case's empty batch comes to while the pool has slabs. -/
structure Contract.Reaped (c : src.Contract) (slots queued held max : Nat) (s : σ)
    (frames : List F) (s' : σ) : Prop where
  answer : src.recvBurst s (.withCapacity 64) max =
    (.ok frames.length, frames.foldl FrameBatch.push (.withCapacity 64), s')
  fits : frames.length ≤ min max 64
  few : frames.length ≤ queued
  after : c.Standing slots (queued - frames.length) (held + frames.length) s'
  returning : (c.ledger s').returning = 0
  settled : (c.ledger s').mayLag = false
  progress : frames = [] → (c.ledger s).mayLag = true ∨ min max 64 = 0 ∨ queued = 0

/-- A source as a builder hands it over: so many datagrams, a pool of `slots`, and none of
them out. -/
structure Contract.Stocked (c : src.Contract) (slots queued : Nat) (s : σ) : Prop where
  standing : c.Standing slots queued 0 s
  returning : (c.ledger s).returning = 0

variable {c : src.Contract} {slots queued held max : Nat} {s s' : σ} {frames : List F}

theorem Contract.Preloaded.stocked (loaded : c.Preloaded queued s) :
    c.Stocked (src.capacity s) queued s :=
  ⟨⟨loaded.valid, rfl, loaded.pending, loaded.lent⟩, loaded.returning⟩

/-- A call that leaves the queue alone. -/
theorem Contract.Standing.kept {out : Nat} (standing : c.Standing slots queued held s)
    (valid : c.valid s') (capacity : src.capacity s' = src.capacity s)
    (pending : (c.ledger s').pending = (c.ledger s).pending) (lent : (c.ledger s').lent = out) :
    c.Standing slots queued out s' where
  valid := valid
  capacity := capacity.trans standing.capacity
  pending := (congrArg List.length pending).trans standing.pending
  lent := lent

theorem Contract.Standing.reap (standing : c.Standing slots queued held s)
    (free : held < slots) (max : Nat) :
    ∃ frames s', c.Reaped slots queued held max s frames s' := by
  obtain ⟨answer, frames, s', burst, reply, returning, settled, valid, capacity⟩ :=
    c.recvBurst s (.withCapacity 64) max standing.valid
  refine ⟨frames, s', ?_⟩
  cases reply with
  | lagged lag pending lent =>
      exact {
        answer := burst
        fits := Nat.zero_le _
        few := Nat.zero_le _
        after := standing.kept valid capacity pending (lent.trans standing.lent)
        returning := returning
        settled := settled
        progress := by
          intro _
          exact .inl lag }
  | delivered fits progress pending lent =>
      have split := pending.length_eq
      rw [List.length_append, List.length_map, standing.pending] at split
      exact {
        answer := burst
        fits := fits
        few := by omega
        after := ⟨valid, capacity.trans standing.capacity, by omega, by rw [lent, standing.lent]⟩
        returning := returning
        settled := settled
        progress := by
          intro none
          right
          rcases progress none with full | idle
          · exact .inl full
          · right
            rw [← standing.pending, idle, List.length_nil] }
  | exhausted inUse cap empty =>
      have := standing.capacity
      have := standing.lent
      omega

namespace Contract.Reaped

variable (reaped : c.Reaped slots queued held max s frames s')

include reaped

theorem reap_eq : src.reap s (.withCapacity 64) max =
    .ok (frames.length, frames.foldl FrameBatch.push (.withCapacity 64), s') := by
  rw [DatagramSource.reap, reaped.answer]

theorem drain_eq :
    (frames.foldl FrameBatch.push (.withCapacity 64)).drain = (frames, .withCapacity 64) :=
  FrameBatch.drain_foldl_push rfl (Nat.le_trans reaped.fits (Nat.min_le_right _ _))

end Contract.Reaped

theorem Contract.Reaped.lags_iff (reaped : c.Reaped slots queued held 8 s frames s') :
    src.Lags s ↔ frames.length = 0 := by
  rw [Lags, reaped.answer, Except.ok.injEq]

/-- Past its first burst a lawful source finds nothing only where nothing is. -/
theorem Contract.Standing.prompt (standing : c.Standing slots queued held s)
    (free : held < slots) (settled : (c.ledger s).mayLag = false) : src.Lags s → queued = 0 := by
  intro lags
  obtain ⟨frames, s', reaped⟩ := standing.reap free 8
  have none : frames = [] := List.eq_nil_of_length_eq_zero (reaped.lags_iff.mp lags)
  rcases reaped.progress none with lag | full | idle
  · rw [settled] at lag
    cases lag
  · cases full
  · exact idle

/-- Frames dropped one by one: their slabs are no longer out. -/
theorem Contract.Standing.dropAll (frames : List F)
    (standing : c.Standing slots queued (held + frames.length) s) :
    c.Standing slots queued held (frames.foldl src.dropFrame s) ∧
      (c.ledger (frames.foldl src.dropFrame s)).mayLag = (c.ledger s).mayLag := by
  induction frames generalizing s with
  | nil => exact ⟨standing, rfl⟩
  | cons frame rest ih =>
      have out : 0 < (c.ledger s).lent := by
        rw [standing.lent, List.length_cons]
        omega
      obtain ⟨back, valid, capacity⟩ := c.dropFrame s frame standing.valid out
      have fewer : (c.ledger (src.dropFrame s frame)).lent = held + rest.length := by
        have one := back.lent
        have := standing.lent
        rw [List.length_cons] at this
        omega
      obtain ⟨dropped, kept⟩ := ih (standing.kept valid capacity back.pending fewer)
      exact ⟨dropped, kept.trans back.mayLag⟩

/-! ## The two cases that forgive a lag -/

theorem caseBurstLeqMax_passes (loaded : c.Stocked slots queued s) (room : 0 < slots) :
    src.caseBurstLeqMax s = .ok () := by
  obtain ⟨frames, s', reaped⟩ := loaded.standing.reap room 3
  have few : ¬ frames.length > 3 := by
    have := reaped.fits
    omega
  have appended : (frames.foldl FrameBatch.push (.withCapacity 64)).frames.length =
      frames.length := by
    rw [FrameBatch.foldl_push_frames, FrameBatch.withCapacity_frames, List.nil_append]
  simp only [caseBurstLeqMax, reaped.reap_eq, bind, Except.bind, if_neg few, appended, ne_eq,
    not_true_eq_false, if_false]

/-- A source past its first burst gives one datagram at the first try. -/
theorem singleLoop_settled (turns n : Nat) (standing : c.Standing slots queued 0 s)
    (room : 0 < slots) (queue : 0 < queued) (settled : (c.ledger s).mayLag = false) :
    src.singleLoop (turns + 1) s (.withCapacity 64) n = .ok 1 := by
  obtain ⟨frames, s', reaped⟩ := standing.reap room 1
  have fits := reaped.fits
  have some : frames ≠ [] := by
    intro none
    rcases reaped.progress none with lag | full | idle
    · rw [settled] at lag
      cases lag
    · cases full
    · omega
  have one : frames.length = 1 := by
    have := List.length_pos_iff.mpr some
    omega
  simp [singleLoop, reaped.reap_eq, bind, Except.bind, one]

theorem caseSingleBurst_passes (loaded : c.Stocked slots queued s) (room : 0 < slots)
    (queue : 0 < queued) : src.caseSingleBurst s = .ok () := by
  obtain ⟨frames, s', reaped⟩ := loaded.standing.reap room 1
  have single : src.singleLoop 8 s (.withCapacity 64) 0 = .ok 1 := by
    rcases frames with _ | ⟨frame, rest⟩
    · -- a lag: the second try is past it
      have again := singleLoop_settled 6 0 reaped.after room queue reaped.settled
      simpa [singleLoop, reaped.reap_eq, bind, Except.bind] using again
    · have one : (frame :: rest).length = 1 := by
        have := reaped.fits
        simp only [List.length_cons] at this ⊢
        omega
      simp [singleLoop, reaped.reap_eq, bind, Except.bind, one]
  simp [caseSingleBurst, single, bind, Except.bind]

/-! ## The drain case -/

/-- One turn of the loop. -/
theorem Contract.Reaped.drainLoop_eq (burst : c.Reaped slots queued held 8 s frames s')
    (turns reaped : Nat) : src.drainLoop (turns + 1) s (.withCapacity 64) reaped =
      if frames.length = 0 then
        .ok (reaped + frames.length, .withCapacity 64, frames.foldl src.dropFrame s')
      else
        src.drainLoop turns (frames.foldl src.dropFrame s') (.withCapacity 64)
          (reaped + frames.length) := by
  have bounded : ¬ frames.length > 8 := by
    have := burst.fits
    omega
  simp only [drainLoop, burst.reap_eq, bind, Except.bind, if_neg bounded, burst.drain_eq]

/-- A lag ends the loop, with nothing reaped in its turn. -/
theorem drainLoop_lagging (turns reaped : Nat) (standing : c.Standing slots queued 0 s)
    (room : 0 < slots) (lags : src.Lags s) :
    ∃ s', src.drainLoop (turns + 1) s (.withCapacity 64) reaped =
        .ok (reaped, .withCapacity 64, s') ∧
      c.Standing slots queued 0 s' := by
  obtain ⟨frames, s', burst⟩ := standing.reap room 8
  have none : frames.length = 0 := burst.lags_iff.mp lags
  have after := (burst.after.dropAll frames).1
  rw [none] at after
  refine ⟨frames.foldl src.dropFrame s', ?_, after⟩
  rw [burst.drainLoop_eq, if_pos none, none, Nat.add_zero]

/-- The loop reaps the whole queue, if its first burst is not a lag. -/
theorem drainLoop_prompt (turns reaped : Nat) (standing : c.Standing slots queued 0 s)
    (room : 0 < slots) (prompt : src.Lags s → queued = 0) (enough : queued < turns) :
    ∃ s', src.drainLoop turns s (.withCapacity 64) reaped =
        .ok (reaped + queued, .withCapacity 64, s') ∧
      c.Standing slots 0 0 s' := by
  induction turns generalizing s queued reaped with
  | zero => omega
  | succ turns ih =>
      by_cases lags : src.Lags s
      · obtain rfl : queued = 0 := prompt lags
        exact drainLoop_lagging turns reaped standing room lags
      · obtain ⟨frames, s', burst⟩ := standing.reap room 8
        have some : frames.length ≠ 0 := by
          intro none
          exact lags (burst.lags_iff.mpr none)
        have few := burst.few
        obtain ⟨after, kept⟩ := burst.after.dropAll frames
        have next := after.prompt room (kept.trans burst.settled)
        obtain ⟨last, loop, drained⟩ := ih (reaped + frames.length) after next (by omega)
        refine ⟨last, ?_, drained⟩
        rw [burst.drainLoop_eq, if_neg some, loop, Nat.add_assoc, Nat.add_sub_cancel' few]

theorem caseDrainsToOkZero_iff (loaded : c.Stocked slots 2 s) (room : 0 < slots) :
    src.caseDrainsToOkZero s = .ok () ↔ ¬ src.Lags s := by
  by_cases lags : src.Lags s
  · obtain ⟨s', loop, -⟩ := drainLoop_lagging 1023 0 loaded.standing room lags
    simp [caseDrainsToOkZero, loop, bind, Except.bind, lags]
  · have prompt : src.Lags s → 2 = 0 := by
      intro lag
      exact absurd lag lags
    obtain ⟨s', loop, drained⟩ := drainLoop_prompt 1024 0 loaded.standing room prompt (by omega)
    obtain ⟨frames, last, burst⟩ := drained.reap room 8
    have none : frames.length = 0 := Nat.le_zero.mp burst.few
    simp [caseDrainsToOkZero, loop, burst.reap_eq, none, bind, Except.bind, lags]

/-! ## The reclaim case -/

/-- One turn of the loop. -/
theorem Contract.Reaped.collectLoop_eq (burst : c.Reaped slots queued held 8 s frames s')
    (turns : Nat) (before : List F) :
    src.collectLoop (turns + 1) s (.withCapacity 64) before =
      if 2 ≤ (before ++ frames).length ∨ frames.length = 0 then
        .ok (before ++ frames, .withCapacity 64, s')
      else src.collectLoop turns s' (.withCapacity 64) (before ++ frames) := by
  simp only [collectLoop, burst.reap_eq, bind, Except.bind, burst.drain_eq]

/-- The loop collects two frames, if its first burst is not a lag. -/
theorem collectLoop_prompt (turns : Nat) (before : List F)
    (standing : c.Standing slots queued before.length s) (room : 2 ≤ slots)
    (both : queued + before.length = 2) (short : before.length < 2)
    (prompt : src.Lags s → queued = 0) (enough : queued < turns) :
    ∃ frames s', src.collectLoop turns s (.withCapacity 64) before =
        .ok (frames, .withCapacity 64, s') ∧
      frames.length = 2 ∧ c.Standing slots 0 2 s' := by
  induction turns generalizing s queued before with
  | zero => omega
  | succ turns ih =>
      obtain ⟨more, s', burst⟩ := standing.reap (by omega) 8
      have few := burst.few
      have after := burst.after
      have grown : (before ++ more).length = before.length + more.length := List.length_append
      have some : more.length ≠ 0 := by
        intro none
        have := prompt (burst.lags_iff.mpr none)
        omega
      rw [burst.collectLoop_eq]
      by_cases full : 2 ≤ (before ++ more).length
      · have two : before.length + more.length = 2 := by omega
        have none : queued - more.length = 0 := by omega
        rw [two, none] at after
        exact ⟨before ++ more, s', if_pos (Or.inl full), by omega, after⟩
      · rw [← grown] at after
        have next := after.prompt (by omega) burst.settled
        rw [if_neg (not_or.mpr ⟨full, some⟩)]
        exact ih (before ++ more) after (by omega) (by omega) next (by omega)

theorem casePoolReclaim_iff (loaded : c.Stocked slots 2 s) (room : 2 ≤ slots) :
    src.casePoolReclaim s = .ok () ↔ ¬ src.Lags s := by
  by_cases lags : src.Lags s
  · obtain ⟨frames, s', burst⟩ := loaded.standing.reap (by omega) 8
    have none : frames.length = 0 := burst.lags_iff.mp lags
    have stopped := (burst.collectLoop_eq 1023 []).trans (if_pos (Or.inr none))
    simp [casePoolReclaim, stopped, none, bind, Except.bind, lags]
  · have prompt : src.Lags s → 2 = 0 := by
      intro lag
      exact absurd lag lags
    obtain ⟨frames, s', loop, two, standing⟩ :=
      collectLoop_prompt 1024 [] loaded.standing room rfl Nat.two_pos prompt (by omega)
    have busy : src.inUse s' ≠ 0 := by
      rw [c.inUse s' standing.valid, standing.lent]
      omega
    -- the frames go with the other thread, and the next burst has every slab back
    obtain ⟨joined, drop, back, valid, capacity⟩ := c.dropThread s' frames standing.valid
      (Nat.le_of_eq (two.trans standing.lent.symm))
    have none : (c.ledger joined).lent = 0 := by
      have := back.lent
      have := standing.lent
      omega
    have dropped := standing.kept valid capacity back.pending none
    obtain ⟨more, last, burst⟩ := dropped.reap (by omega) 8
    have nothing : more = [] := List.eq_nil_of_length_eq_zero (Nat.le_zero.mp burst.few)
    have idle : src.inUse (more.foldl src.dropFrame last) = 0 := by
      have lent := burst.after.lent
      rw [nothing, List.length_nil] at lent
      rw [nothing, List.foldl_nil, c.inUse last burst.after.valid, lent, burst.returning]
    simp [casePoolReclaim, loop, two, busy, drop, burst.reap_eq, burst.drain_eq, idle, bind,
      Except.bind, lags]

/-! ## The exhaustion case -/

/-- The loop holds every slab that is free, and one more acquire is refused. -/
theorem holdAll_saturates (free turns : Nat) (held : List L)
    (standing : c.Standing slots queued held.length s) (returning : (c.ledger s).returning = 0)
    (rest : held.length + free = slots) (enough : free < turns) :
    ∃ slabs last, src.holdAll turns s held = some (.ok (slabs, last)) ∧
      (fun s => (src.acquire s 1).2)^[free + 1] s = last ∧
      c.Standing slots queued slots last := by
  induction free generalizing turns s held with
  | zero =>
      obtain ⟨turns, rfl⟩ : ∃ k, turns = k + 1 := ⟨turns - 1, by omega⟩
      obtain ⟨slab, s', acquire, loan, -, pending, -, valid, capacity⟩ :=
        c.acquire s standing.valid
      have within := c.within s' valid
      rw [c.inUse s' valid, capacity, standing.capacity] at within
      rw [standing.capacity] at loan
      have out := standing.lent
      cases loan with
      | granted slab lent => omega
      | refused empty lent =>
          have full : (c.ledger s').lent = slots := by omega
          refine ⟨held, s', ?_, ?_, standing.kept valid capacity pending full⟩
          · simp only [holdAll, acquire]
          · show (src.acquire s 1).2 = s'
            rw [acquire]
  | succ free ih =>
      obtain ⟨turns, rfl⟩ : ∃ k, turns = k + 1 := ⟨turns - 1, by omega⟩
      obtain ⟨slab, s', acquire, loan, back, pending, -, valid, capacity⟩ :=
        c.acquire s standing.valid
      rw [standing.capacity] at loan
      have out := standing.lent
      cases loan with
      | refused empty lent => omega
      | granted slab lent =>
          have grown : (held ++ [slab]).length = held.length + 1 := List.length_append
          have after : c.Standing slots queued (held ++ [slab]).length s' :=
            standing.kept valid capacity pending (by omega)
          obtain ⟨slabs, last, loop, reached, saturated⟩ :=
            ih turns (held ++ [slab]) after (by omega) (by omega) (by omega)
          have within : ¬ (held ++ [slab]).length > src.capacity s' := by
            rw [after.capacity]
            omega
          refine ⟨slabs, last, ?_, ?_, saturated⟩
          · simpa only [holdAll, acquire, if_neg within] using loop
          · rw [Function.iterate_succ_apply, acquire]
            exact reached

/-- With data queued and no slab to land it in, a source that does not lag has one answer. -/
theorem Contract.Standing.exhausted (standing : c.Standing slots queued slots s)
    (queue : 0 < queued) : (c.ledger s).mayLag = true ∧ src.Lags s ∨ ∃ inUse cap,
      (src.recvBurst s (.withCapacity 64) 8).1 = .error (.poolExhausted inUse cap) := by
  obtain ⟨answer, frames, s', burst, reply, -, -, valid, capacity⟩ :=
    c.recvBurst s (.withCapacity 64) 8 standing.valid
  rw [Lags, burst]
  cases reply with
  | lagged lag pending lent => exact .inl ⟨lag, rfl⟩
  | exhausted inUse cap empty => exact .inr ⟨inUse, cap, rfl⟩
  | delivered fits progress pending lent =>
      -- no slab is free for a frame, so none came, and then one must have been ready
      have within := c.within s' valid
      rw [c.inUse s' valid, capacity, standing.capacity, lent, standing.lent] at within
      have none : frames = [] := List.eq_nil_of_length_eq_zero (by omega)
      rcases progress none with full | idle
      · cases full
      · have := standing.pending
        rw [idle, List.length_nil] at this
        omega

/-- The case ends once its loop has one turn more than the pool has slabs, and passes unless
the source lags then. -/
theorem casePoolExhausted_ends {turns : Nat} (loaded : c.Stocked slots 2 s)
    (enough : slots < turns) :
    ∃ last, src.casePoolExhausted turns s = some last ∧
      (last = .ok () ↔ ¬ src.Lags (src.saturated s)) := by
  obtain ⟨slabs, last, hold, reached, standing⟩ :=
    holdAll_saturates slots turns [] loaded.standing loaded.returning (by simp) enough
  rw [← loaded.standing.capacity] at reached
  rw [saturated, reached, casePoolExhausted, hold]
  refine ⟨_, rfl, ?_⟩
  rcases standing.exhausted Nat.two_pos with ⟨-, lags⟩ | ⟨inUse, cap, answer⟩
  · have answer : (src.recvBurst last (.withCapacity 64) 8).1 = .ok 0 := lags
    simp [bind, Except.bind, answer, lags]
  · simp [bind, Except.bind, answer, Lags]

/-! ## The suite -/

theorem allPassed_record (report : DatagramConformanceReport) (case : DatagramCase)
    (res : Except String Unit) :
    (report.record case res).allPassed = true ↔ report.allPassed = true ∧ res = .ok () := by
  cases res <;> simp [DatagramConformanceReport.record, DatagramConformanceReport.allPassed]

/-- The report is there as soon as the last case has ended. -/
theorem run_isSome_iff (src : DatagramSource σ F L) (turns : Nat) (build : DatagramCase → Nat → σ) :
    (src.run turns build).isSome ↔
      (src.casePoolExhausted turns (build .poolExhaustedWhenEmpty 2)).isSome := by
  rw [run, Option.isSome_map]

/-- `all_passed()` says that every case returned `Ok`. -/
theorem run_allPassed_iff {turns : Nat} {build : DatagramCase → Nat → σ}
    {report : DatagramConformanceReport} (ended : src.run turns build = some report) :
    report.allPassed = true ↔
      src.caseBurstLeqMax (build .burstLeqMax 5) = .ok () ∧
      src.caseSingleBurst (build .singleIsBurstOfOne 3) = .ok () ∧
      src.caseDrainsToOkZero (build .drainsToOkZero 2) = .ok () ∧
      src.casePoolReclaim (build .poolReclaimAfterForeignDrop 2) = .ok () ∧
      src.casePoolExhausted turns (build .poolExhaustedWhenEmpty 2) = some (.ok ()) := by
  obtain ⟨last, exhausted, rfl⟩ := Option.map_eq_some_iff.mp ended
  have fresh : (⟨[], []⟩ : DatagramConformanceReport).allPassed = true := rfl
  simp only [exhausted, allPassed_record, and_assoc, fresh, true_and, Option.some.injEq]

/-- Then its five passes are the whole report. -/
theorem run_eq_allFive_iff {turns : Nat} {build : DatagramCase → Nat → σ}
    {report : DatagramConformanceReport} (ended : src.run turns build = some report) :
    report = .allFive ↔ report.allPassed = true := by
  constructor
  · intro five
    rw [five]
    rfl
  · intro passed
    obtain ⟨burst, single, drains, reclaim, exhausted⟩ := (run_allPassed_iff ended).mp passed
    rw [run, burst, single, drains, reclaim, exhausted, Option.map_some,
      Option.some.injEq] at ended
    exact ended.symm

/-- **The suite and a lag.** Over lawful sources and builders that preload what they are
asked for, the suite comes to a report as soon as its last loop has one turn more than the
pool has slabs; and the report is of five passes exactly when the drain case's source, the
reclaim case's source, and the exhaustion case's source with its pool held, do not lag. -/
theorem run_passes_iff (c : src.Contract) (build : DatagramCase → Nat → σ)
    (loaded : ∀ case count, c.Preloaded count (build case count)) {turns : Nat}
    (enough : src.capacity (build .poolExhaustedWhenEmpty 2) < turns) :
    ∃ report, src.run turns build = some report ∧
      (report = .allFive ↔
        ¬ src.Lags (build .drainsToOkZero 2) ∧
        ¬ src.Lags (build .poolReclaimAfterForeignDrop 2) ∧
        ¬ src.Lags (src.saturated (build .poolExhaustedWhenEmpty 2))) := by
  have stocked := fun case count => (loaded case count).stocked
  have room : ∀ case count, 2 ≤ src.capacity (build case count) := by
    intro case count
    exact Nat.le_trans (by decide) (loaded case count).roomy
  have some : ∀ case count, 0 < src.capacity (build case count) := by
    intro case count
    exact Nat.lt_of_lt_of_le Nat.two_pos (room case count)
  obtain ⟨last, exhausted, prompt⟩ :=
    casePoolExhausted_ends (stocked .poolExhaustedWhenEmpty 2) enough
  have there := (run_isSome_iff src turns build).mpr (Option.isSome_of_eq_some exhausted)
  obtain ⟨report, ended⟩ := Option.isSome_iff_exists.mp there
  refine ⟨report, ended, ?_⟩
  rw [run_eq_allFive_iff ended, run_allPassed_iff ended, exhausted, Option.some.injEq, prompt,
    caseDrainsToOkZero_iff (stocked .drainsToOkZero 2) (some .drainsToOkZero 2),
    casePoolReclaim_iff (stocked .poolReclaimAfterForeignDrop 2)
      (room .poolReclaimAfterForeignDrop 2)]
  have burst := caseBurstLeqMax_passes (stocked .burstLeqMax 5) (some .burstLeqMax 5)
  have single := caseSingleBurst_passes (stocked .singleIsBurstOfOne 3)
    (some .singleIsBurstOfOne 3) (by omega)
  exact (and_iff_right burst).trans (and_iff_right single)

/-- The mock of the suite's test, which does not lag. -/
theorem run_passes_iff_mock :
    MockSource.source.run 9 (fun _ count => (false, MockSource.build count)) = some .allFive ∧
      ¬ MockSource.source.Lags (false, MockSource.build 2) := by
  have enough : MockSource.source.capacity (false, MockSource.build 2) < 9 := by decide
  obtain ⟨report, ended, passes⟩ := run_passes_iff MockSource.contract
    (fun _ count => (false, MockSource.build count))
    (fun _ count => MockSource.preloaded false count) enough
  have prompt : ¬ MockSource.source.Lags (false, MockSource.build 2) := by decide
  have five : report = .allFive := passes.mpr ⟨prompt, prompt, by decide⟩
  exact ⟨five ▸ ended, prompt⟩

/-- The same mock with a first tick of lag is lawful, and the suite fails it, however many
turns it is given. -/
theorem lawful_lag_fails :
    ¬ ∀ (σ F L : Type) (src : DatagramSource σ F L) (c : src.Contract)
      (build : DatagramCase → Nat → σ),
      (∀ case count, c.Preloaded count (build case count)) →
        ∃ turns, src.run turns build = some .allFive := by
  intro tolerant
  obtain ⟨turns, ended⟩ := tolerant (Bool × MockSource) (List UInt8) Unit MockSource.source
    MockSource.contract (fun _ count => (true, MockSource.build count))
    (fun _ count => MockSource.preloaded true count)
  obtain ⟨_, _, drained, _⟩ := (run_allPassed_iff ended).mp rfl
  exact absurd drained (by decide)

/-! ## A source that never lags -/

/-- A source that has a slab free and data queued, and does not lag, has a burst for it. -/
theorem Contract.Standing.reap_some (standing : c.Standing slots queued held s)
    (free : held < slots) (queue : 0 < queued) (settled : (c.ledger s).mayLag = false) :
    ∃ frames s', c.Reaped slots queued held 8 s frames s' ∧ frames ≠ [] := by
  obtain ⟨frames, s', reaped⟩ := standing.reap free 8
  refine ⟨frames, s', reaped, ?_⟩
  intro none
  have idle := standing.prompt free settled
    (reaped.lags_iff.mpr (List.length_eq_zero_iff.mpr none))
  omega

theorem reap_failed {batch : FrameBatch F} {e : TransportError}
    (answer : (src.recvBurst s batch max).1 = .error e) :
    src.reap s batch max = .error e.display := by
  rcases call : src.recvBurst s batch max with ⟨res, out, s'⟩
  rw [call] at answer
  subst answer
  simp only [reap, call]

/-- One slab is not enough for the reclaim case: it holds a first frame, and the burst for
the second is refused. -/
theorem casePoolReclaim_one (loaded : c.Stocked 1 2 s)
    (prompt : ∀ s, c.valid s → (c.ledger s).mayLag = false) :
    src.casePoolReclaim s ≠ .ok () := by
  obtain ⟨frames, s', burst, some⟩ := loaded.standing.reap_some Nat.one_pos Nat.two_pos
    (prompt s loaded.standing.valid)
  have after := burst.after
  have one : frames.length = 1 := by
    have within := c.within s' after.valid
    rw [c.inUse s' after.valid, after.lent, after.capacity] at within
    have := List.length_pos_iff.mpr some
    omega
  rw [one] at after
  have second : ∃ e, src.collectLoop 1023 s' (.withCapacity 64) frames = .error e := by
    rcases after.exhausted Nat.one_pos with ⟨lag, -⟩ | ⟨inUse, cap, answer⟩
    · rw [prompt s' after.valid] at lag
      cases lag
    · refine ⟨(TransportError.poolExhausted inUse cap).display, ?_⟩
      simp only [collectLoop, reap_failed answer, bind, Except.bind]
  obtain ⟨e, stopped⟩ := second
  have more : ¬ (2 ≤ ([] ++ frames).length ∨ frames.length = 0) := by
    rw [List.nil_append]
    omega
  have loop := burst.collectLoop_eq 1023 []
  rw [if_neg more, List.nil_append, stopped] at loop
  simp [casePoolReclaim, loop, bind, Except.bind]

theorem casePoolExhausted_passes {turns : Nat} (loaded : c.Stocked slots 2 s)
    (prompt : ∀ s, c.valid s → (c.ledger s).mayLag = false) (enough : slots < turns) :
    src.casePoolExhausted turns s = some (.ok ()) := by
  obtain ⟨res, ended, passes⟩ := casePoolExhausted_ends loaded enough
  have ready : ¬ src.Lags (src.saturated s) := by
    obtain ⟨slabs, last, hold, reached, standing⟩ :=
      holdAll_saturates slots turns [] loaded.standing loaded.returning (by simp) enough
    rw [← loaded.standing.capacity] at reached
    rw [saturated, reached, Lags]
    rcases standing.exhausted Nat.two_pos with ⟨lag, -⟩ | ⟨inUse, cap, answer⟩
    · rw [prompt last standing.valid] at lag
      cases lag
    · rw [answer]
      rintro ⟨⟩
  rw [ended, passes.mpr ready]

/-- Over lawful sources that never lag, the suite comes to a report, and asks for a pool of
two slabs and no more. -/
theorem run_prompt_iff (c : src.Contract) (prompt : ∀ s, c.valid s → (c.ledger s).mayLag = false)
    (build : DatagramCase → Nat → σ) (some : 0 < slots)
    (loaded : ∀ case count, c.Stocked slots count (build case count)) {turns : Nat}
    (enough : slots < turns) :
    ∃ report, src.run turns build = .some report ∧ (report = .allFive ↔ 2 ≤ slots) := by
  have exhausted := casePoolExhausted_passes (loaded .poolExhaustedWhenEmpty 2) prompt enough
  have there := (run_isSome_iff src turns build).mpr (Option.isSome_of_eq_some exhausted)
  obtain ⟨report, ended⟩ := Option.isSome_iff_exists.mp there
  refine ⟨report, ended, ?_⟩
  rw [run_eq_allFive_iff ended, run_allPassed_iff ended]
  constructor
  · rintro ⟨-, -, -, reclaim, -⟩
    by_contra few
    obtain rfl : slots = 1 := by omega
    exact casePoolReclaim_one (loaded .poolReclaimAfterForeignDrop 2) prompt reclaim
  · intro room
    have ready : ∀ case, ¬ src.Lags (build case 2) := by
      intro case lags
      have standing := (loaded case 2).standing
      have := standing.prompt some (prompt _ standing.valid) lags
      omega
    exact ⟨caseBurstLeqMax_passes (loaded .burstLeqMax 5) some,
      caseSingleBurst_passes (loaded .singleIsBurstOfOne 3) some (by omega),
      (caseDrainsToOkZero_iff (loaded .drainsToOkZero 2) some).mpr (ready _),
      (casePoolReclaim_iff (loaded .poolReclaimAfterForeignDrop 2) room).mpr (ready _),
      exhausted⟩

end DatagramSource

end Transports.Core
