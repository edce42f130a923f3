import Transports.Core.Tolerance

/-!
# What a passing report certifies

The calls the suite makes, case by case, each with what it was asked for, what it
answered and how the batch grew. The burst case compares the count with the batch; the
single, the drain and the reclaim case take the count at its word, and the reclaim case
does not look at it at all. So a report that passes certifies the counts of the calls
that are compared, and of the others nothing that the source did not do by itself.
-/

namespace Transports.Core

/-- One `recv_burst` of the suite, with the length of the batch before and after it. -/
structure SuiteCall where
  max : Nat
  before : Nat
  answer : Except TransportError Nat
  after : Nat
  deriving DecidableEq

namespace SuiteCall

/-- An `Ok(n)` is within `max`. -/
def Within (call : SuiteCall) : Prop :=
  match call.answer with
  | .ok n => n ≤ call.max
  | .error _ => True

/-- An `Ok(n)` appended `n` frames. -/
def Pushed (call : SuiteCall) : Prop :=
  match call.answer with
  | .ok n => call.after = call.before + n
  | .error _ => True

instance (call : SuiteCall) : Decidable call.Within := by
  unfold Within
  split <;> infer_instance

instance (call : SuiteCall) : Decidable call.Pushed := by
  unfold Pushed
  split <;> infer_instance

/-- The count is right. -/
def Honest (call : SuiteCall) : Prop := call.Within ∧ call.Pushed

instance (call : SuiteCall) : Decidable call.Honest := by
  unfold Honest
  infer_instance

end SuiteCall

/-- The datagrams a case asks its builder for. -/
def DatagramCase.preload : DatagramCase → Nat
  | .burstLeqMax => 5
  | .singleIsBurstOfOne => 3
  | .drainsToOkZero | .poolReclaimAfterForeignDrop | .poolExhaustedWhenEmpty => 2

namespace DatagramSource

variable {σ F L : Type} (src : DatagramSource σ F L)

/-- The call `src.recv_burst(&mut batch, max)`. -/
def callOn (s : σ) (batch : FrameBatch F) (max : Nat) : SuiteCall where
  max := max
  before := batch.frames.length
  answer := (src.recvBurst s batch max).1
  after := (src.recvBurst s batch max).2.1.frames.length

/-- The calls of `singleLoop`. -/
def singleCalls : Nat → σ → FrameBatch F → List SuiteCall
  | 0, _, _ => []
  | turns + 1, s, batch =>
    src.callOn s batch 1 ::
      match src.recvBurst s batch 1 with
      | (.ok n, batch, s) => if n > 0 then [] else singleCalls turns s batch
      | (.error _, _, _) => []

/-- The calls of `drainLoop`. -/
def drainCalls : Nat → σ → FrameBatch F → List SuiteCall
  | 0, _, _ => []
  | turns + 1, s, batch =>
    src.callOn s batch 8 ::
      match src.recvBurst s batch 8 with
      | (.ok n, batch, s) =>
        if n > 8 then []
        else
          let (frames, batch) := batch.drain
          let s := frames.foldl src.dropFrame s
          if n = 0 then [] else drainCalls turns s batch
      | (.error _, _, _) => []

/-- The calls of `collectLoop`. -/
def collectCalls : Nat → σ → FrameBatch F → List F → List SuiteCall
  | 0, _, _, _ => []
  | turns + 1, s, batch, frames =>
    src.callOn s batch 8 ::
      match src.recvBurst s batch 8 with
      | (.ok n, batch, s) =>
        let (more, batch) := batch.drain
        if 2 ≤ (frames ++ more).length ∨ n = 0 then []
        else collectCalls turns s batch (frames ++ more)
      | (.error _, _, _) => []

/-- The calls a case makes on the source built for it, the loop of the last one within so
many turns. -/
def calls (turns : Nat) (s : σ) : DatagramCase → List SuiteCall
  | .burstLeqMax => [src.callOn s (.withCapacity 64) 3]
  | .singleIsBurstOfOne => src.singleCalls 8 s (.withCapacity 64)
  | .drainsToOkZero =>
    src.drainCalls 1024 s (.withCapacity 64) ++
      match src.drainLoop 1024 s (.withCapacity 64) 0 with
      | .ok (reaped, batch, s) => if reaped < 2 then [] else [src.callOn s batch 8]
      | .error _ => []
  | .poolReclaimAfterForeignDrop =>
    src.collectCalls 1024 s (.withCapacity 64) [] ++
      match src.collectLoop 1024 s (.withCapacity 64) [] with
      | .ok (frames, batch, s) =>
        if frames.length < 2 ∨ src.inUse s = 0 then []
        else
          match src.dropThread s frames with
          | none => []
          | some s => [src.callOn s batch 8]
      | .error _ => []
  | .poolExhaustedWhenEmpty =>
    match src.holdAll turns s [] with
    | some (.ok (_, s)) => [src.callOn s (.withCapacity 64) 8]
    | some (.error _) | none => []

/-- The calls the suite makes in one of its cases. -/
def suiteCalls (turns : Nat) (build : DatagramCase → Nat → σ) (case : DatagramCase) :
    List SuiteCall :=
  src.calls turns (build case case.preload) case

/-! ## What each case looks at -/

section Cases

variable {src} {s s' : σ} {batch out : FrameBatch F} {max n m turns : Nat}

theorem reap_ok (call : src.recvBurst s batch max = (.ok n, out, s')) :
    src.reap s batch max = .ok (n, out, s') := by
  simp only [reap, call]

theorem callOn_ok (call : src.recvBurst s batch max = (.ok n, out, s')) :
    src.callOn s batch max = ⟨max, batch.frames.length, .ok n, out.frames.length⟩ := by
  simp only [callOn, call]

/-- A case that passes made no call that failed, as far as it went. -/
theorem recvBurst_ok_of_bind {α : Type} {f : Nat × FrameBatch F × σ → Except String α} {a : α}
    (passed : (src.reap s batch max >>= f) = .ok a) :
    ∃ n out s', src.recvBurst s batch max = (.ok n, out, s') ∧ f (n, out, s') = .ok a := by
  rcases call : src.recvBurst s batch max with ⟨answer, out, s'⟩
  cases answer with
  | error e =>
      simp only [reap, call] at passed
      cases passed
  | ok n =>
      rw [reap_ok call] at passed
      exact ⟨n, out, s', rfl, passed⟩

theorem burstLeqMax_certifies (passed : src.caseBurstLeqMax s = .ok ()) :
    ∀ call ∈ src.calls turns s .burstLeqMax, call.Honest := by
  obtain ⟨n, out, s', call, checked⟩ := recvBurst_ok_of_bind passed
  intro made member
  rw [calls, List.mem_singleton, callOn_ok call] at member
  subst member
  dsimp only at checked
  split at checked
  · cases checked
  · next few =>
      split at checked
      · cases checked
      · next same => exact ⟨Nat.le_of_not_lt few, (not_not.mp same).trans (Nat.zero_add n).symm⟩

/-- Every call of the loop is asked for one datagram and answers nothing or `m`, and one of
them answers `m`. -/
theorem singleLoop_certifies (turns : Nat) (passed : src.singleLoop turns s batch 0 = .ok m)
    (some : 0 < m) :
    (∀ call ∈ src.singleCalls turns s batch,
      call.max = 1 ∧ (call.answer = .ok 0 ∨ call.answer = .ok m)) ∧
    ∃ call ∈ src.singleCalls turns s batch, call.answer = .ok m := by
  induction turns generalizing s batch with
  | zero =>
      cases passed
      exact absurd some (Nat.lt_irrefl 0)
  | succ turns ih =>
      obtain ⟨n, out, s', call, rest⟩ := recvBurst_ok_of_bind passed
      rw [singleCalls, callOn_ok call, call]
      dsimp only at rest ⊢
      by_cases first : n > 0
      · rw [if_pos first, Except.ok.injEq] at rest
        rw [if_pos first, rest]
        simp
      · obtain rfl : n = 0 := by omega
        rw [if_neg first] at rest ⊢
        obtain ⟨all, last, member, answer⟩ := ih rest
        refine ⟨?_, last, List.mem_cons_of_mem _ member, answer⟩
        intro made member
        rcases List.mem_cons.mp member with rfl | later
        · exact ⟨rfl, .inl rfl⟩
        · exact all made later

theorem singleBurst_certifies (passed : src.caseSingleBurst s = .ok ()) :
    (∀ call ∈ src.calls turns s .singleIsBurstOfOne, call.Within) ∧
    ∃ call ∈ src.calls turns s .singleIsBurstOfOne, call.answer = .ok 1 := by
  cases loop : src.singleLoop 8 s (.withCapacity 64) 0 with
  | error e => simp [caseSingleBurst, loop, bind, Except.bind] at passed
  | ok n =>
      have one : n = 1 := by
        simpa [caseSingleBurst, loop, bind, Except.bind] using passed
      subst one
      obtain ⟨all, last⟩ := singleLoop_certifies 8 loop Nat.one_pos
      refine ⟨?_, last⟩
      intro made member
      obtain ⟨max, answer⟩ := all made member
      rcases answer with answer | answer <;> simp [SuiteCall.Within, answer, max]

theorem drainLoop_certifies (turns reaped : Nat) {res : Nat × FrameBatch F × σ}
    (passed : src.drainLoop turns s batch reaped = .ok res) :
    ∀ call ∈ src.drainCalls turns s batch, call.Within := by
  induction turns generalizing s batch reaped with
  | zero =>
      intro made member
      cases member
  | succ turns ih =>
      obtain ⟨n, out, s', call, rest⟩ := recvBurst_ok_of_bind passed
      rw [drainCalls, callOn_ok call, call]
      dsimp only at rest ⊢
      by_cases many : n > 8
      · rw [if_pos many] at rest
        cases rest
      · rw [if_neg many] at rest ⊢
        intro made member
        rcases List.mem_cons.mp member with rfl | later
        · exact Nat.le_of_not_lt many
        · by_cases none : n = 0
          · rw [if_pos none] at later
            cases later
          · rw [if_neg none] at rest later
            exact ih (reaped + n) rest made later

theorem drainsToOkZero_certifies (passed : src.caseDrainsToOkZero s = .ok ()) :
    ∀ call ∈ src.calls turns s .drainsToOkZero, call.Within := by
  cases loop : src.drainLoop 1024 s (.withCapacity 64) 0 with
  | error e => simp [caseDrainsToOkZero, loop, bind, Except.bind] at passed
  | ok res =>
      obtain ⟨reaped, batch, s'⟩ := res
      rw [caseDrainsToOkZero, loop] at passed
      change (if reaped < 2 then .error _ else src.reap s' batch 8 >>= _) = _ at passed
      intro made member
      rw [calls, loop, List.mem_append] at member
      dsimp only at member
      rcases member with early | last
      · exact drainLoop_certifies 1024 0 loop made early
      · by_cases few : reaped < 2
        · rw [if_pos few] at last
          cases last
        · -- the call after the drain must have answered `Ok(0)`
          rw [if_neg few] at passed last
          obtain ⟨after, out, s'', call, none⟩ := recvBurst_ok_of_bind passed
          rw [List.mem_singleton, callOn_ok call] at last
          dsimp only at none
          split at none
          · cases none
          · next zero =>
              subst last
              show after ≤ 8
              omega

theorem poolExhausted_certifies (passed : src.casePoolExhausted turns s = some (.ok ())) :
    ∀ call ∈ src.calls turns s .poolExhaustedWhenEmpty, call.Honest := by
  obtain ⟨held, hold, checked⟩ := Option.map_eq_some_iff.mp passed
  cases held with
  | error e => cases checked
  | ok res =>
      obtain ⟨held, s'⟩ := res
      simp only [bind, Except.bind] at checked
      intro made member
      rw [calls, hold, List.mem_singleton] at member
      subst member
      have refused : ∃ e, (src.recvBurst s' (.withCapacity 64) 8).1 = .error e := by
        cases answer : (src.recvBurst s' (.withCapacity 64) 8).1 with
        | error e => exact ⟨e, rfl⟩
        | ok n =>
            rw [answer] at checked
            cases checked
      obtain ⟨e, answer⟩ := refused
      simp [SuiteCall.Honest, SuiteCall.Within, SuiteCall.Pushed, callOn, answer]

end Cases

/-! ## The report -/

/-- Every `Ok(n)` of the suite is within `max` and appended `n` frames, and the single case
was given its one frame. -/
def CountsRight (src : DatagramSource σ F L) (turns : Nat) (build : DatagramCase → Nat → σ) :
    Prop :=
  (∀ case, ∀ call ∈ src.suiteCalls turns build case, call.Honest) ∧
    ∃ call ∈ src.suiteCalls turns build .singleIsBurstOfOne,
      call.answer = .ok 1 ∧ call.after = call.before + 1

/-- What no case looks at is in order: the bursts of the single and of the drain case push
what they report, and those of the reclaim case do, within `max`. -/
def UnwatchedRight (src : DatagramSource σ F L) (turns : Nat) (build : DatagramCase → Nat → σ) :
    Prop :=
  (∀ call ∈ src.suiteCalls turns build .singleIsBurstOfOne, call.Pushed) ∧
  (∀ call ∈ src.suiteCalls turns build .drainsToOkZero, call.Pushed) ∧
  ∀ call ∈ src.suiteCalls turns build .poolReclaimAfterForeignDrop, call.Honest

/-- **What a passing report certifies.** For any source and builder, and in however many
turns the suite came to its report: if every case passed, the counts of all bursts of the
suite are right if and only if those no case looks at are. The burst case's count, the
limits of the single and the drain case, and the exhaustion case's refusal are certified. -/
theorem passed_certifies_iff (src : DatagramSource σ F L) (turns : Nat)
    (build : DatagramCase → Nat → σ) {report : DatagramConformanceReport}
    (ended : src.run turns build = some report) (passed : report.allPassed = true) :
    src.CountsRight turns build ↔ src.UnwatchedRight turns build := by
  obtain ⟨burst, single, drains, _, exhausted⟩ := (run_allPassed_iff ended).mp passed
  constructor
  · rintro ⟨honest, _⟩
    refine ⟨?_, ?_, honest .poolReclaimAfterForeignDrop⟩
    · intro call made
      exact (honest .singleIsBurstOfOne call made).2
    · intro call made
      exact (honest .drainsToOkZero call made).2
  · rintro ⟨singlePushed, drainsPushed, reclaim⟩
    obtain ⟨within, last, member, answer⟩ := singleBurst_certifies single
    refine ⟨?_, last, member, answer, ?_⟩
    · intro case call made
      cases case with
      | burstLeqMax => exact burstLeqMax_certifies burst call made
      | singleIsBurstOfOne => exact ⟨within call made, singlePushed call made⟩
      | drainsToOkZero => exact ⟨drainsToOkZero_certifies drains call made, drainsPushed call made⟩
      | poolReclaimAfterForeignDrop => exact reclaim call made
      | poolExhaustedWhenEmpty => exact poolExhausted_certifies exhausted call made
    · have one := singlePushed last member
      rw [SuiteCall.Pushed, answer] at one
      exact one

/-- The mock of the suite's test, without lag. -/
def mockBuild : DatagramCase → Nat → Bool × MockSource :=
  fun _ count => (false, MockSource.build count)

theorem passed_certifies_iff_mock :
    (MockSource.source.run 9 mockBuild).map DatagramConformanceReport.allPassed = some true ∧
      MockSource.source.CountsRight 9 mockBuild := by
  have ended : MockSource.source.run 9 mockBuild = some .allFive := by decide
  have unwatched : MockSource.source.UnwatchedRight 9 mockBuild := by
    unfold UnwatchedRight
    decide
  exact ⟨congrArg _ ended,
    (passed_certifies_iff MockSource.source 9 mockBuild ended rfl).mpr unwatched⟩

-- a pool that gives as its capacity what is out grows with every acquire, and passes too
example : ({ MockSource.source with capacity := fun s => s.2.inUse }).run 9 mockBuild =
    some .allFive := by
  decide

/-- The mock with its single-message path broken: asked for one datagram it reports one
and hands over none. -/
def brokenSingle : DatagramSource (Bool × MockSource) (List UInt8) Unit :=
  { MockSource.source with
    recvBurst := fun s out max =>
      if max = 1 then (.ok 1, out, s) else MockSource.source.recvBurst s out max }

/-- It passes all five cases. -/
theorem brokenSingle_passes :
    brokenSingle.run 9 mockBuild = some .allFive ∧
      brokenSingle.suiteCalls 9 mockBuild .singleIsBurstOfOne = [⟨1, 0, .ok 1, 0⟩] ∧
      ¬ brokenSingle.CountsRight 9 mockBuild := by
  have single : brokenSingle.suiteCalls 9 mockBuild .singleIsBurstOfOne =
      [⟨1, 0, .ok 1, 0⟩] := rfl
  refine ⟨by decide, single, ?_⟩
  rintro ⟨honest, _⟩
  have pushed := (honest .singleIsBurstOfOne ⟨1, 0, .ok 1, 0⟩ (by rw [single]; simp)).2
  cases pushed

end DatagramSource

end Transports.Core
