import Mathlib.Data.List.Basic

/-!
# Scripts that stop at their first failure

A step takes an action and a state to a verdict and a state, and the state is kept when
the step fails. A script of actions runs until one of them fails, so what is true of its
end is proved along the actions that completed.
-/

namespace Lib

variable {σ α ε : Type*} {step : σ → α → Except ε Unit × σ}

/-- What one more action adds to what a script amounts to. -/
theorem filterMap_snoc {β : Type*} (f : α → Option β) (script : List α) (a : α) :
    (script ++ [a]).filterMap f = script.filterMap f ++ (f a).toList := by
  rw [List.filterMap_append, List.filterMap_cons]
  cases f a <;> rfl

/-- Take the actions in order, up to the first that fails. -/
def runAll (step : σ → α → Except ε Unit × σ) : List α → σ → Except ε Unit × σ
  | [], s => (.ok (), s)
  | a :: rest, s =>
    match step s a with
    | (.ok (), t) => runAll step rest t
    | (.error e, t) => (.error e, t)

theorem runAll_cons_ok {s t : σ} {a : α} (done : step s a = (.ok (), t)) (rest : List α) :
    runAll step (a :: rest) s = runAll step rest t := by
  rw [runAll, done]

theorem runAll_cons_error {s t : σ} {a : α} {e : ε} (failed : step s a = (.error e, t))
    (rest : List α) : runAll step (a :: rest) s = (.error e, t) := by
  rw [runAll, failed]

theorem runAll_append_ok {s t : σ} {first : List α} (done : runAll step first s = (.ok (), t))
    (second : List α) : runAll step (first ++ second) s = runAll step second t := by
  induction first generalizing s with
  | nil => rw [(Prod.mk.inj done).2]; rfl
  | cons a rest ih =>
      rcases h : step s a with ⟨verdict, u⟩
      cases verdict with
      | error e =>
          rw [runAll_cons_error h] at done
          cases done
      | ok =>
          rw [runAll_cons_ok h] at done
          rw [List.cons_append, runAll_cons_ok h, ih done]

theorem runAll_one {s : σ} {a : α} : runAll step [a] s = step s a := by
  rcases h : step s a with ⟨verdict, u⟩
  cases verdict with
  | error e => exact runAll_cons_error h []
  | ok => exact runAll_cons_ok h []

/-- Every run stops in one of two ways: all actions complete, or all before one that
fails do. -/
theorem runAll_cases (step : σ → α → Except ε Unit × σ) (script : List α) (s : σ) :
    (∃ t, runAll step script s = (.ok (), t)) ∨
    ∃ pre a post t e u, script = pre ++ a :: post ∧ runAll step pre s = (.ok (), t) ∧
      step t a = (.error e, u) ∧ runAll step script s = (.error e, u) := by
  induction script generalizing s with
  | nil => exact .inl ⟨s, rfl⟩
  | cons a rest ih =>
      rcases h : step s a with ⟨verdict, t⟩
      cases verdict with
      | error e => exact .inr ⟨[], a, rest, s, e, t, rfl, rfl, h, runAll_cons_error h rest⟩
      | ok =>
          rw [runAll_cons_ok h rest]
          rcases ih t with all | ⟨pre, b, post, u, e, v, rfl, before, failed, ends⟩
          · exact .inl all
          · refine .inr ⟨a :: pre, b, post, u, e, v, rfl, ?_, failed, ends⟩
            rw [runAll_cons_ok h, before]

/-- What completed actions build up: `P` of none, and of one more after each. -/
theorem runAll_induction {P : List α → σ → Prop} {s t : σ} {script : List α}
    (start : P [] s)
    (more : ∀ pre a t u, a ∈ script → P pre t → step t a = (.ok (), u) → P (pre ++ [a]) u)
    (done : runAll step script s = (.ok (), t)) : P script t := by
  suffices h : ∀ rest ⊆ script, ∀ pre s, P pre s → runAll step rest s = (.ok (), t) →
      P (pre ++ rest) t from
    h script (fun _ member => member) [] s start done
  intro rest
  induction rest with
  | nil =>
      intro _ pre s before done
      rw [List.append_nil, ← (Prod.mk.inj done).2]
      exact before
  | cons a rest ih =>
      intro within pre s before done
      obtain ⟨member, within⟩ := List.cons_subset.mp within
      rcases h : step s a with ⟨verdict, u⟩
      cases verdict with
      | error e =>
          rw [runAll_cons_error h] at done
          cases done
      | ok =>
          rw [runAll_cons_ok h] at done
          have joined := ih within (pre ++ [a]) u (more pre a s u member before h) done
          rwa [List.append_assoc] at joined

/-- Every action of a run that completed has completed. -/
theorem runAll_ok_mem {s t : σ} {script : List α} (done : runAll step script s = (.ok (), t)) :
    ∀ a ∈ script, ∃ u v, step u a = (.ok (), v) := by
  refine runAll_induction (P := fun pre _ => ∀ a ∈ pre, ∃ u v, step u a = (.ok (), v)) ?_ ?_ done
  · intro a member
    cases member
  · intro pre a u v _ before taken b member
    rcases List.mem_append.mp member with old | new
    · exact before b old
    · rw [List.mem_singleton.mp new]
      exact ⟨u, v, taken⟩

end Lib
