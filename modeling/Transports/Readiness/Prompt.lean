import Transports.Readiness.Mio
import Transports.Readiness.Tokio

/-!
# How long `ready` takes

Neither backend's wait is stuck over a readable socket; here, that it is not held up
either. Over a socket that is and stays readable, `ready` and `readable` return within a
fixed number of their own steps, whatever the kernel, the driver and other tasks do in
between, and none of these steps has to wait for anything but the driver.
-/

namespace Transports.Readiness

open Lib Transports.Core Transports.Udp

variable {σ α : Type}

/-! ## mio -/

namespace Mio

/-- `ready` is in progress. -/
def Pc.inReady : Pc → Bool
  | .probing | .parked | .collected _ => true
  | _ => false

/-- The next step of `ready`, with what the kernel answers to it. -/
def Pc.nextOwn (fault : Option Fault) (alsoReadable alsoWritable : Bool) : Pc → PollerAction α
  | .probing => .probe fault
  | .parked => .poll fault alsoReadable alsoWritable
  | _ => .scan

def PollerAction.own : PollerAction α → Bool
  | .probe _ | .poll _ _ _ | .scan => true
  | _ => false

/-- The steps `ready` still has to take over a readable socket. -/
def Poller.left (owner : Owner σ α) (p : Poller σ) : Nat :=
  match p.pc with
  | .probing => 1
  | .parked => 2
  | .collected events => if sawReadable owner.token events then 1 else 3
  | _ => 0

/-- `ready` is in progress over a readable socket. -/
structure Due (owner : Owner σ α) (p : Poller σ) : Prop where
  inside : p.pc.inReady = true
  readable : owner.readable p.base = true
  sound : Sound owner p

section Due

variable {owner : Owner σ α} {p t : Poller σ}

theorem sound_step {a : PollerAction α} (sound : Sound owner p)
    (taken : (poller owner).step p a = some t) : Sound owner t := by
  have taken : p.step owner a = some t := taken
  exact sound_move sound (move_of_step taken)

theorem due_base {a : α} (due : Due owner p) (taken : (poller owner).step p (.base a) = some t) :
    Due owner t ∧ t.left owner = p.left owner := by
  have sound := sound_step due.sound taken
  simp only [poller, Poller.step, Option.ite_none_left_eq_some, Option.map_eq_some_iff] at taken
  obtain ⟨free, s, moved, rfl⟩ := taken
  have busy : p.pc ≠ .idle := by
    intro idle
    have inside := due.inside
    rw [idle] at inside
    cases inside
  have other : owner.exclusive a = false := by
    cases own : owner.exclusive a with
    | true => exact absurd ⟨own, busy⟩ free
    | false => rfl
  exact ⟨⟨due.inside, owner.readable_kept _ _ _ moved other due.readable, sound⟩, rfl⟩

theorem due_probe {fault : Option Fault} (due : Due owner p)
    (taken : (poller owner).step p (.probe fault) = some t) :
    ∃ result, t.pc = .returned .ready result := by
  simp only [poller, Poller.step, Option.ite_none_right_eq_some, Option.some.injEq] at taken
  obtain ⟨_, rfl⟩ := taken
  cases fault with
  | some e =>
      -- a failure of the probe is no `WouldBlock`
      simp [probeReadable, Poller.afterProbe, Source.probe, e.property]
  | none =>
      obtain ⟨n, answer⟩ := Source.readable_iff.mp due.readable
      simp [probeReadable, Poller.afterProbe, Source.probe, answer]

theorem due_poll {fault : Option Fault} {alsoReadable alsoWritable : Bool} (due : Due owner p)
    (taken : (poller owner).step p (.poll fault alsoReadable alsoWritable) = some t) :
    (∃ result, t.pc = .returned .ready result) ∨
      Due owner t ∧ t.left owner + 1 ≤ p.left owner := by
  have sound := sound_step due.sound taken
  obtain ⟨inside, readable, awake⟩ := due
  cases here : p.pc with
  | parked =>
      have covered := awake.awake
      rw [here] at covered
      cases fault with
      | some e =>
          simp only [poller, Poller.step, here, Option.some.injEq] at taken
          subst taken
          exact .inl ⟨_, rfl⟩
      | none =>
          have sees := Poller.sawReadable_events alsoReadable alsoWritable covered
          simp only [poller, Poller.step, here, Option.ite_none_left_eq_some,
            Option.some.injEq] at taken
          obtain ⟨_, rfl⟩ := taken
          refine .inr ⟨⟨rfl, readable, sound⟩, ?_⟩
          simp only [Poller.left, here, Poller.goto_pc, sees, readable, if_true]
          omega
  | _ =>
      cases fault <;> simp_all [poller, Poller.step, Pc.inReady]

theorem due_scan (due : Due owner p) (taken : (poller owner).step p .scan = some t) :
    (∃ result, t.pc = .returned .ready result) ∨
      Due owner t ∧ t.left owner + 1 ≤ p.left owner := by
  have sound := sound_step due.sound taken
  simp only [poller, Poller.step] at taken
  split at taken
  · next events here =>
      split at taken
      · cases taken
        exact .inl ⟨_, rfl⟩
      · next blind =>
          cases taken
          refine .inr ⟨⟨rfl, due.readable, sound⟩, ?_⟩
          simp [Poller.left, here, blind]
  · cases taken

/-- A step of `ready` ends it or brings it closer, any other step leaves it where it is. -/
theorem due_step {a : PollerAction α} (due : Due owner p)
    (taken : (poller owner).step p a = some t) :
    (∃ result, t.pc = .returned .ready result) ∨
      Due owner t ∧ t.left owner + (if a.own then 1 else 0) ≤ p.left owner := by
  have inside := due.inside
  have sound := sound_step due.sound taken
  cases a with
  | base a =>
      obtain ⟨still, same⟩ := due_base due taken
      exact .inr ⟨still, same.le⟩
  | becomesWritable =>
      simp only [poller, Poller.step, Option.ite_none_right_eq_some, Option.some.injEq] at taken
      obtain ⟨_, rfl⟩ := taken
      exact .inr ⟨⟨inside, due.readable, sound⟩, Nat.le_refl _⟩
  | probe fault => exact .inl (due_probe due taken)
  | poll fault alsoReadable alsoWritable => exact due_poll due taken
  | scan => exact due_scan due taken
  | register raised | connectFails e | send len | ready =>
      simp only [poller, Poller.step, Option.ite_none_right_eq_some] at taken
      simp_all [Pc.inReady]
  | write answer | done =>
      simp only [poller, Poller.step] at taken
      split at taken <;> simp_all [Pc.inReady]

/-- Its next step never has to wait, whatever the kernel answers. -/
theorem due_enabled (due : Due owner p) (fault : Option Fault) (alsoReadable alsoWritable : Bool) :
    ((poller owner).step p (p.pc.nextOwn fault alsoReadable alsoWritable)).isSome := by
  have covered := due.sound.awake
  have inside := due.inside
  cases here : p.pc with
  | probing => simp [poller, Poller.step, Pc.nextOwn, here]
  | collected events =>
      simp only [poller, Poller.step, Pc.nextOwn, here]
      split <;> rfl
  | parked =>
      rw [here] at covered
      have edge : p.readEdge = true := covered due.readable
      cases fault <;> simp [poller, Poller.step, Pc.nextOwn, here, Poller.events, edge]
  | _ => simp [here, Pc.inReady] at inside

theorem due_left (due : Due owner p) : 0 < p.left owner ∧ p.left owner ≤ 3 := by
  have inside := due.inside
  unfold Poller.left
  cases here : p.pc with
  | probing | parked => simp
  | collected events =>
      dsimp only
      split <;> simp
  | _ => simp [here, Pc.inReady] at inside

end Due

/-- **`ready` is not held up.** Of either transport, from any moment of a `ready` at which
the socket is readable: whatever arrives and whatever other events the poller reports, it has
returned by its third step from there, and until then its next step can be taken at once. -/
theorem ready_waitFree (owner : Owner σ α) {p t : Poller σ} {events : List (PollerAction α)}
    (reach : (poller owner).Reachable p) (inside : p.pc.inReady = true)
    (readable : owner.readable p.base = true)
    (run : (poller owner).runFrom p events = some t) :
    (∃ first later u, events = first ++ later ∧ (poller owner).runFrom p first = some u ∧
      ∃ result, u.pc = .returned .ready result) ∨
    (∀ fault alsoReadable alsoWritable,
      ((poller owner).step t (t.pc.nextOwn fault alsoReadable alsoWritable)).isSome) ∧
      events.countP PollerAction.own ≤ 2 := by
  have due : Due owner p := ⟨inside, readable, poller_sound owner p reach⟩
  have turn : ∀ n q a u, Due owner q ∧ q.left owner = n → (poller owner).step q a = some u →
      (∃ result, u.pc = .returned .ready result) ∨
        ∃ m, (Due owner u ∧ u.left owner = m) ∧ m + (if a.own then 1 else 0) ≤ n := by
    rintro n q a u ⟨before, rfl⟩ taken
    rcases due_step before taken with ended | ⟨still, closer⟩
    · exact .inl ended
    · exact .inr ⟨_, ⟨still, rfl⟩, closer⟩
  rcases System.runFrom_until PollerAction.own turn ⟨due, rfl⟩ run with
    ended | ⟨m, ⟨still, rfl⟩, spent⟩
  · exact .inl ended
  · refine .inr ⟨due_enabled still, ?_⟩
    have first := due_left due
    have last := due_left still
    omega

/-- The poll and the look at its events. -/
def wakeUp : List (PollerAction Udp.Action) := [.poll none false false, .scan]

theorem ready_waitFree_parked :
    ∃ first later u, wakeUp = first ++ later ∧
      (poller (udp 1 2)).runFrom arrivalWhileParked first = some u ∧
      ∃ result, u.pc = .returned .ready result := by
  have start : (poller (udp 1 2)).init ⟨oneSlot, false, false, .binding⟩ :=
    ⟨⟨_, _, rfl, rfl⟩, rfl, rfl, rfl⟩
  have run : (poller (udp 1 2)).runFrom arrivalWhileParked wakeUp =
      some ((poller (udp 1 2)).replay arrivalWhileParked wakeUp) := rfl
  rcases ready_waitFree (udp 1 2) (.replay start _) rfl rfl run with ended | ⟨goesOn, _⟩
  · exact ended
  · -- it has returned, so it has no further step
    exact absurd (goesOn none false false) (by decide)

end Mio

/-! ## tokio -/

namespace Tokio

/-- A step of this task. -/
def ReactorAction.own (i : Nat) : ReactorAction α → Bool
  | .wake j | .tryIo j | .peek j _ | .clear j => j == i
  | _ => false

/-- No task is about to clear the bit under the tick it has. -/
def Calm (r : Reactor σ) : Prop := ∀ j, r.tasks j ≠ .clearing r.tick

/-- The steps a task in `readable` still has to take at most, if the socket stays readable. -/
inductive AtMost (r : Reactor σ) : Nat → TaskPc → Prop
  | peeking {tick} : AtMost r 1 (.peeking tick)
  | trying (calm : Calm r) (set : r.bit = true) : AtMost r 2 .trying
  /-- the bit is there to stay, or the driver will set it for good -/
  | awaiting (quiet : Calm r ∨ r.bit = false) : AtMost r 3 .awaiting
  /-- another task may still clear the bit -/
  | tryingStale : AtMost r 4 .trying
  | awaitingStale : AtMost r 5 .awaiting
  | clearing {tick} : AtMost r 6 (.clearing tick)

/-- The call is over: it returned, or its future was dropped. -/
def Over : TaskPc → Prop
  | .idle | .returned _ => True
  | _ => False

/-- A task is in `readable`, the socket readable, and at most `n` steps are left. -/
structure Due (source : Source σ α) (i n : Nat) (r : Reactor σ) : Prop where
  tracked : Tracked source r
  level : source.readable r.base = true
  left : AtMost r n (r.tasks i)

section Due

variable {source : Source σ α} {r t : Reactor σ} {i n : Nat}

theorem calm_goto (calm : Calm r) {j : Nat} {pc : TaskPc} (other : pc ≠ .clearing r.tick) :
    Calm (r.goto j pc) := by
  intro k here
  rcases Reactor.of_goto here with ⟨_, same⟩ | old
  · exact other same
  · exact calm k old

/-- Over a readable socket a calm bit stays set, and only the driver sets a clear one. -/
theorem calm_move {a : ReactorAction α} (tracked : Tracked source r)
    (level : source.readable r.base = true) (h : Move source r a t) :
    (Calm r → Calm t ∧ (r.bit = true → t.bit = true)) ∧
      (r.bit = false → t.bit = false ∨ Calm t) := by
  cases h with
  | base | register => exact ⟨fun calm => ⟨calm, id⟩, .inl⟩
  | driver pending =>
      -- the tick is now ahead of every clear
      have calm : Calm { r with bit := true, tick := r.tick + 1, pending := false } := by
        intro j here
        have here : r.tasks j = .clearing (r.tick + 1) := here
        have ok := tracked.tasks j
        rw [here] at ok
        have := ok.1
        omega
      exact ⟨fun _ => ⟨calm, fun _ => rfl⟩, fun _ => .inr calm⟩
  | missed here low => rw [level] at low; cases low
  | cleared here same =>
      subst same
      exact ⟨fun calm => absurd here (calm _), fun _ => .inl rfl⟩
  | called | woken | entered | refused | saw | failed | kept | done | cancelled | shutDown =>
      exact ⟨fun calm => ⟨calm_goto calm (by simp), id⟩, .inl⟩

/-- Whatever others do brings the task no further from its end. -/
theorem AtMost.beside {a : ReactorAction α} {pc : TaskPc} (left : AtMost r n pc)
    (tracked : Tracked source r) (level : source.readable r.base = true)
    (h : Move source r a t) : AtMost t n pc := by
  obtain ⟨calm, unset⟩ := calm_move tracked level h
  cases left with
  | peeking => exact .peeking
  | tryingStale => exact .tryingStale
  | awaitingStale => exact .awaitingStale
  | clearing => exact .clearing
  | trying quiet set => exact .trying (calm quiet).1 ((calm quiet).2 set)
  | awaiting quiet =>
      refine .awaiting ?_
      rcases quiet with before | clear
      · exact .inl (calm before).1
      · exact (unset clear).symm

/-- The task's own move ends the call or takes it a step closer to its end. -/
theorem AtMost.own_move {a : ReactorAction α} (left : AtMost r n (r.tasks i))
    (tracked : Tracked source r) (level : source.readable r.base = true)
    (h : Move source r a t) (own : a.own i = true) :
    Over (t.tasks i) ∨ ∃ m, AtMost t m (t.tasks i) ∧ m + 1 ≤ n := by
  obtain ⟨settled, _⟩ := calm_move tracked level h
  cases h with
  | base | register | driver | called | done | cancelled | shutDown => cases own
  | @woken j here set =>
      obtain rfl : j = i := beq_iff_eq.mp own
      rw [here] at left
      rw [Reactor.goto_self]
      cases left with
      | awaiting quiet =>
          obtain ⟨calm, kept⟩ := settled (quiet.resolve_right (by simp [set]))
          exact .inr ⟨2, .trying calm (kept set), Nat.le_refl _⟩
      | awaitingStale => exact .inr ⟨4, .tryingStale, Nat.le_refl _⟩
  | @entered j here set =>
      obtain rfl : j = i := beq_iff_eq.mp own
      rw [here] at left
      rw [Reactor.goto_self]
      refine .inr ⟨1, .peeking, ?_⟩
      cases left <;> omega
  | @refused j here unset =>
      obtain rfl : j = i := beq_iff_eq.mp own
      rw [here] at left
      rw [Reactor.goto_self]
      cases left with
      | trying calm set => simp [unset] at set
      | tryingStale => exact .inr ⟨3, .awaiting (.inr unset), Nat.le_refl _⟩
  | @saw j tick fault here _ =>
      obtain rfl : j = i := beq_iff_eq.mp own
      rw [Reactor.goto_self]
      exact .inl trivial
  | missed here low =>
      rw [level] at low
      cases low
  | @failed j tick fault e here =>
      obtain rfl : j = i := beq_iff_eq.mp own
      rw [Reactor.goto_self]
      exact .inl trivial
  | @cleared j tick here same | @kept j tick here moved =>
      obtain rfl : j = i := beq_iff_eq.mp own
      rw [here] at left
      rw [Reactor.goto_self]
      cases left
      exact .inr ⟨5, .awaitingStale, Nat.le_refl _⟩

/-- Nobody else moves the task, except to end its call. -/
theorem AtMost.other_move {a : ReactorAction α} (left : AtMost r n (r.tasks i))
    (h : Move source r a t) (other : a.own i = false) :
    Over (t.tasks i) ∨ t.tasks i = r.tasks i := by
  cases h with
  | base | register | driver => exact .inr rfl
  | @woken j | @entered j | @refused j | @saw j | @missed j | @failed j | @cleared j | @kept j =>
      have apart : i ≠ j := by
        rintro rfl
        simp [ReactorAction.own] at other
      exact .inr (Reactor.goto_other apart)
  | @called j registered here =>
      by_cases same : i = j
      · subst same
        rw [here] at left
        cases left
      · exact .inr (Reactor.goto_other same)
  | @done j result here =>
      by_cases same : i = j
      · subst same
        rw [here] at left
        cases left
      · exact .inr (Reactor.goto_other same)
  | @cancelled j | @shutDown j =>
      by_cases same : i = j
      · subst same
        rw [Reactor.goto_self]
        exact .inl trivial
      · exact .inr (Reactor.goto_other same)

theorem due_step {a : ReactorAction α} (due : Due source i n r)
    (taken : (reactor source).step r a = some t) :
    (source.readable t.base = false ∨ Over (t.tasks i)) ∨
      ∃ m, Due source i m t ∧ m + (if a.own i then 1 else 0) ≤ n := by
  have taken : r.step source a = some t := taken
  have moved := move_of_step taken
  have tracked := tracked_move due.tracked moved
  cases level : source.readable t.base with
  | false => exact .inl (.inl rfl)
  | true =>
      cases own : a.own i with
      | true =>
          rcases due.left.own_move due.tracked due.level moved own with ended | ⟨m, left, closer⟩
          · exact .inl (.inr ended)
          · exact .inr ⟨m, ⟨tracked, level, left⟩, closer⟩
      | false =>
          rcases due.left.other_move moved own with ended | same
          · exact .inl (.inr ended)
          · have left := due.left.beside due.tracked due.level moved
            rw [← same] at left
            exact .inr ⟨n, ⟨tracked, level, left⟩, Nat.le_refl _⟩

/-- The task has a step to take, or the driver has an event to process for it. -/
theorem due_enabled (due : Due source i n r) :
    (∃ a : ReactorAction α, a.own i = true ∧ ((reactor source).step r a).isSome) ∨
      r.tasks i = .awaiting ∧ ((reactor source).step r .driver).isSome := by
  have mine : (i == i) = true := beq_self_eq_true i
  cases here : r.tasks i with
  | idle | returned =>
      have left := due.left
      rw [here] at left
      cases left
  | trying => exact .inl ⟨.tryIo i, mine, by simp [reactor, Reactor.step, here]⟩
  | peeking tick => exact .inl ⟨.peek i none, mine, by simp [reactor, Reactor.step, here]⟩
  | clearing tick => exact .inl ⟨.clear i, mine, by simp [reactor, Reactor.step, here]⟩
  | awaiting =>
      have registered := due.tracked.registered here (by simp)
      rcases due.tracked.covered registered due.level with set | pending
      · exact .inl ⟨.wake i, mine, by simp [reactor, Reactor.step, here, set]⟩
      · exact .inr ⟨rfl, by simp [reactor, Reactor.step, pending]⟩

/-- From anywhere inside `readable`. -/
theorem atMost_inside (r : Reactor σ) {pc : TaskPc} (inside : ¬ Over pc) :
    ∃ n, AtMost r n pc ∧ n ≤ 6 := by
  cases pc with
  | idle | returned => exact absurd trivial inside
  | awaiting => exact ⟨5, .awaitingStale, by omega⟩
  | trying => exact ⟨4, .tryingStale, by omega⟩
  | peeking => exact ⟨1, .peeking, by omega⟩
  | clearing => exact ⟨6, .clearing, by omega⟩

end Due

/-- **`readable` is not held up.** Of either transport, from any moment of a `readable` at
which the socket is readable, whatever the driver and any number of other tasks do: by the
task's sixth step from there it has returned, or was dropped, or the socket ceased to be
readable; and until then the task can take a step at once, or awaits an event the driver has
yet to process. -/
theorem readable_waitFree (source : Source σ α) {r t : Reactor σ} {i : Nat}
    {events : List (ReactorAction α)} (reach : (reactor source).Reachable r)
    (inside : ¬ Over (r.tasks i)) (level : source.readable r.base = true)
    (run : (reactor source).runFrom r events = some t) :
    (∃ first later u, events = first ++ later ∧ (reactor source).runFrom r first = some u ∧
      (source.readable u.base = false ∨ Over (u.tasks i))) ∨
    ((∃ a : ReactorAction α, a.own i = true ∧ ((reactor source).step t a).isSome) ∨
      t.tasks i = .awaiting ∧ ((reactor source).step t .driver).isSome) ∧
      events.countP (ReactorAction.own i) ≤ 5 := by
  obtain ⟨n, left, most⟩ := atMost_inside r inside
  have due : Due source i n r := ⟨reactor_tracked source r reach, level, left⟩
  have turn : ∀ n s a u, Due source i n s → (reactor source).step s a = some u →
      (source.readable u.base = false ∨ Over (u.tasks i)) ∨
        ∃ m, Due source i m u ∧ m + (if a.own i then 1 else 0) ≤ n :=
    fun _ _ _ _ before taken => due_step before taken
  rcases System.runFrom_until (ReactorAction.own i) turn due run with ended | ⟨m, still, spent⟩
  · exact .inl ended
  · refine .inr ⟨due_enabled still, ?_⟩
    -- a call in progress has a step left
    have positive : 0 < m := by
      have left := still.left
      generalize t.tasks i = pc at left
      cases left <;> omega
    omega

/-- After the race: the driver sets the bit again, the task comes through, and calls again. -/
def comesThrough : List (ReactorAction Udp.Action) :=
  [.driver, .wake 0, .tryIo 0, .peek 0 none, .done 0, .readable 0, .wake 0, .tryIo 0,
    .peek 0 none]

theorem readable_waitFree_raced :
    ∃ first later u, comesThrough = first ++ later ∧
      (reactor (udp .tokio 1 2)).runFrom raced first = some u ∧
      ((udp .tokio 1 2).readable u.base = false ∨ Over (u.tasks 0)) := by
  have start : (reactor (udp .tokio 1 2)).init ⟨oneSlot, false, false, 0, false, fun _ => .idle⟩ :=
    ⟨⟨_, _, rfl, rfl⟩, rfl, rfl, rfl, rfl, rfl⟩
  have run : (reactor (udp .tokio 1 2)).runFrom raced comesThrough =
      some ((reactor (udp .tokio 1 2)).replay raced comesThrough) := rfl
  have inside : ¬ Over (raced.tasks 0) := id
  rcases readable_waitFree (udp .tokio 1 2) (.replay start _) inside rfl run with ended | ⟨_, few⟩
  · exact ended
  · -- it took six steps
    exact absurd few (by decide)

end Tokio

end Transports.Readiness
