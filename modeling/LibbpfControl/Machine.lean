import Mathlib.Logic.Relation

/-!
# Labelled machines and guarded runs

A machine is deterministic once its label is fixed: every choice of a
scheduler, of another thread or of the environment is part of the label, and
a label which cannot be taken in a state has no successor.  Interleavings are
therefore lists of labels, and an interleaving can be evaluated.

`ReachableWhere` restricts runs by a guard on the state in which each step is
taken.  Invariants of unrestricted runs are the special case of the trivial
guard.  `clocked` restricts them by time instead: the readings which the labels
make of one clock strictly increase.  `startingAt` is for statements about a
part of a run, and `traced` for those about the steps which led to a state.
-/

namespace LibbpfControl

structure Machine (State Label : Type) where
  initial : State → Prop
  step : State → Label → Option State

namespace Machine

variable {State Label : Type}

/-- States reached by the runs all of whose steps meet `guard`. -/
inductive ReachableWhere (machine : Machine State Label)
    (guard : State → Label → Prop) : State → Prop where
  | initial {state : State} :
      machine.initial state → ReachableWhere machine guard state
  | next {state target : State} {label : Label} :
      ReachableWhere machine guard state →
      guard state label →
      machine.step state label = some target →
      ReachableWhere machine guard target

/-- States reached by arbitrary runs. -/
def Reachable (machine : Machine State Label) : State → Prop :=
  machine.ReachableWhere fun _ _ => True

/-- A machine of guarded commands: a label which is enabled has the effect
`apply`. -/
def guarded (initial : State → Prop) (enabled : State → Label → Bool)
    (apply : State → Label → State) : Machine State Label where
  initial := initial
  step state label :=
    if enabled state label then some (apply state label) else none

theorem enabled_of_guarded {initial : State → Prop}
    {enabled : State → Label → Bool}
    {apply : State → Label → State} {state target : State} {label : Label}
    (stepped : (guarded initial enabled apply).step state label =
      some target) :
    enabled state label = true ∧ target = apply state label := by
  simp only [guarded] at stepped
  split at stepped
  · rename_i isEnabled
    exact ⟨isEnabled, (Option.some.inj stepped).symm⟩
  · exact absurd stepped (by simp)

/-- The step rule for invariants of guarded runs. -/
theorem ReachableWhere.invariant
    {machine : Machine State Label} {guard : State → Label → Prop}
    {holds : State → Prop} {state : State}
    (reachable : machine.ReachableWhere guard state)
    (initially : ∀ state, machine.initial state → holds state)
    (preserved : ∀ state label target,
      holds state → guard state label →
      machine.step state label = some target → holds target) :
    holds state := by
  induction reachable with
  | initial start => exact initially _ start
  | next _ allowed stepped induction =>
      exact preserved _ _ _ induction allowed stepped

/-- An invariant may rest on facts already known of every state of the run. -/
theorem ReachableWhere.invariant_with
    {machine : Machine State Label} {guard : State → Label → Prop}
    {known holds : State → Prop} {state : State}
    (reachable : machine.ReachableWhere guard state)
    (knowledge : ∀ state, machine.ReachableWhere guard state → known state)
    (initially : ∀ state, machine.initial state → holds state)
    (preserved : ∀ state label target,
      known state → holds state → guard state label →
      machine.step state label = some target → holds target) :
    holds state := by
  induction reachable with
  | initial start => exact initially _ start
  | next before allowed stepped induction =>
      exact preserved _ _ _ (knowledge _ before) induction allowed stepped

theorem ReachableWhere.reachable
    {machine : Machine State Label} {guard : State → Label → Prop}
    {state : State} (reached : machine.ReachableWhere guard state) :
    machine.Reachable state := by
  induction reached with
  | initial start => exact .initial start
  | next _ _ stepped induction => exact .next induction trivial stepped

theorem Reachable.invariant
    {machine : Machine State Label} {holds : State → Prop} {state : State}
    (reachable : machine.Reachable state)
    (initially : ∀ state, machine.initial state → holds state)
    (preserved : ∀ state label target,
      holds state → machine.step state label = some target → holds target) :
    holds state :=
  ReachableWhere.invariant reachable initially
    (fun state label target held _ stepped =>
      preserved state label target held stepped)

theorem Reachable.invariant_with
    {machine : Machine State Label} {known holds : State → Prop}
    {state : State} (reachable : machine.Reachable state)
    (knowledge : ∀ state, machine.Reachable state → known state)
    (initially : ∀ state, machine.initial state → holds state)
    (preserved : ∀ state label target,
      known state → holds state →
      machine.step state label = some target → holds target) :
    holds state :=
  ReachableWhere.invariant_with reachable knowledge initially
    (fun state label target fact held _ stepped =>
      preserved state label target fact held stepped)

/-- The same steps from one state on. -/
def startingAt (machine : Machine State Label) (start : State) :
    Machine State Label where
  initial state := state = start
  step := machine.step

/-- What a window of a run reaches, the run reaches. -/
theorem ReachableWhere.of_startingAt {machine : Machine State Label}
    {guard : State → Label → Prop} {start state : State}
    (before : machine.Reachable start)
    (window : (machine.startingAt start).ReachableWhere guard state) :
    machine.Reachable state := by
  induction window with
  | initial begins => exact begins ▸ before
  | next _ _ stepped induction => exact .next induction trivial stepped

/-- The same runs; the state keeps the labels so far, the last one first. -/
def traced (machine : Machine State Label) :
    Machine (State × List Label) Label where
  initial run := machine.initial run.1 ∧ run.2 = []
  step run label :=
    (machine.step run.1 label).map (·, label :: run.2)

theorem traced_step {machine : Machine State Label}
    {run target : State × List Label} {label : Label}
    (stepped : machine.traced.step run label = some target) :
    machine.step run.1 label = some target.1 ∧
      target.2 = label :: run.2 := by
  obtain ⟨state, taken, rfl⟩ := Option.map_eq_some_iff.mp stepped
  exact ⟨taken, rfl⟩

theorem Reachable.of_traced {machine : Machine State Label}
    {run : State × List Label} (reached : machine.traced.Reachable run) :
    machine.Reachable run.1 := by
  induction reached with
  | initial start => exact .initial start.1
  | next _ _ stepped induction =>
      exact .next induction trivial (traced_step stepped).1

section Clocks

variable {Time : Type} [LT Time] [DecidableLT Time]

/-- The runs in which the clock readings of the labels strictly increase.  The
state keeps the last reading. -/
def clocked (machine : Machine State Label)
    (reading : Label → Option Time) : Machine (State × Time) Label where
  initial timed := machine.initial timed.1
  step timed label :=
    match reading label with
    | none => (machine.step timed.1 label).map (·, timed.2)
    | some now =>
        if timed.2 < now then (machine.step timed.1 label).map (·, now)
        else none

variable {machine : Machine State Label} {reading : Label → Option Time}

/-- The time after a step: the reading of the step, or none was made. -/
theorem clocked_step {timed target : State × Time} {label : Label}
    (stepped : (machine.clocked reading).step timed label = some target) :
    machine.step timed.1 label = some target.1 ∧
      (reading label = none ∧ target.2 = timed.2 ∨
        reading label = some target.2 ∧ timed.2 < target.2) := by
  simp only [clocked] at stepped
  split at stepped
  · rename_i unread
    obtain ⟨state, taken, rfl⟩ := Option.map_eq_some_iff.mp stepped
    exact ⟨taken, .inl ⟨unread, rfl⟩⟩
  · rename_i now read
    split at stepped
    · rename_i later
      obtain ⟨state, taken, rfl⟩ := Option.map_eq_some_iff.mp stepped
      exact ⟨taken, .inr ⟨read, later⟩⟩
    · cases stepped

/-- Time does not go back, and is what a step has read. -/
theorem clocked_time {timed target : State × Time} {label : Label}
    (stepped : (machine.clocked reading).step timed label = some target) :
    (timed.2 = target.2 ∨ timed.2 < target.2) ∧
      ∀ now, reading label = some now → target.2 = now := by
  rcases (clocked_step stepped).2 with ⟨unread, same⟩ | ⟨read, later⟩
  · refine ⟨.inl same.symm, ?_⟩
    intro now reads
    rw [reads] at unread
    cases unread
  · refine ⟨.inr later, ?_⟩
    intro now reads
    exact Option.some.inj (read.symm.trans reads)

/-- A step whose reading is later can be taken. -/
theorem exists_clocked_step {state after : State} {time : Time}
    {label : Label} (stepped : machine.step state label = some after)
    (later : ∀ now, reading label = some now → time < now) :
    ∃ target, (machine.clocked reading).step (state, time) label =
      some target := by
  cases read : reading label with
  | none =>
      refine ⟨(after, time), ?_⟩
      simp only [clocked, read, stepped, Option.map_some]
  | some now =>
      refine ⟨(after, now), ?_⟩
      simp only [clocked, read, stepped, Option.map_some,
        if_pos (later now read)]

/-- A clock restricts the runs of the machine. -/
theorem Reachable.of_clocked {timed : State × Time}
    (reached : (machine.clocked reading).Reachable timed) :
    machine.Reachable timed.1 := by
  induction reached with
  | initial start => exact .initial start
  | next _ _ stepped induction =>
      exact .next induction trivial (clocked_step stepped).1

end Clocks

/-- Follow a list of labels, stopping at the first label which is not
enabled or does not meet the guard. -/
def runWhere (machine : Machine State Label)
    (guard : State → Label → Prop)
    [∀ state label, Decidable (guard state label)] :
    State → List Label → Option State
  | state, [] => some state
  | state, label :: labels =>
      if guard state label then
        (machine.step state label).bind fun target =>
          runWhere machine guard target labels
      else none

theorem ReachableWhere.runWhere
    {machine : Machine State Label} {guard narrower : State → Label → Prop}
    [∀ state label, Decidable (narrower state label)]
    {start target : State} {labels : List Label}
    (allowed : ∀ state label, narrower state label → guard state label)
    (reached : machine.ReachableWhere guard start)
    (followed : machine.runWhere narrower start labels = some target) :
    machine.ReachableWhere guard target := by
  induction labels generalizing start with
  | nil =>
      simp only [Machine.runWhere, Option.some.injEq] at followed
      exact followed ▸ reached
  | cons label labels induction =>
      simp only [Machine.runWhere] at followed
      split at followed
      · rename_i meets
        obtain ⟨middle, stepped, rest⟩ := Option.bind_eq_some_iff.mp followed
        exact induction (.next reached (allowed _ _ meets) stepped) rest
      · cases followed

/-- The state at the end of an interleaving which is known to be enabled. -/
def finishWhere (machine : Machine State Label)
    (guard : State → Label → Prop)
    [∀ state label, Decidable (guard state label)]
    (start : State) (labels : List Label)
    (enabled : (machine.runWhere guard start labels).isSome = true) : State :=
  (machine.runWhere guard start labels).get enabled

theorem ReachableWhere.finishWhere
    {machine : Machine State Label} {guard narrower : State → Label → Prop}
    [∀ state label, Decidable (narrower state label)]
    {start : State} {labels : List Label}
    (allowed : ∀ state label, narrower state label → guard state label)
    (reached : machine.ReachableWhere guard start)
    (enabled : (machine.runWhere narrower start labels).isSome = true) :
    machine.ReachableWhere guard
      (machine.finishWhere narrower start labels enabled) :=
  reached.runWhere allowed (Option.some_get enabled).symm

/-- The same without any restriction. -/
def finish (machine : Machine State Label) (start : State)
    (labels : List Label)
    (enabled : (machine.runWhere (fun _ _ => True) start labels).isSome =
      true) : State :=
  machine.finishWhere (fun _ _ => True) start labels enabled

theorem reachable_finish
    {machine : Machine State Label} {start : State} {labels : List Label}
    (begins : machine.initial start)
    (enabled : (machine.runWhere (fun _ _ => True) start labels).isSome =
      true) :
    machine.Reachable (machine.finish start labels enabled) :=
  ReachableWhere.finishWhere (fun _ _ allowed => allowed) (.initial begins)
    enabled

end Machine

end LibbpfControl
