import Mathlib.Data.Prod.Lex
import Mathlib.Order.WellFounded
import LibbpfControl.Machine

/-!
# Goals which every run reaches

A goal is inevitable from a state when every run of allowed steps comes to it
after finitely many of them, and no such run gets stuck before.  Which steps
are allowed says what is left of the environment: threads which have nothing
more to do, calls which no longer fail, waits which time ends.

`Inevitable.induct` is the rule by which goals are proved inevitable: as long
as the goal is not reached, some measure becomes smaller.  A phase of several
steps may count as one decrease.  `Inevitable.of_steps` is the rule for single
steps, where the measure may take its values in any well-founded order.

Idle steps, which make no progress, would delay a goal forever.  `budgeted`
lets a run take finitely many of them, and `Inevitable.of_budget` is the rule
for goals which they only delay.
-/

namespace LibbpfControl.Machine

variable {State Label : Type}

inductive Inevitable (machine : Machine State Label)
    (allowed : State → Label → Prop) (goal : State → Prop) :
    State → Prop where
  | here {state : State} :
      goal state → Inevitable machine allowed goal state
  | next {state : State} :
      (∃ label target, allowed state label ∧
        machine.step state label = some target) →
      (∀ label target, allowed state label →
        machine.step state label = some target →
        Inevitable machine allowed goal target) →
      Inevitable machine allowed goal state

namespace Inevitable

variable {machine : Machine State Label} {allowed : State → Label → Prop}
  {goal : State → Prop} {state : State}

/-- One phase after the other. -/
theorem trans {middle : State → Prop}
    (first : machine.Inevitable allowed middle state)
    (second : ∀ state, middle state →
      machine.Inevitable allowed goal state) :
    machine.Inevitable allowed goal state := by
  induction first with
  | here reached => exact second _ reached
  | next progress _ induction => exact .next progress induction

theorem mono {stronger : State → Prop}
    (inevitable : machine.Inevitable allowed stronger state)
    (weaken : ∀ state, stronger state → goal state) :
    machine.Inevitable allowed goal state :=
  inevitable.trans fun state reached => .here (weaken state reached)

/-- What every allowed step keeps holds at the goal. -/
theorem with_invariant {holds : State → Prop}
    (inevitable : machine.Inevitable allowed goal state)
    (preserved : ∀ state label target, holds state → allowed state label →
      machine.step state label = some target → holds target)
    (start : holds state) :
    machine.Inevitable allowed (fun state => goal state ∧ holds state)
      state := by
  induction inevitable with
  | here reached => exact .here ⟨reached, start⟩
  | next progress _ induction =>
      refine .next progress fun label target permitted stepped => ?_
      exact induction label target permitted stepped
        (preserved _ label target start permitted stepped)

/-- As long as the goal is not reached, the measure becomes smaller. -/
theorem induct (holds : State → Prop) (measure : State → Nat)
    (phase : ∀ state, holds state → ¬goal state →
      machine.Inevitable allowed
        (fun target => holds target ∧ measure target < measure state) state)
    (start : holds state) : machine.Inevitable allowed goal state := by
  induction size : measure state using Nat.strongRecOn
    generalizing state with
  | ind bound induction =>
      subst size
      by_cases reached : goal state
      · exact .here reached
      · refine (phase state start reached).trans ?_
        rintro target ⟨held, smaller⟩
        exact induction _ smaller held rfl

/-- Every single step reaches the goal or makes the measure smaller. -/
theorem of_steps {Rank : Type} [LT Rank] [WellFoundedLT Rank]
    (holds : State → Prop) (measure : State → Rank)
    (progress : ∀ state, holds state → ¬goal state →
      ∃ label target, allowed state label ∧
        machine.step state label = some target)
    (decreases : ∀ state label target, holds state → ¬goal state →
      allowed state label → machine.step state label = some target →
      goal target ∨ holds target ∧ measure target < measure state)
    (start : holds state) : machine.Inevitable allowed goal state := by
  induction size : measure state using WellFoundedLT.induction
    generalizing state with
  | ind bound induction =>
      subst size
      by_cases reached : goal state
      · exact .here reached
      · refine .next (progress state start reached) ?_
        intro label target permitted stepped
        rcases decreases state label target start reached permitted
          stepped with arrived | ⟨held, smaller⟩
        · exact .here arrived
        · exact induction _ smaller held rfl

end Inevitable

/-- The runs which take at most as many idle steps as the state has left. -/
def budgeted (machine : Machine State Label)
    (idles : State → Label → Bool) : Machine (State × Nat) Label where
  initial run := machine.initial run.1
  step run label :=
    match idles run.1 label, run.2 with
    | false, budget => (machine.step run.1 label).map (·, budget)
    | true, 0 => none
    | true, budget + 1 => (machine.step run.1 label).map (·, budget)

section Budget

variable {machine : Machine State Label} {idles : State → Label → Bool}

theorem budgeted_step {run target : State × Nat} {label : Label}
    (stepped : (machine.budgeted idles).step run label = some target) :
    machine.step run.1 label = some target.1 ∧
      (idles run.1 label = false ∧ target.2 = run.2 ∨
        target.2 < run.2) := by
  simp only [budgeted] at stepped
  split at stepped
  · rename_i progresses
    obtain ⟨state, taken, rfl⟩ := Option.map_eq_some_iff.mp stepped
    exact ⟨taken, .inl ⟨progresses, rfl⟩⟩
  · cases stepped
  · rename_i budget
    obtain ⟨state, taken, rfl⟩ := Option.map_eq_some_iff.mp stepped
    exact ⟨taken, .inr (by omega)⟩

theorem budgeted_of_step {state target : State} {label : Label}
    (stepped : machine.step state label = some target)
    (progresses : idles state label = false) (budget : Nat) :
    (machine.budgeted idles).step (state, budget) label =
      some (target, budget) := by
  simp [budgeted, progresses, stepped]

/-- Every step which is not idle makes the measure smaller, and an idle one
keeps what makes such steps possible. -/
theorem Inevitable.of_budget (allowed : State → Label → Prop)
    (goal : State → Prop) {state : State} (holds : State → Prop)
    (measure : State → Nat)
    (progress : ∀ state, holds state → ¬goal state →
      ∃ label target, allowed state label ∧ idles state label = false ∧
        machine.step state label = some target)
    (kept : ∀ state label target, holds state → allowed state label →
      machine.step state label = some target → holds target)
    (decreases : ∀ state label target, holds state →
      idles state label = false → machine.step state label = some target →
      measure target < measure state)
    (start : holds state) (budget : Nat) :
    (machine.budgeted idles).Inevitable
      (fun run label => allowed run.1 label) (fun run => goal run.1)
      (state, budget) := by
  refine .of_steps (fun run => holds run.1)
    (fun run => toLex (run.2, measure run.1)) ?_ ?_ start
  · rintro ⟨state, budget⟩ held unreached
    obtain ⟨label, target, permitted, progresses, stepped⟩ :=
      progress state held unreached
    exact ⟨label, _, permitted, budgeted_of_step stepped progresses budget⟩
  · intro run label target held _ permitted stepped
    obtain ⟨taken, spent⟩ := budgeted_step stepped
    refine .inr ⟨kept _ _ _ held permitted taken, ?_⟩
    rw [Prod.Lex.toLex_lt_toLex]
    rcases spent with ⟨progresses, same⟩ | less
    · exact .inr ⟨same, decreases _ _ _ held progresses taken⟩
    · exact .inl less

end Budget

end LibbpfControl.Machine
