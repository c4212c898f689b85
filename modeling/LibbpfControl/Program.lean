import Mathlib.Logic.Basic

/-!
# Programs over an interface of atomic operations

A program is the tree of the atomic operations which a piece of code can
perform, one branch for each answer.  Code that runs alone and code that is
interleaved with other threads are then the same definition: `run` executes a
program without interference, and a machine may take one `call` at a time.

`Meets` is the proof rule shared by both readings.  It asks for an assertion
before every operation and a postcondition at the end, under an arbitrary
interference relation between consecutive operations.
-/

namespace LibbpfControl

inductive Program (Op : Type) (Answer : Op → Type) (α : Type) : Type where
  | done (value : α) : Program Op Answer α
  | call (operation : Op)
      (next : Answer operation → Program Op Answer α) : Program Op Answer α

namespace Program

variable {Op : Type} {Answer : Op → Type} {α β : Type}

protected def bind (program : Program Op Answer α)
    (next : α → Program Op Answer β) : Program Op Answer β :=
  match program with
  | .done value => next value
  | .call operation rest => .call operation fun answer =>
      Program.bind (rest answer) next

instance : Monad (Program Op Answer) where
  pure := .done
  bind := Program.bind

/-- Perform one operation and return its answer. -/
def perform (operation : Op) : Program Op Answer (Answer operation) :=
  .call operation .done

@[simp] theorem done_bind (value : α) (next : α → Program Op Answer β) :
    (Program.done value >>= next) = next value := rfl

@[simp] theorem call_bind (operation : Op)
    (rest : Answer operation → Program Op Answer α)
    (next : α → Program Op Answer β) :
    (Program.call operation rest >>= next) =
      .call operation fun answer => rest answer >>= next := rfl

theorem bind_assoc {γ : Type} (program : Program Op Answer α)
    (next : α → Program Op Answer β) (last : β → Program Op Answer γ) :
    (program >>= next) >>= last =
      program >>= fun value => next value >>= last := by
  induction program with
  | done value => rfl
  | call operation rest induction =>
      simp only [call_bind]
      congr 1
      funext answer
      exact induction answer

/-- Every operation of the program is allowed, whatever the answers are. -/
def Uses (allowed : Op → Prop) : Program Op Answer α → Prop
  | .done _ => True
  | .call operation next =>
      allowed operation ∧ ∀ answer, Uses allowed (next answer)

theorem Uses.bind {allowed : Op → Prop} {program : Program Op Answer α}
    {next : α → Program Op Answer β}
    (first : program.Uses allowed)
    (rest : ∀ value, (next value).Uses allowed) :
    (program >>= next).Uses allowed := by
  induction program with
  | done value => exact rest value
  | call operation continuation induction =>
      exact ⟨first.1, fun answer => induction answer (first.2 answer)⟩

theorem Uses.mono {allowed wider : Op → Prop}
    {program : Program Op Answer α} (uses : program.Uses allowed)
    (weaken : ∀ operation, allowed operation → wider operation) :
    program.Uses wider := by
  induction program with
  | done value => trivial
  | call operation next induction =>
      exact ⟨weaken operation uses.1,
        fun answer => induction answer (uses.2 answer)⟩

/-- Whatever the answers are, the operations of the program cost no more than
the bound. -/
def CostsAtMost (cost : Op → Nat) : Program Op Answer α → Nat → Prop
  | .done _, _ => True
  | .call operation next, bound =>
      cost operation ≤ bound ∧
        ∀ answer, CostsAtMost cost (next answer) (bound - cost operation)

/-- A free part may precede. -/
theorem CostsAtMost.bind {allowed : Op → Prop} {cost : Op → Nat}
    {program : Program Op Answer α} {next : α → Program Op Answer β}
    {bound : Nat} (uses : program.Uses allowed)
    (free : ∀ operation, allowed operation → cost operation = 0)
    (rest : ∀ value, (next value).CostsAtMost cost bound) :
    (program >>= next).CostsAtMost cost bound := by
  induction program with
  | done value => exact rest value
  | call operation continuation induction =>
      refine ⟨?_, fun answer => ?_⟩
      · rw [free operation uses.1]
        exact Nat.zero_le bound
      · rw [free operation uses.1]
        exact induction answer (uses.2 answer)

/-- An environment answers an operation according to a choice made outside
the program.  A choice which the environment cannot make has no answer. -/
structure Handler (Op : Type) (Answer : Op → Type)
    (Env Choice : Type) where
  answer : Env → (operation : Op) → Choice →
    Option (Env × Answer operation)

variable {Env Choice : Type}

/-- One performed operation together with its answer. -/
abbrev Event (Op : Type) (Answer : Op → Type) : Type :=
  (operation : Op) × Answer operation

/-- Execute a program alone.  Every operation consumes one choice, and a run
which does not use all the choices is not a run. -/
def run (handler : Handler Op Answer Env Choice) :
    Program Op Answer α → Env → List Choice →
      Option (α × Env × List (Event Op Answer))
  | .done value, env, [] => some (value, env, [])
  | .done _, _, _ :: _ => none
  | .call _ _, _, [] => none
  | .call operation next, env, choice :: choices =>
      (handler.answer env operation choice).bind fun (later, answer) =>
        (run handler (next answer) later choices).map
          fun (value, final, trace) =>
            (value, final, ⟨operation, answer⟩ :: trace)

theorem eq_of_run_done {handler : Handler Op Answer Env Choice}
    {value result : α} {env final : Env} {choices : List Choice}
    {trace : List (Event Op Answer)}
    (completed : (Program.done value : Program Op Answer α).run handler env
      choices = some (result, final, trace)) :
    choices = [] ∧ result = value ∧ final = env ∧ trace = [] := by
  cases choices with
  | nil =>
      cases completed
      exact ⟨rfl, rfl, rfl, rfl⟩
  | cons choice choices => cases completed

/-- A completed run of a program which starts with an operation. -/
theorem exists_run_of_call {handler : Handler Op Answer Env Choice}
    {operation : Op} {next : Answer operation → Program Op Answer α}
    {result : α} {env final : Env} {choices : List Choice}
    {trace : List (Event Op Answer)}
    (completed : (Program.call operation next).run handler env choices =
      some (result, final, trace)) :
    ∃ choice rest after answer restTrace,
      choices = choice :: rest ∧
        handler.answer env operation choice = some (after, answer) ∧
        (next answer).run handler after rest =
          some (result, final, restTrace) ∧
        trace = ⟨operation, answer⟩ :: restTrace := by
  cases choices with
  | nil => cases completed
  | cons choice choices =>
      simp only [run, Option.bind_eq_some_iff, Option.map_eq_some_iff]
        at completed
      obtain ⟨⟨after, answer⟩, answered, ⟨inner, innerEnv, innerTrace⟩,
        rest, packed⟩ := completed
      cases packed
      exact ⟨choice, choices, after, answer, innerTrace, rfl, answered, rest,
        rfl⟩

/-- One operation of a program which is interleaved with other threads. -/
def advance (handler : Handler Op Answer Env Choice) :
    Program Op Answer α → Env → Choice →
      Option (Program Op Answer α × Env × Event Op Answer)
  | .done _, _, _ => none
  | .call operation next, env, choice =>
      (handler.answer env operation choice).map fun (later, answer) =>
        (next answer, later, ⟨operation, answer⟩)

theorem advance_eq_some {handler : Handler Op Answer Env Choice}
    {program rest : Program Op Answer α} {env later : Env} {choice : Choice}
    {event : Event Op Answer}
    (advanced : program.advance handler env choice =
      some (rest, later, event)) :
    ∃ next, handler.answer env event.1 choice = some (later, event.2) ∧
      program = .call event.1 next ∧ rest = next event.2 := by
  cases program with
  | done value => cases advanced
  | call operation next =>
      simp only [advance, Option.map_eq_some_iff] at advanced
      obtain ⟨⟨env', answer⟩, answered, packed⟩ := advanced
      simp only [Prod.mk.injEq] at packed
      obtain ⟨rfl, rfl, rfl⟩ := packed
      exact ⟨next, answered, rfl, rfl⟩

/-- The bound on the operations holds of the operation which is taken and of
the rest. -/
theorem Uses.advance {allowed : Op → Prop}
    {handler : Handler Op Answer Env Choice}
    {program rest : Program Op Answer α} {env later : Env} {choice : Choice}
    {event : Event Op Answer} (uses : program.Uses allowed)
    (advanced : program.advance handler env choice =
      some (rest, later, event)) :
    allowed event.1 ∧ rest.Uses allowed := by
  obtain ⟨next, _, rfl, rfl⟩ := advance_eq_some advanced
  exact ⟨uses.1, uses.2 event.2⟩

/-- The operation which is taken is paid for. -/
theorem CostsAtMost.advance {cost : Op → Nat}
    {handler : Handler Op Answer Env Choice}
    {program rest : Program Op Answer α} {env later : Env} {choice : Choice}
    {event : Event Op Answer} {bound : Nat}
    (costs : program.CostsAtMost cost bound)
    (advanced : program.advance handler env choice =
      some (rest, later, event)) :
    cost event.1 ≤ bound ∧
      rest.CostsAtMost cost (bound - cost event.1) := by
  obtain ⟨next, _, rfl, rfl⟩ := advance_eq_some advanced
  exact ⟨costs.1, costs.2 event.2⟩

/-- `Meets handler rely before post program env`: from `env`, with `rely`
describing what other threads may do between two operations, every operation
is performed in an environment which satisfies `before`, and the program
ends in one which satisfies `post`. -/
def Meets (handler : Handler Op Answer Env Choice)
    (rely : Env → Env → Prop) (before : Env → Op → Prop)
    (post : α → Env → Prop) : Program Op Answer α → Env → Prop
  | .done value, env => ∀ later, rely env later → post value later
  | .call operation next, env =>
      ∀ later, rely env later →
        before later operation ∧
        ∀ choice after answer,
          handler.answer later operation choice = some (after, answer) →
          Meets handler rely before post (next answer) after

variable {handler : Handler Op Answer Env Choice}
  {rely : Env → Env → Prop} {before : Env → Op → Prop}
  {post : α → Env → Prop}

/-- Interference which the rely allows keeps the assertion. -/
theorem Meets.interfere {program : Program Op Answer α} {env later : Env}
    (transitive : ∀ first second third,
      rely first second → rely second third → rely first third)
    (meets : program.Meets handler rely before post env)
    (step : rely env later) :
    program.Meets handler rely before post later := by
  cases program with
  | done value =>
      intro final more
      exact meets final (transitive _ _ _ step more)
  | call operation next =>
      intro final more
      exact meets final (transitive _ _ _ step more)

/-- Taking the pending operation leads to the assertion of the rest. -/
theorem Meets.advance {program rest : Program Op Answer α}
    {env later : Env} {choice : Choice} {event : Event Op Answer}
    (reflexive : ∀ env, rely env env)
    (meets : program.Meets handler rely before post env)
    (advanced : program.advance handler env choice =
      some (rest, later, event)) :
    before env event.1 ∧ rest.Meets handler rely before post later := by
  obtain ⟨next, answered, rfl, rfl⟩ := advance_eq_some advanced
  obtain ⟨asserted, remaining⟩ := meets env (reflexive env)
  exact ⟨asserted, remaining choice later event.2 answered⟩

theorem Meets.finish {value : α} {env : Env}
    (reflexive : ∀ env, rely env env)
    (meets : (Program.done value : Program Op Answer α).Meets
      handler rely before post env) :
    post value env :=
  meets env (reflexive env)

/-- Weaken the assertions before the operations and at the end. -/
theorem Meets.mono {program : Program Op Answer α} {env : Env}
    {tighter : Env → Op → Prop} {stronger : α → Env → Prop}
    (meets : program.Meets handler rely tighter stronger env)
    (weakenBefore : ∀ env operation,
      tighter env operation → before env operation)
    (weakenPost : ∀ value env, stronger value env → post value env) :
    program.Meets handler rely before post env := by
  induction program generalizing env with
  | done value =>
      intro later step
      exact weakenPost value later (meets later step)
  | call operation next induction =>
      intro later step
      obtain ⟨asserted, rest⟩ := meets later step
      refine ⟨weakenBefore later operation asserted, ?_⟩
      intro choice after answer answered
      exact induction answer (rest choice after answer answered)

/-- Less interference keeps the assertion. -/
theorem Meets.restrict {program : Program Op Answer α} {env : Env}
    {wider : Env → Env → Prop}
    (meets : program.Meets handler wider before post env)
    (narrower : ∀ first second, rely first second → wider first second) :
    program.Meets handler rely before post env := by
  induction program generalizing env with
  | done value =>
      intro later step
      exact meets later (narrower env later step)
  | call operation next induction =>
      intro later step
      obtain ⟨asserted, rest⟩ := meets later (narrower env later step)
      refine ⟨asserted, ?_⟩
      intro choice after answer answered
      exact induction answer (rest choice after answer answered)

/-- Sequential composition: the first part establishes what the second part
needs. -/
theorem Meets.bind {program : Program Op Answer α}
    {next : α → Program Op Answer β} {middle : α → Env → Prop}
    {finally' : β → Env → Prop} {env : Env}
    (reflexive : ∀ env, rely env env)
    (first : program.Meets handler rely before middle env)
    (rest : ∀ value env, middle value env →
      (next value).Meets handler rely before finally' env) :
    (program >>= next).Meets handler rely before finally' env := by
  induction program generalizing env with
  | done value =>
      exact rest value env (first env (reflexive env))
  | call operation continuation induction =>
      intro later step
      obtain ⟨asserted, remaining⟩ := first later step
      refine ⟨asserted, ?_⟩
      intro choice after answer answered
      exact induction answer (remaining choice after answer answered)

/-- Nothing is asked of a program. -/
theorem meets_trivial (program : Program Op Answer α) (env : Env) :
    program.Meets handler rely (fun _ _ => True) (fun _ _ => True) env := by
  induction program generalizing env with
  | done value => exact fun _ _ => trivial
  | call operation next induction =>
      exact fun later _ =>
        ⟨trivial, fun _ after answer _ => induction answer after⟩

/-- A completed run of a program without interference satisfies the
postcondition, and each of its operations was answered in an environment
which satisfied the assertion before it. -/
theorem Meets.run {program : Program Op Answer α} {env final : Env}
    {choices : List Choice} {value : α} {trace : List (Event Op Answer)}
    (meets : program.Meets handler (· = ·) before post env)
    (completed : program.run handler env choices =
      some (value, final, trace)) :
    post value final ∧
      ∀ event ∈ trace, ∃ env choice after,
        before env event.1 ∧
          handler.answer env event.1 choice = some (after, event.2) := by
  induction program generalizing env choices trace with
  | done value =>
      obtain ⟨_, rfl, rfl, rfl⟩ := eq_of_run_done completed
      exact ⟨meets final rfl, by simp⟩
  | call operation next induction =>
      obtain ⟨choice, rest, after, answer, restTrace, rfl, answered, restRun,
        rfl⟩ := exists_run_of_call completed
      obtain ⟨asserted, remaining⟩ := meets env rfl
      obtain ⟨reached, traced⟩ := induction answer
        (remaining choice after answer answered) restRun
      refine ⟨reached, ?_⟩
      intro event member
      rcases List.mem_cons.mp member with head | tail
      · subst event
        exact ⟨env, choice, after, asserted, answered⟩
      · exact traced event tail

/-- A program can always be completed when every operation it uses has some
answer in every environment. -/
theorem run_completes {allowed : Op → Prop}
    (enabled : ∀ env operation, allowed operation →
      ∃ choice after answer,
        handler.answer env operation choice = some (after, answer))
    {program : Program Op Answer α} (uses : program.Uses allowed)
    (env : Env) :
    ∃ choices result, program.run handler env choices = some result := by
  induction program generalizing env with
  | done value => exact ⟨[], (value, env, []), rfl⟩
  | call operation next induction =>
      obtain ⟨choice, after, answer, answered⟩ :=
        enabled env operation uses.1
      obtain ⟨choices, ⟨value, final, trace⟩, completed⟩ :=
        induction answer (uses.2 answer) after
      exact ⟨choice :: choices, (value, final, ⟨operation, answer⟩ :: trace),
        by simp [Program.run, answered, completed]⟩

/-- Completed runs compose. -/
theorem run_bind_of_run {program : Program Op Answer α}
    {next : α → Program Op Answer β} {env middle final : Env}
    {firstChoices restChoices : List Choice} {value : α} {result : β}
    {firstTrace restTrace : List (Event Op Answer)}
    (first : program.run handler env firstChoices =
      some (value, middle, firstTrace))
    (rest : (next value).run handler middle restChoices =
      some (result, final, restTrace)) :
    (program >>= next).run handler env (firstChoices ++ restChoices) =
      some (result, final, firstTrace ++ restTrace) := by
  induction program generalizing env firstChoices firstTrace with
  | done value =>
      obtain ⟨rfl, rfl, rfl, rfl⟩ := eq_of_run_done first
      simpa using rest
  | call operation continuation induction =>
      obtain ⟨choice, choices, after, answer, restTrace, rfl, answered,
        innerRun, rfl⟩ := exists_run_of_call first
      have composed := induction answer innerRun
      simp [Program.run, answered, composed]

/-- A completed run of a sequence is made of runs of its parts. -/
theorem exists_run_of_bind {program : Program Op Answer α}
    {next : α → Program Op Answer β} {env final : Env}
    {choices : List Choice} {result : β} {trace : List (Event Op Answer)}
    (completed : (program >>= next).run handler env choices =
      some (result, final, trace)) :
    ∃ firstChoices restChoices value middle firstTrace restTrace,
      choices = firstChoices ++ restChoices ∧
        program.run handler env firstChoices =
          some (value, middle, firstTrace) ∧
        (next value).run handler middle restChoices =
          some (result, final, restTrace) := by
  induction program generalizing env choices trace with
  | done value => exact ⟨[], choices, value, env, [], trace, rfl, rfl, completed⟩
  | call operation rest induction =>
      obtain ⟨choice, later, after, answer, laterTrace, rfl, answered,
        laterRun, _⟩ := exists_run_of_call completed
      obtain ⟨firstChoices, restChoices, value, middle, firstTrace,
        restTrace, rfl, first, last⟩ := induction answer laterRun
      exact ⟨choice :: firstChoices, restChoices, value, middle,
        ⟨operation, answer⟩ :: firstTrace, restTrace, rfl,
        by simp [Program.run, answered, first], last⟩

/-- A property which every operation keeps holds after a run. -/
theorem run_keeps (holds : Env → Prop) {program : Program Op Answer α}
    {env final : Env} {choices : List Choice} {value : α}
    {trace : List (Event Op Answer)}
    (keeps : ∀ env operation choice after answer, holds env →
      handler.answer env operation choice = some (after, answer) →
      holds after)
    (completed : program.run handler env choices =
      some (value, final, trace))
    (start : holds env) : holds final := by
  induction program generalizing env choices trace with
  | done value =>
      obtain ⟨_, _, rfl, _⟩ := eq_of_run_done completed
      exact start
  | call operation next induction =>
      obtain ⟨choice, rest, after, answer, _, rfl, answered, restRun, _⟩ :=
        exists_run_of_call completed
      exact induction answer restRun
        (keeps env operation choice after answer start answered)

/-- The environment which answers only to permitted choices. -/
def Handler.restrict (handler : Handler Op Answer Env Choice)
    (permitted : Choice → Bool) : Handler Op Answer Env Choice where
  answer env operation choice :=
    if permitted choice then handler.answer env operation choice else none

theorem Handler.answer_of_restrict {permitted : Choice → Bool} {env after : Env}
    {operation : Op} {choice : Choice} {answer : Answer operation}
    (answered : (handler.restrict permitted).answer env operation choice =
      some (after, answer)) :
    permitted choice = true ∧
      handler.answer env operation choice = some (after, answer) :=
  Option.ite_none_right_eq_some.mp answered

/-- The first operation of a program which runs alone. -/
theorem Meets.call_restrict {permitted : Choice → Bool} {operation : Op}
    {next : Answer operation → Program Op Answer α} {env : Env}
    (asserted : before env operation)
    (rest : ∀ choice after answer, permitted choice = true →
      handler.answer env operation choice = some (after, answer) →
      (next answer).Meets (handler.restrict permitted) (· = ·) before post
        after) :
    (Program.call operation next).Meets (handler.restrict permitted) (· = ·)
      before post env := by
  rintro later rfl
  refine ⟨asserted, ?_⟩
  intro choice after answer answered
  obtain ⟨chosen, answered⟩ := Handler.answer_of_restrict answered
  exact rest choice after answer chosen answered

/-- Fewer choices of the environment keep the assertion. -/
theorem Meets.restrict_choices {permitted : Choice → Bool}
    {program : Program Op Answer α} {env : Env}
    (meets : program.Meets handler rely before post env) :
    program.Meets (handler.restrict permitted) rely before post env := by
  induction program generalizing env with
  | done value => exact meets
  | call operation next induction =>
      intro later step
      obtain ⟨asserted, rest⟩ := meets later step
      refine ⟨asserted, ?_⟩
      intro choice after answer answered
      exact induction answer
        (rest choice after answer (Handler.answer_of_restrict answered).2)

/-- A permitted choice is one of the restricted environment. -/
theorem advance_restrict {permitted : Choice → Bool}
    {program : Program Op Answer α} {env : Env} {choice : Choice}
    (chosen : permitted choice = true) :
    program.advance (handler.restrict permitted) env choice =
      program.advance handler env choice := by
  cases program with
  | done value => rfl
  | call operation next =>
      simp [advance, Handler.restrict, chosen]

/-- A run which makes only permitted choices is a run of the restricted
environment. -/
theorem run_restrict (handler : Handler Op Answer Env Choice)
    {permitted : Choice → Bool} (program : Program Op Answer α) (env : Env)
    {choices : List Choice}
    (all : ∀ choice ∈ choices, permitted choice = true) :
    program.run (handler.restrict permitted) env choices =
      program.run handler env choices := by
  induction program generalizing env choices with
  | done value =>
      cases choices with
      | nil => rfl
      | cons choice choices => rfl
  | call operation next induction =>
      cases choices with
      | nil => rfl
      | cons choice choices =>
          have later : ∀ other ∈ choices, permitted other = true :=
            fun other member => all other (List.mem_cons_of_mem _ member)
          have first : (handler.restrict permitted).answer env operation
              choice = handler.answer env operation choice := by
            simp [Handler.restrict, all choice List.mem_cons_self]
          simp only [Program.run, first]
          congr 1
          funext answered
          rw [induction answered.2 answered.1 later]

/-- `Reaches handler permitted post program env`: by permitted choices the
environment can bring the program, which runs alone, to an end which
satisfies `post`. -/
def Reaches (handler : Handler Op Answer Env Choice)
    (permitted : Choice → Bool) (post : α → Env → Prop) :
    Program Op Answer α → Env → Prop
  | .done value, env => post value env
  | .call operation next, env =>
      ∃ choice after answer, permitted choice = true ∧
        handler.answer env operation choice = some (after, answer) ∧
        Reaches handler permitted post (next answer) after

theorem Reaches.bind {permitted : Choice → Bool}
    {program : Program Op Answer α} {next : α → Program Op Answer β}
    {middle : α → Env → Prop} {last : β → Env → Prop} {env : Env}
    (first : program.Reaches handler permitted middle env)
    (rest : ∀ value env, middle value env →
      (next value).Reaches handler permitted last env) :
    (program >>= next).Reaches handler permitted last env := by
  induction program generalizing env with
  | done value => exact rest value env first
  | call operation continuation induction =>
      obtain ⟨choice, after, answer, chosen, answered, later⟩ := first
      exact ⟨choice, after, answer, chosen, answered, induction answer later⟩

theorem Reaches.mono {permitted : Choice → Bool}
    {program : Program Op Answer α} {stronger : α → Env → Prop} {env : Env}
    (reaches : program.Reaches handler permitted stronger env)
    (weaken : ∀ value env, stronger value env → post value env) :
    program.Reaches handler permitted post env := by
  induction program generalizing env with
  | done value => exact weaken value env reaches
  | call operation next induction =>
      obtain ⟨choice, after, answer, chosen, answered, later⟩ := reaches
      exact ⟨choice, after, answer, chosen, answered, induction answer later⟩

/-- The end is reached by a completed run. -/
theorem Reaches.run {permitted : Choice → Bool}
    {program : Program Op Answer α} {env : Env}
    (reaches : program.Reaches handler permitted post env) :
    ∃ choices value final trace,
      (∀ choice ∈ choices, permitted choice = true) ∧
        program.run handler env choices = some (value, final, trace) ∧
        post value final := by
  induction program generalizing env with
  | done value => exact ⟨[], value, env, [], by simp, rfl, reaches⟩
  | call operation next induction =>
      obtain ⟨choice, after, answer, chosen, answered, later⟩ := reaches
      obtain ⟨choices, value, final, trace, all, completed, reached⟩ :=
        induction answer later
      refine ⟨choice :: choices, value, final, ⟨operation, answer⟩ :: trace,
        ?_, by simp [Program.run, answered, completed], reached⟩
      intro other member
      rcases List.mem_cons.mp member with rfl | rest
      · exact chosen
      · exact all other rest

end Program

end LibbpfControl
