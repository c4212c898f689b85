import LibbpfControl.BpfTool.Reconciler

/-!
# No update is lost

A publication which no pass has read is owed: a request of the attacher is
queued, or the worker holds one which has not come to that read, or the
publishing thread is still on its way to its append.

The proof says separately what a step does to a queued request, to a request
held by the worker and to a publishing thread.  An append never makes an id
disappear from the queue, whatever the stamps of the two requests are.
-/

namespace LibbpfControl.BpfTool

open NicCheck

/-- Who published what a pass of the attacher `id` reads, if the event is a
publication of it. -/
def ReconcilerEvent.publication (view : View) (id : Nat) :
    ReconcilerEvent → Option Publisher
  | .policyPublished thread attacher =>
      if view = .policy ∧ attacher = id then some (.caller thread) else none
  | .interfacesPublished count =>
      if view = .interfaces ∧ id < count then some .monitor else none
  | _ => none

/-- A pass which has not come to the read. -/
def BeforeRead (request : ApplyRequest) (program : ManagerProgram Bool) :
    View → Prop
  | .policy => program = applyTargetsPolicyPerAttacher request
  | .interfaces =>
      program = applyTargetsPolicyPerAttacher request ∨
        ∃ attacher, program = .call .snapshot (passBody request attacher)

/-- The worker holds a request of the attacher which has not come to the
read. -/
def WorkerState.Awaits (worker : WorkerState) (view : View) (id : Nat) :
    Prop :=
  (∃ request ∈ worker.ready, request.id = id) ∨
    ∃ request program ready, worker = .running request program ready ∧
      request.id = id ∧ BeforeRead request program view

/-- The same of a particular request. -/
def WorkerState.HoldsUnread (worker : WorkerState) (view : View)
    (request : ApplyRequest) : Prop :=
  request ∈ worker.ready ∨
    ∃ program ready, worker = .running request program ready ∧
      BeforeRead request program view

theorem WorkerState.awaits_iff {worker : WorkerState} {view : View}
    {id : Nat} :
    worker.Awaits view id ↔
      ∃ request, worker.HoldsUnread view request ∧ request.id = id := by
  constructor
  · rintro (⟨request, member, same⟩ |
      ⟨request, program, ready, running, same, before⟩)
    · exact ⟨request, .inl member, same⟩
    · exact ⟨request, .inr ⟨program, ready, running, before⟩, same⟩
  · rintro ⟨request, member | ⟨program, ready, running, before⟩, same⟩
    · exact .inl ⟨request, member, same⟩
    · exact .inr ⟨request, program, ready, running, same, before⟩

def CallerState.Publishing (id : Nat) : CallerState → Prop
  | .published attacher => attacher = id
  | .stamped request => request.id = id
  | _ => False

def NotifierState.Publishing (attachers id : Nat) : NotifierState → Prop
  | .idle => False
  | .published => id < attachers
  | .notifying count next => next ≤ id ∧ id < count
  | .stamped count request => request.id ≤ id ∧ id < count

/-- A thread has published and not yet appended a request of the
attacher. -/
def Reconciler.Publishing (state : Reconciler) (id : Nat) :
    Publisher → Prop
  | .caller thread => (state.callers thread).Publishing id
  | .monitor => state.monitor.Publishing state.shared.attachers.length id

/-- What a publication leaves until it is read; `later` are the events since
it. -/
def Reconciler.Owed (state : Reconciler) (view : View) (id : Nat)
    (publisher : Publisher) (later : List ReconcilerEvent) : Prop :=
  Queued state.shared.applyRequests id ∨ state.worker.Awaits view id ∨
    (state.Publishing id publisher ∧ .requested publisher id ∉ later)

section Step

variable {state target : Reconciler} {label : ReconcilerStep} {id : Nat}
  {view : View} {publisher : Publisher}

theorem queued_append {request : ApplyRequest}
    (queued : Queued state.shared.applyRequests id) :
    Queued (state.append request).applyRequests id :=
  queued_append_of_queued queued

theorem queued_collect {now : Int} {order : List ApplyRequest}
    (queued : Queued state.shared.applyRequests id)
    (collected : state.collect now order = some target) :
    Queued target.shared.applyRequests id ∨
      ∃ request ∈ target.worker.ready, request.id = id := by
  obtain ⟨request, member, same⟩ := queued
  obtain ⟨_, _, _, rfl, parted, _⟩ := Reconciler.collect_frame collected
  rcases (parted request).mp member with stays | taken
  · exact Or.inl ⟨request, stays, same⟩
  · exact Or.inr ⟨request, taken, same⟩

theorem queued_answer {later : Shared} {operation : ManagerOp}
    {outcome : TcOutcome} {answer : operation.Answer} {shared : Shared}
    (queued : Queued shared.applyRequests id)
    (answered : managerHandler.answer shared operation outcome =
      some (later, answer)) :
    Queued later.applyRequests id := by
  rcases answer_applyRequests answered with
    ⟨unchanged, _⟩ | ⟨request, _, appended⟩
  · rw [unchanged]
    exact queued
  · rw [appended]
    exact queued_append_of_queued queued

/-- A queued request stays queued until the worker takes it. -/
theorem queued_step (queued : Queued state.shared.applyRequests id)
    (moves : state.Moves label target) :
    Queued target.shared.applyRequests id ∨
      ∃ request ∈ target.worker.ready, request.id = id := by
  cases moves with
  | appendPolicy _ => exact Or.inl (queued_append queued)
  | appendInterfaces _ => exact Or.inl (queued_append queued)
  | schedule _ collected => exact queued_collect queued collected
  | passOperation _ advanced =>
      obtain ⟨_, answered, _, _⟩ := Program.advance_eq_some advanced
      exact Or.inl (queued_answer queued answered)
  | _ => exact Or.inl queued

/-- The first operation of a pass is its read of the policy, the second one
its read of the snapshot. -/
theorem beforeRead_advance {request : ApplyRequest}
    {program rest : ManagerProgram Bool} {shared later : Shared}
    {outcome : TcOutcome}
    {event : Program.Event ManagerOp ManagerOp.Answer}
    (before : BeforeRead request program view)
    (advanced : program.advance managerHandler shared outcome =
      some (rest, later, event)) :
    BeforeRead request rest view ∨
      Reconciler.readEvents request.id event.1 =
        [.read view request.id] := by
  obtain ⟨next, _, pending, rfl⟩ := Program.advance_eq_some advanced
  obtain ⟨operation, answer⟩ := event
  cases view with
  | policy =>
      right
      cases before.symm.trans pending
      rfl
  | interfaces =>
      rcases before with start | ⟨attacher, looking⟩
      · left
        right
        cases start.symm.trans pending
        exact ⟨answer, rfl⟩
      · right
        cases looking.symm.trans pending
        rfl

theorem beforeRead_done {request : ApplyRequest} {success : Bool} :
    ¬BeforeRead request (.done success) view := by
  intro before
  cases view with
  | policy => cases before
  | interfaces =>
      rcases before with start | ⟨_, looking⟩
      · cases start
      · cases looking

theorem beforeRead_start (request : ApplyRequest) :
    BeforeRead request (applyTargetsPolicyPerAttacher request) view := by
  cases view with
  | policy => rfl
  | interfaces => exact .inl rfl

/-- A worker without requests holds none. -/
theorem not_holdsUnread {worker : WorkerState} {request : ApplyRequest}
    (idle : worker = .waiting ∨ ∃ wakeAt, worker = .sleeping wakeAt) :
    ¬worker.HoldsUnread view request := by
  intro holds
  rcases idle with rfl | ⟨wakeAt, rfl⟩
  · rcases holds with member | ⟨_, _, running, _⟩
    · cases member
    · cases running
  · rcases holds with member | ⟨_, _, running, _⟩
    · cases member
    · cases running

/-- A request which the worker holds comes to its read. -/
theorem holdsUnread_step {request : ApplyRequest}
    (holds : state.worker.HoldsUnread view request)
    (moves : state.Moves label target) :
    target.worker.HoldsUnread view request ∨
      target.history = .read view request.id :: state.history := by
  cases moves with
  | schedule idle collected => exact absurd holds (not_holdsUnread idle)
  | restartMonitor restarting =>
      rw [restarting] at holds
      rcases holds with member | ⟨_, _, running, _⟩
      · refine .inl (.inl ?_)
        dsimp only
        split
        · exact member
        · exact member
      · cases running
  | rerequestMonitor rerequesting =>
      rw [rerequesting] at holds
      rcases holds with member | ⟨_, _, running, _⟩
      · exact .inl (.inl member)
      · cases running
  | startPass applying =>
      rw [applying] at holds
      rcases holds with member | ⟨_, _, running, _⟩
      · rcases List.mem_cons.mp member with rfl | later
        · exact .inl (.inr ⟨_, _, rfl, beforeRead_start request⟩)
        · exact .inl (.inl later)
      · cases running
  | passOperation running advanced =>
      rw [running] at holds
      rcases holds with member | ⟨_, _, same, before⟩
      · exact .inl (.inl member)
      · cases same
        rcases beforeRead_advance before advanced with still | reads
        · exact .inl (.inr ⟨_, _, rfl, still⟩)
        · right
          dsimp only
          rw [reads]
          rfl
  | finishPass running =>
      rw [running] at holds
      rcases holds with member | ⟨_, _, same, before⟩
      · exact .inl (.inl member)
      · cases same
        exact absurd before beforeRead_done
  | waitAgain applying =>
      rw [applying] at holds
      rcases holds with member | ⟨_, _, running, _⟩
      · cases member
      · cases running
  | _ => exact .inl holds

theorem awaits_step (awaits : state.worker.Awaits view id)
    (moves : state.Moves label target) :
    target.worker.Awaits view id ∨
      target.history = .read view id :: state.history := by
  obtain ⟨request, holds, rfl⟩ := WorkerState.awaits_iff.mp awaits
  rcases holdsUnread_step holds moves with still | reads
  · exact .inl (WorkerState.awaits_iff.mpr ⟨request, still, rfl⟩)
  · exact .inr reads

theorem readEvents_ne_requested (reader : Nat) (operation : ManagerOp) :
    Reconciler.readEvents reader operation ++ state.history ≠
      .requested publisher id :: state.history := by
  cases operation <;> simp [Reconciler.readEvents]

theorem publishing_of_caller {thread : Nat} {caller : CallerState}
    (there : state.callers thread = caller)
    (publishing : caller.Publishing id) :
    state.Publishing id (.caller thread) := by
  rw [Reconciler.Publishing, there]
  exact publishing

/-- The publisher appends its request of the attacher. -/
structure Reconciler.Appends (state target : Reconciler) (id : Nat)
    (publisher : Publisher) (request : ApplyRequest) : Prop where
  stamped : state.Stamped request publisher
  same : request.id = id
  shared : target.shared = state.append request
  worker : target.worker = state.worker

theorem Reconciler.Appends.queued {request : ApplyRequest}
    (appends : state.Appends target id publisher request) :
    Queued target.shared.applyRequests id := by
  rw [appends.shared, ← appends.same]
  exact queued_append_self request state.shared.applyRequests

/-- A caller goes on until it has appended the request. -/
theorem publishing_caller_step {thread : Nat}
    (publishing : state.Publishing id (.caller thread))
    (moves : state.Moves label target) :
    (target.Publishing id (.caller thread) ∧
        target.history ≠ .requested (.caller thread) id :: state.history) ∨
      ∃ request, state.Appends target id (.caller thread) request := by
  have unchanged : state.history ≠
      .requested (.caller thread) id :: state.history :=
    (List.cons_ne_self _ _).symm
  have kept : target.callers thread = state.callers thread →
      target.Publishing id (.caller thread) :=
    fun same => publishing_of_caller same publishing
  cases moves with
  | @mutate other attacherId op attacher idle found =>
      by_cases same : thread = other
      · subst other
        rw [Reconciler.Publishing, idle] at publishing
        exact publishing.elim
      · exact Or.inl ⟨kept (Function.update_of_ne same _ _), unchanged⟩
  | @publishPolicy other attacherId attacher mutated found =>
      by_cases same : thread = other
      · subst other
        rw [Reconciler.Publishing, mutated] at publishing
        exact publishing.elim
      · exact Or.inl ⟨kept (Function.update_of_ne same _ _), by simp⟩
  | @stampPolicy other attacherId now published =>
      left
      refine ⟨?_, unchanged⟩
      by_cases same : thread = other
      · subst other
        rw [Reconciler.Publishing, published] at publishing
        exact publishing_of_caller (Function.update_self _ _ _) publishing
      · exact kept (Function.update_of_ne same _ _)
  | @appendPolicy other request stamped =>
      by_cases same : thread = other
      · right
        subst other
        rw [Reconciler.Publishing, stamped] at publishing
        exact ⟨request, stamped, publishing, rfl, rfl⟩
      · left
        refine ⟨kept (Function.update_of_ne same _ _), ?_⟩
        simp [Ne.symm same]
  | publishInterfaces _ => exact Or.inl ⟨publishing, by simp⟩
  | appendInterfaces _ => exact Or.inl ⟨publishing, by simp⟩
  | schedule _ collected =>
      obtain ⟨_, _, _, rfl, _⟩ := Reconciler.collect_frame collected
      exact Or.inl ⟨publishing, unchanged⟩
  | passOperation _ _ =>
      exact Or.inl ⟨publishing, readEvents_ne_requested _ _⟩
  | finishPass _ => exact Or.inl ⟨publishing, by simp⟩
  | _ => exact Or.inl ⟨publishing, unchanged⟩

/-- The monitor goes on until it has appended the requests of all attachers
which it counted. -/
theorem publishing_monitor_step
    (publishing : state.Publishing id .monitor)
    (moves : state.Moves label target) :
    (target.Publishing id .monitor ∧
        target.history ≠ .requested .monitor id :: state.history) ∨
      ∃ request, state.Appends target id .monitor request := by
  have unchanged : state.history ≠
      .requested .monitor id :: state.history :=
    (List.cons_ne_self _ _).symm
  have kept : target.monitor = state.monitor →
      target.Publishing id .monitor := by
    intro same
    have grows := Reconciler.attachers_grow moves
    rw [Reconciler.Publishing] at publishing ⊢
    rw [same]
    cases notifier : state.monitor with
    | published =>
        rw [notifier] at publishing
        exact Nat.lt_of_lt_of_le publishing grows
    | _ =>
        rw [notifier] at publishing
        exact publishing
  cases moves with
  | publishPolicy _ _ => exact Or.inl ⟨kept rfl, by simp⟩
  | appendPolicy _ => exact Or.inl ⟨kept rfl, by simp⟩
  | publishInterfaces idle =>
      rw [Reconciler.Publishing, idle] at publishing
      exact publishing.elim
  | countAttachers published =>
      left
      rw [Reconciler.Publishing, published] at publishing
      exact ⟨⟨Nat.zero_le id, publishing⟩, unchanged⟩
  | stampInterfaces notifying more =>
      left
      rw [Reconciler.Publishing, notifying] at publishing
      exact ⟨publishing, unchanged⟩
  | @appendInterfaces count request stamped =>
      rw [Reconciler.Publishing, stamped] at publishing
      obtain ⟨reached, counted⟩ := publishing
      rcases Nat.eq_or_lt_of_le reached with same | before
      · exact .inr ⟨request, ⟨count, stamped⟩, same, rfl, rfl⟩
      · left
        refine ⟨⟨before, counted⟩, ?_⟩
        simp [Nat.ne_of_lt before]
  | finishInterfaces notifying finished =>
      rw [Reconciler.Publishing, notifying] at publishing
      obtain ⟨reached, counted⟩ := publishing
      exact (finished (Nat.lt_of_le_of_lt reached counted)).elim
  | schedule _ collected =>
      obtain ⟨_, _, _, rfl, _⟩ := Reconciler.collect_frame collected
      exact Or.inl ⟨kept rfl, unchanged⟩
  | passOperation _ _ =>
      exact Or.inl ⟨kept rfl, readEvents_ne_requested _ _⟩
  | finishPass _ => exact Or.inl ⟨kept rfl, by simp⟩
  | _ => exact Or.inl ⟨kept rfl, unchanged⟩

theorem publishing_step (publishing : state.Publishing id publisher)
    (moves : state.Moves label target) :
    (target.Publishing id publisher ∧
        target.history ≠ .requested publisher id :: state.history) ∨
      ∃ request, state.Appends target id publisher request := by
  cases publisher with
  | caller thread => exact publishing_caller_step publishing moves
  | monitor => exact publishing_monitor_step publishing moves

/-- A step records at most one event, and a thread which publishes has its
stamp and its append before it. -/
theorem history_step (moves : state.Moves label target) :
    target.history = state.history ∨
      ∃ event, target.history = event :: state.history ∧
        ∀ view id publisher, event.publication view id = some publisher →
          target.Publishing id publisher ∧
            ∀ request, ¬target.Stamped request publisher := by
  cases moves with
  | @publishPolicy thread attacherId attacher mutated found =>
      right
      refine ⟨_, rfl, ?_⟩
      intro view id publisher published
      simp only [ReconcilerEvent.publication] at published
      split at published
      · rename_i same
        cases published
        have stands : Function.update state.callers thread
            (.published attacherId) thread = .published attacherId :=
          Function.update_self _ _ _
        exact ⟨publishing_of_caller stands same.2,
          fun request stamped => by cases stands.symm.trans stamped⟩
      · cases published
  | publishInterfaces idle =>
      right
      refine ⟨_, rfl, ?_⟩
      intro view id publisher published
      simp only [ReconcilerEvent.publication] at published
      split at published
      · rename_i existing
        cases published
        refine ⟨existing.2, ?_⟩
        rintro request ⟨count, stamped⟩
        cases stamped
      · cases published
  | appendPolicy _ => exact Or.inr ⟨_, rfl, fun _ _ _ none => by cases none⟩
  | appendInterfaces _ =>
      exact Or.inr ⟨_, rfl, fun _ _ _ none => by cases none⟩
  | finishPass _ => exact Or.inr ⟨_, rfl, fun _ _ _ none => by cases none⟩
  | schedule _ collected =>
      obtain ⟨_, _, _, rfl, _⟩ := Reconciler.collect_frame collected
      exact Or.inl rfl
  | @passOperation outcome request program rest ready later event _ _ =>
      obtain ⟨operation, answer⟩ := event
      cases operation with
      | getAttacher other =>
          exact Or.inr ⟨_, rfl, fun _ _ _ none => by cases none⟩
      | snapshot =>
          exact Or.inr ⟨_, rfl, fun _ _ _ none => by cases none⟩
      | _ => exact Or.inl rfl
  | _ => exact Or.inl rfl

/-- Something holds of every publication which no pass has read; the list are
the events since it. -/
def Reconciler.EveryUnread (state : Reconciler)
    (holds : View → Nat → Publisher → List ReconcilerEvent → Prop) : Prop :=
  ∀ view id publisher event later earlier,
    event.publication view id = some publisher →
    state.history = later ++ event :: earlier →
    .read view id ∉ later → holds view id publisher later

/-- What a step records, when it does not record this read. -/
structure Reconciler.Records (state target : Reconciler) (view : View)
    (id : Nat) (new : List ReconcilerEvent) : Prop where
  history : target.history = new ++ state.history
  single : new = [] ∨ ∃ event, new = [event]
  unread : .read view id ∉ new

theorem Reconciler.Records.not_read {new : List ReconcilerEvent}
    (records : state.Records target view id new) :
    target.history ≠ .read view id :: state.history := by
  intro reads
  have same : new = [.read view id] :=
    List.append_cancel_right (records.history.symm.trans reads)
  have unread := records.unread
  rw [same] at unread
  exact unread List.mem_cons_self

theorem Reconciler.Records.not_requested {new later : List ReconcilerEvent}
    (records : state.Records target view id new)
    (other : target.history ≠ .requested publisher id :: state.history)
    (before : .requested publisher id ∉ later) :
    .requested publisher id ∉ new ++ later := by
  intro requested
  rcases List.mem_append.mp requested with now | earlier
  · rcases records.single with empty | ⟨event, one⟩
    · rw [empty] at now
      cases now
    · have recorded := records.history
      rw [one] at now recorded
      rw [← List.mem_singleton.mp now] at recorded
      exact other recorded
  · exact before earlier

/-- The step rule for what holds of every unread publication. -/
theorem everyUnread_step
    {before after : View → Nat → Publisher → List ReconcilerEvent → Prop}
    (moves : state.Moves label target) (known : state.EveryUnread before)
    (published : ∀ view id publisher, target.Publishing id publisher →
      (∀ request, ¬target.Stamped request publisher) →
      after view id publisher [])
    (kept : ∀ view id publisher later new, before view id publisher later →
      state.Records target view id new →
      after view id publisher (new ++ later)) :
    target.EveryUnread after := by
  intro view id publisher event later earlier isPublished since unread
  rcases history_step moves with same | ⟨newest, recorded, publishing⟩
  · have held := known view id publisher event later earlier isPublished
      (same.symm.trans since) unread
    exact kept view id publisher later [] held
      ⟨same, .inl rfl, List.not_mem_nil⟩
  · rw [recorded] at since
    cases later with
    | nil =>
        -- the step is the publication itself
        simp only [List.nil_append, List.cons.injEq] at since
        rw [since.1] at publishing
        obtain ⟨stands, unstamped⟩ := publishing view id publisher isPublished
        exact published view id publisher stands unstamped
    | cons latest later =>
        simp only [List.cons_append, List.cons.injEq] at since
        simp only [List.mem_cons, not_or] at unread
        have held := known view id publisher event later earlier isPublished
          since.2 unread.2
        refine kept view id publisher later [latest] held
          ⟨?_, .inr ⟨latest, rfl⟩, by simpa using unread.1⟩
        rw [recorded, since.1]
        rfl

/-- Every unread publication is owed. -/
def Reconciler.NothingLost (state : Reconciler) : Prop :=
  state.EveryUnread state.Owed

/-- What is owed stays owed as long as it is not read. -/
theorem owed_step {later new : List ReconcilerEvent}
    (owed : state.Owed view id publisher later)
    (moves : state.Moves label target)
    (records : state.Records target view id new) :
    target.Owed view id publisher (new ++ later) := by
  rcases owed with queued | awaits | ⟨publishing, before⟩
  · rcases queued_step queued moves with still | taken
    · exact Or.inl still
    · exact Or.inr (Or.inl (Or.inl taken))
  · rcases awaits_step awaits moves with still | reads
    · exact Or.inr (Or.inl still)
    · exact absurd reads records.not_read
  · rcases publishing_step publishing moves with
      ⟨still, other⟩ | ⟨request, appends⟩
    · exact Or.inr (Or.inr ⟨still, records.not_requested other before⟩)
    · exact Or.inl appends.queued

end Step

theorem nothingLost_step {state target : Reconciler} {label : ReconcilerStep}
    (nothingLost : state.NothingLost) (moves : state.Moves label target) :
    target.NothingLost := by
  refine everyUnread_step moves nothingLost ?_ ?_
  · intro view id publisher publishing _
    exact Or.inr (Or.inr ⟨publishing, List.not_mem_nil⟩)
  · intro view id publisher later new owed records
    exact owed_step owed moves records

theorem nothingLost_reachable {state : Reconciler}
    (reached : reconciler.Reachable state) : state.NothingLost := by
  apply reached.invariant
  · intro start begins view id publisher event later earlier published since
    rw [begins.history] at since
    simp at since
  · intro state label target nothingLost stepped
    exact nothingLost_step nothingLost (Reconciler.moves_of_step stepped)

/-- No lost update: as long as no pass of an attacher has read what was
published for it, a request of the attacher is queued, or held by the worker
before that read, or the publishing thread has yet to append it. -/
theorem no_lost_update {state : Reconciler}
    (reached : reconciler.Reachable state) {view : View} {id : Nat}
    {publisher : Publisher} {event : ReconcilerEvent}
    {later earlier : List ReconcilerEvent}
    (published : event.publication view id = some publisher)
    (since : state.history = later ++ event :: earlier)
    (unread : .read view id ∉ later) :
    Queued state.shared.applyRequests id ∨ state.worker.Awaits view id ∨
      (state.Publishing id publisher ∧ .requested publisher id ∉ later) :=
  nothingLost_reachable reached view id publisher event later earlier
    published since unread

/-- A target is added, the policy is published and a request appended. -/
def addTargetRun : List ReconcilerStep :=
  [.createAttacher sampleProgram {}, .mutate 7 0 (.addTarget "eth0"),
    .publishPolicy 7, .stampPolicy 7 10, .appendPolicy 7]

theorem addTargetRun_enabled :
    (reconciler.runWhere (fun _ _ => True) sampleReconciler
      addTargetRun).isSome = true := by
  decide +kernel

theorem no_lost_update_addTarget :
    let state :=
      reconciler.finish sampleReconciler addTargetRun addTargetRun_enabled
    Queued state.shared.applyRequests 0 ∨ state.worker.Awaits .policy 0 ∨
      (state.Publishing 0 (.caller 7) ∧
        .requested (.caller 7) 0 ∉
          [ReconcilerEvent.requested (.caller 7) 0]) := by
  intro state
  have reached : reconciler.Reachable state :=
    Machine.reachable_finish sampleReconciler_initial addTargetRun_enabled
  have since : state.history =
      [.requested (.caller 7) 0] ++ .policyPublished 7 0 :: [] := rfl
  exact no_lost_update reached rfl since (by decide)

end LibbpfControl.BpfTool
