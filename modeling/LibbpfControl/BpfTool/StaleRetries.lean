import LibbpfControl.BpfTool.NoLostUpdate
import LibbpfControl.BpfTool.Retries

/-!
# Retries do not take priority over newer updates

A retry keeps the stamp of its request, and requests are stamped before they
are appended, so coalescing by stamps could prefer a retry to the request of
a newer update.  It does not, for every clock whose readings strictly
increase.  A request is spent for a view once a pass with it has read the
view; its stamp is then older than every stamp made after that read.  As long
as no pass has read a publication, all spent requests of the attacher are
therefore older than the request of the publication, and what replaces that
request in the queue is a fresh one.
-/

namespace LibbpfControl.BpfTool

namespace Reconciler

variable {state target : Reconciler} {label : ReconcilerStep} {view : View}
  {id : Nat} {publisher : Publisher} {request : ApplyRequest}

/-- A request which has been stamped and not yet left the manager. -/
def Mentions (state : Reconciler) (request : ApplyRequest) : Prop :=
  request ∈ state.shared.applyRequests ∨ request ∈ state.worker.ready ∨
    (∃ program ready, state.worker = .running request program ready) ∨
    ∃ publisher, state.Stamped request publisher

/-- Where a request of the next state comes from. -/
inductive MentionOrigin (state : Reconciler) (label : ReconcilerStep) :
    ApplyRequest → Prop where
  | kept {request : ApplyRequest} (mentioned : state.Mentions request) :
      MentionOrigin state label request
  | retried {original : ApplyRequest} {program : ManagerProgram Bool}
      {ready : List ApplyRequest}
      (running : state.worker = .running original program ready)
      (past : ∀ view, ¬BeforeRead original program view) :
      MentionOrigin state label original.retry
  | stamped {id : Nat} {now : Int} (reads : label.reading = some now) :
      MentionOrigin state label (.fresh id now)

/-- A pass which appends its retry has read both views. -/
theorem not_beforeRead_append {original : ApplyRequest}
    {next : Unit → ManagerProgram Bool} :
    ¬BeforeRead original (.call (.appendApplyRequest request) next) view := by
  intro before
  cases view with
  | policy => cases before
  | interfaces =>
      rcases before with start | ⟨_, looking⟩
      · cases start
      · cases looking

theorem mention_origin (wellFormed : state.WellFormed)
    (moves : state.Moves label target)
    (mentioned : target.Mentions request) :
    MentionOrigin state label request := by
  rcases mentioned with
    queued | taken | ⟨program, ready, runs⟩ | ⟨publisher, stamped⟩
  · rcases queued_origin moves queued with
      old | ⟨publisher, stamped⟩ | ⟨original, next, ready, running⟩
    · exact .kept (.inl old)
    · exact .kept (.inr (.inr (.inr ⟨publisher, stamped⟩)))
    · rw [(wellFormed.retried running).1]
      exact .retried running fun _ => not_beforeRead_append
  · rcases ready_origin moves taken with queued | ready
    · exact .kept (.inl queued)
    · exact .kept (.inr (.inl ready))
  · cases running_origin moves runs with
    | kept running => exact .kept (.inr (.inr (.inl ⟨_, _, running⟩)))
    | started taken => exact .kept (.inr (.inl taken))
    | advanced running => exact .kept (.inr (.inr (.inl ⟨_, _, running⟩)))
  · rcases stamped_origin moves stamped with before | ⟨id, now, reads, rfl⟩
    · exact .kept (.inr (.inr (.inr ⟨publisher, before⟩)))
    · exact .stamped reads

/-- Stamps lie in the past, and what a publisher has stamped is fresh. -/
structure StampsBy (state : Reconciler) (clock : Int) : Prop where
  past : ∀ request, state.Mentions request → request.requestTime ≤ clock
  fresh : ∀ request publisher, state.Stamped request publisher →
    request.retryCount = 0

theorem stampsBy_of_moves {clock later : Int} (wellFormed : state.WellFormed)
    (stamps : state.StampsBy clock) (moves : state.Moves label target)
    (ticks : label.reading = none ∧ later = clock ∨
      label.reading = some later ∧ clock < later) :
    target.StampsBy later := by
  have grows : clock ≤ later := by
    rcases ticks with ⟨_, same⟩ | ⟨_, after⟩
    · exact Int.le_of_eq same.symm
    · exact Int.le_of_lt after
  constructor
  · intro request mentioned
    cases mention_origin wellFormed moves mentioned with
    | kept before => exact Int.le_trans (stamps.past request before) grows
    | retried running past =>
        have before := stamps.past _ (.inr (.inr (.inl ⟨_, _, running⟩)))
        exact Int.le_trans before grows
    | stamped reads =>
        rcases ticks with ⟨unread, _⟩ | ⟨read, _⟩
        · cases unread.symm.trans reads
        · cases read.symm.trans reads
          exact Int.le_refl _
  · intro request publisher stamped
    rcases stamped_origin moves stamped with before | ⟨_, _, _, rfl⟩
    · exact stamps.fresh request publisher before
    · rfl

/-- A pass with this request, or with the one it is the retry of, has read
the view. -/
def Spent (state : Reconciler) (view : View) (request : ApplyRequest) :
    Prop :=
  state.Mentions request ∧ request.retryCount ≠ 0 ∨
    ∃ program ready, state.worker = .running request program ready ∧
      ¬BeforeRead request program view

/-- The request has a later stamp than all spent ones of its attacher. -/
def Ahead (state : Reconciler) (view : View) (request : ApplyRequest) :
    Prop :=
  ∀ spent, state.Spent view spent → spent.id = request.id →
    spent.requestTime < request.requestTime

theorem Spent.mentioned (spent : state.Spent view request) :
    state.Mentions request := by
  rcases spent with ⟨mentioned, _⟩ | ⟨program, ready, running, _⟩
  · exact mentioned
  · exact .inr (.inr (.inl ⟨program, ready, running⟩))

/-- Unless a pass reads the view, no stamp becomes spent. -/
theorem spent_of_moves (wellFormed : state.WellFormed)
    (moves : state.Moves label target) (spent : target.Spent view request)
    (unread : target.history ≠ .read view request.id :: state.history) :
    ∃ original, state.Spent view original ∧ original.id = request.id ∧
      original.requestTime = request.requestTime := by
  rcases spent with ⟨mentioned, retried⟩ | ⟨program, ready, runs, past⟩
  · cases mention_origin wellFormed moves mentioned with
    | kept before => exact ⟨request, .inl ⟨before, retried⟩, rfl, rfl⟩
    | @retried original _ _ running past =>
        exact ⟨original, .inr ⟨_, _, running, past view⟩, rfl, rfl⟩
    | stamped => exact absurd rfl retried
  · cases running_origin moves runs with
    | kept running => exact ⟨request, .inr ⟨_, _, running, past⟩, rfl, rfl⟩
    | started => exact absurd (beforeRead_start request) past
    | advanced running advanced reached =>
        refine ⟨request, .inr ⟨_, _, running, ?_⟩, rfl, rfl⟩
        intro before
        rcases beforeRead_advance before advanced with still | reads
        · exact past still
        · rw [reads] at reached
          exact unread (congrArg Reconciler.history reached)

theorem ahead_of_moves (wellFormed : state.WellFormed)
    (moves : state.Moves label target) (ahead : state.Ahead view request)
    (unread : target.history ≠ .read view request.id :: state.history) :
    target.Ahead view request := by
  intro spent isSpent same
  rw [← same] at unread
  obtain ⟨original, before, sameId, sameTime⟩ :=
    spent_of_moves wellFormed moves isSpent unread
  rw [← sameTime]
  exact ahead original before (sameId.trans same)

/-- A stamp made now is ahead of everything. -/
theorem ahead_of_stamp {clock now : Int} (stamps : state.StampsBy clock)
    (later : clock < now) : state.Ahead view (.fresh id now) := by
  intro spent isSpent _
  exact Int.lt_of_le_of_lt (stamps.past spent isSpent.mentioned) later

/-- The request is queued, or held by the worker before the read. -/
def Awaits (state : Reconciler) (view : View) (request : ApplyRequest) :
    Prop :=
  request ∈ state.shared.applyRequests ∨
    state.worker.HoldsUnread view request

/-- A fresh request which is ahead of all spent ones waits for its pass. -/
structure Serves (state : Reconciler) (view : View) (id : Nat)
    (request : ApplyRequest) : Prop where
  same : request.id = id
  fresh : request.retryCount = 0
  awaits : state.Awaits view request
  ahead : state.Ahead view request

/-- A request which is ahead leaves the queue only for a later one. -/
theorem Ahead.append (ahead : state.Ahead view request)
    {appended : ApplyRequest}
    (queued : request ∈ state.shared.applyRequests) :
    request ∈ (state.append appended).applyRequests ∨
      appended ∈ (state.append appended).applyRequests ∧
        appended.id = request.id ∧ state.Ahead view appended := by
  rcases mem_append_or_newer appended queued with
    stays | ⟨member, same, newer⟩
  · exact .inl stays
  · refine .inr ⟨member, same, ?_⟩
    intro spent isSpent sameId
    have before := ahead spent isSpent (sameId.trans same)
    exact Int.lt_of_lt_of_le before newer

theorem serves_of_moves {clock : Int} (wellFormed : state.WellFormed)
    (stamps : state.StampsBy clock) (moves : state.Moves label target)
    (serves : state.Serves view id request)
    (unread : target.history ≠ .read view id :: state.history) :
    ∃ later, target.Serves view id later := by
  obtain ⟨rfl, fresh, awaits, ahead⟩ := serves
  have stillAhead := ahead_of_moves wellFormed moves ahead unread
  rcases awaits with queued | holds
  · have kept (member : request ∈ target.shared.applyRequests) :
        ∃ later, target.Serves view request.id later :=
      ⟨request, rfl, fresh, .inl member, stillAhead⟩
    have appended {added : ApplyRequest} {publisher : Publisher}
        (stamped : state.Stamped added publisher)
        (shared : target.shared = state.append added) :
        ∃ later, target.Serves view request.id later := by
      rcases ahead.append queued with stays | ⟨member, same, newer⟩
      · exact kept (shared ▸ stays)
      · refine ⟨added, same, stamps.fresh added publisher stamped,
          .inl (shared ▸ member), ?_⟩
        rw [← same] at unread
        exact ahead_of_moves wellFormed moves newer unread
    cases moves with
    | @appendPolicy thread added stamped =>
        have byCaller : state.Stamped added (.caller thread) := stamped
        exact appended byCaller rfl
    | @appendInterfaces count added stamped =>
        have byMonitor : state.Stamped added .monitor := ⟨count, stamped⟩
        exact appended byMonitor rfl
    | schedule _ collected =>
        obtain ⟨_, _, _, rfl, parted, _⟩ := collect_frame collected
        rcases (parted request).mp queued with stays | taken
        · exact kept stays
        · exact ⟨request, rfl, fresh, .inr (.inl taken), stillAhead⟩
    | @passOperation _ original _ _ _ _ event running advanced =>
        obtain ⟨next, answered, pending, _⟩ :=
          Program.advance_eq_some advanced
        obtain ⟨operation, answer⟩ := event
        rcases answer_applyRequests answered with
          ⟨unchanged, _⟩ | ⟨added, isAppend, changed⟩
        · refine kept ?_
          simp only [unchanged]
          exact queued
        · cases isAppend
          rw [pending] at running
          have isRetry := (wellFormed.retried running).1
          have spent : state.Spent view original :=
            .inr ⟨_, _, running, not_beforeRead_append⟩
          rcases ahead.append queued with stays | ⟨_, _, newer⟩
          · refine kept ?_
            simp only [changed]
            exact stays
          · -- the retry has the stamp of the spent request
            rw [isRetry] at newer
            exact absurd (newer original spent rfl) (Int.lt_irrefl _)
    | _ => exact kept queued
  · rcases holdsUnread_step holds moves with still | reads
    · exact ⟨request, rfl, fresh, .inr still, stillAhead⟩
    · exact absurd reads unread

/-- A publisher appends: its request is queued, or a later one which is not
spent and therefore fresh. -/
theorem serves_of_appends {clock : Int} (wellFormed : state.WellFormed)
    (stamps : state.StampsBy clock) (moves : state.Moves label target)
    (appends : state.Appends target id publisher request)
    (ahead : state.Ahead view request)
    (unread : target.history ≠ .read view id :: state.history) :
    ∃ later, target.Serves view id later := by
  obtain ⟨stamped, rfl, shared, _⟩ := appends
  by_cases latest : ∀ old ∈ state.shared.applyRequests,
      old.id = request.id → old.requestTime ≤ request.requestTime
  · refine ⟨request, rfl, stamps.fresh request publisher stamped, .inl ?_,
      ahead_of_moves wellFormed moves ahead unread⟩
    rw [shared]
    exact mem_appendApplyRequest.mpr (.inr (.inl ⟨rfl, latest⟩))
  · simp only [not_forall, Int.not_le] at latest
    obtain ⟨old, queued, same, later⟩ := latest
    have fresh : old.retryCount = 0 := by
      by_contra retried
      have before := ahead old (.inl ⟨.inl queued, retried⟩) same
      exact absurd (Int.lt_trans before later) (Int.lt_irrefl _)
    have oldAhead : state.Ahead view old := by
      intro spent isSpent sameId
      exact Int.lt_trans (ahead spent isSpent (sameId.trans same)) later
    rw [← same] at unread
    refine ⟨old, same, fresh, .inl ?_,
      ahead_of_moves wellFormed moves oldAhead unread⟩
    rw [shared]
    exact mem_appendApplyRequest.mpr (.inr (.inr ⟨queued, same, later⟩))

/-- What an unread publication leaves, with the stamps. -/
def Due (state : Reconciler) (view : View) (id : Nat) (publisher : Publisher)
    (later : List ReconcilerEvent) : Prop :=
  (∃ request, state.Serves view id request) ∨
    state.Publishing id publisher ∧ .requested publisher id ∉ later ∧
      ∀ request, state.Stamped request publisher → request.id = id →
        state.Ahead view request

theorem due_of_moves {clock time : Int} {later new : List ReconcilerEvent}
    (wellFormed : state.WellFormed) (stamps : state.StampsBy clock)
    (moves : state.Moves label target)
    (ticks : label.reading = none ∧ time = clock ∨
      label.reading = some time ∧ clock < time)
    (due : state.Due view id publisher later)
    (records : state.Records target view id new) :
    target.Due view id publisher (new ++ later) := by
  rcases due with ⟨request, serves⟩ | ⟨publishing, unrequested, ahead⟩
  · exact .inl
      (serves_of_moves wellFormed stamps moves serves records.not_read)
  · rcases publishing_step publishing moves with
      ⟨still, other⟩ | ⟨request, appends⟩
    · refine .inr ⟨still, records.not_requested other unrequested, ?_⟩
      rintro request stamped rfl
      refine ahead_of_moves wellFormed moves ?_ records.not_read
      rcases stamped_origin moves stamped with before | ⟨_, now, reads, rfl⟩
      · exact ahead request before rfl
      · rcases ticks with ⟨unread, _⟩ | ⟨read, after⟩
        · cases unread.symm.trans reads
        · cases read.symm.trans reads
          exact ahead_of_stamp stamps after
    · have isAhead := ahead request appends.stamped appends.same
      exact .inl (serves_of_appends wellFormed stamps moves appends isAhead
        records.not_read)

/-- What holds of a state and the last reading of the clock. -/
structure InOrder (timed : Reconciler × Int) : Prop where
  stamps : timed.1.StampsBy timed.2
  due : timed.1.EveryUnread timed.1.Due

theorem inOrder_of_initial (initial : state.Initial) (clock : Int) :
    InOrder (state, clock) := by
  have unstamped : ∀ request publisher, ¬state.Stamped request publisher := by
    intro request publisher stamped
    cases publisher with
    | caller thread => cases (initial.callers thread).symm.trans stamped
    | monitor =>
        obtain ⟨count, stands⟩ := stamped
        cases initial.monitor.symm.trans stands
  refine ⟨⟨?_, fun request publisher stamped =>
    absurd stamped (unstamped request publisher)⟩, ?_⟩
  · intro request mentioned
    rcases mentioned with
      queued | taken | ⟨_, _, running⟩ | ⟨publisher, stamped⟩
    · rw [Keyed.mem_def, initial.applyRequests] at queued
      cases queued
    · rw [initial.worker] at taken
      cases taken
    · cases initial.worker.symm.trans running
    · exact absurd stamped (unstamped request publisher)
  · intro view id publisher event later earlier _ since
    rw [initial.history] at since
    simp at since

theorem inOrder_of_moves {clock time : Int} (wellFormed : state.WellFormed)
    (inOrder : InOrder (state, clock)) (moves : state.Moves label target)
    (ticks : label.reading = none ∧ time = clock ∨
      label.reading = some time ∧ clock < time) :
    InOrder (target, time) where
  stamps := stampsBy_of_moves wellFormed inOrder.stamps moves ticks
  due := by
    refine everyUnread_step moves inOrder.due ?_ ?_
    · intro view id publisher publishing unstamped
      refine .inr ⟨publishing, List.not_mem_nil, ?_⟩
      intro request stamped
      exact absurd stamped (unstamped request)
    · intro view id publisher later new due records
      exact due_of_moves wellFormed inOrder.stamps moves ticks due records

end Reconciler

/-- The runs of the manager in which successive clock readings strictly
increase, with the last reading. -/
def clockedReconciler : Machine (Reconciler × Int) ReconcilerStep :=
  reconciler.clocked ReconcilerStep.reading

theorem inOrder_reachable {timed : Reconciler × Int}
    (reached : clockedReconciler.Reachable timed) :
    Reconciler.InOrder timed := by
  refine reached.invariant_with
    (fun _ before => Reconciler.wellFormed_reachable before.of_clocked) ?_ ?_
  · intro start initial
    exact Reconciler.inOrder_of_initial initial start.2
  · intro state label target wellFormed inOrder stepped
    obtain ⟨taken, ticks⟩ := Machine.clocked_step stepped
    exact Reconciler.inOrder_of_moves wellFormed inOrder
      (Reconciler.moves_of_step taken) ticks

/-- From the append of the request of a publication until a pass of the
attacher has read what was published, an immediate request of the attacher
with no retries is queued, or held by the worker before that read. -/
theorem newer_update_first {timed : Reconciler × Int}
    (reached : clockedReconciler.Reachable timed) {view : View} {id : Nat}
    {publisher : Publisher} {event : ReconcilerEvent}
    {later earlier : List ReconcilerEvent}
    (published : event.publication view id = some publisher)
    (since : timed.1.history = later ++ event :: earlier)
    (requested : .requested publisher id ∈ later)
    (unread : .read view id ∉ later) :
    ∃ request, request.id = id ∧ request.isImmediate = true ∧
      request.retryCount = 0 ∧
      (request ∈ timed.1.shared.applyRequests ∨
        timed.1.worker.HoldsUnread view request) := by
  have due := (inOrder_reachable reached).due view id publisher event later
    earlier published since unread
  rcases due with ⟨request, serves⟩ | ⟨_, unrequested, _⟩
  · have wellFormed := Reconciler.wellFormed_reachable reached.of_clocked
    have outstanding : request ∈ timed.1.shared.applyRequests ∨
        timed.1.Holds request := by
      rcases serves.awaits with queued | taken | ⟨program, ready, running, _⟩
      · exact .inl queued
      · exact .inr (.inl taken)
      · exact .inr (.inr ⟨program, ready, running⟩)
    have held := wellFormed.outstanding outstanding
    exact ⟨request, serves.same, held.immediate.mpr serves.fresh,
      serves.fresh, serves.awaits⟩
  · exact absurd requested unrequested

theorem clockedReconciler_initial (clock : Int) :
    clockedReconciler.initial (sampleReconciler, clock) :=
  sampleReconciler_initial

/-- While a pass fails, a target is added; the request of the addition is
appended before the retry of the pass. -/
def addTargetDuringPass : List ReconcilerStep :=
  ([.createAttacher sampleProgram {}, .mutate 7 0 (.addTarget "eth0"),
    .publishPolicy 7, .stampPolicy 7 10, .appendPolicy 7,
    .schedule 20 [.fresh 0 10], .startPass] : List ReconcilerStep) ++
  List.replicate 3 (ReconcilerStep.passOperation (.faithful ⟨1, 1⟩)) ++
  ([.mutate 8 0 (.addTarget "eth1"), .publishPolicy 8, .stampPolicy 8 30,
    .appendPolicy 8, .passOperation (.failing (-1)),
    .passOperation (.faithful ⟨1, 1⟩), .finishPass] : List ReconcilerStep)

theorem addTargetDuringPass_enabled :
    (clockedReconciler.runWhere (fun _ _ => True) (sampleReconciler, 0)
      addTargetDuringPass).isSome = true := by
  decide +kernel

def updatedReconciler : Reconciler × Int :=
  clockedReconciler.finish (sampleReconciler, 0) addTargetDuringPass
    addTargetDuringPass_enabled

theorem newer_update_first_kept :
    updatedReconciler.1.shared.applyRequests.items = [.fresh 0 30] ∧
      ∃ request, request.id = 0 ∧ request.isImmediate = true ∧
        request.retryCount = 0 ∧
        (request ∈ updatedReconciler.1.shared.applyRequests ∨
          updatedReconciler.1.worker.HoldsUnread .policy request) := by
  have since : updatedReconciler.1.history =
      [.passFinished 0 false, .requested (.caller 8) 0] ++
        .policyPublished 8 0 ::
          [.read .interfaces 0, .read .policy 0, .requested (.caller 7) 0,
            .policyPublished 7 0] := rfl
  refine ⟨rfl, newer_update_first (Machine.reachable_finish
    (clockedReconciler_initial 0) addTargetDuringPass_enabled) rfl since ?_ ?_⟩
  · decide
  · decide

/-- The pass for a published snapshot of the interfaces has read the policy
and not yet the snapshot. -/
def snapshotNextRun : List ReconcilerStep :=
  [.createAttacher sampleProgram {},
    .publishInterfaces (NicCheck.singleInterface "eth0" 2), .countAttachers,
    .stampInterfaces 10, .appendInterfaces, .schedule 20 [.fresh 0 10],
    .startPass, .passOperation (.faithful ⟨1, 1⟩)]

theorem snapshotNextRun_enabled :
    (clockedReconciler.runWhere (fun _ _ => True) (sampleReconciler, 0)
      snapshotNextRun).isSome = true := by
  decide +kernel

def readingReconciler : Reconciler × Int :=
  clockedReconciler.finish (sampleReconciler, 0) snapshotNextRun
    snapshotNextRun_enabled

/-- Between the two reads of a pass the snapshot is unread, nothing is queued
or taken, and the pass has begun. -/
theorem begun_pass_unread :
    ∃ timed later earlier, clockedReconciler.Reachable timed ∧
      timed.1.history = later ++ .interfacesPublished 1 :: earlier ∧
      .requested .monitor 0 ∈ later ∧ .read .interfaces 0 ∉ later ∧
      ∀ request, request ∉ timed.1.shared.applyRequests ∧
        request ∉ timed.1.worker.ready ∧
        ∀ program ready, timed.1.worker = .running request program ready →
          program ≠ applyTargetsPolicyPerAttacher request := by
  have since : readingReconciler.1.history =
      [.read .policy 0, .requested .monitor 0] ++
        .interfacesPublished 1 :: [] := rfl
  have queue : readingReconciler.1.shared.applyRequests.items = [] := rfl
  have worker : ∃ attacher, readingReconciler.1.worker =
      .running (.fresh 0 10)
        (.call .snapshot (passBody (.fresh 0 10) attacher)) [] := ⟨_, rfl⟩
  refine ⟨readingReconciler, _, _, Machine.reachable_finish
    (clockedReconciler_initial 0) snapshotNextRun_enabled, since, by decide,
    by decide, ?_⟩
  obtain ⟨attacher, running⟩ := worker
  intro request
  refine ⟨?_, ?_, ?_⟩
  · rw [Keyed.mem_def, queue]
    exact List.not_mem_nil
  · rw [running]
    exact List.not_mem_nil
  · intro program ready runs begun
    cases running.symm.trans runs
    cases begun

end LibbpfControl.BpfTool
