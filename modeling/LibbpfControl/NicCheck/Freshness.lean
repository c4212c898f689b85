import LibbpfControl.Machine
import LibbpfControl.NicCheck.Snapshot

/-!
# Concurrent refreshes

The monitor and every caller of `request_refresh` may refresh at the same
time, while the interfaces of the host change.  Reading them takes many system
calls, each of which answers for its own moment.  `reload_snapshot` holds
`refresh_mutex_` from before the first of these calls until after the snapshot
is replaced, so that a refresh which began earlier never overwrites the result
of one which began later.

What follows from this is said of the queries.  Once a refresh which began
after the last change has published, they answer as the host does, until the
host changes again.
-/

namespace LibbpfControl.NicCheck

/-- The loop of the two queries which look for an index. -/
def findByIfindex (current : InterfaceMap) (ifindex : UInt32) :
    Option (String × InterfaceInfo) :=
  current.items.find? fun entry => entry.2.ifindex == ifindex

def getIfnameByIfindex (current : InterfaceMap) (ifindex : UInt32) :
    String × InterfaceError :=
  let found := findByIfindex current ifindex
  ((found.map Prod.fst).getD "", queryError .notExistIfIndexError found)

def getIfinfoByIfname (current : InterfaceMap) (ifname : String) :
    Option InterfaceInfo × InterfaceError :=
  let found := current.find? ifname
  (found.map Prod.snd, queryError .notExistIfNameError found)

def getIfinfoByIfindex (current : InterfaceMap) (ifindex : UInt32) :
    Option InterfaceInfo × InterfaceError :=
  let found := findByIfindex current ifindex
  (found.map Prod.snd, queryError .notExistIfIndexError found)

/-- What the system calls answer as long as nothing changes. -/
structure Host where
  calls : InterfaceSystem
  entries : List IfAddrs

/-- A refresh is numbered when it takes the lock; `since` is the number of
changes before that. -/
structure Turn where
  number : Nat
  since : Nat
  deriving DecidableEq, Repr

/-- A thread in `refresh_interface_list`. -/
inductive RefreshPhase where
  | idle
  | locking
  | locked (turn : Turn)
  /-- In the loop over the entries. -/
  | reading (turn : Turn) (rest : List IfAddrs) (processed : InterfaceMap)
  /-- The snapshot is replaced, the lock is still held. -/
  | published

structure Refreshing where
  host : Host
  /-- How often the host has changed. -/
  changes : Nat
  store : SnapshotStore
  /-- The owner of `refresh_mutex_`. -/
  owner : Option Nat
  threads : Nat → RefreshPhase
  /-- How many refreshes have taken the lock. -/
  turns : Nat
  /-- The refreshes whose snapshots were published, the newest first. -/
  published : List Turn

inductive RefreshingStep where
  | change (host : Host)
  | call (thread : Nat)
  | lock (thread : Nat)
  | getifaddrs (thread : Nat) (fails : Bool)
  /-- One entry.  Calls which are made after a change may answer for the
  host before or after it, in any mixture. -/
  | readEntry (thread : Nat) (mixture : InterfaceSystem)
  | publish (thread : Nat)
  | finish (thread : Nat)

namespace Refreshing

def setThread (state : Refreshing) (thread : Nat) (phase : RefreshPhase) :
    Refreshing :=
  { state with threads := Function.update state.threads thread phase }

/-- An early return, which releases the lock. -/
def abort (state : Refreshing) (thread : Nat) (error : InterfaceError) :
    Refreshing :=
  { state.setThread thread .idle with
    store := { state.store with lastError := error }
    owner := none }

/-- The refresh which takes the lock now. -/
def nextTurn (state : Refreshing) : Turn where
  number := state.turns
  since := state.changes

def takeTurn (state : Refreshing) (thread : Nat) : Refreshing :=
  { state.setThread thread (.locked state.nextTurn) with
    owner := some thread
    turns := state.turns + 1 }

/-- What the calls for one entry answer. -/
def answers (state : Refreshing) (since : Nat) (mixture : InterfaceSystem) :
    InterfaceSystem :=
  if since = state.changes then state.host.calls else mixture

def step (state : Refreshing) : RefreshingStep → Option Refreshing
  | .change host =>
      some { state with host := host, changes := state.changes + 1 }
  | .call thread =>
      match state.threads thread with
      | .idle => some (state.setThread thread .locking)
      | _ => none
  | .lock thread =>
      match state.threads thread, state.owner with
      | .locking, none => some (state.takeTurn thread)
      | _, _ => none
  | .getifaddrs thread fails =>
      match state.threads thread with
      | .locked turn =>
          if state.store.sockOpen = false then
            some (state.abort thread .socketError)
          else if fails then some (state.abort thread .getIfAddrsError)
          else
            some (state.setThread thread
              (.reading turn state.host.entries Keyed.empty))
      | _ => none
  | .readEntry thread mixture =>
      match state.threads thread with
      | .reading turn (ifa :: rest) processed =>
          some (state.setThread thread (.reading turn rest
            (processEntry (state.answers turn.since mixture) processed ifa)))
      | _ => none
  | .publish thread =>
      match state.threads thread with
      | .reading turn [] processed =>
          some { state.setThread thread .published with
            store := { state.store with interfaces := processed }
            published := turn :: state.published }
      | _ => none
  | .finish thread =>
      match state.threads thread with
      | .published =>
          some { state.setThread thread .idle with
            store := { state.store with lastError := .noError }
            owner := none }
      | _ => none

/-- A loader whose constructor has not refreshed yet. -/
structure Initial (state : Refreshing) : Prop where
  owner : state.owner = none
  threads : ∀ thread, state.threads thread = .idle
  published : state.published = []

end Refreshing

def refreshingMachine : Machine Refreshing RefreshingStep where
  initial := Refreshing.Initial
  step := Refreshing.step

/-- What a step finds and does. -/
inductive Refreshing.Moves (state : Refreshing) :
    RefreshingStep → Refreshing → Prop where
  | change {host : Host} :
      Moves state (.change host)
        { state with host := host, changes := state.changes + 1 }
  | call {thread : Nat} (stands : state.threads thread = .idle) :
      Moves state (.call thread) (state.setThread thread .locking)
  | lock {thread : Nat} (stands : state.threads thread = .locking)
      (free : state.owner = none) :
      Moves state (.lock thread) (state.takeTurn thread)
  | abort {thread : Nat} {turn : Turn} {fails : Bool}
      (error : InterfaceError)
      (stands : state.threads thread = .locked turn) :
      Moves state (.getifaddrs thread fails) (state.abort thread error)
  | getifaddrs {thread : Nat} {turn : Turn} {fails : Bool}
      (stands : state.threads thread = .locked turn) :
      Moves state (.getifaddrs thread fails)
        (state.setThread thread
          (.reading turn state.host.entries Keyed.empty))
  | readEntry {thread : Nat} {turn : Turn} {mixture : InterfaceSystem}
      {ifa : IfAddrs} {rest : List IfAddrs} {processed : InterfaceMap}
      (stands : state.threads thread =
        .reading turn (ifa :: rest) processed) :
      Moves state (.readEntry thread mixture)
        (state.setThread thread (.reading turn rest
          (processEntry (state.answers turn.since mixture) processed ifa)))
  | publish {thread : Nat} {turn : Turn} {processed : InterfaceMap}
      (stands : state.threads thread = .reading turn [] processed) :
      Moves state (.publish thread)
        { state.setThread thread .published with
          store := { state.store with interfaces := processed }
          published := turn :: state.published }
  | finish {thread : Nat} (stands : state.threads thread = .published) :
      Moves state (.finish thread)
        { state.setThread thread .idle with
          store := { state.store with lastError := .noError }
          owner := none }

theorem Refreshing.moves_of_step {state target : Refreshing}
    {label : RefreshingStep} (stepped : state.step label = some target) :
    state.Moves label target := by
  cases label with
  | change host =>
      cases stepped
      exact .change
  | call thread =>
      simp only [step] at stepped
      split at stepped
      · cases stepped
        exact .call ‹_›
      · cases stepped
  | lock thread =>
      simp only [step] at stepped
      split at stepped
      · cases stepped
        exact .lock ‹_› ‹_›
      · cases stepped
  | getifaddrs thread fails =>
      simp only [step] at stepped
      split at stepped
      · rename_i stands
        split at stepped
        · cases stepped
          exact .abort .socketError stands
        · split at stepped
          · cases stepped
            exact .abort .getIfAddrsError stands
          · cases stepped
            exact .getifaddrs stands
      · cases stepped
  | readEntry thread mixture =>
      simp only [step] at stepped
      split at stepped
      · cases stepped
        exact .readEntry ‹_›
      · cases stepped
  | publish thread =>
      simp only [step] at stepped
      split at stepped
      · cases stepped
        exact .publish ‹_›
      · cases stepped
  | finish thread =>
      simp only [step] at stepped
      split at stepped
      · cases stepped
        exact .finish ‹_›
      · cases stepped

/-- The thread holds `refresh_mutex_`. -/
def RefreshPhase.holdsLock : RefreshPhase → Bool
  | .idle => false
  | .locking => false
  | _ => true

/-- The refresh, as long as it has not published. -/
def RefreshPhase.turn : RefreshPhase → Option Turn
  | .locked turn => some turn
  | .reading turn _ _ => some turn
  | _ => none

/-- The refresh took the lock before another. -/
structure Turn.Before (earlier later : Turn) : Prop where
  number : earlier.number < later.number
  since : earlier.since ≤ later.since

/-- The snapshot which a refresh makes if nothing changes. -/
def Host.snapshot (host : Host) : InterfaceMap :=
  processEntries host.calls host.entries

/-- A refresh during which nothing has changed is going to publish what the
host has. -/
def RefreshPhase.Exact (host : Host) (changes : Nat) : RefreshPhase → Prop
  | .reading turn rest processed =>
      turn.since = changes →
        rest.foldl (processEntry host.calls) processed = host.snapshot
  | _ => True

structure Refreshing.Serialized (state : Refreshing) : Prop where
  owner : ∀ thread, (state.threads thread).holdsLock = true →
    state.owner = some thread
  begun : ∀ thread turn, (state.threads thread).turn = some turn →
    turn.Before state.nextTurn ∧
      ∀ earlier ∈ state.published, earlier.Before turn
  exact : ∀ thread,
    (state.threads thread).Exact state.host state.changes
  past : ∀ turn ∈ state.published, turn.Before state.nextTurn
  ordered : state.published.Pairwise fun newer older => older.Before newer
  current : state.published.head?.map Turn.since = some state.changes →
    state.store.interfaces = state.host.snapshot

theorem RefreshPhase.holdsLock_of_turn {phase : RefreshPhase} {turn : Turn}
    (begun : phase.turn = some turn) : phase.holdsLock = true := by
  cases phase with
  | idle => cases begun
  | locking => cases begun
  | locked turn => rfl
  | reading turn rest processed => rfl
  | published => cases begun

namespace Refreshing.Serialized

variable {state : Refreshing} {mover : Nat} {turn : Turn}

theorem initial (begins : state.Initial) : state.Serialized where
  owner thread holds := by
    rw [begins.threads thread] at holds
    cases holds
  begun thread turn begun := by
    rw [begins.threads thread] at begun
    cases begun
  exact thread := by
    rw [begins.threads thread]
    trivial
  past turn member := by
    rw [begins.published] at member
    cases member
  ordered := by
    rw [begins.published]
    exact .nil
  current newest := by
    rw [begins.published] at newest
    cases newest

variable (serialized : state.Serialized)
include serialized

/-- The thread which holds the lock is the only one. -/
theorem alone (mine : (state.threads mover).holdsLock = true)
    {other : Nat} (different : other ≠ mover) :
    (state.threads other).holdsLock = false := by
  rw [← Bool.not_eq_true]
  intro theirs
  apply different
  exact Option.some.inj
    ((serialized.owner other theirs).symm.trans (serialized.owner mover mine))

theorem change (host : Host) :
    Serialized
      { state with host := host, changes := state.changes + 1 } where
  owner := serialized.owner
  begun thread turn begun := by
    obtain ⟨bound, later⟩ := serialized.begun thread turn begun
    exact ⟨⟨bound.number, Nat.le_succ_of_le bound.since⟩, later⟩
  exact thread := by
    -- a refresh which has begun is behind the new host
    cases phase : state.threads thread with
    | reading turn rest processed =>
        intro same
        have bound : turn.since ≤ state.changes :=
          (serialized.begun thread turn (by rw [phase]; rfl)).1.since
        dsimp only at same
        omega
    | _ => trivial
  past turn member :=
    ⟨(serialized.past turn member).number,
      Nat.le_succ_of_le (serialized.past turn member).since⟩
  ordered := serialized.ordered
  current newest := by
    obtain ⟨turn, first, same⟩ := Option.map_eq_some_iff.mp newest
    have bound : turn.since ≤ state.changes :=
      (serialized.past turn (List.mem_of_mem_head? first)).since
    dsimp only at same
    omega

/-- A thread goes on without publishing. -/
theorem setThread {phase : RefreshPhase}
    (owned : phase.holdsLock = true → state.owner = some mover)
    (begun : ∀ turn, phase.turn = some turn →
      turn.Before state.nextTurn ∧
        ∀ earlier ∈ state.published, earlier.Before turn)
    (exact : phase.Exact state.host state.changes) :
    (state.setThread mover phase).Serialized where
  owner thread holds := by
    simp only [Refreshing.setThread, Function.update_apply] at holds
    split at holds
    · rename_i same
      rw [same]
      exact owned holds
    · exact serialized.owner thread holds
  begun thread turn started := by
    simp only [Refreshing.setThread, Function.update_apply] at started
    split at started
    · exact begun turn started
    · exact serialized.begun thread turn started
  exact thread := by
    simp only [Refreshing.setThread, Function.update_apply]
    split
    · exact exact
    · exact serialized.exact thread
  past := serialized.past
  ordered := serialized.ordered
  current := serialized.current

omit serialized in
/-- The numbers of the refreshes increase. -/
theorem before_taken (before : turn.Before state.nextTurn) :
    turn.Before (state.takeTurn mover).nextTurn :=
  ⟨Nat.lt_succ_of_lt before.number, before.since⟩

theorem lock (free : state.owner = none) :
    (state.takeTurn mover).Serialized where
  owner thread holds := by
    simp only [takeTurn, Refreshing.setThread, Function.update_apply]
      at holds
    split at holds
    · rename_i same
      rw [same]
      rfl
    · have owned := serialized.owner thread holds
      rw [free] at owned
      cases owned
  begun thread turn started := by
    simp only [takeTurn, Refreshing.setThread, Function.update_apply]
      at started
    split at started
    · cases started
      exact ⟨⟨Nat.lt_succ_self _, Nat.le_refl _⟩, serialized.past⟩
    · obtain ⟨bound, later⟩ := serialized.begun thread turn started
      exact ⟨before_taken bound, later⟩
  exact thread := by
    simp only [takeTurn, Refreshing.setThread, Function.update_apply]
    split
    · trivial
    · exact serialized.exact thread
  past turn member := before_taken (serialized.past turn member)
  ordered := serialized.ordered
  current := serialized.current

/-- The lock is released, whatever the refresh has come to. -/
theorem release (mine : (state.threads mover).holdsLock = true)
    (error : InterfaceError) : (state.abort mover error).Serialized where
  owner thread holds := by
    simp only [abort, Refreshing.setThread, Function.update_apply] at holds
    split at holds
    · cases holds
    · rename_i different
      rw [serialized.alone mine different] at holds
      cases holds
  begun thread turn started := by
    simp only [abort, Refreshing.setThread, Function.update_apply]
      at started
    split at started
    · cases started
    · exact serialized.begun thread turn started
  exact thread := by
    simp only [abort, Refreshing.setThread, Function.update_apply]
    split
    · trivial
    · exact serialized.exact thread
  past := serialized.past
  ordered := serialized.ordered
  current := serialized.current

theorem publish {processed : InterfaceMap}
    (stands : state.threads mover = .reading turn [] processed) :
    Serialized
      { state.setThread mover .published with
        store := { state.store with interfaces := processed }
        published := turn :: state.published } := by
  have mine : (state.threads mover).holdsLock = true := by
    rw [stands]
    rfl
  obtain ⟨bound, later⟩ := serialized.begun mover turn (by rw [stands]; rfl)
  have exact := serialized.exact mover
  rw [stands] at exact
  constructor
  case owner =>
    intro thread holds
    simp only [Refreshing.setThread, Function.update_apply] at holds
    split at holds
    · rename_i same
      rw [same]
      exact serialized.owner mover mine
    · exact serialized.owner thread holds
  case begun =>
    intro thread other started
    simp only [Refreshing.setThread, Function.update_apply] at started
    split at started
    · cases started
    · rename_i different
      have holds := RefreshPhase.holdsLock_of_turn started
      rw [serialized.alone mine different] at holds
      cases holds
  case exact =>
    intro thread
    simp only [Refreshing.setThread, Function.update_apply]
    split
    · trivial
    · exact serialized.exact thread
  case past =>
    intro other member
    rcases List.mem_cons.mp member with rfl | old
    · exact bound
    · exact serialized.past other old
  case ordered => exact .cons later serialized.ordered
  case current =>
    intro newest
    exact exact (Option.some.inj newest)

theorem step {label : RefreshingStep} {target : Refreshing}
    (moves : state.Moves label target) : target.Serialized := by
  cases moves with
  | change => exact serialized.change _
  | call stands =>
      exact serialized.setThread (fun holds => nomatch holds)
        (fun _ started => nomatch started) trivial
  | lock stands free => exact serialized.lock free
  | abort error stands =>
      apply serialized.release
      rw [stands]
      rfl
  | getifaddrs stands =>
      apply serialized.setThread
      · intro _
        apply serialized.owner
        rw [stands]
        rfl
      · rintro turn ⟨⟩
        apply serialized.begun
        rw [stands]
        rfl
      · exact fun _ => rfl
  | @readEntry thread turn mixture ifa rest processed stands =>
      apply serialized.setThread
      · intro _
        apply serialized.owner
        rw [stands]
        rfl
      · rintro turn ⟨⟩
        apply serialized.begun
        rw [stands]
        rfl
      · intro unchanged
        have exact := serialized.exact thread
        rw [stands] at exact
        rw [answers, if_pos unchanged]
        exact exact unchanged
  | publish stands => exact serialized.publish stands
  | finish stands =>
      apply serialized.release
      rw [stands]
      rfl

end Refreshing.Serialized

theorem refreshing_serialized {state : Refreshing}
    (reached : refreshingMachine.Reachable state) : state.Serialized := by
  apply reached.invariant
  · intro start begins
    exact .initial begins
  · intro before label after serialized stepped
    exact serialized.step (Refreshing.moves_of_step stepped)

/-- The name is one which the host lists, with this index. -/
def Host.Has (host : Host) (ifname : String) (ifindex : UInt32) : Prop :=
  Registered host.calls host.entries ifname ∧
    host.calls.ifNametoindex ifname = ifindex

/-- The queries answer as the host does.  Where several names have one index,
a query by index finds one of them. -/
structure Host.AnsweredBy (host : Host) (current : InterfaceMap) :
    Prop where
  ifindex : ∀ ifname,
    getIfindexByIfname current ifname =
      if Registered host.calls host.entries ifname then
        (host.calls.ifNametoindex ifname, .noError)
      else (0, .notExistIfNameError)
  ifinfo : ∀ ifname,
    getIfinfoByIfname current ifname =
      if Registered host.calls host.entries ifname then
        (some (interfaceRecord host.calls host.entries ifname), .noError)
      else (none, .notExistIfNameError)
  byIfindex : ∀ ifindex,
    (∃ ifname, host.Has ifname ifindex ∧
        getIfnameByIfindex current ifindex = (ifname, .noError) ∧
        getIfinfoByIfindex current ifindex =
          (some (interfaceRecord host.calls host.entries ifname),
            .noError)) ∨
      (¬∃ ifname, host.Has ifname ifindex) ∧
        getIfnameByIfindex current ifindex = ("", .notExistIfIndexError) ∧
        getIfinfoByIfindex current ifindex = (none, .notExistIfIndexError)

section Queries

variable {host : Host} {current : InterfaceMap}
  (describes : Describes host.calls host.entries current)
include describes

theorem find?_of_describes (ifname : String) :
    current.find? ifname =
      if Registered host.calls host.entries ifname then
        some (ifname, interfaceRecord host.calls host.entries ifname)
      else none := by
  split
  · rename_i registered
    apply Keyed.find?_eq_some_iff.mpr
    exact ⟨(describes ifname _).mpr ⟨registered, rfl⟩, rfl⟩
  · rename_i unregistered
    cases found : current.find? ifname with
    | none => rfl
    | some entry =>
        obtain ⟨member, named⟩ := Keyed.find?_eq_some_iff.mp found
        obtain ⟨name, info⟩ := entry
        cases named
        exact absurd ((describes name info).mp member).1 unregistered

theorem byIfindex_of_describes (ifindex : UInt32) :
    (∃ ifname, host.Has ifname ifindex ∧ findByIfindex current ifindex =
        some (ifname, interfaceRecord host.calls host.entries ifname)) ∨
      (¬∃ ifname, host.Has ifname ifindex) ∧
        findByIfindex current ifindex = none := by
  cases found : findByIfindex current ifindex with
  | some entry =>
      obtain ⟨name, info⟩ := entry
      have member : (name, info) ∈ current := List.mem_of_find?_eq_some found
      obtain ⟨registered, rfl⟩ := (describes name info).mp member
      have indexed := List.find?_some found
      exact .inl ⟨name, ⟨registered, beq_iff_eq.mp indexed⟩, rfl⟩
  | none =>
      refine .inr ⟨?_, rfl⟩
      rintro ⟨name, registered, indexed⟩
      have member := (describes name _).mpr ⟨registered, rfl⟩
      exact List.find?_eq_none.mp found _ member (beq_iff_eq.mpr indexed)

theorem answeredBy_of_describes : host.AnsweredBy current where
  ifindex ifname := by
    simp only [getIfindexByIfname, find?_of_describes describes]
    split
    · rfl
    · rfl
  ifinfo ifname := by
    simp only [getIfinfoByIfname, find?_of_describes describes]
    split
    · rfl
    · rfl
  byIfindex ifindex := by
    simp only [getIfnameByIfindex, getIfinfoByIfindex]
    rcases byIfindex_of_describes describes ifindex with
      ⟨ifname, has, found⟩ | ⟨missing, none⟩
    · rw [found]
      exact .inl ⟨ifname, has, rfl, rfl⟩
    · rw [none]
      exact .inr ⟨missing, rfl, rfl⟩

end Queries

/-- Over every interleaving of refreshes and changes of the host: snapshots
are published in the order in which their refreshes took `refresh_mutex_`, and
once a refresh which took it after the last change has published, every query
answers as the host does.  No refresh which began before the change undoes
this. -/
theorem refreshes_serialized {state : Refreshing}
    (reached : refreshingMachine.Reachable state) :
    (state.published.Pairwise fun newer older =>
        older.number < newer.number ∧ older.since ≤ newer.since) ∧
      (NumericAddresses state.host.calls →
        (∃ turn ∈ state.published, turn.since = state.changes) →
        state.host.AnsweredBy state.store.interfaces) := by
  have serialized := refreshing_serialized reached
  refine ⟨serialized.ordered.imp fun before =>
    ⟨before.number, before.since⟩, ?_⟩
  rintro numeric ⟨turn, member, fresh⟩
  have newest : state.published.head?.map Turn.since =
      some state.changes := by
    cases published : state.published with
    | nil =>
        rw [published] at member
        cases member
    | cons newest older =>
        have ordered := serialized.ordered
        have past := serialized.past
        rw [published] at member ordered past
        have bound : newest.since ≤ state.changes :=
          (past newest List.mem_cons_self).since
        rcases List.mem_cons.mp member with same | member
        · rw [← fresh, same]
          rfl
        · have above := (List.rel_of_pairwise_cons ordered member).since
          exact congrArg some (Nat.le_antisymm bound (fresh ▸ above))
  rw [serialized.current newest]
  exact answeredBy_of_describes
    (processEntries_describes numeric state.host.entries)

def cardHost (entries : List IfAddrs) : Host where
  calls := oneCardSystem
  entries := entries

def cardLoader : Refreshing where
  host := cardHost [linkEntry]
  changes := 0
  store := ⟨Keyed.empty, .noError, true⟩
  owner := none
  threads _ := .idle
  turns := 0
  published := []

/-- The interface gets its address during the first of two refreshes. -/
def overtakenRefresh : List RefreshingStep :=
  [.call 0, .call 1, .lock 0, .getifaddrs 0 false,
    .change (cardHost [linkEntry, inetEntry 1]), .readEntry 0 oneCardSystem,
    .publish 0, .finish 0, .lock 1, .getifaddrs 1 false,
    .readEntry 1 oneCardSystem, .readEntry 1 oneCardSystem, .publish 1]

theorem overtakenRefresh_enabled :
    (refreshingMachine.runWhere (fun _ _ => True) cardLoader
      overtakenRefresh).isSome = true := by
  decide +kernel

def refreshedLoader : Refreshing :=
  refreshingMachine.finish cardLoader overtakenRefresh
    overtakenRefresh_enabled

theorem cardLoader_initial : refreshingMachine.initial cardLoader where
  owner := rfl
  threads _ := rfl
  published := rfl

theorem refreshes_serialized_overtaken :
    refreshedLoader.published = [⟨1, 1⟩, ⟨0, 0⟩] ∧
      refreshedLoader.host.AnsweredBy refreshedLoader.store.interfaces := by
  have reached : refreshingMachine.Reachable refreshedLoader :=
    Machine.reachable_finish cardLoader_initial overtakenRefresh_enabled
  have published : refreshedLoader.published = [⟨1, 1⟩, ⟨0, 0⟩] := by
    decide +kernel
  have changes : refreshedLoader.changes = 1 := by
    decide +kernel
  refine ⟨published, (refreshes_serialized reached).2 ?_ ?_⟩
  · exact oneCardSystem_numeric
  · rw [published, changes]
    exact ⟨⟨1, 1⟩, List.mem_cons_self, rfl⟩

end LibbpfControl.NicCheck
