import Mathlib.Data.Finset.Card
import LibbpfControl.BpfControl.Wrapper

/-!
# Clearing a map

`clear()` asks for the first key and deletes it until there is none.  Between
the two calls another party may remove the key, and the deletion then fails:
`get_next_key` tells a missing entry from other errors, `delete_entry` does
not.  Where the chosen key is left alone, every round makes the map smaller
and the map is empty in the end, whatever else is removed meanwhile.
-/

namespace LibbpfControl.BpfControl

section Clear

variable {Key : Type}

def eNOENT : Int := 2

/-- What `bpf_map_get_next_key` answers to a null key. -/
inductive NextKeyAnswer (Key : Type) where
  | key (key : Key)
  | error (errno : Int)
  deriving DecidableEq, Repr

def Wrapper.getNextKey (wrapper : Wrapper) (nextKeyIsNull : Bool)
    (answer : NextKeyAnswer Key) : BpfControlErrorCode :=
  if !wrapper.isOpen then .notOpenedError
  else if nextKeyIsNull then .getNextKeyInvalidError
  else
    match answer with
    | .error errno =>
        if errno = eNOENT then .getNextKeyNotFoundError
        else .getNextKeyError
    | .key _ => .noError

/-- The kernel's side of a deletion: the entries and the return value. -/
def bpfMapDeleteElem [DecidableEq Key] (entries : Finset Key) (key : Key) :
    Finset Key × Int :=
  if key ∈ entries then (entries.erase key, 0) else (entries, -eNOENT)

def Wrapper.deleteEntry (wrapper : Wrapper) (rc : Int) :
    BpfControlErrorCode :=
  if !wrapper.isOpen then .notOpenedError
  else if rc < 0 then .deleteError
  else .noError

inductive ClearPoint (Key : Type) where
  | gettingKey
  | deleting (key : Key)
  | returned (code : BpfControlErrorCode)
  deriving DecidableEq

/-- `initially` and `calls` record what the map held when `clear()` was
called and how many calls it has made. -/
structure ClearState (Key : Type) where
  wrapper : Wrapper
  entries : Finset Key
  point : ClearPoint Key
  initially : Finset Key
  calls : Nat

inductive ClearStep (Key : Type) where
  | getNextKey (answer : NextKeyAnswer Key)
  | deleteEntry
  /-- A program, an eviction or another process removes an entry. -/
  | remove (key : Key)
  deriving DecidableEq

namespace ClearState

def start (wrapper : Wrapper) (entries : Finset Key) : ClearState Key where
  wrapper := wrapper
  entries := entries
  point :=
    if wrapper.isOpen then .gettingKey else .returned .notOpenedError
  initially := entries
  calls := 0

/-- The calls which `clear()` still makes at most. -/
def remaining (state : ClearState Key) : Nat :=
  match state.point with
  | .gettingKey => 2 * state.entries.card + 1
  | .deleting _ => 2 * state.entries.card
  | .returned _ => 0

structure Progresses (state : ClearState Key) : Prop where
  opened : state.wrapper.isOpen = true
  chosen : ∀ key, state.point = .deleting key → key ∈ state.entries
  ended : ∀ code, state.point = .returned code →
    code = .noError ∧ state.entries = ∅
  bounded : state.calls + state.remaining ≤ 2 * state.initially.card + 1

theorem progresses_start {wrapper : Wrapper} (entries : Finset Key)
    (opened : wrapper.isOpen = true) :
    (start wrapper entries).Progresses where
  opened := opened
  chosen := by
    intro key deleting
    simp [start, opened] at deleting
  ended := by
    intro code returned
    simp [start, opened] at returned
  bounded := by
    simp [start, remaining, opened]

variable [DecidableEq Key]

/-- The kernel returns some present key, or `ENOENT` for an empty map. -/
def enabled (state : ClearState Key) : ClearStep Key → Bool
  | .getNextKey (.key key) =>
      decide (state.point = .gettingKey ∧ key ∈ state.entries)
  | .getNextKey (.error errno) =>
      decide (state.point = .gettingKey ∧ errno = eNOENT ∧
        state.entries = ∅)
  | .deleteEntry =>
      match state.point with
      | .deleting _ => true
      | _ => false
  | .remove key => decide (key ∈ state.entries)

/-- Where the loop goes with the code of `get_next_key`.  The buffer for the
key is not null: the keys of a deletable map have at least one byte. -/
def afterKey (wrapper : Wrapper) (answer : NextKeyAnswer Key) :
    ClearPoint Key :=
  match wrapper.getNextKey false answer, answer with
  | .getNextKeyNotFoundError, _ => .returned .noError
  | .noError, .key key => .deleting key
  | code, _ => .returned code

/-- Where the loop goes with the code of `delete_entry`. -/
def afterDelete (wrapper : Wrapper) (rc : Int) : ClearPoint Key :=
  match wrapper.deleteEntry rc with
  | .noError => .gettingKey
  | code => .returned code

def apply (state : ClearState Key) : ClearStep Key → ClearState Key
  | .getNextKey answer =>
      { state with
        point := afterKey state.wrapper answer
        calls := state.calls + 1 }
  | .deleteEntry =>
      match state.point with
      | .deleting key =>
          let deleted := bpfMapDeleteElem state.entries key
          { state with
            entries := deleted.1
            point := afterDelete state.wrapper deleted.2
            calls := state.calls + 1 }
      | _ => state
  | .remove key => { state with entries := state.entries.erase key }

end ClearState

variable [DecidableEq Key]

def clearMachine (Key : Type) [DecidableEq Key] :
    Machine (ClearState Key) (ClearStep Key) :=
  .guarded
    (fun state => ∃ wrapper entries,
      wrapper.isOpen = true ∧ state = .start wrapper entries)
    ClearState.enabled ClearState.apply

theorem clearMachine_initial {wrapper : Wrapper} (entries : Finset Key)
    (opened : wrapper.isOpen = true) :
    (clearMachine Key).initial (.start wrapper entries) :=
  ⟨wrapper, entries, opened, rfl⟩

namespace ClearState

variable {state : ClearState Key} {label : ClearStep Key}

/-- No other party removes the key which `clear()` is about to delete. -/
def keepsChosen (state : ClearState Key) : ClearStep Key → Bool
  | .remove key => decide (state.point ≠ .deleting key)
  | _ => true

theorem apply_key {key : Key} (opened : state.wrapper.isOpen = true) :
    state.apply (.getNextKey (.key key)) =
      { state with point := .deleting key, calls := state.calls + 1 } := by
  simp [apply, afterKey, Wrapper.getNextKey, opened]

theorem apply_notFound (opened : state.wrapper.isOpen = true) :
    state.apply (.getNextKey (.error eNOENT)) =
      { state with
        point := .returned .noError
        calls := state.calls + 1 } := by
  simp [apply, afterKey, Wrapper.getNextKey, opened]

theorem apply_deleteEntry {key : Key} (opened : state.wrapper.isOpen = true)
    (deleting : state.point = .deleting key)
    (present : key ∈ state.entries) :
    state.apply .deleteEntry =
      { state with
        entries := state.entries.erase key
        point := .gettingKey
        calls := state.calls + 1 } := by
  simp [apply, deleting, bpfMapDeleteElem, present, afterDelete,
    Wrapper.deleteEntry, opened]

theorem progresses_key {key : Key} (progresses : state.Progresses)
    (getting : state.point = .gettingKey) (present : key ∈ state.entries) :
    (state.apply (.getNextKey (.key key))).Progresses := by
  have bounded := progresses.bounded
  simp only [remaining, getting] at bounded
  rw [apply_key progresses.opened]
  refine ⟨progresses.opened, ?_, ?_, ?_⟩
  · intro other deleting
    cases deleting
    exact present
  · intro code returned
    cases returned
  · simp only [remaining]
    omega

theorem progresses_notFound (progresses : state.Progresses)
    (getting : state.point = .gettingKey) (empty : state.entries = ∅) :
    (state.apply (.getNextKey (.error eNOENT))).Progresses := by
  have bounded := progresses.bounded
  simp only [remaining, getting] at bounded
  rw [apply_notFound progresses.opened]
  refine ⟨progresses.opened, ?_, ?_, ?_⟩
  · intro key deleting
    cases deleting
  · intro code returned
    cases returned
    exact ⟨rfl, empty⟩
  · simp only [remaining]
    omega

theorem progresses_deleteEntry {key : Key} (progresses : state.Progresses)
    (deleting : state.point = .deleting key) :
    (state.apply .deleteEntry).Progresses := by
  have present := progresses.chosen key deleting
  have smaller := Finset.card_erase_add_one present
  have bounded := progresses.bounded
  simp only [remaining, deleting] at bounded
  rw [apply_deleteEntry progresses.opened deleting present]
  refine ⟨progresses.opened, ?_, ?_, ?_⟩
  · intro other chosen
    cases chosen
  · intro code returned
    cases returned
  · simp only [remaining]
    omega

theorem remaining_remove (key : Key) :
    (state.apply (.remove key)).remaining ≤ state.remaining := by
  have fewer : (state.entries.erase key).card ≤ state.entries.card :=
    Finset.card_erase_le
  cases point : state.point with
  | gettingKey =>
      simp only [apply, remaining, point]
      omega
  | deleting chosen =>
      simp only [apply, remaining, point]
      omega
  | returned code => simp only [apply, remaining, point, Nat.le_refl]

theorem progresses_remove {key : Key} (progresses : state.Progresses)
    (apart : state.keepsChosen (.remove key) = true) :
    (state.apply (.remove key)).Progresses where
  opened := progresses.opened
  chosen := by
    intro chosen deleting
    have different : chosen ≠ key := by
      rintro rfl
      exact of_decide_eq_true apart deleting
    exact Finset.mem_erase.mpr ⟨different, progresses.chosen chosen deleting⟩
  ended := by
    intro code returned
    obtain ⟨noError, empty⟩ := progresses.ended code returned
    exact ⟨noError, by simp [apply, empty]⟩
  bounded :=
    Nat.le_trans (Nat.add_le_add_left (remaining_remove key) _)
      progresses.bounded

theorem progresses_step (progresses : state.Progresses)
    (apart : state.keepsChosen label = true)
    (isEnabled : state.enabled label = true) :
    (state.apply label).Progresses := by
  cases label with
  | getNextKey answer =>
      cases answer with
      | key key =>
          obtain ⟨getting, present⟩ := of_decide_eq_true isEnabled
          exact progresses_key progresses getting present
      | error errno =>
          obtain ⟨getting, rfl, empty⟩ := of_decide_eq_true isEnabled
          exact progresses_notFound progresses getting empty
  | deleteEntry =>
      cases point : state.point with
      | gettingKey => simp [enabled, point] at isEnabled
      | deleting key => exact progresses_deleteEntry progresses point
      | returned code => simp [enabled, point] at isEnabled
  | remove key => exact progresses_remove progresses apart

theorem progresses_reachable
    (reached : (clearMachine Key).ReachableWhere
      (fun state label => state.keepsChosen label = true) state) :
    state.Progresses := by
  refine reached.invariant ?_ ?_
  · rintro _ ⟨wrapper, entries, opened, rfl⟩
    exact progresses_start entries opened
  · intro state label target progresses apart stepped
    obtain ⟨isEnabled, rfl⟩ := Machine.enabled_of_guarded stepped
    exact progresses_step progresses apart isEnabled

/-- `clear()` is never stuck before it has returned. -/
theorem call_enabled
    (running : ∀ code, state.point ≠ .returned code) :
    (∃ answer, state.enabled (.getNextKey answer) = true) ∨
      state.enabled .deleteEntry = true := by
  cases point : state.point with
  | gettingKey =>
      left
      rcases state.entries.eq_empty_or_nonempty with empty | ⟨key, present⟩
      · exact ⟨.error eNOENT, decide_eq_true ⟨point, rfl, empty⟩⟩
      · exact ⟨.key key, decide_eq_true ⟨point, present⟩⟩
  | deleting key =>
      right
      simp [enabled, point]
  | returned code => exact absurd point (running code)

end ClearState

/-- While no other party removes the key which `clear()` is about to delete,
it makes at most two calls for an entry and one more, returns success, and
leaves no entry. -/
theorem clear_empties {state : ClearState Key}
    (reached : (clearMachine Key).ReachableWhere
      (fun state label => state.keepsChosen label = true) state) :
    (∀ code, state.point = .returned code →
        code = .noError ∧ state.entries = ∅) ∧
      state.calls ≤ 2 * state.initially.card + 1 ∧
      ((∀ code, state.point ≠ .returned code) →
        (∃ answer, state.enabled (.getNextKey answer) = true) ∨
          state.enabled .deleteEntry = true) := by
  have progresses := ClearState.progresses_reachable reached
  refine ⟨progresses.ended, ?_, ClearState.call_enabled⟩
  exact Nat.le_trans (Nat.le_add_right _ _) progresses.bounded

end Clear

def openedMap : Wrapper :=
  { Wrapper.construct (.map 4 8 16 1) [109] with fd := 3 }

/-- Another process removes the entries which are not chosen. -/
def removedApart : List (ClearStep Nat) :=
  [.getNextKey (.key 1), .remove 2, .deleteEntry, .remove 3,
    .getNextKey (.error eNOENT)]

theorem removedApart_enabled :
    ((clearMachine Nat).runWhere
      (fun state label => state.keepsChosen label = true)
      (.start openedMap {1, 2, 3}) removedApart).isSome = true := by
  decide

def clearedState : ClearState Nat :=
  (clearMachine Nat).finishWhere _ (.start openedMap {1, 2, 3}) removedApart
    removedApart_enabled

theorem clear_empties_apart :
    clearedState.point = .returned .noError ∧ clearedState.entries = ∅ ∧
      clearedState.calls ≤ 7 := by
  have returned : clearedState.point = .returned .noError := by decide
  obtain ⟨ended, bounded, _⟩ := clear_empties
    (Machine.ReachableWhere.finishWhere (fun _ _ allowed => allowed)
      (.initial (clearMachine_initial {1, 2, 3} rfl)) removedApart_enabled)
  exact ⟨returned, (ended _ returned).2, bounded⟩

/-- A program removes the entry between the two calls. -/
def removedChosen : List (ClearStep Nat) :=
  [.getNextKey (.key 1), .remove 1, .deleteEntry]

theorem removedChosen_enabled :
    ((clearMachine Nat).runWhere (fun _ _ => True)
      (.start openedMap {1, 2}) removedChosen).isSome = true := by
  decide

def abandonedState : ClearState Nat :=
  (clearMachine Nat).finish (.start openedMap {1, 2}) removedChosen
    removedChosen_enabled

/-- `clear()` returns an error and the other entry stays. -/
theorem clear_abandoned :
    (clearMachine Nat).Reachable abandonedState ∧
      abandonedState.point = .returned .deleteError ∧
      abandonedState.entries = {2} :=
  ⟨Machine.reachable_finish (clearMachine_initial {1, 2} rfl)
    removedChosen_enabled, by decide, by decide⟩

end LibbpfControl.BpfControl
