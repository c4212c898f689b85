import Mathlib.Data.List.Nodup

/-!
# Hash containers with one item for each key

An unordered map or set is the list of its items in the order in which the
container is iterated.  No two items share a key; the order itself is never
specified by the container, and results about it quantify over permutations.
-/

namespace LibbpfControl

/-- A container whose items have pairwise different keys. -/
structure Keyed {α κ : Type} (key : α → κ) where
  items : List α
  distinct : (items.map key).Nodup

namespace Keyed

variable {α κ : Type} {key : α → κ}

instance : Membership α (Keyed key) :=
  ⟨fun container item => item ∈ container.items⟩

theorem mem_def {container : Keyed key} {item : α} :
    item ∈ container ↔ item ∈ container.items := Iff.rfl

theorem eq_of_mem {container : Keyed key} {left right : α}
    (leftMember : left ∈ container) (rightMember : right ∈ container)
    (sameKey : key left = key right) : left = right :=
  List.inj_on_of_nodup_map container.distinct leftMember rightMember sameKey

def empty : Keyed key := ⟨[], List.nodup_nil⟩

/-- Keep the items which satisfy a test. -/
def filter (keep : α → Bool) (container : Keyed key) : Keyed key where
  items := container.items.filter keep
  distinct := container.distinct.sublist
    (List.filter_sublist.map key)

@[simp] theorem mem_filter {keep : α → Bool} {container : Keyed key}
    {item : α} :
    item ∈ container.filter keep ↔ item ∈ container ∧ keep item = true :=
  List.mem_filter

theorem filter_eq_self {keep : α → Bool} {container : Keyed key}
    (all : ∀ item ∈ container, keep item = true) :
    container.filter keep = container := by
  obtain ⟨items, distinct⟩ := container
  have sameItems : items.filter keep = items := List.filter_eq_self.mpr all
  simp only [Keyed.filter, sameItems]

/-- The same container iterated in another order. -/
def reorder (container : Keyed key) (order : List α)
    (permuted : order.Perm container.items) : Keyed key where
  items := order
  distinct := (permuted.map key).nodup_iff.mpr container.distinct

variable [DecidableEq κ]

def find? (container : Keyed key) (wanted : κ) : Option α :=
  container.items.find? fun item => decide (key item = wanted)

theorem find?_eq_some_iff {container : Keyed key} {wanted : κ} {item : α} :
    container.find? wanted = some item ↔
      item ∈ container ∧ key item = wanted := by
  constructor
  · intro found
    have matched := List.find?_some found
    exact ⟨List.mem_of_find?_eq_some found, by simpa using matched⟩
  · rintro ⟨member, matched⟩
    cases found : container.find? wanted with
    | none =>
        have absent := List.find?_eq_none.mp found item member
        simp [matched] at absent
    | some other =>
        have otherMatched : key other = wanted := by
          simpa using List.find?_some found
        have otherMember : other ∈ container :=
          List.mem_of_find?_eq_some found
        rw [eq_of_mem otherMember member (otherMatched.trans matched.symm)]

theorem find?_eq_none_iff {container : Keyed key} {wanted : κ} :
    container.find? wanted = none ↔
      ∀ item ∈ container, key item ≠ wanted := by
  simp [Keyed.find?, mem_def]

/-- Insertion does nothing when the key is already present. -/
def insert (item : α) (container : Keyed key) : Keyed key :=
  match found : container.find? (key item) with
  | some _ => container
  | none =>
      { items := item :: container.items
        distinct := by
          rw [List.map_cons, List.nodup_cons]
          refine ⟨?_, container.distinct⟩
          intro member
          obtain ⟨other, otherMember, same⟩ := List.mem_map.mp member
          exact find?_eq_none_iff.mp found other otherMember same }

theorem mem_insert_of_absent {item other : α} {container : Keyed key}
    (absent : container.find? (key item) = none) :
    other ∈ container.insert item ↔ other = item ∨ other ∈ container := by
  unfold Keyed.insert
  split
  · rename_i found
    rw [absent] at found
    cases found
  · simp [mem_def]

/-- Remove the item with the given key. -/
def erase (wanted : κ) (container : Keyed key) : Keyed key :=
  container.filter fun item => decide (key item ≠ wanted)

@[simp] theorem mem_erase {wanted : κ} {container : Keyed key} {item : α} :
    item ∈ container.erase wanted ↔
      item ∈ container ∧ key item ≠ wanted := by
  simp [Keyed.erase]

/-- Change the item with the given key in place, leaving its key. -/
def modify (wanted : κ) (change : α → α)
    (keepsKey : ∀ item, key (change item) = key item)
    (container : Keyed key) : Keyed key where
  items := container.items.map fun item =>
    if key item = wanted then change item else item
  distinct := by
    have sameKeys : (container.items.map fun item =>
        if key item = wanted then change item else item).map key =
          container.items.map key := by
      rw [List.map_map]
      apply List.map_congr_left
      intro item _
      by_cases same : key item = wanted <;> simp [same, keepsKey]
    rw [sameKeys]
    exact container.distinct

theorem mem_modify {wanted : κ} {change : α → α}
    {keepsKey : ∀ item, key (change item) = key item}
    {container : Keyed key} {item : α} :
    item ∈ container.modify wanted change keepsKey ↔
      ∃ old ∈ container,
        item = if key old = wanted then change old else old := by
  simp [Keyed.modify, mem_def, eq_comm]

end Keyed

end LibbpfControl
