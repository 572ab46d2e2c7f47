import Mathlib.Logic.Function.Basic

namespace StrManager.Library

open Function

/-! A keyed store of values and an index that finds the key of a value from
the value's address, with a reserved key for the addresses of no value. -/

namespace Index

variable {κ : Type u} {α : Type v} {β : Type w} [DecidableEq κ] [DecidableEq β]

def Sound (reserved : κ) (address : α → β)
    (values : κ → Option α) (index : β → κ) : Prop :=
  ∀ place, index place ≠ reserved →
    ∃ value, values (index place) = some value ∧ address value = place

def Complete (reserved : κ) (address : α → β)
    (values : κ → Option α) (index : β → κ) : Prop :=
  ∀ key value, key ≠ reserved → values key = some value →
    index (address value) = key

structure Agree (reserved : κ) (address : α → β)
    (values : κ → Option α) (index : β → κ) : Prop where
  sound : Sound reserved address values index
  complete : Complete reserved address values index

variable {reserved : κ} {address : α → β}
  {values : κ → Option α} {index : β → κ}

omit [DecidableEq κ] [DecidableEq β] in
theorem Complete.injective (complete : Complete reserved address values index)
    {first second : κ} {firstValue secondValue : α}
    (firstKey : first ≠ reserved) (secondKey : second ≠ reserved)
    (firstFound : values first = some firstValue)
    (secondFound : values second = some secondValue)
    (same : address firstValue = address secondValue) : first = second := by
  have firstIndexed := complete first firstValue firstKey firstFound
  have secondIndexed := complete second secondValue secondKey secondFound
  rw [← firstIndexed, ← secondIndexed, same]

theorem Sound.insert (sound : Sound reserved address values index)
    {key : κ} (value : α) (fresh : values key = none) :
    Sound reserved address (update values key (some value))
      (update index (address value) key) := by
  intro place indexed
  by_cases here : place = address value
  · subst here
    exact ⟨value, by simp⟩
  · rw [update_of_ne here] at indexed ⊢
    obtain ⟨stored, found, atPlace⟩ := sound place indexed
    have otherKey : index place ≠ key := by
      intro equal
      rw [equal, fresh] at found
      cases found
    exact ⟨stored, by rw [update_of_ne otherKey, found], atPlace⟩

theorem Complete.insert (complete : Complete reserved address values index)
    {key : κ} {value : α} (free : index (address value) = reserved) :
    Complete reserved address (update values key (some value))
      (update index (address value) key) := by
  intro other stored valid found
  by_cases same : other = key
  · subst other
    rw [update_self] at found
    cases found
    simp
  · rw [update_of_ne same] at found
    have indexed := complete other stored valid found
    have elsewhere : address stored ≠ address value := by
      intro equal
      rw [equal, free] at indexed
      exact valid indexed.symm
    rw [update_of_ne elsewhere, indexed]

omit [DecidableEq β] in
theorem Sound.modify (sound : Sound reserved address values index)
    {key : κ} {old new : α} (found : values key = some old)
    (same : address new = address old) :
    Sound reserved address (update values key (some new)) index := by
  intro place indexed
  obtain ⟨stored, storedFound, atPlace⟩ := sound place indexed
  by_cases here : index place = key
  · rw [here, found] at storedFound
    cases storedFound
    exact ⟨new, by rw [here, update_self], same.trans atPlace⟩
  · exact ⟨stored, by rw [update_of_ne here, storedFound], atPlace⟩

omit [DecidableEq β] in
theorem Complete.modify (complete : Complete reserved address values index)
    {key : κ} {old new : α} (found : values key = some old)
    (same : address new = address old) :
    Complete reserved address (update values key (some new)) index := by
  intro other stored valid storedFound
  by_cases here : other = key
  · subst other
    rw [update_self] at storedFound
    cases storedFound
    rw [same]
    exact complete key old valid found
  · rw [update_of_ne here] at storedFound
    exact complete other stored valid storedFound

omit [DecidableEq κ] in
theorem Sound.reindex (sound : Sound reserved address values index)
    {key : κ} {value : α} (found : values key = some value) :
    Sound reserved address values (update index (address value) key) := by
  intro place indexed
  by_cases here : place = address value
  · subst here
    exact ⟨value, by simpa using found, rfl⟩
  · rw [update_of_ne here] at indexed ⊢
    exact sound place indexed

omit [DecidableEq κ] in
theorem Complete.reindex (complete : Complete reserved address values index)
    {key : κ} {value : α} (valid : key ≠ reserved)
    (found : values key = some value) :
    Complete reserved address values (update index (address value) key) := by
  have indexed := complete key value valid found
  have unchanged : update index (address value) key = index := by
    rw [← indexed, update_eq_self]
  rw [unchanged]
  exact complete

theorem Sound.remove (sound : Sound reserved address values index)
    {key : κ} {value : α} (found : values key = some value) :
    Sound reserved address (update values key none)
      (update index (address value) reserved) := by
  intro place indexed
  by_cases here : place = address value
  · subst here
    exact absurd (update_self (address value) reserved index) indexed
  · rw [update_of_ne here] at indexed ⊢
    obtain ⟨stored, storedFound, atPlace⟩ := sound place indexed
    have otherKey : index place ≠ key := by
      intro equal
      rw [equal, found] at storedFound
      cases storedFound
      exact here atPlace.symm
    exact ⟨stored, by rw [update_of_ne otherKey, storedFound], atPlace⟩

theorem Complete.remove (complete : Complete reserved address values index)
    {key : κ} {value : α} (valid : key ≠ reserved)
    (found : values key = some value) :
    Complete reserved address (update values key none)
      (update index (address value) reserved) := by
  intro other stored otherValid storedFound
  by_cases here : other = key
  · subst other
    simp at storedFound
  · rw [update_of_ne here] at storedFound
    have elsewhere : address stored ≠ address value := by
      intro equal
      exact here (complete.injective otherValid valid storedFound found equal)
    rw [update_of_ne elsewhere]
    exact complete other stored otherValid storedFound

omit [DecidableEq β] in
/-- The value under the reserved key does not matter. -/
theorem Complete.setReserved (complete : Complete reserved address values index)
    (value : Option α) :
    Complete reserved address (update values reserved value) index := by
  intro key stored valid found
  rw [update_of_ne valid] at found
  exact complete key stored valid found

omit [DecidableEq κ] in
theorem Complete.setUnused (complete : Complete reserved address values index)
    {place : β} (unused : ∀ key value, key ≠ reserved →
      values key = some value → address value ≠ place) (key : κ) :
    Complete reserved address values (update index place key) := by
  intro other stored valid found
  rw [update_of_ne (unused other stored valid found)]
  exact complete other stored valid found

theorem Agree.insert (agree : Agree reserved address values index)
    {key : κ} {value : α} (fresh : values key = none)
    (free : index (address value) = reserved) :
    Agree reserved address (update values key (some value))
      (update index (address value) key) where
  sound := agree.sound.insert value fresh
  complete := agree.complete.insert free

omit [DecidableEq β] in
theorem Agree.modify (agree : Agree reserved address values index)
    {key : κ} {old new : α} (found : values key = some old)
    (same : address new = address old) :
    Agree reserved address (update values key (some new)) index where
  sound := agree.sound.modify found same
  complete := agree.complete.modify found same

omit [DecidableEq κ] in
theorem Agree.reindex (agree : Agree reserved address values index)
    {key : κ} {value : α} (valid : key ≠ reserved)
    (found : values key = some value) :
    Agree reserved address values (update index (address value) key) where
  sound := agree.sound.reindex found
  complete := agree.complete.reindex valid found

theorem Agree.remove (agree : Agree reserved address values index)
    {key : κ} {value : α} (valid : key ≠ reserved)
    (found : values key = some value) :
    Agree reserved address (update values key none)
      (update index (address value) reserved) where
  sound := agree.sound.remove found
  complete := agree.complete.remove valid found

end Index

end StrManager.Library
