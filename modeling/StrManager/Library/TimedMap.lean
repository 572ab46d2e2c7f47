import Mathlib.Data.List.Nodup
import Mathlib.Logic.Function.Basic

namespace StrManager.Library

open Function

/-! Maps that remember when each key was inserted, and the lists that hold the
values of such a map in the order of insertion. -/

/-- The time at which a key was inserted, and its value. -/
abbrev TimedMap (κ : Type u) (ν : Type v) := κ → Option (Nat × ν)

namespace TimedMap

variable {κ : Type u} {ν : Type v}

def empty : TimedMap κ ν := fun _ => none

def Before (map : TimedMap κ ν) (now : Nat) : Prop :=
  ∀ key time value, map key = some (time, value) → time < now

theorem Before.empty (now : Nat) : (empty : TimedMap κ ν).Before now := by
  intro key time value entry
  cases entry

theorem Before.later {map : TimedMap κ ν} {now : Nat} (before : map.Before now) :
    map.Before (now + 1) :=
  fun key time value entry => Nat.lt_succ_of_lt (before key time value entry)

section Writes

variable [DecidableEq κ]

/-- A key in use keeps its time and its value. -/
def insert (map : TimedMap κ ν) (now : Nat) (key : κ) (value : ν) :
    TimedMap κ ν :=
  if (map key).isSome then map else update map key (some (now, value))

def erase (map : TimedMap κ ν) (key : κ) : TimedMap κ ν := update map key none

theorem insert_of_isSome {map : TimedMap κ ν} {key : κ} (now : Nat) (value : ν)
    (used : (map key).isSome = true) : map.insert now key value = map :=
  if_pos used

theorem insert_of_none {map : TimedMap κ ν} {key : κ} (now : Nat) (value : ν)
    (free : map key = none) :
    map.insert now key value = update map key (some (now, value)) := by
  simp [insert, free]

theorem Before.insert {map : TimedMap κ ν} {now : Nat} (before : map.Before now)
    (key : κ) (value : ν) : (map.insert now key value).Before (now + 1) := by
  cases entry : map key with
  | some stored =>
      rw [insert_of_isSome now value (by rw [entry]; rfl)]
      exact before.later
  | none =>
      rw [insert_of_none now value entry]
      intro other time stored found
      rw [update_apply] at found
      split at found
      · cases found
        exact Nat.lt_succ_self now
      · exact before.later other time stored found

theorem Before.erase {map : TimedMap κ ν} {now : Nat} (before : map.Before now)
    (key : κ) : (map.erase key).Before now := by
  intro other time stored found
  unfold TimedMap.erase at found
  rw [update_apply] at found
  split at found
  · cases found
  · exact before other time stored found

end Writes

/-- The list holds the values of the map, the earliest first. -/
structure Listed (map : TimedMap κ ν) (keyOf : ν → κ) (list : List ν) : Prop where
  keyed : ∀ key time value, map key = some (time, value) → keyOf value = key
  mem : ∀ value, value ∈ list ↔ ∃ time, map (keyOf value) = some (time, value)
  ordered : list.Pairwise fun first second => ∀ time time2,
    map (keyOf first) = some (time, first) →
    map (keyOf second) = some (time2, second) → time < time2

namespace Listed

variable {map : TimedMap κ ν} {keyOf : ν → κ} {list : List ν}

theorem nil : (empty : TimedMap κ ν).Listed keyOf [] where
  keyed := by
    intro key time value entry
    cases entry
  mem := by
    intro value
    simp [empty]
  ordered := .nil

/-- Two values of one key would have been inserted at one time. -/
theorem nodup (listed : map.Listed keyOf list) : (list.map keyOf).Nodup := by
  rw [List.Nodup, List.pairwise_map]
  refine listed.ordered.imp_of_mem ?_
  intro first second firstMember secondMember earlier sameKey
  obtain ⟨time, entry⟩ := (listed.mem first).mp firstMember
  obtain ⟨time2, entry2⟩ := (listed.mem second).mp secondMember
  have ahead := earlier time time2 entry entry2
  rw [sameKey, entry2] at entry
  cases entry
  exact Nat.lt_irrefl _ ahead

theorem mem_keys_iff (listed : map.Listed keyOf list) (key : κ) :
    key ∈ list.map keyOf ↔ (map key).isSome = true := by
  rw [List.mem_map]
  constructor
  · rintro ⟨value, member, rfl⟩
    obtain ⟨time, entry⟩ := (listed.mem value).mp member
    rw [entry]
    rfl
  · intro used
    obtain ⟨⟨time, value⟩, entry⟩ := Option.isSome_iff_exists.mp used
    have sameKey := listed.keyed key time value entry
    refine ⟨value, (listed.mem value).mpr ⟨time, ?_⟩, sameKey⟩
    rw [sameKey]
    exact entry

theorem unique {other : List ν} (listed : map.Listed keyOf list)
    (otherListed : map.Listed keyOf other) : list = other := by
  have same : list.Perm other := by
    rw [List.perm_ext_iff_of_nodup (List.Nodup.of_map keyOf listed.nodup)
      (List.Nodup.of_map keyOf otherListed.nodup)]
    intro value
    rw [listed.mem, otherListed.mem]
  have asymmetric : ∀ first second, first ∈ list → second ∈ other →
      (∀ time time2, map (keyOf first) = some (time, first) →
        map (keyOf second) = some (time2, second) → time < time2) →
      (∀ time time2, map (keyOf second) = some (time, second) →
        map (keyOf first) = some (time2, first) → time < time2) →
      first = second := by
    intro first second firstMember secondMember ahead behind
    obtain ⟨time, entry⟩ := (listed.mem first).mp firstMember
    obtain ⟨time2, entry2⟩ := (otherListed.mem second).mp secondMember
    have earlier := ahead time time2 entry entry2
    have later := behind time2 time entry2 entry
    omega
  exact same.eq_of_pairwise asymmetric listed.ordered otherListed.ordered

variable [DecidableEq κ]

theorem insert (listed : map.Listed keyOf list) {now : Nat}
    (before : map.Before now) {value : ν} (free : map (keyOf value) = none) :
    (map.insert now (keyOf value) value).Listed keyOf (list ++ [value]) := by
  rw [insert_of_none now value free]
  have absent : value ∉ list := by
    intro member
    obtain ⟨time, entry⟩ := (listed.mem value).mp member
    rw [free] at entry
    cases entry
  have kept {other : ν} (member : other ∈ list) :
      update map (keyOf value) (some (now, value)) (keyOf other) =
        map (keyOf other) := by
    apply update_of_ne
    intro sameKey
    obtain ⟨time, entry⟩ := (listed.mem other).mp member
    rw [sameKey, free] at entry
    cases entry
  refine ⟨?_, ?_, ?_⟩
  · intro key time stored entry
    rw [update_apply] at entry
    split at entry
    · cases entry
      exact Eq.symm ‹key = keyOf value›
    · exact listed.keyed key time stored entry
  · intro other
    rw [List.mem_append, List.mem_singleton]
    constructor
    · rintro (member | rfl)
      · rw [kept member]
        exact (listed.mem other).mp member
      · exact ⟨now, update_self _ _ _⟩
    · rintro ⟨time, entry⟩
      rw [update_apply] at entry
      split at entry
      · cases entry
        exact .inr rfl
      · exact .inl ((listed.mem other).mpr ⟨time, entry⟩)
  · rw [List.pairwise_append]
    refine ⟨?_, List.pairwise_singleton _ _, ?_⟩
    · refine listed.ordered.imp_of_mem ?_
      intro first second firstMember secondMember earlier
      rwa [kept firstMember, kept secondMember]
    · intro first member second isNew time time2 entry entry2
      rw [List.mem_singleton.mp isNew, update_self] at entry2
      cases entry2
      rw [kept member] at entry
      exact before _ _ _ entry

theorem erase (listed : map.Listed keyOf list) (key : κ) :
    (map.erase key).Listed keyOf
      (list.filter fun value => keyOf value ≠ key) := by
  have kept {other : κ} (different : other ≠ key) :
      map.erase key other = map other := update_of_ne different _ _
  refine ⟨?_, ?_, ?_⟩
  · intro other time value entry
    unfold TimedMap.erase at entry
    rw [update_apply] at entry
    split at entry
    · cases entry
    · exact listed.keyed other time value entry
  · intro value
    rw [List.mem_filter, decide_eq_true_iff, listed.mem]
    constructor
    · rintro ⟨entry, different⟩
      rwa [kept different]
    · rintro ⟨time, entry⟩
      rcases eq_or_ne (keyOf value) key with here | different
      · rw [here, TimedMap.erase, update_self] at entry
        cases entry
      · rw [kept different] at entry
        exact ⟨⟨time, entry⟩, different⟩
  · refine (listed.ordered.filter _).imp_of_mem ?_
    intro first second firstMember secondMember earlier
    have firstKept := of_decide_eq_true (List.mem_filter.mp firstMember).2
    have secondKept := of_decide_eq_true (List.mem_filter.mp secondMember).2
    rwa [kept firstKept, kept secondKept]

end Listed

end TimedMap

end StrManager.Library
