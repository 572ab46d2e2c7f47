import Mathlib.Algebra.BigOperators.Group.List.Basic
import Mathlib.Data.List.AList

namespace StrManager.Library

/-! Finite tables with a default-inserting subscript: reading an absent key
yields the default and leaves an entry for the key behind. -/

def Table (κ : Type u) (ν : Type v) := AList (fun _ : κ => ν)

namespace Table

instance : EmptyCollection (Table κ ν) := ⟨(∅ : AList (fun _ : κ => ν))⟩

/-- The stored keys and values, in the order an iterator visits them. -/
def entries (table : Table κ ν) : List (Sigma fun _ : κ => ν) :=
  AList.entries table

variable {κ : Type u} {ν : Type v} [DecidableEq κ]

def lookup (table : Table κ ν) (key : κ) : Option ν :=
  AList.lookup key table

def insert (table : Table κ ν) (key : κ) (value : ν) : Table κ ν :=
  AList.insert key value table

def erase (table : Table κ ν) (key : κ) : Table κ ν :=
  AList.erase key table

def subscript (table : Table κ ν) (default : ν) (key : κ) : ν :=
  (table.lookup key).getD default

/-- The table a subscript of `key` leaves behind. -/
def touch (table : Table κ ν) (default : ν) (key : κ) : Table κ ν :=
  if (table.lookup key).isSome then table else table.insert key default

@[simp] theorem lookup_empty (key : κ) : (∅ : Table κ ν).lookup key = none :=
  AList.lookup_empty key

def mapValues (table : Table κ ν) (change : ν → ν) : Table κ ν :=
  ⟨table.entries.map (Sigma.map id fun _ => change),
    (AList.nodupKeys table).map₂ (fun _ => change) _⟩

theorem mem_entries_iff (table : Table κ ν) (key : κ) (value : ν) :
    (⟨key, value⟩ : Sigma fun _ : κ => ν) ∈ table.entries ↔
      table.lookup key = some value :=
  AList.mem_lookup_iff.symm

instance (table : Table κ ν) (P : κ → ν → Prop)
    [∀ key value, Decidable (P key value)] :
    Decidable (∀ key value, table.lookup key = some value → P key value) :=
  decidable_of_iff (∀ entry ∈ table.entries, P entry.1 entry.2)
    ⟨fun all key value found =>
        all ⟨key, value⟩ ((mem_entries_iff table key value).mpr found),
      fun all entry member =>
        all entry.1 entry.2 ((mem_entries_iff table _ _).mp member)⟩

@[simp] theorem lookup_mapValues (table : Table κ ν) (change : ν → ν)
    (key : κ) :
    (table.mapValues change).lookup key = (table.lookup key).map change :=
  List.dlookup_map₂ key

theorem lookup_insert (table : Table κ ν) (key other : κ) (value : ν) :
    (table.insert key value).lookup other =
      if other = key then some value else table.lookup other := by
  by_cases equal : other = key
  · subst other
    rw [if_pos rfl]
    exact AList.lookup_insert table
  · rw [if_neg equal]
    exact AList.lookup_insert_ne equal

theorem lookup_erase (table : Table κ ν) (key other : κ) :
    (table.erase key).lookup other =
      if other = key then none else table.lookup other := by
  by_cases equal : other = key
  · subst other
    rw [if_pos rfl]
    exact AList.lookup_erase _ table
  · rw [if_neg equal]
    exact AList.lookup_erase_ne equal

theorem lookup_insert_eq_update (table : Table κ ν) (key : κ) (value : ν) :
    (table.insert key value).lookup =
      Function.update table.lookup key (some value) := by
  funext other
  rw [lookup_insert, Function.update_apply]

theorem lookup_erase_eq_update (table : Table κ ν) (key : κ) :
    (table.erase key).lookup = Function.update table.lookup key none := by
  funext other
  rw [lookup_erase, Function.update_apply]

theorem lookup_touch (table : Table κ ν) (default : ν) (key other : κ) :
    (table.touch default key).lookup other =
      if other = key then some (table.subscript default key)
      else table.lookup other := by
  unfold touch subscript
  cases found : table.lookup key with
  | none => simp [lookup_insert]
  | some value =>
      by_cases equal : other = key
      · simp [equal, found]
      · simp [equal]

theorem touch_of_lookup {table : Table κ ν} {key : κ} {value : ν}
    (default : ν) (found : table.lookup key = some value) :
    table.touch default key = table := by
  simp [touch, found]

@[simp] theorem subscript_empty (default : ν) (key : κ) :
    (∅ : Table κ ν).subscript default key = default := by
  simp [subscript]

theorem subscript_of_lookup {table : Table κ ν} {key : κ} {value : ν}
    (default : ν) (found : table.lookup key = some value) :
    table.subscript default key = value := by
  simp [subscript, found]

theorem lookup_cleared_iff {table after : Table κ ν} {first second : κ}
    (cleared : ∀ key, after.lookup key =
      if key = first ∨ key = second then none else table.lookup key) :
    after.lookup = table.lookup ↔
      table.lookup first = none ∧ table.lookup second = none := by
  constructor
  · intro same
    rw [← same]
    exact ⟨(cleared first).trans (if_pos (.inl rfl)),
      (cleared second).trans (if_pos (.inr rfl))⟩
  · rintro ⟨absent, absent2⟩
    funext key
    rw [cleared]
    split
    · rename_i here
      rcases here with rfl | rfl
      · exact absent.symm
      · exact absent2.symm
    · rfl

/-- A subscript never changes what any subscript reads. -/
@[simp] theorem subscript_touch (table : Table κ ν) (default : ν) (key : κ) :
    (table.touch default key).subscript default = table.subscript default := by
  funext other
  by_cases equal : other = key
  · subst other
    simp [subscript, lookup_touch]
  · simp [subscript, lookup_touch, equal]

@[simp] theorem subscript_insert (table : Table κ ν) (default value : ν)
    (key : κ) :
    (table.insert key value).subscript default =
      Function.update (table.subscript default) key value := by
  funext other
  by_cases equal : other = key
  · simp [subscript, lookup_insert, equal]
  · simp [subscript, lookup_insert, equal]

@[simp] theorem subscript_erase (table : Table κ ν) (default : ν) (key : κ) :
    (table.erase key).subscript default =
      Function.update (table.subscript default) key default := by
  funext other
  by_cases equal : other = key
  · simp [subscript, lookup_erase, equal]
  · simp [subscript, lookup_erase, equal]

def size {κ : Type u} {ν : Type v} (table : Table κ ν) : Nat :=
  table.entries.length

def Within (table other : Table κ ν) : Prop :=
  ∀ key, (table.lookup key).isSome = true → (other.lookup key).isSome = true

namespace Within

theorem refl (table : Table κ ν) : table.Within table :=
  fun _ present => present

theorem trans {first second third : Table κ ν} (left : first.Within second)
    (right : second.Within third) : first.Within third :=
  fun key present => right key (left key present)

theorem touch (table : Table κ ν) (default : ν) (key : κ) :
    table.Within (table.touch default key) := by
  intro other present
  rw [lookup_touch]
  split
  · rfl
  · exact present

theorem insert (table : Table κ ν) (key : κ) (value : ν) :
    table.Within (table.insert key value) := by
  intro other present
  rw [lookup_insert]
  split
  · rfl
  · exact present

end Within

theorem touch_of_isSome {table : Table κ ν} {key : κ} (default : ν)
    (present : (table.lookup key).isSome = true) :
    table.touch default key = table := by
  simp [touch, present]

theorem lookup_touch_isSome (table : Table κ ν) (default : ν) (key : κ) :
    ((table.touch default key).lookup key).isSome = true := by
  simp [lookup_touch]

theorem entries_ne_nil_of_lookup {table : Table κ ν} {key : κ} {value : ν}
    (found : table.lookup key = some value) : table.entries ≠ [] := by
  intro empty
  have member := (mem_entries_iff table key value).mpr found
  rw [empty] at member
  cases member

theorem entries_eq_nil_iff (table : Table κ ν) :
    table.entries = [] ↔ ∀ key, table.lookup key = none := by
  constructor
  · intro empty key
    cases found : table.lookup key with
    | none => rfl
    | some value => exact absurd empty (entries_ne_nil_of_lookup found)
  · intro absent
    rw [List.eq_nil_iff_forall_not_mem]
    rintro ⟨key, value⟩ member
    have found := (mem_entries_iff table key value).mp member
    rw [absent] at found
    cases found

/-! Counting the entries whose value satisfies a test. -/

def tally {κ : Type u} {ν : Type v} (table : Table κ ν) (test : ν → Bool) : Nat :=
  table.entries.countP fun entry => test entry.2

theorem entries_erase {table : Table κ ν} {key : κ} {value : ν}
    (found : table.lookup key = some value) :
    ∃ before after, table.entries = before ++ ⟨key, value⟩ :: after ∧
      (table.erase key).entries = before ++ after := by
  have member : key ∈ table.entries.keys :=
    List.mem_keys_of_mem ((mem_entries_iff table key value).mpr found)
  obtain ⟨stored, before, after, -, entries, erased⟩ :=
    List.exists_of_kerase member
  have storedFound : table.lookup key = some stored :=
    (mem_entries_iff table key stored).mp (by rw [entries]; simp)
  have storedValue : stored = value :=
    Option.some.inj (storedFound.symm.trans found)
  subst stored
  exact ⟨before, after, entries, erased⟩

theorem tally_erase {table : Table κ ν} {key : κ} {value : ν}
    (test : ν → Bool) (found : table.lookup key = some value) :
    (table.erase key).tally test + (if test value then 1 else 0) =
      table.tally test := by
  obtain ⟨before, after, entries, erased⟩ := entries_erase found
  unfold tally
  rw [erased, entries, List.countP_append, List.countP_append,
    List.countP_cons, Nat.add_assoc]

theorem tally_insert {table : Table κ ν} {key : κ}
    (test : ν → Bool) (value : ν) (missing : table.lookup key = none) :
    (table.insert key value).tally test =
      table.tally test + (if test value then 1 else 0) := by
  have absent : key ∉ (show AList (fun _ : κ => ν) from table) :=
    AList.lookup_eq_none.mp missing
  have entries : (table.insert key value).entries =
      ⟨key, value⟩ :: table.entries :=
    AList.entries_insert_of_notMem absent
  simp only [tally, entries, List.countP_cons]

theorem tally_replace {table : Table κ ν} {key : κ} {old new : ν}
    (test : ν → Bool) (found : table.lookup key = some old)
    (alike : test new = test old) :
    (table.insert key new).tally test = table.tally test := by
  have erased := tally_erase test found
  have entries : (table.insert key new).entries =
      ⟨key, new⟩ :: (table.erase key).entries := AList.entries_insert
  simp only [tally, entries, List.countP_cons, alike] at erased ⊢
  exact erased

theorem size_insert_of_lookup {table : Table κ ν} {key : κ} {old : ν}
    (value : ν) (found : table.lookup key = some old) :
    (table.insert key value).size = table.size := by
  have counted : (table.insert key value).tally (fun _ => true) =
      table.tally fun _ => true := tally_replace _ found rfl
  simpa [tally, size] using counted

theorem tally_pos_iff (table : Table κ ν) (test : ν → Bool) :
    0 < table.tally test ↔
      ∃ key value, table.lookup key = some value ∧ test value = true := by
  unfold tally
  rw [List.countP_pos_iff]
  constructor
  · rintro ⟨⟨key, value⟩, member, passes⟩
    exact ⟨key, value, (mem_entries_iff table key value).mp member, passes⟩
  · rintro ⟨key, value, found, passes⟩
    exact ⟨⟨key, value⟩, (mem_entries_iff table key value).mpr found, passes⟩

/-! Adding up over the values. -/

def total {κ : Type u} {ν : Type v} {M : Type w} [AddCommMonoid M]
    (table : Table κ ν) (weight : ν → M) : M :=
  (table.entries.map fun entry => weight entry.2).sum

section Total

variable {M : Type w} [AddCommMonoid M]

theorem total_erase {table : Table κ ν} {key : κ} {value : ν}
    (weight : ν → M) (found : table.lookup key = some value) :
    weight value + (table.erase key).total weight = table.total weight := by
  obtain ⟨before, after, entries, erased⟩ := entries_erase found
  unfold total
  rw [erased, entries, List.map_append, List.map_append, List.map_cons,
    List.sum_append, List.sum_append, List.sum_cons, add_left_comm]

theorem total_insert {table : Table κ ν} {key : κ} {old : ν}
    (weight : ν → M) (value : ν) (found : table.lookup key = some old) :
    weight old + (table.insert key value).total weight =
      weight value + table.total weight := by
  have entries : (table.insert key value).entries =
      ⟨key, value⟩ :: (table.erase key).entries := AList.entries_insert
  have inserted : (table.insert key value).total weight =
      weight value + (table.erase key).total weight := by
    simp only [total, entries, List.map_cons, List.sum_cons]
  rw [inserted, add_left_comm, total_erase weight found]

end Total

/-! Two tables that are inverse to each other. -/

def Inverse {α : Type u} {β : Type v} [DecidableEq α] [DecidableEq β]
    (forward : Table α β) (backward : Table β α) : Prop :=
  ∀ key value, forward.lookup key = some value ↔
    backward.lookup value = some key

namespace Inverse

variable {α : Type u} {β : Type v} [DecidableEq α] [DecidableEq β]
  {forward : Table α β} {backward : Table β α}

theorem empty : Inverse (∅ : Table α β) (∅ : Table β α) := by
  intro key value
  simp

theorem injective (inverse : Inverse forward backward)
    {first second : α} {value : β}
    (firstFound : forward.lookup first = some value)
    (secondFound : forward.lookup second = some value) : first = second := by
  have backwardFirst := (inverse first value).mp firstFound
  have backwardSecond := (inverse second value).mp secondFound
  exact Option.some.inj (backwardFirst.symm.trans backwardSecond)

theorem insert (inverse : Inverse forward backward) {key : α} {value : β}
    (freshKey : forward.lookup key = none)
    (freshValue : backward.lookup value = none) :
    Inverse (forward.insert key value) (backward.insert value key) := by
  intro other image
  rw [lookup_insert, lookup_insert]
  have related := inverse other image
  by_cases keyEqual : other = key
  · by_cases valueEqual : image = value
    · simp [keyEqual, valueEqual]
    · subst other
      rw [freshKey] at related
      simp only [if_true, if_neg valueEqual, Option.some.injEq]
      constructor
      · intro equal
        exact absurd equal.symm valueEqual
      · intro found
        exact absurd (related.mpr found) (by simp)
  · by_cases valueEqual : image = value
    · subst image
      rw [freshValue] at related
      simp only [if_true, if_neg keyEqual, Option.some.injEq]
      constructor
      · intro found
        exact absurd (related.mp found) (by simp)
      · intro equal
        exact absurd equal.symm keyEqual
    · rw [if_neg keyEqual, if_neg valueEqual]
      exact related

theorem erase (inverse : Inverse forward backward) {key : α} {value : β}
    (found : forward.lookup key = some value) :
    Inverse (forward.erase key) (backward.erase value) := by
  intro other image
  rw [lookup_erase, lookup_erase]
  by_cases keyEqual : other = key
  · subst other
    by_cases valueEqual : image = value
    · simp [valueEqual]
    · simp only [if_true, if_neg valueEqual, reduceCtorEq, false_iff]
      intro backwardFound
      have forwardFound := (inverse key image).mpr backwardFound
      exact valueEqual (Option.some.inj (forwardFound.symm.trans found))
  · by_cases valueEqual : image = value
    · subst image
      simp only [if_true, if_neg keyEqual, reduceCtorEq, iff_false]
      intro forwardFound
      exact keyEqual (inverse.injective forwardFound found)
    · rw [if_neg keyEqual, if_neg valueEqual]
      exact inverse other image

end Inverse

end Table

end StrManager.Library
