import StrManager.Library.Table

namespace StrManager.Library

/-! Handles that a table is to keep: it holds every handle that its owner
opened and has not closed, each under one key, and no other handle. -/

/-- The handles in `table` are the open ones, but for the `foreign` handles of
others. -/
structure Owns {κ : Type u} {ρ : Type v} [DecidableEq κ]
    (isOpen foreign : ρ → Prop) (table : Table κ ρ) : Prop where
  stored : ∀ handle, (isOpen handle ∧ ¬ foreign handle) ↔
    ∃ key, table.lookup key = some handle
  once : ∀ {first second : κ} {handle : ρ},
    table.lookup first = some handle → table.lookup second = some handle →
    first = second
  foreign_open : ∀ handle, foreign handle → isOpen handle

namespace Owns

variable {κ : Type u} {ρ : Type v} [DecidableEq κ]
  {isOpen foreign : ρ → Prop} {table : Table κ ρ}

theorem empty (isOpen : ρ → Prop) : Owns isOpen isOpen (∅ : Table κ ρ) where
  stored := by
    intro handle
    simp
  once := by
    intro first second handle found
    simp at found
  foreign_open := fun _ open_ => open_

theorem is_open (owns : Owns isOpen foreign table) {key : κ} {handle : ρ}
    (found : table.lookup key = some handle) : isOpen handle :=
  ((owns.stored handle).mpr ⟨key, found⟩).1

theorem acquire {isOpenNow : ρ → Prop} (owns : Owns isOpen foreign table)
    {key : κ} {handle : ρ} (absent : table.lookup key = none)
    (fresh : ¬ isOpen handle)
    (opened : ∀ other, isOpenNow other ↔ other = handle ∨ isOpen other) :
    Owns isOpenNow foreign (table.insert key handle) where
  stored := by
    intro other
    rw [opened]
    constructor
    · rintro ⟨rfl | wasOpen, notForeign⟩
      · exact ⟨key, by rw [Table.lookup_insert, if_pos rfl]⟩
      · obtain ⟨place, found⟩ := (owns.stored other).mp ⟨wasOpen, notForeign⟩
        refine ⟨place, ?_⟩
        rw [Table.lookup_insert, if_neg, found]
        rintro rfl
        rw [absent] at found
        cases found
    · rintro ⟨place, found⟩
      rw [Table.lookup_insert] at found
      split at found
      · cases found
        exact ⟨.inl rfl, fun isForeign =>
          fresh (owns.foreign_open handle isForeign)⟩
      · have before := (owns.stored other).mpr ⟨place, found⟩
        exact ⟨.inr before.1, before.2⟩
  once := by
    intro first second other firstFound secondFound
    rw [Table.lookup_insert] at firstFound secondFound
    split at firstFound <;> split at secondFound
    · rename_i firstHere secondHere
      rw [firstHere, secondHere]
    · cases firstFound
      exact absurd (owns.is_open secondFound) fresh
    · cases secondFound
      exact absurd (owns.is_open firstFound) fresh
    · exact owns.once firstFound secondFound
  foreign_open := fun other isForeign =>
    (opened other).mpr (.inr (owns.foreign_open other isForeign))

theorem release {isOpenNow : ρ → Prop} (owns : Owns isOpen foreign table)
    {key : κ} {handle : ρ} (found : table.lookup key = some handle)
    (closed : ∀ other, isOpenNow other ↔ other ≠ handle ∧ isOpen other) :
    Owns isOpenNow foreign (table.erase key) where
  stored := by
    intro other
    rw [closed]
    constructor
    · rintro ⟨⟨different, wasOpen⟩, notForeign⟩
      obtain ⟨place, stored⟩ := (owns.stored other).mp ⟨wasOpen, notForeign⟩
      refine ⟨place, ?_⟩
      rw [Table.lookup_erase, if_neg, stored]
      rintro rfl
      rw [found] at stored
      cases stored
      exact different rfl
    · rintro ⟨place, stored⟩
      rw [Table.lookup_erase] at stored
      split at stored
      · cases stored
      · rename_i elsewhere
        have before := (owns.stored other).mpr ⟨place, stored⟩
        refine ⟨⟨?_, before.1⟩, before.2⟩
        rintro rfl
        exact elsewhere (owns.once stored found)
  once := by
    intro first second other firstFound secondFound
    rw [Table.lookup_erase] at firstFound secondFound
    split at firstFound
    · cases firstFound
    · split at secondFound
      · cases secondFound
      · exact owns.once firstFound secondFound
  foreign_open := by
    intro other isForeign
    rw [closed]
    refine ⟨?_, owns.foreign_open other isForeign⟩
    rintro rfl
    exact ((owns.stored other).mpr ⟨key, found⟩).2 isForeign

end Owns

end StrManager.Library
