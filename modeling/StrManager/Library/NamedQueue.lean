import Mathlib.Logic.Function.Basic

namespace StrManager.Library

open Function

/-! Queues behind one name. The name can be taken off its queue and given to a
new one, while whoever opened the old queue goes on using it. -/

structure NamedQueue (α : Type u) where
  contents : Nat → List α
  created : Nat
  named : Option Nat
  valid : ∀ queue ∈ named, queue < created

namespace NamedQueue

variable {α : Type u}

def empty : NamedQueue α where
  contents := fun _ => []
  created := 0
  named := none
  valid := by simp

def unlink (queues : NamedQueue α) : NamedQueue α where
  contents := queues.contents
  created := queues.created
  named := none
  valid := by simp

/-- The queue that has the name, or a new empty one that gets it. -/
def openOrCreate (queues : NamedQueue α) : Nat × NamedQueue α :=
  match queues.named with
  | some queue => (queue, queues)
  | none => (queues.created, {
      contents := update queues.contents queues.created []
      created := queues.created + 1
      named := some queues.created
      valid := by simp })

def push (queues : NamedQueue α) (queue : Nat) (item : α) : NamedQueue α :=
  { queues with
    contents :=
      update queues.contents queue (queues.contents queue ++ [item]) }

def pop (queues : NamedQueue α) (queue : Nat) : Option (α × NamedQueue α) :=
  match queues.contents queue with
  | [] => none
  | item :: rest =>
      some (item, { queues with contents := update queues.contents queue rest })

@[simp] theorem named_unlink (queues : NamedQueue α) :
    queues.unlink.named = none := rfl

@[simp] theorem contents_push (queues : NamedQueue α) (queue : Nat)
    (item : α) : (queues.push queue item).contents =
      update queues.contents queue (queues.contents queue ++ [item]) := rfl

theorem openOrCreate_of_named {queues : NamedQueue α} {queue : Nat}
    (named : queues.named = some queue) :
    queues.openOrCreate = (queue, queues) := by
  unfold openOrCreate
  split
  · rename_i found
    rw [named] at found
    cases found
    rfl
  · rename_i missing
    rw [named] at missing
    cases missing

@[simp] theorem named_openOrCreate (queues : NamedQueue α) :
    queues.openOrCreate.2.named = some queues.openOrCreate.1 := by
  unfold openOrCreate
  split
  · assumption
  · rfl

theorem created_le_openOrCreate (queues : NamedQueue α) :
    queues.created ≤ queues.openOrCreate.2.created := by
  unfold openOrCreate
  split
  · exact Nat.le_refl _
  · exact Nat.le_succ _

theorem contents_openOrCreate (queues : NamedQueue α) {queue : Nat}
    (below : queue < queues.created) :
    queues.openOrCreate.2.contents queue = queues.contents queue := by
  unfold openOrCreate
  split
  · rfl
  · exact update_of_ne (Nat.ne_of_lt below) _ _

theorem mem_openOrCreate {queues : NamedQueue α} {queue : Nat} {item : α}
    (member : item ∈ queues.openOrCreate.2.contents queue) :
    item ∈ queues.contents queue := by
  unfold openOrCreate at member
  split at member
  · exact member
  · change item ∈ update queues.contents queues.created [] queue at member
    rw [update_apply] at member
    split at member
    · cases member
    · exact member

theorem pop_eq_some_iff {queues next : NamedQueue α} {queue : Nat} {item : α} :
    queues.pop queue = some (item, next) ↔
      ∃ rest, queues.contents queue = item :: rest ∧
        next = { queues with
          contents := update queues.contents queue rest } := by
  unfold pop
  split
  · rename_i empty
    simp [empty]
  · rename_i head rest found
    rw [Option.some.injEq, Prod.mk.injEq, found]
    constructor
    · rintro ⟨rfl, rfl⟩
      exact ⟨rest, rfl, rfl⟩
    · rintro ⟨_, same, rfl⟩
      cases same
      exact ⟨rfl, rfl⟩

end NamedQueue

end StrManager.Library
