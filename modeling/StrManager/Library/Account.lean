import Mathlib.Logic.Function.Basic
import Mathlib.Tactic.Abel

namespace StrManager.Library

open Function

/-! Counters that are read and reset from time to time, and the books an
outside observer keeps of them. -/

/-- What went into a counter, what was used of it, what was read but not yet
reset, and what went in since the last reset. -/
structure Account (Amount : Type u) where
  received : Amount
  used : Amount
  pending : Amount
  since : Amount
  deriving DecidableEq, Repr

namespace Account

variable {Amount : Type u} [AddCommGroup Amount]

def opened : Account Amount := ⟨0, 0, 0, 0⟩

def add (account : Account Amount) (amount : Amount) : Account Amount :=
  { account with
    received := account.received + amount
    since := account.since + amount }

def read (account : Account Amount) (amount : Amount) : Account Amount :=
  { account with
    used := account.used + amount
    pending := account.pending + amount }

def reset (account : Account Amount) : Account Amount :=
  { account with
    pending := 0
    since := 0 }

def collect (account : Account Amount) (amount : Amount) : Account Amount :=
  { account with
    used := account.used + amount
    since := 0 }

/-- What was used and what is still counted, less what was read but not yet
reset, is what was received. -/
def Balanced (account : Account Amount) (counter : Amount) : Prop :=
  account.used + counter - account.pending = account.received

instance [DecidableEq Amount] (account : Account Amount) (counter : Amount) :
    Decidable (account.Balanced counter) :=
  inferInstanceAs (Decidable (_ = _))

def Exact (account : Account Amount) (counter : Amount) : Prop :=
  counter = account.since

variable {account : Account Amount} {counter : Amount}

theorem opened_balanced : (opened : Account Amount).Balanced 0 := by
  simp [Balanced, opened]

theorem Balanced.add (balanced : account.Balanced counter) (amount : Amount) :
    (account.add amount).Balanced (counter + amount) := by
  unfold Balanced at balanced ⊢
  simp only [Account.add]
  rw [← balanced]
  abel

theorem Balanced.read (balanced : account.Balanced counter) (amount : Amount) :
    (account.read amount).Balanced counter := by
  unfold Balanced at balanced ⊢
  simp only [Account.read]
  rw [← balanced]
  abel

theorem Balanced.reset_iff (balanced : account.Balanced counter) :
    account.reset.Balanced 0 ↔ counter = account.pending := by
  unfold Balanced at balanced ⊢
  simp only [Account.reset]
  rw [← balanced, add_sub_assoc, add_sub_assoc, add_right_inj, sub_zero,
    eq_comm, sub_eq_zero]

theorem Balanced.collect (balanced : account.Balanced counter) :
    (account.collect counter).Balanced 0 := by
  unfold Balanced at balanced ⊢
  simp only [Account.collect]
  rw [← balanced]
  abel

end Account

theorem forall_update_iff {Key : Type u} {Value : Type v} {Book : Type w}
    [DecidableEq Key] {Holds : Book → Value → Prop} {books : Key → Book}
    {values : Key → Value} (holds : ∀ key, Holds (books key) (values key))
    (changed : Key) (book : Book) (value : Value) :
    (∀ key, Holds (update books changed book key)
      (update values changed value key)) ↔ Holds book value := by
  constructor
  · intro all
    simpa using all changed
  · intro here key
    rcases eq_or_ne key changed with rfl | other
    · simpa using here
    · simpa [other] using holds key

end StrManager.Library
