import Mathlib.Logic.Function.Basic
import Mathlib.Data.List.Basic

namespace StrManager.Library

/-! A value for each key, changed by events that name at most one key. -/

/-- An event changes the value of the key it names, going by nothing but this
value. -/
structure Keyed {Key : Type u} {Value : Type v} {Event : Type w}
    (apply : (Key → Value) → Event → Key → Value)
    (names : Event → Option Key) : Prop where
  elsewhere : ∀ {values event key}, names event ≠ some key →
    apply values event key = values key
  here : ∀ {values other event key}, names event = some key →
    values key = other key → apply values event key = apply other event key

namespace Keyed

variable {Key : Type u} {Value : Type v} {Event : Type w} [DecidableEq Key]
  {apply : (Key → Value) → Event → Key → Value} {names : Event → Option Key}

theorem congr (keyed : Keyed apply names) {values other : Key → Value}
    {event : Event} {key : Key} (same : values key = other key) :
    apply values event key = apply other event key := by
  by_cases named : names event = some key
  · exact keyed.here named same
  · rw [keyed.elsewhere named, keyed.elsewhere named, same]

theorem foldl_filter (keyed : Keyed apply names) (events : List Event)
    {values other : Key → Value} {key : Key} (same : values key = other key) :
    events.foldl apply values key =
      (events.filter fun event => names event = some key).foldl apply other
        key := by
  induction events generalizing values other with
  | nil => exact same
  | cons event rest ih =>
      by_cases named : names event = some key
      · rw [List.filter_cons_of_pos (by simpa using named), List.foldl_cons,
          List.foldl_cons]
        exact ih (keyed.congr same)
      · rw [List.filter_cons_of_neg (by simpa using named), List.foldl_cons]
        apply ih
        rw [keyed.elsewhere named, same]

/-- Two histories that agree on a key give it the same value. -/
theorem foldl_eq (keyed : Keyed apply names) {events events2 : List Event}
    {key : Key} (values : Key → Value)
    (agree : events.filter (fun event => names event = some key) =
      events2.filter fun event => names event = some key) :
    events.foldl apply values key = events2.foldl apply values key := by
  rw [keyed.foldl_filter events rfl, agree, ← keyed.foldl_filter events2 rfl]

end Keyed

end StrManager.Library
