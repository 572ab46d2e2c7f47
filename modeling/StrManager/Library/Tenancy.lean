import Mathlib.Logic.Function.Basic

namespace StrManager.Library

/-! Parts that live in one environment, each with handles of its own there. A
part may do as it likes with its handles and with handles that are not in use,
and relies on the others for nothing but that they leave its handles alone. -/

structure Tenancy (Env : Type u) (Part : Type v) (Handle : Type w)
    (Value : Type x) where
  read : Env → Handle → Option Value
  Owns : Part → Handle → Prop
  Holds : Env → Part → Prop
  /-- What a part owns is in use. -/
  inUse : ∀ {env part handle}, Holds env part → Owns part handle →
    (read env handle).isSome = true
  /-- Only the handles of the part matter to it. -/
  stable : ∀ {env after part}, Holds env part →
    (∀ handle, Owns part handle → read after handle = read env handle) →
    Holds after part

namespace Tenancy

variable {Env : Type u} {Part : Type v} {Handle : Type w} {Value : Type x}
  {tenancy : Tenancy Env Part Handle Value}

/-- A change of the environment that leaves the handles of others alone: it
changes and takes only handles that were owned or that were not in use. -/
structure Moves (before after : Handle → Option Value)
    (owned taken : Handle → Prop) : Prop where
  spares : ∀ handle, ¬ owned handle → (before handle).isSome = true →
    after handle = before handle
  takes : ∀ handle, taken handle → owned handle ∨ before handle = none

namespace Moves

variable {before between after : Handle → Option Value}
  {owned middle taken : Handle → Prop}

theorem of_same (same : after = before)
    (owns : ∀ handle, taken handle → owned handle) :
    Moves before after owned taken where
  spares := fun handle _ _ => congrFun same handle
  takes := fun handle isTaken => .inl (owns handle isTaken)

theorem trans (first : Moves before between owned middle)
    (second : Moves between after middle taken) :
    Moves before after owned taken where
  spares := by
    intro handle foreign used
    have kept := first.spares handle foreign used
    rw [← kept]
    refine second.spares handle ?_ (by rwa [kept])
    intro isMiddle
    rcases first.takes handle isMiddle with isOwned | unused
    · exact foreign isOwned
    · rw [unused] at used
      cases used
  takes := by
    intro handle isTaken
    rcases second.takes handle isTaken with isMiddle | unused
    · exact first.takes handle isMiddle
    · by_cases isOwned : owned handle
      · exact .inl isOwned
      · right
        cases used : before handle with
        | none => rfl
        | some value =>
            have kept := first.spares handle isOwned (by rw [used]; rfl)
            rw [kept, used] at unused
            cases unused

end Moves

/-- Every part is in order, and no handle has two owners. -/
structure Shared (tenancy : Tenancy Env Part Handle Value) {ι : Type y}
    (env : Env) (parts : ι → Part) : Prop where
  holds : ∀ place, tenancy.Holds env (parts place)
  apart : ∀ {place other handle}, tenancy.Owns (parts place) handle →
    tenancy.Owns (parts other) handle → place = other

namespace Shared

variable {ι : Type y} {env after : Env} {parts next : ι → Part}

theorem move (shared : tenancy.Shared env parts) (place : ι)
    (moves : Moves (tenancy.read env) (tenancy.read after)
      (tenancy.Owns (parts place)) (tenancy.Owns (next place)))
    (holds : tenancy.Holds after (next place))
    (others : ∀ other, other ≠ place → next other = parts other) :
    tenancy.Shared after next where
  holds := by
    intro other
    by_cases here : other = place
    · subst here
      exact holds
    · rw [others other here]
      refine tenancy.stable (shared.holds other) ?_
      intro handle owned
      refine moves.spares handle ?_ (tenancy.inUse (shared.holds other) owned)
      intro contested
      exact here (shared.apart owned contested)
  apart := by
    have alone {other : ι} {handle : Handle} (elsewhere : other ≠ place)
        (owned : tenancy.Owns (parts other) handle)
        (taken : tenancy.Owns (next place) handle) : False := by
      rcases moves.takes handle taken with before | unused
      · exact elsewhere (shared.apart owned before)
      · have used := tenancy.inUse (shared.holds other) owned
        rw [unused] at used
        cases used
    intro first second handle firstOwns secondOwns
    by_cases firstHere : first = place
    · subst firstHere
      by_contra different
      rw [others second (Ne.symm different)] at secondOwns
      exact alone (Ne.symm different) secondOwns firstOwns
    · rw [others first firstHere] at firstOwns
      by_cases secondHere : second = place
      · subst secondHere
        exact absurd secondOwns (alone firstHere firstOwns)
      · rw [others second secondHere] at secondOwns
        exact shared.apart firstOwns secondOwns

theorem idle (shared : tenancy.Shared env parts)
    (read : tenancy.read after = tenancy.read env) :
    tenancy.Shared after parts where
  holds := fun place => tenancy.stable (shared.holds place) fun handle _ =>
    congrFun read handle
  apart := shared.apart

theorem value_apart (shared : tenancy.Shared env parts) {value : Value}
    (distinct : ∀ {handle other}, tenancy.read env handle = some value →
      tenancy.read env other = some value → handle = other)
    {place other : ι} {handle otherHandle : Handle}
    (owned : tenancy.Owns (parts place) handle)
    (found : tenancy.read env handle = some value)
    (otherOwned : tenancy.Owns (parts other) otherHandle)
    (otherFound : tenancy.read env otherHandle = some value) :
    place = other := by
  have same := distinct found otherFound
  subst same
  exact shared.apart owned otherOwned

end Shared

end Tenancy

end StrManager.Library
