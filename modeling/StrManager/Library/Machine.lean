import Mathlib.Logic.Function.Basic

namespace StrManager.Library

/-! Programs that answer one event at a time, and the runs of such a program
together with a record an observer keeps of them. -/

/-- Two computations end alike: with the same fault, or with related values. -/
inductive Alike {α : Type u} {β : Type v} {Fault : Type x}
    (Related : α → β → Prop) :
    Except Fault α → Except Fault β → Prop
  | ok {value : α} {mirror : β} (related : Related value mirror) :
      Alike Related (.ok value) (.ok mirror)
  | error (fault : Fault) : Alike Related (.error fault) (.error fault)

theorem Alike.same {α : Type u} {Fault : Type x} (result : Except Fault α) :
    Alike (fun value mirror => mirror = value) result result := by
  cases result with
  | ok value => exact .ok rfl
  | error fault => exact .error fault

theorem Alike.bind {α : Type u} {β : Type u} {γ : Type u} {δ : Type u}
    {Fault : Type x} {Related : α → β → Prop} {Result : γ → δ → Prop}
    {first : Except Fault α} {second : Except Fault β}
    {next : α → Except Fault γ} {other : β → Except Fault δ}
    (alike : Alike Related first second)
    (continued : ∀ {value mirror}, Related value mirror →
      Alike Result (next value) (other mirror)) :
    Alike Result (first >>= next) (second >>= other) := by
  cases alike with
  | ok related => exact continued related
  | error fault => exact .error fault

theorem bind_eq_ok {α : Type u} {β : Type u} {Fault : Type x}
    {first : Except Fault α} {next : α → Except Fault β} {result : β}
    (ended : first >>= next = .ok result) :
    ∃ value, first = .ok value ∧ next value = .ok result := by
  cases first with
  | error fault => cases ended
  | ok value => exact ⟨value, rfl, ended⟩

/-- A program that answers each event with an output and a next state, unless
it faults. -/
structure Machine (State : Type u) (Event : Type v) (Output : Type w)
    (Fault : Type x) where
  step : State → Event → Except Fault (State × Output)

/-- What an observer notes down about a machine's events and outputs. -/
structure Observer (Event : Type v) (Output : Type w) (Record : Type y) where
  initial : Record
  update : Record → Event → Output → Record

def Observer.none : Observer Event Output Unit where
  initial := ()
  update := fun _ _ _ => ()

namespace Machine

variable {State : Type u} {Event : Type v} {Output : Type w}
  {Fault : Type x} {Record : Type y}

/-- The states and records that the allowed events reach from `start` without
a fault. -/
inductive Run (machine : Machine State Event Output Fault)
    (observer : Observer Event Output Record)
    (Allowed : State → Record → Event → Prop) (start : State) :
    State → Record → Prop
  | start : Run machine observer Allowed start start observer.initial
  | step {state next : State} {record : Record} {event : Event}
      {output : Output}
      (run : Run machine observer Allowed start state record)
      (allowed : Allowed state record event)
      (stepped : machine.step state event = .ok (next, output)) :
      Run machine observer Allowed start next
        (observer.update record event output)

variable {machine : Machine State Event Output Fault}
  {observer : Observer Event Output Record}
  {Allowed : State → Record → Event → Prop} {start : State}

/-- A property of the start that every allowed step preserves holds along
every run. A second property may use the first one at every step. -/
theorem Run.invariant_of {Known motive : State → Record → Prop}
    (known : ∀ {state record},
      machine.Run observer Allowed start state record → Known state record)
    (initially : motive start observer.initial)
    (preserved : ∀ {state next record event output},
      Known state record → motive state record → Allowed state record event →
      machine.step state event = .ok (next, output) →
      motive next (observer.update record event output))
    {state : State} {record : Record}
    (run : machine.Run observer Allowed start state record) :
    motive state record := by
  induction run with
  | start => exact initially
  | step before allowed stepped holds =>
      exact preserved (known before) holds allowed stepped

theorem Run.invariant {motive : State → Record → Prop}
    (initially : motive start observer.initial)
    (preserved : ∀ {state next record event output},
      motive state record → Allowed state record event →
      machine.step state event = .ok (next, output) →
      motive next (observer.update record event output))
    {state : State} {record : Record}
    (run : machine.Run observer Allowed start state record) :
    motive state record := by
  refine run.invariant_of (fun _ => trivial) initially ?_
  intro state next record event output _ holds allowed stepped
  exact preserved holds allowed stepped

theorem Run.mono {Wider : State → Record → Event → Prop}
    (wider : ∀ {state record event},
      Allowed state record event → Wider state record event)
    {state : State} {record : Record}
    (run : machine.Run observer Allowed start state record) :
    machine.Run observer Wider start state record := by
  induction run with
  | start => exact .start
  | step _ allowed stepped widened => exact .step widened (wider allowed) stepped

/-- A second observer whose notes follow from those of the first. -/
theorem Run.project {Digest : Type z} {digest : Observer Event Output Digest}
    {Admitted : State → Digest → Event → Prop} (view : Record → Digest)
    (initially : view observer.initial = digest.initial)
    (updates : ∀ record event output,
      view (observer.update record event output) =
        digest.update (view record) event output)
    (admits : ∀ {state record event},
      Allowed state record event → Admitted state (view record) event)
    {state : State} {record : Record}
    (run : machine.Run observer Allowed start state record) :
    machine.Run digest Admitted start state (view record) := by
  induction run with
  | start =>
      rw [initially]
      exact .start
  | step _ allowed stepped projected =>
      rw [updates]
      exact .step projected (admits allowed) stepped

section

variable {State2 : Type u'} {Event2 : Type v'} {Output2 : Type w'}
  {Fault2 : Type x'} {Record2 : Type y'}
  {other : Machine State2 Event2 Output2 Fault2}
  {observer2 : Observer Event2 Output2 Record2}
  {Allowed2 : State2 → Record2 → Event2 → Prop}

/-- A run seen as one of another machine, which makes at most one step for
each step here. -/
theorem Run.simulated {Known : State → Record → Prop}
    (view : State → State2) (digest : Record → Record2)
    (known : ∀ {state record},
      machine.Run observer Allowed start state record → Known state record)
    (initially : digest observer.initial = observer2.initial)
    (moves : ∀ {state next record event output},
      Known state record → Allowed state record event →
      machine.step state event = .ok (next, output) →
      (view next = view state ∧
        digest (observer.update record event output) = digest record) ∨
      ∃ event2 output2, Allowed2 (view state) (digest record) event2 ∧
        other.step (view state) event2 = .ok (view next, output2) ∧
        digest (observer.update record event output) =
          observer2.update (digest record) event2 output2)
    {state : State} {record : Record}
    (run : machine.Run observer Allowed start state record) :
    other.Run observer2 Allowed2 (view start) (view state) (digest record) := by
  induction run with
  | start =>
      rw [initially]
      exact .start
  | step before allowed stepped seen =>
      cases moves (known before) allowed stepped with
      | inl stays =>
          rw [stays.1, stays.2]
          exact seen
      | inr moved =>
          obtain ⟨event2, output2, allowed2, stepped2, noted⟩ := moved
          rw [noted]
          exact .step seen allowed2 stepped2

end

/-! Computing runs. -/

/-- The state and record after `events`, or nothing when one of them is not
allowed or faults. -/
def replay (machine : Machine State Event Output Fault)
    (observer : Observer Event Output Record)
    (Allowed : State → Record → Event → Prop)
    [∀ state record event, Decidable (Allowed state record event)] :
    List Event → State → Record → Option (State × Record)
  | [], state, record => some (state, record)
  | event :: rest, state, record =>
      if Allowed state record event then
        match machine.step state event with
        | .ok (next, output) =>
            replay machine observer Allowed rest next
              (observer.update record event output)
        | .error _ => none
      else none

theorem Run.extend_replay
    [∀ state record event, Decidable (Allowed state record event)]
    {events : List Event} {state final : State} {record finalRecord : Record}
    (run : machine.Run observer Allowed start state record)
    (replayed : machine.replay observer Allowed events state record =
      some (final, finalRecord)) :
    machine.Run observer Allowed start final finalRecord := by
  induction events generalizing state record with
  | nil =>
      simp only [replay, Option.some.injEq, Prod.mk.injEq] at replayed
      obtain ⟨rfl, rfl⟩ := replayed
      exact run
  | cons event rest ih =>
      by_cases allowed : Allowed state record event
      · simp only [replay, if_pos allowed] at replayed
        cases stepped : machine.step state event with
        | error fault => simp [stepped] at replayed
        | ok result =>
            obtain ⟨next, output⟩ := result
            rw [stepped] at replayed
            exact ih (.step run allowed stepped) replayed
      · simp [replay, allowed] at replayed

theorem Run.of_replay
    [∀ state record event, Decidable (Allowed state record event)]
    (events : List Event)
    (replays : (machine.replay observer Allowed events start
      observer.initial).isSome = true) :
    machine.Run observer Allowed start
      ((machine.replay observer Allowed events start observer.initial).get
        replays).1
      ((machine.replay observer Allowed events start observer.initial).get
        replays).2 :=
  Run.extend_replay .start (Option.some_get replays).symm

/-! Two machines in lockstep. -/

/-- The outputs for `events`, and the fault that ended them early, if any. -/
def trace (machine : Machine State Event Output Fault) :
    List Event → State → List Output × Option Fault
  | [], _ => ([], none)
  | event :: rest, state =>
      match machine.step state event with
      | .error fault => ([], some fault)
      | .ok (next, output) =>
          let (outputs, fault) := trace machine rest next
          (output :: outputs, fault)

theorem trace_eq_of_alike {First : Type u} {Second : Type z}
    {first : Machine First Event Output Fault}
    {second : Machine Second Event Output Fault}
    (Related : First → Second → Prop)
    (alike : ∀ {state other} event, Related state other →
      Alike (fun result mirror => Related result.1 mirror.1 ∧
        mirror.2 = result.2) (first.step state event) (second.step other event))
    (events : List Event) {state : First} {other : Second}
    (related : Related state other) :
    first.trace events state = second.trace events other := by
  induction events generalizing state other with
  | nil => rfl
  | cons event rest ih =>
      have answers := alike event related
      unfold trace
      generalize first.step state event = result at answers
      generalize second.step other event = mirror at answers
      cases answers with
      | error fault => rfl
      | @ok result mirror both =>
          obtain ⟨next, output⟩ := result
          obtain ⟨otherNext, otherOutput⟩ := mirror
          obtain ⟨nextRelated, rfl⟩ := both
          simp only [ih nextRelated]

end Machine

end StrManager.Library
