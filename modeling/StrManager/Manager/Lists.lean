import StrManager.Manager.Changes

namespace StrManager

open Library Function

/-! The lists behind the sources of the manager. An RTCP source has a second
list under the next identifier, which the manager does not know of. -/

def Worker.HasLists (worker : Worker) (srcId : Int) : Prop :=
  (worker.streams.lists srcId).isSome = true ∧
    (worker.kind = .rtcp → (worker.streams.lists (srcId + 1)).isSome = true)

namespace Runtime

variable {runtime : Runtime} {srcId : Int}

theorem removeSource_of_hasLists (has : runtime.worker.HasLists srcId) :
    ∃ next messages, runtime.removeSource srcId = .ok (next, messages) := by
  obtain ⟨present, present2⟩ := has
  rcases eq_or_ne runtime.worker.kind .rtcp with rtcp | plain
  · have second := present2 rtcp
    unfold Runtime.removeSource
    rw [rtcp]
    rcases RtcpWorker.removeSource_cases runtime srcId with
      ⟨missing | missing, -⟩ | ⟨_, _, next, -, -, called, -⟩
    · rw [missing] at present
      cases present
    · rw [missing] at second
      cases second
    · rw [called]
      exact ⟨next, [], rfl⟩
  · rw [removeSource_of_plain plain]
    rcases Worker.removeSource_cases runtime srcId with
      ⟨missing, -⟩ | ⟨_, next, messages, -, called, -⟩
    · rw [missing] at present
      cases present
    · exact ⟨next, messages, called⟩

theorem addDestination_of_hasLists (has : runtime.worker.HasLists srcId)
    (destId : Int) (ip : InAddr) (port : Int) :
    ∃ next, runtime.addDestination srcId destId ip port = .ok next := by
  obtain ⟨present, present2⟩ := has
  rcases eq_or_ne runtime.worker.kind .rtcp with rtcp | plain
  · have second := present2 rtcp
    unfold Runtime.addDestination
    rw [rtcp]
    rcases RtcpWorker.addDestination_cases runtime srcId destId ip port with
      ⟨missing, -⟩ | ⟨_, -, -, missing, -⟩ | ⟨_, next, -, -, called, -⟩ |
        ⟨_, _, next, -, called, -⟩
    · rw [missing] at present
      cases present
    · rw [missing] at second
      cases second
    · exact ⟨next, called⟩
    · exact ⟨next, called⟩
  · rw [addDestination_of_plain plain]
    rcases Worker.addDestination_cases runtime srcId destId ip port with
      ⟨missing, -⟩ | ⟨_, next, called, -⟩
    · rw [missing] at present
      cases present
    · exact ⟨next, called⟩

theorem removeDestination_of_hasLists (has : runtime.worker.HasLists srcId)
    (destId : Int) :
    ∃ next, runtime.removeDestination srcId destId = .ok next := by
  obtain ⟨present, present2⟩ := has
  rcases eq_or_ne runtime.worker.kind .rtcp with rtcp | plain
  · have second := present2 rtcp
    unfold Runtime.removeDestination
    rw [rtcp]
    rcases RtcpWorker.removeDestination_cases runtime srcId destId with
      ⟨missing, -⟩ | ⟨_, -, -, missing, -⟩ | ⟨_, next, -, -, called, -⟩ |
        ⟨_, _, next, -, -, called, -⟩
    · rw [missing] at present
      cases present
    · rw [missing] at second
      cases second
    · exact ⟨next, called⟩
    · exact ⟨next, called⟩
  · rw [removeDestination_of_plain plain]
    rcases Worker.removeDestination_cases runtime srcId destId with
      ⟨missing, -⟩ | ⟨_, _, next, called, -⟩
    · rw [missing] at present
      cases present
    · exact ⟨next, called⟩

theorem readTimeStamp_of_hasLists (has : runtime.worker.HasLists srcId) :
    ∃ next timeStamp,
      Worker.readTimeStamp runtime srcId = .ok (next, timeStamp) := by
  rcases Worker.readTimeStamp_cases runtime srcId with
    ⟨missing, -⟩ | ⟨list, next, -, called, -⟩
  · have present := has.1
    rw [missing] at present
    cases present
  · exact ⟨next, list.timeStamp, called⟩

end Runtime

namespace Manager

/-- Every source has its lists at the worker that serves it. -/
def Present (manager : Manager) : Prop :=
  ∀ srcId worker, manager.srcIdWorker.lookup srcId = some worker →
    (manager.workers worker).HasLists srcId

/-- A source is not removed from an RTCP worker that serves a source with the
next or the previous identifier. -/
def KeepsLists (manager : Manager) : ManagerEvent → Prop
  | .removeSource srcId =>
      ∀ worker ∈ manager.srcIdWorker.lookup srcId,
        (manager.workers worker).kind = .rtcp →
        manager.srcIdWorker.lookup (srcId + 1) ≠ some worker ∧
          manager.srcIdWorker.lookup (srcId - 1) ≠ some worker
  | _ => True

instance (manager : Manager) (event : ManagerEvent) :
    Decidable (manager.KeepsLists event) :=
  match event with
  | .removeSource _ => inferInstanceAs (Decidable (∀ _ ∈ _, _))
  | .addSource _ _ _ _ | .addDestination _ _ _ _ | .removeDestination _ _
  | .readTimeStamp _ | .handleMessage | .packet _ _ _ | .selectTimeout _
  | .elapse _ => isTrue trivial

def FreshSource (manager : Manager) : ManagerEvent → Prop
  | .addSource _ srcId _ _ => manager.srcIdWorker.lookup srcId = none
  | _ => True

instance (manager : Manager) (event : ManagerEvent) :
    Decidable (manager.FreshSource event) :=
  match event with
  | .addSource _ srcId _ _ =>
      inferInstanceAs (Decidable (manager.srcIdWorker.lookup srcId = none))
  | .removeSource _ | .addDestination _ _ _ _ | .removeDestination _ _
  | .readTimeStamp _ | .handleMessage | .packet _ _ _ | .selectTimeout _
  | .elapse _ => isTrue trivial

theorem Present.step_ok {manager : Manager} (present : manager.Present)
    (os : Os) (maxWorkers : Int) (event : ManagerEvent) :
    ∃ next output, manager.step os maxWorkers event = .ok (next, output) := by
  cases event with
  | removeSource srcId =>
      simp only [step, removeSource]
      cases mapped : manager.srcIdWorker.lookup srcId with
      | none => exact ⟨_, _, rfl⟩
      | some worker =>
          have has : (manager.runtime worker).worker.HasLists srcId :=
            present srcId worker mapped
          obtain ⟨next, messages, called⟩ :=
            Runtime.removeSource_of_hasLists has
          change ∃ after output, Except.bind
            ((manager.runtime worker).removeSource srcId) _ = _
          rw [called]
          exact ⟨_, _, rfl⟩
  | addDestination srcId destId ip port =>
      simp only [step, addDestination]
      cases mapped : manager.srcIdWorker.lookup srcId with
      | none => exact ⟨_, _, rfl⟩
      | some worker =>
          have has : (manager.runtime worker).worker.HasLists srcId :=
            present srcId worker mapped
          obtain ⟨next, called⟩ :=
            Runtime.addDestination_of_hasLists has destId ip port
          simp only [called]
          exact ⟨_, _, rfl⟩
  | removeDestination srcId destId =>
      simp only [step, removeDestination]
      cases mapped : manager.srcIdWorker.lookup srcId with
      | none => exact ⟨_, _, rfl⟩
      | some worker =>
          have has : (manager.runtime worker).worker.HasLists srcId :=
            present srcId worker mapped
          obtain ⟨next, called⟩ :=
            Runtime.removeDestination_of_hasLists has destId
          simp only [called]
          exact ⟨_, _, rfl⟩
  | readTimeStamp srcId =>
      simp only [step, readTimeStamp]
      cases mapped : manager.srcIdWorker.lookup srcId with
      | none => exact ⟨_, _, rfl⟩
      | some worker =>
          have has : (manager.runtime worker).worker.HasLists srcId :=
            present srcId worker mapped
          obtain ⟨next, timeStamp, called⟩ :=
            Runtime.readTimeStamp_of_hasLists has
          simp only [called]
          exact ⟨_, _, rfl⟩
  | addSource workerType srcId ip port => exact ⟨_, _, rfl⟩
  | handleMessage => exact ⟨_, _, rfl⟩
  | packet worker fd received => exact ⟨_, _, rfl⟩
  | selectTimeout worker => exact ⟨_, _, rfl⟩
  | elapse seconds => exact ⟨_, _, rfl⟩

end Manager

open Manager

theorem QuietStep.present {manager next : Manager}
    (quiet : QuietStep manager next) (keeps : manager.Keeps next)
    (filed : manager.Filed) (present : manager.Present) : next.Present := by
  intro srcId worker mapped
  rw [quiet.sources] at mapped
  have below := filed.sources srcId worker mapped
  have kind : (next.workers worker).kind = (manager.workers worker).kind :=
    (keeps.same worker below).1
  obtain ⟨first, second⟩ := present srcId worker mapped
  refine ⟨quiet.lists worker below srcId first, ?_⟩
  intro rtcp
  rw [kind] at rtcp
  exact quiet.lists worker below (srcId + 1) (second rtcp)

theorem AcceptedStep.present {os : Os} {maxWorkers : Int}
    {manager next middle : Manager} {workerType srcId : Int} {ip : InAddr}
    {port : Int} {worker : Nat} {runtime : Runtime}
    (accepted : AcceptedStep os maxWorkers manager next workerType srcId ip port
      worker middle runtime) (filed : manager.Filed)
    (present : manager.Present) : next.Present := by
  intro other otherWorker found
  obtain ⟨rfl, rfl⟩ | ⟨-, mapped⟩ := accepted.mapped found
  · have kind : runtime.worker.kind = (middle.runtime otherWorker).worker.kind :=
      accepted.worker_kept.1.1
    obtain ⟨first, second⟩ := Runtime.step_added accepted.called
    rw [accepted.worker_eq]
    refine ⟨first, ?_⟩
    intro rtcp
    rw [kind] at rtcp
    exact second rtcp
  · have below := filed.sources other otherWorker mapped
    have kind : (next.workers otherWorker).kind =
        (manager.workers otherWorker).kind :=
      (accepted.keeps.same otherWorker below).1
    obtain ⟨first, second⟩ := present other otherWorker mapped
    refine ⟨accepted.lists below first, ?_⟩
    intro rtcp
    rw [kind] at rtcp
    exact accepted.lists below (second rtcp)

namespace RemovedStep

variable {manager next : Manager} {srcId : Int} {worker : Nat}
  {runtime : Runtime} {messages : List Message}

theorem present (removed : RemovedStep manager next srcId worker runtime
    messages) (present : manager.Present)
    (keepsLists : manager.KeepsLists (.removeSource srcId)) :
    next.Present := by
  intro other otherWorker found
  obtain ⟨different, mapped⟩ := removed.mapped_before found
  obtain ⟨first, second⟩ := present other otherWorker mapped
  have apart : otherWorker = worker →
      (manager.workers worker).kind = .rtcp →
      other ≠ srcId + 1 ∧ other + 1 ≠ srcId := by
    rintro rfl rtcp
    obtain ⟨above, below⟩ :=
      keepsLists otherWorker removed.mapped rtcp
    constructor
    · rintro rfl
      exact above mapped
    · rintro rfl
      rw [add_sub_cancel_right] at below
      exact below mapped
  have kind : (next.workers otherWorker).kind =
      (manager.workers otherWorker).kind := by
    rcases eq_or_ne otherWorker worker with rfl | elsewhere
    · rw [removed.worker_eq]
      exact (Runtime.removeSource_stops removed.called).1.1
    · rw [removed.other_eq elsewhere]
  constructor
  · apply removed.lists first
    rintro here (same | ⟨rtcp, same⟩)
    · exact different same
    · exact (apart here rtcp).1 same
  · intro rtcp
    rw [kind] at rtcp
    apply removed.lists (second rtcp)
    rintro rfl (same | ⟨-, same⟩)
    · exact (apart rfl rtcp).2 same
    · exact different (add_right_cancel same)

theorem absent (removed : RemovedStep manager next srcId worker runtime
    messages) (breaks : ¬ manager.KeepsLists (.removeSource srcId)) :
    ¬ next.Present := by
  intro present
  apply breaks
  intro server mapped rtcp
  rw [removed.mapped] at mapped
  cases mapped
  obtain ⟨none, none2⟩ := Runtime.removeSource_dropped removed.called
  have kind : (next.workers worker).kind = .rtcp := by
    rw [removed.worker_eq]
    exact (Runtime.removeSource_stops removed.called).1.1.trans rtcp
  have stillMapped {other : Int} (different : other ≠ srcId)
      (mapped : manager.srcIdWorker.lookup other = some worker) :
      next.srcIdWorker.lookup other = some worker := by
    rw [removed.put, Table.lookup_erase, if_neg different, mapped]
  constructor
  · intro above
    obtain ⟨first, -⟩ := present (srcId + 1) worker
      (stillMapped (by omega) above)
    rw [removed.worker_eq, none2 rtcp] at first
    cases first
  · intro below
    obtain ⟨-, second⟩ := present (srcId - 1) worker
      (stillMapped (by omega) below)
    have missing := second kind
    rw [removed.worker_eq, sub_add_cancel, none] at missing
    cases missing

end RemovedStep

theorem ManagerStep.present_iff {os : Os} {maxWorkers : Int}
    {manager next : Manager} {event : ManagerEvent} {output : ManagerOutput}
    (step : ManagerStep os maxWorkers manager next event output)
    (filed : manager.Filed) (present : manager.Present) :
    next.Present ↔ manager.KeepsLists event := by
  constructor
  · intro kept
    by_contra breaks
    cases event with
    | removeSource srcId =>
        cases mapped : manager.srcIdWorker.lookup srcId with
        | none => simp [KeepsLists, mapped] at breaks
        | some worker =>
            obtain ⟨runtime, messages, removed⟩ := step.removes mapped
            exact removed.absent breaks kept
    | addSource workerType srcId ip port => exact breaks trivial
    | addDestination srcId destId ip port => exact breaks trivial
    | removeDestination srcId destId => exact breaks trivial
    | readTimeStamp srcId => exact breaks trivial
    | handleMessage => exact breaks trivial
    | packet worker fd received => exact breaks trivial
    | selectTimeout worker => exact breaks trivial
    | elapse seconds => exact breaks trivial
  · intro keepsLists
    rcases step.changes with
      quiet | ⟨_, _, _, _, rfl, -, removed⟩ |
        ⟨_, _, _, _, _, _, _, rfl, -, accepted⟩
    · exact quiet.present step.keeps filed present
    · exact removed.present present keepsLists
    · exact accepted.present filed present

/-- In a run whose removals meet the condition, every source has its lists and
no call fails. The next step keeps the lists exactly when it meets the
condition. -/
theorem present_of_keeping {os : Os} {maxWorkers : Int} {kernel : Kernel}
    {manager : Manager}
    (run : (managerMachine os maxWorkers).Run Observer.none
      (fun manager _ event => manager.KeepsLists event)
      (Manager.start kernel) manager ()) :
    manager.Present ∧
      ∀ event, ∃ next output,
        (managerMachine os maxWorkers).step manager event =
          .ok (next, output) ∧
        (next.Present ↔ manager.KeepsLists event) := by
  have present : manager.Present := by
    refine run.invariant_of (motive := fun manager _ => manager.Present)
      managerMachine_run_filed ?_ ?_
    · intro srcId worker mapped
      cases mapped
    · intro manager next record event output filed present keepsLists stepped
      exact ((ManagerStep.of_step stepped).present_iff filed present).mpr
        keepsLists
  refine ⟨present, ?_⟩
  intro event
  obtain ⟨next, output, stepped⟩ := present.step_ok os maxWorkers event
  exact ⟨next, output, stepped, (ManagerStep.of_step stepped).present_iff
    (managerMachine_run_filed run) present⟩

/-- RTCP sources with identifiers apart, next to sources of other types. -/
theorem present_apart :
    ∃ manager,
      (managerMachine .orderly 4).Run Observer.none
        (fun manager _ event => manager.KeepsLists event)
        (Manager.start .fresh) manager () ∧
      manager.Present := by
  have run : (managerMachine .orderly 4).Run Observer.none
      (fun manager _ event => manager.KeepsLists event)
      (Manager.start .fresh) _ _ :=
    .of_replay [.addSource 4 100 1 5000, .addSource 1 101 1 5002,
      .addSource 4 102 1 6000, .addDestination 102 103 9 7000,
      .removeSource 100] (by decide)
  exact ⟨_, run, (present_of_keeping run).1⟩

/-- Removing an RTCP source takes the first list of its successor away, and
removing that one dereferences a null list. -/
theorem present_consecutive :
    ∃ manager,
      (managerMachine .orderly 4).Run Observer.none
        (fun manager _ event => manager.FreshSource event)
        (Manager.start .fresh) manager () ∧
      ¬ manager.Present ∧
      (managerMachine .orderly 4).step manager (.removeSource 101) =
        .error .nullStreamList := by
  have run : (managerMachine .orderly 4).Run Observer.none
      (fun manager _ event => manager.FreshSource event)
      (Manager.start .fresh) _ _ :=
    .of_replay [.addSource 4 100 1 5000, .addSource 4 101 1 6000,
      .removeSource 100] (by decide)
  refine ⟨_, run, ?_, rfl⟩
  intro present
  obtain ⟨listed, -⟩ := present 101 0 rfl
  cases listed

end StrManager
