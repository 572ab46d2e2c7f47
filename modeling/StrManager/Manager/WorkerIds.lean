import StrManager.Manager.Changes

namespace StrManager

open Library Function

/-! The identifiers of the workers. `currentWorkerId` advances with every
accepted source and wraps at `MAX_WORKERS`, so a new worker may get an
identifier that is in use. -/

def Worker.Holding (worker : Worker) : Prop :=
  ∃ listId, (worker.streams.lists listId).isSome = true

theorem Worker.holding_iff (worker : Worker) :
    worker.Holding ↔
      ∃ entry ∈ worker.streams.management.entries, entry.2.isSome = true := by
  constructor
  · intro holding
    obtain ⟨listId, present⟩ := holding
    obtain ⟨list, found⟩ := Option.isSome_iff_exists.mp present
    have stored := StreamTables.lookup_of_lists found
    exact ⟨⟨listId, some list⟩, (Table.mem_entries_iff _ _ _).mpr stored, rfl⟩
  · intro holding
    obtain ⟨entry, member, present⟩ := holding
    refine ⟨entry.1, ?_⟩
    have stored := (Table.mem_entries_iff _ entry.1 entry.2).mp member
    rwa [StreamTables.lists, Table.subscript, stored]

instance (worker : Worker) : Decidable worker.Holding :=
  decidable_of_iff _ worker.holding_iff.symm

namespace Manager

/-- A running worker with a source: it has the list of one, or one is mapped
to it. -/
def Live (manager : Manager) (worker : Nat) : Prop :=
  (manager.workers worker).working = true ∧
    ((manager.workers worker).Holding ∨
      ∃ srcId, manager.srcIdWorker.lookup srcId = some worker)

instance (manager : Manager) (worker : Nat) :
    Decidable (∃ srcId, manager.srcIdWorker.lookup srcId = some worker) :=
  decidable_of_iff (∃ entry ∈ manager.srcIdWorker.entries, entry.2 = worker) <| by
    constructor
    · rintro ⟨⟨srcId, _⟩, member, rfl⟩
      exact ⟨srcId, (Table.mem_entries_iff _ _ _).mp member⟩
    · rintro ⟨srcId, mapped⟩
      exact ⟨⟨srcId, worker⟩, (Table.mem_entries_iff _ _ _).mpr mapped, rfl⟩

instance (manager : Manager) (worker : Nat) : Decidable (manager.Live worker) :=
  inferInstanceAs (Decidable (_ ∧ _))

def LiveAround (manager next : Manager) (worker : Nat) : Prop :=
  manager.Live worker ∨ next.Live worker

def DistinctAmong (manager : Manager) (among : Nat → Prop) : Prop :=
  ∀ first second, among first → among second →
    (manager.workers first).workerId = (manager.workers second).workerId →
    first = second

def DistinctIds (manager : Manager) : Prop :=
  manager.DistinctAmong manager.Live

def ReplacesNone (manager next : Manager) (worker : Nat) : Prop :=
  ∀ other, manager.workerIdWorker.lookup (next.workers worker).workerId =
    some other → manager.LiveAround next other → other = worker

/-- A source that makes the manager create a worker does so while no live
worker has the identifier that comes next. -/
def KeepsIds (os : Os) (manager : Manager) : ManagerEvent → Prop
  | .addSource workerType _ ip port =>
      ∀ kind ∈ WorkerKind.ofType workerType,
        (∀ key worker, manager.workerIdWorker.lookup key = some worker →
          (manager.workers worker).getWorkerType ≠ workerType) →
        ((manager.create kind).runtime manager.allocated).CanAdd os ip port →
        ∀ worker < manager.allocated, manager.Live worker →
          (manager.workers worker).workerId ≠ manager.currentWorkerId
  | _ => True

instance (os : Os) (manager : Manager) (event : ManagerEvent) :
    Decidable (manager.KeepsIds os event) :=
  match event with
  | .addSource _ _ _ _ => inferInstanceAs (Decidable (∀ _ ∈ _, _))
  | .removeSource _ | .addDestination _ _ _ _ | .removeDestination _ _
  | .readTimeStamp _ | .handleMessage | .packet _ _ _ | .selectTimeout _
  | .elapse _ => isTrue trivial

structure Fades (manager next : Manager) : Prop
    extends Shrinks manager next where
  holding : ∀ worker, (next.workers worker).Holding →
    (manager.workers worker).Holding

theorem Fades.of_absent {manager next : Manager}
    (shrinks : manager.Shrinks next)
    (absent : ∀ worker listId,
      (manager.workers worker).streams.lists listId = none →
      (next.workers worker).streams.lists listId = none) :
    manager.Fades next where
  toShrinks := shrinks
  holding := by
    intro worker holding
    obtain ⟨listId, present⟩ := holding
    refine ⟨listId, ?_⟩
    by_contra missing
    rw [Option.not_isSome_iff_eq_none] at missing
    rw [absent worker listId missing] at present
    cases present

/-- The pool names the only live worker with an identifier, and places not in
use have no lists. -/
structure IdsHold (manager : Manager) : Prop extends Filed manager where
  unused : ∀ worker, manager.allocated ≤ worker →
    ¬ (manager.workers worker).Holding
  current : ∀ key worker other,
    manager.workerIdWorker.lookup key = some worker → manager.Live other →
    (manager.workers other).workerId = key → other = worker
  distinct : manager.DistinctIds

namespace IdsHold

variable {manager next : Manager}

theorem start (kernel : Kernel) : (Manager.start kernel).IdsHold where
  toFiled := Filed.start kernel
  unused := by
    intro worker _ holding
    obtain ⟨listId, present⟩ := holding
    cases present
  current := by
    intro key worker other entry
    cases entry
  distinct := by
    intro first second live
    obtain ⟨listId, present⟩ | ⟨srcId, mapped⟩ := live.2
    · cases present
    · cases mapped

theorem below (holds : manager.IdsHold) {worker : Nat}
    (source : (manager.workers worker).Holding ∨
      ∃ srcId, manager.srcIdWorker.lookup srcId = some worker) :
    worker < manager.allocated := by
  obtain holding | ⟨srcId, mapped⟩ := source
  · by_contra above
    exact holds.unused worker (not_lt.mp above) holding
  · exact holds.sources srcId worker mapped

theorem before (holds : manager.IdsHold) (keeps : manager.Keeps next)
    (fades : manager.Fades next) {worker : Nat}
    (live : manager.LiveAround next worker) : manager.Live worker := by
  rcases live with live | live
  · exact live
  · have source : (manager.workers worker).Holding ∨
        ∃ srcId, manager.srcIdWorker.lookup srcId = some worker := by
      obtain holding | ⟨srcId, mapped⟩ := live.2
      · exact .inl (fades.holding worker holding)
      · exact .inr ⟨srcId, fades.sources srcId worker mapped⟩
    exact ⟨keeps.working worker (holds.below source) live.1, source⟩

theorem distinctAround (holds : manager.IdsHold) (keeps : manager.Keeps next)
    (fades : manager.Fades next) :
    next.DistinctAmong (manager.LiveAround next) := by
  intro first second live live2 sameId
  have before := holds.before keeps fades live
  have before2 := holds.before keeps fades live2
  apply holds.distinct first second before before2
  rwa [keeps.workerId (holds.below before.2),
    keeps.workerId (holds.below before2.2)] at sameId

theorem fade (holds : manager.IdsHold) (keeps : manager.Keeps next)
    (fades : manager.Fades next) : next.IdsHold where
  toFiled := holds.toFiled.shrink keeps fades.toShrinks
  unused := by
    intro worker above holding
    exact holds.unused worker (keeps.allocated.trans above)
      (fades.holding worker holding)
  current := by
    intro key worker other entry live sameId
    have before := holds.before keeps fades (.inr live)
    apply holds.current key worker other (fades.pool _ _ entry) before
    rwa [keeps.workerId (holds.below before.2)] at sameId
  distinct := by
    intro first second live live2
    exact holds.distinctAround keeps fades first second (.inr live) (.inr live2)

end IdsHold

end Manager

/-! What an accepted source does to the identifiers. -/

namespace AcceptedStep

open Manager

variable {os : Os} {maxWorkers : Int} {manager next middle : Manager}
  {workerType srcId : Int} {ip : InAddr} {port : Int} {worker : Nat}
  {runtime : Runtime}

theorem other_live (accepted : AcceptedStep os maxWorkers manager next
    workerType srcId ip port worker middle runtime) {other : Nat}
    (live : manager.LiveAround next other) (different : other ≠ worker) :
    manager.Live other := by
  rcases live with live | live
  · exact live
  · have same := accepted.other_eq different
    have working := live.1
    rw [same] at working
    refine ⟨working, ?_⟩
    obtain holding | ⟨otherId, mapped⟩ := live.2
    · rw [same] at holding
      exact .inl holding
    · rcases accepted.mapped mapped with ⟨-, same⟩ | ⟨-, before⟩
      · exact absurd same different
      · exact .inr ⟨otherId, before⟩

theorem distinctAround (accepted : AcceptedStep os maxWorkers manager next
    workerType srcId ip port worker middle runtime) (holds : manager.IdsHold)
    (alone : ∀ other, manager.LiveAround next other →
      (next.workers other).workerId = (next.workers worker).workerId →
      other = worker) : next.DistinctAmong (manager.LiveAround next) := by
  intro first second live live2 sameId
  rcases eq_or_ne second worker with rfl | different2
  · exact alone first live sameId
  · rcases eq_or_ne first worker with rfl | different
    · exact (alone second live2 sameId.symm).symm
    · rw [accepted.other_eq different, accepted.other_eq different2] at sameId
      exact holds.distinct first second (accepted.other_live live different)
        (accepted.other_live live2 different2) sameId

theorem idsHold (accepted : AcceptedStep os maxWorkers manager next workerType
    srcId ip port worker middle runtime) (holds : manager.IdsHold)
    (alone : ∀ other, manager.LiveAround next other →
      (next.workers other).workerId = (next.workers worker).workerId →
      other = worker) : next.IdsHold where
  toFiled := accepted.filed holds.toFiled
  unused := by
    intro other above
    have below : worker < next.allocated :=
      accepted.allocated holds.toFiled
    rw [accepted.other_eq (below.trans_le above).ne']
    exact holds.unused other (accepted.keeps.allocated.trans above)
  current := by
    intro key filed other entry live sameId
    rcases accepted.entry entry with ⟨rfl, rfl⟩ | ⟨otherKey, before⟩
    · exact alone other (.inr live) sameId
    · have away : other ≠ worker := by
        rintro rfl
        exact otherKey sameId.symm
      rw [accepted.other_eq away] at sameId
      exact holds.current key filed other before
        (accepted.other_live (.inr live) away) sameId
  distinct := by
    intro first second live live2
    exact accepted.distinctAround holds alone first second (.inr live)
      (.inr live2)

theorem alone (accepted : AcceptedStep os maxWorkers manager next workerType
    srcId ip port worker middle runtime) (holds : manager.IdsHold)
    (keepsIds : manager.KeepsIds os (.addSource workerType srcId ip port))
    {other : Nat} (live : manager.LiveAround next other)
    (sameId : (next.workers other).workerId =
      (next.workers worker).workerId) : other = worker := by
  by_contra different
  have before := accepted.other_live live different
  have kept := accepted.worker_kept.1.2
  rw [accepted.other_eq different, accepted.worker_eq, kept] at sameId
  cases accepted.chosen with
  | found key entry sameType =>
      have filedKey := holds.keys key worker entry
      exact different (holds.current key worker other entry before
        (sameId.trans filedKey))
  | created kind absent supported =>
      have canAdd := (Runtime.canAdd_iff accepted.called).mp rfl
      have createdId : ((manager.create kind).runtime
          manager.allocated).worker.workerId = manager.currentWorkerId := by
        simp [Manager.runtime, Worker.create]
      exact keepsIds kind supported absent canAdd other (holds.below before.2)
        before (sameId.trans createdId)

end AcceptedStep

namespace ManagerStep

open Manager

variable {os : Os} {maxWorkers : Int} {manager next : Manager}
  {event : ManagerEvent} {output : ManagerOutput}

theorem fades_or_accepts
    (step : ManagerStep os maxWorkers manager next event output) :
    manager.Fades next ∨
      ∃ workerType srcId ip port worker middle runtime,
        event = .addSource workerType srcId ip port ∧
        AcceptedStep os maxWorkers manager next workerType srcId ip port worker
          middle runtime := by
  rcases step.changes with
    quiet | ⟨srcId, worker, runtime, messages, -, -, removed⟩ |
      ⟨workerType, srcId, ip, port, worker, middle, runtime, named, -, accepted⟩
  · exact .inl (.of_absent quiet.shrinks quiet.absent)
  · exact .inl (.of_absent removed.shrinks fun _ _ => removed.still_absent)
  · exact .inr ⟨workerType, srcId, ip, port, worker, middle, runtime, named,
      accepted⟩

theorem idsHold (step : ManagerStep os maxWorkers manager next event output)
    (holds : manager.IdsHold) (keepsIds : manager.KeepsIds os event) :
    next.IdsHold ∧ next.DistinctAmong (manager.LiveAround next) := by
  rcases step.fades_or_accepts with
    fades | ⟨_, _, _, _, _, middle, runtime, rfl, accepted⟩
  · exact ⟨holds.fade step.keeps fades, holds.distinctAround step.keeps fades⟩
  · have alone : ∀ other, manager.LiveAround next other →
        (next.workers other).workerId = (next.workers _).workerId →
        other = _ := fun _ live sameId => accepted.alone holds keepsIds live sameId
    exact ⟨accepted.idsHold holds alone, accepted.distinctAround holds alone⟩

theorem collides (step : ManagerStep os maxWorkers manager next event output)
    (breaks : ¬ manager.KeepsIds os event) :
    ¬ next.DistinctAmong (manager.LiveAround next) := by
  cases event with
  | addSource workerType srcId ip port =>
      simp only [KeepsIds, not_forall, ne_eq, not_not, exists_prop] at breaks
      obtain ⟨kind, supported, absent, canAdd, other, below, live, sameId⟩ :=
        breaks
      cases step with
      | unsupported unknownType same =>
          rw [unknownType] at supported
          cases supported
      | rejected middle runtime chosen called put =>
          cases chosen with
          | found key entry sameType =>
              exact absurd sameType (absent key _ entry)
          | created made _ supportedMade =>
              rw [supported] at supportedMade
              cases supportedMade
              cases (Runtime.canAdd_iff called).mpr canAdd
      | unknown names missing same unserved => cases names
      | destination runtime calls mapped called put => cases calls
      | @accepted _ _ _ _ worker middle runtime chosen called committed =>
          have accepted : AcceptedStep os maxWorkers manager next workerType
              srcId ip port worker middle runtime :=
            ⟨chosen, called, committed⟩
          obtain ⟨⟨-, kept⟩, keptWorking⟩ := accepted.worker_kept
          cases chosen with
          | found key entry sameType =>
              exact absurd sameType (absent key _ entry)
          | created made _ supportedMade =>
              have same := accepted.other_eq below.ne
              have created : ((manager.create made).runtime
                  manager.allocated).worker =
                    Worker.create made manager.currentWorkerId :=
                update_self _ _ _
              intro distinct
              apply below.ne
              apply distinct
              · exact .inl live
              · refine .inr ⟨?_, .inr ⟨srcId, ?_⟩⟩
                · rw [keptWorking]
                  exact congrArg Worker.working created
                · rw [accepted.sources, Table.lookup_insert, if_pos rfl]
              · rw [same, accepted.worker_eq, kept, created, sameId]
                rfl
  | removeSource srcId => exact absurd trivial breaks
  | addDestination srcId destId ip port => exact absurd trivial breaks
  | removeDestination srcId destId => exact absurd trivial breaks
  | readTimeStamp srcId => exact absurd trivial breaks
  | handleMessage => exact absurd trivial breaks
  | packet worker fd received => exact absurd trivial breaks
  | selectTimeout worker => exact absurd trivial breaks
  | elapse seconds => exact absurd trivial breaks

theorem replacesNone {workerType srcId : Int} {ip : InAddr} {port : Int}
    {worker : Nat}
    (step : ManagerStep os maxWorkers manager next
      (.addSource workerType srcId ip port) (.returned 0 (some worker)))
    (holds : manager.IdsHold)
    (keepsIds : manager.KeepsIds os (.addSource workerType srcId ip port)) :
    manager.ReplacesNone next worker := by
  obtain ⟨server, middle, runtime, served, accepted⟩ := step.accepts
  cases served
  intro other entry live
  apply accepted.alone holds keepsIds live
  have filedKey := holds.keys _ other entry
  have below := holds.pool _ other entry
  rw [← filedKey]
  exact (accepted.keeps.same other below).2

end ManagerStep

/-- In a run whose sources meet the condition, live workers have distinct
identifiers. A call keeps the identifiers of the workers that are live before
or after it distinct exactly when it meets the condition, and then the manager
files no worker in the place of a live one. -/
theorem distinctIds_of_keeping {os : Os} {maxWorkers : Int} {kernel : Kernel}
    {manager : Manager}
    (run : (managerMachine os maxWorkers).Run Observer.none
      (fun manager _ event => manager.KeepsIds os event)
      (Manager.start kernel) manager ()) :
    manager.DistinctIds ∧
      ∀ event next output,
        (managerMachine os maxWorkers).step manager event =
          .ok (next, output) →
        (next.DistinctAmong (manager.LiveAround next) ↔
          manager.KeepsIds os event) ∧
        ∀ workerType srcId ip port worker,
          event = .addSource workerType srcId ip port →
          output = .returned 0 (some worker) → manager.KeepsIds os event →
          manager.ReplacesNone next worker := by
  have holds : manager.IdsHold := by
    refine run.invariant (motive := fun manager _ => manager.IdsHold)
      (Manager.IdsHold.start kernel) ?_
    intro manager next record event output holds keepsIds stepped
    exact ((ManagerStep.of_step stepped).idsHold holds keepsIds).1
  refine ⟨holds.distinct, ?_⟩
  intro event next output stepped
  have step := ManagerStep.of_step stepped
  constructor
  · constructor
    · intro distinct
      by_contra breaks
      exact step.collides breaks distinct
    · intro keepsIds
      exact (step.idsHold holds keepsIds).2
  · rintro workerType srcId ip port worker rfl rfl keepsIds
    exact step.replacesNone holds keepsIds

/-- Two workers, one of them stopped and replaced. -/
theorem distinctIds_three_workers :
    ∃ manager,
      (managerMachine .orderly 4).Run Observer.none
        (fun manager _ event => manager.KeepsIds .orderly event)
        (Manager.start .fresh) manager () ∧
      manager.DistinctIds := by
  have run : (managerMachine .orderly 4).Run Observer.none
      (fun manager _ event => manager.KeepsIds .orderly event)
      (Manager.start .fresh) _ _ :=
    .of_replay [.addSource 1 1 1 5000, .addSource 2 2 1 5001, .removeSource 1,
      .handleMessage, .addSource 1 3 1 5002] (by decide)
  exact ⟨_, run, (distinctIds_of_keeping run).1⟩

/-- With two identifiers, the third source creates a worker while the first
worker still has the identifier. -/
theorem distinctIds_wrapped :
    ∃ manager,
      (managerMachine .orderly 2).Run Observer.none (fun _ _ _ => True)
        (Manager.start .fresh) manager () ∧
      ¬ manager.DistinctIds := by
  have run : (managerMachine .orderly 2).Run Observer.none (fun _ _ _ => True)
      (Manager.start .fresh) _ _ :=
    .of_replay [.addSource 1 1 1 5000, .addSource 1 2 1 5001,
      .addSource 2 3 1 5002] (by decide)
  refine ⟨_, run, ?_⟩
  intro distinct
  have equal := distinct 0 1 ⟨rfl, .inl ⟨1, rfl⟩⟩ ⟨rfl, .inl ⟨3, rfl⟩⟩ rfl
  cases equal

end StrManager
