import StrManager.Manager.Basic

namespace StrManager

open Library Function

/-! What every step of the manager keeps: the workers that exist stay, keep
their class and identifier and never start again, and the tables name existing
workers. -/

namespace Manager

structure Keeps (manager next : Manager) : Prop where
  allocated : manager.allocated ≤ next.allocated
  same : ∀ worker < manager.allocated,
    (manager.runtime worker).SameWorker (next.runtime worker)
  working : ∀ worker < manager.allocated,
    (next.workers worker).working = true →
    (manager.workers worker).working = true

namespace Keeps

variable {manager middle next : Manager}

theorem workerType (keeps : manager.Keeps next) {worker : Nat}
    (below : worker < manager.allocated) :
    (next.workers worker).getWorkerType =
      (manager.workers worker).getWorkerType :=
  congrArg WorkerKind.workerType (keeps.same worker below).1

theorem workerId (keeps : manager.Keeps next) {worker : Nat}
    (below : worker < manager.allocated) :
    (next.workers worker).workerId = (manager.workers worker).workerId :=
  (keeps.same worker below).2

theorem of_workers (allocated : next.allocated = manager.allocated)
    (workers : next.workers = manager.workers) : manager.Keeps next where
  allocated := allocated.ge
  same := by
    intro worker _
    unfold Runtime.SameWorker runtime
    rw [workers]
    exact ⟨rfl, rfl⟩
  working := by
    intro worker _ working
    rwa [workers] at working

theorem trans (first : manager.Keeps middle) (second : middle.Keeps next) :
    manager.Keeps next where
  allocated := first.allocated.trans second.allocated
  same := by
    intro worker below
    obtain ⟨kind, workerId⟩ := first.same worker below
    obtain ⟨kind2, workerId2⟩ :=
      second.same worker (below.trans_le first.allocated)
    exact ⟨kind2.trans kind, workerId2.trans workerId⟩
  working := by
    intro worker below working
    have before := second.working worker (below.trans_le first.allocated)
    exact first.working worker below (before working)

theorem put {worker : Nat} {runtime : Runtime}
    (same : (manager.runtime worker).SameWorker runtime)
    (working : runtime.worker.working = true →
      (manager.workers worker).working = true) :
    manager.Keeps (manager.put worker runtime) where
  allocated := le_refl _
  same := by
    intro other _
    rcases eq_or_ne other worker with rfl | different
    · unfold Runtime.SameWorker Manager.runtime at same ⊢
      simpa using same
    · unfold Runtime.SameWorker Manager.runtime
      simp [different]
  working := by
    intro other _ stillWorking
    rcases eq_or_ne other worker with rfl | different
    · rw [put_workers, update_self] at stillWorking
      exact working stillWorking
    · rwa [put_workers, update_of_ne different] at stillWorking

theorem put_streamsOnly {worker : Nat} {runtime : Runtime}
    (streamsOnly : (manager.runtime worker).StreamsOnly runtime) :
    manager.Keeps (manager.put worker runtime) := by
  apply put streamsOnly.sameWorker
  intro working
  rwa [streamsOnly.working] at working

theorem create (manager : Manager) (kind : WorkerKind) :
    manager.Keeps (manager.create kind) where
  allocated := Nat.le_succ _
  same := by
    intro worker below
    unfold Runtime.SameWorker runtime
    simp [below.ne]
  working := by
    intro worker below working
    rwa [create_workers, update_of_ne below.ne] at working

theorem called {os : Os} {worker : Nat} {runtime : Runtime} {srcId : Int}
    {ip : InAddr} {port : Int} {accepted : Bool}
    (called : (manager.runtime worker).step os (.addSource srcId ip port) =
      .ok (runtime, .added accepted)) :
    manager.Keeps (manager.put worker runtime) := by
  obtain ⟨same, working⟩ := Runtime.step_addSource called
  apply put same
  intro stillWorking
  rwa [working] at stillWorking

end Keeps

theorem Chosen.keeps {manager middle : Manager} {workerType : Int}
    {worker : Nat} (chosen : manager.Chosen workerType worker middle) :
    manager.Keeps middle := by
  cases chosen with
  | found key entry sameType => exact .of_workers rfl rfl
  | created kind absent supported => exact .create manager kind

theorem Chosen.tables {manager middle : Manager} {workerType : Int}
    {worker : Nat} (chosen : manager.Chosen workerType worker middle) :
    middle.srcIdWorker = manager.srcIdWorker ∧
      middle.workerIdWorker = manager.workerIdWorker ∧
      middle.queue = manager.queue := by
  cases chosen with
  | found key entry sameType => exact ⟨rfl, rfl, rfl⟩
  | created kind absent supported => exact ⟨rfl, rfl, rfl⟩

structure Shrinks (manager next : Manager) : Prop where
  sources : ∀ srcId worker, next.srcIdWorker.lookup srcId = some worker →
    manager.srcIdWorker.lookup srcId = some worker
  pool : ∀ key worker, next.workerIdWorker.lookup key = some worker →
    manager.workerIdWorker.lookup key = some worker

/-- The tables name existing workers, and the pool files every worker under
its identifier and has at most one worker of a type. -/
structure Filed (manager : Manager) : Prop where
  sources : ∀ srcId worker, manager.srcIdWorker.lookup srcId = some worker →
    worker < manager.allocated
  pool : ∀ key worker, manager.workerIdWorker.lookup key = some worker →
    worker < manager.allocated
  keys : ∀ key worker, manager.workerIdWorker.lookup key = some worker →
    (manager.workers worker).workerId = key
  single : ∀ key key2 worker worker2,
    manager.workerIdWorker.lookup key = some worker →
    manager.workerIdWorker.lookup key2 = some worker2 →
    (manager.workers worker).getWorkerType =
      (manager.workers worker2).getWorkerType → worker = worker2

theorem Filed.start (kernel : Kernel) : (start kernel).Filed where
  sources := by
    intro srcId worker mapped
    cases mapped
  pool := by
    intro key worker entry
    cases entry
  keys := by
    intro key worker entry
    cases entry
  single := by
    intro key key2 worker worker2 entry
    cases entry

theorem Filed.shrink {manager next : Manager} (filed : manager.Filed)
    (keeps : manager.Keeps next) (shrinks : manager.Shrinks next) :
    next.Filed where
  sources := by
    intro srcId worker mapped
    have below := filed.sources srcId worker (shrinks.sources _ _ mapped)
    exact below.trans_le keeps.allocated
  pool := by
    intro key worker entry
    have below := filed.pool key worker (shrinks.pool _ _ entry)
    exact below.trans_le keeps.allocated
  keys := by
    intro key worker entry
    have before := shrinks.pool key worker entry
    have same := keeps.same worker (filed.pool key worker before)
    exact same.2.trans (filed.keys key worker before)
  single := by
    intro key key2 worker worker2 entry entry2 sameType
    have before := shrinks.pool key worker entry
    have before2 := shrinks.pool key2 worker2 entry2
    apply filed.single key key2 worker worker2 before before2
    rwa [keeps.workerType (filed.pool key worker before),
      keeps.workerType (filed.pool key2 worker2 before2)] at sameType

theorem Filed.chosen {manager middle : Manager} {workerType : Int}
    {worker : Nat} (filed : manager.Filed)
    (chosen : manager.Chosen workerType worker middle) :
    worker < middle.allocated := by
  cases chosen with
  | found key entry sameType => exact filed.pool key worker entry
  | created kind absent supported => exact Nat.lt_succ_self _

end Manager

/-- The `addSource` call that a worker accepted, and what the manager did with
the result. -/
structure AcceptedStep (os : Os) (maxWorkers : Int) (manager next : Manager)
    (workerType srcId : Int) (ip : InAddr) (port : Int) (worker : Nat)
    (middle : Manager) (runtime : Runtime) : Prop where
  chosen : manager.Chosen workerType worker middle
  called : (middle.runtime worker).step os (.addSource srcId ip port) =
    .ok (runtime, .added true)
  committed : next = (middle.put worker runtime).commit maxWorkers srcId worker

namespace AcceptedStep

variable {os : Os} {maxWorkers : Int} {manager next middle : Manager}
  {workerType srcId : Int} {ip : InAddr} {port : Int} {worker : Nat}
  {runtime : Runtime}

theorem keeps (accepted : AcceptedStep os maxWorkers manager next workerType
    srcId ip port worker middle runtime) : manager.Keeps next := by
  obtain ⟨chosen, called, rfl⟩ := accepted
  exact (chosen.keeps.trans (.called called)).trans (.of_workers rfl rfl)

theorem sources (accepted : AcceptedStep os maxWorkers manager next workerType
    srcId ip port worker middle runtime) :
    next.srcIdWorker = manager.srcIdWorker.insert srcId worker := by
  obtain ⟨chosen, called, rfl⟩ := accepted
  rw [← chosen.tables.1]
  rfl

theorem pool (accepted : AcceptedStep os maxWorkers manager next workerType
    srcId ip port worker middle runtime) :
    next.workerIdWorker = manager.workerIdWorker.insert
      (next.workers worker).workerId worker := by
  obtain ⟨chosen, called, rfl⟩ := accepted
  rw [← chosen.tables.2.1]
  rfl

theorem worker_eq (accepted : AcceptedStep os maxWorkers manager next workerType
    srcId ip port worker middle runtime) :
    next.workers worker = runtime.worker := by
  obtain ⟨chosen, called, rfl⟩ := accepted
  exact update_self _ _ _

theorem worker_kept (accepted : AcceptedStep os maxWorkers manager next
    workerType srcId ip port worker middle runtime) :
    (middle.runtime worker).SameWorker runtime ∧
      (next.workers worker).working = (middle.workers worker).working := by
  obtain ⟨same, working⟩ := Runtime.step_addSource accepted.called
  rw [accepted.worker_eq]
  exact ⟨same, working⟩

theorem other_eq (accepted : AcceptedStep os maxWorkers manager next workerType
    srcId ip port worker middle runtime) {other : Nat}
    (different : other ≠ worker) :
    next.workers other = manager.workers other := by
  obtain ⟨chosen, called, rfl⟩ := accepted
  have put : ((middle.put worker runtime).commit maxWorkers srcId
      worker).workers other = middle.workers other :=
    update_of_ne different _ _
  rw [put]
  cases chosen with
  | found key entry sameType => rfl
  | created kind absent supported => exact update_of_ne different _ _

end AcceptedStep

namespace ManagerStep

variable {os : Os} {maxWorkers : Int} {manager next : Manager}
  {event : ManagerEvent} {output : ManagerOutput}

theorem destination_streamsOnly {runtime after : Runtime} {srcId : Int}
    {call : WorkerEvent} {result : WorkerOutput}
    (calls : event.destinationCall = some (srcId, call))
    (called : runtime.step os call = .ok (after, result)) :
    runtime.StreamsOnly after := by
  obtain ⟨destId, ip, port, -, rfl⟩ | ⟨destId, -, rfl⟩ :=
    ManagerEvent.destinationCall_cases calls
  · exact Runtime.addDestination_streamsOnly
      (Runtime.step_addDestination called).2
  · exact Runtime.removeDestination_streamsOnly
      (Runtime.step_removeDestination called).2

theorem keeps (step : ManagerStep os maxWorkers manager next event output) :
    manager.Keeps next := by
  cases step with
  | unsupported unknownType same =>
      subst same
      exact .of_workers rfl rfl
  | rejected middle runtime chosen called put =>
      subst put
      exact chosen.keeps.trans (.called called)
  | accepted middle runtime chosen called committed =>
      exact AcceptedStep.keeps ⟨chosen, called, committed⟩
  | unknown names missing same unserved =>
      subst same
      exact .of_workers rfl rfl
  | @removed srcId worker runtime messages mapped called put =>
      subst put
      obtain ⟨same, stops⟩ := Runtime.removeSource_stops called
      have kept : manager.Keeps (manager.put worker runtime) := by
        apply Manager.Keeps.put same
        intro working
        rcases stops with ⟨kept, -⟩ | ⟨-, -, stopped, -⟩
        · rwa [kept] at working
        · rw [stopped] at working
          cases working
      exact kept.trans (.of_workers rfl rfl)
  | destination runtime calls mapped called put =>
      subst put
      exact .put_streamsOnly (destination_streamsOnly calls called)
  | @read srcId worker timeStamp runtime mapped called put =>
      subst put
      exact .put_streamsOnly (Worker.readTimeStamp_kept called).1
  | handled same =>
      subst same
      obtain ⟨workers, allocated, -⟩ := manager.handleMessage_kept
      exact .of_workers allocated workers
  | @packet worker fd received put =>
      subst put
      have step := Runtime.process_step (manager.runtime worker) fd received
      apply Manager.Keeps.put step.sameWorker
      intro working
      rwa [step.working] at working
  | timedOut same =>
      subst same
      exact .of_workers rfl rfl
  | elapsed same =>
      subst same
      exact .of_workers rfl rfl

end ManagerStep

end StrManager
