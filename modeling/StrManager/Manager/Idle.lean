import StrManager.Manager.Changes

namespace StrManager

open Library Function

/-! The idle protocol. A worker that lost its last list queues a message with
its identifier and stops; the manager takes the identifier out of the pool when
it receives the message, and until then may choose the worker again. -/

def Manager.registeredSources :
    Observer ManagerEvent ManagerOutput (Int → Bool) where
  initial := fun _ => false
  update registered
    | .addSource _ srcId _ _, .returned code _ =>
        if code = 0 then update registered srcId true else registered
    | .removeSource srcId, _ => update registered srcId false
    | _, _ => registered

theorem Manager.registeredSources_cases {record : Int → Bool}
    {event : ManagerEvent} {output : ManagerOutput} {srcId : Int}
    (recorded : registeredSources.update record event output srcId = true) :
    (∃ workerType ip port server,
      event = .addSource workerType srcId ip port ∧
        output = .returned 0 server) ∨
      (record srcId = true ∧ event ≠ .removeSource srcId) := by
  unfold registeredSources at recorded
  dsimp only at recorded
  split at recorded
  · rename_i workerType newId ip port code server
    split at recorded
    · subst code
      rw [update_apply] at recorded
      split at recorded
      · subst srcId
        exact .inl ⟨workerType, ip, port, server, rfl, rfl⟩
      · exact .inr ⟨recorded, by simp⟩
    · exact .inr ⟨recorded, by simp⟩
  · rename_i oldId
    rw [update_apply] at recorded
    split at recorded
    · cases recorded
    · refine .inr ⟨recorded, ?_⟩
      rintro ⟨⟩
      contradiction
  · rename_i notRemoved notAdded
    exact .inr ⟨recorded, notRemoved srcId⟩

namespace Manager

/-- Every registered source is served by a running worker. -/
def Serves (manager : Manager) (registered : Int → Bool) : Prop :=
  ∀ srcId, registered srcId = true →
    ∃ worker, manager.srcIdWorker.lookup srcId = some worker ∧
      (manager.workers worker).working = true

/-- The next turn of the handler erases no worker that a source maps to. -/
def HandlerSafe (manager : Manager) : Prop :=
  ∀ key worker, manager.workerIdWorker.lookup key = some worker →
    manager.handleMessage.workerIdWorker.lookup key = none →
    ∀ srcId, manager.srcIdWorker.lookup srcId ≠ some worker

/-- No worker that may report to be idle has the next identifier, apart from
one that serves only `srcId`, and no queued report names it. -/
def UnusedId (manager : Manager) (srcId : Int) : Prop :=
  (∀ other worker, manager.srcIdWorker.lookup other = some worker →
    other ≠ srcId → (manager.workers worker).kind ≠ .rtcp →
    (manager.workers worker).workerId ≠ manager.currentWorkerId) ∧
  ∀ message ∈ manager.queue, message.type = 100 →
    message.sender ≠ manager.currentWorkerId

/-- A worker of the pool that takes the source runs, and a worker created for
the source gets an unused identifier. -/
def KeepsRunning (os : Os) (manager : Manager) : ManagerEvent → Prop
  | .addSource workerType srcId ip port =>
      (∀ key worker, manager.workerIdWorker.lookup key = some worker →
        (manager.workers worker).getWorkerType = workerType →
        (manager.runtime worker).CanAdd os ip port →
        (manager.workers worker).working = true) ∧
      ∀ kind ∈ WorkerKind.ofType workerType,
        (∀ key worker, manager.workerIdWorker.lookup key = some worker →
          (manager.workers worker).getWorkerType ≠ workerType) →
        ((manager.create kind).runtime manager.allocated).CanAdd os ip port →
        manager.UnusedId srcId
  | _ => True

instance (manager : Manager) (srcId : Int) :
    Decidable (manager.UnusedId srcId) :=
  inferInstanceAs (Decidable (_ ∧ _))

instance (os : Os) (manager : Manager) (event : ManagerEvent) :
    Decidable (manager.KeepsRunning os event) :=
  match event with
  | .addSource _ _ _ _ => inferInstanceAs (Decidable (_ ∧ _))
  | .removeSource _ | .addDestination _ _ _ _ | .removeDestination _ _
  | .readTimeStamp _ | .handleMessage | .packet _ _ _ | .selectTimeout _
  | .elapse _ => isTrue trivial

/-- Sources map to running workers, and a worker that may stop is the one the
pool has under its identifier. -/
structure IdleHold (manager : Manager) : Prop extends Filed manager where
  working : ∀ srcId worker, manager.srcIdWorker.lookup srcId = some worker →
    (manager.workers worker).working = true
  lists : ∀ srcId worker, manager.srcIdWorker.lookup srcId = some worker →
    (manager.workers worker).kind ≠ .rtcp →
    ((manager.workers worker).streams.lists srcId).isSome = true
  current : ∀ key filed srcId worker,
    manager.workerIdWorker.lookup key = some filed →
    manager.srcIdWorker.lookup srcId = some worker →
    (manager.workers worker).kind ≠ .rtcp →
    (manager.workers worker).workerId = key → worker = filed
  queued : ∀ message ∈ manager.queue, message.type = 100 →
    ∀ worker, manager.workerIdWorker.lookup message.sender = some worker →
    (manager.workers worker).working = false

theorem IdleHold.start (kernel : Kernel) : (Manager.start kernel).IdleHold where
  toFiled := Filed.start kernel
  working := by
    intro srcId worker mapped
    cases mapped
  lists := by
    intro srcId worker mapped
    cases mapped
  current := by
    intro key filed srcId worker entry
    cases entry
  queued := by
    intro message member
    cases member

theorem IdleHold.handlerSafe {manager : Manager} (holds : manager.IdleHold) :
    manager.HandlerSafe := by
  intro key worker entry erased srcId mapped
  unfold handleMessage at erased
  split at erased
  · rw [entry] at erased
    cases erased
  · rename_i message rest queue
    have member : message ∈ manager.queue := by
      rw [queue]
      exact List.mem_cons_self
    dsimp only at erased
    split at erased
    · rename_i idle
      rw [Table.lookup_erase] at erased
      split at erased
      · subst key
        have stopped := holds.queued message member idle worker entry
        rw [holds.working srcId worker mapped] at stopped
        cases stopped
      · rw [entry] at erased
        cases erased
    · rw [entry] at erased
      cases erased

end Manager

open Manager

theorem QuietStep.idleHold {manager next : Manager}
    (quiet : QuietStep manager next) (keeps : manager.Keeps next)
    (filed : next.Filed) (holds : manager.IdleHold) : next.IdleHold where
  toFiled := filed
  working := by
    intro srcId worker mapped
    rw [quiet.sources] at mapped
    rw [quiet.working worker (holds.sources srcId worker mapped)]
    exact holds.working srcId worker mapped
  lists := by
    intro srcId worker mapped plain
    rw [quiet.sources] at mapped
    have below := holds.sources srcId worker mapped
    have kind : (next.workers worker).kind = (manager.workers worker).kind :=
      (keeps.same worker below).1
    rw [kind] at plain
    exact quiet.lists worker below srcId
      (holds.lists srcId worker mapped plain)
  current := by
    intro key filedWorker srcId worker entry mapped plain sameId
    rw [quiet.sources] at mapped
    have same := keeps.same worker (holds.sources srcId worker mapped)
    have kind : (next.workers worker).kind = (manager.workers worker).kind :=
      same.1
    rw [kind] at plain
    exact holds.current key filedWorker srcId worker (quiet.pool _ _ entry)
      mapped plain (same.2.symm.trans sameId)
  queued := by
    intro message member idle worker entry
    have before := quiet.pool _ _ entry
    rw [quiet.working worker (holds.pool _ worker before)]
    exact holds.queued message (quiet.queue message member idle) idle worker
      before

namespace RemovedStep

variable {manager next : Manager} {srcId : Int} {worker : Nat}
  {runtime : Runtime} {messages : List Message}

theorem idleHold (removed : RemovedStep manager next srcId worker runtime
    messages) (keeps : manager.Keeps next) (filed : next.Filed)
    (holds : manager.IdleHold) : next.IdleHold where
  toFiled := filed
  working := by
    intro other otherWorker found
    obtain ⟨different, mapped⟩ := removed.mapped_before found
    have before := holds.working other otherWorker mapped
    rcases eq_or_ne otherWorker worker with rfl | elsewhere
    · rw [removed.worker_eq]
      obtain ⟨-, ⟨kept, -⟩ | ⟨plain, empty, -, -⟩⟩ :=
        Runtime.removeSource_stops removed.called
      · rw [kept]
        exact before
      · -- the list of the other source is still there, so the table is not empty
        have present := removed.lists
          (holds.lists other otherWorker mapped plain) (by
            rintro - (same | ⟨rtcp, -⟩)
            · exact different same
            · exact plain rtcp)
        rw [removed.worker_eq] at present
        obtain ⟨list, stored⟩ := Option.isSome_iff_exists.mp present
        rw [StreamTables.isEmpty_eq_false stored] at empty
        cases empty
    · rw [removed.other_eq elsewhere]
      exact before
  lists := by
    intro other otherWorker found plain
    obtain ⟨different, mapped⟩ := removed.mapped_before found
    have below := holds.sources other otherWorker mapped
    have kind : (next.workers otherWorker).kind =
        (manager.workers otherWorker).kind := (keeps.same otherWorker below).1
    rw [kind] at plain
    apply removed.lists (holds.lists other otherWorker mapped plain)
    rintro rfl (same | ⟨rtcp, -⟩)
    · exact different same
    · exact plain rtcp
  current := by
    intro key filedWorker other otherWorker entry found plain sameId
    obtain ⟨-, mapped⟩ := removed.mapped_before found
    have same := keeps.same otherWorker (holds.sources other _ mapped)
    have kind : (next.workers otherWorker).kind =
        (manager.workers otherWorker).kind := same.1
    rw [kind] at plain
    rw [removed.put] at entry
    exact holds.current key filedWorker other otherWorker entry mapped plain
      (same.2.symm.trans sameId)
  queued := by
    intro message member idle filedWorker entry
    rw [removed.put] at entry member
    have below := holds.pool _ filedWorker entry
    have stays (stopped : (manager.workers filedWorker).working = false) :
        (next.workers filedWorker).working = false := by
      rw [Bool.eq_false_iff] at stopped ⊢
      exact fun runs => stopped (keeps.working filedWorker below runs)
    rcases List.mem_append.mp member with old | new
    · exact stays (holds.queued message old idle filedWorker entry)
    · obtain ⟨-, ⟨-, none⟩ | ⟨plain, -, stopped, sent⟩⟩ :=
        Runtime.removeSource_stops removed.called
      · rw [none] at new
        cases new
      · rw [sent, List.mem_singleton] at new
        subst new
        have here := holds.current _ filedWorker srcId worker entry
          removed.mapped plain rfl
        rw [← here, removed.worker_eq]
        exact stopped

end RemovedStep

namespace AcceptedStep

variable {os : Os} {maxWorkers : Int} {manager next middle : Manager}
  {workerType srcId : Int} {ip : InAddr} {port : Int} {worker : Nat}
  {runtime : Runtime}

theorem unshared (accepted : AcceptedStep os maxWorkers manager next workerType
    srcId ip port worker middle runtime) (holds : manager.IdleHold)
    (keepsRunning : manager.KeepsRunning os
      (.addSource workerType srcId ip port)) :
    (next.workers worker).working = true ∧
      (∀ other otherWorker, other ≠ srcId →
        manager.srcIdWorker.lookup other = some otherWorker →
        (manager.workers otherWorker).kind ≠ .rtcp →
        (manager.workers otherWorker).workerId =
          (next.workers worker).workerId → otherWorker = worker) ∧
      ∀ message ∈ manager.queue, message.type = 100 →
        message.sender ≠ (next.workers worker).workerId := by
  obtain ⟨⟨-, sameId⟩, working⟩ := accepted.worker_kept
  have canAdd := (Runtime.canAdd_iff accepted.called).mp rfl
  rw [accepted.worker_eq] at working ⊢
  rw [working, sameId]
  cases accepted.chosen with
  | found key entry sameType =>
      have filedKey : (manager.workers worker).workerId = key :=
        holds.keys key worker entry
      have runs := keepsRunning.1 key worker entry sameType canAdd
      refine ⟨runs, ?_, ?_⟩
      · intro other otherWorker _ mapped plain sharedId
        exact holds.current key worker other otherWorker entry mapped plain
          (sharedId.trans filedKey)
      · intro message member idle named
        have sender : message.sender = key := named.trans filedKey
        rw [← sender] at entry
        have stopped := holds.queued message member idle worker entry
        rw [runs] at stopped
        cases stopped
  | created kind absent supported =>
      obtain ⟨unshared, unnamed⟩ :=
        keepsRunning.2 kind supported absent canAdd
      have created : ((manager.create kind).runtime manager.allocated).worker =
          Worker.create kind manager.currentWorkerId := update_self _ _ _
      refine ⟨congrArg Worker.working created, ?_, ?_⟩
      · intro other otherWorker different mapped plain sharedId
        rw [created] at sharedId
        exact absurd sharedId
          (unshared other otherWorker mapped different plain)
      · intro message member idle
        rw [created]
        exact unnamed message member idle

theorem idleHold (accepted : AcceptedStep os maxWorkers manager next workerType
    srcId ip port worker middle runtime) (holds : manager.IdleHold)
    (keepsRunning : manager.KeepsRunning os
      (.addSource workerType srcId ip port)) : next.IdleHold := by
  obtain ⟨runs, alone, unnamed⟩ := accepted.unshared holds keepsRunning
  have keeps := accepted.keeps
  refine ⟨accepted.filed holds.toFiled, ?_, ?_, ?_, ?_⟩
  · intro other otherWorker found
    rcases eq_or_ne otherWorker worker with rfl | elsewhere
    · exact runs
    · obtain ⟨-, same⟩ | ⟨-, mapped⟩ := accepted.mapped found
      · exact absurd same elsewhere
      · rw [accepted.other_eq elsewhere]
        exact holds.working other otherWorker mapped
  · intro other otherWorker found plain
    obtain ⟨rfl, rfl⟩ | ⟨-, mapped⟩ := accepted.mapped found
    · rw [accepted.worker_eq]
      exact (Runtime.step_added accepted.called).1
    · have below := holds.sources other otherWorker mapped
      have kind : (next.workers otherWorker).kind =
          (manager.workers otherWorker).kind := (keeps.same otherWorker below).1
      rw [kind] at plain
      exact accepted.lists below (holds.lists other otherWorker mapped plain)
  · intro key filedWorker other otherWorker entry found plain sameId
    obtain ⟨rfl, rfl⟩ | ⟨different, mapped⟩ := accepted.mapped found
    · obtain ⟨-, same⟩ | ⟨otherKey, -⟩ := accepted.entry entry
      · exact same.symm
      · exact absurd sameId.symm otherKey
    · have same := keeps.same otherWorker (holds.sources other _ mapped)
      have kind : (next.workers otherWorker).kind =
          (manager.workers otherWorker).kind := same.1
      have workerId : (next.workers otherWorker).workerId =
          (manager.workers otherWorker).workerId := same.2
      rw [kind] at plain
      rw [workerId] at sameId
      obtain ⟨rfl, rfl⟩ | ⟨-, before⟩ := accepted.entry entry
      · exact alone other otherWorker different mapped plain sameId
      · exact holds.current key filedWorker other otherWorker before mapped
          plain sameId
  · intro message member idle filedWorker entry
    rw [accepted.queue] at member
    obtain ⟨named, -⟩ | ⟨-, before⟩ := accepted.entry entry
    · exact absurd named (unnamed message member idle)
    · have stopped := holds.queued message member idle filedWorker before
      have below := holds.pool _ filedWorker before
      rw [Bool.eq_false_iff] at stopped ⊢
      exact fun runs => stopped (keeps.working filedWorker below runs)

end AcceptedStep

namespace ManagerStep

variable {os : Os} {maxWorkers : Int} {manager next : Manager}
  {event : ManagerEvent} {output : ManagerOutput}

theorem idleHold (step : ManagerStep os maxWorkers manager next event output)
    (holds : manager.IdleHold) (keepsRunning : manager.KeepsRunning os event) :
    next.IdleHold := by
  have filed := step.filed holds.toFiled
  rcases step.changes with
    quiet | ⟨_, _, _, _, -, -, removed⟩ |
      ⟨_, _, _, _, _, _, _, rfl, -, accepted⟩
  · exact quiet.idleHold step.keeps filed holds
  · exact removed.idleHold step.keeps filed holds
  · exact accepted.idleHold holds keepsRunning

theorem registered (step : ManagerStep os maxWorkers manager next event output)
    {record : Int → Bool}
    (mapped : ∀ srcId, record srcId = true →
      (manager.srcIdWorker.lookup srcId).isSome = true) (srcId : Int)
    (recorded : registeredSources.update record event output srcId = true) :
    (next.srcIdWorker.lookup srcId).isSome = true := by
  rcases registeredSources_cases recorded with
    ⟨workerType, ip, port, server, rfl, rfl⟩ | ⟨before, kept⟩
  · obtain ⟨worker, middle, runtime, -, accepted⟩ := step.accepts
    rw [accepted.sources, Table.lookup_insert, if_pos rfl]
    rfl
  · exact step.mapped_kept (mapped srcId before) kept

theorem notServed {workerType srcId : Int} {ip : InAddr} {port key : Int}
    {worker : Nat}
    (step : ManagerStep os maxWorkers manager next
      (.addSource workerType srcId ip port) (.returned 0 (some worker)))
    (filed : manager.Filed)
    (entry : manager.workerIdWorker.lookup key = some worker)
    (stopped : (manager.workers worker).working = false)
    (record : Int → Bool) :
    ¬ next.Serves (registeredSources.update record
      (.addSource workerType srcId ip port) (.returned 0 (some worker))) := by
  obtain ⟨_, middle, runtime, served, accepted⟩ := step.accepts
  cases served
  intro serves
  obtain ⟨server, mapped, runs⟩ := serves srcId (by simp [registeredSources])
  rw [accepted.sources, Table.lookup_insert, if_pos rfl] at mapped
  cases mapped
  have below := filed.pool key worker entry
  rw [accepted.worker_kept.2, accepted.middle_eq below, stopped] at runs
  cases runs

end ManagerStep

/-- In a run whose sources meet the condition, every registered source is
served by a running worker and the handler erases no worker of a source. A
source accepted by a stopped worker breaks this at once. -/
theorem idleSafe_of_keeping {os : Os} {maxWorkers : Int} {kernel : Kernel}
    {manager : Manager} {registered : Int → Bool}
    (run : (managerMachine os maxWorkers).Run registeredSources
      (fun manager _ event => manager.KeepsRunning os event)
      (Manager.start kernel) manager registered) :
    manager.Serves registered ∧ manager.HandlerSafe ∧
      ∀ workerType srcId ip port key worker next,
        manager.workerIdWorker.lookup key = some worker →
        (manager.workers worker).working = false →
        (managerMachine os maxWorkers).step manager
          (.addSource workerType srcId ip port) =
            .ok (next, .returned 0 (some worker)) →
        ¬ next.Serves (registeredSources.update registered
          (.addSource workerType srcId ip port)
          (.returned 0 (some worker))) := by
  have holds : manager.IdleHold := by
    refine run.invariant (motive := fun manager _ => manager.IdleHold)
      (Manager.IdleHold.start kernel) ?_
    intro manager next record event output holds keepsRunning stepped
    exact (ManagerStep.of_step stepped).idleHold holds keepsRunning
  have mapped : ∀ srcId, registered srcId = true →
      (manager.srcIdWorker.lookup srcId).isSome = true := by
    refine run.invariant (motive := fun manager record =>
      ∀ srcId, record srcId = true →
        (manager.srcIdWorker.lookup srcId).isSome = true) ?_ ?_
    · intro srcId impossible
      cases impossible
    · intro manager next record event output mapped _ stepped
      exact (ManagerStep.of_step stepped).registered mapped
  refine ⟨?_, holds.handlerSafe, ?_⟩
  · intro srcId added
    obtain ⟨worker, found⟩ := Option.isSome_iff_exists.mp (mapped srcId added)
    exact ⟨worker, found, holds.working srcId worker found⟩
  · intro workerType srcId ip port key worker next entry stopped stepped
    have step : ManagerStep os maxWorkers manager next
        (.addSource workerType srcId ip port) (.returned 0 (some worker)) :=
      .of_step stepped
    exact step.notServed holds.toFiled entry stopped registered

/-- The handler takes a stopped worker out of the pool before the next forward
source arrives. -/
theorem idleSafe_handled :
    ∃ manager registered,
      (managerMachine .orderly 4).Run registeredSources
        (fun manager _ event => manager.KeepsRunning .orderly event)
        (Manager.start .fresh) manager registered ∧
      manager.Serves registered := by
  have run : (managerMachine .orderly 4).Run registeredSources
      (fun manager _ event => manager.KeepsRunning .orderly event)
      (Manager.start .fresh) _ _ :=
    .of_replay [.addSource 1 1 1 5000, .addSource 2 2 1 5001, .removeSource 1,
      .handleMessage, .addSource 1 3 1 5000] (by decide)
  exact ⟨_, _, run, (idleSafe_of_keeping run).1⟩

/-- Without the handler's turn the stopped worker gets the next source. -/
theorem idleSafe_stopped :
    ∃ manager registered,
      (managerMachine .orderly 4).Run registeredSources (fun _ _ _ => True)
        (Manager.start .fresh) manager registered ∧
      ¬ manager.Serves registered := by
  have run : (managerMachine .orderly 4).Run registeredSources
      (fun _ _ _ => True) (Manager.start .fresh) _ _ :=
    .of_replay [.addSource 1 1 1 5000, .removeSource 1,
      .addSource 1 2 1 5000] (by decide)
  refine ⟨_, _, run, ?_⟩
  intro serves
  obtain ⟨worker, mapped, runs⟩ := serves 2 rfl
  cases mapped
  cases runs

end StrManager
