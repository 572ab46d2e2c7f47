import StrManager.Manager.Workers

namespace StrManager

open Library Function

/-! What one step of the manager changes: a source is removed, a source is
added, or the sources stay and no list disappears. -/

theorem isSome_update {lists : Int → Option StreamList} {listId : Int}
    (present : (lists listId).isSome = true) (other : Int)
    (list : StreamList) :
    (update lists other (some list) listId).isSome = true := by
  rw [update_apply]
  split
  · rfl
  · exact present

namespace WorkerEvent

def Drops (kind : WorkerKind) (listId : Int) : WorkerEvent → Prop
  | .removeSource srcId =>
      listId = srcId ∨ (kind = .rtcp ∧ listId = srcId + 1)
  | _ => False

end WorkerEvent

theorem update_some_eq_none {lists : Int → Option StreamList} {listId : Int}
    (absent : lists listId = none) {other : Int} {list : StreamList}
    (found : lists other = some list) (after : StreamList) :
    update lists other (some after) listId = none := by
  rw [update_of_ne, absent]
  rintro rfl
  rw [absent] at found
  cases found

theorem PlainStep.present {os : Os} {runtime next : Runtime}
    {event : WorkerEvent} {output : WorkerOutput}
    (step : PlainStep os runtime next event output) {listId : Int}
    (present : (runtime.worker.streams.lists listId).isSome = true)
    (kept : ¬ event.Drops runtime.worker.kind listId) :
    (next.worker.streams.lists listId).isSome = true := by
  cases step with
  | rejected routed sockets lists routes =>
      rwa [lists]
  | refused free failed sockets lists routes =>
      rwa [lists]
  | added list free opened sockets created lists routes =>
      rw [lists]
      exact isSome_update present _ _
  | removed list found sockets lists routes =>
      rw [lists, update_of_ne fun same => kept (.inl same)]
      exact present
  | addedDestination list changed =>
      rw [changed.lists]
      exact isSome_update present _ _
  | removedDestination list after changed filtered =>
      rw [changed.lists]
      exact isSome_update present _ _
  | packet noted =>
      rcases noted.lists with same | ⟨other, list, after, found, lists, -⟩
      · rwa [same]
      · rw [lists]
        exact isSome_update present _ _
  | elapsed elapse =>
      subst elapse
      exact present

theorem PlainStep.absent {os : Os} {runtime next : Runtime}
    {event : WorkerEvent} {output : WorkerOutput}
    (step : PlainStep os runtime next event output)
    (unadded : output ≠ .added true) {listId : Int}
    (absent : runtime.worker.streams.lists listId = none) :
    next.worker.streams.lists listId = none := by
  cases step with
  | rejected routed sockets lists routes =>
      rwa [lists]
  | refused free failed sockets lists routes =>
      rwa [lists]
  | added list free opened sockets created lists routes =>
      exact absurd rfl unadded
  | removed list found sockets lists routes =>
      rw [lists, update_apply]
      split
      · rfl
      · exact absent
  | addedDestination list changed =>
      rw [changed.lists]
      exact update_some_eq_none absent changed.found _
  | removedDestination list after changed filtered =>
      rw [changed.lists]
      exact update_some_eq_none absent changed.found _
  | packet noted =>
      rcases noted.lists with same | ⟨other, list, after, found, lists, -⟩
      · rwa [same]
      · rw [lists]
        exact update_some_eq_none absent found _
  | elapsed elapse =>
      subst elapse
      exact absent

theorem RtcpStep.present {os : Os} {runtime next : Runtime}
    {event : WorkerEvent} {output : WorkerOutput}
    (step : RtcpStep os runtime next event output)
    (rtcp : runtime.worker.kind = .rtcp) {listId : Int}
    (present : (runtime.worker.streams.lists listId).isSome = true)
    (kept : ¬ event.Drops runtime.worker.kind listId) :
    (next.worker.streams.lists listId).isSome = true := by
  cases step with
  | rejected routed sockets lists routes =>
      rwa [lists]
  | refused free free2 failed sockets lists routes =>
      rwa [lists]
  | added free free2 opened sockets lists routes =>
      rw [lists]
      exact isSome_update (isSome_update present _ _) _ _
  | removed list list2 found found2 sockets lists routes =>
      rw [lists, update_of_ne fun same => kept (.inr ⟨rtcp, same⟩),
        update_of_ne fun same => kept (.inl same)]
      exact present
  | keptDestination list found rejected read =>
      rwa [read.lists]
  | addedDestination list list2 changed =>
      rw [changed.lists]
      exact isSome_update (isSome_update present _ _) _ _
  | missedDestination list found missing read =>
      rwa [read.lists]
  | removedDestination list list2 changed =>
      rw [changed.lists]
      exact isSome_update (isSome_update present _ _) _ _
  | packet noted =>
      rcases noted.lists with same | ⟨other, list, after, found, lists, -⟩
      · rwa [same]
      · rw [lists]
        exact isSome_update present _ _
  | elapsed elapse =>
      subst elapse
      exact present

theorem RtcpStep.absent {os : Os} {runtime next : Runtime}
    {event : WorkerEvent} {output : WorkerOutput}
    (step : RtcpStep os runtime next event output)
    (unadded : output ≠ .added true) {listId : Int}
    (absent : runtime.worker.streams.lists listId = none) :
    next.worker.streams.lists listId = none := by
  have paired : ∀ {srcId list list2 after after2},
      RtcpWorker.PairStep runtime next srcId list list2 after after2 →
      next.worker.streams.lists listId = none := by
    intro srcId list list2 after after2 changed
    have kept := update_some_eq_none absent changed.found after
    have found2 : update runtime.worker.streams.lists srcId (some after)
        (srcId + 1) = some list2 := by
      rw [update_of_ne (by omega), changed.found2]
    rw [changed.lists]
    exact update_some_eq_none kept found2 after2
  cases step with
  | rejected routed sockets lists routes =>
      rwa [lists]
  | refused free free2 failed sockets lists routes =>
      rwa [lists]
  | added free free2 opened sockets lists routes =>
      exact absurd rfl unadded
  | removed list list2 found found2 sockets lists routes =>
      rw [lists, update_apply, update_apply]
      split
      · rfl
      · split
        · rfl
        · exact absent
  | keptDestination list found rejected read =>
      rwa [read.lists]
  | addedDestination list list2 changed =>
      exact paired changed
  | missedDestination list found missing read =>
      rwa [read.lists]
  | removedDestination list list2 changed =>
      exact paired changed
  | packet noted =>
      rcases noted.lists with same | ⟨other, list, after, found, lists, -⟩
      · rwa [same]
      · rw [lists]
        exact update_some_eq_none absent found _
  | elapsed elapse =>
      subst elapse
      exact absent

namespace Runtime

variable {os : Os} {runtime next : Runtime}

theorem step_present {event : WorkerEvent} {output : WorkerOutput}
    (stepped : runtime.step os event = .ok (next, output)) {listId : Int}
    (present : (runtime.worker.streams.lists listId).isSome = true)
    (kept : ¬ event.Drops runtime.worker.kind listId) :
    (next.worker.streams.lists listId).isSome = true := by
  rcases eq_or_ne runtime.worker.kind .rtcp with rtcp | plain
  · exact (RtcpStep.of_step rtcp stepped).present rtcp present kept
  · exact (PlainStep.of_step plain stepped).present present kept

theorem step_absent {event : WorkerEvent} {output : WorkerOutput}
    (stepped : runtime.step os event = .ok (next, output))
    (unadded : output ≠ .added true) {listId : Int}
    (absent : runtime.worker.streams.lists listId = none) :
    next.worker.streams.lists listId = none := by
  rcases eq_or_ne runtime.worker.kind .rtcp with rtcp | plain
  · exact (RtcpStep.of_step rtcp stepped).absent unadded absent
  · exact (PlainStep.of_step plain stepped).absent unadded absent

theorem step_added {srcId : Int} {ip : InAddr} {port : Int}
    (stepped : runtime.step os (.addSource srcId ip port) =
      .ok (next, .added true)) :
    (next.worker.streams.lists srcId).isSome = true ∧
      (runtime.worker.kind = .rtcp →
        (next.worker.streams.lists (srcId + 1)).isSome = true) := by
  rcases eq_or_ne runtime.worker.kind .rtcp with rtcp | plain
  · cases RtcpStep.of_step rtcp stepped with
    | added free free2 opened sockets lists routes =>
        rw [lists]
        constructor
        · rw [update_of_ne (by omega), update_self]
          rfl
        · intro _
          rw [update_self]
          rfl
  · cases PlainStep.of_step plain stepped with
    | added list free opened sockets created lists routes =>
        rw [lists]
        constructor
        · rw [update_self]
          rfl
        · intro rtcp
          exact absurd rtcp plain

theorem removeSource_dropped {srcId : Int} {messages : List Message}
    (called : runtime.removeSource srcId = .ok (next, messages)) :
    next.worker.streams.lists srcId = none ∧
      (runtime.worker.kind = .rtcp →
        next.worker.streams.lists (srcId + 1) = none) := by
  have stepped := Runtime.step_of_removeSource .orderly called
  rcases eq_or_ne runtime.worker.kind .rtcp with rtcp | plain
  · cases RtcpStep.of_step rtcp stepped with
    | removed list list2 found found2 sockets lists routes =>
        rw [lists]
        constructor
        · rw [update_of_ne (by omega), update_self]
        · intro _
          rw [update_self]
  · cases PlainStep.of_step plain stepped with
    | removed list found sockets lists routes =>
        rw [lists]
        constructor
        · rw [update_self]
        · intro rtcp
          exact absurd rtcp plain

end Runtime

/-- A removal that its worker carried out, and what the manager did with it. -/
structure RemovedStep (manager next : Manager) (srcId : Int) (worker : Nat)
    (runtime : Runtime) (messages : List Message) : Prop where
  mapped : manager.srcIdWorker.lookup srcId = some worker
  called : (manager.runtime worker).removeSource srcId =
    .ok (runtime, messages)
  put : next = { manager.put worker runtime with
    srcIdWorker := manager.srcIdWorker.erase srcId
    queue := manager.queue ++ messages }

/-- The sources stay, no worker stops, no list appears or disappears and no
worker reports to be idle. -/
structure QuietStep (manager next : Manager) : Prop where
  sources : next.srcIdWorker = manager.srcIdWorker
  pool : ∀ key worker, next.workerIdWorker.lookup key = some worker →
    manager.workerIdWorker.lookup key = some worker
  working : ∀ worker < manager.allocated,
    (next.workers worker).working = (manager.workers worker).working
  lists : ∀ worker < manager.allocated, ∀ listId,
    ((manager.workers worker).streams.lists listId).isSome = true →
    ((next.workers worker).streams.lists listId).isSome = true
  absent : ∀ worker listId,
    (manager.workers worker).streams.lists listId = none →
    (next.workers worker).streams.lists listId = none
  queue : ∀ message ∈ next.queue, message.type = 100 →
    message ∈ manager.queue

namespace QuietStep

theorem shrinks {manager next : Manager} (quiet : QuietStep manager next) :
    manager.Shrinks next where
  sources := by
    rw [quiet.sources]
    exact fun _ _ mapped => mapped
  pool := quiet.pool

theorem of_workers {manager next : Manager}
    (sources : next.srcIdWorker = manager.srcIdWorker)
    (pool : ∀ key worker, next.workerIdWorker.lookup key = some worker →
      manager.workerIdWorker.lookup key = some worker)
    (workers : next.workers = manager.workers)
    (queue : ∀ message ∈ next.queue, message.type = 100 →
      message ∈ manager.queue) : QuietStep manager next where
  sources := sources
  pool := pool
  working := by
    intro worker _
    rw [workers]
  lists := by
    intro worker _ listId present
    rwa [workers]
  absent := by
    intro worker listId absent
    rwa [workers]
  queue := queue

theorem refl (manager : Manager) : QuietStep manager manager :=
  of_workers rfl (fun _ _ entry => entry) rfl (fun _ member _ => member)

theorem of_put {manager : Manager} {worker : Nat} {runtime : Runtime}
    (working : runtime.worker.working = (manager.workers worker).working)
    (lists : ∀ listId,
      ((manager.workers worker).streams.lists listId).isSome = true →
      (runtime.worker.streams.lists listId).isSome = true)
    (absent : ∀ listId,
      (manager.workers worker).streams.lists listId = none →
      runtime.worker.streams.lists listId = none) :
    QuietStep manager (manager.put worker runtime) where
  sources := rfl
  pool := fun _ _ entry => entry
  working := by
    intro other _
    rcases eq_or_ne other worker with rfl | different
    · simpa using working
    · simp [different]
  lists := by
    intro other _ listId present
    rcases eq_or_ne other worker with rfl | different
    · rw [Manager.put_workers, update_self]
      exact lists listId present
    · rwa [Manager.put_workers, update_of_ne different]
  absent := by
    intro other listId none
    rcases eq_or_ne other worker with rfl | different
    · rw [Manager.put_workers, update_self]
      exact absent listId none
    · rwa [Manager.put_workers, update_of_ne different]
  queue := fun _ member _ => member

theorem create (manager : Manager) (kind : WorkerKind) :
    QuietStep manager (manager.create kind) where
  sources := rfl
  pool := fun _ _ entry => entry
  working := by
    intro worker below
    rw [Manager.create_workers, update_of_ne below.ne]
  lists := by
    intro worker below listId present
    rwa [Manager.create_workers, update_of_ne below.ne]
  absent := by
    intro worker listId absent
    rw [Manager.create_workers, update_apply]
    split
    · rfl
    · exact absent
  queue := fun _ member _ => member

theorem trans {manager middle next : Manager}
    (first : QuietStep manager middle) (second : QuietStep middle next)
    (allocated : manager.allocated ≤ middle.allocated) :
    QuietStep manager next where
  sources := second.sources.trans first.sources
  pool := fun key worker entry => first.pool _ _ (second.pool _ _ entry)
  working := by
    intro worker below
    rw [second.working worker (below.trans_le allocated),
      first.working worker below]
  lists := by
    intro worker below listId present
    exact second.lists worker (below.trans_le allocated) listId
      (first.lists worker below listId present)
  absent := fun worker listId absent =>
    second.absent worker listId (first.absent worker listId absent)
  queue := fun message member idle =>
    first.queue _ (second.queue _ member idle) idle

theorem of_chosen {manager middle : Manager} {workerType : Int} {worker : Nat}
    (chosen : manager.Chosen workerType worker middle) :
    QuietStep manager middle := by
  cases chosen with
  | found key entry sameType => exact .refl manager
  | created kind absent supported => exact .create manager kind

theorem of_rejected {os : Os} {manager : Manager} {worker : Nat}
    {runtime : Runtime} {srcId : Int} {ip : InAddr} {port : Int}
    (called : (manager.runtime worker).step os (.addSource srcId ip port) =
      .ok (runtime, .added false)) :
    QuietStep manager (manager.put worker runtime) := by
  obtain ⟨-, working⟩ := Runtime.step_addSource called
  apply of_put working
  · intro listId present
    exact Runtime.step_present called present id
  · intro listId absent
    exact Runtime.step_absent called (by simp) absent

theorem handleMessage (manager : Manager) :
    QuietStep manager manager.handleMessage := by
  unfold Manager.handleMessage
  split
  · exact .refl manager
  · rename_i message rest queued
    refine .of_workers rfl ?_ rfl ?_
    · intro key worker entry
      dsimp only at entry
      split at entry
      · rw [Table.lookup_erase] at entry
        split at entry
        · cases entry
        · exact entry
      · exact entry
    · intro other member _
      rw [queued]
      exact List.mem_cons_of_mem message member

end QuietStep

theorem ManagerStep.changes {os : Os} {maxWorkers : Int}
    {manager next : Manager} {event : ManagerEvent} {output : ManagerOutput}
    (step : ManagerStep os maxWorkers manager next event output) :
    QuietStep manager next ∨
      (∃ srcId worker runtime messages,
        event = .removeSource srcId ∧ output = .returned 0 (some worker) ∧
        RemovedStep manager next srcId worker runtime messages) ∨
      ∃ workerType srcId ip port worker middle runtime,
        event = .addSource workerType srcId ip port ∧
        output = .returned 0 (some worker) ∧
        AcceptedStep os maxWorkers manager next workerType srcId ip port worker
          middle runtime := by
  cases step with
  | unsupported unknownType same =>
      subst same
      exact .inl (.refl next)
  | rejected middle runtime chosen called put =>
      subst put
      exact .inl ((QuietStep.of_chosen chosen).trans (.of_rejected called)
        chosen.keeps.allocated)
  | accepted middle runtime chosen called committed =>
      exact .inr (.inr ⟨_, _, _, _, _, middle, runtime, rfl, rfl,
        ⟨chosen, called, committed⟩⟩)
  | unknown names missing same unserved =>
      subst same
      exact .inl (.refl next)
  | removed runtime messages mapped called put =>
      exact .inr (.inl ⟨_, _, runtime, messages, rfl, rfl,
        ⟨mapped, called, put⟩⟩)
  | destination runtime calls mapped called put =>
      subst put
      left
      apply QuietStep.of_put (destination_streamsOnly calls called).working
      · intro listId present
        apply Runtime.step_present called present
        obtain ⟨destId, ip, port, -, rfl⟩ | ⟨destId, -, rfl⟩ :=
          ManagerEvent.destinationCall_cases calls
        · exact id
        · exact id
      · intro listId absent
        exact Runtime.step_absent called (by simp) absent
  | @read srcId worker timeStamp runtime mapped called put =>
      subst put
      left
      obtain ⟨streamsOnly, lists, -⟩ := Worker.readTimeStamp_kept called
      apply QuietStep.of_put streamsOnly.working
      · intro listId present
        rw [lists]
        exact present
      · intro listId absent
        rw [lists]
        exact absent
  | handled same =>
      subst same
      exact .inl (.handleMessage manager)
  | @packet worker fd received put =>
      subst put
      left
      have stepped := Runtime.step_packet os (manager.runtime worker) fd
        received
      have noted := Runtime.process_step (manager.runtime worker) fd received
      apply QuietStep.of_put noted.working
      · intro listId present
        exact Runtime.step_present stepped present id
      · intro listId absent
        exact Runtime.step_absent stepped (by simp) absent
  | timedOut same =>
      subst same
      left
      refine .of_workers rfl (fun _ _ entry => entry) rfl ?_
      intro message member idle
      rcases List.mem_append.mp member with queued | timedOut
      · exact queued
      · rw [List.mem_singleton.mp timedOut] at idle
        cases idle
  | elapsed same =>
      subst same
      exact .inl (.of_workers rfl (fun _ _ entry => entry) rfl
        (fun _ member _ => member))

namespace AcceptedStep

variable {os : Os} {maxWorkers : Int} {manager next middle : Manager}
  {workerType srcId : Int} {ip : InAddr} {port : Int} {worker : Nat}
  {runtime : Runtime}

theorem middle_eq (accepted : AcceptedStep os maxWorkers manager next
    workerType srcId ip port worker middle runtime)
    (below : worker < manager.allocated) : middle = manager := by
  cases accepted.chosen with
  | found key entry sameType => rfl
  | created kind absent supported => exact absurd below (lt_irrefl _)

theorem lists (accepted : AcceptedStep os maxWorkers manager next workerType
    srcId ip port worker middle runtime) {other : Nat}
    (below : other < manager.allocated) {listId : Int}
    (present : ((manager.workers other).streams.lists listId).isSome = true) :
    ((next.workers other).streams.lists listId).isSome = true := by
  rcases eq_or_ne other worker with rfl | different
  · have called := accepted.called
    rw [accepted.middle_eq below] at called
    rw [accepted.worker_eq]
    exact Runtime.step_present called present id
  · rwa [accepted.other_eq different]

theorem queue (accepted : AcceptedStep os maxWorkers manager next workerType
    srcId ip port worker middle runtime) : next.queue = manager.queue := by
  obtain ⟨chosen, called, rfl⟩ := accepted
  rw [← chosen.tables.2.2]
  rfl

theorem mapped (accepted : AcceptedStep os maxWorkers manager next workerType
    srcId ip port worker middle runtime) {other : Int} {otherWorker : Nat}
    (found : next.srcIdWorker.lookup other = some otherWorker) :
    (other = srcId ∧ otherWorker = worker) ∨
      (other ≠ srcId ∧
        manager.srcIdWorker.lookup other = some otherWorker) := by
  rw [accepted.sources, Table.lookup_insert] at found
  split at found
  · cases found
    exact .inl ⟨‹_›, rfl⟩
  · exact .inr ⟨‹_›, found⟩

theorem entry (accepted : AcceptedStep os maxWorkers manager next workerType
    srcId ip port worker middle runtime) {key : Int} {filed : Nat}
    (found : next.workerIdWorker.lookup key = some filed) :
    (key = (next.workers worker).workerId ∧ filed = worker) ∨
      (key ≠ (next.workers worker).workerId ∧
        manager.workerIdWorker.lookup key = some filed) := by
  rw [accepted.pool, Table.lookup_insert] at found
  split at found
  · cases found
    exact .inl ⟨‹_›, rfl⟩
  · exact .inr ⟨‹_›, found⟩

theorem workerType_eq (accepted : AcceptedStep os maxWorkers manager next
    workerType srcId ip port worker middle runtime) :
    (next.workers worker).getWorkerType = workerType := by
  have kind : runtime.worker.kind = (middle.workers worker).kind :=
    accepted.worker_kept.1.1
  rw [accepted.worker_eq, Worker.getWorkerType, kind]
  cases accepted.chosen with
  | found key entry sameType => exact sameType
  | created kind absent supported =>
      rw [Manager.create_workers, update_self]
      exact WorkerKind.workerType_of_ofType supported

theorem single (accepted : AcceptedStep os maxWorkers manager next workerType
    srcId ip port worker middle runtime) (filed : manager.Filed) {key : Int}
    {other : Nat} (entry : manager.workerIdWorker.lookup key = some other)
    (sameType : (manager.workers other).getWorkerType = workerType) :
    other = worker := by
  cases accepted.chosen with
  | found foundKey found foundType =>
      exact filed.single key foundKey other worker entry found
        (sameType.trans foundType.symm)
  | created kind absent supported =>
      exact absurd sameType (absent key other entry)

theorem allocated (accepted : AcceptedStep os maxWorkers manager next
    workerType srcId ip port worker middle runtime) (filed : manager.Filed) :
    worker < next.allocated := by
  obtain ⟨chosen, called, rfl⟩ := accepted
  have below : worker < middle.allocated := filed.chosen chosen
  exact below

theorem filed (accepted : AcceptedStep os maxWorkers manager next workerType
    srcId ip port worker middle runtime) (filed : manager.Filed) :
    next.Filed := by
  have keeps := accepted.keeps
  have below := accepted.allocated filed
  refine ⟨?_, ?_, ?_, ?_⟩
  · intro other server found
    obtain ⟨-, rfl⟩ | ⟨-, mapped⟩ := accepted.mapped found
    · exact below
    · exact (filed.sources other server mapped).trans_le keeps.allocated
  · intro key server found
    obtain ⟨-, rfl⟩ | ⟨-, before⟩ := accepted.entry found
    · exact below
    · exact (filed.pool key server before).trans_le keeps.allocated
  · intro key server found
    obtain ⟨rfl, rfl⟩ | ⟨-, before⟩ := accepted.entry found
    · rfl
    · have same := keeps.same server (filed.pool key server before)
      exact same.2.trans (filed.keys key server before)
  · intro key key2 server server2 found found2 sameType
    obtain ⟨-, rfl⟩ | ⟨-, before⟩ := accepted.entry found
    · obtain ⟨-, rfl⟩ | ⟨-, before2⟩ := accepted.entry found2
      · rfl
      · rw [accepted.workerType_eq,
          keeps.workerType (filed.pool key2 server2 before2)] at sameType
        exact (accepted.single filed before2 sameType.symm).symm
    · have belowKey := filed.pool key server before
      obtain ⟨-, rfl⟩ | ⟨-, before2⟩ := accepted.entry found2
      · rw [accepted.workerType_eq, keeps.workerType belowKey] at sameType
        exact accepted.single filed before sameType
      · apply filed.single key key2 server server2 before before2
        rwa [keeps.workerType belowKey,
          keeps.workerType (filed.pool key2 server2 before2)] at sameType

end AcceptedStep

namespace RemovedStep

variable {manager next : Manager} {srcId : Int} {worker : Nat}
  {runtime : Runtime} {messages : List Message}

theorem mapped_before (removed : RemovedStep manager next srcId worker runtime
    messages) {other : Int} {otherWorker : Nat}
    (found : next.srcIdWorker.lookup other = some otherWorker) :
    other ≠ srcId ∧ manager.srcIdWorker.lookup other = some otherWorker := by
  rw [removed.put, Table.lookup_erase] at found
  split at found
  · cases found
  · exact ⟨‹_›, found⟩

theorem worker_eq (removed : RemovedStep manager next srcId worker runtime
    messages) : next.workers worker = runtime.worker := by
  rw [removed.put]
  exact update_self _ _ _

theorem other_eq (removed : RemovedStep manager next srcId worker runtime
    messages) {other : Nat} (different : other ≠ worker) :
    next.workers other = manager.workers other := by
  rw [removed.put]
  exact update_of_ne different _ _

theorem lists (removed : RemovedStep manager next srcId worker runtime
    messages) {other : Nat} {listId : Int}
    (present : ((manager.workers other).streams.lists listId).isSome = true)
    (kept : other = worker → ¬ (WorkerEvent.removeSource srcId).Drops
      (manager.workers worker).kind listId) :
    ((next.workers other).streams.lists listId).isSome = true := by
  rcases eq_or_ne other worker with rfl | different
  · have stepped := Runtime.step_of_removeSource .orderly removed.called
    rw [removed.worker_eq]
    exact Runtime.step_present stepped present (kept rfl)
  · rwa [removed.other_eq different]

theorem shrinks (removed : RemovedStep manager next srcId worker runtime
    messages) : manager.Shrinks next where
  sources := fun _ _ mapped => (removed.mapped_before mapped).2
  pool := by
    rw [removed.put]
    exact fun _ _ entry => entry

theorem still_absent (removed : RemovedStep manager next srcId worker runtime
    messages) {other : Nat} {listId : Int}
    (absent : (manager.workers other).streams.lists listId = none) :
    (next.workers other).streams.lists listId = none := by
  rcases eq_or_ne other worker with rfl | different
  · have stepped := Runtime.step_of_removeSource .orderly removed.called
    rw [removed.worker_eq]
    exact Runtime.step_absent stepped (by simp) absent
  · rwa [removed.other_eq different]

end RemovedStep

namespace ManagerStep

variable {os : Os} {maxWorkers : Int} {manager next : Manager}
  {event : ManagerEvent} {output : ManagerOutput}

theorem shrinks_or_accepts
    (step : ManagerStep os maxWorkers manager next event output) :
    manager.Shrinks next ∨
      ∃ workerType srcId ip port worker middle runtime,
        event = .addSource workerType srcId ip port ∧
        output = .returned 0 (some worker) ∧
        AcceptedStep os maxWorkers manager next workerType srcId ip port worker
          middle runtime := by
  rcases step.changes with
    quiet | ⟨srcId, worker, runtime, messages, -, -, removed⟩ | accepted
  · exact .inl quiet.shrinks
  · exact .inl removed.shrinks
  · exact .inr accepted

theorem accepts {workerType srcId : Int} {ip : InAddr} {port : Int}
    {server : Option Nat}
    (step : ManagerStep os maxWorkers manager next
      (.addSource workerType srcId ip port) (.returned 0 server)) :
    ∃ worker middle runtime, server = some worker ∧
      AcceptedStep os maxWorkers manager next workerType srcId ip port worker
        middle runtime := by
  cases step with
  | accepted middle runtime chosen called committed =>
      exact ⟨_, middle, runtime, rfl, chosen, called, committed⟩
  | unknown names missing same unserved => cases names
  | destination runtime calls mapped called put => cases calls

theorem removes {srcId : Int}
    (step : ManagerStep os maxWorkers manager next (.removeSource srcId) output)
    {worker : Nat} (mapped : manager.srcIdWorker.lookup srcId = some worker) :
    ∃ runtime messages,
      RemovedStep manager next srcId worker runtime messages := by
  cases step with
  | unknown names missing same unserved =>
      cases names
      rw [mapped] at missing
      cases missing
  | removed runtime messages found called put =>
      rw [mapped] at found
      cases found
      exact ⟨runtime, messages, mapped, called, put⟩
  | destination runtime calls found called put => cases calls

theorem mapped_kept (step : ManagerStep os maxWorkers manager next event output)
    {srcId : Int} (mapped : (manager.srcIdWorker.lookup srcId).isSome = true)
    (kept : event ≠ .removeSource srcId) :
    (next.srcIdWorker.lookup srcId).isSome = true := by
  rcases step.changes with
    quiet | ⟨oldId, _, _, _, rfl, -, removed⟩ |
      ⟨_, newId, _, _, worker, _, _, -, -, accepted⟩
  · rwa [quiet.sources]
  · have different : srcId ≠ oldId := by
      rintro rfl
      exact kept rfl
    rwa [removed.put, Table.lookup_erase, if_neg different]
  · rw [accepted.sources, Table.lookup_insert]
    split
    · rfl
    · exact mapped

theorem filed (step : ManagerStep os maxWorkers manager next event output)
    (filed : manager.Filed) : next.Filed := by
  rcases step.shrinks_or_accepts with
    shrinks | ⟨_, _, _, _, _, middle, runtime, -, -, accepted⟩
  · exact filed.shrink step.keeps shrinks
  · exact accepted.filed filed

end ManagerStep

theorem managerMachine_run_filed {os : Os} {maxWorkers : Int} {kernel : Kernel}
    {Record : Type y} {observer : Observer ManagerEvent ManagerOutput Record}
    {Allowed : Manager → Record → ManagerEvent → Prop} {manager : Manager}
    {record : Record}
    (run : (managerMachine os maxWorkers).Run observer Allowed
      (Manager.start kernel) manager record) : manager.Filed := by
  refine run.invariant (motive := fun manager _ => manager.Filed)
    (Manager.Filed.start kernel) ?_
  intro manager next record event output filed _ stepped
  exact (ManagerStep.of_step stepped).filed filed

/-! What every operation of a single worker keeps holds of all workers. -/

/-- New workers have the property and every operation of a worker keeps it. -/
structure Worker.Lasting (os : Os) (P : Worker → Prop) : Prop where
  created : ∀ kind workerId, P (create kind workerId)
  stepped : ∀ {runtime next : Runtime} {event : WorkerEvent}
    {output : WorkerOutput}, P runtime.worker →
    runtime.step os event = .ok (next, output) → P next.worker
  read : ∀ {runtime next : Runtime} {srcId : Int} {timeStamp : Option Int},
    P runtime.worker → readTimeStamp runtime srcId = .ok (next, timeStamp) →
    P next.worker

theorem Manager.put_each {P : Worker → Prop} {manager : Manager} {worker : Nat}
    {runtime : Runtime} (changed : P runtime.worker)
    (each : ∀ other, P (manager.workers other)) (other : Nat) :
    P ((manager.put worker runtime).workers other) := by
  rw [put_workers, update_apply]
  split
  · exact changed
  · exact each other

theorem ManagerStep.each {os : Os} {maxWorkers : Int} {manager next : Manager}
    {event : ManagerEvent} {output : ManagerOutput} {P : Worker → Prop}
    (lasting : Worker.Lasting os P)
    (step : ManagerStep os maxWorkers manager next event output)
    (each : ∀ worker, P (manager.workers worker)) (worker : Nat) :
    P (next.workers worker) := by
  have chosenEach {middle : Manager} {workerType : Int} {server : Nat}
      (chosen : manager.Chosen workerType server middle) (other : Nat) :
      P (middle.workers other) := by
    cases chosen with
    | found key entry sameType => exact each other
    | created kind absent supported =>
        rw [Manager.create_workers, update_apply]
        split
        · exact lasting.created kind _
        · exact each other
  cases step with
  | unsupported unknownType same =>
      subst same
      exact each worker
  | rejected middle runtime chosen called put =>
      subst put
      exact Manager.put_each (lasting.stepped (chosenEach chosen _) called)
        (chosenEach chosen) worker
  | accepted middle runtime chosen called committed =>
      subst committed
      exact Manager.put_each (lasting.stepped (chosenEach chosen _) called)
        (chosenEach chosen) worker
  | unknown names missing same unserved =>
      subst same
      exact each worker
  | @removed srcId server runtime messages mapped called put =>
      subst put
      have step := Runtime.step_of_removeSource os called
      exact Manager.put_each (lasting.stepped (each server) step) each worker
  | destination runtime calls mapped called put =>
      subst put
      exact Manager.put_each (lasting.stepped (each _) called) each worker
  | read runtime mapped called put =>
      subst put
      exact Manager.put_each (lasting.read (each _) called) each worker
  | handled same =>
      subst same
      rw [manager.handleMessage_kept.1]
      exact each worker
  | @packet server fd received put =>
      subst put
      have step := Runtime.step_packet os (manager.runtime server) fd received
      exact Manager.put_each (lasting.stepped (each server) step) each worker
  | timedOut same =>
      subst same
      exact each worker
  | elapsed same =>
      subst same
      exact each worker

theorem managerMachine_run_each {os : Os} {maxWorkers : Int} {kernel : Kernel}
    {Record : Type y} {observer : Observer ManagerEvent ManagerOutput Record}
    {Allowed : Manager → Record → ManagerEvent → Prop} {P : Worker → Prop}
    (lasting : Worker.Lasting os P)
    {manager : Manager} {record : Record}
    (run : (managerMachine os maxWorkers).Run observer Allowed
      (Manager.start kernel) manager record) (worker : Nat) :
    P (manager.workers worker) := by
  refine run.invariant (motive := fun manager _ =>
    ∀ worker, P (manager.workers worker)) (fun _ => lasting.created _ _) ?_
    worker
  intro manager next record event output each _ called
  exact (ManagerStep.of_step called).each lasting each

end StrManager
