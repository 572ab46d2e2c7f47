import StrManager.Manager.Changes
import StrManager.Rtcp.Convention

namespace StrManager

open Library Function

/-! The manager behind its command line, which takes the identifier of every
new source or destination from one counter. -/

/-- The counter, and what each worker was told about its sources. -/
structure CommandLine where
  flowId : Int
  registries : Nat → Registry

def WorkerEvent.source : WorkerEvent → Option Int
  | .addSource srcId _ _ | .removeSource srcId | .addDestination srcId _ _ _
  | .removeDestination srcId _ => some srcId
  | .packet _ _ | .elapse _ => none

namespace ManagerEvent

def workerCall : ManagerEvent → Option WorkerEvent
  | .addSource _ srcId ip port => some (.addSource srcId ip port)
  | .removeSource srcId => some (.removeSource srcId)
  | .addDestination srcId destId ip port =>
      some (.addDestination srcId destId ip port)
  | .removeDestination srcId destId => some (.removeDestination srcId destId)
  | _ => none

/-- New sources and destinations take the counter as identifier. -/
def Numbered (flowId : Int) : ManagerEvent → Prop
  | .addSource _ srcId _ _ => srcId = flowId
  | .addDestination _ destId _ _ => destId = flowId
  | _ => True

instance (flowId : Int) (event : ManagerEvent) :
    Decidable (event.Numbered flowId) :=
  match event with
  | .addSource _ srcId _ _ => inferInstanceAs (Decidable (srcId = flowId))
  | .addDestination _ destId _ _ => inferInstanceAs (Decidable (destId = flowId))
  | .removeSource _ | .removeDestination _ _ | .readTimeStamp _
  | .handleMessage | .packet _ _ _ | .selectTimeout _ | .elapse _ =>
      isTrue trivial

end ManagerEvent

namespace CommandLine

/-- The counter after a command, which advances also when the manager refuses
the source or the destination. -/
def advance (flowId : Int) : ManagerEvent → Int
  | .addSource _ _ _ _ | .addDestination _ _ _ _ => flowId + 1
  | _ => flowId

def record (registries : Nat → Registry) (event : ManagerEvent) :
    ManagerOutput → Nat → Registry
  | .returned code (some worker) =>
      match event.workerCall with
      | some call => update registries worker
          ((registries worker).record call (.added (code == 0)))
      | none => registries
  | _ => registries

def observer : Observer ManagerEvent ManagerOutput CommandLine where
  initial := ⟨100, fun _ => ∅⟩
  update := fun commandLine event output =>
    ⟨advance commandLine.flowId event,
      record commandLine.registries event output⟩

end CommandLine

namespace Manager

/-- Every source of an RTCP worker has a list with its address and
destinations, and a list under the next identifier whose address and
destinations are one port higher. -/
def Pairing (manager : Manager) (registries : Nat → Registry) : Prop :=
  ∀ srcId worker, manager.srcIdWorker.lookup srcId = some worker →
    (manager.workers worker).kind = .rtcp →
    ∃ registration list list2,
      (registries worker).lookup srcId = some registration ∧
      (manager.workers worker).streams.lists srcId = some list ∧
      (manager.workers worker).streams.lists (srcId + 1) = some list2 ∧
      list.registration = registration ∧
      list2.registration = registration.next

def OthersKept (manager next : Manager) (srcId : Int) : Prop :=
  ∀ other worker, manager.srcIdWorker.lookup other = some worker →
    (manager.workers worker).kind = .rtcp → other ≠ srcId →
    (next.workers worker).streams.lists other =
        (manager.workers worker).streams.lists other ∧
      (next.workers worker).streams.lists (other + 1) =
        (manager.workers worker).streams.lists (other + 1)

/-- The RTCP worker of the pool does not take a source whose identifier is the
one after a source it has. -/
def KeepsPairing (os : Os) (manager : Manager) : ManagerEvent → Prop
  | .addSource workerType srcId ip port =>
      ∀ key worker, manager.workerIdWorker.lookup key = some worker →
        (manager.workers worker).getWorkerType = workerType →
        (manager.workers worker).kind = .rtcp →
        (manager.runtime worker).CanAdd os ip port →
        manager.srcIdWorker.lookup (srcId - 1) ≠ some worker
  | _ => True

instance (os : Os) (manager : Manager) (event : ManagerEvent) :
    Decidable (manager.KeepsPairing os event) :=
  match event with
  | .addSource workerType srcId ip port =>
      inferInstanceAs (Decidable (∀ key worker,
        manager.workerIdWorker.lookup key = some worker →
        (manager.workers worker).getWorkerType = workerType →
        (manager.workers worker).kind = .rtcp →
        (manager.runtime worker).CanAdd os ip port →
        manager.srcIdWorker.lookup (srcId - 1) ≠ some worker))
  | .removeSource _ | .addDestination _ _ _ _ | .removeDestination _ _
  | .readTimeStamp _ | .handleMessage | .packet _ _ _ | .selectTimeout _
  | .elapse _ => isTrue trivial

end Manager

/-! Calls that a worker serves. -/

structure ServedStep (os : Os) (manager next : Manager) (call : WorkerEvent)
    (worker : Nat) (before after : Runtime) (result : WorkerOutput) :
    Prop where
  called : before.step os call = .ok (after, result)
  origin : (worker < manager.allocated ∧
      before.worker = manager.workers worker) ∨
    (worker = manager.allocated ∧ ∃ kind workerId,
      before.worker = Worker.create kind workerId)
  worker_eq : next.workers worker = after.worker
  other_eq : ∀ other < manager.allocated, other ≠ worker →
    next.workers other = manager.workers other
  allocated : ∀ other < next.allocated,
    other < manager.allocated ∨ other = worker

namespace ServedStep

theorem of_put {os : Os} {manager next : Manager} {call : WorkerEvent}
    {worker : Nat} {after : Runtime} {result : WorkerOutput}
    (called : (manager.runtime worker).step os call = .ok (after, result))
    (below : worker < manager.allocated)
    (workers : next.workers = update manager.workers worker after.worker)
    (allocated : next.allocated = manager.allocated) :
    ServedStep os manager next call worker (manager.runtime worker) after
      result where
  called := called
  origin := .inl ⟨below, rfl⟩
  worker_eq := by rw [workers, update_self]
  other_eq := by
    intro other _ different
    rw [workers, update_of_ne different]
  allocated := by
    intro other otherBelow
    rw [allocated] at otherBelow
    exact .inl otherBelow

theorem of_chosen {os : Os} {manager middle next : Manager}
    {call : WorkerEvent} {workerType : Int} {worker : Nat} {after : Runtime}
    {result : WorkerOutput} (filed : manager.Filed)
    (chosen : manager.Chosen workerType worker middle)
    (called : (middle.runtime worker).step os call = .ok (after, result))
    (workers : next.workers = update middle.workers worker after.worker)
    (allocated : next.allocated = middle.allocated) :
    ServedStep os manager next call worker (middle.runtime worker) after
      result := by
  cases chosen with
  | found key entry sameType =>
      exact of_put called (filed.pool key worker entry) workers allocated
  | created kind absent supported =>
      refine ⟨called, .inr ⟨rfl, kind, manager.currentWorkerId, ?_⟩, ?_, ?_, ?_⟩
      · exact update_self _ _ _
      · rw [workers, update_self]
      · intro other below different
        rw [workers, update_of_ne different, Manager.create_workers,
          update_of_ne different]
      · intro other below
        rw [allocated] at below
        exact Nat.lt_succ_iff_lt_or_eq.mp below

end ServedStep

structure Worker.Undisturbed (before after : Worker) : Prop where
  kind : after.kind = before.kind
  routes : after.streams.routes = before.streams.routes
  lists : after.streams.lists = before.streams.lists ∨
    ∃ listId list noted,
      before.streams.lists listId = some list ∧
      after.streams.lists =
        update before.streams.lists listId (some noted) ∧
      noted.source = list.source ∧ noted.destinations = list.destinations

theorem Worker.Undisturbed.refl (worker : Worker) :
    worker.Undisturbed worker :=
  ⟨rfl, rfl, .inl rfl⟩

namespace RtcpStep

variable {os : Os} {runtime next : Runtime} {event : WorkerEvent}
  {output : WorkerOutput}

theorem lists_away (step : RtcpStep os runtime next event output)
    {srcId listId : Int} (names : event.source = some srcId)
    (away : listId ≠ srcId) (away2 : listId ≠ srcId + 1) :
    next.worker.streams.lists listId = runtime.worker.streams.lists listId := by
  cases step with
  | rejected routed sockets lists routes => rw [lists]
  | refused free free2 failed sockets lists routes => rw [lists]
  | added free free2 opened sockets lists routes =>
      cases names
      rw [lists, update_of_ne away2, update_of_ne away]
  | removed list list2 found found2 sockets lists routes =>
      cases names
      rw [lists, update_of_ne away2, update_of_ne away]
  | keptDestination list found rejected read => rw [read.lists]
  | addedDestination list list2 changed =>
      cases names
      rw [changed.lists, update_of_ne away2, update_of_ne away]
  | missedDestination list found missing read => rw [read.lists]
  | removedDestination list list2 changed =>
      cases names
      rw [changed.lists, update_of_ne away2, update_of_ne away]
  | packet noted => cases names
  | elapsed elapse => cases names

theorem lists_refused (step : RtcpStep os runtime next event (.added false)) :
    next.worker.streams.lists = runtime.worker.streams.lists := by
  cases step with
  | rejected routed sockets lists routes => exact lists
  | refused free free2 failed sockets lists routes => exact lists

end RtcpStep

theorem Registry.isSome_change (registry : Registry) (srcId other : Int)
    (edit : Registration → Registration) :
    ((registry.change srcId edit).lookup other).isSome =
      (registry.lookup other).isSome := by
  rw [lookup_change]
  split
  · rw [Option.isSome_map]
    congr 1
    congr 1
    exact Eq.symm ‹other = srcId›
  · rfl

structure PairingHolds (manager : Manager) (commandLine : CommandLine) : Prop
    extends Manager.Filed manager where
  counter : 100 ≤ commandLine.flowId
  range : ∀ srcId worker, manager.srcIdWorker.lookup srcId = some worker →
    100 ≤ srcId ∧ srcId < commandLine.flowId
  tied : ∀ worker srcId,
    ((commandLine.registries worker).lookup srcId).isSome = true ↔
      manager.srcIdWorker.lookup srcId = some worker
  paired : ∀ worker < manager.allocated,
    (manager.workers worker).kind = .rtcp →
    PairedLists (manager.workers worker).streams.lists
      (commandLine.registries worker)
  agree : ∀ worker < manager.allocated,
    (manager.workers worker).kind = .rtcp →
    (manager.workers worker).streams.RoutesAgree

namespace PairingHolds

variable {manager next : Manager} {commandLine : CommandLine}

theorem start (kernel : Kernel) :
    PairingHolds (Manager.start kernel) CommandLine.observer.initial where
  toFiled := Manager.Filed.start kernel
  counter := le_refl _
  range := by
    intro srcId worker mapped
    cases mapped
  tied := by
    intro worker srcId
    constructor
    · intro used
      cases used
    · intro mapped
      cases mapped
  paired := by
    intro worker below
    exact absurd below (Nat.not_lt_zero worker)
  agree := by
    intro worker below
    exact absurd below (Nat.not_lt_zero worker)

theorem pairing (holds : PairingHolds manager commandLine) :
    manager.Pairing commandLine.registries := by
  intro srcId worker mapped rtcp
  have used := (holds.tied worker srcId).mpr mapped
  obtain ⟨registration, found⟩ := Option.isSome_iff_exists.mp used
  have below := holds.sources srcId worker mapped
  obtain ⟨list, list2, stored, stored2, equal, equal2⟩ :=
    (holds.paired worker below rtcp).registered found
  exact ⟨registration, list, list2, found, stored, stored2, equal, equal2⟩

theorem unused (holds : PairingHolds manager commandLine) {worker : Nat}
    {srcId : Int} (unmapped : manager.srcIdWorker.lookup srcId ≠ some worker) :
    (commandLine.registries worker).lookup srcId = none := by
  cases found : (commandLine.registries worker).lookup srcId with
  | none => rfl
  | some registration =>
      exact absurd ((holds.tied worker srcId).mp (by rw [found]; rfl)) unmapped

theorem unmapped (holds : PairingHolds manager commandLine) {srcId : Int}
    (ahead : commandLine.flowId ≤ srcId) :
    manager.srcIdWorker.lookup srcId = none := by
  cases mapped : manager.srcIdWorker.lookup srcId with
  | none => rfl
  | some worker =>
      have below := (holds.range srcId worker mapped).2
      omega

theorem valid (holds : PairingHolds manager commandLine) (worker : Nat)
    (srcId : Int)
    (used : ((commandLine.registries worker).lookup srcId).isSome = true) :
    srcId ≠ 0 ∧ srcId + 1 ≠ 0 := by
  have above := (holds.range srcId worker ((holds.tied worker srcId).mp used)).1
  omega

theorem before (holds : PairingHolds manager commandLine) {os : Os}
    {call : WorkerEvent} {worker : Nat} {before after : Runtime}
    {result : WorkerOutput}
    (served : ServedStep os manager next call worker before after result)
    (rtcp : before.worker.kind = .rtcp) :
    PairedLists before.worker.streams.lists (commandLine.registries worker) ∧
      before.worker.streams.RoutesAgree := by
  rcases served.origin with ⟨below, same⟩ | ⟨fresh, kind, workerId, created⟩
  · rw [same] at rtcp ⊢
    exact ⟨holds.paired worker below rtcp, holds.agree worker below rtcp⟩
  · rw [created]
    refine ⟨PairedLists.of_empty.congr ?_, StreamTables.routesAgree_empty⟩
    funext srcId
    rw [Table.lookup_empty]
    apply holds.unused
    intro mapped
    have below := holds.sources srcId worker mapped
    omega

theorem served (holds : PairingHolds manager commandLine) {os : Os}
    {call : WorkerEvent} {worker : Nat} {before after : Runtime}
    {result : WorkerOutput}
    (served : ServedStep os manager next call worker before after result)
    (apart : before.worker.kind = .rtcp → result = .added true →
      call.Apart (commandLine.registries worker))
    (registered : call.Registered (commandLine.registries worker))
    {other : Nat} (below : other < next.allocated)
    (rtcp : (next.workers other).kind = .rtcp) :
    PairedLists (next.workers other).streams.lists
        (update commandLine.registries worker
          ((commandLine.registries worker).record call result) other) ∧
      (next.workers other).streams.RoutesAgree := by
  rcases eq_or_ne other worker with rfl | different
  · rw [served.worker_eq, update_self]
    rw [served.worker_eq, (Runtime.step_sameWorker served.called).1] at rtcp
    obtain ⟨paired, agree⟩ := holds.before served rtcp
    have step := RtcpStep.of_step rtcp served.called
    exact ⟨step.pairedLists (apart rtcp) registered paired,
      step.routesAgree paired (apart rtcp) registered (holds.valid other)
        agree⟩
  · have existed := (served.allocated other below).resolve_right different
    rw [served.other_eq other existed different] at rtcp ⊢
    rw [update_of_ne different]
    exact ⟨holds.paired other existed rtcp, holds.agree other existed rtcp⟩

theorem undisturbed (holds : PairingHolds manager commandLine)
    (filed : next.Filed) {flowId : Int} (ahead : commandLine.flowId ≤ flowId)
    (allocated : next.allocated = manager.allocated)
    (sources : next.srcIdWorker = manager.srcIdWorker)
    (workers : ∀ worker,
      (manager.workers worker).Undisturbed (next.workers worker)) :
    PairingHolds next ⟨flowId, commandLine.registries⟩ where
  toFiled := filed
  counter := holds.counter.trans ahead
  range := by
    intro srcId worker mapped
    rw [sources] at mapped
    obtain ⟨low, high⟩ := holds.range srcId worker mapped
    exact ⟨low, high.trans_le ahead⟩
  tied := by
    rw [sources]
    exact holds.tied
  paired := by
    intro worker below rtcp
    rw [allocated] at below
    obtain ⟨kind, -, lists⟩ := workers worker
    rw [kind] at rtcp
    have paired := holds.paired worker below rtcp
    rcases lists with same |
      ⟨listId, list, after, found, lists, source, destinations⟩
    · rwa [same]
    · rw [lists]
      exact ⟨paired.implements.modify found source destinations,
        paired.spaced⟩
  agree := by
    intro worker below rtcp
    rw [allocated] at below
    obtain ⟨kind, routes, lists⟩ := workers worker
    rw [kind] at rtcp
    have agree := holds.agree worker below rtcp
    unfold StreamTables.RoutesAgree at agree ⊢
    rw [routes]
    rcases lists with same |
      ⟨listId, list, after, found, lists, source, destinations⟩
    · rwa [same]
    · rw [lists]
      exact agree.modify found (congrArg UdpStream.addr source)

theorem of_served (holds : PairingHolds manager commandLine)
    (filed : next.Filed) {os : Os} {call : WorkerEvent} {worker : Nat}
    {before after : Runtime} {result : WorkerOutput}
    (served : ServedStep os manager next call worker before after result)
    (apart : before.worker.kind = .rtcp → result = .added true →
      call.Apart (commandLine.registries worker))
    (registered : call.Registered (commandLine.registries worker))
    {flowId : Int} (ahead : commandLine.flowId ≤ flowId)
    (range : ∀ srcId worker, next.srcIdWorker.lookup srcId = some worker →
      100 ≤ srcId ∧ srcId < flowId)
    (tied : ∀ other srcId, ((update commandLine.registries worker
        ((commandLine.registries worker).record call result) other).lookup
          srcId).isSome = true ↔
      next.srcIdWorker.lookup srcId = some other) :
    PairingHolds next ⟨flowId, update commandLine.registries worker
      ((commandLine.registries worker).record call result)⟩ where
  toFiled := filed
  counter := holds.counter.trans ahead
  range := range
  tied := tied
  paired := fun _ below rtcp =>
    (holds.served served apart registered below rtcp).1
  agree := fun _ below rtcp =>
    (holds.served served apart registered below rtcp).2

end PairingHolds

theorem CommandLine.le_advance (flowId : Int) (event : ManagerEvent) :
    flowId ≤ advance flowId event := by
  unfold advance
  split <;> omega

theorem CommandLine.record_unserved (registries : Nat → Registry)
    (event : ManagerEvent) {output : ManagerOutput}
    (unserved : ∀ code worker, output ≠ .returned code (some worker)) :
    record registries event output = registries := by
  unfold record
  split
  · exact absurd rfl (unserved _ _)
  · rfl

theorem ManagerEvent.destinationCall_record {event : ManagerEvent}
    {srcId : Int} {call : WorkerEvent}
    (calls : event.destinationCall = some (srcId, call)) :
    event.workerCall = some call ∧ call.source = some srcId ∧
      ∀ registry : Registry,
        (call.Registered registry ↔
          (registry.lookup srcId).isSome = true) ∧
        (∀ result, registry.record call result =
          registry.record call .done) ∧
        ∀ other, ((registry.record call .done).lookup other).isSome =
          (registry.lookup other).isSome := by
  obtain ⟨destId, ip, port, rfl, rfl⟩ | ⟨destId, rfl, rfl⟩ :=
    ManagerEvent.destinationCall_cases calls
  · exact ⟨rfl, rfl, fun registry => ⟨Iff.rfl, fun _ => rfl,
      fun other => registry.isSome_change _ other _⟩⟩
  · exact ⟨rfl, rfl, fun registry => ⟨Iff.rfl, fun _ => rfl,
      fun other => registry.isSome_change _ other _⟩⟩

theorem Worker.Undisturbed.put {manager : Manager} {worker : Nat}
    {runtime : Runtime}
    (undisturbed : (manager.workers worker).Undisturbed runtime.worker)
    (other : Nat) :
    (manager.workers other).Undisturbed
      ((manager.put worker runtime).workers other) := by
  rcases eq_or_ne other worker with rfl | different
  · rw [Manager.put_workers, update_self]
    exact undisturbed
  · rw [Manager.put_workers, update_of_ne different]
    exact .refl _

namespace AcceptedStep

variable {os : Os} {maxWorkers : Int} {manager next middle : Manager}
  {workerType srcId : Int} {ip : InAddr} {port : Int} {worker : Nat}
  {runtime : Runtime} {commandLine : CommandLine}

theorem served (accepted : AcceptedStep os maxWorkers manager next workerType
    srcId ip port worker middle runtime) (filed : manager.Filed) :
    ServedStep os manager next (.addSource srcId ip port) worker
      (middle.runtime worker) runtime (.added true) := by
  obtain ⟨chosen, called, rfl⟩ := accepted
  exact .of_chosen filed chosen called rfl rfl

theorem freeBelow (accepted : AcceptedStep os maxWorkers manager next workerType
    srcId ip port worker middle runtime) (filed : manager.Filed)
    (keepsPairing : manager.KeepsPairing os
      (.addSource workerType srcId ip port))
    (rtcp : (middle.runtime worker).worker.kind = .rtcp) :
    manager.srcIdWorker.lookup (srcId - 1) ≠ some worker := by
  have canAdd := (Runtime.canAdd_iff accepted.called).mp rfl
  cases accepted.chosen with
  | found key entry sameType =>
      exact keepsPairing key worker entry sameType rtcp canAdd
  | created kind absent supported =>
      intro mapped
      exact absurd (filed.sources _ _ mapped) (lt_irrefl _)

theorem apart (accepted : AcceptedStep os maxWorkers manager next workerType
    srcId ip port worker middle runtime)
    (holds : PairingHolds manager commandLine)
    (numbered : srcId = commandLine.flowId)
    (keepsPairing : manager.KeepsPairing os
      (.addSource workerType srcId ip port))
    (rtcp : (middle.runtime worker).worker.kind = .rtcp) :
    (WorkerEvent.addSource srcId ip port).Apart
      (commandLine.registries worker) := by
  have unusedAhead {other : Int} (ahead : commandLine.flowId ≤ other) :
      (commandLine.registries worker).lookup other = none := by
    apply holds.unused
    rw [holds.unmapped ahead]
    simp
  exact ⟨unusedAhead (by omega),
    holds.unused (accepted.freeBelow holds.toFiled keepsPairing rtcp),
    unusedAhead (by omega)⟩

theorem pairingHolds (accepted : AcceptedStep os maxWorkers manager next
    workerType srcId ip port worker middle runtime)
    (holds : PairingHolds manager commandLine)
    (numbered : srcId = commandLine.flowId)
    (keepsPairing : manager.KeepsPairing os
      (.addSource workerType srcId ip port)) :
    PairingHolds next ⟨commandLine.flowId + 1,
      update commandLine.registries worker
        ((commandLine.registries worker).addSource srcId
          (SockAddr.ofPort ip port))⟩ := by
  have fresh : manager.srcIdWorker.lookup srcId = none :=
    holds.unmapped numbered.ge
  apply holds.of_served (accepted.filed holds.toFiled)
    (accepted.served holds.toFiled)
  · intro rtcp _
    exact accepted.apart holds numbered keepsPairing rtcp
  · trivial
  · omega
  · intro other server found
    have counter := holds.counter
    rcases accepted.mapped found with ⟨rfl, -⟩ | ⟨-, mapped⟩
    · omega
    · have range := holds.range other server mapped
      omega
  · intro other otherId
    have tied := holds.tied other otherId
    rw [accepted.sources, Table.lookup_insert]
    change ((update commandLine.registries worker
      ((commandLine.registries worker).addSource srcId
        (SockAddr.ofPort ip port)) other).lookup otherId).isSome = true ↔ _
    rcases eq_or_ne other worker with rfl | different
    · rw [update_self, Registry.lookup_addSource]
      rcases eq_or_ne otherId srcId with rfl | differentId
      · simp
      · rwa [if_neg differentId, if_neg differentId]
    · rw [update_of_ne different]
      rcases eq_or_ne otherId srcId with rfl | differentId
      · rw [fresh] at tied
        simp [tied, different.symm]
      · rwa [if_neg differentId]

end AcceptedStep

namespace RemovedStep

variable {os : Os} {manager next : Manager} {srcId : Int} {worker : Nat}
  {runtime : Runtime} {messages : List Message} {commandLine : CommandLine}

theorem served (removed : RemovedStep manager next srcId worker runtime
    messages) (filed : manager.Filed) :
    ServedStep os manager next (.removeSource srcId) worker
      (manager.runtime worker) runtime (.removed messages) := by
  obtain ⟨mapped, called, rfl⟩ := removed
  have stepped := Runtime.step_of_removeSource os called
  exact .of_put stepped (filed.sources srcId worker mapped) rfl rfl

theorem pairingHolds (removed : RemovedStep manager next srcId worker runtime
    messages) (holds : PairingHolds manager commandLine)
    (filed : next.Filed) :
    PairingHolds next ⟨commandLine.flowId, update commandLine.registries worker
      ((commandLine.registries worker).removeSource srcId)⟩ := by
  have served : ServedStep .orderly manager next (.removeSource srcId) worker
      (manager.runtime worker) runtime (.removed messages) :=
    removed.served holds.toFiled
  apply holds.of_served filed served (by simp)
    ((holds.tied worker srcId).mpr removed.mapped) (le_refl _)
  · intro other server found
    exact holds.range other server (removed.mapped_before found).2
  · intro other otherId
    have tied := holds.tied other otherId
    rw [removed.put, Table.lookup_erase]
    change ((update commandLine.registries worker
      ((commandLine.registries worker).removeSource srcId)
        other).lookup otherId).isSome = true ↔ _
    rcases eq_or_ne other worker with rfl | different
    · rw [update_self, Registry.lookup_removeSource]
      rcases eq_or_ne otherId srcId with rfl | differentId
      · simp
      · rwa [if_neg differentId, if_neg differentId]
    · rw [update_of_ne different]
      rcases eq_or_ne otherId srcId with rfl | differentId
      · rw [removed.mapped] at tied
        simp [tied, different.symm]
      · rwa [if_neg differentId]

end RemovedStep

namespace ManagerStep

variable {os : Os} {maxWorkers : Int} {manager next : Manager}
  {event : ManagerEvent} {output : ManagerOutput} {commandLine : CommandLine}

theorem pairingHolds_destination {srcId : Int} {call : WorkerEvent}
    {worker : Nat} {runtime : Runtime}
    (calls : event.destinationCall = some (srcId, call))
    (mapped : manager.srcIdWorker.lookup srcId = some worker)
    (called : (manager.runtime worker).step os call = .ok (runtime, .done))
    (holds : PairingHolds manager commandLine)
    (filed : (manager.put worker runtime).Filed) :
    PairingHolds (manager.put worker runtime)
      (CommandLine.observer.update commandLine event
        (.returned 0 (some worker))) := by
  have ahead := CommandLine.le_advance commandLine.flowId event
  have below := holds.sources srcId worker mapped
  obtain ⟨makes, -, records⟩ := ManagerEvent.destinationCall_record calls
  obtain ⟨registered, same, kept⟩ := records (commandLine.registries worker)
  have served : ServedStep os manager (manager.put worker runtime) call worker
      (manager.runtime worker) runtime .done := .of_put called below rfl rfl
  have recorded : CommandLine.record commandLine.registries event
      (.returned 0 (some worker)) = update commandLine.registries worker
        ((commandLine.registries worker).record call .done) := by
    rw [CommandLine.record, makes]
    dsimp only
    rw [same]
  change PairingHolds _ ⟨_, CommandLine.record _ _ _⟩
  rw [recorded]
  apply holds.of_served filed served (by simp)
    (registered.mpr ((holds.tied worker srcId).mpr mapped)) ahead
  · intro other server found
    obtain ⟨low, high⟩ := holds.range other server found
    exact ⟨low, high.trans_le ahead⟩
  · intro other otherId
    rcases eq_or_ne other worker with rfl | different
    · rw [update_self, kept]
      exact holds.tied other otherId
    · rw [update_of_ne different]
      exact holds.tied other otherId

theorem pairingHolds_rejected {middle : Manager} {workerType srcId : Int}
    {ip : InAddr} {port : Int} {worker : Nat} {runtime : Runtime}
    (chosen : manager.Chosen workerType worker middle)
    (called : (middle.runtime worker).step os (.addSource srcId ip port) =
      .ok (runtime, .added false))
    (holds : PairingHolds manager commandLine)
    (filed : (middle.put worker runtime).Filed) :
    PairingHolds (middle.put worker runtime)
      ⟨commandLine.flowId + 1, update commandLine.registries worker
        (commandLine.registries worker)⟩ := by
  have sources : (middle.put worker runtime).srcIdWorker =
      manager.srcIdWorker := chosen.tables.1
  have served : ServedStep os manager (middle.put worker runtime)
      (.addSource srcId ip port) worker (middle.runtime worker) runtime
      (.added false) := .of_chosen holds.toFiled chosen called rfl rfl
  apply holds.of_served filed served (by simp) trivial (by simp)
  · intro other server mapped
    rw [sources] at mapped
    have range := holds.range other server mapped
    omega
  · rw [sources]
    change ∀ other srcId, ((update commandLine.registries worker
      (commandLine.registries worker) other).lookup srcId).isSome = true ↔ _
    rw [update_eq_self]
    exact holds.tied

theorem pairingHolds
    (step : ManagerStep os maxWorkers manager next event output)
    (holds : PairingHolds manager commandLine)
    (numbered : event.Numbered commandLine.flowId)
    (keepsPairing : manager.KeepsPairing os event) :
    PairingHolds next
      (CommandLine.observer.update commandLine event output) := by
  have filed := step.filed holds.toFiled
  have ahead := CommandLine.le_advance commandLine.flowId event
  cases step with
  | unsupported unknownType same =>
      subst same
      exact holds.undisturbed filed ahead rfl rfl fun _ => .refl _
  | rejected middle runtime chosen called put =>
      subst put
      exact pairingHolds_rejected chosen called holds filed
  | accepted middle runtime chosen called committed =>
      exact AcceptedStep.pairingHolds ⟨chosen, called, committed⟩ holds
        numbered keepsPairing
  | unknown names missing same unserved =>
      subst same
      have recorded := CommandLine.record_unserved commandLine.registries event
        unserved
      change PairingHolds next ⟨_, CommandLine.record _ _ _⟩
      rw [recorded]
      exact holds.undisturbed filed ahead rfl rfl fun _ => .refl _
  | removed runtime messages mapped called put =>
      exact RemovedStep.pairingHolds ⟨mapped, called, put⟩ holds filed
  | destination runtime calls mapped called put =>
      subst put
      exact pairingHolds_destination calls mapped called holds filed
  | @read srcId worker timeStamp runtime mapped called put =>
      subst put
      obtain ⟨streamsOnly, lists, routes⟩ := Worker.readTimeStamp_kept called
      exact holds.undisturbed filed ahead rfl rfl
        (.put ⟨streamsOnly.sameWorker.1, routes, .inl lists⟩)
  | handled same =>
      subst same
      obtain ⟨workers, allocated, sources⟩ := manager.handleMessage_kept
      apply holds.undisturbed filed ahead allocated sources
      intro worker
      rw [workers]
      exact .refl _
  | @packet worker fd received put =>
      subst put
      have noted := Runtime.process_step (manager.runtime worker) fd received
      apply holds.undisturbed filed ahead rfl rfl
      apply Worker.Undisturbed.put
      refine ⟨noted.sameWorker.1, noted.routes, ?_⟩
      rcases noted.lists with
        same | ⟨listId, list, after, found, lists, source, destinations, -⟩
      · exact .inl same
      · exact .inr ⟨listId, list, after, found, lists, source, destinations⟩
  | timedOut same =>
      subst same
      exact holds.undisturbed filed ahead rfl rfl fun _ => .refl _
  | elapsed same =>
      subst same
      exact holds.undisturbed filed ahead rfl rfl fun _ => .refl _

/-- An accepted source under the identifier after a source of the same RTCP
worker takes the place of that source's second list. -/
theorem unpairs {workerType srcId : Int} {ip : InAddr} {port : Int}
    {worker : Nat} {middle : Manager} {runtime : Runtime}
    (accepted : AcceptedStep os maxWorkers manager next workerType srcId ip port
      worker middle runtime) (holds : PairingHolds manager commandLine)
    (rtcp : (manager.workers worker).kind = .rtcp)
    (below : manager.srcIdWorker.lookup (srcId - 1) = some worker) :
    ¬ next.Pairing (update commandLine.registries worker
      ((commandLine.registries worker).addSource srcId
        (SockAddr.ofPort ip port))) := by
  have existed := holds.sources _ worker below
  have called := accepted.called
  rw [accepted.middle_eq existed] at called
  have agree := holds.agree worker existed rtcp
  have used := (holds.tied worker (srcId - 1)).mpr below
  obtain ⟨registration, found⟩ := Option.isSome_iff_exists.mp used
  obtain ⟨-, list2, -, stored2, -, next2⟩ :=
    (holds.paired worker existed rtcp).registered found
  rw [sub_add_cancel] at stored2
  have nonzero : srcId ≠ 0 := by
    have range := holds.range _ worker below
    omega
  -- the address of the second list is routed to it, and the new one is not
  have routed := agree.complete srcId list2 nonzero stored2
  cases RtcpStep.of_step rtcp called with
  | added free free2 opened sockets lists routes =>
      intro pairing
      have kept : next.srcIdWorker.lookup (srcId - 1) = some worker := by
        rw [accepted.sources, Table.lookup_insert, if_neg (by omega), below]
      have stillRtcp : (next.workers worker).kind = .rtcp :=
        (accepted.keeps.same worker existed).1.trans rtcp
      obtain ⟨after, _, second, foundAfter, -, storedAfter, -, nextAfter⟩ :=
        pairing (srcId - 1) worker kept stillRtcp
      rw [update_self, Registry.lookup_addSource, if_neg (by omega), found]
        at foundAfter
      cases foundAfter
      rw [accepted.worker_eq, lists, sub_add_cancel,
        update_of_ne (by omega), update_self] at storedAfter
      cases storedAfter
      have sameAddr : list2.getSourceSockAddr = SockAddr.ofPort ip port :=
        congrArg Registration.addr (next2.trans nextAfter.symm)
      rw [sameAddr] at routed
      exact nonzero (routed.symm.trans free)

theorem pairing_broken
    (step : ManagerStep os maxWorkers manager next event output)
    (holds : PairingHolds manager commandLine)
    (breaks : ¬ manager.KeepsPairing os event) :
    ¬ next.Pairing
      (CommandLine.observer.update commandLine event output).registries := by
  cases event with
  | addSource workerType srcId ip port =>
      simp only [Manager.KeepsPairing, not_forall, ne_eq, not_not,
        exists_prop] at breaks
      obtain ⟨key, worker, entry, sameType, rtcp, canAdd, below⟩ := breaks
      have kindType : workerType = 4 := by
        rw [← sameType, Worker.getWorkerType, rtcp]
        rfl
      cases step with
      | unsupported unknownType same =>
          rw [kindType] at unknownType
          cases unknownType
      | rejected middle runtime chosen called put =>
          cases chosen with
          | found foundKey found foundType =>
              have same := holds.single key foundKey worker _ entry found
                (sameType.trans foundType.symm)
              subst same
              cases (Runtime.canAdd_iff called).mpr canAdd
          | created made absent supported =>
              exact absurd sameType (absent key worker entry)
      | accepted middle runtime chosen called committed =>
          have accepted : AcceptedStep os maxWorkers manager next workerType
              srcId ip port _ middle runtime := ⟨chosen, called, committed⟩
          have same := accepted.single holds.toFiled entry sameType
          subst same
          exact unpairs accepted holds rtcp below
      | unknown names missing same unserved => cases names
      | destination runtime calls mapped called put => cases calls
  | removeSource srcId => exact absurd trivial breaks
  | addDestination srcId destId ip port => exact absurd trivial breaks
  | removeDestination srcId destId => exact absurd trivial breaks
  | readTimeStamp srcId => exact absurd trivial breaks
  | handleMessage => exact absurd trivial breaks
  | packet worker fd received => exact absurd trivial breaks
  | selectTimeout worker => exact absurd trivial breaks
  | elapse seconds => exact absurd trivial breaks

end ManagerStep

namespace ServedStep

variable {os : Os} {manager next : Manager} {call : WorkerEvent} {worker : Nat}
  {before after : Runtime} {result : WorkerOutput}

theorem othersKept
    (served : ServedStep os manager next call worker before after result)
    (filed : manager.Filed) {srcId : Int} (names : call.source = some srcId)
    (apart : result = .added false ∨ ∀ other,
      manager.srcIdWorker.lookup other = some worker →
      (manager.workers worker).kind = .rtcp → other ≠ srcId →
      other ≠ srcId + 1 ∧ other + 1 ≠ srcId) :
    manager.OthersKept next srcId := by
  intro other server mapped rtcp different
  have below := filed.sources other server mapped
  rcases eq_or_ne server worker with rfl | elsewhere
  · have same : before.worker = manager.workers server := by
      rcases served.origin with ⟨-, same⟩ | ⟨fresh, -⟩
      · exact same
      · omega
    rw [← same] at rtcp ⊢
    have step := RtcpStep.of_step rtcp served.called
    rw [served.worker_eq]
    rcases apart with refused | apart
    · subst refused
      rw [step.lists_refused]
      exact ⟨rfl, rfl⟩
    · rw [same] at rtcp
      obtain ⟨above, under⟩ := apart other mapped rtcp different
      exact ⟨step.lists_away names different above,
        step.lists_away names under (fun same =>
          different (add_right_cancel same))⟩
  · rw [served.other_eq server below elsewhere]
    exact ⟨rfl, rfl⟩

end ServedStep

theorem PairingHolds.apart {manager : Manager} {commandLine : CommandLine}
    (holds : PairingHolds manager commandLine) {worker : Nat} {srcId : Int}
    (mapped : manager.srcIdWorker.lookup srcId = some worker) (other : Int)
    (mapped2 : manager.srcIdWorker.lookup other = some worker)
    (rtcp : (manager.workers worker).kind = .rtcp) (_ : other ≠ srcId) :
    other ≠ srcId + 1 ∧ other + 1 ≠ srcId := by
  have spaced := (holds.paired worker (holds.sources _ _ mapped) rtcp).spaced
  have used := (holds.tied worker srcId).mpr mapped
  have used2 := (holds.tied worker other).mpr mapped2
  constructor
  · rintro rfl
    rw [spaced srcId used] at used2
    cases used2
  · rintro rfl
    rw [spaced other used2] at used
    cases used

namespace ManagerStep

variable {os : Os} {maxWorkers : Int} {manager next : Manager}
  {event : ManagerEvent} {output : ManagerOutput} {commandLine : CommandLine}

theorem othersKept
    (step : ManagerStep os maxWorkers manager next event output)
    (holds : PairingHolds manager commandLine)
    (numbered : event.Numbered commandLine.flowId)
    (keepsPairing : manager.KeepsPairing os event) {call : WorkerEvent}
    {srcId : Int} (makes : event.workerCall = some call)
    (names : call.source = some srcId) : manager.OthersKept next srcId := by
  have filed := holds.toFiled
  cases step with
  | unsupported unknownType same =>
      subst same
      exact fun _ _ _ _ _ => ⟨rfl, rfl⟩
  | @rejected workerType newId ip port worker middle runtime chosen called
      put =>
      cases makes
      have served : ServedStep os manager next (.addSource newId ip port) worker
          (middle.runtime worker) runtime (.added false) := by
        subst put
        exact .of_chosen filed chosen called rfl rfl
      exact served.othersKept filed names (.inl rfl)
  | @accepted workerType newId ip port worker middle runtime chosen called
      committed =>
      cases makes
      cases names
      have accepted : AcceptedStep os maxWorkers manager next workerType srcId
          ip port worker middle runtime := ⟨chosen, called, committed⟩
      apply (accepted.served filed).othersKept filed rfl
      right
      intro other mapped rtcp _
      have same := accepted.middle_eq (filed.sources other worker mapped)
      have freeBelow := accepted.freeBelow filed keepsPairing (by
        rw [same]
        exact rtcp)
      have range := holds.range other worker mapped
      change srcId = _ at numbered
      constructor
      · omega
      · rintro rfl
        rw [add_sub_cancel_right] at freeBelow
        exact freeBelow mapped
  | unknown missingNames missing same unserved =>
      subst same
      exact fun _ _ _ _ _ => ⟨rfl, rfl⟩
  | @removed oldId worker runtime messages mapped called put =>
      cases makes
      cases names
      have removed : RemovedStep manager next srcId worker runtime messages :=
        ⟨mapped, called, put⟩
      have served : ServedStep os manager next (.removeSource srcId) worker
          (manager.runtime worker) runtime (.removed messages) :=
        removed.served filed
      exact served.othersKept filed rfl (.inr (holds.apart mapped))
  | @destination _ destSrc _ worker runtime calls mapped called put =>
      obtain ⟨makes2, names2, -⟩ := ManagerEvent.destinationCall_record calls
      rw [makes] at makes2
      cases makes2
      rw [names] at names2
      cases names2
      have served : ServedStep os manager next call worker
          (manager.runtime worker) runtime .done := by
        subst put
        exact .of_put called (filed.sources srcId worker mapped) rfl rfl
      exact served.othersKept filed names (.inr (holds.apart mapped))
  | read runtime mapped called put => cases makes
  | handled same => cases makes
  | packet put => cases makes
  | timedOut same => cases makes
  | elapsed same => cases makes

end ManagerStep

/-- In a run of the command line whose sources meet the condition, both lists
of every RTCP source pair up. The next command keeps the pairing exactly when
it meets the condition, and then it leaves the lists of other sources alone. -/
theorem pairing_of_keeping {os : Os} {maxWorkers : Int} {kernel : Kernel}
    {manager : Manager} {commandLine : CommandLine}
    (run : (managerMachine os maxWorkers).Run CommandLine.observer
      (fun manager commandLine event =>
        event.Numbered commandLine.flowId ∧ manager.KeepsPairing os event)
      (Manager.start kernel) manager commandLine) :
    manager.Pairing commandLine.registries ∧
      ∀ event next output, event.Numbered commandLine.flowId →
        (managerMachine os maxWorkers).step manager event =
          .ok (next, output) →
        (next.Pairing (CommandLine.observer.update commandLine event
            output).registries ↔ manager.KeepsPairing os event) ∧
        ∀ call srcId, event.workerCall = some call →
          call.source = some srcId → manager.KeepsPairing os event →
          manager.OthersKept next srcId := by
  have holds : PairingHolds manager commandLine := by
    refine run.invariant (motive := PairingHolds) (.start kernel) ?_
    intro manager next commandLine event output holds allowed stepped
    exact (ManagerStep.of_step stepped).pairingHolds holds allowed.1 allowed.2
  refine ⟨holds.pairing, ?_⟩
  intro event next output numbered stepped
  have step := ManagerStep.of_step stepped
  constructor
  · constructor
    · intro pairing
      by_contra breaks
      exact step.pairing_broken holds breaks pairing
    · intro keepsPairing
      exact (step.pairingHolds holds numbered keepsPairing).pairing
  · intro call srcId makes names keepsPairing
    exact step.othersKept holds numbered keepsPairing makes names

/-- A destination between two sources keeps their identifiers apart. -/
theorem pairing_spaced :
    ∃ manager commandLine,
      (managerMachine .orderly 4).Run CommandLine.observer
        (fun manager commandLine event =>
          event.Numbered commandLine.flowId ∧
            manager.KeepsPairing .orderly event)
        (Manager.start .fresh) manager commandLine ∧
      manager.Pairing commandLine.registries := by
  have run : (managerMachine .orderly 4).Run CommandLine.observer
      (fun manager commandLine event =>
        event.Numbered commandLine.flowId ∧
          manager.KeepsPairing .orderly event)
      (Manager.start .fresh) _ _ :=
    .of_replay [.addSource 4 100 1 5000, .addDestination 100 101 9 7000,
      .addSource 4 102 1 6000, .addDestination 102 103 9 7100,
      .removeDestination 100 101] (by decide)
  exact ⟨_, _, run, (pairing_of_keeping run).1⟩

/-- Two sources in a row: the second takes the place of the first one's second
list. -/
theorem pairing_consecutive :
    ∃ manager commandLine,
      (managerMachine .orderly 4).Run CommandLine.observer
        (fun _ commandLine event => event.Numbered commandLine.flowId)
        (Manager.start .fresh) manager commandLine ∧
      ¬ manager.Pairing commandLine.registries := by
  have run : (managerMachine .orderly 4).Run CommandLine.observer
      (fun _ commandLine event => event.Numbered commandLine.flowId)
      (Manager.start .fresh) _ _ :=
    .of_replay [.addSource 4 100 1 5000, .addSource 4 101 1 6000] (by decide)
  refine ⟨_, _, run, ?_⟩
  intro pairing
  obtain ⟨registration, list, list2, found, stored, stored2, equal, equal2⟩ :=
    pairing 100 0 rfl rfl
  cases found
  cases stored2
  cases equal2

end StrManager
