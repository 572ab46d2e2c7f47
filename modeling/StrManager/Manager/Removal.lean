import StrManager.Manager.CommandLine
import StrManager.Manager.Lists
import StrManager.Rtcp.Leaks

namespace StrManager

open Library Function

/-! What the workers still hold of a source after its removal, as long as no
source goes to an RTCP worker. -/

/-- The lists, counts and routes of the worker are those of the registered
sources. -/
structure Worker.Accounted (worker : Worker) (registry : Registry) : Prop where
  plain : worker.kind ≠ .rtcp
  implements : Implements worker.streams.lists registry.lookup
  counted : ∀ port, worker.ports.listeners port = registry.onPort port
  listening : worker.ports.Listening
  zero : registry.lookup 0 = none
  agree : worker.streams.RoutesAgree

namespace Worker.Accounted

variable {worker : Worker} {registry : Registry}

theorem create {kind : WorkerKind} (plain : kind ≠ .rtcp) (workerId : Int)
    (unused : ∀ srcId, registry.lookup srcId = none) :
    (Worker.create kind workerId).Accounted registry where
  plain := plain
  implements := by
    have lookup : registry.lookup = (∅ : Registry).lookup := by
      funext srcId
      rw [unused srcId, Table.lookup_empty]
    rw [lookup]
    exact .of_empty
  counted := by
    intro port
    have none : registry.onPort port = 0 := by
      apply Nat.eq_zero_of_not_pos
      intro positive
      obtain ⟨srcId, registration, found, -⟩ :=
        (registry.onPort_pos_iff port).mp positive
      rw [unused srcId] at found
      cases found
    rw [none]
    exact PortTables.listeners_empty port
  listening := .of_empty
  zero := unused 0
  agree := StreamTables.routesAgree_empty

theorem step {os : Os} {runtime next : Runtime} {event : WorkerEvent}
    {output : WorkerOutput} (accounted : runtime.worker.Accounted registry)
    (stepped : runtime.step os event = .ok (next, output))
    (nonzero : event.NonzeroSource)
    (fits : output = .added true → event.Fresh registry ∧ event.PortInRange) :
    next.worker.Accounted (registry.record event output) := by
  have step := PlainStep.of_step accounted.plain stepped
  refine ⟨?_, step.implements accounted.implements, ?_,
    step.listening accounted.listening,
    Registry.record_zero output nonzero accounted.zero, ?_, ?_⟩
  · rw [(Runtime.step_sameWorker stepped).1]
    exact accounted.plain
  · exact step.counted accounted.implements (fun added => (fits added).1)
      (fun added => (fits added).2) accounted.counted
  · exact step.routesSound accounted.implements (fun added => (fits added).1)
      accounted.agree.sound
  · exact step.routesComplete
      ((accounted.implements.none_iff 0).mpr accounted.zero)
      accounted.agree.complete

theorem of_same {after : Worker} (accounted : worker.Accounted registry)
    (kind : after.kind = worker.kind) (ports : after.ports = worker.ports)
    (lists : after.streams.lists = worker.streams.lists)
    (routes : after.streams.routes = worker.streams.routes) :
    after.Accounted registry where
  plain := by rw [kind]; exact accounted.plain
  implements := by rw [lists]; exact accounted.implements
  counted := by rw [ports]; exact accounted.counted
  listening := by rw [ports]; exact accounted.listening
  zero := accounted.zero
  agree := by
    have agree := accounted.agree
    unfold StreamTables.RoutesAgree at agree ⊢
    rwa [lists, routes]

theorem port_listed (accounted : worker.Accounted registry) {port fd : Int}
    (found : worker.ports.portFd.lookup port = some fd) :
    ∃ srcId list, worker.streams.lists srcId = some list ∧
      list.getSourcePort = port := by
  have counted := (accounted.listening port).mp ⟨fd, found⟩
  rw [accounted.counted] at counted
  obtain ⟨srcId, registration, known, used⟩ :=
    (registry.onPort_pos_iff port).mp (by omega)
  obtain ⟨list, stored, rfl⟩ := accounted.implements.stored known
  exact ⟨srcId, list, stored, used⟩

end Worker.Accounted

namespace ManagerEvent

def Plain : ManagerEvent → Prop
  | .addSource workerType srcId _ _ =>
      workerType ≠ WorkerKind.rtcp.workerType ∧ srcId ≠ 0
  | _ => True

instance (event : ManagerEvent) : Decidable event.Plain :=
  match event with
  | .addSource _ _ _ _ => inferInstanceAs (Decidable (_ ∧ _))
  | .removeSource _ | .addDestination _ _ _ _ | .removeDestination _ _
  | .readTimeStamp _ | .handleMessage | .packet _ _ _ | .selectTimeout _
  | .elapse _ => isTrue trivial

end ManagerEvent

namespace Manager

variable {os : Os} {manager next : Manager} {registries : Nat → Registry}

/-- Neither a worker of the pool nor a new one takes the source. -/
def Rejects (os : Os) (manager : Manager) (workerType : Int) (ip : InAddr)
    (port : Int) : Prop :=
  (∀ key worker, manager.workerIdWorker.lookup key = some worker →
    (manager.workers worker).getWorkerType = workerType →
    ¬ (manager.runtime worker).CanAdd os ip port) ∧
  ∀ kind ∈ WorkerKind.ofType workerType,
    (∀ key worker, manager.workerIdWorker.lookup key = some worker →
      (manager.workers worker).getWorkerType ≠ workerType) →
    ¬ ((manager.create kind).runtime manager.allocated).CanAdd os ip port

/-- A source is added under a new identifier and on a port number, unless it
is rejected. -/
def KeepsRemovals (os : Os) (manager : Manager) : ManagerEvent → Prop
  | .addSource workerType srcId ip port =>
      (manager.srcIdWorker.lookup srcId = none ∧ 0 ≤ port ∧ port ≤ 65535) ∨
        manager.Rejects os workerType ip port
  | _ => True

instance (os : Os) (manager : Manager) (workerType : Int) (ip : InAddr)
    (port : Int) : Decidable (manager.Rejects os workerType ip port) :=
  inferInstanceAs (Decidable (_ ∧ _))

instance (os : Os) (manager : Manager) (event : ManagerEvent) :
    Decidable (manager.KeepsRemovals os event) :=
  match event with
  | .addSource _ _ _ _ => inferInstanceAs (Decidable (_ ∨ _))
  | .removeSource _ | .addDestination _ _ _ _ | .removeDestination _ _
  | .readTimeStamp _ | .handleMessage | .packet _ _ _ | .selectTimeout _
  | .elapse _ => isTrue trivial

theorem Rejects.not_canAdd {workerType : Int} {ip : InAddr} {port : Int}
    {worker : Nat} {middle : Manager}
    (rejects : manager.Rejects os workerType ip port)
    (chosen : manager.Chosen workerType worker middle) :
    ¬ (middle.runtime worker).CanAdd os ip port := by
  cases chosen with
  | found key entry sameType => exact rejects.1 key worker entry sameType
  | created kind absent supported => exact rejects.2 kind supported absent

theorem Filed.rejects (filed : manager.Filed) {workerType : Int} {ip : InAddr}
    {port : Int} {worker : Nat} {middle : Manager}
    (chosen : manager.Chosen workerType worker middle)
    (refuses : ¬ (middle.runtime worker).CanAdd os ip port) :
    manager.Rejects os workerType ip port := by
  cases chosen with
  | found key entry sameType =>
      constructor
      · intro key2 other entry2 sameType2
        have same := filed.single key2 key other worker entry2 entry
          (sameType2.trans sameType.symm)
        rwa [same]
      · intro kind _ absent
        exact absurd sameType (absent key worker entry)
  | created kind absent supported =>
      constructor
      · intro key other entry sameType
        exact absurd sameType (absent key other entry)
      · intro kind2 supported2 _
        rw [Option.mem_def, supported] at supported2
        cases supported2
        exact refuses

structure Accounted (manager : Manager) (registries : Nat → Registry) :
    Prop where
  tied : ∀ worker srcId, ((registries worker).lookup srcId).isSome = true ↔
    manager.srcIdWorker.lookup srcId = some worker
  workers : ∀ worker, (manager.workers worker).Accounted (registries worker)

namespace Accounted

theorem start (kernel : Kernel) :
    (Manager.start kernel).Accounted fun _ => ∅ where
  tied := by
    intro worker srcId
    constructor
    · intro used
      cases used
    · intro mapped
      cases mapped
  workers := fun _ => .create (by decide) _ Table.lookup_empty

theorem unused (accounted : manager.Accounted registries) {worker : Nat}
    {srcId : Int} (unmapped : manager.srcIdWorker.lookup srcId ≠ some worker) :
    (registries worker).lookup srcId = none := by
  rw [← Option.not_isSome_iff_eq_none]
  intro used
  exact unmapped ((accounted.tied worker srcId).mp used)

theorem unlisted (accounted : manager.Accounted registries) {worker : Nat}
    {srcId : Int} (unmapped : manager.srcIdWorker.lookup srcId ≠ some worker) :
    (manager.workers worker).streams.lists srcId = none :=
  ((accounted.workers worker).implements.none_iff srcId).mpr
    (accounted.unused unmapped)

theorem chosen (accounted : manager.Accounted registries)
    (filed : manager.Filed) {workerType : Int} {worker : Nat}
    {middle : Manager} (chosen : manager.Chosen workerType worker middle)
    (plain : workerType ≠ WorkerKind.rtcp.workerType) :
    middle.Accounted registries := by
  cases chosen with
  | found key entry sameType => exact accounted
  | created kind absent supported =>
      refine ⟨accounted.tied, ?_⟩
      intro other
      rw [create_workers, update_apply]
      split
      · rename_i created
        refine .create ?_ _ ?_
        · rintro rfl
          exact plain (WorkerKind.workerType_of_ofType supported).symm
        · intro srcId
          apply accounted.unused
          intro mapped
          have below := filed.sources srcId other mapped
          omega
      · exact accounted.workers other

theorem put (accounted : manager.Accounted registries) {worker : Nat}
    {runtime : Runtime} {registry : Registry}
    (changed : runtime.worker.Accounted registry) (other : Nat) :
    ((manager.put worker runtime).workers other).Accounted
      (update registries worker registry other) := by
  rw [put_workers, update_apply, update_apply]
  split
  · exact changed
  · exact accounted.workers other

theorem put_same (accounted : manager.Accounted registries) {worker : Nat}
    {runtime : Runtime}
    (changed : runtime.worker.Accounted (registries worker)) :
    (manager.put worker runtime).Accounted registries := by
  refine ⟨accounted.tied, ?_⟩
  intro other
  rw [put_workers, update_apply]
  split
  · rename_i here
    rw [here]
    exact changed
  · exact accounted.workers other

theorem added (accounted : manager.Accounted registries)
    (filed : manager.Filed) {maxWorkers workerType srcId : Int} {ip : InAddr}
    {port : Int} {worker : Nat} {middle : Manager} {runtime : Runtime}
    (accepted : AcceptedStep os maxWorkers manager next workerType srcId ip port
      worker middle runtime)
    (plain : (ManagerEvent.addSource workerType srcId ip port).Plain)
    (fresh : manager.srcIdWorker.lookup srcId = none)
    (inRange : 0 ≤ port ∧ port ≤ 65535) :
    next.Accounted (update registries worker
      ((registries worker).addSource srcId (SockAddr.ofPort ip port))) := by
  have middleHolds := accounted.chosen filed accepted.chosen plain.1
  have free {other : Nat} : (registries other).lookup srcId = none := by
    apply accounted.unused
    rw [fresh]
    exact Option.some_ne_none other |>.symm
  constructor
  · intro other otherId
    rw [accepted.sources, Table.lookup_insert, update_apply]
    split
    · rename_i here
      subst here
      rw [Registry.lookup_addSource]
      split
      · exact iff_of_true rfl rfl
      · exact accounted.tied other otherId
    · rename_i elsewhere
      split
      · rename_i same
        rw [same, free]
        refine iff_of_false (by decide) ?_
        intro equal
        exact elsewhere (Option.some.inj equal).symm
      · exact accounted.tied other otherId
  · intro other
    obtain ⟨chosen, called, rfl⟩ := accepted
    exact middleHolds.put ((middleHolds.workers worker).step called plain.2
      fun _ => ⟨free, inRange⟩) other

theorem removed (accounted : manager.Accounted registries) {srcId : Int}
    {worker : Nat} {runtime : Runtime} {messages : List Message}
    (removed : RemovedStep manager next srcId worker runtime messages) :
    next.Accounted (update registries worker
      ((registries worker).removeSource srcId)) := by
  have stepped := Runtime.step_of_removeSource .orderly removed.called
  have holder {other : Nat} (used : ((registries other).lookup srcId).isSome =
      true) : other = worker := by
    have mapped := (accounted.tied other srcId).mp used
    rw [removed.mapped] at mapped
    exact (Option.some.inj mapped).symm
  constructor
  · intro other otherId
    rw [removed.put, update_apply]
    change _ ↔ (manager.srcIdWorker.erase srcId).lookup otherId = some other
    rw [Table.lookup_erase]
    split
    · rename_i here
      subst here
      rw [Registry.lookup_removeSource]
      split
      · exact iff_of_false (by decide) (by simp)
      · exact accounted.tied other otherId
    · rename_i elsewhere
      split
      · rename_i same
        refine iff_of_false ?_ (by simp)
        rw [same]
        intro used
        exact elsewhere (holder used)
      · exact accounted.tied other otherId
  · intro other
    rw [removed.put]
    exact accounted.put ((accounted.workers worker).step stepped trivial
      (by simp)) other

end Accounted

end Manager

theorem ManagerStep.accounted {os : Os} {maxWorkers : Int}
    {manager next : Manager} {event : ManagerEvent} {output : ManagerOutput}
    {registries : Nat → Registry}
    (step : ManagerStep os maxWorkers manager next event output)
    (filed : manager.Filed) (plain : event.Plain)
    (keeps : manager.KeepsRemovals os event)
    (accounted : manager.Accounted registries) :
    ∃ after, next.Accounted after := by
  cases step with
  | unsupported unknownType same =>
      subst same
      exact ⟨registries, accounted⟩
  | @rejected workerType srcId ip port worker middle runtime chosen called
      put =>
      subst put
      have middleHolds := accounted.chosen filed chosen plain.1
      exact ⟨registries, middleHolds.put_same
        ((middleHolds.workers worker).step called plain.2 (by simp))⟩
  | @accepted workerType srcId ip port worker middle runtime chosen called
      committed =>
      obtain ⟨fresh, inRange⟩ := keeps.resolve_right fun rejects =>
        rejects.not_canAdd chosen ((Runtime.canAdd_iff called).mp rfl)
      exact ⟨_, accounted.added filed ⟨chosen, called, committed⟩ plain fresh
        inRange⟩
  | unknown names missing same unserved =>
      subst same
      exact ⟨registries, accounted⟩
  | removed runtime messages mapped called put =>
      exact ⟨_, accounted.removed ⟨mapped, called, put⟩⟩
  | @destination _ srcId call worker runtime calls mapped called put =>
      subst put
      obtain ⟨-, names, records⟩ := ManagerEvent.destinationCall_record calls
      have nonzero : call.NonzeroSource := by
        cases event <;> cases calls <;> trivial
      refine ⟨_, ?_, accounted.put ((accounted.workers worker).step called nonzero
        (by simp))⟩
      intro other otherId
      rw [update_apply]
      split
      · rename_i here
        rw [here, (records (registries worker)).2.2]
        exact accounted.tied worker otherId
      · exact accounted.tied other otherId
  | @read srcId worker timeStamp runtime mapped called put =>
      subst put
      obtain ⟨streamsOnly, lists, routes⟩ := Worker.readTimeStamp_kept called
      refine ⟨registries, accounted.put_same ?_⟩
      exact (accounted.workers worker).of_same streamsOnly.sameWorker.1
        (congrArg SocketState.ports streamsOnly.sockets) lists routes
  | handled same =>
      subst same
      obtain ⟨workers, -, sources⟩ := manager.handleMessage_kept
      refine ⟨registries, ?_, ?_⟩
      · rw [sources]
        exact accounted.tied
      · rw [workers]
        exact accounted.workers
  | @packet worker fd received put =>
      subst put
      have stepped := Runtime.step_packet os (manager.runtime worker) fd
        received
      exact ⟨registries, accounted.put_same
        ((accounted.workers worker).step stepped trivial (by simp))⟩
  | timedOut same =>
      subst same
      exact ⟨registries, accounted.tied, accounted.workers⟩
  | elapsed same =>
      subst same
      exact ⟨registries, accounted.tied, accounted.workers⟩

/-- Nothing is left of the source, and every open port belongs to a source that
is registered at its worker. -/
structure Manager.Cleared (manager : Manager) (srcId : Int) : Prop where
  lists : ∀ worker, (manager.workers worker).streams.lists srcId = none
  routes : ∀ worker addr, (manager.workers worker).streams.routes addr ≠ srcId
  ports : ∀ worker port fd,
    (manager.workers worker).ports.portFd.lookup port = some fd →
    ∃ other list, manager.srcIdWorker.lookup other = some worker ∧
      (manager.workers worker).streams.lists other = some list ∧
      list.getSourcePort = port

namespace Manager

def RemovesWhole (os : Os) (maxWorkers : Int) (manager : Manager) : Prop :=
  ∀ srcId next server,
    (managerMachine os maxWorkers).step manager (.removeSource srcId) =
      .ok (next, .returned 0 server) → next.Cleared srcId

theorem Accounted.cleared {manager : Manager} {registries : Nat → Registry}
    (accounted : manager.Accounted registries) {srcId : Int}
    (nonzero : srcId ≠ 0)
    (unmapped : manager.srcIdWorker.lookup srcId = none) :
    manager.Cleared srcId where
  lists := by
    intro worker
    apply accounted.unlisted
    rw [unmapped]
    exact Option.some_ne_none worker |>.symm
  routes := by
    intro worker addr routed
    obtain ⟨list, found, -⟩ := (accounted.workers worker).agree.sound addr
      (by rw [routed]; exact nonzero)
    rw [routed, accounted.unlisted (by simp [unmapped])] at found
    cases found
  ports := by
    intro worker port fd found
    obtain ⟨other, list, stored, used⟩ :=
      (accounted.workers worker).port_listed found
    refine ⟨other, list, ?_, stored, used⟩
    by_contra elsewhere
    rw [accounted.unlisted elsewhere] at stored
    cases stored

theorem Accounted.removesWhole {os : Os} {maxWorkers : Int}
    {manager : Manager} {registries : Nat → Registry}
    (accounted : manager.Accounted registries) :
    manager.RemovesWhole os maxWorkers := by
  intro srcId next server returned
  have step : ManagerStep os maxWorkers manager next (.removeSource srcId)
      (.returned 0 server) := .of_step returned
  cases mapped : manager.srcIdWorker.lookup srcId with
  | none =>
      change manager.removeSource srcId = _ at returned
      unfold Manager.removeSource at returned
      rw [mapped] at returned
      cases returned
  | some worker =>
      obtain ⟨runtime, messages, removed⟩ := step.removes mapped
      have used := (accounted.tied worker srcId).mpr mapped
      apply (accounted.removed removed).cleared
      · rintro rfl
        rw [(accounted.workers worker).zero] at used
        cases used
      · rw [removed.put]
        change (manager.srcIdWorker.erase srcId).lookup srcId = none
        rw [Table.lookup_erase, if_pos rfl]

end Manager

theorem ntohs_range (port : BitVec 16) : 0 ≤ ntohs port ∧ ntohs port ≤ 65535 := by
  have bound := port.isLt
  unfold ntohs
  omega

theorem SocketState.removeSocket_portFd_of_ne (state : SocketState)
    {closing port : Int} (different : port ≠ closing) :
    (removeSocket state closing).2.ports.portFd.lookup port =
      state.ports.portFd.lookup port := by
  rcases removeSocket_cases state closing with ⟨-, result⟩ | ⟨-, result⟩
  · rw [result]
    change (state.ports.portFd.erase closing).lookup port = _
    rw [Table.lookup_erase, if_neg different]
  · rw [result]
    rfl

theorem Worker.Accounted.unused_port {worker : Worker} {registry : Registry}
    (accounted : worker.Accounted registry) {port : Int}
    (outside : ¬ (0 ≤ port ∧ port ≤ 65535)) :
    worker.ports.listeners port = 0 := by
  rw [accounted.counted, Int.natCast_eq_zero]
  apply Nat.eq_zero_of_not_pos
  intro positive
  obtain ⟨srcId, registration, -, rfl⟩ :=
    (registry.onPort_pos_iff port).mp positive
  exact outside (ntohs_range registration.addr.sinPort)

namespace AcceptedStep

variable {os : Os} {maxWorkers : Int} {manager next middle final : Manager}
  {workerType srcId : Int} {ip : InAddr} {port : Int} {worker : Nat}
  {runtime after : Runtime} {messages : List Message}

theorem runtime_eq (accepted : AcceptedStep os maxWorkers manager next
    workerType srcId ip port worker middle runtime) :
    next.runtime worker = runtime := by
  have same := accepted.worker_eq
  obtain ⟨chosen, called, rfl⟩ := accepted
  unfold Manager.runtime
  rw [same]
  rfl

theorem mapped_new (accepted : AcceptedStep os maxWorkers manager next
    workerType srcId ip port worker middle runtime) :
    next.srcIdWorker.lookup srcId = some worker := by
  rw [accepted.sources, Table.lookup_insert, if_pos rfl]

theorem removable (accepted : AcceptedStep os maxWorkers manager next workerType
    srcId ip port worker middle runtime) :
    ∃ final after messages,
      (managerMachine os maxWorkers).step next (.removeSource srcId) =
        .ok (final, .returned 0 (some worker)) ∧
      RemovedStep next final srcId worker after messages := by
  have mapped := accepted.mapped_new
  have has : (next.runtime worker).worker.HasLists srcId := by
    have kind : runtime.worker.kind = (middle.runtime worker).worker.kind :=
      accepted.worker_kept.1.1
    obtain ⟨first, second⟩ := Runtime.step_added accepted.called
    rw [accepted.runtime_eq]
    refine ⟨first, ?_⟩
    intro rtcp
    exact second (kind.symm.trans rtcp)
  obtain ⟨after, messages, called⟩ := Runtime.removeSource_of_hasLists has
  refine ⟨_, after, messages, ?_, mapped, called, rfl⟩
  change next.removeSource srcId = _
  unfold Manager.removeSource
  rw [mapped]
  change Except.bind ((next.runtime worker).removeSource srcId) _ = _
  rw [called]
  rfl

theorem removed_after (accepted : AcceptedStep os maxWorkers manager next
    workerType srcId ip port worker middle runtime)
    (plain : (middle.workers worker).kind ≠ .rtcp)
    (removed : RemovedStep next final srcId worker after messages) :
    (final.workers worker).streams.routes =
        update (middle.workers worker).streams.routes
          (SockAddr.ofPort ip port) 0 ∧
      (final.workers worker).ports = (SocketState.removeSocket
        (SocketState.addSocket os (middle.runtime worker).sockets port).2
          (ntohs (htons port))).2.ports := by
  have called := removed.called
  rw [accepted.runtime_eq] at called
  have stepped := Runtime.step_of_removeSource .orderly called
  have kind : runtime.worker.kind = (middle.workers worker).kind :=
    accepted.worker_kept.1.1
  rw [removed.worker_eq]
  cases PlainStep.of_step plain accepted.called with
  | added list free opened sockets created lists routes =>
      have source : list.source = UdpStream.create srcId ip port := by
        rw [created, WorkerKind.newList_source]
      cases PlainStep.of_step (by rwa [kind]) stepped with
      | removed removedList found sockets2 lists2 routes2 =>
          rw [lists, update_self] at found
          cases found
          have addr : list.getSourceSockAddr = SockAddr.ofPort ip port := by
            rw [StreamList.getSourceSockAddr, source]
            rfl
          have sourcePort : list.getSourcePort = ntohs (htons port) := by
            rw [StreamList.getSourcePort, source]
            rfl
          constructor
          · rw [routes2, routes, addr, update_idem]
            rfl
          · rw [sockets, sourcePort] at sockets2
            exact congrArg SocketState.ports sockets2

theorem port_left (accepted : AcceptedStep os maxWorkers manager next
    workerType srcId ip port worker middle runtime)
    {registry : Registry}
    (accounted : (middle.workers worker).Accounted registry)
    (outside : ¬ (0 ≤ port ∧ port ≤ 65535))
    (removed : RemovedStep next final srcId worker after messages) :
    ((final.workers worker).ports.portFd.lookup port).isSome = true := by
  obtain ⟨-, ports⟩ := accepted.removed_after accounted.plain removed
  have different : port ≠ ntohs (htons port) := by
    intro same
    apply outside
    rw [same]
    exact ntohs_range (htons port)
  have idle : (middle.runtime worker).sockets.ports.listeners port = 0 :=
    accounted.unused_port outside
  have opened : (SocketState.addSocket os (middle.runtime worker).sockets
      port).1 ≠ -1 := by
    cases PlainStep.of_step accounted.plain accepted.called with
    | added list free opened sockets created lists routes => exact opened
  rw [ports, SocketState.removeSocket_portFd_of_ne _ different]
  rcases SocketState.addSocket_cases os (middle.runtime worker).sockets
    port with ⟨counted, -⟩ | ⟨-, -, result⟩ | ⟨-, -, result⟩
  · exact absurd idle counted
  · rw [result] at opened
    exact absurd rfl opened
  · rw [result]
    change (((middle.runtime worker).sockets.ports.portFd.insert port
      _).lookup port).isSome = true
    rw [Table.lookup_insert, if_pos rfl]
    rfl

theorem route_left (accepted : AcceptedStep os maxWorkers manager next
    workerType srcId ip port worker middle runtime)
    {registry : Registry}
    (accounted : (middle.workers worker).Accounted registry)
    (nonzero : srcId ≠ 0) {list : StreamList}
    (stored : (middle.workers worker).streams.lists srcId = some list)
    (removed : RemovedStep next final srcId worker after messages) :
    (final.workers worker).streams.routes list.getSourceSockAddr = srcId := by
  obtain ⟨routes, -⟩ := accepted.removed_after accounted.plain removed
  have indexed := accounted.agree.complete srcId list nonzero stored
  rw [routes]
  rcases eq_or_ne list.getSourceSockAddr (SockAddr.ofPort ip port) with
    same | moved
  · have free : (middle.workers worker).streams.routes
        (SockAddr.ofPort ip port) = 0 := by
      cases PlainStep.of_step accounted.plain accepted.called with
      | added list free opened sockets created lists routes => exact free
    rw [← same, indexed] at free
    exact absurd free nonzero
  · rw [update_of_ne moved]
    exact indexed

/-- A source that is taken under an identifier in use, or for no port number,
leaves something behind when it is removed. -/
theorem not_removesWhole (accepted : AcceptedStep os maxWorkers manager next
    workerType srcId ip port worker middle runtime)
    (filed : manager.Filed) {registries : Nat → Registry}
    (accounted : manager.Accounted registries)
    (plain : (ManagerEvent.addSource workerType srcId ip port).Plain)
    (breaks : ¬ (manager.srcIdWorker.lookup srcId = none ∧
      0 ≤ port ∧ port ≤ 65535)) :
    ¬ next.RemovesWhole os maxWorkers := by
  intro removesWhole
  obtain ⟨final, after, messages, returned, removed⟩ := accepted.removable
  have cleared := removesWhole srcId final (some worker) returned
  have middleHolds := accounted.chosen filed accepted.chosen plain.1
  have middleWorker := middleHolds.workers worker
  cases mapped : manager.srcIdWorker.lookup srcId with
  | none =>
      have outside : ¬ (0 ≤ port ∧ port ≤ 65535) := fun inRange =>
        breaks ⟨mapped, inRange⟩
      obtain ⟨fd, found⟩ := Option.isSome_iff_exists.mp
        (accepted.port_left middleWorker outside removed)
      obtain ⟨other, list, -, -, used⟩ := cleared.ports worker port fd found
      apply outside
      rw [← used]
      exact ntohs_range list.source.addr.sinPort
  | some server =>
      have used := (accounted.tied server srcId).mpr mapped
      obtain ⟨registration, known⟩ := Option.isSome_iff_exists.mp used
      obtain ⟨list, stored, -⟩ :=
        (accounted.workers server).implements.stored known
      have below := filed.sources srcId server mapped
      rcases eq_or_ne server worker with rfl | elsewhere
      · apply cleared.routes server list.getSourceSockAddr
        rw [← accepted.middle_eq below] at stored
        exact accepted.route_left middleWorker plain.2 stored removed
      · -- The old worker still has its list.
        have kept := cleared.lists server
        rw [removed.other_eq elsewhere, accepted.other_eq elsewhere,
          stored] at kept
        cases kept

end AcceptedStep

/-- In a run whose sources meet the condition every removal is complete, and the
next step keeps removals complete exactly when it meets the condition. -/
theorem removals_complete {os : Os} {maxWorkers : Int} {kernel : Kernel}
    {manager : Manager}
    (run : (managerMachine os maxWorkers).Run Observer.none
      (fun manager _ event => event.Plain ∧ manager.KeepsRemovals os event)
      (Manager.start kernel) manager ()) :
    manager.RemovesWhole os maxWorkers ∧
      ∀ event next output, event.Plain →
        (managerMachine os maxWorkers).step manager event =
          .ok (next, output) →
        (next.RemovesWhole os maxWorkers ↔
          manager.KeepsRemovals os event) := by
  have filed := managerMachine_run_filed run
  obtain ⟨registries, accounted⟩ : ∃ registries,
      manager.Accounted registries := by
    refine run.invariant_of
      (motive := fun manager _ => ∃ registries, manager.Accounted registries)
      managerMachine_run_filed ⟨_, .start kernel⟩ ?_
    intro manager next record event output filed holds allowed stepped
    obtain ⟨registries, accounted⟩ := holds
    exact (ManagerStep.of_step stepped).accounted filed allowed.1 allowed.2
      accounted
  refine ⟨accounted.removesWhole, ?_⟩
  intro event next output plain stepped
  have step : ManagerStep os maxWorkers manager next event output :=
    .of_step stepped
  constructor
  · intro removesWhole
    cases event with
    | addSource workerType srcId ip port =>
        by_contra breaks
        cases step with
        | unsupported unknownType same =>
            refine breaks (.inr ⟨?_, ?_⟩)
            · rintro key worker entry rfl
              have supported := WorkerKind.ofType_workerType
                (manager.workers worker).kind
              change WorkerKind.ofType
                (manager.workers worker).kind.workerType = none at unknownType
              rw [supported] at unknownType
              cases unknownType
            · intro kind supported
              rw [Option.mem_def, unknownType] at supported
              cases supported
        | rejected middle runtime chosen called put =>
            refine breaks (.inr (filed.rejects chosen ?_))
            rw [← Runtime.canAdd_iff called]
            exact Bool.false_ne_true
        | accepted middle runtime chosen called committed =>
            have accepted := AcceptedStep.mk chosen called committed
            exact accepted.not_removesWhole filed accounted plain
              (fun fits => breaks (.inl fits)) removesWhole
        | unknown names missing same unserved => cases names
        | destination runtime calls mapped called put => cases calls
    | removeSource srcId => trivial
    | addDestination srcId destId ip port => trivial
    | removeDestination srcId destId => trivial
    | readTimeStamp srcId => trivial
    | handleMessage => trivial
    | packet worker fd received => trivial
    | selectTimeout worker => trivial
    | elapse seconds => trivial
  · intro keeps
    obtain ⟨after, holds⟩ := step.accounted filed plain keeps accounted
    exact holds.removesWhole

/-- A forward and a stats source come and go. -/
theorem removals_complete_two :
    ∃ manager next,
      (managerMachine .orderly 4).Run Observer.none
        (fun manager _ event =>
          event.Plain ∧ manager.KeepsRemovals .orderly event)
        (Manager.start .fresh) manager () ∧
      (managerMachine .orderly 4).step manager (.removeSource 2) =
        .ok (next, .returned 0 (some 1)) ∧
      next.Cleared 2 := by
  have run : (managerMachine .orderly 4).Run Observer.none
      (fun manager _ event =>
        event.Plain ∧ manager.KeepsRemovals .orderly event)
      (Manager.start .fresh) _ _ :=
    .of_replay [.addSource 1 1 1 5000, .addSource 2 2 1 5002,
      .addSource 1 3 1 5000, .removeSource 1] (by decide)
  exact ⟨_, _, run, rfl, (removals_complete run).1 2 _ (some 1) rfl⟩

/-- A stats source replaces the forward source with the same identifier, and
its removal leaves the forward list behind. -/
theorem removals_incomplete :
    ∃ manager next,
      (managerMachine .orderly 4).Run Observer.none
        (fun _ _ event => event.Plain) (Manager.start .fresh) manager () ∧
      (managerMachine .orderly 4).step manager (.removeSource 1) =
        .ok (next, .returned 0 (some 1)) ∧
      ¬ next.Cleared 1 := by
  have run : (managerMachine .orderly 4).Run Observer.none
      (fun _ _ event => event.Plain) (Manager.start .fresh) _ _ :=
    .of_replay [.addSource 1 1 1 5000, .addSource 2 1 1 5002] (by decide)
  refine ⟨_, _, run, rfl, ?_⟩
  intro cleared
  have gone := cleared.lists 0
  cases gone

end StrManager
