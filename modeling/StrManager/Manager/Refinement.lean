import StrManager.Manager.Hosting

namespace StrManager

open Library Function

/-! The manager refines the reflector, over workers of all classes. -/

namespace ManagerStep

variable {os : Os} {maxWorkers : Int} {manager next : Manager}
  {registries : Nat → Registry} {reflector : Reflector}

theorem hosts_rejected (exclusive : os.Exclusive)
    (hosts : manager.Hosts registries reflector) {workerType srcId : Int}
    {ip : InAddr} {port : Int} {worker : Nat} {middle : Manager}
    {runtime : Runtime} (filed : next.Filed)
    (fits : (ManagerEvent.addSource workerType srcId ip port).Fits reflector)
    (chosen : manager.Chosen workerType worker middle)
    (called : (middle.runtime worker).step os (.addSource srcId ip port) =
      .ok (runtime, .added false))
    (put : next = middle.put worker runtime) :
    next.Hosts registries reflector := by
  have middleHosts := hosts.chosen chosen
  have unmapped := (middleHosts.none_iff srcId).mp fits.1
  have unused : (registries worker).lookup srcId = none := by
    apply middleHosts.unused
    rw [unmapped]
    simp
  obtain ⟨serves, moves, unique⟩ := (middleHosts.serves worker).step exclusive
    (fits.call chosen.ofType unused) trivial middleHosts.unique called
  refine middleHosts.kept filed ?_ put serves moves unique
  subst put
  exact .called called

theorem hosts_accepted (exclusive : os.Exclusive)
    (hosts : manager.Hosts registries reflector) {workerType srcId : Int}
    {ip : InAddr} {port : Int} {worker : Nat} {middle : Manager}
    {runtime : Runtime} (filed : next.Filed)
    (fits : (ManagerEvent.addSource workerType srcId ip port).Fits reflector)
    (accepted : AcceptedStep os maxWorkers manager next workerType srcId ip port
      worker middle runtime) :
    next.Hosts (update registries worker ((registries worker).addSource srcId
        (SockAddr.ofPort ip port)))
      (reflector.carryOut (.addSource workerType srcId ip port)) := by
  have chosen := accepted.chosen
  have called := accepted.called
  have committed := accepted.committed
  have middleHosts := hosts.chosen chosen
  have unmapped := (middleHosts.none_iff srcId).mp fits.1
  have unused (server : Nat) : (registries server).lookup srcId = none := by
    apply middleHosts.unused
    rw [unmapped]
    simp
  obtain ⟨serves, moves, unique⟩ := (middleHosts.serves worker).step exclusive
    (fits.call chosen.ofType (unused worker)) trivial middleHosts.unique called
  have kind : (next.workers worker).kind = (middle.workers worker).kind := by
    rw [accepted.worker_eq]
    exact accepted.worker_kept.1.1
  have keeps : middle.Keeps next := by
    subst committed
    exact (Manager.Keeps.called called).trans (.of_workers rfl rfl)
  refine ⟨filed, ?_, ?_, ?_⟩
  · refine middleHosts.toRecords.set worker srcId
      (some ⟨SockAddr.ofPort ip port, []⟩) ?_ ?_ (middleHosts.kinds keeps) ?_ ?_
      fun server _ => unused server
    · rw [accepted.sources, ← chosen.tables.1]
      exact Table.lookup_insert_eq_update _ _ _
    · rw [Reflector.carryOut, chosen.ofType, kind]
      rfl
    · rw [update_self]
      exact Table.lookup_insert_eq_update _ _ _
    · intro server elsewhere
      rw [update_of_ne elsewhere]
  · subst committed
    exact middleHosts.shared_put serves moves
  · subst committed
    exact unique

theorem hosts_removed (exclusive : os.Exclusive)
    (hosts : manager.Hosts registries reflector) {srcId : Int} {worker : Nat}
    {runtime : Runtime} {messages : List Message} (filed : next.Filed)
    (keeps : manager.Keeps next)
    (removed : RemovedStep manager next srcId worker runtime messages) :
    next.Hosts (update registries worker
        ((registries worker).removeSource srcId))
      (reflector.carryOut (.removeSource srcId)) := by
  obtain ⟨mapped, called, put⟩ := removed
  have stepped := Runtime.step_of_removeSource os called
  have registered := (hosts.tied worker srcId).mpr mapped
  obtain ⟨serves, moves, unique⟩ := (hosts.serves worker).step exclusive
    (show WorkerEvent.Fits _ _ (.removeSource srcId) from registered) trivial
    hosts.unique stepped
  have alone (server : Nat) (elsewhere : server ≠ worker) :
      (registries server).lookup srcId = none := by
    apply hosts.unused
    rw [mapped]
    simpa using elsewhere.symm
  refine ⟨filed, ?_, ?_, ?_⟩
  · refine hosts.toRecords.set worker srcId none ?_ rfl (hosts.kinds keeps) ?_ ?_
      alone
    · rw [put]
      exact Table.lookup_erase_eq_update _ _
    · rw [update_self]
      exact Table.lookup_erase_eq_update _ _
    · intro server elsewhere
      rw [update_of_ne elsewhere]
  · subst put
    exact hosts.shared_put serves moves
  · subst put
    exact unique

theorem hosts_edited (exclusive : os.Exclusive)
    (hosts : manager.Hosts registries reflector) {srcId : Int}
    {edit : Registration → Registration} {call : WorkerEvent} {worker : Nat}
    {runtime : Runtime} (filed : next.Filed) (keeps : manager.Keeps next)
    (fits : call.Fits (manager.workers worker).kind (registries worker))
    (records : (registries worker).record call .done =
      (registries worker).change srcId edit)
    (polled : call.Polled (manager.runtime worker))
    (mapped : manager.srcIdWorker.lookup srcId = some worker)
    (called : (manager.runtime worker).step os call = .ok (runtime, .done))
    (put : next = manager.put worker runtime) :
    next.Hosts (update registries worker
        ((registries worker).change srcId edit))
      (update reflector srcId ((reflector srcId).map (Flow.edit edit))) := by
  obtain ⟨registration, registered, found⟩ := hosts.registered mapped
  obtain ⟨serves, moves, unique⟩ := (hosts.serves worker).step exclusive
    fits polled hosts.unique called
  rw [records] at serves
  have kind := hosts.kinds keeps srcId worker mapped
  refine ⟨filed, ?_, ?_, ?_⟩
  · refine hosts.toRecords.set worker srcId (some (edit registration)) ?_ ?_
      (hosts.kinds keeps) ?_ ?_ ?_
    · rw [put]
      change manager.srcIdWorker.lookup = _
      rw [Option.map_some, ← mapped, update_eq_self]
    · rw [found, kind]
      rfl
    · rw [update_self]
      exact Registry.lookup_change_of_lookup edit registered
    · intro server elsewhere
      rw [update_of_ne elsewhere]
    · intro server elsewhere
      apply hosts.unused
      rw [mapped]
      simpa using elsewhere.symm
  · subst put
    exact hosts.shared_put serves moves
  · subst put
    exact unique

end ManagerStep

theorem Manager.step_unknown {os : Os} {maxWorkers : Int}
    {manager next : Manager} {event : ManagerEvent} {output : ManagerOutput}
    {srcId : Int} (names : event.guarded = some srcId)
    (missing : manager.srcIdWorker.lookup srcId = none)
    (stepped : manager.step os maxWorkers event = .ok (next, output)) :
    (output = .returned (-1) none ∧
      (event = .removeSource srcId ∨
        ∃ edit, event.editing = some (srcId, edit))) ∨
    (event = .readTimeStamp srcId ∧
      output = .time (some manager.kernel.clock) none) := by
  cases event with
  | removeSource other =>
      cases names
      simp only [step, removeSource, missing] at stepped
      cases stepped
      exact .inl ⟨rfl, .inl rfl⟩
  | addDestination other destId ip port =>
      cases names
      simp only [step, addDestination, missing] at stepped
      cases stepped
      exact .inl ⟨rfl, .inr ⟨_, rfl⟩⟩
  | removeDestination other destId =>
      cases names
      simp only [step, removeDestination, missing] at stepped
      cases stepped
      exact .inl ⟨rfl, .inr ⟨_, rfl⟩⟩
  | readTimeStamp other =>
      cases names
      simp only [step, readTimeStamp, missing] at stepped
      cases stepped
      exact .inr ⟨rfl, rfl⟩
  | addSource workerType other ip port => cases names
  | handleMessage => cases names
  | packet worker fd received => cases names
  | selectTimeout worker => cases names
  | elapse seconds => cases names

namespace Manager.Hosts

variable {os : Os} {maxWorkers : Int} {manager next : Manager}
  {event : ManagerEvent} {output : ManagerOutput}
  {registries : Nat → Registry} {reflector : Reflector}

theorem same_sockets (hosts : manager.Hosts registries reflector)
    (filed : next.Filed) (sources : next.srcIdWorker = manager.srcIdWorker)
    (workers : next.workers = manager.workers)
    (sockets : next.kernel.sockets = manager.kernel.sockets) :
    next.Hosts registries reflector where
  toFiled := filed
  toRecords := by
    refine hosts.toRecords.keep sources ?_
    intro other server _
    rw [workers]
  shared := by
    rw [workers]
    refine hosts.shared.idle ?_
    funext fd
    exact congrArg (Table.lookup · fd) sockets
  unique := by
    unfold Kernel.OnePerPort
    rw [sockets]
    exact hosts.unique

theorem step (hosts : manager.Hosts registries reflector)
    (exclusive : os.Exclusive) (fits : event.Fits reflector)
    (polled : event.Polled manager)
    (stepped : manager.step os maxWorkers event = .ok (next, output)) :
    ∃ after, next.Hosts after (reflector.record event output) := by
  have step : ManagerStep os maxWorkers manager next event output :=
    .of_step stepped
  have filed := step.filed hosts.toFiled
  have keeps := step.keeps
  cases step with
  | unsupported unknownType same =>
      subst same
      exact ⟨registries, hosts⟩
  | rejected middle runtime chosen called put =>
      exact ⟨registries, ManagerStep.hosts_rejected exclusive hosts filed fits
        chosen called put⟩
  | accepted middle runtime chosen called committed =>
      exact ⟨_, ManagerStep.hosts_accepted exclusive hosts filed fits
        ⟨chosen, called, committed⟩⟩
  | unknown names missing same unserved =>
      subst same
      refine ⟨registries, ?_⟩
      rcases Manager.step_unknown names missing stepped with
        ⟨rfl, -⟩ | ⟨rfl, rfl⟩
      · exact hosts
      · exact hosts
  | removed runtime messages mapped called put =>
      exact ⟨_, ManagerStep.hosts_removed exclusive hosts filed keeps
        ⟨mapped, called, put⟩⟩
  | @destination event srcId call worker runtime calls mapped called put =>
      have used := (hosts.tied worker srcId).mpr mapped
      obtain ⟨destId, ip, port, rfl, rfl⟩ | ⟨destId, rfl, rfl⟩ :=
        ManagerEvent.destinationCall_cases calls
      · have fits : (WorkerEvent.addDestination srcId destId ip port).Fits
            (manager.workers worker).kind (registries worker) := used
        exact ⟨_, ManagerStep.hosts_edited exclusive hosts filed keeps fits rfl
          trivial mapped called put⟩
      · have fits : (WorkerEvent.removeDestination srcId destId).Fits
            (manager.workers worker).kind (registries worker) := used
        exact ⟨_, ManagerStep.hosts_edited exclusive hosts filed keeps fits rfl
          trivial mapped called put⟩
  | @read srcId worker timeStamp runtime mapped called put =>
      obtain ⟨streamsOnly, lists, routes⟩ := Worker.readTimeStamp_kept called
      have kernel : runtime.kernel = manager.kernel :=
        congrArg SocketState.kernel streamsOnly.sockets
      have ports : runtime.worker.ports = (manager.workers worker).ports :=
        congrArg SocketState.ports streamsOnly.sockets
      refine ⟨registries, hosts.kept filed keeps put ?_ ?_ ?_⟩
      · rw [kernel]
        exact (hosts.serves worker).congr streamsOnly.sameWorker.1 ports lists
          routes
      · rw [streamsOnly.sockets]
        exact .refl _
      · rw [kernel]
        exact hosts.unique
  | handled same =>
      obtain ⟨workers, -, sources⟩ := manager.handleMessage_kept
      have kernel : next.kernel = manager.kernel := by
        subst same
        unfold Manager.handleMessage
        split <;> rfl
      subst same
      exact ⟨registries, hosts.same_sockets filed sources workers
        (congrArg Kernel.sockets kernel)⟩
  | @packet worker fd received put =>
      have stepped := Runtime.step_packet os (manager.runtime worker) fd
        received
      have fits : (WorkerEvent.packet fd received).Fits
        (manager.workers worker).kind (registries worker) := trivial
      have polled : (WorkerEvent.packet fd received).Polled
        (manager.runtime worker) := polled
      obtain ⟨serves, moves, unique⟩ := (hosts.serves worker).step exclusive
        fits polled hosts.unique stepped
      exact ⟨registries, hosts.kept filed keeps put serves moves unique⟩
  | timedOut same =>
      subst same
      exact ⟨registries, hosts.same_sockets filed rfl rfl rfl⟩
  | elapsed same =>
      subst same
      exact ⟨registries, hosts.same_sockets filed rfl rfl rfl⟩

end Manager.Hosts

end StrManager
