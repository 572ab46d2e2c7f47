import StrManager.Manager.Refinement

namespace StrManager

open Library Function

/-! What the manager answers, as a reflector. -/

namespace Worker.Serves

variable {kernel : Kernel} {worker : Worker} {registry : Registry}

theorem even (serves : worker.Serves kernel registry)
    (rtcp : worker.kind = .rtcp) {srcId : Int}
    (used : (registry.lookup srcId).isSome = true) : srcId % 2 = 0 := by
  obtain ⟨registration, found⟩ := Option.isSome_iff_exists.mp used
  cases serves with
  | plain accounted described accepted => exact absurd rtcp accounted.plain
  | rtcp holds => exact (holds.evenIds srcId registration found).2

theorem listed (serves : worker.Serves kernel registry) {srcId : Int}
    {registration stream : Registration}
    (found : registry.lookup srcId = some registration)
    (member : stream ∈ (Flow.mk worker.kind registration).streams) :
    ∃ listId, worker.kind.view registry listId = some stream ∧
      (listId = srcId ∨ (worker.kind = .rtcp ∧ listId = srcId + 1)) := by
  rw [Flow.mem_streams] at member
  cases serves with
  | plain accounted described accepted =>
      rw [WorkerKind.view_of_plain accounted.plain]
      rcases member with rfl | ⟨rtcp, -⟩
      · exact ⟨srcId, found, .inl rfl⟩
      · exact absurd rtcp accounted.plain
  | rtcp holds =>
      have kind : worker.kind = .rtcp := holds.rtcp
      rw [kind]
      rcases member with rfl | ⟨-, rfl⟩
      · refine ⟨srcId, ?_, .inl rfl⟩
        change registry.paired srcId = _
        rw [Registry.paired, found]
        rfl
      · refine ⟨srcId + 1, ?_, .inr ⟨rfl, rfl⟩⟩
        have above := holds.paired.spaced srcId (by rw [found]; rfl)
        change registry.paired (srcId + 1) = _
        rw [Registry.paired, above, add_sub_cancel_right, found]
        rfl

theorem registered (serves : worker.Serves kernel registry) {listId : Int}
    {stream : Registration}
    (viewed : worker.kind.view registry listId = some stream) :
    ∃ srcId registration, registry.lookup srcId = some registration ∧
      stream ∈ (Flow.mk worker.kind registration).streams := by
  cases serves with
  | plain accounted described accepted =>
      rw [WorkerKind.view_of_plain accounted.plain] at viewed
      exact ⟨listId, stream, viewed, (Flow.mem_streams _ _).mpr (.inl rfl)⟩
  | rtcp holds =>
      have kind : worker.kind = .rtcp := holds.rtcp
      rw [kind] at viewed ⊢
      change registry.paired listId = some stream at viewed
      rw [Registry.paired, Option.or_eq_some_iff] at viewed
      rcases viewed with found | ⟨-, second⟩
      · exact ⟨listId, stream, found, (Flow.mem_streams _ _).mpr (.inl rfl)⟩
      · obtain ⟨registration, found, rfl⟩ := Option.map_eq_some_iff.mp second
        exact ⟨listId - 1, registration, found,
          (Flow.mem_streams _ _).mpr (.inr ⟨rfl, rfl⟩)⟩

theorem hosted (serves : worker.Serves kernel registry) {srcId : Int}
    {registration stream : Registration}
    (found : registry.lookup srcId = some registration)
    (member : stream ∈ (Flow.mk worker.kind registration).streams) :
    ∃ fd, worker.ports.Holds fd ∧
      kernel.sockets.lookup fd = some (some stream.addr.sinPort) := by
  rw [Flow.mem_streams] at member
  cases serves with
  | plain accounted described accepted =>
      have used := Registry.onPort_of_lookup found
      obtain ⟨fd, listening⟩ := (accounted.listening registration.port).mpr
        (by rw [accounted.counted]; omega)
      refine ⟨fd, ⟨_, listening⟩, ?_⟩
      rw [described.bound _ fd listening, Registration.port, htons_ntohs]
      rcases member with rfl | ⟨rtcp, -⟩
      · rfl
      · exact absurd rtcp accounted.plain
  | rtcp holds =>
      rcases member with rfl | ⟨-, rfl⟩
      · obtain ⟨fd, listening, -, bound⟩ := holds.portOpen found (.inl rfl)
        refine ⟨fd, ⟨_, listening⟩, ?_⟩
        rw [Registration.port, htons_ntohs] at bound
        exact bound
      · obtain ⟨fd, listening, -, bound⟩ := holds.portOpen found (.inr rfl)
        refine ⟨fd, ⟨_, listening⟩, ?_⟩
        rw [htons_add_one, Registration.port, htons_ntohs] at bound
        exact bound

theorem distinct (serves : worker.Serves kernel registry)
    {first second : Int} {registration registration2 : Registration}
    {stream stream2 : Registration}
    (found : registry.lookup first = some registration)
    (member : stream ∈ (Flow.mk worker.kind registration).streams)
    (found2 : registry.lookup second = some registration2)
    (member2 : stream2 ∈ (Flow.mk worker.kind registration2).streams)
    (same : stream.addr = stream2.addr) : first = second := by
  obtain ⟨listId, viewed, isList⟩ := serves.listed found member
  obtain ⟨listId2, viewed2, isList2⟩ := serves.listed found2 member2
  have sameList : listId = listId2 := by
    rw [← serves.routed viewed, same, serves.routed viewed2]
  have even (rtcp : worker.kind = .rtcp) : first % 2 = 0 ∧ second % 2 = 0 :=
    ⟨serves.even rtcp (by rw [found]; rfl),
      serves.even rtcp (by rw [found2]; rfl)⟩
  rcases isList with isFirst | ⟨rtcp, isNext⟩
  · rcases isList2 with isSecond | ⟨rtcp, isNext2⟩
    · omega
    · have := even rtcp
      omega
  · have := even rtcp
    rcases isList2 with isSecond | ⟨-, isNext2⟩
    · omega
    · omega

/-- What is received goes to the destinations of the one stream with its
address, or nowhere when there is none. -/
theorem process_eq (serves : worker.Serves kernel registry) {port fd : Int}
    (listening : worker.ports.portFd.lookup port = some fd)
    {received : Received} (content : 0 < received.rlen.toNat) :
    let sent := (Runtime.process ⟨kernel, worker⟩ fd received).2
    (∀ listId stream, worker.kind.view registry listId = some stream →
      stream.addr = SockAddr.ofPort received.sender.sinAddr port →
      sent = relays fd received stream.destinations) ∧
    ((∀ listId stream, worker.kind.view registry listId = some stream →
      stream.addr ≠ SockAddr.ofPort received.sender.sinAddr port) →
      sent = []) := by
  have delivering := serves.delivering
  have hosted := (delivering.inverse port fd).mp listening
  change worker.ports.fdPort.lookup fd = some port at hosted
  have addr : worker.lookupAddr fd received =
      SockAddr.ofPort received.sender.sinAddr port := by
    unfold Worker.lookupAddr
    rw [Table.subscript_of_lookup 0 hosted]
    rfl
  intro sent
  change (∀ listId stream, _ → _ →
    (Runtime.process ⟨kernel, worker⟩ fd received).2 = _) ∧
      (_ → (Runtime.process ⟨kernel, worker⟩ fd received).2 = _)
  rw [Runtime.process_eq]
  constructor
  · intro listId stream viewed equal
    have routed := serves.routed viewed
    obtain ⟨list, stored, rfl⟩ := delivering.implements.stored viewed
    obtain ⟨noted, accepted⟩ := WorkerKind.notes_accept
      (fun stats => delivering.accepted stats _ list stored) kernel.clock
      received.rlen
    refine Worker.processWith_delivers content ?_ accepted
    rw [addr, ← equal, routed]
    exact stored
  · intro unknown
    apply Worker.processWith_drops
    rw [addr, delivering.routed_to_zero unknown,
      delivering.implements.none_iff]
    exact serves.view_zero

theorem refused {os : Os} (exclusive : os.Exclusive)
    (serves : worker.Serves kernel registry) {srcId : Int} {ip : InAddr}
    {port : Int}
    (fits : (WorkerEvent.addSource srcId ip port).Fits worker.kind registry)
    (refuses : ¬ Runtime.CanAdd os ⟨kernel, worker⟩ ip port) :
    ∃ stream ∈ (Flow.mk worker.kind ⟨SockAddr.ofPort ip port, []⟩).streams,
      kernel.Bound stream.addr.sinPort := by
  have bindable := fits.bindable
  by_contra free
  have unbound {stream : Registration}
      (member : stream ∈
        (Flow.mk worker.kind ⟨SockAddr.ofPort ip port, []⟩).streams) :
      ¬ kernel.Bound stream.addr.sinPort :=
    fun taken => free ⟨stream, member, taken⟩
  have unrouted {stream : Registration}
      (member : stream ∈
        (Flow.mk worker.kind ⟨SockAddr.ofPort ip port, []⟩).streams) :
      worker.streams.routes stream.addr = 0 := by
    by_contra indexed
    obtain ⟨other, viewed, equal⟩ := serves.delivering.routed indexed
    obtain ⟨srcId, registration, found, reflected⟩ := serves.registered viewed
    obtain ⟨fd, -, bound⟩ := serves.hosted found reflected
    rw [equal] at bound
    exact unbound member ⟨fd, bound⟩
  apply refuses
  have first : Registration.mk (SockAddr.ofPort ip port) [] ∈
      (Flow.mk worker.kind ⟨SockAddr.ofPort ip port, []⟩).streams :=
    (Flow.mem_streams _ _).mpr (.inl rfl)
  have free1 : ¬ kernel.Bound (htons port) := unbound first
  cases serves with
  | plain accounted described accepted =>
      refine (Runtime.canAdd_of_plain accounted.plain ip port).mpr ⟨?_, ?_⟩
      · exact unrouted first
      · rw [SocketState.addSocket_opens_iff]
        obtain ⟨fd, answered⟩ := exclusive.grants kernel
        refine .inr ⟨fd, answered, (exclusive.binds _ _ _ bindable.1).mpr ?_⟩
        exact mt (Kernel.bound_opened_iff (os.socket_fresh answered).2 _).mp
          free1
  | rtcp holds =>
      have rtcp : worker.kind = .rtcp := holds.rtcp
      have second : Registration.next ⟨SockAddr.ofPort ip port, []⟩ ∈
          (Flow.mk worker.kind ⟨SockAddr.ofPort ip port, []⟩).streams :=
        (Flow.mem_streams _ _).mpr (.inr ⟨rtcp, rfl⟩)
      have free2 : ¬ kernel.Bound (htons (port + 1)) := by
        rw [htons_add_one]
        exact unbound second
      have nextRoute := unrouted second
      change worker.streams.routes (SockAddr.ofPort ip port).next = 0
        at nextRoute
      rw [← SockAddr.ofPort_add_one] at nextRoute
      have idle : worker.ports.listeners port = 0 := by
        have count := holds.count (fits.2.2.2.2 rtcp).2.1
        change worker.ports.listeners port = registry.onPort port at count
        rcases Nat.eq_zero_or_pos (registry.onPort port) with none | used
        · rw [count, none]
          rfl
        · obtain ⟨fd, listening⟩ := (holds.counted.listening port).mpr
            (.inl used)
          exact absurd ⟨fd, holds.counted.bound port fd listening⟩ free1
      refine (Runtime.canAdd_of_rtcp rtcp ip port).mpr
        ⟨unrouted first, nextRoute, ?_⟩
      rw [RtcpWorker.addSocketPair_opens_iff]
      refine (if_pos idle).mpr ?_
      exact exclusive.opensPair bindable.1 (bindable.2 rtcp).1 free1 free2

end Worker.Serves

namespace Manager.Hosts

variable {os : Os} {maxWorkers : Int} {manager next : Manager}
  {event : ManagerEvent} {output : ManagerOutput}
  {registries : Nat → Registry} {reflector : Reflector}

theorem hosted (hosts : manager.Hosts registries reflector) {srcId : Int}
    {flow : Flow} {stream : Registration} (found : reflector srcId = some flow)
    (member : stream ∈ flow.streams) :
    ∃ worker fd, manager.srcIdWorker.lookup srcId = some worker ∧
      (registries worker).lookup srcId = some flow.registration ∧
      flow.kind = (manager.workers worker).kind ∧
      (manager.workers worker).ports.Holds fd ∧
      manager.kernel.sockets.lookup fd = some (some stream.addr.sinPort) := by
  obtain ⟨worker, mapped, registered, kind⟩ := hosts.home found
  obtain ⟨fd, holds, bound⟩ := (hosts.serves worker).hosted registered
    (by rw [← kind]; exact member)
  exact ⟨worker, fd, mapped, registered, kind, holds, bound⟩

theorem sameWorker (hosts : manager.Hosts registries reflector)
    {first second : Nat} {fd fd2 : Int} {port : BitVec 16}
    (holds : (manager.workers first).ports.Holds fd)
    (bound : manager.kernel.sockets.lookup fd = some (some port))
    (holds2 : (manager.workers second).ports.Holds fd2)
    (bound2 : manager.kernel.sockets.lookup fd2 = some (some port)) :
    first = second :=
  hosts.shared.value_apart (hosts.unique _ _ port) holds bound holds2 bound2

theorem distinct (hosts : manager.Hosts registries reflector) :
    reflector.Distinct where
  address := by
    intro first second flow flow2 stream stream2 found member found2 member2
      same
    obtain ⟨worker, fd, -, registered, kind, holds, bound⟩ :=
      hosts.hosted found member
    obtain ⟨worker2, fd2, -, registered2, kind2, holds2, bound2⟩ :=
      hosts.hosted found2 member2
    rw [same] at bound
    have sameWorker := hosts.sameWorker holds bound holds2 bound2
    subst sameWorker
    refine (hosts.serves worker).distinct registered ?_ registered2 ?_ same
    · rw [← kind]
      exact member
    · rw [← kind2]
      exact member2
  port := by
    intro first second flow flow2 stream stream2 found member found2 member2
      same
    obtain ⟨worker, fd, -, -, kind, holds, bound⟩ := hosts.hosted found member
    obtain ⟨worker2, fd2, -, -, kind2, holds2, bound2⟩ :=
      hosts.hosted found2 member2
    rw [same] at bound
    rw [kind, kind2, hosts.sameWorker holds bound holds2 bound2]

theorem present (hosts : manager.Hosts registries reflector) :
    manager.Present := by
  intro srcId worker mapped
  exact (hosts.serves worker).hasLists ((hosts.tied worker srcId).mpr mapped)

/-- What a worker sees of the reflector is all that there is on its ports. -/
theorem packet (hosts : manager.Hosts registries reflector) {worker : Nat}
    {fd : Int} (polled : (manager.workers worker).polls fd = true)
    (received : Received) :
    reflector.Step manager.kernel (.packet worker fd received)
      (.sent ((manager.runtime worker).process fd received).2) := by
  have serves := hosts.serves worker
  obtain ⟨port, listening⟩ := ((manager.workers worker).polls_iff fd).mp polled
  have bound := serves.described.bound port fd listening
  rcases Nat.eq_zero_or_pos received.rlen.toNat with empty | content
  · have nothing : ((manager.runtime worker).process fd received).2 = [] := by
      rw [Runtime.process_eq, Worker.processWith, if_neg (by omega)]
    rw [nothing]
    exact .dropped bound fun content => by omega
  obtain ⟨delivered, ignored⟩ := serves.process_eq listening content
  by_cases known : ∃ listId stream,
      (manager.workers worker).kind.view (registries worker) listId =
        some stream ∧
      stream.addr = SockAddr.ofPort received.sender.sinAddr port
  · obtain ⟨listId, stream, viewed, addressed⟩ := known
    obtain ⟨srcId, registration, registered, member⟩ := serves.registered viewed
    have mapped := (hosts.tied worker srcId).mp (by rw [registered]; rfl)
    obtain ⟨registration2, registered2, found⟩ := hosts.registered mapped
    rw [registered] at registered2
    cases registered2
    have sent := delivered listId stream viewed addressed
    change ((manager.runtime worker).process fd _).2 = _ at sent
    rw [sent]
    exact .reflected bound content ⟨srcId, _, found, member⟩ addressed
  · have unknown : ∀ listId stream,
        (manager.workers worker).kind.view (registries worker) listId =
          some stream →
        stream.addr ≠ SockAddr.ofPort received.sender.sinAddr port := by
      intro listId stream viewed addressed
      exact known ⟨listId, stream, viewed, addressed⟩
    have sent := ignored unknown
    change ((manager.runtime worker).process fd _).2 = _ at sent
    rw [sent]
    refine .dropped bound ?_
    intro _ stream reflected addressed
    obtain ⟨srcId, flow, found, member⟩ := reflected
    obtain ⟨worker2, fd2, -, registered, kind, holds, bound2⟩ :=
      hosts.hosted found member
    rw [addressed] at bound2
    have sameWorker := hosts.sameWorker holds bound2 ⟨port, listening⟩ bound
    subst sameWorker
    obtain ⟨listId, viewed, -⟩ := serves.listed registered
      (by rw [← kind]; exact member)
    exact unknown listId stream viewed addressed

theorem answers (hosts : manager.Hosts registries reflector)
    (exclusive : os.Exclusive) (fits : event.Fits reflector)
    (polled : event.Polled manager)
    (stepped : manager.step os maxWorkers event = .ok (next, output)) :
    reflector.Step manager.kernel event output := by
  obtain ⟨after, nextHosts⟩ := hosts.step exclusive fits polled stepped
  have known {srcId : Int} {worker : Nat}
      (mapped : manager.srcIdWorker.lookup srcId = some worker) :
      (reflector srcId).isSome = true := by
    obtain ⟨registration, -, found⟩ := hosts.registered mapped
    rw [found]
    rfl
  have step : ManagerStep os maxWorkers manager next event output :=
    .of_step stepped
  cases step with
  | unsupported unknownType same =>
      refine .refused ?_
      intro kind supported
      rw [unknownType] at supported
      cases supported
  | @rejected workerType srcId ip port worker middle runtime chosen called
      put =>
      refine .refused ?_
      intro kind supported
      have middleHosts := hosts.chosen chosen
      have kernel : middle.kernel = manager.kernel := chosen.kernel
      have isKind := chosen.ofType
      rw [supported] at isKind
      cases isKind
      rw [← kernel]
      have unused : (registries worker).lookup srcId = none := by
        apply middleHosts.unused
        rw [(middleHosts.none_iff srcId).mp fits.1]
        simp
      have call := fits.call chosen.ofType unused
      refine (middleHosts.serves worker).refused exclusive call ?_
      intro canAdd
      have accepted := (Runtime.canAdd_iff called).mpr canAdd
      cases accepted
  | accepted middle runtime chosen called committed =>
      exact .accepted _ chosen.ofType nextHosts.distinct
  | unknown names missing same unserved =>
      have absent := (hosts.none_iff _).mpr missing
      rcases Manager.step_unknown names missing stepped with
        ⟨rfl, rfl | ⟨edit, edits⟩⟩ | ⟨rfl, rfl⟩
      · exact .unknownSource absent
      · exact .unknownEdited edits absent
      · exact .read fun _ => rfl
  | removed runtime messages mapped called put => exact .removed (known mapped)
  | destination runtime calls mapped called put =>
      obtain ⟨destId, ip, port, rfl, rfl⟩ | ⟨destId, rfl, rfl⟩ :=
        ManagerEvent.destinationCall_cases calls
      · exact .edited rfl (known mapped)
      · exact .edited rfl (known mapped)
  | @read srcId worker timeStamp runtime mapped called put =>
      refine .read ?_
      intro missing
      have used := known mapped
      rw [missing] at used
      cases used
  | handled same => exact .handled
  | @packet worker fd received put =>
      exact hosts.packet polled received
  | timedOut same => exact .timedOut
  | elapsed same => exact .elapsed

end Manager.Hosts

/-- The calls fit the reflector, and packets arrive on polled descriptors. -/
def ReflectorUse (manager : Manager) (reflector : Reflector)
    (event : ManagerEvent) : Prop :=
  event.Fits reflector ∧ event.Polled manager

instance (manager : Manager) (reflector : Reflector) (event : ManagerEvent) :
    Decidable (ReflectorUse manager reflector event) :=
  inferInstanceAs (Decidable (_ ∧ _))

theorem managerMachine_run_hosts {os : Os} (exclusive : os.Exclusive)
    {maxWorkers : Int} {kernel : Kernel} (unique : kernel.OnePerPort)
    {manager : Manager} {reflector : Reflector}
    (run : (managerMachine os maxWorkers).Run Reflector.observer ReflectorUse
      (Manager.start kernel) manager reflector) :
    ∃ registries, manager.Hosts registries reflector := by
  refine run.invariant (motive := fun manager reflector =>
    ∃ registries, manager.Hosts registries reflector) ?_ ?_
  · exact ⟨_, .start unique⟩
  · intro manager next reflector event output hosts allowed stepped
    obtain ⟨registries, hosts⟩ := hosts
    exact hosts.step exclusive allowed.1 allowed.2 stepped

/-- The manager with all its workers is one reflector: no call fails, and
whatever a call or a datagram brings about is what the reflector may do, which
never has two streams with one address. -/
theorem manager_refines_reflector {os : Os} (exclusive : os.Exclusive)
    {maxWorkers : Int} {kernel : Kernel} (unique : kernel.OnePerPort)
    {manager : Manager} {reflector : Reflector}
    (run : (managerMachine os maxWorkers).Run Reflector.observer ReflectorUse
      (Manager.start kernel) manager reflector) :
    reflector.Distinct ∧
      ∀ event, ReflectorUse manager reflector event →
        ∃ next output,
          (managerMachine os maxWorkers).step manager event =
            .ok (next, output) ∧
          reflector.Step manager.kernel event output := by
  obtain ⟨registries, hosts⟩ := managerMachine_run_hosts exclusive unique run
  refine ⟨hosts.distinct, ?_⟩
  intro event allowed
  obtain ⟨next, output, stepped⟩ := hosts.present.step_ok os maxWorkers event
  exact ⟨next, output, stepped,
    hosts.answers exclusive allowed.1 allowed.2 stepped⟩

/-- Sources of all classes, one that is refused, and a packet for the second
stream of an RTCP source. -/
theorem manager_refines_reflector_classes :
    ∃ manager reflector next output,
      (managerMachine .orderly 10).Run Reflector.observer ReflectorUse
        (Manager.start .fresh) manager reflector ∧
      reflector.Distinct ∧
      manager.step .orderly 10 (.packet 1 5 (.datagram ⟨1, 40000⟩ [7])) =
        .ok (next, output) ∧
      reflector.Step manager.kernel
        (.packet 1 5 (.datagram ⟨1, 40000⟩ [7])) output := by
  have run : (managerMachine .orderly 10).Run Reflector.observer ReflectorUse
      (Manager.start .fresh) _ _ :=
    .of_replay [.addSource 1 1 1 5000, .addSource 4 2 1 6000,
      .addSource 2 3 2 7000, .addDestination 2 4 9 9000,
      .addSource 1 5 1 6001, .addDestination 1 1 9 8000, .removeSource 3,
      .handleMessage] (by decide)
  obtain ⟨distinct, answers⟩ := manager_refines_reflector
    Os.orderly_exclusive Kernel.OnePerPort.fresh run
  obtain ⟨next, output, stepped, answered⟩ :=
    answers (.packet 1 5 (.datagram ⟨1, 40000⟩ [7])) (by decide)
  exact ⟨_, _, next, output, run, distinct, stepped, answered⟩

end StrManager
