import StrManager.Worker.Routing

namespace StrManager

open Library Function

/-! Where the packets of a worker with one list per source go. -/

def destinationsOf (registration : Option Registration) : List UdpStream :=
  (registration.map Registration.destinations).getD []

namespace Registry

def destinations (registry : Registry) (srcId : Int) : List UdpStream :=
  destinationsOf (registry.lookup srcId)

def Unknown (registry : Registry) (addr : SockAddr) : Prop :=
  ∀ srcId registration, registry.lookup srcId = some registration →
    registration.addr ≠ addr

instance (registry : Registry) (addr : SockAddr) :
    Decidable (registry.Unknown addr) :=
  decidable_of_iff (∀ entry ∈ registry.entries, entry.2.addr ≠ addr) <| by
    constructor
    · intro differ srcId registration registered
      exact differ ⟨srcId, registration⟩
        ((Table.mem_entries_iff registry _ _).mpr registered)
    · intro unknown entry member
      exact unknown entry.1 entry.2
        ((Table.mem_entries_iff registry _ _).mp member)

end Registry

def deliveries (fd : Int) (bytes : List UInt8) (streams : List UdpStream) :
    List Transmission :=
  let buffer := bytes.take 2048
  streams.map fun stream => ⟨fd, buffer, buffer.length, stream.addr⟩

theorem sendAll_datagram (fd : Int) (sender : SockAddr) (bytes : List UInt8)
    (list : StreamList) :
    Worker.sendAll fd (.datagram sender bytes) list =
      deliveries fd bytes list.destinations := by
  simp [Worker.sendAll, deliveries, Received.recvfrom]

theorem Worker.lookupAddr_datagram {worker : Worker} {fd port : Int}
    (found : worker.ports.fdPort.lookup fd = some port) (sender : SockAddr)
    (bytes : List UInt8) :
    worker.lookupAddr fd (.datagram sender bytes) =
      SockAddr.ofPort sender.sinAddr port := by
  simp [Worker.lookupAddr, Table.subscript_of_lookup 0 found,
    Received.recvfrom]

/-- Every list of a `StatsWorker` is a `StatsStreamList`. -/
def Worker.ListsAccepted (worker : Worker) : Prop :=
  worker.kind = .stats → ∀ srcId list,
    worker.streams.lists srcId = some list → list.counters.isSome = true

theorem WorkerKind.notes_accept {kind : WorkerKind} {list : StreamList}
    (accepted : kind = .stats → list.counters.isSome = true) (clock : Int)
    (rlen : BitVec 32) : ∃ noted, kind.notes.note clock rlen list = some noted := by
  cases kind with
  | stats =>
      obtain ⟨counters, found⟩ := Option.isSome_iff_exists.mp (accepted rfl)
      exact ⟨_, by simp [WorkerKind.notes, StatsWorker.notes, found]; rfl⟩
  | forward => exact ⟨_, rfl⟩
  | rtcp => exact ⟨_, rfl⟩

theorem PlainStep.listsAccepted {os : Os} {runtime next : Runtime}
    {event : WorkerEvent} {output : WorkerOutput}
    (step : PlainStep os runtime next event output)
    (same : runtime.SameWorker next)
    (accepted : runtime.worker.ListsAccepted) : next.worker.ListsAccepted := by
  intro stats
  have before := accepted (same.1.symm.trans stats)
  have updated {srcId : Int} {value : Option StreamList}
      (lists : next.worker.streams.lists =
        update runtime.worker.streams.lists srcId value)
      (valid : ∀ list, value = some list → list.counters.isSome = true) :
      ∀ other list, next.worker.streams.lists other = some list →
        list.counters.isSome = true := by
    intro other list found
    rw [lists] at found
    rcases eq_or_ne other srcId with rfl | different
    · rw [update_self] at found
      exact valid list found
    · rw [update_of_ne different] at found
      exact before other list found
  cases step with
  | rejected routed sockets lists routes =>
      rw [lists]
      exact before
  | refused free failed sockets lists routes =>
      rw [lists]
      exact before
  | added list free opened sockets created lists routes =>
      refine updated lists ?_
      intro stored equal
      cases equal
      rw [created, same.1.symm.trans stats]
      rfl
  | removed list found sockets lists routes => exact updated lists (by simp)
  | addedDestination list changed =>
      refine updated changed.lists ?_
      intro stored equal
      cases equal
      rw [changed.counters]
      exact before _ list changed.found
  | removedDestination list after changed filtered =>
      refine updated changed.lists ?_
      intro stored equal
      cases equal
      rw [changed.counters]
      exact before _ list changed.found
  | packet noted =>
      rcases noted.lists with
        lists | ⟨srcId, list, after, found, lists, -, -, counters⟩
      · rw [lists]
        exact before
      · refine updated lists ?_
        intro stored equal
        cases equal
        rw [counters]
        exact before srcId list found
  | elapsed elapse =>
      subst elapse
      exact before

theorem workerMachine_run_listsAccepted {os : Os} {kind : WorkerKind}
    {workerId : Int} {kernel : Kernel} {Record : Type y}
    {observer : Observer WorkerEvent WorkerOutput Record}
    {Allowed : Runtime → Record → WorkerEvent → Prop}
    {runtime : Runtime} {record : Record}
    (run : (workerMachine os).Run observer Allowed
      (Runtime.start kind workerId kernel) runtime record) :
    runtime.worker.ListsAccepted := by
  refine run.invariant (motive := fun runtime _ =>
    runtime.worker.ListsAccepted) ?_ ?_
  · intro _ srcId list found
    rw [Runtime.start, Worker.create, StreamTables.lists_empty] at found
    cases found
  · intro runtime next record event output accepted _ stepped
    have same := Runtime.step_sameWorker stepped
    rcases eq_or_ne runtime.worker.kind .rtcp with rtcp | plain
    · intro stats
      rw [same.1, rtcp] at stats
      cases stats
    · exact (PlainStep.of_step plain stepped).listsAccepted same accepted

structure Delivering (runtime : Runtime) (view : Int → Option Registration) :
    Prop where
  implements : Implements runtime.worker.streams.lists view
  inverse : Table.Inverse runtime.worker.ports.portFd
    runtime.worker.ports.fdPort
  sound : runtime.worker.streams.RoutesSound
  accepted : runtime.worker.ListsAccepted

theorem workerMachine_run_delivering {os : Os} {kind : WorkerKind}
    (plain : kind ≠ .rtcp) {workerId : Int} {kernel : Kernel}
    {Allowed : Runtime → Registry → WorkerEvent → Prop}
    (fresh : ∀ {runtime registry event},
      Allowed runtime registry event → event.Fresh registry)
    (polled : ∀ {runtime registry event},
      Allowed runtime registry event → event.Polled runtime)
    {runtime : Runtime} {registry : Registry}
    (run : (workerMachine os).Run Registry.observer Allowed
      (Runtime.start kind workerId kernel) runtime registry) :
    Delivering runtime registry.lookup := by
  obtain ⟨implements, consistent⟩ :=
    workerMachine_run_consistent plain polled run
  obtain ⟨-, sound⟩ := workerMachine_run_plain plain
    (motive := fun runtime _ => runtime.worker.streams.RoutesSound)
    StreamTables.routesAgree_empty.sound
    (fun implements sound allowed step =>
      step.routesSound implements (fun _ => fresh allowed) sound) run
  exact ⟨implements, consistent.inverse, sound,
    workerMachine_run_listsAccepted run⟩

namespace Delivering

variable {runtime : Runtime} {view : Int → Option Registration} {port fd : Int}

theorem lookupAddr (delivering : Delivering runtime view)
    (listening : runtime.worker.ports.portFd.lookup port = some fd)
    (sender : SockAddr) (bytes : List UInt8) :
    runtime.worker.lookupAddr fd (.datagram sender bytes) =
      SockAddr.ofPort sender.sinAddr port :=
  Worker.lookupAddr_datagram
    ((delivering.inverse port fd).mp listening) sender bytes

theorem routed (delivering : Delivering runtime view) {addr : SockAddr}
    (indexed : runtime.worker.streams.routes addr ≠ 0) :
    ∃ registration,
      view (runtime.worker.streams.routes addr) = some registration ∧
        registration.addr = addr := by
  obtain ⟨list, found, atPlace⟩ := delivering.sound addr indexed
  exact ⟨_, delivering.implements.registered found, atPlace⟩

theorem routed_to_zero (delivering : Delivering runtime view)
    {addr : SockAddr}
    (unknown : ∀ listId registration, view listId = some registration →
      registration.addr ≠ addr) :
    runtime.worker.streams.routes addr = 0 := by
  by_contra indexed
  obtain ⟨registration, registered, equal⟩ := delivering.routed indexed
  exact unknown _ _ registered equal

theorem process_eq (delivering : Delivering runtime view)
    (listening : runtime.worker.ports.portFd.lookup port = some fd)
    (sender : SockAddr) {bytes : List UInt8} (content : bytes ≠ []) :
    (runtime.process fd (.datagram sender bytes)).2 =
      deliveries fd bytes (destinationsOf (view
        (runtime.worker.streams.routes
          (SockAddr.ofPort sender.sinAddr port)))) := by
  have addr := delivering.lookupAddr listening sender bytes
  rw [Runtime.process_eq]
  cases found : runtime.worker.streams.lists (runtime.worker.streams.routes
    (SockAddr.ofPort sender.sinAddr port)) with
  | none =>
      rw [Worker.processWith_drops (by rw [addr, found])]
      have missing := (delivering.implements.none_iff _).mp found
      rw [missing]
      rfl
  | some list =>
      obtain ⟨noted, accepted⟩ := WorkerKind.notes_accept
        (fun stats => delivering.accepted stats _ list found)
        runtime.kernel.clock (Received.datagram sender bytes).rlen
      have positive : 0 < (Received.datagram sender bytes).rlen.toNat := by
        rw [Received.rlen_datagram, List.length_take, lt_inf_iff]
        exact ⟨by decide, List.length_pos_iff.mpr content⟩
      rw [Worker.processWith_delivers positive (by rw [addr, found]) accepted,
        sendAll_datagram, delivering.implements.registered found]
      rfl

end Delivering

/-! Isolation. -/

/-- What a datagram causes goes to the destinations of one registered source,
the one with the sender's IP address and the local port. -/
def Isolated (runtime : Runtime) (registry : Registry) : Prop :=
  ∀ port fd sender bytes,
    runtime.worker.ports.portFd.lookup port = some fd →
    (runtime.process fd (.datagram sender bytes)).2 = [] ∨
    ∃ srcId registration, registry.lookup srcId = some registration ∧
      registration.addr = SockAddr.ofPort sender.sinAddr port ∧
      ∀ transmission ∈ (runtime.process fd (.datagram sender bytes)).2,
        ∃ stream ∈ registration.destinations,
          transmission.destination = stream.addr

def DistinctUse (runtime : Runtime) (registry : Registry)
    (event : WorkerEvent) : Prop :=
  event.Fresh registry ∧ event.Polled runtime

instance : Decidable (DistinctUse runtime registry event) :=
  inferInstanceAs (Decidable (_ ∧ _))

theorem process_nil (runtime : Runtime) (fd : Int) (sender : SockAddr) :
    (runtime.process fd (.datagram sender [])).2 = [] := by
  rw [Runtime.process_eq, Worker.processWith, if_neg (by simp)]

theorem Delivering.isolated {runtime : Runtime} {registry : Registry}
    (delivering : Delivering runtime registry.lookup)
    (unfed : registry.destinations 0 = []) : Isolated runtime registry := by
  intro port fd sender bytes listening
  rcases eq_or_ne bytes [] with rfl | content
  · exact .inl (process_nil runtime fd sender)
  rw [delivering.process_eq listening sender content]
  let addr := SockAddr.ofPort sender.sinAddr port
  rcases eq_or_ne (runtime.worker.streams.routes addr) 0 with zero | indexed
  · left
    change deliveries fd bytes (registry.destinations
      (runtime.worker.streams.routes addr)) = []
    rw [zero, unfed]
    rfl
  · right
    obtain ⟨registration, registered, equal⟩ := delivering.routed indexed
    refine ⟨_, _, registered, equal, ?_⟩
    intro transmission sent
    obtain ⟨stream, member, rfl⟩ := List.mem_map.mp sent
    refine ⟨stream, ?_, rfl⟩
    rw [registered] at member
    exact member

/-- A reachable worker forwards no packet of an unregistered sender exactly
when source 0 has no destination, as soon as one can reach it. -/
theorem isolated_iff {os : Os} {kind : WorkerKind} (plain : kind ≠ .rtcp)
    {workerId : Int} {kernel : Kernel} {runtime : Runtime}
    {registry : Registry}
    (run : (workerMachine os).Run Registry.observer DistinctUse
      (Runtime.start kind workerId kernel) runtime registry) :
    (registry.destinations 0 = [] → Isolated runtime registry) ∧
      ∀ port fd ip, runtime.worker.ports.portFd.lookup port = some fd →
        registry.Unknown (SockAddr.ofPort ip port) →
        (Isolated runtime registry ↔ registry.destinations 0 = []) := by
  have delivering := workerMachine_run_delivering plain
    (fun allowed => allowed.1) (fun allowed => allowed.2) run
  refine ⟨delivering.isolated, ?_⟩
  intro port fd ip listening unknown
  refine ⟨?_, delivering.isolated⟩
  intro isolated
  let sender : SockAddr := ⟨ip, 0⟩
  have sent := delivering.process_eq listening sender
    (List.cons_ne_nil (0 : UInt8) [])
  rw [delivering.routed_to_zero unknown] at sent
  rcases isolated port fd sender [0] listening with
    nothing | ⟨srcId, registration, registered, equal, -⟩
  · rw [nothing] at sent
    exact List.map_eq_nil_iff.mp sent.symm
  · exact absurd equal (unknown srcId registration registered)

theorem isolated_without_zero :
    ∃ runtime registry,
      (workerMachine .orderly).Run Registry.observer DistinctUse
        (Runtime.start .stats 0 .fresh) runtime registry ∧
      Isolated runtime registry := by
  have run : (workerMachine .orderly).Run Registry.observer DistinctUse
      (Runtime.start .stats 0 .fresh) _ _ :=
    .of_replay [.addSource 1 1 5000, .addDestination 1 1 9 6000] (by decide)
  exact ⟨_, _, run, (isolated_iff (by decide) run).1 rfl⟩

/-- Source 0 receives the packets of a sender that is no source at all. -/
theorem isolated_source_zero :
    ∃ runtime registry,
      (workerMachine .orderly).Run Registry.observer DistinctUse
        (Runtime.start .forward 0 .fresh) runtime registry ∧
      ¬ Isolated runtime registry := by
  have run : (workerMachine .orderly).Run Registry.observer DistinctUse
      (Runtime.start .forward 0 .fresh) _ _ :=
    .of_replay [.addSource 0 1 5000, .addDestination 0 1 9 6000] (by decide)
  refine ⟨_, _, run, ?_⟩
  intro isolated
  rcases isolated 5000 3 ⟨2, 7000⟩ [1] rfl with
    nothing | ⟨srcId, registration, registered, equal, -⟩
  · exact absurd nothing (by decide)
  · refine (?_ : Registry.Unknown _ (SockAddr.ofPort 2 5000)) srcId
      registration registered equal
    decide

/-! Exact delivery. -/

/-- The use of a worker through the command-line front end and `Manager`. -/
def ExactUse (runtime : Runtime) (registry : Registry)
    (event : WorkerEvent) : Prop :=
  event.NonzeroSource ∧ CountedUse runtime registry event

instance : Decidable (ExactUse runtime registry event) :=
  inferInstanceAs (Decidable (_ ∧ _))

theorem Runtime.step_of_registered {os : Os} {runtime : Runtime}
    {registry : Registry} (plain : runtime.worker.kind ≠ .rtcp)
    (implements : Implements runtime.worker.streams.lists registry.lookup)
    {event : WorkerEvent} (registered : event.Registered registry) :
    ∃ next output, runtime.step os event = .ok (next, output) := by
  have stored {srcId : Int}
      (named : (registry.lookup srcId).isSome = true) :
      runtime.worker.streams.lists srcId ≠ none := by
    intro missing
    rw [(implements.none_iff srcId).mp missing] at named
    cases named
  cases event with
  | addSource srcId ip port => exact ⟨_, _, rfl⟩
  | removeSource srcId =>
      rw [Runtime.step, Runtime.removeSource_of_plain plain]
      rcases Worker.removeSource_cases runtime srcId with
        ⟨missing, -⟩ | ⟨list, next, messages, -, called, -⟩
      · exact absurd missing (stored registered)
      · rw [called]
        exact ⟨_, _, rfl⟩
  | addDestination srcId destId ip port =>
      rw [Runtime.step, Runtime.addDestination_of_plain plain]
      rcases Worker.addDestination_cases runtime srcId destId ip port with
        ⟨missing, -⟩ | ⟨list, next, called, -⟩
      · exact absurd missing (stored registered)
      · rw [called]
        exact ⟨_, _, rfl⟩
  | removeDestination srcId destId =>
      rw [Runtime.step, Runtime.removeDestination_of_plain plain]
      rcases Worker.removeDestination_cases runtime srcId destId with
        ⟨missing, -⟩ | ⟨list, after, next, called, -⟩
      · exact absurd missing (stored registered)
      · rw [called]
        exact ⟨_, _, rfl⟩
  | packet fd received => exact ⟨_, _, rfl⟩
  | elapse seconds => exact ⟨_, _, rfl⟩

/-- Exact delivery: every datagram goes once to each destination of the only
source with its address, and to nobody when there is none. -/
theorem exact_delivery {os : Os} {workerId : Int} {kernel : Kernel}
    {runtime : Runtime} {registry : Registry}
    (run : (workerMachine os).Run Registry.observer ExactUse
      (Runtime.start .forward workerId kernel) runtime registry) :
    (∀ event, ExactUse runtime registry event →
      ∃ next output, (workerMachine os).step runtime event =
        .ok (next, output)) ∧
    (∀ first second firstRegistration secondRegistration,
      registry.lookup first = some firstRegistration →
      registry.lookup second = some secondRegistration →
      firstRegistration.addr = secondRegistration.addr → first = second) ∧
    ∀ port fd sender bytes,
      runtime.worker.ports.fdPort.lookup fd = some port → bytes ≠ [] →
      let addr := SockAddr.ofPort sender.sinAddr port
      let sent := (ForwardWorker.process runtime fd (.datagram sender bytes)).2
      (∀ srcId registration, registry.lookup srcId = some registration →
        registration.addr = addr →
        sent = deliveries fd bytes registration.destinations) ∧
      (registry.Unknown addr → sent = []) := by
  have sameKind := workerMachine_run_kind run
  have plain : runtime.worker.kind ≠ .rtcp := by simp [sameKind]
  have delivering := workerMachine_run_delivering (by decide)
    (fun allowed => allowed.2.1) (fun allowed => allowed.2.2.2.2) run
  have routed : (workerMachine os).Run _ (RoutedUse os) _ runtime registry :=
    run.mono fun allowed => ⟨allowed.1, allowed.2.1.keepsRoutes⟩
  obtain ⟨implements, absent, agree⟩ :=
    workerMachine_run_routesAgree (by decide) routed
  have indexed {srcId : Int} {registration : Registration}
      (found : registry.lookup srcId = some registration) :
      runtime.worker.streams.routes registration.addr = srcId := by
    obtain ⟨list, stored, rfl⟩ := implements.stored found
    have nonzero : srcId ≠ 0 := by
      rintro rfl
      rw [absent] at found
      cases found
    exact agree.complete srcId list nonzero stored
  refine ⟨?_, ?_, ?_⟩
  · intro event allowed
    exact Runtime.step_of_registered plain implements allowed.2.2.1
  · intro first second firstRegistration secondRegistration firstFound
      secondFound same
    rw [← indexed firstFound, same, indexed secondFound]
  · intro port fd sender bytes hosted content addr sent
    have listening := (delivering.inverse port fd).mpr hosted
    have processed := delivering.process_eq listening sender content
    rw [Runtime.process, sameKind] at processed
    change sent = deliveries fd bytes (registry.destinations
      (runtime.worker.streams.routes addr)) at processed
    constructor
    · intro srcId registration registered equal
      rw [processed, ← equal, indexed registered, Registry.destinations,
        registered]
      rfl
    · intro unknown
      rw [processed, delivering.routed_to_zero unknown, Registry.destinations,
        absent]
      rfl

/-- A stray packet, a rejected duplicate and a removed destination. -/
theorem exact_delivery_example :
    ∃ runtime registry,
      (workerMachine .orderly).Run Registry.observer ExactUse
        (Runtime.start .forward 0 .fresh) runtime registry ∧
      (ForwardWorker.process runtime 3 (.datagram ⟨1, 40000⟩ [10, 20])).2 =
        [⟨3, [10, 20], 2, ⟨9, 6002⟩⟩] := by
  have run : (workerMachine .orderly).Run Registry.observer ExactUse
      (Runtime.start .forward 0 .fresh) _ _ :=
    .of_replay [.addSource 1 1 5000, .addSource 2 1 5000,
      .addDestination 1 1 9 6000, .addDestination 1 2 9 6002,
      .packet 3 (.datagram ⟨8, 40000⟩ [1]), .removeDestination 1 1]
      (by decide)
  refine ⟨_, _, run, ?_⟩
  exact ((exact_delivery run).2.2 5000 3 ⟨1, 40000⟩ [10, 20] rfl
    (by decide)).1 1 _ rfl rfl

end StrManager
