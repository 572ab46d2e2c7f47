import StrManager.Rtcp.OpenPairs
import StrManager.Worker.Delivery

namespace StrManager

open Library Function

/-! An RTCP worker under its convention: RTP on even ports, and sources under
even identifiers, so that list 0 stays free. -/

theorem RtcpWorker.PairStep.routesAgree {runtime next : Runtime} {srcId : Int}
    {before before2 after after2 : StreamList}
    (changed : RtcpWorker.PairStep runtime next srcId before before2 after
      after2)
    (agree : runtime.worker.streams.RoutesAgree) (valid : srcId ≠ 0)
    (valid2 : srcId + 1 ≠ 0) : next.worker.streams.RoutesAgree := by
  have source : after.getSourceSockAddr = before.getSourceSockAddr :=
    congrArg UdpStream.addr changed.source
  have source2 : after2.getSourceSockAddr = before2.getSourceSockAddr :=
    congrArg UdpStream.addr changed.source2
  have modified := Index.Agree.modify agree changed.found source
  have found2 : update runtime.worker.streams.lists srcId (some after)
      (srcId + 1) = some before2 := by
    rw [update_of_ne (by omega), changed.found2]
  have modified2 := modified.modify found2 source2
  unfold StreamTables.RoutesAgree
  rw [changed.lists]
  rcases changed.routes with routes | routes
  · rw [routes]
    exact modified2
  · rw [routes, ← source, ← source2]
    refine (modified2.reindex valid ?_).reindex valid2 (update_self _ _ _)
    rw [update_of_ne (by omega), update_self]

namespace RtcpStep

variable {os : Os} {runtime next : Runtime} {event : WorkerEvent}
  {output : WorkerOutput} {registry : Registry}

theorem routesAgree (step : RtcpStep os runtime next event output)
    (paired : PairedLists runtime.worker.streams.lists registry)
    (apart : output = .added true → event.Apart registry)
    (registered : event.Registered registry)
    (valid : ∀ srcId, (registry.lookup srcId).isSome = true →
      srcId ≠ 0 ∧ srcId + 1 ≠ 0)
    (agree : runtime.worker.streams.RoutesAgree) :
    next.worker.streams.RoutesAgree := by
  have same (lists : next.worker.streams.lists = runtime.worker.streams.lists)
      (routes : next.worker.streams.routes = runtime.worker.streams.routes) :
      next.worker.streams.RoutesAgree := by
    unfold StreamTables.RoutesAgree
    rw [lists, routes]
    exact agree
  cases step with
  | rejected routed sockets lists routes => exact same lists routes
  | refused free free2 failed sockets lists routes => exact same lists routes
  | @added srcId ip port free free2 opened sockets lists routes =>
      obtain ⟨fresh, below, above⟩ := apart rfl
      have absent : runtime.worker.streams.lists srcId = none := by
        rw [paired.implements.none_iff, Registry.paired, fresh, below]
        rfl
      have absent2 : runtime.worker.streams.lists (srcId + 1) = none := by
        rw [paired.implements.none_iff, Registry.paired, above,
          add_sub_cancel_right, fresh]
        rfl
      let list := StreamList.create srcId (UdpStream.create srcId ip port)
      let list2 := StreamList.create (srcId + 1)
        (UdpStream.create (srcId + 1) ip (port + 1))
      have moved : list2.getSourceSockAddr ≠ list.getSourceSockAddr := by
        change SockAddr.ofPort ip (port + 1) ≠ SockAddr.ofPort ip port
        rw [SockAddr.ofPort_add_one]
        exact SockAddr.next_ne _
      have inserted : Index.Agree 0 StreamList.getSourceSockAddr
          (update runtime.worker.streams.lists srcId (some list))
          (update runtime.worker.streams.routes list.getSourceSockAddr
            srcId) :=
        Index.Agree.insert agree absent free
      have stillAbsent : update runtime.worker.streams.lists srcId (some list)
          (srcId + 1) = none := by
        rw [update_of_ne (by omega), absent2]
      have stillFree : update runtime.worker.streams.routes
          list.getSourceSockAddr srcId list2.getSourceSockAddr = 0 := by
        rw [update_of_ne moved]
        exact free2
      have inserted2 := inserted.insert stillAbsent stillFree
      unfold StreamTables.RoutesAgree
      rw [lists, routes]
      exact inserted2
  | @removed srcId list list2 found found2 sockets lists routes =>
      obtain ⟨nonzero, nonzero2⟩ := valid srcId registered
      have removed := Index.Agree.remove agree nonzero found
      have stillFound : update runtime.worker.streams.lists srcId none
          (srcId + 1) = some list2 := by
        rw [update_of_ne (by omega), found2]
      have removed2 := removed.remove nonzero2 stillFound
      unfold StreamTables.RoutesAgree
      rw [lists, routes]
      exact removed2
  | keptDestination list found rejected read =>
      exact same read.lists read.routes
  | addedDestination list list2 changed =>
      obtain ⟨nonzero, nonzero2⟩ := valid _ registered
      exact changed.routesAgree agree nonzero nonzero2
  | missedDestination list found missing read =>
      exact same read.lists read.routes
  | removedDestination list list2 changed =>
      obtain ⟨nonzero, nonzero2⟩ := valid _ registered
      exact changed.routesAgree agree nonzero nonzero2
  | packet noted =>
      rcases noted.lists with
        lists | ⟨listId, list, after, found, lists, source, -⟩
      · exact same lists noted.routes
      · unfold StreamTables.RoutesAgree
        rw [lists, noted.routes]
        exact Index.Agree.modify agree found (congrArg UdpStream.addr source)
  | elapsed elapse =>
      subst elapse
      exact agree

end RtcpStep

/-- Sources have nonzero even identifiers that are not in use, and even
ports. -/
def WorkerEvent.Conventional (registry : Registry) : WorkerEvent → Prop
  | .addSource srcId _ port =>
      srcId ≠ 0 ∧ srcId % 2 = 0 ∧ registry.lookup srcId = none ∧
        0 ≤ port ∧ port ≤ 65534 ∧ port % 2 = 0
  | _ => True

instance (registry : Registry) (event : WorkerEvent) :
    Decidable (event.Conventional registry) :=
  match event with
  | .addSource _ _ _ =>
      inferInstanceAs (Decidable (_ ∧ _ ∧ _ ∧ _ ∧ _ ∧ _))
  | .removeSource _ | .addDestination _ _ _ _ | .removeDestination _ _
  | .packet _ _ | .elapse _ => isTrue trivial

def ConventionalUse (runtime : Runtime) (registry : Registry)
    (event : WorkerEvent) : Prop :=
  event.Conventional registry ∧ event.Registered registry ∧
    event.Polled runtime

instance : Decidable (ConventionalUse runtime registry event) :=
  inferInstanceAs (Decidable (_ ∧ _ ∧ _))

def EvenPort (port : Int) : Prop := port % 2 = 0

structure ConventionHolds (runtime : Runtime) (registry : Registry) : Prop
    extends RtcpHolds EvenPort runtime registry where
  rtcp : runtime.worker.kind = .rtcp
  evenIds : ∀ srcId registration,
    registry.lookup srcId = some registration → srcId ≠ 0 ∧ srcId % 2 = 0
  agree : runtime.worker.streams.RoutesAgree

namespace ConventionHolds

variable {runtime next : Runtime} {registry : Registry} {event : WorkerEvent}

theorem evenPort (holds : ConventionHolds runtime registry) {srcId : Int}
    {registration : Registration}
    (found : registry.lookup srcId = some registration) :
    registration.port % 2 = 0 := by
  have unclean := (holds.ports srcId registration found).unclean
  unfold EvenPort at unclean
  omega

theorem unused_of_odd (holds : ConventionHolds runtime registry) {port : Int}
    (odd : port % 2 ≠ 0) : registry.onPort port = 0 := by
  refine Registry.onPort_eq_zero ?_
  rintro srcId registration found rfl
  exact odd (holds.evenPort found)

theorem count (holds : ConventionHolds runtime registry) {port : Int}
    (even : port % 2 = 0) :
    runtime.worker.ports.listeners port = registry.onPort port := by
  rcases Nat.eq_zero_or_pos (registry.onPort port) with here | used
  · have below := holds.unused_of_odd (show (port - 1) % 2 ≠ 0 by omega)
    rw [here]
    exact (holds.counted.idle port here below).2 even
  · exact (holds.counted.counts port used).1

theorem apart (holds : ConventionHolds runtime registry)
    (conventional : event.Conventional registry) : event.Apart registry := by
  have odd {srcId : Int} (isOdd : srcId % 2 ≠ 0) :
      registry.lookup srcId = none := by
    cases found : registry.lookup srcId with
    | none => rfl
    | some registration => exact absurd (holds.evenIds _ _ found).2 isOdd
  cases event with
  | addSource srcId ip port =>
      obtain ⟨-, even, fresh, -⟩ := conventional
      exact ⟨fresh, odd (by omega), odd (by omega)⟩
  | removeSource srcId => trivial
  | addDestination srcId destId ip port => trivial
  | removeDestination srcId destId => trivial
  | packet fd received => trivial
  | elapse seconds => trivial

theorem keepsPairs (holds : ConventionHolds runtime registry) {os : Os}
    (exclusive : os.Exclusive) (conventional : event.Conventional registry) :
    KeepsPairs os runtime registry event := by
  cases event with
  | addSource srcId ip port =>
      obtain ⟨-, -, -, low, high, even⟩ := conventional
      refine .inr (.inr ⟨holds.unused_of_odd (by omega),
        holds.unused_of_odd (by omega), .inl ?_, ?_⟩)
      · rw [holds.count even]
        exact Int.natCast_nonneg _
      · intro opens
        have nonzero : htons (port + 1) ≠ 0 :=
          htons_ne_zero (by omega) (by omega)
        have taken := RtcpWorker.initPair_bound exclusive
          runtime.sockets.kernel nonzero
        exact opens.2.2.2.1
          ((exclusive.initSocket_fails_iff _ nonzero).mpr taken)
  | removeSource srcId => trivial
  | addDestination srcId destId ip port => trivial
  | removeDestination srcId destId => trivial
  | packet fd received => trivial
  | elapse seconds => trivial

theorem step (holds : ConventionHolds runtime registry) {os : Os}
    (exclusive : os.Exclusive) {output : WorkerOutput}
    (allowed : ConventionalUse runtime registry event)
    (stepped : runtime.step os event = .ok (next, output)) :
    ConventionHolds next (registry.record event output) := by
  obtain ⟨conventional, registered, polled⟩ := allowed
  have step := RtcpStep.of_step holds.rtcp stepped
  have apart := holds.apart conventional
  have valid : ∀ srcId ip port, event = .addSource srcId ip port →
      PairPorts EvenPort port := by
    rintro srcId ip port rfl
    obtain ⟨-, -, -, low, high, even⟩ := conventional
    refine ⟨low, high, ?_⟩
    unfold EvenPort
    omega
  have after := (holds.toRtcpHolds.step step apart registered polled
    valid (holds.keepsPairs exclusive conventional)).1
  refine ⟨after, (Runtime.step_sameWorker stepped).1.trans holds.rtcp, ?_, ?_⟩
  · refine Registry.record_valid (fun srcId _ => srcId ≠ 0 ∧ srcId % 2 = 0)
      event output ?_ holds.evenIds
    rintro srcId ip port rfl
    exact ⟨conventional.1, conventional.2.1⟩
  · refine step.routesAgree holds.paired (fun _ => apart) registered ?_ holds.agree
    intro srcId used
    obtain ⟨registration, found⟩ := Option.isSome_iff_exists.mp used
    obtain ⟨nonzero, even⟩ := holds.evenIds srcId registration found
    exact ⟨nonzero, by omega⟩

theorem delivering (holds : ConventionHolds runtime registry) :
    Delivering runtime registry.paired where
  implements := holds.paired.implements
  inverse := holds.counted.inverse
  sound := holds.agree.sound
  accepted := by
    intro stats
    rw [holds.rtcp] at stats
    cases stats

end ConventionHolds

structure Convention (runtime : Runtime) (registry : Registry) : Prop where
  count : ∀ port, port % 2 = 0 →
    runtime.worker.ports.listeners port = registry.onPort port
  used : ∀ port, 0 < registry.onPort port →
    runtime.worker.ports.listeners (port + 1) = registry.onPort port + 1 ∧
      (runtime.worker.ports.portFd.lookup port).isSome = true ∧
      (runtime.worker.ports.portFd.lookup (port + 1)).isSome = true
  unused : ∀ port, port % 2 = 0 → registry.onPort port = 0 →
    runtime.worker.ports.portFd.lookup port = none ∧
      runtime.worker.ports.portFd.lookup (port + 1) = none ∧
      runtime.worker.ports.listeners (port + 1) ≤ 0
  inverse : Table.Inverse runtime.worker.ports.portFd
    runtime.worker.ports.fdPort
  destinations : ∀ srcId registration,
    registry.lookup srcId = some registration →
    ∃ list list2, runtime.worker.streams.lists srcId = some list ∧
      runtime.worker.streams.lists (srcId + 1) = some list2 ∧
      list.destinations = registration.destinations ∧
      list2.destinations = list.destinations.map UdpStream.next

theorem ConventionHolds.convention {runtime : Runtime} {registry : Registry}
    (holds : ConventionHolds runtime registry) :
    Convention runtime registry where
  count := fun port even => holds.count even
  used := by
    intro port used
    refine ⟨(holds.counted.counts port used).2, ?_, ?_⟩
    · exact Option.isSome_iff_exists.mpr
        (holds.counted.listening_pair used (.inl rfl))
    · exact Option.isSome_iff_exists.mpr
        (holds.counted.listening_pair used (.inr rfl))
  unused := by
    intro port even unused
    have below := holds.unused_of_odd (show (port - 1) % 2 ≠ 0 by omega)
    have above := holds.unused_of_odd (show (port + 1) % 2 ≠ 0 by omega)
    have next : registry.onPort (port + 1 - 1) = 0 := by
      rw [add_sub_cancel_right, unused]
    exact ⟨holds.counted.absent unused below,
      holds.counted.absent above next,
      (holds.counted.idle (port + 1) above next).1⟩
  inverse := holds.counted.inverse
  destinations := by
    intro srcId registration found
    obtain ⟨list, list2, stored, stored2, rfl, next2⟩ :=
      holds.paired.registered found
    exact ⟨list, list2, stored, stored2, rfl,
      congrArg Registration.destinations next2⟩

/-- An RTCP worker under its convention: counts, descriptors and lists in
every reachable state, and what its RTCP packets become. -/
theorem rtcp_convention {os : Os} (exclusive : os.Exclusive) {workerId : Int}
    {kernel : Kernel} {runtime : Runtime} {registry : Registry}
    (run : (workerMachine os).Run Registry.observer ConventionalUse
      (Runtime.start .rtcp workerId kernel) runtime registry) :
    Convention runtime registry ∧
      ∀ srcId registration fd sender bytes,
        registry.lookup srcId = some registration →
        runtime.worker.ports.portFd.lookup (registration.port + 1) = some fd →
        sender.sinAddr = registration.addr.sinAddr → bytes ≠ [] →
        (runtime.process fd (.datagram sender bytes)).2 =
          deliveries fd bytes (registration.destinations.map
            UdpStream.next) := by
  have holds : ConventionHolds runtime registry := by
    refine run.invariant (motive := ConventionHolds) ?_ ?_
    · refine ⟨RtcpHolds.start _ .rtcp workerId kernel, rfl, ?_,
        StreamTables.routesAgree_empty⟩
      intro srcId registration found
      cases found
    · intro runtime next registry event output holds allowed stepped
      exact holds.step exclusive allowed stepped
  refine ⟨holds.convention, ?_⟩
  intro srcId registration fd sender bytes found listening sameIp content
  obtain ⟨list, list2, stored, stored2, rfl, next2⟩ :=
    holds.paired.registered found
  have addr : SockAddr.ofPort sender.sinAddr (list.registration.port + 1) =
      list2.getSourceSockAddr := by
    have host : SockAddr.ofPort list.registration.addr.sinAddr
        list.registration.port = list.registration.addr := by
      simp [SockAddr.ofPort, Registration.port]
    rw [sameIp, SockAddr.ofPort_add_one, host]
    exact (congrArg Registration.addr next2).symm
  have nonzero : srcId + 1 ≠ 0 := by
    have even := (holds.evenIds srcId _ found).2
    omega
  have indexed := holds.agree.complete (srcId + 1) list2 nonzero stored2
  rw [holds.delivering.process_eq listening sender content, addr, indexed,
    holds.paired.implements.registered stored2, next2]
  rfl

/-- Two sources on one pair, each with a destination. -/
theorem rtcp_convention_shared :
    ∃ runtime registry,
      (workerMachine .orderly).Run Registry.observer ConventionalUse
        (Runtime.start .rtcp 0 .fresh) runtime registry ∧
      (runtime.process 4 (.datagram ⟨1, 40000⟩ [7])).2 =
        [⟨4, [7], 1, ⟨9, 6001⟩⟩] := by
  have run : (workerMachine .orderly).Run Registry.observer ConventionalUse
      (Runtime.start .rtcp 0 .fresh) _ _ :=
    .of_replay [.addSource 2 1 5000, .addSource 4 2 5000,
      .addDestination 2 1 9 6000, .removeSource 4] (by decide)
  refine ⟨_, _, run, ?_⟩
  exact (rtcp_convention Os.orderly_exclusive run).2 2 _ 4 ⟨1, 40000⟩ [7] rfl
    rfl rfl (by decide)

end StrManager
