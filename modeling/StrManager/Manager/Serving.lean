import StrManager.Manager.Removal
import StrManager.Rtcp.Handles

namespace StrManager

open Library Function

/-! The workers of one process. Each reflects the sources it was told about,
over sockets that no other worker has, and RTCP sources keep to their
convention. -/

/-- The worker reflects the sources of its registry. -/
inductive Worker.Serves (kernel : Kernel) (worker : Worker)
    (registry : Registry) : Prop
  | plain (accounted : worker.Accounted registry)
      (described : SocketState.Described ⟨kernel, worker.ports⟩)
      (accepted : worker.ListsAccepted)
  | rtcp (holds : ConventionHolds ⟨kernel, worker⟩ registry)

/-- The streams a worker of the class reflects, by the identifier of their
list. -/
def WorkerKind.view (kind : WorkerKind) (registry : Registry) :
    Int → Option Registration :=
  match kind with
  | .rtcp => registry.paired
  | .forward | .stats => registry.lookup

theorem WorkerKind.view_of_plain {kind : WorkerKind} (plain : kind ≠ .rtcp)
    (registry : Registry) : kind.view registry = registry.lookup := by
  cases kind with
  | forward => rfl
  | stats => rfl
  | rtcp => exact absurd rfl plain

/-- Sources are new, on a port and not called 0, and for RTCP as the convention
has it; the other calls name registered sources. -/
def WorkerEvent.Fits (kind : WorkerKind) (registry : Registry) :
    WorkerEvent → Prop
  | .addSource srcId _ port =>
      srcId ≠ 0 ∧ registry.lookup srcId = none ∧ 1 ≤ port ∧ port ≤ 65535 ∧
        (kind = .rtcp → srcId % 2 = 0 ∧ port % 2 = 0 ∧ port ≤ 65532)
  | .removeSource srcId | .addDestination srcId _ _ _
  | .removeDestination srcId _ => (registry.lookup srcId).isSome = true
  | .packet _ _ | .elapse _ => True

namespace WorkerEvent.Fits

variable {kind : WorkerKind} {registry : Registry} {event : WorkerEvent}

theorem registered (fits : event.Fits kind registry) :
    event.Registered registry := by
  cases event with
  | addSource srcId ip port => trivial
  | removeSource srcId => exact fits
  | addDestination srcId destId ip port => exact fits
  | removeDestination srcId destId => exact fits
  | packet fd received => trivial
  | elapse seconds => trivial

theorem counted (fits : event.Fits kind registry) :
    event.NonzeroSource ∧ event.Fresh registry ∧ event.PortInRange := by
  cases event with
  | addSource srcId ip port =>
      obtain ⟨nonzero, fresh, low, high, -⟩ := fits
      exact ⟨nonzero, fresh, by omega, high⟩
  | removeSource srcId => exact ⟨trivial, trivial, trivial⟩
  | addDestination srcId destId ip port => exact ⟨trivial, trivial, trivial⟩
  | removeDestination srcId destId => exact ⟨trivial, trivial, trivial⟩
  | packet fd received => exact ⟨trivial, trivial, trivial⟩
  | elapse seconds => exact ⟨trivial, trivial, trivial⟩

theorem conventional (fits : event.Fits .rtcp registry) :
    event.Conventional registry := by
  cases event with
  | addSource srcId ip port =>
      obtain ⟨nonzero, fresh, low, high, even⟩ := fits
      obtain ⟨evenId, evenPort, -⟩ := even rfl
      exact ⟨nonzero, evenId, fresh, by omega, by omega, evenPort⟩
  | removeSource srcId => trivial
  | addDestination srcId destId ip port => trivial
  | removeDestination srcId destId => trivial
  | packet fd received => trivial
  | elapse seconds => trivial

theorem bindable (fits : event.Fits kind registry) : event.Bindable kind := by
  cases event with
  | addSource srcId ip port =>
      obtain ⟨-, -, low, high, rtcp⟩ := fits
      refine ⟨htons_ne_zero low high, ?_⟩
      intro isRtcp
      obtain ⟨-, -, bounded⟩ := rtcp isRtcp
      exact ⟨htons_ne_zero (by omega) (by omega),
        htons_ne_zero (by omega) (by omega)⟩
  | removeSource srcId => trivial
  | addDestination srcId destId ip port => trivial
  | removeDestination srcId destId => trivial
  | packet fd received => trivial
  | elapse seconds => trivial

end WorkerEvent.Fits

namespace Worker.Serves

variable {kernel after : Kernel} {worker : Worker} {registry : Registry}

theorem create {kind : WorkerKind} (workerId : Int)
    (unused : ∀ srcId, registry.lookup srcId = none) :
    (Worker.create kind workerId).Serves kernel registry := by
  rcases eq_or_ne kind .rtcp with rfl | plain
  · apply Serves.rtcp
    have lookups : registry.lookup = (∅ : Registry).lookup := by
      funext srcId
      rw [unused srcId, Table.lookup_empty]
    have sources : registry.onPort = fun _ => 0 := by
      funext port
      apply Registry.onPort_eq_zero
      intro srcId registration found
      rw [unused srcId] at found
      cases found
    refine ⟨⟨PairedLists.of_empty.congr lookups, ?_, ?_⟩, rfl, ?_,
      StreamTables.routesAgree_empty⟩
    · intro srcId registration found
      rw [unused srcId] at found
      cases found
    · rw [sources]
      exact PairCounted.empty EvenPort kernel
    · intro srcId registration found
      rw [unused srcId] at found
      cases found
  · refine .plain (.create plain workerId unused) (.empty kernel) ?_
    intro _ srcId list found
    rw [Worker.create, StreamTables.lists_empty] at found
    cases found

theorem described (serves : worker.Serves kernel registry) :
    SocketState.Described ⟨kernel, worker.ports⟩ := by
  cases serves with
  | plain accounted described accepted => exact described
  | rtcp holds => exact holds.counted.toDescribed

theorem stable (serves : worker.Serves kernel registry)
    (same : ∀ fd, worker.ports.Holds fd →
      after.sockets.lookup fd = kernel.sockets.lookup fd) :
    worker.Serves after registry := by
  have moved (described : SocketState.Described ⟨kernel, worker.ports⟩) :
      SocketState.Described ⟨after, worker.ports⟩ :=
    ⟨described.inverse, fun port fd found =>
      (same fd ⟨port, found⟩).trans (described.bound port fd found)⟩
  cases serves with
  | plain accounted described accepted =>
      exact .plain accounted (moved described) accepted
  | rtcp holds =>
      have counted := holds.counted
      exact .rtcp ⟨⟨holds.paired, holds.ports, ⟨moved counted.toDescribed,
        counted.apart, counted.counts, counted.idle, counted.listening⟩⟩,
        holds.rtcp, holds.evenIds, holds.agree⟩

theorem congr {next : Worker} (serves : worker.Serves kernel registry)
    (kind : next.kind = worker.kind) (ports : next.ports = worker.ports)
    (lists : next.streams.lists = worker.streams.lists)
    (routes : next.streams.routes = worker.streams.routes) :
    next.Serves kernel registry := by
  have agree (before : worker.streams.RoutesAgree) :
      next.streams.RoutesAgree := by
    unfold StreamTables.RoutesAgree at before ⊢
    rwa [lists, routes]
  cases serves with
  | plain accounted described accepted =>
      refine .plain (accounted.of_same kind ports lists routes) ?_ ?_
      · rwa [ports]
      · unfold ListsAccepted at accepted ⊢
        rwa [kind, lists]
  | rtcp holds =>
      refine .rtcp ⟨⟨?_, holds.ports, ?_⟩, kind.trans holds.rtcp,
        holds.evenIds, agree holds.agree⟩
      · have paired := holds.paired
        change PairedLists next.streams.lists registry
        rwa [lists]
      · have counted := holds.counted
        change PairCounted EvenPort ⟨kernel, next.ports⟩ registry.onPort
        rwa [ports]

theorem step {os : Os} (exclusive : os.Exclusive) {runtime next : Runtime}
    {event : WorkerEvent} {output : WorkerOutput}
    (serves : runtime.worker.Serves runtime.kernel registry)
    (fits : event.Fits runtime.worker.kind registry)
    (polled : event.Polled runtime) (unique : runtime.kernel.OnePerPort)
    (stepped : runtime.step os event = .ok (next, output)) :
    next.worker.Serves next.kernel (registry.record event output) ∧
      runtime.sockets.Moves next.sockets ∧ next.kernel.OnePerPort := by
  have onePerPort := Runtime.step_onePerPort exclusive fits.bindable stepped
    unique
  cases serves with
  | plain accounted described accepted =>
      have step := PlainStep.of_step accounted.plain stepped
      obtain ⟨nonzero, fresh, inRange⟩ := fits.counted
      have consistent : next.sockets.Consistent :=
        step.consistent polled ⟨described, accounted.listening⟩
      refine ⟨.plain ?_ consistent.toDescribed ?_,
        step.moves accounted.listening, onePerPort⟩
      · exact accounted.step stepped nonzero fun _ => ⟨fresh, inRange⟩
      · exact step.listsAccepted (Runtime.step_sameWorker stepped) accepted
  | rtcp holds =>
      have step := RtcpStep.of_step holds.rtcp stepped
      rw [holds.rtcp] at fits
      refine ⟨.rtcp ?_, step.moves holds.toRtcpHolds fits.registered,
        onePerPort⟩
      exact holds.step exclusive ⟨fits.conventional, fits.registered, polled⟩
        stepped

theorem hasLists (serves : worker.Serves kernel registry) {srcId : Int}
    (registered : (registry.lookup srcId).isSome = true) :
    worker.HasLists srcId := by
  obtain ⟨registration, found⟩ := Option.isSome_iff_exists.mp registered
  cases serves with
  | plain accounted described accepted =>
      obtain ⟨list, stored, -⟩ := accounted.implements.stored found
      refine ⟨by rw [stored]; rfl, ?_⟩
      intro rtcp
      exact absurd rtcp accounted.plain
  | rtcp holds =>
      obtain ⟨list, list2, stored, stored2, -⟩ := holds.paired.registered found
      change worker.streams.lists srcId = some list at stored
      change worker.streams.lists (srcId + 1) = some list2 at stored2
      exact ⟨by rw [stored]; rfl, fun _ => by rw [stored2]; rfl⟩

theorem delivering (serves : worker.Serves kernel registry) :
    Delivering ⟨kernel, worker⟩ (worker.kind.view registry) := by
  cases serves with
  | plain accounted described accepted =>
      rw [WorkerKind.view_of_plain accounted.plain]
      exact ⟨accounted.implements, described.inverse, accounted.agree.sound,
        accepted⟩
  | rtcp holds =>
      have kind : worker.kind = .rtcp := holds.rtcp
      rw [kind]
      exact holds.delivering

theorem agree (serves : worker.Serves kernel registry) :
    worker.streams.RoutesAgree := by
  cases serves with
  | plain accounted described accepted => exact accounted.agree
  | rtcp holds => exact holds.agree

theorem view_zero (serves : worker.Serves kernel registry) :
    worker.kind.view registry 0 = none := by
  cases serves with
  | plain accounted described accepted =>
      rw [WorkerKind.view_of_plain accounted.plain]
      exact accounted.zero
  | rtcp holds =>
      have unused {srcId : Int} (odd : srcId = 0 ∨ srcId % 2 ≠ 0) :
          registry.lookup srcId = none := by
        cases found : registry.lookup srcId with
        | none => rfl
        | some registration =>
            have valid := holds.evenIds srcId registration found
            omega
      have kind : worker.kind = .rtcp := holds.rtcp
      rw [kind]
      change registry.paired 0 = none
      rw [Registry.paired, unused (.inl rfl), unused (.inr (by decide))]
      rfl

theorem routed (serves : worker.Serves kernel registry) {listId : Int}
    {registration : Registration}
    (found : worker.kind.view registry listId = some registration) :
    worker.streams.routes registration.addr = listId := by
  obtain ⟨list, stored, rfl⟩ := serves.delivering.implements.stored found
  refine serves.agree.complete listId list ?_ stored
  rintro rfl
  rw [serves.view_zero] at found
  cases found

end Worker.Serves

end StrManager
