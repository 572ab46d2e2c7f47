import StrManager.Worker.Delivery

namespace StrManager

open Library Function

/-! A worker that may have a source 0. An address without a route reads as
route 0, so that what strangers send goes to the destinations of source 0. -/

namespace Registry

theorem unknown_empty (addr : SockAddr) : (∅ : Registry).Unknown addr := by
  intro srcId registration found
  rw [Table.lookup_empty] at found
  cases found

def Apart (registry : Registry) : Prop :=
  ∀ first second registration registration2,
    registry.lookup first = some registration →
    registry.lookup second = some registration2 →
    registration.addr = registration2.addr → first = second

theorem Apart.addSource {registry : Registry} (apart : registry.Apart)
    {srcId : Int} {addr : SockAddr} (unknown : registry.Unknown addr) :
    (registry.addSource srcId addr).Apart := by
  intro first second registration registration2 found found2 same
  rw [lookup_addSource] at found found2
  split at found
  · cases found
    split at found2
    · simp_all
    · exact absurd same.symm (unknown second registration2 found2)
  · split at found2
    · cases found2
      exact absurd same (unknown first registration found)
    · exact apart first second registration registration2 found found2 same

theorem Apart.removeSource {registry : Registry} (apart : registry.Apart)
    (srcId : Int) : (registry.removeSource srcId).Apart := by
  intro first second registration registration2 found found2 same
  rw [lookup_removeSource] at found found2
  split at found
  · cases found
  · split at found2
    · cases found2
    · exact apart first second registration registration2 found found2 same

theorem Apart.change {registry : Registry} (apart : registry.Apart)
    (srcId : Int) {edit : Registration → Registration}
    (kept : ∀ registration, (edit registration).addr = registration.addr) :
    (registry.change srcId edit).Apart := by
  have before {other : Int} {registration : Registration}
      (found : (registry.change srcId edit).lookup other = some registration) :
      ∃ original, registry.lookup other = some original ∧
        original.addr = registration.addr := by
    rw [lookup_change] at found
    split at found
    · rename_i same
      subst same
      obtain ⟨original, stored, rfl⟩ := Option.map_eq_some_iff.mp found
      exact ⟨original, stored, (kept original).symm⟩
    · exact ⟨registration, found, rfl⟩
  intro first second registration registration2 found found2 same
  obtain ⟨original, stored, addr⟩ := before found
  obtain ⟨original2, stored2, addr2⟩ := before found2
  exact apart first second original original2 stored stored2
    (addr.trans (same.trans addr2.symm))

end Registry

/-- A source is added under a new identifier and from a new address. -/
def WorkerEvent.Separate (registry : Registry) : WorkerEvent → Prop
  | .addSource srcId ip port =>
      registry.lookup srcId = none ∧
        registry.Unknown (SockAddr.ofPort ip port)
  | _ => True

instance (registry : Registry) (event : WorkerEvent) :
    Decidable (event.Separate registry) :=
  match event with
  | .addSource srcId ip port =>
      inferInstanceAs (Decidable (registry.lookup srcId = none ∧
        registry.Unknown (SockAddr.ofPort ip port)))
  | .removeSource _ | .addDestination _ _ _ _ | .removeDestination _ _
  | .packet _ _ | .elapse _ => isTrue trivial

theorem WorkerEvent.Separate.fresh {registry : Registry} {event : WorkerEvent}
    (apart : event.Separate registry) : event.Fresh registry := by
  cases event with
  | addSource srcId ip port => exact apart.1
  | removeSource srcId => trivial
  | addDestination srcId destId ip port => trivial
  | removeDestination srcId destId => trivial
  | packet fd received => trivial
  | elapse seconds => trivial

theorem Registry.Apart.record {registry : Registry} (apart : registry.Apart)
    {event : WorkerEvent} (fits : event.Separate registry)
    (output : WorkerOutput) : (registry.record event output).Apart := by
  cases event with
  | addSource srcId ip port =>
      cases output with
      | added accepted =>
          cases accepted with
          | true => exact apart.addSource fits.2
          | false => exact apart
      | removed messages => exact apart
      | done => exact apart
      | sent transmissions => exact apart
  | removeSource srcId => exact apart.removeSource srcId
  | addDestination srcId destId ip port =>
      exact apart.change srcId fun registration =>
        registration.addDestination_addr _
  | removeDestination srcId destId =>
      exact apart.change srcId fun registration =>
        registration.removeDestination_addr destId
  | packet fd received => exact apart
  | elapse seconds => exact apart

/-- What exact delivery rests on, with or without a source 0. -/
structure Runtime.Delivers (runtime : Runtime) (registry : Registry) :
    Prop where
  plain : runtime.worker.kind ≠ .rtcp
  implements : Implements runtime.worker.streams.lists registry.lookup
  consistent : runtime.sockets.Consistent
  sound : runtime.worker.streams.RoutesSound
  complete : runtime.worker.streams.RoutesComplete
  accepted : runtime.worker.ListsAccepted
  apart : registry.Apart

namespace Runtime.Delivers

variable {os : Os} {runtime next : Runtime} {registry : Registry}
  {event : WorkerEvent} {output : WorkerOutput}

theorem create {kind : WorkerKind} (plain : kind ≠ .rtcp) (workerId : Int)
    (kernel : Kernel) (unused : ∀ srcId, registry.lookup srcId = none) :
    (Runtime.start kind workerId kernel).Delivers registry where
  plain := plain
  implements := by
    have lookups : registry.lookup = (∅ : Registry).lookup := by
      funext srcId
      rw [unused srcId, Table.lookup_empty]
    rw [lookups]
    exact .of_empty
  consistent := SocketState.consistent_empty kernel
  sound := StreamTables.routesAgree_empty.sound
  complete := StreamTables.routesAgree_empty.complete
  accepted := by
    intro _ srcId list found
    rw [Runtime.start, Worker.create, StreamTables.lists_empty] at found
    cases found
  apart := by
    intro first second registration registration2 found
    rw [unused first] at found
    cases found

theorem zeroApart (delivers : runtime.Delivers registry) :
    runtime.worker.streams.ZeroApart := by
  intro list found listId other nonzero stored same
  exact nonzero (delivers.apart listId 0 _ _
    (delivers.implements.registered stored)
    (delivers.implements.registered found) same)

theorem step (delivers : runtime.Delivers registry)
    (fits : event.Separate registry) (polled : event.Polled runtime)
    (stepped : runtime.step os event = .ok (next, output)) :
    next.Delivers (registry.record event output) := by
  have same := Runtime.step_sameWorker stepped
  have step := PlainStep.of_step delivers.plain stepped
  refine ⟨?_, step.implements delivers.implements,
    step.consistent polled delivers.consistent,
    step.routesSound delivers.implements (fun _ => fits.fresh) delivers.sound,
    step.routesComplete_apart delivers.zeroApart delivers.complete,
    step.listsAccepted same delivers.accepted, delivers.apart.record fits output⟩
  rw [same.1]
  exact delivers.plain

theorem delivering (delivers : runtime.Delivers registry) :
    Delivering runtime registry.lookup :=
  ⟨delivers.implements, delivers.consistent.inverse, delivers.sound,
    delivers.accepted⟩

theorem routed (delivers : runtime.Delivers registry) {srcId : Int}
    {registration : Registration}
    (found : registry.lookup srcId = some registration) :
    runtime.worker.streams.routes registration.addr = srcId := by
  obtain ⟨list, stored, rfl⟩ := delivers.implements.stored found
  rcases eq_or_ne srcId 0 with rfl | valid
  · by_contra indexed
    obtain ⟨other, registered, same⟩ := delivers.delivering.routed indexed
    exact indexed (delivers.apart _ 0 _ _ registered found same)
  · exact delivers.complete srcId list valid stored

theorem process_eq (delivers : runtime.Delivers registry) {port fd : Int}
    (hosted : runtime.worker.ports.fdPort.lookup fd = some port)
    (sender : SockAddr) {bytes : List UInt8} (content : bytes ≠ []) :
    let addr := SockAddr.ofPort sender.sinAddr port
    let sent := (runtime.process fd (.datagram sender bytes)).2
    (∀ srcId registration, registry.lookup srcId = some registration →
      registration.addr = addr →
      sent = deliveries fd bytes registration.destinations) ∧
    (registry.Unknown addr →
      sent = deliveries fd bytes (registry.destinations 0)) := by
  intro addr sent
  have processed : sent = deliveries fd bytes (registry.destinations
      (runtime.worker.streams.routes addr)) :=
    delivers.delivering.process_eq
      ((delivers.consistent.inverse port fd).mpr hosted) sender content
  constructor
  · intro srcId registration registered equal
    rw [processed, ← equal, delivers.routed registered, Registry.destinations,
      registered]
    rfl
  · intro unknown
    rw [processed, delivers.delivering.routed_to_zero unknown]

end Runtime.Delivers

def SeparateUse (runtime : Runtime) (registry : Registry) (event : WorkerEvent) :
    Prop :=
  event.Separate registry ∧ event.Polled runtime

instance : Decidable (SeparateUse runtime registry event) :=
  inferInstanceAs (Decidable (_ ∧ _))

theorem workerMachine_run_delivers {os : Os} {kind : WorkerKind}
    (plain : kind ≠ .rtcp) {workerId : Int} {kernel : Kernel}
    {runtime : Runtime} {registry : Registry}
    (run : (workerMachine os).Run Registry.observer SeparateUse
      (Runtime.start kind workerId kernel) runtime registry) :
    runtime.Delivers registry := by
  refine run.invariant (motive := Runtime.Delivers)
    (.create plain _ _ Table.lookup_empty) ?_
  intro runtime next registry event output delivers allowed stepped
  exact delivers.step allowed.1 allowed.2 stepped

/-- With a source 0 every datagram is delivered: to the destinations of the
source it is from, and to those of source 0 when it is from no source. -/
theorem stray_delivery {os : Os} {kind : WorkerKind} (plain : kind ≠ .rtcp)
    {workerId : Int} {kernel : Kernel} {runtime : Runtime}
    {registry : Registry}
    (run : (workerMachine os).Run Registry.observer SeparateUse
      (Runtime.start kind workerId kernel) runtime registry) :
    ∀ port fd sender bytes,
      runtime.worker.ports.fdPort.lookup fd = some port → bytes ≠ [] →
      let addr := SockAddr.ofPort sender.sinAddr port
      let sent := (runtime.process fd (.datagram sender bytes)).2
      (∀ srcId registration, registry.lookup srcId = some registration →
        registration.addr = addr →
        sent = deliveries fd bytes registration.destinations) ∧
      (registry.Unknown addr →
        sent = deliveries fd bytes (registry.destinations 0)) := by
  intro port fd sender bytes hosted content
  exact (workerMachine_run_delivers plain run).process_eq hosted sender content

theorem stray_delivery_stats :
    ∃ runtime registry,
      (workerMachine .orderly).Run Registry.observer SeparateUse
        (Runtime.start .stats 0 .fresh) runtime registry ∧
      (runtime.process 3 (.datagram ⟨8, 40000⟩ [10, 20])).2 =
        [⟨3, [10, 20], 2, ⟨9, 6000⟩⟩] := by
  have run : (workerMachine .orderly).Run Registry.observer SeparateUse
      (Runtime.start .stats 0 .fresh) _ _ :=
    .of_replay [.addSource 0 1 5000, .addSource 1 2 5000,
      .addDestination 0 1 9 6000, .addDestination 1 2 9 6002] (by decide)
  refine ⟨_, _, run, ?_⟩
  exact (stray_delivery (by decide) run 5000 3 ⟨8, 40000⟩ [10, 20] rfl
    (by decide)).2 (by decide)

end StrManager
