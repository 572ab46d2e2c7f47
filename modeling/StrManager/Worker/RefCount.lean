import StrManager.Worker.Implements

namespace StrManager

open Library Function

/-! The sockets of a worker with one list per source are counted by the
sources on their ports. -/

namespace PlainStep

variable {os : Os} {runtime next : Runtime} {event : WorkerEvent}
  {output : WorkerOutput} {registry : Registry}

theorem consistent (step : PlainStep os runtime next event output)
    (polled : event.Polled runtime) (consistent : runtime.sockets.Consistent) :
    next.sockets.Consistent := by
  cases step with
  | rejected routed sockets lists routes =>
      rw [sockets]
      exact consistent
  | refused free failed sockets lists routes =>
      rw [sockets]
      exact SocketState.addSocket_consistent consistent os _
  | added list free opened sockets created lists routes =>
      rw [sockets]
      exact SocketState.addSocket_consistent consistent os _
  | removed list found sockets lists routes =>
      rw [sockets]
      exact SocketState.removeSocket_consistent consistent _
  | addedDestination list changed =>
      rw [changed.streamsOnly.sockets]
      exact consistent
  | removedDestination list after changed filtered =>
      rw [changed.streamsOnly.sockets]
      exact consistent
  | packet noted =>
      obtain ⟨port, found⟩ := (Worker.polls_iff _ _).mp polled
      have fdPort := noted.fdPort port ((consistent.inverse _ _).mp found)
      have kernel : next.sockets.kernel = runtime.sockets.kernel := noted.kernel
      exact consistent.congr (congrArg Kernel.sockets kernel) noted.portFd
        fdPort noted.listeners
  | elapsed elapse =>
      subst elapse
      exact consistent.congr rfl rfl rfl rfl

theorem counted (step : PlainStep os runtime next event output)
    (implements : Implements runtime.worker.streams.lists registry.lookup)
    (fresh : output = .added true → event.Fresh registry)
    (inRange : output = .added true → event.PortInRange)
    (counted : ∀ port,
      runtime.worker.ports.listeners port = registry.onPort port) (port : Int) :
    next.worker.ports.listeners port =
      (registry.record event output).onPort port := by
  cases step with
  | rejected routed sockets lists routes =>
      have ports := congrArg SocketState.ports sockets
      change next.worker.ports = runtime.worker.ports at ports
      rw [ports]
      exact counted port
  | refused free failed sockets lists routes =>
      have ports := congrArg SocketState.ports sockets
      change next.worker.ports = _ at ports
      rw [ports, SocketState.addSocket_listeners_failed failed]
      exact counted port
  | @added srcId ip opening list free opened sockets created lists routes =>
      have ports := congrArg SocketState.ports sockets
      change next.worker.ports = _ at ports
      change _ = ((registry.addSource srcId
        (SockAddr.ofPort ip opening)).onPort port : Int)
      rw [ports, SocketState.addSocket_listeners opened,
        Registry.onPort_added (fresh rfl) ip (inRange rfl).1 (inRange rfl).2]
      change update runtime.worker.ports.listeners opening
        (runtime.worker.ports.listeners opening + 1) port = _
      rcases eq_or_ne port opening with rfl | different
      · rw [update_self, update_self, counted]
        push_cast
        rfl
      · rw [update_of_ne different, update_of_ne different, counted]
  | @removed srcId messages list found sockets lists routes =>
      have ports := congrArg SocketState.ports sockets
      change next.worker.ports = _ at ports
      have known := implements.registered found
      have used := Registry.onPort_of_lookup known
      change _ = ((registry.removeSource srcId).onPort port : Int)
      rw [ports, SocketState.removeSocket_listeners,
        Registry.onPort_removed known]
      change update runtime.worker.ports.listeners list.registration.port
        (runtime.worker.ports.listeners list.registration.port - 1) port = _
      rcases eq_or_ne port list.registration.port with rfl | different
      · rw [update_self, update_self, counted]
        omega
      · rw [update_of_ne different, update_of_ne different, counted]
  | addedDestination list changed =>
      have ports := congrArg SocketState.ports changed.streamsOnly.sockets
      change next.worker.ports = runtime.worker.ports at ports
      change _ = ((registry.change _ _).onPort port : Int)
      rw [ports, Registry.onPort_change _ _ fun registration =>
        registration.addDestination_addr _]
      exact counted port
  | removedDestination list after changed filtered =>
      have ports := congrArg SocketState.ports changed.streamsOnly.sockets
      change next.worker.ports = runtime.worker.ports at ports
      change _ = ((registry.change _ _).onPort port : Int)
      rw [ports, Registry.onPort_change _ _ fun registration =>
        registration.removeDestination_addr _]
      exact counted port
  | packet noted =>
      rw [noted.listeners]
      exact counted port
  | elapsed elapse =>
      subst elapse
      exact counted port

end PlainStep

/-- Identifiers are fresh when added, and ports are port numbers. -/
def CountedUse (runtime : Runtime) (registry : Registry)
    (event : WorkerEvent) : Prop :=
  event.Fresh registry ∧ event.Registered registry ∧ event.PortInRange ∧
    event.Polled runtime

instance : Decidable (CountedUse runtime registry event) :=
  inferInstanceAs (Decidable (_ ∧ _ ∧ _ ∧ _))

structure RefCounted (runtime : Runtime) (registry : Registry) : Prop where
  count : ∀ port,
    runtime.worker.ports.listeners port = registry.onPort port
  listening : ∀ port,
    (∃ fd, runtime.worker.ports.portFd.lookup port = some fd) ↔
      0 < registry.onPort port
  inverse : Table.Inverse runtime.worker.ports.portFd
    runtime.worker.ports.fdPort
  bound : ∀ port fd, runtime.worker.ports.portFd.lookup port = some fd →
    runtime.kernel.sockets.lookup fd = some (some (htons port))

theorem RefCounted.of_consistent {runtime : Runtime} {registry : Registry}
    (consistent : runtime.sockets.Consistent)
    (counted : ∀ port,
      runtime.worker.ports.listeners port = registry.onPort port) :
    RefCounted runtime registry where
  count := counted
  listening := by
    intro port
    refine (consistent.listening port).trans ?_
    change 0 < runtime.worker.ports.listeners port ↔ _
    rw [counted port]
    omega
  inverse := consistent.inverse
  bound := consistent.bound

theorem workerMachine_run_consistent {os : Os} {kind : WorkerKind}
    (plain : kind ≠ .rtcp) {workerId : Int} {kernel : Kernel}
    {Allowed : Runtime → Registry → WorkerEvent → Prop}
    (polled : ∀ {runtime registry event},
      Allowed runtime registry event → event.Polled runtime)
    {runtime : Runtime} {registry : Registry}
    (run : (workerMachine os).Run Registry.observer Allowed
      (Runtime.start kind workerId kernel) runtime registry) :
    Implements runtime.worker.streams.lists registry.lookup ∧
      runtime.sockets.Consistent :=
  workerMachine_run_plain plain
    (motive := fun runtime _ => runtime.sockets.Consistent)
    (SocketState.consistent_empty kernel)
    (fun _ consistent allowed step =>
      step.consistent (polled allowed) consistent) run

theorem workerMachine_run_refCounted {os : Os} {kind : WorkerKind}
    (plain : kind ≠ .rtcp) {workerId : Int} {kernel : Kernel}
    {runtime : Runtime} {registry : Registry}
    (run : (workerMachine os).Run Registry.observer CountedUse
      (Runtime.start kind workerId kernel) runtime registry) :
    RefCounted runtime registry := by
  have consistent := (workerMachine_run_consistent plain
    (fun allowed => allowed.2.2.2) run).2
  refine .of_consistent consistent ?_
  refine (workerMachine_run_plain plain
    (motive := fun runtime registry => ∀ port,
      runtime.worker.ports.listeners port = registry.onPort port) ?_ ?_ run).2
  · intro port
    exact PortTables.listeners_empty port
  · intro runtime next registry event output implements counted allowed step
    exact step.counted implements (fun _ => allowed.1)
      (fun _ => allowed.2.2.1) counted

/-! Closing. -/

def RemovesLast (registry : Registry) (port : Int) : WorkerEvent → Prop
  | .removeSource srcId => ∃ registration,
      registry.lookup srcId = some registration ∧
        registration.port = port ∧ registry.onPort port = 1
  | _ => False

/-- A step closes the descriptor of a port whose last source it removes, and
otherwise closes nothing. -/
def ClosesLast (runtime next : Runtime) (registry : Registry)
    (event : WorkerEvent) : Prop :=
  (next.kernel.closed = runtime.kernel.closed ∧
      ∀ port, ¬ RemovesLast registry port event) ∨
    ∃ port fd, RemovesLast registry port event ∧
      runtime.worker.ports.portFd.lookup port = some fd ∧
      next.kernel.closed = fd :: runtime.kernel.closed

def KeepsOpen (runtime next : Runtime) (nextRegistry : Registry) : Prop :=
  ∀ port fd, runtime.worker.ports.portFd.lookup port = some fd →
    0 < nextRegistry.onPort port →
    next.worker.ports.portFd.lookup port = some fd ∧
      next.kernel.sockets.lookup fd = some (some (htons port))

namespace PlainStep

variable {os : Os} {runtime next : Runtime} {event : WorkerEvent}
  {output : WorkerOutput} {registry : Registry}

theorem closesLast (step : PlainStep os runtime next event output)
    (implements : Implements runtime.worker.streams.lists registry.lookup)
    (counted : RefCounted runtime registry) :
    ClosesLast runtime next registry event := by
  have quiet {before after : SocketState} (same : after = before) :
      after.kernel.closed = before.kernel.closed := by rw [same]
  cases step with
  | rejected routed sockets lists routes =>
      exact .inl ⟨quiet sockets, by simp [RemovesLast]⟩
  | refused free failed sockets lists routes =>
      refine .inl ⟨?_, by simp [RemovesLast]⟩
      exact (quiet sockets).trans (SocketState.addSocket_closed os _ _)
  | added list free opened sockets created lists routes =>
      refine .inl ⟨?_, by simp [RemovesLast]⟩
      exact (quiet sockets).trans (SocketState.addSocket_closed os _ _)
  | @removed srcId messages list found sockets lists routes =>
      have registered := implements.registered found
      have count := counted.count list.getSourcePort
      rcases SocketState.removeSocket_cases runtime.sockets
        list.getSourcePort with ⟨last, result⟩ | ⟨shared, result⟩
      · change runtime.worker.ports.listeners list.getSourcePort = 1 at last
        obtain ⟨fd, listening⟩ := (counted.listening list.getSourcePort).mpr
          (by omega)
        refine .inr ⟨list.getSourcePort, fd,
          ⟨list.registration, registered, rfl, by omega⟩, listening, ?_⟩
        refine (quiet sockets).trans ?_
        rw [result]
        exact congrArg (· :: runtime.kernel.closed)
          (Table.subscript_of_lookup 0 listening)
      · change runtime.worker.ports.listeners list.getSourcePort ≠ 1 at shared
        refine .inl ⟨?_, ?_⟩
        · exact (quiet sockets).trans (by rw [result]; rfl)
        · rintro port ⟨registration, lookup, rfl, alone⟩
          rw [registered] at lookup
          cases lookup
          rw [StreamList.getSourcePort_eq] at count shared
          omega
  | addedDestination list changed =>
      exact .inl ⟨quiet changed.streamsOnly.sockets, by simp [RemovesLast]⟩
  | removedDestination list after changed filtered =>
      exact .inl ⟨quiet changed.streamsOnly.sockets, by simp [RemovesLast]⟩
  | packet noted =>
      exact .inl ⟨congrArg Kernel.closed noted.kernel, by simp [RemovesLast]⟩
  | elapsed elapse =>
      subst elapse
      exact .inl ⟨rfl, by simp [RemovesLast]⟩

theorem portFd_kept (step : PlainStep os runtime next event output)
    (consistent : runtime.sockets.Consistent) {port fd : Int}
    (found : runtime.worker.ports.portFd.lookup port = some fd)
    (listening : ∃ fd, next.worker.ports.portFd.lookup port = some fd) :
    next.worker.ports.portFd.lookup port = some fd := by
  have same {after : SocketState} (equal : next.sockets = after) :
      next.worker.ports = after.ports := congrArg SocketState.ports equal
  cases step with
  | rejected routed sockets lists routes =>
      rw [same sockets]
      exact found
  | refused free failed sockets lists routes =>
      rw [same sockets]
      exact SocketState.addSocket_portFd consistent os _ found
  | added list free opened sockets created lists routes =>
      rw [same sockets]
      exact SocketState.addSocket_portFd consistent os _ found
  | removed list removedFound sockets lists routes =>
      obtain ⟨kept, keptFound⟩ := listening
      rw [same sockets] at keptFound
      have before := SocketState.removeSocket_portFd keptFound
      change runtime.worker.ports.portFd.lookup port = some kept at before
      rw [found] at before
      cases before
      rw [same sockets]
      exact keptFound
  | addedDestination list changed =>
      rw [same changed.streamsOnly.sockets]
      exact found
  | removedDestination list after changed filtered =>
      rw [same changed.streamsOnly.sockets]
      exact found
  | packet noted =>
      rw [noted.portFd]
      exact found
  | elapsed elapse =>
      subst elapse
      exact found

end PlainStep

/-- Socket reference counting, in every reachable state and at every step
from it. -/
theorem sockets_refCounted {os : Os} {kind : WorkerKind} (plain : kind ≠ .rtcp)
    {workerId : Int} {kernel : Kernel} {runtime : Runtime}
    {registry : Registry}
    (run : (workerMachine os).Run Registry.observer CountedUse
      (Runtime.start kind workerId kernel) runtime registry) :
    RefCounted runtime registry ∧
      ∀ event next output, CountedUse runtime registry event →
        (workerMachine os).step runtime event = .ok (next, output) →
        ClosesLast runtime next registry event ∧
          KeepsOpen runtime next (registry.record event output) := by
  have counted := workerMachine_run_refCounted plain run
  obtain ⟨implements, consistent⟩ := workerMachine_run_consistent plain
    (fun allowed => allowed.2.2.2) run
  refine ⟨counted, ?_⟩
  intro event next output allowed stepped
  have sameKind := workerMachine_run_kind run
  have step := PlainStep.of_step (sameKind ▸ plain) stepped
  have nextCounted := workerMachine_run_refCounted plain
    (run.step allowed stepped)
  refine ⟨step.closesLast implements counted, ?_⟩
  intro port fd found inUse
  have kept := step.portFd_kept consistent found
    ((nextCounted.listening port).mpr inUse)
  exact ⟨kept, nextCounted.bound port fd kept⟩

/-- Two sources share a port; one of them is removed, and then the other. -/
theorem sockets_refCounted_shared :
    ∃ runtime registry,
      (workerMachine .orderly).Run Registry.observer CountedUse
        (Runtime.start .forward 0 .fresh) runtime registry ∧
      registry.onPort 5000 = 1 ∧
      RefCounted runtime registry := by
  have run : (workerMachine .orderly).Run Registry.observer CountedUse
      (Runtime.start .forward 0 .fresh) _ _ :=
    .of_replay [.addSource 0 1 5000, .addSource 7 2 5000, .removeSource 0]
      (by decide)
  exact ⟨_, _, run, rfl, (sockets_refCounted (by decide) run).1⟩

end StrManager
