import StrManager.Worker.RefCount

namespace StrManager

open Library Function

/-! Routes and lists under the operations of a worker with one list per
source. -/

theorem Registry.record_zero {registry : Registry} {event : WorkerEvent}
    (output : WorkerOutput) (nonzero : event.NonzeroSource)
    (absent : registry.lookup 0 = none) :
    (registry.record event output).lookup 0 = none := by
  cases event with
  | addSource srcId ip port =>
      cases output with
      | added accepted =>
          cases accepted with
          | true =>
              change (registry.addSource srcId _).lookup 0 = none
              rw [lookup_addSource, if_neg (Ne.symm nonzero), absent]
          | false => exact absent
      | removed messages => exact absent
      | done => exact absent
      | sent transmissions => exact absent
  | removeSource srcId =>
      change (registry.removeSource srcId).lookup 0 = none
      rw [lookup_removeSource, absent, ite_self]
  | addDestination srcId destId ip port =>
      change (registry.change srcId _).lookup 0 = none
      rw [lookup_change]
      rcases eq_or_ne 0 srcId with rfl | different
      · rw [if_pos rfl, absent]
        rfl
      · rw [if_neg different, absent]
  | removeDestination srcId destId =>
      change (registry.change srcId _).lookup 0 = none
      rw [lookup_change]
      rcases eq_or_ne 0 srcId with rfl | different
      · rw [if_pos rfl, absent]
        rfl
      · rw [if_neg different, absent]
  | packet fd received => exact absent
  | elapse seconds => exact absent

theorem Worker.DestinationStep.routesSound {runtime next : Runtime}
    {srcId : Int} {before after : StreamList}
    (changed : Worker.DestinationStep runtime next srcId before after)
    (sound : runtime.worker.streams.RoutesSound) :
    next.worker.streams.RoutesSound := by
  have source : after.getSourceSockAddr = before.getSourceSockAddr :=
    congrArg UdpStream.addr changed.source
  have modified := Index.Sound.modify sound changed.found source
  unfold StreamTables.RoutesSound
  rw [changed.lists]
  rcases changed.routes with routes | routes
  · rw [routes]
    exact modified
  · rw [routes, ← source]
    exact modified.reindex (update_self _ _ _)

theorem Worker.DestinationStep.routesComplete {runtime next : Runtime}
    {srcId : Int} {before after : StreamList}
    (changed : Worker.DestinationStep runtime next srcId before after)
    (complete : runtime.worker.streams.RoutesComplete) (valid : srcId ≠ 0) :
    next.worker.streams.RoutesComplete := by
  have source : after.getSourceSockAddr = before.getSourceSockAddr :=
    congrArg UdpStream.addr changed.source
  have modified := Index.Complete.modify complete changed.found source
  unfold StreamTables.RoutesComplete
  rw [changed.lists]
  rcases changed.routes with routes | routes
  · rw [routes]
    exact modified
  · rw [routes, ← source]
    exact modified.reindex valid (update_self _ _ _)

theorem Worker.DestinationStep.routesComplete_apart {runtime next : Runtime}
    {srcId : Int} {before after : StreamList}
    (changed : Worker.DestinationStep runtime next srcId before after)
    (complete : runtime.worker.streams.RoutesComplete)
    (apart : runtime.worker.streams.ZeroApart) :
    next.worker.streams.RoutesComplete := by
  rcases eq_or_ne srcId 0 with rfl | valid
  · have stored := Index.Complete.setReserved complete (some after)
    unfold StreamTables.RoutesComplete
    rw [changed.lists]
    rcases changed.routes with routes | routes
    · rw [routes]
      exact stored
    · rw [routes]
      refine stored.setUnused ?_ 0
      intro listId other nonzero found
      rw [update_of_ne nonzero] at found
      exact apart before changed.found listId other nonzero found
  · exact changed.routesComplete complete valid

namespace PlainStep

variable {os : Os} {runtime next : Runtime} {event : WorkerEvent}
  {output : WorkerOutput} {registry : Registry}

theorem routesSound (step : PlainStep os runtime next event output)
    (implements : Implements runtime.worker.streams.lists registry.lookup)
    (fresh : output = .added true → event.Fresh registry)
    (sound : runtime.worker.streams.RoutesSound) :
    next.worker.streams.RoutesSound := by
  have same (lists : next.worker.streams.lists = runtime.worker.streams.lists)
      (routes : next.worker.streams.routes = runtime.worker.streams.routes) :
      next.worker.streams.RoutesSound := by
    unfold StreamTables.RoutesSound
    rw [lists, routes]
    exact sound
  cases step with
  | rejected routed sockets lists routes => exact same lists routes
  | refused free failed sockets lists routes => exact same lists routes
  | @added srcId ip port list free opened sockets created lists routes =>
      unfold StreamTables.RoutesSound
      rw [lists, routes]
      exact Index.Sound.insert sound list
        ((implements.none_iff srcId).mpr (fresh rfl))
  | removed list found sockets lists routes =>
      unfold StreamTables.RoutesSound
      rw [lists, routes]
      exact Index.Sound.remove sound found
  | addedDestination list changed => exact changed.routesSound sound
  | removedDestination list after changed filtered =>
      exact changed.routesSound sound
  | packet noted =>
      rcases noted.lists with
        lists | ⟨srcId, list, after, found, lists, source, -⟩
      · exact same lists noted.routes
      · unfold StreamTables.RoutesSound
        rw [lists, noted.routes]
        exact Index.Sound.modify sound found (congrArg UdpStream.addr source)
  | elapsed elapse =>
      subst elapse
      exact sound

theorem routesComplete_apart (step : PlainStep os runtime next event output)
    (apart : runtime.worker.streams.ZeroApart)
    (complete : runtime.worker.streams.RoutesComplete) :
    next.worker.streams.RoutesComplete := by
  have same (lists : next.worker.streams.lists = runtime.worker.streams.lists)
      (routes : next.worker.streams.routes = runtime.worker.streams.routes) :
      next.worker.streams.RoutesComplete := by
    unfold StreamTables.RoutesComplete
    rw [lists, routes]
    exact complete
  cases step with
  | rejected routed sockets lists routes => exact same lists routes
  | refused free failed sockets lists routes => exact same lists routes
  | @added srcId ip port list free opened sockets created lists routes =>
      have source : list.getSourceSockAddr = SockAddr.ofPort ip port := by
        rw [created, StreamList.getSourceSockAddr, WorkerKind.newList_source]
        rfl
      unfold StreamTables.RoutesComplete
      rw [lists, routes]
      exact Index.Complete.insert complete (by rw [source, free])
  | @removed srcId messages list found sockets lists routes =>
      unfold StreamTables.RoutesComplete
      rw [lists, routes]
      rcases eq_or_ne srcId 0 with rfl | valid
      · refine (Index.Complete.setReserved complete none).setUnused ?_ 0
        intro listId other nonzero stored
        rw [update_of_ne nonzero] at stored
        exact apart list found listId other nonzero stored
      · exact Index.Complete.remove complete valid found
  | addedDestination list changed =>
      exact changed.routesComplete_apart complete apart
  | removedDestination list after changed filtered =>
      exact changed.routesComplete_apart complete apart
  | packet noted =>
      rcases noted.lists with
        lists | ⟨srcId, list, after, found, lists, source, -⟩
      · exact same lists noted.routes
      · unfold StreamTables.RoutesComplete
        rw [lists, noted.routes]
        exact Index.Complete.modify complete found
          (congrArg UdpStream.addr source)
  | elapsed elapse =>
      subst elapse
      exact complete

theorem routesComplete (step : PlainStep os runtime next event output)
    (zero : runtime.worker.streams.lists 0 = none)
    (complete : runtime.worker.streams.RoutesComplete) :
    next.worker.streams.RoutesComplete :=
  step.routesComplete_apart (.of_none zero) complete

theorem accepted {srcId : Int} {ip : InAddr} {port : Int}
    (step : PlainStep os runtime next (.addSource srcId ip port)
      (.added true)) :
    runtime.worker.streams.routes (SockAddr.ofPort ip port) = 0 ∧
      SocketState.CanOpen os runtime.sockets port := by
  cases step with
  | added list free opened sockets created lists routes =>
      exact ⟨free, (SocketState.addSocket_opens_iff os _ port).mp opened⟩

end PlainStep

/-- A source is added under a new identifier, unless it is rejected for its
address or its port anyway. -/
def KeepsRoutes (os : Os) (runtime : Runtime) (registry : Registry) :
    WorkerEvent → Prop
  | .addSource srcId ip port =>
      registry.lookup srcId = none ∨
        runtime.worker.streams.routes (SockAddr.ofPort ip port) ≠ 0 ∨
        ¬ SocketState.CanOpen os runtime.sockets port
  | _ => True

def RoutedUse (os : Os) (runtime : Runtime) (registry : Registry)
    (event : WorkerEvent) : Prop :=
  event.NonzeroSource ∧ KeepsRoutes os runtime registry event

theorem KeepsRoutes.fresh {os : Os} {runtime next : Runtime}
    {event : WorkerEvent} {output : WorkerOutput} {registry : Registry}
    (keeps : KeepsRoutes os runtime registry event)
    (step : PlainStep os runtime next event output)
    (added : output = .added true) : event.Fresh registry := by
  subst added
  cases event with
  | addSource srcId ip port =>
      obtain ⟨free, canOpen⟩ := step.accepted
      rcases keeps with fresh | routed | refused
      · exact fresh
      · exact absurd free routed
      · exact absurd canOpen refused
  | removeSource srcId => trivial
  | addDestination srcId destId ip port => trivial
  | removeDestination srcId destId => trivial
  | packet fd received => trivial
  | elapse seconds => trivial

theorem WorkerEvent.Fresh.keepsRoutes {os : Os} {runtime : Runtime}
    {registry : Registry} {event : WorkerEvent}
    (fresh : event.Fresh registry) : KeepsRoutes os runtime registry event := by
  cases event with
  | addSource srcId ip port => exact .inl fresh
  | removeSource srcId => trivial
  | addDestination srcId destId ip port => trivial
  | removeDestination srcId destId => trivial
  | packet fd received => trivial
  | elapse seconds => trivial

theorem PlainStep.routesAgree {os : Os} {runtime next : Runtime}
    {event : WorkerEvent} {output : WorkerOutput} {registry : Registry}
    (step : PlainStep os runtime next event output)
    (implements : Implements runtime.worker.streams.lists registry.lookup)
    (absent : registry.lookup 0 = none)
    (keeps : KeepsRoutes os runtime registry event)
    (agree : runtime.worker.streams.RoutesAgree) :
    next.worker.streams.RoutesAgree where
  sound := step.routesSound implements (keeps.fresh step) agree.sound
  complete := step.routesComplete ((implements.none_iff 0).mpr absent)
    agree.complete

theorem PlainStep.routes_broken {os : Os} {runtime next : Runtime}
    {srcId : Int} {ip : InAddr} {port : Int} {list : StreamList}
    (step : PlainStep os runtime next (.addSource srcId ip port)
      (.added true))
    (agree : runtime.worker.streams.RoutesAgree) (nonzero : srcId ≠ 0)
    (used : runtime.worker.streams.lists srcId = some list) :
    ¬ next.worker.streams.RoutesAgree := by
  intro after
  have indexed := agree.complete srcId list nonzero used
  cases step with
  | added new free opened sockets created lists routes =>
      have source : new.getSourceSockAddr = SockAddr.ofPort ip port := by
        rw [created, StreamList.getSourceSockAddr, WorkerKind.newList_source]
        rfl
      have moved : list.getSourceSockAddr ≠ new.getSourceSockAddr := by
        intro equal
        rw [equal, source, free] at indexed
        exact nonzero indexed.symm
      have stale : next.worker.streams.routes list.getSourceSockAddr =
          srcId := by
        rw [routes, update_of_ne moved, indexed]
      obtain ⟨stored, found, atPlace⟩ := after.sound list.getSourceSockAddr
        (by rw [stale]; exact nonzero)
      rw [stale, lists, update_self] at found
      cases found
      exact moved atPlace.symm

theorem workerMachine_run_routesAgree {os : Os} {kind : WorkerKind}
    (plain : kind ≠ .rtcp) {workerId : Int} {kernel : Kernel}
    {runtime : Runtime} {registry : Registry}
    (run : (workerMachine os).Run Registry.observer (RoutedUse os)
      (Runtime.start kind workerId kernel) runtime registry) :
    Implements runtime.worker.streams.lists registry.lookup ∧
      registry.lookup 0 = none ∧ runtime.worker.streams.RoutesAgree := by
  refine workerMachine_run_plain plain
    (motive := fun runtime registry =>
      registry.lookup 0 = none ∧ runtime.worker.streams.RoutesAgree)
    ⟨Table.lookup_empty 0, StreamTables.routesAgree_empty⟩ ?_ run
  intro runtime next registry event output implements holds allowed step
  exact ⟨Registry.record_zero output allowed.1 holds.1,
    step.routesAgree implements holds.1 allowed.2 holds.2⟩

/-- The routes and lists agree in every state that a run keeping fresh
identifiers reaches, and no other step from there keeps them so. -/
theorem routesAgree_iff {os : Os} {kind : WorkerKind} (plain : kind ≠ .rtcp)
    {workerId : Int} {kernel : Kernel} {runtime : Runtime}
    {registry : Registry}
    (run : (workerMachine os).Run Registry.observer (RoutedUse os)
      (Runtime.start kind workerId kernel) runtime registry) :
    runtime.worker.streams.RoutesAgree ∧
      ∀ event next output, event.NonzeroSource →
        (workerMachine os).step runtime event = .ok (next, output) →
        (next.worker.streams.RoutesAgree ↔
          KeepsRoutes os runtime registry event) := by
  obtain ⟨implements, absent, agree⟩ := workerMachine_run_routesAgree plain run
  refine ⟨agree, ?_⟩
  intro event next output nonzero stepped
  have step := PlainStep.of_step (workerMachine_run_kind run ▸ plain) stepped
  constructor
  · intro after
    cases event with
    | addSource srcId ip port =>
        by_contra breaks
        obtain ⟨used, rest⟩ := not_or.mp breaks
        obtain ⟨unrouted, openable⟩ := not_or.mp rest
        have free := not_not.mp unrouted
        have canOpen := not_not.mp openable
        cases step with
        | rejected routed sockets lists routes => exact routed free
        | refused _ failed sockets lists routes =>
            exact (SocketState.addSocket_opens_iff os _ port).mpr canOpen
              failed
        | added list free opened sockets created lists routes =>
            obtain ⟨registration, found⟩ := Option.ne_none_iff_exists'.mp used
            obtain ⟨stored, storedFound, -⟩ := implements.stored found
            exact PlainStep.routes_broken
              (.added list free opened sockets created lists routes) agree
              nonzero storedFound after
    | removeSource srcId => trivial
    | addDestination srcId destId ip port => trivial
    | removeDestination srcId destId => trivial
    | packet fd received => trivial
    | elapse seconds => trivial
  · intro keeps
    exact step.routesAgree implements absent keeps agree

theorem routesAgree_two_sources :
    ∃ runtime registry,
      (workerMachine .orderly).Run Registry.observer (RoutedUse .orderly)
        (Runtime.start .stats 0 .fresh) runtime registry ∧
      runtime.worker.streams.RoutesAgree := by
  have fresh : (workerMachine .orderly).Run Registry.observer
      (fun _ registry event => event.NonzeroSource ∧ event.Fresh registry)
      (Runtime.start .stats 0 .fresh) _ _ :=
    .of_replay [.addSource 1 1 5000, .addSource 2 1 5002, .removeSource 1]
      (by decide)
  have run : (workerMachine .orderly).Run _ (RoutedUse .orderly) _ _ _ :=
    fresh.mono fun allowed => ⟨allowed.1, allowed.2.keepsRoutes⟩
  exact ⟨_, _, run, (routesAgree_iff (by decide) run).1⟩

/-- A second source under identifier 1 leaves the route of the first one
pointing at the list of the second. -/
theorem routesAgree_reused_id :
    ∃ runtime registry,
      (workerMachine .orderly).Run Registry.observer
        (fun _ registry event =>
          event.NonzeroSource ∧ event.Registered registry)
        (Runtime.start .forward 0 .fresh) runtime registry ∧
      ¬ runtime.worker.streams.RoutesAgree := by
  have run : (workerMachine .orderly).Run Registry.observer
      (fun _ registry event =>
        event.NonzeroSource ∧ event.Registered registry)
      (Runtime.start .forward 0 .fresh) _ _ :=
    .of_replay [.addSource 1 1 5000, .addSource 1 1 5002] (by decide)
  refine ⟨_, _, run, ?_⟩
  intro agree
  obtain ⟨list, found, address⟩ := agree.sound (SockAddr.ofPort 1 5000)
    (by decide)
  cases found
  exact absurd address (by decide)

end StrManager
