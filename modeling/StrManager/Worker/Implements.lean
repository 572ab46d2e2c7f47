import StrManager.Worker.Events

namespace StrManager

open Library Function

/-! The lists of a worker with one list per source, seen as a registry. -/

def StreamList.registration (list : StreamList) : Registration where
  addr := list.getSourceSockAddr
  destinations := list.destinations

theorem StreamList.registration_addDestination (list : StreamList)
    (stream : UdpStream) :
    (list.addDestination stream).2.registration =
      list.registration.addDestination stream := by
  unfold StreamList.addDestination Registration.addDestination
  cases known : list.existDestination stream.id with
  | true =>
      have member := (list.existDestination_iff stream.id).mp known
      exact (if_pos member).symm
  | false =>
      have absent : stream.id ∉ list.registration.destinations.map
          UdpStream.id := by
        intro member
        rw [(list.existDestination_iff stream.id).mpr member] at known
        cases known
      rw [if_neg absent]
      rfl

theorem StreamList.registration_eraseFound {list : StreamList}
    (keyed : list.Keyed) (destId : Int) :
    (list.eraseFound destId).registration =
      list.registration.removeDestination destId := by
  rw [keyed.eraseFound_eq]
  rfl

theorem StreamList.getSourcePort_eq (list : StreamList) :
    list.getSourcePort = list.registration.port := rfl

structure Implements (lists : Int → Option StreamList)
    (view : Int → Option Registration) : Prop where
  view : ∀ listId, (lists listId).map StreamList.registration = view listId
  keyed : ∀ listId list, lists listId = some list → list.Keyed

namespace Implements

variable {lists : Int → Option StreamList} {view : Int → Option Registration}

theorem of_empty :
    Implements StreamTables.empty.lists (∅ : Registry).lookup where
  view := by simp
  keyed := by simp

theorem registered (implements : Implements lists view) {listId : Int}
    {list : StreamList} (found : lists listId = some list) :
    view listId = some list.registration := by
  rw [← implements.view, found]
  rfl

theorem stored (implements : Implements lists view) {listId : Int}
    {registration : Registration} (found : view listId = some registration) :
    ∃ list, lists listId = some list ∧ list.registration = registration := by
  rw [← implements.view] at found
  exact Option.map_eq_some_iff.mp found

theorem none_iff (implements : Implements lists view) (listId : Int) :
    lists listId = none ↔ view listId = none := by
  rw [← implements.view, Option.map_eq_none_iff]

theorem update (implements : Implements lists view) {listId : Int}
    {value : Option StreamList}
    (keyed : ∀ list, value = some list → list.Keyed) :
    Implements (update lists listId value)
      (update view listId (value.map StreamList.registration)) where
  view := by
    intro other
    rcases eq_or_ne other listId with rfl | different
    · rw [update_self, update_self]
    · rw [update_of_ne different, update_of_ne different, implements.view]
  keyed := by
    intro other list found
    rcases eq_or_ne other listId with rfl | different
    · rw [update_self] at found
      exact keyed list found
    · rw [update_of_ne different] at found
      exact implements.keyed other list found

theorem insert (implements : Implements lists view) {listId : Int}
    {list : StreamList} {registration : Registration} (keyed : list.Keyed)
    (described : list.registration = registration) :
    Implements (Function.update lists listId (some list))
      (Function.update view listId (some registration)) := by
  subst described
  refine implements.update ?_
  intro stored equal
  cases equal
  exact keyed

theorem remove (implements : Implements lists view) (listId : Int) :
    Implements (Function.update lists listId none)
      (Function.update view listId none) :=
  implements.update (by simp)

theorem modify (implements : Implements lists view) {listId : Int}
    {before after : StreamList} (found : lists listId = some before)
    (source : after.source = before.source)
    (destinations : after.destinations = before.destinations) :
    Implements (Function.update lists listId (some after)) view := by
  have registration : after.registration = before.registration := by
    simp [StreamList.registration, StreamList.getSourceSockAddr, source,
      destinations]
  have keyed : after.Keyed := by
    have before := implements.keyed listId before found
    rwa [StreamList.Keyed, destinations]
  have changed : Implements (Function.update lists listId _) _ :=
    implements.insert keyed registration
  rwa [← implements.registered found, update_eq_self] at changed

end Implements

theorem Registry.lookup_change_of_lookup {registry : Registry} {srcId : Int}
    {registration : Registration} (edit : Registration → Registration)
    (found : registry.lookup srcId = some registration) :
    (registry.change srcId edit).lookup =
      update registry.lookup srcId (some (edit registration)) := by
  rw [change_of_lookup edit found]
  exact Table.lookup_insert_eq_update registry srcId _

theorem Worker.DestinationStep.implements {runtime next : Runtime}
    {srcId : Int} {before after : StreamList} {registry : Registry}
    {edit : Registration → Registration}
    (changed : Worker.DestinationStep runtime next srcId before after)
    (implements : Implements runtime.worker.streams.lists registry.lookup)
    (edited : after.registration = edit before.registration)
    (keyed : after.Keyed) :
    Implements next.worker.streams.lists
      (registry.change srcId edit).lookup := by
  rw [Registry.lookup_change_of_lookup edit
    (implements.registered changed.found), changed.lists]
  exact implements.insert keyed edited

theorem PlainStep.implements {os : Os} {runtime next : Runtime}
    {event : WorkerEvent} {output : WorkerOutput} {registry : Registry}
    (step : PlainStep os runtime next event output)
    (implements : Implements runtime.worker.streams.lists registry.lookup) :
    Implements next.worker.streams.lists
      (registry.record event output).lookup := by
  cases step with
  | rejected routed sockets lists routes =>
      rw [lists]
      exact implements
  | refused free failed sockets lists routes =>
      rw [lists]
      exact implements
  | @added srcId ip port list free opened sockets created lists routes =>
      have destinations : list.destinations = [] := by
        rw [created, WorkerKind.newList_destinations]
      have registration : list.registration =
          ⟨SockAddr.ofPort ip port, []⟩ := by
        rw [StreamList.registration, destinations, created,
          StreamList.getSourceSockAddr, WorkerKind.newList_source]
        rfl
      change Implements _ (registry.addSource srcId _).lookup
      rw [lists, Registry.addSource, Table.lookup_insert_eq_update]
      refine implements.insert ?_ registration
      simp [StreamList.Keyed, destinations]
  | @removed srcId messages list found sockets lists routes =>
      change Implements _ (registry.removeSource srcId).lookup
      rw [lists, Registry.removeSource, Table.lookup_erase_eq_update]
      exact implements.remove srcId
  | addedDestination list changed =>
      exact changed.implements implements
        (list.registration_addDestination _)
        (StreamList.addDestination_keyed
          (implements.keyed _ list changed.found) _)
  | @removedDestination srcId destId list after changed filtered =>
      have keyed := implements.keyed _ list changed.found
      have kept : after = list.eraseFound destId :=
        (filtered keyed).trans (keyed.eraseFound_eq destId).symm
      subst kept
      exact changed.implements implements
        (StreamList.registration_eraseFound keyed destId)
        (keyed.eraseFound destId)
  | packet noted =>
      change Implements _ registry.lookup
      rcases noted.lists with
        lists | ⟨listId, list, after, found, lists, source, destinations, -⟩
      · rw [lists]
        exact implements
      · rw [lists]
        exact implements.modify found source destinations
  | elapsed elapse =>
      subst elapse
      exact implements

/-- What every step of a worker with one list per source preserves holds along
its runs, where the lists implement the registry of the accepted calls. -/
theorem workerMachine_run_plain {os : Os} {kind : WorkerKind}
    (plain : kind ≠ .rtcp) {workerId : Int} {kernel : Kernel}
    {Allowed : Runtime → Registry → WorkerEvent → Prop}
    {motive : Runtime → Registry → Prop}
    (initially : motive (Runtime.start kind workerId kernel) ∅)
    (preserved : ∀ {runtime next registry event output},
      Implements runtime.worker.streams.lists registry.lookup →
      motive runtime registry → Allowed runtime registry event →
      PlainStep os runtime next event output →
      motive next (registry.record event output))
    {runtime : Runtime} {registry : Registry}
    (run : (workerMachine os).Run Registry.observer Allowed
      (Runtime.start kind workerId kernel) runtime registry) :
    Implements runtime.worker.streams.lists registry.lookup ∧
      motive runtime registry := by
  refine run.invariant_of (fun run => workerMachine_run_kind run)
    (motive := fun runtime registry =>
      Implements runtime.worker.streams.lists registry.lookup ∧
        motive runtime registry)
    ⟨Implements.of_empty, initially⟩ ?_
  intro runtime next registry event output sameKind holds allowed stepped
  have step := PlainStep.of_step (sameKind ▸ plain) stepped
  exact ⟨step.implements holds.1, preserved holds.1 holds.2 allowed step⟩

theorem workerMachine_run_implements {os : Os} {kind : WorkerKind}
    (plain : kind ≠ .rtcp) {workerId : Int} {kernel : Kernel}
    {Allowed : Runtime → Registry → WorkerEvent → Prop}
    {runtime : Runtime} {registry : Registry}
    (run : (workerMachine os).Run Registry.observer Allowed
      (Runtime.start kind workerId kernel) runtime registry) :
    Implements runtime.worker.streams.lists registry.lookup :=
  (workerMachine_run_plain plain (motive := fun _ _ => True) trivial
    (fun _ _ _ _ => trivial) run).1

end StrManager
