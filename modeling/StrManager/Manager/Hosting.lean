import StrManager.Manager.Serving
import StrManager.Reflector

namespace StrManager

open Library Function

/-! The manager and its workers as one reflector. -/

/-- The workers as the tenants of the descriptors of their process. -/
def descriptors :
    Tenancy Kernel (Worker × Registry) Int (Option (BitVec 16)) where
  read kernel := kernel.sockets.lookup
  Owns part := part.1.ports.Holds
  Holds kernel part := part.1.Serves kernel part.2
  inUse := by
    intro kernel part fd serves owned
    obtain ⟨port, found⟩ := owned
    rw [serves.described.bound port fd found]
    rfl
  stable := by
    intro kernel after part serves same
    exact serves.stable same

namespace Manager

structure Records (manager : Manager) (registries : Nat → Registry)
    (reflector : Reflector) : Prop where
  tied : ∀ worker srcId, ((registries worker).lookup srcId).isSome = true ↔
    manager.srcIdWorker.lookup srcId = some worker
  flows : ∀ srcId, reflector srcId =
    (manager.srcIdWorker.lookup srcId).bind fun worker =>
      ((registries worker).lookup srcId).map
        (Flow.mk (manager.workers worker).kind)

namespace Records

variable {manager next : Manager} {registries registries2 : Nat → Registry}
  {reflector reflector2 : Reflector}

theorem start (kernel : Kernel) :
    (Manager.start kernel).Records (fun _ => ∅) Reflector.observer.initial where
  tied := (Accounted.start kernel).tied
  flows := fun _ => rfl

theorem unused (records : manager.Records registries reflector) {worker : Nat}
    {srcId : Int} (unmapped : manager.srcIdWorker.lookup srcId ≠ some worker) :
    (registries worker).lookup srcId = none := by
  rw [← Option.not_isSome_iff_eq_none]
  intro used
  exact unmapped ((records.tied worker srcId).mp used)

theorem registered (records : manager.Records registries reflector)
    {worker : Nat} {srcId : Int}
    (mapped : manager.srcIdWorker.lookup srcId = some worker) :
    ∃ registration, (registries worker).lookup srcId = some registration ∧
      reflector srcId = some ⟨(manager.workers worker).kind, registration⟩ := by
  have used := (records.tied worker srcId).mpr mapped
  obtain ⟨registration, found⟩ := Option.isSome_iff_exists.mp used
  refine ⟨registration, found, ?_⟩
  rw [records.flows, mapped, Option.bind_some, found]
  rfl

theorem none_iff (records : manager.Records registries reflector)
    (srcId : Int) :
    reflector srcId = none ↔ manager.srcIdWorker.lookup srcId = none := by
  cases mapped : manager.srcIdWorker.lookup srcId with
  | none =>
      rw [records.flows, mapped]
      exact iff_of_true rfl rfl
  | some worker =>
      obtain ⟨registration, -, found⟩ := records.registered mapped
      rw [found]
      exact iff_of_false (by simp) (by simp)

theorem home (records : manager.Records registries reflector) {srcId : Int}
    {flow : Flow} (found : reflector srcId = some flow) :
    ∃ worker, manager.srcIdWorker.lookup srcId = some worker ∧
      (registries worker).lookup srcId = some flow.registration ∧
      flow.kind = (manager.workers worker).kind := by
  rw [records.flows, Option.bind_eq_some_iff] at found
  obtain ⟨worker, mapped, registered⟩ := found
  rw [Option.map_eq_some_iff] at registered
  obtain ⟨registration, held, rfl⟩ := registered
  exact ⟨worker, mapped, held, rfl⟩

theorem set (records : manager.Records registries reflector) (worker : Nat)
    (srcId : Int) (value : Option Registration)
    (sources : next.srcIdWorker.lookup = update manager.srcIdWorker.lookup
      srcId (value.map fun _ => worker))
    (reflected : reflector2 = update reflector srcId
      (value.map (Flow.mk (next.workers worker).kind)))
    (kinds : ∀ other server, manager.srcIdWorker.lookup other = some server →
      (next.workers server).kind = (manager.workers server).kind)
    (serves : (registries2 worker).lookup =
      update (registries worker).lookup srcId value)
    (others : ∀ server, server ≠ worker →
      registries2 server = registries server)
    (alone : ∀ server, server ≠ worker →
      (registries server).lookup srcId = none) :
    next.Records registries2 reflector2 where
  tied := by
    intro server other
    rw [sources]
    rcases eq_or_ne other srcId with rfl | different
    · rw [update_self]
      rcases eq_or_ne server worker with rfl | elsewhere
      · rw [serves, update_self]
        cases value <;> simp
      · rw [others server elsewhere, alone server elsewhere]
        cases value <;> simp [elsewhere.symm]
    · rw [update_of_ne different, ← records.tied server other]
      rcases eq_or_ne server worker with rfl | elsewhere
      · rw [serves, update_of_ne different]
      · rw [others server elsewhere]
  flows := by
    intro other
    rw [sources, reflected]
    rcases eq_or_ne other srcId with rfl | different
    · rw [update_self, update_self]
      cases value with
      | none => rfl
      | some registration =>
          rw [Option.map_some, Option.map_some, Option.bind_some, serves,
            update_self]
          rfl
    · rw [update_of_ne different, update_of_ne different, records.flows]
      cases mapped : manager.srcIdWorker.lookup other with
      | none => rfl
      | some server =>
          rw [Option.bind_some, Option.bind_some, kinds other server mapped]
          rcases eq_or_ne server worker with rfl | elsewhere
          · rw [serves, update_of_ne different]
          · rw [others server elsewhere]

theorem keep (records : manager.Records registries reflector)
    (sources : next.srcIdWorker = manager.srcIdWorker)
    (kinds : ∀ other server, manager.srcIdWorker.lookup other = some server →
      (next.workers server).kind = (manager.workers server).kind) :
    next.Records registries reflector where
  tied := by
    rw [sources]
    exact records.tied
  flows := by
    intro srcId
    rw [sources, records.flows]
    cases mapped : manager.srcIdWorker.lookup srcId with
    | none => rfl
    | some server =>
        rw [Option.bind_some, Option.bind_some, kinds srcId server mapped]

end Records

/-- The workers serve what the reflector has, over descriptors of their own,
and no port is open twice. -/
structure Hosts (manager : Manager) (registries : Nat → Registry)
    (reflector : Reflector) : Prop extends Filed manager,
    Records manager registries reflector where
  shared : descriptors.Shared manager.kernel fun worker =>
    (manager.workers worker, registries worker)
  unique : manager.kernel.OnePerPort

namespace Hosts

variable {manager next : Manager} {registries : Nat → Registry}
  {reflector : Reflector}

theorem start {kernel : Kernel} (unique : kernel.OnePerPort) :
    (Manager.start kernel).Hosts (fun _ => ∅) Reflector.observer.initial where
  toFiled := .start kernel
  toRecords := .start kernel
  shared := by
    constructor
    · intro worker
      exact Worker.Serves.create (-1) Table.lookup_empty
    · intro first second fd owned
      obtain ⟨port, found⟩ := owned
      cases found
  unique := unique

theorem serves (hosts : manager.Hosts registries reflector) (worker : Nat) :
    (manager.workers worker).Serves manager.kernel (registries worker) :=
  hosts.shared.holds worker

theorem shared_put (hosts : manager.Hosts registries reflector)
    {worker : Nat} {runtime : Runtime} {registry : Registry}
    (serves : runtime.worker.Serves runtime.kernel registry)
    (moves : (manager.runtime worker).sockets.Moves runtime.sockets) :
    descriptors.Shared (manager.put worker runtime).kernel fun other =>
      ((manager.put worker runtime).workers other,
        update registries worker registry other) := by
  refine hosts.shared.move worker ?_ ?_ ?_
  · rw [put_workers, update_self, update_self]
    exact moves
  · rw [put_workers, update_self, update_self]
    exact serves
  · intro other different
    rw [put_workers, update_of_ne different, update_of_ne different]

theorem chosen (hosts : manager.Hosts registries reflector) {workerType : Int}
    {worker : Nat} {middle : Manager}
    (chosen : manager.Chosen workerType worker middle) :
    middle.Hosts registries reflector := by
  cases chosen with
  | found key entry sameType => exact hosts
  | created kind absent supported =>
      have unused : ∀ srcId,
          (registries manager.allocated).lookup srcId = none := by
        intro srcId
        apply hosts.unused
        intro mapped
        exact lt_irrefl _ (hosts.sources srcId _ mapped)
      refine ⟨hosts.toFiled.shrink (.create manager kind)
        ⟨fun _ _ => id, fun _ _ => id⟩, ?_, ?_, hosts.unique⟩
      · refine hosts.toRecords.keep rfl ?_
        intro other server mapped
        have below := hosts.sources other server mapped
        rw [create_workers, update_of_ne below.ne]
      · refine hosts.shared.move manager.allocated ?_ ?_ ?_
        · apply Tenancy.Moves.of_same rfl
          intro fd owned
          rw [create_workers, update_self] at owned
          obtain ⟨port, found⟩ := owned
          cases found
        · rw [create_workers, update_self]
          exact .create _ unused
        · intro other different
          rw [create_workers, update_of_ne different]

end Hosts

theorem Chosen.kernel {manager middle : Manager} {workerType : Int}
    {worker : Nat} (chosen : manager.Chosen workerType worker middle) :
    middle.kernel = manager.kernel := by
  cases chosen with
  | found key entry sameType => rfl
  | created kind absent supported => rfl

theorem Chosen.ofType {manager middle : Manager} {workerType : Int}
    {worker : Nat} (chosen : manager.Chosen workerType worker middle) :
    WorkerKind.ofType workerType = some (middle.workers worker).kind := by
  cases chosen with
  | found key entry sameType =>
      rw [← sameType]
      exact WorkerKind.ofType_workerType _
  | created kind absent supported =>
      rw [create_workers, update_self]
      exact supported

end Manager

namespace ManagerEvent

/-- A source is added under a new identifier other than 0, on a port from 1 to
65535, and for RTCP with an even identifier on an even port. An RTCP worker that
is refused the pair 65534 asks for port 65536, which is port 0. -/
def Fits (reflector : Reflector) : ManagerEvent → Prop
  | .addSource workerType srcId _ port =>
      reflector srcId = none ∧ srcId ≠ 0 ∧ 1 ≤ port ∧ port ≤ 65535 ∧
        (workerType = WorkerKind.rtcp.workerType →
          srcId % 2 = 0 ∧ port % 2 = 0 ∧ port ≤ 65532)
  | _ => True

def Polled (manager : Manager) : ManagerEvent → Prop
  | .packet worker fd _ => (manager.workers worker).polls fd = true
  | _ => True

instance (reflector : Reflector) (event : ManagerEvent) :
    Decidable (event.Fits reflector) :=
  match event with
  | .addSource _ _ _ _ => inferInstanceAs (Decidable (_ ∧ _ ∧ _ ∧ _ ∧ (_ → _)))
  | .removeSource _ | .addDestination _ _ _ _ | .removeDestination _ _
  | .readTimeStamp _ | .handleMessage | .packet _ _ _ | .selectTimeout _
  | .elapse _ => isTrue trivial

instance (manager : Manager) (event : ManagerEvent) :
    Decidable (event.Polled manager) :=
  match event with
  | .packet _ _ _ => inferInstanceAs (Decidable (_ = true))
  | .addSource _ _ _ _ | .removeSource _ | .addDestination _ _ _ _
  | .removeDestination _ _ | .readTimeStamp _ | .handleMessage
  | .selectTimeout _ | .elapse _ => isTrue trivial

theorem Fits.call {reflector : Reflector} {workerType srcId : Int}
    {ip : InAddr} {port : Int} {kind : WorkerKind} {registry : Registry}
    (fits : (ManagerEvent.addSource workerType srcId ip port).Fits reflector)
    (supported : WorkerKind.ofType workerType = some kind)
    (unused : registry.lookup srcId = none) :
    (WorkerEvent.addSource srcId ip port).Fits kind registry := by
  obtain ⟨-, nonzero, low, high, even⟩ := fits
  refine ⟨nonzero, unused, low, high, ?_⟩
  rintro rfl
  exact even (WorkerKind.workerType_of_ofType supported).symm

end ManagerEvent

namespace Manager.Hosts

variable {os : Os} {maxWorkers : Int} {manager next : Manager}
  {registries : Nat → Registry} {reflector : Reflector}

theorem kinds (hosts : manager.Hosts registries reflector)
    (keeps : manager.Keeps next) (other : Int) (server : Nat)
    (mapped : manager.srcIdWorker.lookup other = some server) :
    (next.workers server).kind = (manager.workers server).kind :=
  (keeps.same server (hosts.sources other server mapped)).1

theorem kept (hosts : manager.Hosts registries reflector) (filed : next.Filed)
    (keeps : manager.Keeps next) {worker : Nat} {runtime : Runtime}
    (put : next = manager.put worker runtime)
    (serves : runtime.worker.Serves runtime.kernel (registries worker))
    (moves : (manager.runtime worker).sockets.Moves runtime.sockets)
    (unique : runtime.kernel.OnePerPort) :
    next.Hosts registries reflector where
  toFiled := filed
  toRecords := hosts.toRecords.keep (by rw [put]; rfl) (hosts.kinds keeps)
  shared := by
    have shared := hosts.shared_put serves moves
    rw [update_eq_self] at shared
    rwa [put]
  unique := by rwa [put]

end Manager.Hosts

end StrManager
