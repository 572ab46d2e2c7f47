import StrManager.Manager.Changes
import StrManager.Rtcp.Rejected

namespace StrManager

open Library Function

/-! What an `addSource` call that fails leaves behind. -/

def Kernel.SameBound (before after : Kernel) : Prop :=
  ∀ fd port, after.sockets.lookup fd = some (some port) ↔
    before.sockets.lookup fd = some (some port)

theorem initSocket_sameBound_iff (os : Os) (kernel : Kernel) (port : Int) :
    kernel.SameBound (initSocket os kernel port).2 ↔
      (initSocket os kernel port).1 = -1 := by
  cases answered : os.socket kernel with
  | none =>
      rw [initSocket_denied answered]
      exact iff_of_true (fun _ _ => Iff.rfl) rfl
  | some fd =>
      obtain ⟨valid, fresh⟩ := os.socket_fresh answered
      by_cases granted : ∃ fd, os.Grants kernel port fd
      · obtain ⟨other, grants⟩ := granted
        have same : other = fd := Option.some.inj (grants.1.symm.trans answered)
        subst same
        rw [initSocket_granted grants]
        refine iff_of_false ?_ (by omega)
        intro sameBound
        have found := (sameBound other (htons port)).mp
          (by simp [Kernel.granted, Kernel.bound, Table.lookup_insert])
        rw [fresh] at found
        cases found
      · rw [initSocket_unbound answered granted]
        refine iff_of_true ?_ rfl
        intro other bound
        by_cases here : other = fd
        · simp [Kernel.opened, Table.lookup_insert, here, fresh]
        · simp [Kernel.opened, Table.lookup_insert, here]

def initEach (os : Os) (kernel : Kernel) (ports : List Int) : Kernel :=
  ports.foldl (fun kernel port => (initSocket os kernel port).2) kernel

theorem initEach_frame {os : Os} {fd : Int} {bound : Option (BitVec 16)}
    (ports : List Int) {kernel : Kernel}
    (found : kernel.sockets.lookup fd = some bound) :
    (initEach os kernel ports).sockets.lookup fd = some bound := by
  induction ports generalizing kernel with
  | nil => exact found
  | cons port rest induction => exact induction (initSocket_frame port found)

namespace Os

def RefusesEach (os : Os) : Kernel → List Int → Prop
  | _, [] => True
  | kernel, port :: rest =>
      (initSocket os kernel port).1 = -1 ∧
        os.RefusesEach (initSocket os kernel port).2 rest

instance decidableRefusesEach (os : Os) :
    (kernel : Kernel) → (ports : List Int) →
      Decidable (os.RefusesEach kernel ports)
  | _, [] => isTrue trivial
  | kernel, port :: rest =>
      have := os.decidableRefusesEach (initSocket os kernel port).2 rest
      inferInstanceAs (Decidable (_ ∧ _))

end Os

/-- A bound descriptor stays, so calls bind none together exactly when each of
them fails. -/
theorem initEach_sameBound_iff (os : Os) (ports : List Int) (kernel : Kernel) :
    kernel.SameBound (initEach os kernel ports) ↔
      os.RefusesEach kernel ports := by
  induction ports generalizing kernel with
  | nil => exact iff_of_true (fun _ _ => Iff.rfl) trivial
  | cons port rest induction =>
      change _ ↔ _ ∧ _
      rw [← initSocket_sameBound_iff, ← induction]
      constructor
      · intro sameBound
        constructor
        · intro fd bound
          constructor
          · intro found
            exact (sameBound fd bound).mp (initEach_frame rest found)
          · exact initSocket_frame port
        · intro fd bound
          constructor
          · intro found
            exact initSocket_frame port ((sameBound fd bound).mp found)
          · exact initEach_frame rest
      · intro both fd bound
        exact (both.2 fd bound).trans (both.1 fd bound)

/-- The port tables are the same, with a count of zero like no count, and so
are the descriptors that are bound. -/
structure SocketState.Unaffected (before after : SocketState) : Prop where
  portFd : after.ports.portFd = before.ports.portFd
  fdPort : after.ports.fdPort = before.ports.fdPort
  listeners : after.ports.listeners = before.ports.listeners
  bound : before.kernel.SameBound after.kernel

theorem SocketState.Unaffected.refl (state : SocketState) :
    Unaffected state state :=
  ⟨rfl, rfl, rfl, fun _ _ => Iff.rfl⟩

theorem SocketState.addSocket_unaffected {os : Os} {state : SocketState}
    {port : Int} (failed : (addSocket os state port).1 = -1) :
    Unaffected state (addSocket os state port).2 := by
  rcases addSocket_cases os state port with
    ⟨-, result⟩ | ⟨-, refused, result⟩ | ⟨-, opened, result⟩
  · rw [result] at failed
    cases failed
  · rw [result]
    refine ⟨rfl, rfl, PortTables.listeners_readListener _ _, ?_⟩
    exact (initSocket_sameBound_iff os state.kernel port).mpr refused
  · rw [result] at failed
    exact absurd failed (by simp)

namespace RtcpWorker

def RefusesPair (os : Os) (state : SocketState) (port : Int) : Prop :=
  state.ports.listeners port = 0 ∧ state.ports.listeners (port + 1) = 0 ∧
    os.RefusesEach state.kernel [port, port + 1, port + 1, port + 1 + 1]

instance (os : Os) (state : SocketState) (port : Int) :
    Decidable (RefusesPair os state port) :=
  inferInstanceAs (Decidable (_ ∧ _ ∧ _))

theorem addSocket_idle {os : Os} {state : SocketState} {port : Int}
    (kept : (addSocket os state port).2.ports.listeners port =
      state.ports.listeners port) :
    state.ports.listeners port = 0 ∧
      addSocket os state port = (-1, ⟨initEach os state.kernel
        [port, port + 1], state.ports.readListener port⟩) := by
  rcases addSocket_cases os state port with
    ⟨-, result⟩ | ⟨idle, -, result⟩ | ⟨idle, -, -, result⟩
  · rw [result] at kept
    simp at kept
  · exact ⟨idle, result⟩
  · rw [result, PortTables.listeners_register, update_of_ne (by omega),
      PortTables.listeners_register, update_self, idle] at kept
    cases kept

theorem addSocket_of_refused {os : Os} {state : SocketState} {port : Int}
    (idle : state.ports.listeners port = 0)
    (refused : (initSocket os state.kernel port).1 = -1) :
    addSocket os state port = (-1, ⟨initEach os state.kernel
      [port, port + 1], state.ports.readListener port⟩) := by
  rcases addSocket_cases os state port with
    ⟨counted, -⟩ | ⟨-, -, result⟩ | ⟨-, opened, -⟩
  · exact absurd idle counted
  · exact result
  · exact absurd refused opened

theorem addSocketPair_unaffected_iff (os : Os) (state : SocketState)
    (port : Int) :
    state.Unaffected (addSocketPair os state port).2 ↔
      RefusesPair os state port := by
  change state.Unaffected
    (addSocket os (addSocket os state port).2 (port + 1)).2 ↔ _
  constructor
  · intro unaffected
    have kept := congrFun unaffected.listeners port
    rw [addSocket_listeners_below] at kept
    obtain ⟨idle, result⟩ := addSocket_idle kept
    rw [result] at unaffected
    have kept2 := congrFun unaffected.listeners (port + 1)
    rw [← PortTables.listeners_readListener state.ports port] at kept2
    obtain ⟨idle2, result2⟩ := addSocket_idle kept2
    rw [PortTables.listeners_readListener] at idle2
    rw [result2] at unaffected
    exact ⟨idle, idle2,
      (initEach_sameBound_iff os _ state.kernel).mp unaffected.bound⟩
  · intro refuses
    obtain ⟨idle, idle2, refused⟩ := refuses
    have bound := (initEach_sameBound_iff os _ state.kernel).mpr refused
    rw [addSocket_of_refused idle refused.1,
      addSocket_of_refused (by rwa [PortTables.listeners_readListener])
        refused.2.2.1]
    refine ⟨rfl, rfl, ?_, bound⟩
    rw [PortTables.listeners_readListener, PortTables.listeners_readListener]

end RtcpWorker

structure Runtime.Unaffected (before after : Runtime) : Prop where
  lists : after.worker.streams.lists = before.worker.streams.lists
  routes : after.worker.streams.routes = before.worker.streams.routes
  sockets : before.sockets.Unaffected after.sockets

/-- The worker turns the source down without counting or opening a port: it is
no RTCP worker, or has a route for an address of the source, or is refused every
socket of an uncounted pair. -/
def Runtime.FailsCleanly (os : Os) (runtime : Runtime) (ip : InAddr)
    (port : Int) : Prop :=
  runtime.worker.kind ≠ .rtcp ∨
  runtime.worker.streams.routes (SockAddr.ofPort ip port) ≠ 0 ∨
  runtime.worker.streams.routes (SockAddr.ofPort ip (port + 1)) ≠ 0 ∨
  RtcpWorker.RefusesPair os runtime.sockets port

instance (os : Os) (runtime : Runtime) (ip : InAddr) (port : Int) :
    Decidable (runtime.FailsCleanly os ip port) :=
  inferInstanceAs (Decidable (_ ∨ _ ∨ _ ∨ _))

namespace Runtime

variable {os : Os} {runtime next : Runtime} {srcId : Int} {ip : InAddr}
  {port : Int}

theorem Unaffected.refl (runtime : Runtime) : runtime.Unaffected runtime :=
  ⟨rfl, rfl, .refl _⟩

theorem unaffected_iff
    (rejected : runtime.step os (.addSource srcId ip port) =
      .ok (next, .added false)) :
    runtime.Unaffected next ↔ runtime.FailsCleanly os ip port := by
  rcases eq_or_ne runtime.worker.kind .rtcp with rtcp | plain
  · cases RtcpStep.of_step rtcp rejected with
    | rejected routed sockets lists routes =>
        refine iff_of_true ⟨lists, routes, ?_⟩ (.inr ?_)
        · rw [sockets]
          exact .refl _
        · rcases routed with routed | routed2
          · exact .inl routed
          · exact .inr (.inl routed2)
    | refused free free2 failed sockets lists routes =>
        have pair := RtcpWorker.addSocketPair_unaffected_iff os
          runtime.sockets port
        rw [← sockets] at pair
        constructor
        · intro unaffected
          exact .inr (.inr (.inr (pair.mp unaffected.sockets)))
        · rintro (plain | routed | routed2 | refuses)
          · exact absurd rtcp plain
          · exact absurd free routed
          · exact absurd free2 routed2
          · exact ⟨lists, routes, pair.mpr refuses⟩
  · refine iff_of_true ?_ (.inl plain)
    cases PlainStep.of_step plain rejected with
    | rejected routed sockets lists routes =>
        refine ⟨lists, routes, ?_⟩
        rw [sockets]
        exact .refl _
    | refused free failed sockets lists routes =>
        refine ⟨lists, routes, ?_⟩
        rw [sockets]
        exact SocketState.addSocket_unaffected failed

end Runtime

namespace Manager

def Running (manager : Manager) (worker : Nat) : Prop :=
  worker < manager.allocated ∧ (manager.workers worker).working = true

/-- The tables of the manager, its workers with their sockets, and the threads
that run are what they were. -/
structure NoEffect (manager next : Manager) : Prop where
  sources : next.srcIdWorker = manager.srcIdWorker
  pool : next.workerIdWorker = manager.workerIdWorker
  currentWorkerId : next.currentWorkerId = manager.currentWorkerId
  workers : ∀ worker < manager.allocated,
    (manager.runtime worker).Unaffected (next.runtime worker)
  bound : manager.kernel.SameBound next.kernel
  running : ∀ worker, next.Running worker ↔ manager.Running worker

/-- No class has the worker type, or the pool has a worker of the type that
turns the source down without a trace. -/
def FailsCleanly (os : Os) (manager : Manager) (workerType : Int)
    (ip : InAddr) (port : Int) : Prop :=
  WorkerKind.ofType workerType = none ∨
  ∃ key worker, manager.workerIdWorker.lookup key = some worker ∧
    (manager.workers worker).getWorkerType = workerType ∧
    (manager.runtime worker).FailsCleanly os ip port

theorem NoEffect.refl (manager : Manager) : manager.NoEffect manager where
  sources := rfl
  pool := rfl
  currentWorkerId := rfl
  workers := fun _ _ => .refl _
  bound := fun _ _ => Iff.rfl
  running := fun _ => Iff.rfl

theorem noEffect_put_iff {manager : Manager} {worker : Nat} {runtime : Runtime}
    (below : worker < manager.allocated)
    (working : runtime.worker.working = (manager.workers worker).working) :
    manager.NoEffect (manager.put worker runtime) ↔
      (manager.runtime worker).Unaffected runtime := by
  have put : (manager.put worker runtime).runtime worker = runtime := by
    rw [Manager.runtime, put_workers, update_self]
    rfl
  constructor
  · intro noEffect
    have unaffected := noEffect.workers worker below
    rwa [put] at unaffected
  · intro unaffected
    refine ⟨rfl, rfl, rfl, ?_, unaffected.sockets.bound, ?_⟩
    · intro other _
      rcases eq_or_ne other worker with rfl | different
      · rwa [put]
      · have same : (manager.put worker runtime).workers other =
            manager.workers other := update_of_ne different _ _
        constructor
        · exact congrArg (fun worker : Worker => worker.streams.lists) same
        · exact congrArg (fun worker : Worker => worker.streams.routes) same
        · exact ⟨congrArg (fun worker : Worker => worker.ports.portFd) same,
            congrArg (fun worker : Worker => worker.ports.fdPort) same,
            congrArg (fun worker : Worker => worker.ports.listeners) same,
            unaffected.sockets.bound⟩
    · intro other
      change _ ∧ _ ↔ _ ∧ _
      rw [put_workers, update_apply]
      split
      · rename_i same
        rw [same, working]
        rfl
      · rfl

theorem failsCleanly_iff {os : Os} {manager : Manager} (filed : manager.Filed)
    {workerType key : Int} {worker : Nat}
    (entry : manager.workerIdWorker.lookup key = some worker)
    (sameType : (manager.workers worker).getWorkerType = workerType)
    (ip : InAddr) (port : Int) :
    manager.FailsCleanly os workerType ip port ↔
      (manager.runtime worker).FailsCleanly os ip port := by
  constructor
  · rintro (unsupported | ⟨key2, other, entry2, sameType2, cleanly⟩)
    · rw [← sameType, Worker.getWorkerType,
        WorkerKind.ofType_workerType] at unsupported
      cases unsupported
    · have same := filed.single key2 key other worker entry2 entry
        (sameType2.trans sameType.symm)
      rwa [same] at cleanly
  · intro cleanly
    exact .inr ⟨key, worker, entry, sameType, cleanly⟩

theorem created_effect {os : Os} {manager : Manager} {kind : WorkerKind}
    {runtime : Runtime} {srcId : Int} {ip : InAddr} {port : Int}
    {accepted : Bool}
    (called : ((manager.create kind).runtime manager.allocated).step os
      (.addSource srcId ip port) = .ok (runtime, .added accepted)) :
    ¬ manager.NoEffect ((manager.create kind).put manager.allocated runtime) := by
  intro noEffect
  obtain ⟨-, working⟩ := Runtime.step_addSource called
  have launched : ((manager.create kind).workers manager.allocated).working =
      true := by
    rw [create_workers, update_self]
    rfl
  have running := (noEffect.running manager.allocated).mp
    ⟨Nat.lt_succ_self _, by
      rw [put_workers, update_self, working]
      exact launched⟩
  exact absurd running.1 (lt_irrefl _)

end Manager

/-- In every reachable state a call that fails has no effect exactly when no
class has the worker type, or a worker of the pool turns the source down without
counting or opening a port. -/
theorem failed_noEffect_iff {os : Os} {maxWorkers : Int} {kernel : Kernel}
    {manager : Manager}
    (run : (managerMachine os maxWorkers).Run Observer.none
      (fun _ _ _ => True) (Manager.start kernel) manager ()) :
    ∀ workerType srcId ip port next server,
      (managerMachine os maxWorkers).step manager
        (.addSource workerType srcId ip port) =
          .ok (next, .returned (-1) server) →
      (manager.NoEffect next ↔
        manager.FailsCleanly os workerType ip port) := by
  intro workerType srcId ip port next server failed
  have filed := managerMachine_run_filed run
  have step : ManagerStep os maxWorkers manager next
      (.addSource workerType srcId ip port) (.returned (-1) server) :=
    .of_step failed
  cases step with
  | unsupported unknownType same =>
      subst same
      exact iff_of_true (.refl next) (.inl unknownType)
  | @rejected _ _ _ _ worker middle runtime chosen called put =>
      subst put
      cases chosen with
      | found key entry sameType =>
          obtain ⟨-, working⟩ := Runtime.step_addSource called
          rw [Manager.failsCleanly_iff filed entry sameType,
            Manager.noEffect_put_iff (filed.pool key worker entry) working]
          exact Runtime.unaffected_iff called
      | created kind absent supported =>
          refine iff_of_false (Manager.created_effect called) ?_
          rintro (unsupported | ⟨key, other, entry, sameType, -⟩)
          · rw [supported] at unsupported
            cases unsupported
          · exact absent key other entry sameType
  | unknown names missing same unserved => cases names

/-- A worker turns down a second source with the same address. -/
theorem failed_noEffect_routed :
    ∃ manager next,
      (managerMachine .orderly 4).Run Observer.none (fun _ _ _ => True)
        (Manager.start .fresh) manager () ∧
      (managerMachine .orderly 4).step manager (.addSource 4 3 1 4999) =
        .ok (next, .returned (-1) (some 0)) ∧
      manager.NoEffect next := by
  have run : (managerMachine .orderly 4).Run Observer.none (fun _ _ _ => True)
      (Manager.start .fresh) _ _ :=
    .of_replay [.addSource 4 1 1 5000] (by decide)
  refine ⟨_, _, run, rfl, ?_⟩
  exact (failed_noEffect_iff run 4 3 1 4999 _ (some 0) rfl).mpr
    (.inr ⟨0, 0, rfl, rfl, by decide⟩)

/-- The first source of a type, on a port that is taken, leaves the thread of a
worker running that the pool does not have. -/
theorem failed_effect :
    ∃ manager next,
      (managerMachine .orderly 4).Run Observer.none (fun _ _ _ => True)
        (Manager.start .fresh) manager () ∧
      (managerMachine .orderly 4).step manager (.addSource 2 2 1 5000) =
        .ok (next, .returned (-1) (some 1)) ∧
      ¬ manager.NoEffect next := by
  have run : (managerMachine .orderly 4).Run Observer.none (fun _ _ _ => True)
      (Manager.start .fresh) _ _ :=
    .of_replay [.addSource 1 1 1 5000] (by decide)
  refine ⟨_, _, run, rfl, ?_⟩
  intro noEffect
  have running := (noEffect.running 1).mp ⟨by decide, by decide⟩
  exact absurd running.1 (by decide)

end StrManager
