import StrManager.Rtcp.Sockets
import StrManager.Worker.Events

namespace StrManager

open Library Function

/-! What an RTCP source that is turned down leaves behind. -/

def Os.DeniesAll (os : Os) : Kernel → Nat → Prop
  | _, 0 => True
  | kernel, count + 1 =>
      os.socket kernel = none ∧ os.DeniesAll kernel.denied count

instance Os.decidableDeniesAll (os : Os) :
    (kernel : Kernel) → (count : Nat) → Decidable (os.DeniesAll kernel count)
  | _, 0 => isTrue trivial
  | kernel, count + 1 =>
      have := os.decidableDeniesAll kernel.denied count
      inferInstanceAs (Decidable (_ ∧ _))

/-- The port tables are the same, with a count of zero like no count, and
every open descriptor was open before. -/
structure SocketState.NoTrace (before after : SocketState) : Prop where
  portFd : after.ports.portFd = before.ports.portFd
  fdPort : after.ports.fdPort = before.ports.fdPort
  listeners : after.ports.listeners = before.ports.listeners
  closed : ∀ fd, after.kernel.IsOpen fd → before.kernel.IsOpen fd

theorem SocketState.NoTrace.refl (state : SocketState) : NoTrace state state :=
  ⟨rfl, rfl, rfl, fun _ isOpen => isOpen⟩

theorem Kernel.IsOpen.initSocket {kernel : Kernel} {fd : Int}
    (isOpen : kernel.IsOpen fd) (os : Os) (port : Int) :
    (initSocket os kernel port).2.IsOpen fd := by
  obtain ⟨bound, found⟩ := Option.isSome_iff_exists.mp isOpen
  unfold Kernel.IsOpen
  rw [initSocket_frame port found]
  rfl

theorem initSocket_opensNone_iff (os : Os) (kernel : Kernel) (port : Int) :
    (∀ fd, (initSocket os kernel port).2.IsOpen fd → kernel.IsOpen fd) ↔
      os.socket kernel = none := by
  cases answered : os.socket kernel with
  | none =>
      rw [initSocket_denied answered]
      exact iff_of_true (fun fd isOpen => isOpen) rfl
  | some fd =>
      refine iff_of_false ?_ (by simp)
      intro opensNone
      have fresh : ¬ kernel.IsOpen fd := by
        simp [Kernel.IsOpen, (os.socket_fresh answered).2]
      apply fresh
      apply opensNone
      by_cases granted : ∃ fd, os.Grants kernel port fd
      · obtain ⟨other, grants⟩ := granted
        have same : other = fd := Option.some.inj (grants.1.symm.trans answered)
        subst same
        rw [initSocket_granted grants, Kernel.isOpen_granted]
        exact .inl rfl
      · rw [initSocket_unbound answered granted, Kernel.isOpen_opened]
        exact .inl rfl

namespace RtcpWorker

theorem initPair_opensNone_iff (os : Os) (kernel : Kernel) (port : Int) :
    (∀ fd, (initSocket os (initSocket os kernel port).2 (port + 1)).2.IsOpen fd →
      kernel.IsOpen fd) ↔ os.DeniesAll kernel 2 := by
  constructor
  · intro opensNone
    have denied : os.socket kernel = none := by
      rw [← initSocket_opensNone_iff os kernel port]
      intro fd isOpen
      exact opensNone fd (isOpen.initSocket os (port + 1))
    rw [initSocket_denied denied] at opensNone
    exact ⟨denied, (initSocket_opensNone_iff os kernel.denied (port + 1)).mp
      opensNone, trivial⟩
  · rintro ⟨denied, denied2, -⟩ fd isOpen
    rw [initSocket_denied denied, initSocket_denied denied2] at isOpen
    exact isOpen

theorem addSocket_isOpen {state : SocketState} {fd : Int}
    (isOpen : state.kernel.IsOpen fd) (os : Os) (port : Int) :
    (addSocket os state port).2.kernel.IsOpen fd := by
  rcases addSocket_cases os state port with
    ⟨-, result⟩ | ⟨-, -, result⟩ | ⟨-, -, -, result⟩
  · rw [result]
    exact isOpen
  · rw [result]
    exact (isOpen.initSocket os port).initSocket os (port + 1)
  · rw [result]
    exact (isOpen.initSocket os port).initSocket os (port + 1)

theorem addSocket_denied {os : Os} {state : SocketState} {port : Int}
    (count : (addSocket os state port).2.ports.listeners port =
      state.ports.listeners port)
    (closed : ∀ fd, (addSocket os state port).2.kernel.IsOpen fd →
      state.kernel.IsOpen fd) :
    state.ports.listeners port = 0 ∧ os.DeniesAll state.kernel 2 := by
  rcases addSocket_cases os state port with
    ⟨-, result⟩ | ⟨idle, -, result⟩ | ⟨idle, -, -, result⟩
  · rw [result] at count
    simp at count
  · rw [result] at closed
    exact ⟨idle, (initPair_opensNone_iff os state.kernel port).mp closed⟩
  · rw [result, PortTables.listeners_register, update_of_ne (by omega),
      PortTables.listeners_register, update_self, idle] at count
    cases count

theorem addSocket_of_denied {os : Os} {state : SocketState} {port : Int}
    (idle : state.ports.listeners port = 0)
    (denied : os.DeniesAll state.kernel 2) :
    addSocket os state port =
      (-1, ⟨state.kernel.denied.denied, state.ports.readListener port⟩) := by
  unfold addSocket
  rw [if_neg (not_not.mpr idle)]
  simp only [initSocket_denied denied.1, initSocket_denied denied.2.1, if_true]

theorem addSocket_listeners_below (os : Os) (state : SocketState)
    (port : Int) :
    (addSocket os state (port + 1)).2.ports.listeners port =
      state.ports.listeners port := by
  rcases addSocket_cases os state (port + 1) with
    ⟨-, result⟩ | ⟨-, -, result⟩ | ⟨-, -, -, result⟩
  · rw [result, PortTables.listeners_setListener, update_of_ne (by omega),
      PortTables.listeners_readListener]
  · rw [result, PortTables.listeners_readListener]
  · rw [result, PortTables.listeners_register, update_of_ne (by omega),
      PortTables.listeners_register, update_of_ne (by omega),
      PortTables.listeners_readListener]

theorem addSocketPair_noTrace_iff (os : Os) (state : SocketState)
    (port : Int) :
    SocketState.NoTrace state (addSocketPair os state port).2 ↔
      state.ports.listeners port = 0 ∧ state.ports.listeners (port + 1) = 0 ∧
        os.DeniesAll state.kernel 4 := by
  change SocketState.NoTrace state
    (addSocket os (addSocket os state port).2 (port + 1)).2 ↔ _
  constructor
  · intro noTrace
    have count := congrFun noTrace.listeners port
    rw [addSocket_listeners_below] at count
    obtain ⟨idle, denied⟩ := addSocket_denied count fun fd isOpen =>
      noTrace.closed fd (addSocket_isOpen isOpen os (port + 1))
    rw [addSocket_of_denied idle denied] at noTrace
    have count2 := congrFun noTrace.listeners (port + 1)
    rw [← PortTables.listeners_readListener state.ports port] at count2
    obtain ⟨idle2, denied2⟩ := addSocket_denied count2 noTrace.closed
    rw [PortTables.listeners_readListener] at idle2
    exact ⟨idle, idle2, denied.1, denied.2.1, denied2⟩
  · rintro ⟨idle, idle2, denied, denied2, denied34⟩
    rw [addSocket_of_denied idle ⟨denied, denied2, trivial⟩,
      addSocket_of_denied (by rwa [PortTables.listeners_readListener])
        denied34]
    refine ⟨rfl, rfl, ?_, fun fd isOpen => isOpen⟩
    rw [PortTables.listeners_readListener, PortTables.listeners_readListener]

end RtcpWorker

/-- Nothing that later calls or packets depend on has changed. -/
structure Runtime.NoTrace (before after : Runtime) : Prop where
  sockets : before.sockets.NoTrace after.sockets
  management : after.worker.streams.management =
    before.worker.streams.management
  routes : after.worker.streams.routes = before.worker.streams.routes

theorem RtcpWorker.addSource_management {os : Os} {runtime next : Runtime}
    {srcId : Int} {ip : InAddr} {port : Int}
    (rejected : addSource os runtime srcId ip port = (false, next)) :
    next.worker.streams.management = runtime.worker.streams.management := by
  simp only [addSource] at rejected
  split at rejected
  · cases rejected
    rfl
  · split at rejected
    · cases rejected
      rfl
    · split at rejected
      · cases rejected
      · cases rejected
        rfl

/-- A rejected source leaves no trace exactly when one of its addresses is
routed, or neither of its ports is counted and all four `socket` calls are
refused. -/
theorem rejected_noTrace_iff {os : Os} {runtime next : Runtime} {srcId : Int}
    {ip : InAddr} {port : Int}
    (rejected : RtcpWorker.addSource os runtime srcId ip port = (false, next)) :
    runtime.NoTrace next ↔
      (runtime.worker.streams.routes (SockAddr.ofPort ip port) ≠ 0 ∨
        runtime.worker.streams.routes (SockAddr.ofPort ip (port + 1)) ≠ 0) ∨
      (runtime.worker.ports.listeners port = 0 ∧
        runtime.worker.ports.listeners (port + 1) = 0 ∧
        os.DeniesAll runtime.kernel 4) := by
  have management := RtcpWorker.addSource_management rejected
  rcases RtcpWorker.addSource_cases os runtime srcId ip port rejected with
    ⟨routed, -, sockets, -, routes⟩ |
      ⟨free, free2, -, -, sockets, -, routes⟩ | ⟨-, -, -, accepted, -⟩
  · refine iff_of_true ⟨?_, management, routes⟩ (.inl routed)
    rw [sockets]
    exact .refl _
  · have traces := RtcpWorker.addSocketPair_noTrace_iff os runtime.sockets port
    rw [← sockets] at traces
    constructor
    · intro noTrace
      exact .inr (traces.mp noTrace.sockets)
    · rintro ((routed | routed2) | denied)
      · exact absurd free routed
      · exact absurd free2 routed2
      · exact ⟨traces.mpr denied, management, routes⟩
  · cases accepted

theorem rejected_noTrace_routed :
    ∃ runtime registry next,
      (workerMachine .orderly).Run Registry.observer (fun _ _ _ => True)
        (Runtime.start .rtcp 0 .fresh) runtime registry ∧
      RtcpWorker.addSource .orderly runtime 4 1 4999 = (false, next) ∧
      runtime.NoTrace next := by
  have run : (workerMachine .orderly).Run Registry.observer
      (fun _ _ _ => True) (Runtime.start .rtcp 0 .fresh) _ _ :=
    .of_replay [.addSource 2 1 5000] (by decide)
  refine ⟨_, _, _, run, rfl, ?_⟩
  exact (@rejected_noTrace_iff .orderly _ _ 4 1 4999 rfl).mpr
    (.inl (.inr (by decide)))

/-- The first pair is refused for its second port, and the second port is
counted once more. -/
theorem rejected_trace :
    ∃ runtime registry next,
      (workerMachine .orderly).Run Registry.observer (fun _ _ _ => True)
        (Runtime.start .rtcp 0 .fresh) runtime registry ∧
      RtcpWorker.addSource .orderly runtime 4 2 4999 = (false, next) ∧
      ¬ runtime.NoTrace next := by
  have run : (workerMachine .orderly).Run Registry.observer
      (fun _ _ _ => True) (Runtime.start .rtcp 0 .fresh) _ _ :=
    .of_replay [.addSource 2 1 5000] (by decide)
  refine ⟨_, _, _, run, rfl, ?_⟩
  intro noTrace
  have count := congrFun noTrace.sockets.listeners 5000
  exact absurd count (by decide)

end StrManager
