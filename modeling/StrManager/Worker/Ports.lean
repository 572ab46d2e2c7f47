import StrManager.Net.Kernel

namespace StrManager

open Library Function

/-! The port tables of a worker and the reference counting of its listening
sockets. -/

structure PortTables where
  fdPort : Table Int Int
  portFd : Table Int Int
  portListener : Table Int Int

/-- The port tables together with the kernel whose descriptors they name. -/
structure SocketState where
  kernel : Kernel
  ports : PortTables

namespace PortTables

def empty : PortTables where
  fdPort := ∅
  portFd := ∅
  portListener := ∅

def listeners (ports : PortTables) : Int → Int :=
  ports.portListener.subscript 0

def readListener (ports : PortTables) (port : Int) : PortTables :=
  { ports with portListener := ports.portListener.touch 0 port }

def setListener (ports : PortTables) (port count : Int) : PortTables :=
  { ports with portListener := ports.portListener.insert port count }

/-- The three assignments after a socket was opened. -/
def register (ports : PortTables) (port fd : Int) : PortTables where
  fdPort := ports.fdPort.insert fd port
  portFd := ports.portFd.insert port fd
  portListener := ports.portListener.insert port 1

/-- The three `erase` calls before a socket is closed. -/
def release (ports : PortTables) (port fd : Int) : PortTables where
  fdPort := ports.fdPort.erase fd
  portFd := ports.portFd.erase port
  portListener := ports.portListener.erase port

@[simp] theorem listeners_empty (port : Int) : empty.listeners port = 0 :=
  Table.subscript_empty 0 port

@[simp] theorem listeners_readListener (ports : PortTables) (port : Int) :
    (ports.readListener port).listeners = ports.listeners :=
  Table.subscript_touch _ _ _

@[simp] theorem listeners_setListener (ports : PortTables) (port count : Int) :
    (ports.setListener port count).listeners =
      update ports.listeners port count :=
  Table.subscript_insert _ _ _ _

@[simp] theorem listeners_register (ports : PortTables) (port fd : Int) :
    (ports.register port fd).listeners = update ports.listeners port 1 :=
  Table.subscript_insert _ _ _ _

@[simp] theorem listeners_release (ports : PortTables) (port fd : Int) :
    (ports.release port fd).listeners = update ports.listeners port 0 :=
  Table.subscript_erase _ _ _

def Listening (ports : PortTables) : Prop :=
  ∀ port, (∃ fd, ports.portFd.lookup port = some fd) ↔
    0 < ports.listeners port

namespace Listening

variable {ports next : PortTables}

theorem of_empty : empty.Listening := by
  intro port
  simp [empty, listeners]

theorem absent (listening : ports.Listening) {port : Int}
    (uncounted : ports.listeners port ≤ 0) : ports.portFd.lookup port = none := by
  cases found : ports.portFd.lookup port with
  | none => rfl
  | some fd =>
      have counted := (listening port).mp ⟨fd, found⟩
      omega

theorem recount (listening : ports.Listening)
    (portFd : next.portFd = ports.portFd)
    (counts : ∀ port, 0 < next.listeners port ↔ 0 < ports.listeners port) :
    next.Listening := by
  intro port
  rw [portFd, counts]
  exact listening port

theorem register (listening : ports.Listening) (port fd : Int) :
    (ports.register port fd).Listening := by
  intro other
  change (∃ found, (ports.portFd.insert port fd).lookup other = some found) ↔ _
  rw [Table.lookup_insert, listeners_register]
  by_cases here : other = port
  · simp [here]
  · rw [if_neg here, update_of_ne here]
    exact listening other

theorem release (listening : ports.Listening) (port fd : Int) :
    (ports.release port fd).Listening := by
  intro other
  change (∃ found, (ports.portFd.erase port).lookup other = some found) ↔ _
  rw [Table.lookup_erase, listeners_release]
  by_cases here : other = port
  · simp [here]
  · rw [if_neg here, update_of_ne here]
    exact listening other

theorem readListener (listening : ports.Listening) (port : Int) :
    (ports.readListener port).Listening :=
  listening.recount rfl fun other => by rw [listeners_readListener]

theorem count (listening : ports.Listening) {port : Int}
    (counted : ports.listeners port ≠ 0) :
    ((ports.readListener port).setListener port
      (ports.listeners port + 1)).Listening := by
  refine listening.recount rfl fun other => ?_
  rw [listeners_setListener, listeners_readListener]
  by_cases here : other = port
  · subst here
    rw [update_self]
    omega
  · rw [update_of_ne here]

theorem discount (listening : ports.Listening) {port : Int}
    (shared : ports.listeners port ≠ 1) :
    (ports.setListener port (ports.listeners port - 1)).Listening := by
  refine listening.recount rfl fun other => ?_
  rw [listeners_setListener]
  by_cases here : other = port
  · subst here
    rw [update_self]
    omega
  · rw [update_of_ne here]

theorem close (listening : ports.Listening) (port fd : Int) :
    ((ports.setListener port 0).release port fd).Listening := by
  refine (listening.release port fd).recount rfl fun other => ?_
  rw [listeners_release, listeners_release, listeners_setListener, update_idem]

end Listening

end PortTables

namespace SocketState

/-- `Worker::add_socket`. -/
def addSocket (os : Os) (state : SocketState) (port : Int) :
    Int × SocketState :=
  let count := state.ports.listeners port
  let ports := state.ports.readListener port
  if count ≠ 0 then
    (0, ⟨state.kernel, ports.setListener port (count + 1)⟩)
  else
    let (fd, kernel) := initSocket os state.kernel port
    if fd = -1 then
      (-1, ⟨kernel, ports⟩)
    else
      (1, ⟨kernel, ports.register port fd⟩)

/-- `Worker::remove_socket`. -/
def removeSocket (state : SocketState) (port : Int) : Bool × SocketState :=
  let count := state.ports.listeners port - 1
  let ports := state.ports.setListener port count
  if count = 0 then
    let fd := ports.portFd.subscript 0 port
    (true, ⟨state.kernel.close fd, ports.release port fd⟩)
  else
    (false, ⟨state.kernel, ports⟩)

structure Described (state : SocketState) : Prop where
  inverse : Table.Inverse state.ports.portFd state.ports.fdPort
  bound : ∀ port fd, state.ports.portFd.lookup port = some fd →
    state.kernel.sockets.lookup fd = some (some (htons port))

namespace Described

variable {state : SocketState}

theorem empty (kernel : Kernel) : Described ⟨kernel, PortTables.empty⟩ where
  inverse := Table.Inverse.empty
  bound := by
    intro port fd found
    simp [PortTables.empty] at found

theorem frame (described : state.Described) {next : SocketState}
    (opened : ∀ fd bound, state.kernel.sockets.lookup fd = some bound →
      next.kernel.sockets.lookup fd = some bound)
    (portFd : next.ports.portFd = state.ports.portFd)
    (fdPort : next.ports.fdPort = state.ports.fdPort) : next.Described where
  inverse := by
    rw [portFd, fdPort]
    exact described.inverse
  bound := by
    intro port fd found
    rw [portFd] at found
    exact opened fd _ (described.bound port fd found)

theorem register (described : state.Described) {kernel : Kernel}
    {port fd : Int} (absent : state.ports.portFd.lookup port = none)
    (fresh : state.kernel.sockets.lookup fd = none)
    (lookups : ∀ other, kernel.sockets.lookup other =
      if other = fd then some (some (htons port))
      else state.kernel.sockets.lookup other) :
    Described ⟨kernel, state.ports.register port fd⟩ where
  inverse := by
    refine described.inverse.insert absent ?_
    cases found : state.ports.fdPort.lookup fd with
    | none => rfl
    | some old =>
        have bound := described.bound old fd
          ((described.inverse old fd).mpr found)
        rw [fresh] at bound
        cases bound
  bound := by
    intro other found foundLookup
    change (state.ports.portFd.insert port fd).lookup other = some found
      at foundLookup
    rw [Table.lookup_insert] at foundLookup
    rw [lookups]
    rcases eq_or_ne other port with rfl | different
    · rw [if_pos rfl] at foundLookup
      cases foundLookup
      rw [if_pos rfl]
    · rw [if_neg different] at foundLookup
      have bound := described.bound other found foundLookup
      have otherFd : found ≠ fd := by
        rintro rfl
        rw [fresh] at bound
        cases bound
      rw [if_neg otherFd, bound]

theorem release (described : state.Described) {port fd : Int}
    (found : state.ports.portFd.lookup port = some fd) :
    Described ⟨state.kernel.close fd, state.ports.release port fd⟩ where
  inverse := described.inverse.erase found
  bound := by
    intro other kept keptFound
    change (state.ports.portFd.erase port).lookup other = some kept
      at keptFound
    rw [Table.lookup_erase] at keptFound
    rcases eq_or_ne other port with rfl | different
    · simp at keptFound
    · rw [if_neg different] at keptFound
      have otherFd : kept ≠ fd := by
        rintro rfl
        exact different (described.inverse.injective keptFound found)
      change (state.kernel.sockets.erase fd).lookup kept = _
      rw [Table.lookup_erase, if_neg otherFd]
      exact described.bound other kept keptFound

end Described

/-- A port has a descriptor exactly while its count is positive. -/
structure Consistent (state : SocketState) : Prop extends
    Described state where
  listening : ∀ port,
    (∃ fd, state.ports.portFd.lookup port = some fd) ↔
      0 < state.ports.listeners port

theorem Consistent.congr {state next : SocketState}
    (consistent : state.Consistent)
    (sockets : next.kernel.sockets = state.kernel.sockets)
    (portFd : next.ports.portFd = state.ports.portFd)
    (fdPort : next.ports.fdPort = state.ports.fdPort)
    (listeners : next.ports.listeners = state.ports.listeners) :
    next.Consistent where
  toDescribed := by
    refine consistent.toDescribed.frame ?_ portFd fdPort
    intro fd bound found
    rwa [sockets]
  listening := by
    rw [portFd, listeners]
    exact consistent.listening

theorem consistent_empty (kernel : Kernel) :
    Consistent ⟨kernel, PortTables.empty⟩ where
  toDescribed := Described.empty kernel
  listening := by
    intro port
    simp [PortTables.empty, PortTables.listeners]

theorem addSocket_cases (os : Os) (state : SocketState) (port : Int) :
    (state.ports.listeners port ≠ 0 ∧
      addSocket os state port =
        (0, ⟨state.kernel, (state.ports.readListener port).setListener port
          (state.ports.listeners port + 1)⟩)) ∨
    (state.ports.listeners port = 0 ∧
      (initSocket os state.kernel port).1 = -1 ∧
      addSocket os state port =
        (-1, ⟨(initSocket os state.kernel port).2,
          state.ports.readListener port⟩)) ∨
    (state.ports.listeners port = 0 ∧
      (initSocket os state.kernel port).1 ≠ -1 ∧
      addSocket os state port =
        (1, ⟨(initSocket os state.kernel port).2,
          (state.ports.readListener port).register port
            (initSocket os state.kernel port).1⟩)) := by
  unfold addSocket
  rcases eq_or_ne (state.ports.listeners port) 0 with idle | reused
  · rcases eq_or_ne (initSocket os state.kernel port).1 (-1) with failed | opened
    · exact .inr (.inl ⟨idle, failed, by simp [idle, failed]⟩)
    · exact .inr (.inr ⟨idle, opened, by simp [idle, opened]⟩)
  · exact .inl ⟨reused, by simp [reused]⟩

theorem addSocket_granted {os : Os} {state : SocketState} {port fd : Int}
    (idle : state.ports.listeners port = 0)
    (grants : os.Grants state.kernel port fd) :
    addSocket os state port =
      (1, ⟨state.kernel.granted port fd,
        (state.ports.readListener port).register port fd⟩) := by
  have opened := initSocket_granted grants
  have valid := (os.socket_fresh grants.1).1
  rcases addSocket_cases os state port with
    ⟨counted, -⟩ | ⟨-, failed, -⟩ | ⟨-, -, result⟩
  · exact absurd idle counted
  · rw [opened] at failed
    dsimp only at failed
    omega
  · rw [result, opened]

@[simp] theorem addSocket_closed (os : Os) (state : SocketState) (port : Int) :
    (addSocket os state port).2.kernel.closed = state.kernel.closed := by
  rcases addSocket_cases os state port with
    ⟨-, result⟩ | ⟨-, -, result⟩ | ⟨-, -, result⟩
  · rw [result]
  · rw [result]
    exact initSocket_closed os state.kernel port
  · rw [result]
    exact initSocket_closed os state.kernel port

/-- The port is counted already, or the operating system grants it a bound
descriptor. -/
def CanOpen (os : Os) (state : SocketState) (port : Int) : Prop :=
  state.ports.listeners port ≠ 0 ∨
    ∃ fd, os.socket state.kernel = some fd ∧
      os.bind (state.kernel.opened fd) fd (htons port) = true

theorem addSocket_opens_iff (os : Os) (state : SocketState) (port : Int) :
    (addSocket os state port).1 ≠ -1 ↔ CanOpen os state port := by
  unfold addSocket CanOpen
  rcases eq_or_ne (state.ports.listeners port) 0 with idle | reused
  · cases answered : os.socket state.kernel with
    | none => simp [idle, initSocket, answered]
    | some fd =>
        have valid := (os.socket_fresh answered).1
        have notFailed : fd ≠ -1 := by omega
        cases bound : os.bind (state.kernel.opened fd) fd (htons port) with
        | true => simp [idle, initSocket, answered, bound, notFailed]
        | false => simp [idle, initSocket, answered, bound]
  · simp [reused]

instance : Decidable (CanOpen os state port) :=
  decidable_of_iff _ (addSocket_opens_iff os state port)

theorem addSocket_listeners {os : Os} {state : SocketState} {port : Int}
    (opened : (addSocket os state port).1 ≠ -1) :
    (addSocket os state port).2.ports.listeners =
      update state.ports.listeners port (state.ports.listeners port + 1) := by
  rcases addSocket_cases os state port with
    ⟨-, result⟩ | ⟨-, -, result⟩ | ⟨idle, -, result⟩
  · simp [result]
  · rw [result] at opened
    exact absurd rfl opened
  · simp [result, idle]

theorem addSocket_listeners_failed {os : Os} {state : SocketState} {port : Int}
    (failed : (addSocket os state port).1 = -1) :
    (addSocket os state port).2.ports.listeners = state.ports.listeners := by
  rcases addSocket_cases os state port with
    ⟨-, result⟩ | ⟨-, -, result⟩ | ⟨-, opened, result⟩
  · rw [result] at failed
    cases failed
  · simp [result]
  · rw [result] at failed
    cases failed

theorem addSocket_listening {state : SocketState}
    (listening : state.ports.Listening) (os : Os) (port : Int) :
    (addSocket os state port).2.ports.Listening := by
  rcases addSocket_cases os state port with
    ⟨counted, result⟩ | ⟨-, -, result⟩ | ⟨-, -, result⟩
  · rw [result]
    exact listening.count counted
  · rw [result]
    exact listening.readListener port
  · rw [result]
    exact (listening.readListener port).register port _

theorem addSocket_described {state : SocketState}
    (consistent : state.Consistent) (os : Os) (port : Int) :
    (addSocket os state port).2.Described := by
  rcases addSocket_cases os state port with
    ⟨-, result⟩ | ⟨-, -, result⟩ | ⟨idle, opened, result⟩
  · rw [result]
    exact consistent.toDescribed.frame (fun fd bound found => found) rfl rfl
  · rw [result]
    exact consistent.toDescribed.frame
      (fun fd bound found => initSocket_frame port found) rfl rfl
  · rcases initSocket_cases os state.kernel port with
      ⟨failed, -⟩ | ⟨fd, answered, -, fresh, lookups⟩
    · exact absurd failed opened
    have absent : state.ports.portFd.lookup port = none := by
      cases found : state.ports.portFd.lookup port with
      | none => rfl
      | some old =>
          have positive := (consistent.listening port).mp ⟨old, found⟩
          omega
    rw [answered] at result
    rw [result]
    exact (consistent.toDescribed.register absent fresh lookups).frame
      (fun other bound found => found) rfl rfl

theorem addSocket_consistent {state : SocketState}
    (consistent : state.Consistent) (os : Os) (port : Int) :
    (addSocket os state port).2.Consistent where
  toDescribed := addSocket_described consistent os port
  listening := addSocket_listening consistent.listening os port

theorem removeSocket_cases (state : SocketState) (port : Int) :
    (state.ports.listeners port = 1 ∧
      removeSocket state port =
        (true, ⟨state.kernel.close (state.ports.portFd.subscript 0 port),
          (state.ports.setListener port 0).release port
            (state.ports.portFd.subscript 0 port)⟩)) ∨
    (state.ports.listeners port ≠ 1 ∧
      removeSocket state port =
        (false, ⟨state.kernel,
          state.ports.setListener port (state.ports.listeners port - 1)⟩)) := by
  unfold removeSocket
  rcases eq_or_ne (state.ports.listeners port) 1 with last | shared
  · left
    refine ⟨last, ?_⟩
    simp [last, PortTables.setListener]
  · right
    refine ⟨shared, ?_⟩
    have remaining : state.ports.listeners port - 1 ≠ 0 := by omega
    simp [remaining]

theorem removeSocket_listeners (state : SocketState) (port : Int) :
    (removeSocket state port).2.ports.listeners =
      update state.ports.listeners port (state.ports.listeners port - 1) := by
  rcases removeSocket_cases state port with ⟨last, result⟩ | ⟨-, result⟩
  · simp [result, last]
  · simp [result]

theorem removeSocket_listening {state : SocketState}
    (listening : state.ports.Listening) (port : Int) :
    (removeSocket state port).2.ports.Listening := by
  rcases removeSocket_cases state port with ⟨-, result⟩ | ⟨shared, result⟩
  · rw [result]
    exact listening.close port _
  · rw [result]
    exact listening.discount shared

theorem removeSocket_described {state : SocketState}
    (consistent : state.Consistent) (port : Int) :
    (removeSocket state port).2.Described := by
  rcases removeSocket_cases state port with ⟨last, result⟩ | ⟨-, result⟩
  · obtain ⟨fd, found⟩ := (consistent.listening port).mpr (by omega)
    have closing : state.ports.portFd.subscript 0 port = fd :=
      Table.subscript_of_lookup 0 found
    rw [result, closing]
    exact (consistent.toDescribed.release found).frame
      (fun other bound kept => kept) rfl rfl
  · rw [result]
    exact consistent.toDescribed.frame (fun fd bound found => found) rfl rfl

theorem removeSocket_consistent {state : SocketState}
    (consistent : state.Consistent) (port : Int) :
    (removeSocket state port).2.Consistent where
  toDescribed := removeSocket_described consistent port
  listening := removeSocket_listening consistent.listening port

theorem addSocket_portFd {state : SocketState} (consistent : state.Consistent)
    (os : Os) (opening : Int) {port fd : Int}
    (found : state.ports.portFd.lookup port = some fd) :
    (addSocket os state opening).2.ports.portFd.lookup port = some fd := by
  rcases addSocket_cases os state opening with
    ⟨-, result⟩ | ⟨-, -, result⟩ | ⟨idle, -, result⟩
  · rw [result]
    exact found
  · rw [result]
    exact found
  · have counted := (consistent.listening port).mp ⟨fd, found⟩
    have different : port ≠ opening := by
      rintro rfl
      omega
    rw [result]
    change (state.ports.portFd.insert opening _).lookup port = some fd
    rw [Table.lookup_insert, if_neg different, found]

theorem removeSocket_portFd {state : SocketState} {closing port fd : Int}
    (found : (removeSocket state closing).2.ports.portFd.lookup port =
      some fd) : state.ports.portFd.lookup port = some fd := by
  rcases removeSocket_cases state closing with ⟨-, result⟩ | ⟨-, result⟩
  · rw [result] at found
    change (state.ports.portFd.erase closing).lookup port = some fd at found
    rw [Table.lookup_erase] at found
    split at found
    · cases found
    · exact found
  · rw [result] at found
    exact found

end SocketState

end StrManager
