import StrManager.Library.Tenancy
import StrManager.Worker.RefCount

namespace StrManager

open Library Function

/-! The descriptors of a worker among those of the process. -/

/-- No two open descriptors are bound to one port. -/
def Kernel.OnePerPort (kernel : Kernel) : Prop :=
  ∀ fd other port, kernel.sockets.lookup fd = some (some port) →
    kernel.sockets.lookup other = some (some port) → fd = other

namespace Kernel.OnePerPort

variable {kernel : Kernel}

theorem fresh : Kernel.fresh.OnePerPort := by
  intro fd other port found
  cases found

theorem close (unique : kernel.OnePerPort) (fd : Int) :
    (kernel.close fd).OnePerPort := by
  have kept {other : Int} {bound : Option (BitVec 16)}
      (found : (kernel.close fd).sockets.lookup other = some bound) :
      kernel.sockets.lookup other = some bound := by
    change (kernel.sockets.erase fd).lookup other = some bound at found
    rw [Table.lookup_erase] at found
    split at found
    · cases found
    · exact found
  intro first second port firstFound secondFound
  exact unique _ _ _ (kept firstFound) (kept secondFound)

theorem initSocket (unique : kernel.OnePerPort) {os : Os}
    (exclusive : os.Exclusive) {port : Int} (nonzero : htons port ≠ 0) :
    (StrManager.initSocket os kernel port).2.OnePerPort := by
  obtain ⟨fd, answered⟩ := exclusive.grants kernel
  obtain ⟨-, fresh⟩ := os.socket_fresh answered
  have unbound {other : Int} {bound : BitVec 16}
      (found : (kernel.opened fd).sockets.lookup other = some (some bound)) :
      other ≠ fd ∧ kernel.sockets.lookup other = some (some bound) := by
    change (kernel.sockets.insert fd none).lookup other = _ at found
    rw [Table.lookup_insert] at found
    split at found
    · cases found
    · exact ⟨‹_›, found⟩
  by_cases grants : ∃ fd, os.Grants kernel port fd
  · obtain ⟨granted, grants⟩ := grants
    have same : granted = fd := by
      have opened := grants.1
      rw [answered] at opened
      exact (Option.some.inj opened).symm
    subst same
    rw [initSocket_granted grants]
    have free := (exclusive.binds _ _ _ nonzero).mp grants.2
    rw [Kernel.bound_opened_iff fresh] at free
    have earlier {other : Int} {bound : BitVec 16}
        (found : (kernel.granted port granted).sockets.lookup other =
          some (some bound)) :
        (other = granted ∧ bound = htons port) ∨
          kernel.sockets.lookup other = some (some bound) := by
      change ((kernel.opened granted).sockets.insert granted
        (some (htons port))).lookup other = _ at found
      rw [Table.lookup_insert] at found
      split at found
      · cases found
        exact .inl ⟨‹_›, rfl⟩
      · exact .inr (unbound found).2
    intro first second bound firstFound secondFound
    rcases earlier firstFound with ⟨rfl, rfl⟩ | firstBefore
    · rcases earlier secondFound with ⟨rfl, -⟩ | secondBefore
      · rfl
      · exact absurd ⟨second, secondBefore⟩ free
    · rcases earlier secondFound with ⟨rfl, rfl⟩ | secondBefore
      · exact absurd ⟨first, firstBefore⟩ free
      · exact unique _ _ _ firstBefore secondBefore
  · rw [initSocket_unbound answered grants]
    intro first second bound firstFound secondFound
    exact unique _ _ _ (unbound firstFound).2 (unbound secondFound).2

end Kernel.OnePerPort

def PortTables.Holds (ports : PortTables) (fd : Int) : Prop :=
  ∃ port, ports.portFd.lookup port = some fd

theorem PortTables.holds_congr {ports next : PortTables}
    (portFd : next.portFd = ports.portFd) : next.Holds = ports.Holds := by
  unfold Holds
  rw [portFd]

namespace SocketState

/-- Only descriptors of the worker, and ones that were closed, are closed,
opened or stored. -/
def Moves (before after : SocketState) : Prop :=
  Tenancy.Moves before.kernel.sockets.lookup after.kernel.sockets.lookup
    before.ports.Holds after.ports.Holds

theorem Moves.of_same {before after : SocketState}
    (sockets : after.kernel.sockets = before.kernel.sockets)
    (portFd : after.ports.portFd = before.ports.portFd) : Moves before after := by
  apply Tenancy.Moves.of_same
  · rw [sockets]
  · rw [PortTables.holds_congr portFd]
    exact fun _ holds => holds

theorem Moves.refl (state : SocketState) : Moves state state :=
  .of_same rfl rfl

theorem Moves.trans {before middle after : SocketState}
    (first : Moves before middle) (second : Moves middle after) :
    Moves before after :=
  Tenancy.Moves.trans first second

theorem Moves.of_initSocket {before : SocketState} {ports : PortTables}
    (os : Os) (port : Int) (portFd : ports.portFd = before.ports.portFd) :
    Moves before ⟨(initSocket os before.kernel port).2, ports⟩ where
  spares := by
    intro fd _ isOpen
    obtain ⟨bound, found⟩ := Option.isSome_iff_exists.mp isOpen
    rw [found]
    exact initSocket_frame port found
  takes := by
    intro fd holds
    rw [PortTables.holds_congr portFd] at holds
    exact .inl holds

theorem Moves.of_register {before : SocketState} {ports : PortTables}
    {kernel : Kernel} {port fd : Int}
    (kept : ∀ other bound, before.kernel.sockets.lookup other = some bound →
      kernel.sockets.lookup other = some bound)
    (fresh : before.kernel.sockets.lookup fd = none)
    (portFd : ports.portFd = before.ports.portFd) :
    Moves before ⟨kernel, ports.register port fd⟩ where
  spares := by
    intro other _ isOpen
    obtain ⟨bound, found⟩ := Option.isSome_iff_exists.mp isOpen
    rw [found]
    exact kept other bound found
  takes := by
    intro other holds
    obtain ⟨place, found⟩ := holds
    change (ports.portFd.insert port fd).lookup place = some other at found
    rw [Table.lookup_insert, portFd] at found
    split at found
    · cases found
      exact .inr fresh
    · exact .inl ⟨place, found⟩

theorem Moves.of_release {before : SocketState} {ports : PortTables}
    {port fd : Int} (found : before.ports.portFd.lookup port = some fd)
    (portFd : ports.portFd = before.ports.portFd) :
    Moves before ⟨before.kernel.close fd, ports.release port fd⟩ where
  spares := by
    intro other foreign _
    change (before.kernel.sockets.erase fd).lookup other = _
    rw [Table.lookup_erase, if_neg]
    rintro rfl
    exact foreign ⟨port, found⟩
  takes := by
    intro other holds
    obtain ⟨place, stored⟩ := holds
    change (ports.portFd.erase port).lookup place = some other at stored
    rw [Table.lookup_erase, portFd] at stored
    split at stored
    · cases stored
    · exact .inl ⟨place, stored⟩

theorem addSocket_moves (os : Os) (state : SocketState) (port : Int) :
    Moves state (addSocket os state port).2 := by
  rcases addSocket_cases os state port with
    ⟨-, result⟩ | ⟨-, -, result⟩ | ⟨-, opened, result⟩
  · rw [result]
    exact .of_same rfl rfl
  · rw [result]
    exact .of_initSocket os port rfl
  · rcases initSocket_cases os state.kernel port with
      ⟨failed, -⟩ | ⟨fd, answered, -, fresh, -⟩
    · exact absurd failed opened
    · rw [result, answered]
      exact .of_register (fun other bound found => initSocket_frame port found)
        fresh rfl

theorem removeSocket_moves {state : SocketState}
    (listening : state.ports.Listening) (port : Int) :
    Moves state (removeSocket state port).2 := by
  rcases removeSocket_cases state port with ⟨last, result⟩ | ⟨-, result⟩
  · obtain ⟨fd, found⟩ := (listening port).mpr (by omega)
    rw [result, Table.subscript_of_lookup 0 found]
    exact .of_release found rfl
  · rw [result]
    exact .of_same rfl rfl

theorem addSocket_onePerPort {os : Os} (exclusive : os.Exclusive)
    {state : SocketState} (unique : state.kernel.OnePerPort) {port : Int}
    (nonzero : htons port ≠ 0) :
    (addSocket os state port).2.kernel.OnePerPort := by
  rcases addSocket_cases os state port with
    ⟨-, result⟩ | ⟨-, -, result⟩ | ⟨-, -, result⟩
  · rw [result]
    exact unique
  · rw [result]
    exact unique.initSocket exclusive nonzero
  · rw [result]
    exact unique.initSocket exclusive nonzero

theorem removeSocket_onePerPort {state : SocketState}
    (unique : state.kernel.OnePerPort) (port : Int) :
    (removeSocket state port).2.kernel.OnePerPort := by
  rcases removeSocket_cases state port with ⟨-, result⟩ | ⟨-, result⟩
  · rw [result]
    exact unique.close _
  · rw [result]
    exact unique

end SocketState

/-- A new source has none of its sockets bound to port 0. -/
def WorkerEvent.Bindable (kind : WorkerKind) : WorkerEvent → Prop
  | .addSource _ _ port =>
      htons port ≠ 0 ∧ (kind = .rtcp →
        htons (port + 1) ≠ 0 ∧ htons (port + 1 + 1) ≠ 0)
  | _ => True

theorem Worker.PacketStep.moves {runtime next : Runtime} {fd : Int}
    (noted : Worker.PacketStep runtime next fd) :
    runtime.sockets.Moves next.sockets := by
  have kernel : next.sockets.kernel = runtime.sockets.kernel := noted.kernel
  exact .of_same (congrArg Kernel.sockets kernel) noted.portFd

theorem Runtime.onePerPort_of_sockets {runtime : Runtime} {after : SocketState}
    (sockets : runtime.sockets = after) (unique : after.kernel.OnePerPort) :
    runtime.kernel.OnePerPort := by
  subst sockets
  exact unique

namespace PlainStep

variable {os : Os} {runtime next : Runtime} {event : WorkerEvent}
  {output : WorkerOutput}

theorem moves (step : PlainStep os runtime next event output)
    (listening : runtime.worker.ports.Listening) :
    runtime.sockets.Moves next.sockets := by
  cases step with
  | rejected routed sockets lists routes =>
      rw [sockets]
      exact .refl _
  | refused free failed sockets lists routes =>
      rw [sockets]
      exact SocketState.addSocket_moves os _ _
  | added list free opened sockets created lists routes =>
      rw [sockets]
      exact SocketState.addSocket_moves os _ _
  | removed list found sockets lists routes =>
      rw [sockets]
      exact SocketState.removeSocket_moves listening _
  | addedDestination list changed =>
      rw [changed.streamsOnly.sockets]
      exact .refl _
  | removedDestination list after changed filtered =>
      rw [changed.streamsOnly.sockets]
      exact .refl _
  | packet noted => exact noted.moves
  | elapsed elapse =>
      subst elapse
      exact .of_same rfl rfl

theorem onePerPort (step : PlainStep os runtime next event output)
    (exclusive : os.Exclusive) (bindable : event.Bindable runtime.worker.kind)
    (unique : runtime.kernel.OnePerPort) : next.kernel.OnePerPort := by
  cases step with
  | rejected routed sockets lists routes =>
      exact Runtime.onePerPort_of_sockets sockets unique
  | refused free failed sockets lists routes =>
      exact Runtime.onePerPort_of_sockets sockets
        (SocketState.addSocket_onePerPort exclusive unique bindable.1)
  | added list free opened sockets created lists routes =>
      exact Runtime.onePerPort_of_sockets sockets
        (SocketState.addSocket_onePerPort exclusive unique bindable.1)
  | removed list found sockets lists routes =>
      exact Runtime.onePerPort_of_sockets sockets
        (SocketState.removeSocket_onePerPort unique _)
  | addedDestination list changed =>
      exact Runtime.onePerPort_of_sockets changed.streamsOnly.sockets unique
  | removedDestination list after changed filtered =>
      exact Runtime.onePerPort_of_sockets changed.streamsOnly.sockets unique
  | packet noted =>
      rw [noted.kernel]
      exact unique
  | elapsed elapse =>
      subst elapse
      exact unique

end PlainStep

end StrManager
