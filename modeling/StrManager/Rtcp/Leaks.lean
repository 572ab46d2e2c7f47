import StrManager.Library.Custody
import StrManager.Rtcp.Lists
import StrManager.Rtcp.Sockets
import StrManager.Worker.Implements

namespace StrManager

open Library Function

/-! The descriptors a worker opened and has not closed are those its ports
name, unless `bind` refuses one. -/

/-- The ports hold every open descriptor that is not `foreign`, and a port is
counted while it holds one. -/
structure SocketState.Sealed (foreign : Int → Prop) (state : SocketState) :
    Prop where
  owns : Owns state.kernel.IsOpen foreign state.ports.portFd
  listening : state.ports.Listening

/-- Only descriptors that a port held are closed, and each of them once. -/
def SocketState.ClosesStored (before after : SocketState) : Prop :=
  ∃ fds, after.kernel.closed = fds ++ before.kernel.closed ∧ fds.Nodup ∧
    ∀ fd ∈ fds, (∃ port, before.ports.portFd.lookup port = some fd) ∧
      ¬ after.kernel.IsOpen fd

namespace SocketState.Sealed

variable {foreign : Int → Prop} {state : SocketState}

theorem empty (kernel : Kernel) :
    Sealed kernel.IsOpen ⟨kernel, PortTables.empty⟩ where
  owns := Owns.empty kernel.IsOpen
  listening := .of_empty

theorem absent (isSealed : state.Sealed foreign) {port : Int}
    (uncounted : state.ports.listeners port ≤ 0) :
    state.ports.portFd.lookup port = none :=
  isSealed.listening.absent uncounted

theorem found (isSealed : state.Sealed foreign) {port : Int}
    (counted : 0 < state.ports.listeners port) :
    state.ports.portFd.lookup port =
      some (state.ports.portFd.subscript 0 port) := by
  obtain ⟨fd, found⟩ := (isSealed.listening port).mpr counted
  rw [found, Table.subscript_of_lookup 0 found]

end SocketState.Sealed

theorem initSocket_opens_iff (os : Os) (kernel : Kernel) (port : Int) :
    (initSocket os kernel port).1 ≠ -1 ↔ ∃ fd, os.Grants kernel port fd := by
  by_cases granted : ∃ fd, os.Grants kernel port fd
  · refine iff_of_true ?_ granted
    obtain ⟨fd, grants⟩ := granted
    have valid := (os.socket_fresh grants.1).1
    rw [initSocket_granted grants]
    omega
  · refine iff_of_false ?_ granted
    cases answered : os.socket kernel with
    | none => simp [initSocket_denied answered]
    | some fd => simp [initSocket_unbound answered granted]

/-- A count goes up, or the operating system grants no descriptor at all, or
one that it binds. -/
def SocketState.Tidy (os : Os) (state : SocketState) (port : Int) : Prop :=
  state.ports.listeners port ≠ 0 ∨ os.socket state.kernel = none ∨
    ∃ fd, os.Grants state.kernel port fd

instance (os : Os) (state : SocketState) (port : Int) :
    Decidable (state.Tidy os port) :=
  inferInstanceAs (Decidable (_ ∨ _ ∨ _))

namespace SocketState

variable {foreign : Int → Prop} {state : SocketState}

theorem Sealed.addSocket (isSealed : state.Sealed foreign) {os : Os}
    {port : Int} (tidy : Tidy os state port) :
    (addSocket os state port).2.Sealed foreign where
  listening := addSocket_listening isSealed.listening os port
  owns := by
    rcases addSocket_cases os state port with
      ⟨-, result⟩ | ⟨idle, failed, result⟩ | ⟨idle, opened, result⟩
    · rw [result]
      exact isSealed.owns
    · have refused : ¬ ∃ fd, os.Grants state.kernel port fd := by
        rw [← initSocket_opens_iff]
        exact not_not.mpr failed
      have denied : os.socket state.kernel = none :=
        (tidy.resolve_left (not_not.mpr idle)).resolve_right refused
      rw [result, initSocket_denied denied]
      exact isSealed.owns
    · obtain ⟨fd, grants⟩ :=
        (initSocket_opens_iff os state.kernel port).mp opened
      rw [result, initSocket_granted grants]
      exact isSealed.owns.acquire (isSealed.absent idle.le) grants.fresh
        (Kernel.isOpen_granted _ _ _)

theorem ClosesStored.of_same {before after : SocketState}
    (same : after.kernel.closed = before.kernel.closed) :
    before.ClosesStored after :=
  ⟨[], same, List.nodup_nil, by simp⟩

theorem Sealed.removeSocket (isSealed : state.Sealed foreign) (port : Int) :
    (removeSocket state port).2.Sealed foreign ∧
      state.ClosesStored (removeSocket state port).2 := by
  have listening := removeSocket_listening isSealed.listening port
  rcases removeSocket_cases state port with ⟨last, result⟩ | ⟨-, result⟩
  · have counted : 0 < state.ports.listeners port := by omega
    have found := isSealed.found counted
    rw [result] at listening ⊢
    refine ⟨⟨isSealed.owns.release found (Kernel.isOpen_close _ _), listening⟩,
      [_], rfl, List.nodup_singleton _, ?_⟩
    intro fd member
    rw [List.mem_singleton] at member
    subst member
    refine ⟨⟨port, found⟩, ?_⟩
    rw [Kernel.isOpen_close]
    simp
  · rw [result] at listening ⊢
    exact ⟨⟨isSealed.owns, listening⟩, .of_same rfl⟩

theorem ClosesStored.trans {before middle after : SocketState}
    (first : before.ClosesStored middle) (second : middle.ClosesStored after)
    (isSealed : middle.Sealed foreign)
    (kept : ∀ port fd, middle.ports.portFd.lookup port = some fd →
      before.ports.portFd.lookup port = some fd)
    (opens : ∀ fd, after.kernel.IsOpen fd → middle.kernel.IsOpen fd) :
    before.ClosesStored after := by
  obtain ⟨fds, closed, nodup, stored⟩ := first
  obtain ⟨fds2, closed2, nodup2, stored2⟩ := second
  refine ⟨fds2 ++ fds, by rw [closed2, closed, List.append_assoc], ?_, ?_⟩
  · rw [List.nodup_append]
    refine ⟨nodup2, nodup, ?_⟩
    intro fd member other otherMember equal
    subst equal
    obtain ⟨⟨port, found⟩, -⟩ := stored2 fd member
    exact (stored fd otherMember).2 (isSealed.owns.is_open found)
  · intro fd member
    rcases List.mem_append.mp member with later | earlier
    · obtain ⟨⟨port, found⟩, notOpen⟩ := stored2 fd later
      exact ⟨⟨port, kept port fd found⟩, notOpen⟩
    · obtain ⟨found, notOpen⟩ := stored fd earlier
      exact ⟨found, fun isOpen => notOpen (opens fd isOpen)⟩

end SocketState

namespace RtcpWorker

variable {foreign : Int → Prop} {state : SocketState}

/-- A count goes up, or the operating system grants neither of the two
descriptors, or both with bound ports and the second port holds none yet. -/
def Tidy (os : Os) (kernel : Kernel) (listeners : Int → Int) (port : Int) :
    Prop :=
  listeners port ≠ 0 ∨
  (os.socket kernel = none ∧ os.socket kernel.denied = none) ∨
  (listeners (port + 1) ≤ 0 ∧ ∃ fd, os.Grants kernel port fd ∧
    ∃ fd2, os.Grants (kernel.granted port fd) (port + 1) fd2)

instance (os : Os) (kernel : Kernel) (listeners : Int → Int) (port : Int) :
    Decidable (Tidy os kernel listeners port) :=
  inferInstanceAs (Decidable (_ ∨ (_ ∧ _) ∨ (_ ∧ _)))

theorem addSocket_sealed (isSealed : state.Sealed foreign) {os : Os}
    {port : Int} (tidy : Tidy os state.kernel state.ports.listeners port) :
    (addSocket os state port).2.Sealed foreign where
  listening := addSocket_listening isSealed.listening os port
  owns := by
    unfold addSocket
    rcases eq_or_ne (state.ports.listeners port) 0 with idle | counted
    · rw [if_neg (not_not.mpr idle)]
      rcases tidy.resolve_left (not_not.mpr idle) with
        ⟨denied, denied2⟩ | ⟨uncounted, fd, grants, fd2, grants2⟩
      · simp only [initSocket_denied denied, initSocket_denied denied2, if_true]
        exact isSealed.owns
      · have valid := (os.socket_fresh grants.1).1
        have valid2 := (os.socket_fresh grants2.1).1
        simp only [initSocket_granted grants, initSocket_granted grants2]
        rw [if_neg (by omega), if_neg (by omega)]
        have absent : (state.ports.portFd.insert port fd).lookup (port + 1) =
            none := by
          rw [Table.lookup_insert, if_neg (by omega)]
          exact isSealed.absent uncounted
        exact (isSealed.owns.acquire (isSealed.absent idle.le) grants.fresh
          (Kernel.isOpen_granted _ port fd)).acquire absent grants2.fresh
            (Kernel.isOpen_granted _ _ _)
    · rw [if_pos counted]
      exact isSealed.owns

def TidyPair (os : Os) (kernel : Kernel) (listeners : Int → Int) (port : Int) :
    Prop :=
  if listeners port ≠ 0 then Tidy os kernel listeners (port + 1)
  else
    (os.socket kernel = none ∧ os.socket kernel.denied = none ∧
      Tidy os kernel.denied.denied listeners (port + 1)) ∨
    (listeners (port + 1) ≤ 0 ∧ ∃ fd, os.Grants kernel port fd ∧
      ∃ fd2, os.Grants (kernel.granted port fd) (port + 1) fd2)

instance (os : Os) (kernel : Kernel) (listeners : Int → Int) (port : Int) :
    Decidable (TidyPair os kernel listeners port) :=
  inferInstanceAs (Decidable
    (if listeners port ≠ 0 then Tidy os kernel listeners (port + 1)
    else (_ ∧ _ ∧ Tidy os kernel.denied.denied listeners (port + 1)) ∨
      (_ ∧ ∃ fd, os.Grants kernel port fd ∧
        ∃ fd2, os.Grants (kernel.granted port fd) (port + 1) fd2)))

theorem Tidy.congr {os : Os} {kernel : Kernel} {listeners after : Int → Int}
    {port : Int} (tidy : Tidy os kernel listeners port)
    (here : after port = listeners port)
    (above : after (port + 1) = listeners (port + 1)) :
    Tidy os kernel after port := by
  unfold Tidy
  rw [here, above]
  exact tidy

theorem addSocketPair_sealed (isSealed : state.Sealed foreign) {os : Os}
    {port : Int}
    (tidy : TidyPair os state.kernel state.ports.listeners port) :
    (addSocketPair os state port).2.Sealed foreign := by
  change (addSocket os (addSocket os state port).2 (port + 1)).2.Sealed foreign
  unfold TidyPair at tidy
  split at tidy
  · rename_i counted
    apply addSocket_sealed (addSocket_sealed isSealed (.inl counted))
    unfold addSocket
    rw [if_pos counted]
    refine tidy.congr ?_ ?_
    · simp
    · simp only [PortTables.listeners_setListener,
        PortTables.listeners_readListener]
      rw [update_of_ne (by omega)]
  · rename_i idle
    rcases tidy with
      ⟨denied, denied2, second⟩ | ⟨uncounted, fd, grants, fd2, grants2⟩
    · apply addSocket_sealed
        (addSocket_sealed isSealed (.inr (.inl ⟨denied, denied2⟩)))
      unfold addSocket
      rw [if_neg idle]
      simp only [initSocket_denied denied, initSocket_denied denied2, if_true]
      refine second.congr ?_ ?_
      · simp
      · simp
    · apply addSocket_sealed (addSocket_sealed isSealed
        (.inr (.inr ⟨uncounted, fd, grants, fd2, grants2⟩)))
      have valid := (os.socket_fresh grants.1).1
      have valid2 := (os.socket_fresh grants2.1).1
      unfold addSocket
      rw [if_neg idle]
      simp only [initSocket_granted grants, initSocket_granted grants2]
      rw [if_neg (by omega), if_neg (by omega)]
      left
      simp

theorem addSocket_closed (os : Os) (state : SocketState) (port : Int) :
    (addSocket os state port).2.kernel.closed = state.kernel.closed := by
  rcases addSocket_cases os state port with
    ⟨-, result⟩ | ⟨-, -, result⟩ | ⟨-, -, -, result⟩ <;> simp [result]

theorem addSocketPair_closed (os : Os) (state : SocketState) (port : Int) :
    (addSocketPair os state port).2.kernel.closed = state.kernel.closed :=
  (addSocket_closed os _ (port + 1)).trans (addSocket_closed os state port)

def released (listeners : Int → Int) (port : Int) : Int → Int :=
  if listeners port = 1 then update (update listeners port 0) (port + 1) 0
  else update listeners port (listeners port - 1)

theorem removeSocket_listeners (state : SocketState) (port : Int) :
    (removeSocket state port).2.ports.listeners =
      released state.ports.listeners port := by
  unfold released
  rcases removeSocket_cases state port with ⟨last, result⟩ | ⟨shared, result⟩
  · rw [result, if_pos last, PortTables.listeners_release,
      PortTables.listeners_release, PortTables.listeners_setListener,
      update_idem]
  · rw [result, if_neg shared, PortTables.listeners_setListener]

def ClosesPair (listeners : Int → Int) (port : Int) : Prop :=
  listeners port = 1 → 0 < listeners (port + 1)

instance (listeners : Int → Int) (port : Int) :
    Decidable (ClosesPair listeners port) :=
  inferInstanceAs (Decidable (_ → _))

theorem removeSocket_sealed (isSealed : state.Sealed foreign) {port : Int}
    (pair : ClosesPair state.ports.listeners port) :
    (removeSocket state port).2.Sealed foreign ∧
      state.ClosesStored (removeSocket state port).2 := by
  have listening := removeSocket_listening isSealed.listening port
  rcases removeSocket_cases state port with ⟨last, result⟩ | ⟨-, result⟩
  · have counted : 0 < state.ports.listeners port := by omega
    have found := isSealed.found counted
    have found2 := isSealed.found (pair last)
    have kept : (state.ports.portFd.erase port).lookup (port + 1) =
        some (state.ports.portFd.subscript 0 (port + 1)) := by
      rw [Table.lookup_erase, if_neg (by omega), found2]
    have different : state.ports.portFd.subscript 0 (port + 1) ≠
        state.ports.portFd.subscript 0 port := by
      intro same
      rw [same] at found2
      have equal := isSealed.owns.once found2 found
      omega
    have owns := (isSealed.owns.release found
      (Kernel.isOpen_close state.kernel _)).release kept
        (Kernel.isOpen_close _ _)
    rw [result] at listening ⊢
    refine ⟨⟨owns, listening⟩, [_, _], rfl, by simpa using different, ?_⟩
    intro fd member
    rw [Kernel.isOpen_close, Kernel.isOpen_close]
    rcases List.mem_cons.mp member with rfl | member
    · exact ⟨⟨port + 1, found2⟩, by simp⟩
    · rw [List.mem_singleton] at member
      subst member
      exact ⟨⟨port, found⟩, by simp⟩
  · rw [result] at listening ⊢
    exact ⟨⟨isSealed.owns, listening⟩, .of_same rfl⟩

theorem removeSocket_shrinks (state : SocketState) (port : Int) :
    (∀ place fd, (removeSocket state port).2.ports.portFd.lookup place =
        some fd → state.ports.portFd.lookup place = some fd) ∧
      ∀ fd, (removeSocket state port).2.kernel.IsOpen fd →
        state.kernel.IsOpen fd := by
  rcases removeSocket_cases state port with ⟨-, result⟩ | ⟨-, result⟩
  · rw [result]
    constructor
    · intro place fd found
      change ((state.ports.portFd.erase port).erase (port + 1)).lookup place =
        some fd at found
      rw [Table.lookup_erase, Table.lookup_erase] at found
      split at found
      · cases found
      · split at found
        · cases found
        · exact found
    · intro fd isOpen
      rw [Kernel.isOpen_close, Kernel.isOpen_close] at isOpen
      exact isOpen.2.2
  · rw [result]
    exact ⟨fun place fd found => found, fun fd isOpen => isOpen⟩

theorem removeSockets_sealed (isSealed : state.Sealed foreign)
    {port port2 : Int} (pair : ClosesPair state.ports.listeners port)
    (pair2 : ClosesPair (released state.ports.listeners port) port2) :
    (removeSocket (removeSocket state port).2 port2).2.Sealed foreign ∧
      state.ClosesStored
        (removeSocket (removeSocket state port).2 port2).2 := by
  obtain ⟨middle, closes⟩ := removeSocket_sealed isSealed pair
  rw [← removeSocket_listeners] at pair2
  obtain ⟨after, closes2⟩ := removeSocket_sealed middle pair2
  exact ⟨after, closes.trans closes2 middle
    (removeSocket_shrinks state port).1 (removeSocket_shrinks _ port2).2⟩

end RtcpWorker

/-! The steps of all worker classes. -/

/-- No `bind` call is refused, nor one of the two `socket` calls for a pair
alone, and an RTCP pair is closed while both of its ports are open. -/
def WorkerEvent.LeavesNone (os : Os) (runtime : Runtime) : WorkerEvent → Prop
  | .addSource _ ip port =>
      runtime.worker.streams.routes (SockAddr.ofPort ip port) ≠ 0 ∨
      (runtime.worker.kind ≠ .rtcp ∧ runtime.sockets.Tidy os port) ∨
      (runtime.worker.kind = .rtcp ∧
        (runtime.worker.streams.routes (SockAddr.ofPort ip (port + 1)) ≠ 0 ∨
          RtcpWorker.TidyPair os runtime.kernel
            runtime.worker.ports.listeners port))
  | .removeSource srcId => runtime.worker.kind ≠ .rtcp ∨
      ∀ list ∈ runtime.worker.streams.lists srcId,
      ∀ list2 ∈ runtime.worker.streams.lists (srcId + 1),
        RtcpWorker.ClosesPair runtime.worker.ports.listeners
          list.getSourcePort ∧
        RtcpWorker.ClosesPair (RtcpWorker.released
          runtime.worker.ports.listeners list.getSourcePort)
          list2.getSourcePort
  | _ => True

instance (os : Os) (runtime : Runtime) (event : WorkerEvent) :
    Decidable (event.LeavesNone os runtime) :=
  match event with
  | .addSource _ _ _ =>
      inferInstanceAs (Decidable (_ ∨ (_ ∧ _) ∨ (_ ∧ (_ ∨ _))))
  | .removeSource srcId => inferInstanceAs (Decidable (_ ∨
      ∀ list ∈ runtime.worker.streams.lists srcId,
      ∀ list2 ∈ runtime.worker.streams.lists (srcId + 1), _ ∧ _))
  | .addDestination _ _ _ _ | .removeDestination _ _ | .packet _ _
  | .elapse _ => isTrue trivial

section Steps

variable {os : Os} {runtime next : Runtime} {event : WorkerEvent}
  {output : WorkerOutput} {foreign : Int → Prop}

def KeepsSealed (foreign : Int → Prop) (runtime next : Runtime) : Prop :=
  next.sockets.Sealed foreign ∧ runtime.sockets.ClosesStored next.sockets

theorem KeepsSealed.of_same (isSealed : runtime.sockets.Sealed foreign)
    (same : next.sockets = runtime.sockets) :
    KeepsSealed foreign runtime next := by
  unfold KeepsSealed
  rw [same]
  exact ⟨isSealed, .of_same rfl⟩

theorem Worker.PacketStep.listening {fd : Int}
    (noted : Worker.PacketStep runtime next fd)
    (listening : runtime.worker.ports.Listening) :
    next.worker.ports.Listening := by
  refine listening.recount noted.portFd fun port => ?_
  rw [noted.listeners]

theorem Worker.PacketStep.keepsSealed {fd : Int}
    (noted : Worker.PacketStep runtime next fd)
    (isSealed : runtime.sockets.Sealed foreign) :
    KeepsSealed foreign runtime next := by
  refine ⟨⟨?_, noted.listening isSealed.listening⟩,
    .of_same (congrArg Kernel.closed noted.kernel)⟩
  change Owns next.kernel.IsOpen foreign next.worker.ports.portFd
  rw [noted.kernel, noted.portFd]
  exact isSealed.owns

theorem Runtime.elapse_keepsSealed (isSealed : runtime.sockets.Sealed foreign)
    (seconds : Nat) : KeepsSealed foreign runtime (runtime.elapse seconds) :=
  ⟨⟨isSealed.owns, isSealed.listening⟩, .of_same rfl⟩

theorem PlainStep.listening (step : PlainStep os runtime next event output)
    (listening : runtime.sockets.ports.Listening) :
    next.sockets.ports.Listening := by
  cases step with
  | rejected routed sockets lists routes => rwa [sockets]
  | refused free failed sockets lists routes =>
      rw [sockets]
      exact SocketState.addSocket_listening listening _ _
  | added list free opened sockets created lists routes =>
      rw [sockets]
      exact SocketState.addSocket_listening listening _ _
  | removed list found sockets lists routes =>
      rw [sockets]
      exact SocketState.removeSocket_listening listening _
  | addedDestination list changed => rwa [changed.streamsOnly.sockets]
  | removedDestination list after changed filtered =>
      rwa [changed.streamsOnly.sockets]
  | packet noted => exact noted.listening listening
  | elapsed elapse =>
      subst elapse
      exact listening

theorem RtcpStep.listening (step : RtcpStep os runtime next event output)
    (listening : runtime.sockets.ports.Listening) :
    next.sockets.ports.Listening := by
  cases step with
  | rejected routed sockets lists routes => rwa [sockets]
  | refused free free2 failed sockets lists routes =>
      rw [sockets]
      exact RtcpWorker.addSocketPair_listening listening _ _
  | added free free2 opened sockets lists routes =>
      rw [sockets]
      exact RtcpWorker.addSocketPair_listening listening _ _
  | removed list list2 found found2 sockets lists routes =>
      rw [sockets]
      apply RtcpWorker.removeSocket_listening
      exact RtcpWorker.removeSocket_listening listening _
  | keptDestination list found rejected read => rwa [read.streamsOnly.sockets]
  | addedDestination list list2 changed => rwa [changed.streamsOnly.sockets]
  | missedDestination list found missing read =>
      rwa [read.streamsOnly.sockets]
  | removedDestination list list2 changed => rwa [changed.streamsOnly.sockets]
  | packet noted => exact noted.listening listening
  | elapsed elapse =>
      subst elapse
      exact listening

theorem Runtime.step_listening (listening : runtime.worker.ports.Listening)
    (stepped : runtime.step os event = .ok (next, output)) :
    next.worker.ports.Listening := by
  rcases eq_or_ne runtime.worker.kind .rtcp with rtcp | plain
  · exact (RtcpStep.of_step rtcp stepped).listening listening
  · exact (PlainStep.of_step plain stepped).listening listening

theorem WorkerEvent.LeavesNone.tidy {srcId : Int} {ip : InAddr} {port : Int}
    (leavesNone : LeavesNone os runtime (.addSource srcId ip port))
    (plain : runtime.worker.kind ≠ .rtcp)
    (free : runtime.worker.streams.routes (SockAddr.ofPort ip port) = 0) :
    runtime.sockets.Tidy os port := by
  rcases leavesNone.resolve_left (not_not.mpr free) with
    ⟨-, tidy⟩ | ⟨rtcp, -⟩
  · exact tidy
  · exact absurd rtcp plain

theorem WorkerEvent.LeavesNone.tidyPair {srcId : Int} {ip : InAddr} {port : Int}
    (leavesNone : LeavesNone os runtime (.addSource srcId ip port))
    (rtcp : runtime.worker.kind = .rtcp)
    (free : runtime.worker.streams.routes (SockAddr.ofPort ip port) = 0)
    (free2 : runtime.worker.streams.routes
      (SockAddr.ofPort ip (port + 1)) = 0) :
    RtcpWorker.TidyPair os runtime.kernel runtime.worker.ports.listeners
      port := by
  rcases leavesNone.resolve_left (not_not.mpr free) with
    ⟨plain, -⟩ | ⟨-, tidy⟩
  · exact absurd rtcp plain
  · exact tidy.resolve_left (not_not.mpr free2)

theorem PlainStep.keepsSealed (step : PlainStep os runtime next event output)
    (plain : runtime.worker.kind ≠ .rtcp)
    (leavesNone : event.LeavesNone os runtime)
    (isSealed : runtime.sockets.Sealed foreign) :
    KeepsSealed foreign runtime next := by
  cases step with
  | rejected routed sockets lists routes => exact .of_same isSealed sockets
  | refused free failed sockets lists routes =>
      unfold KeepsSealed
      rw [sockets]
      exact ⟨isSealed.addSocket (leavesNone.tidy plain free),
        .of_same (SocketState.addSocket_closed _ _ _)⟩
  | added list free opened sockets created lists routes =>
      unfold KeepsSealed
      rw [sockets]
      exact ⟨isSealed.addSocket (leavesNone.tidy plain free),
        .of_same (SocketState.addSocket_closed _ _ _)⟩
  | removed list found sockets lists routes =>
      unfold KeepsSealed
      rw [sockets]
      exact isSealed.removeSocket list.getSourcePort
  | addedDestination list changed =>
      exact .of_same isSealed changed.streamsOnly.sockets
  | removedDestination list after changed filtered =>
      exact .of_same isSealed changed.streamsOnly.sockets
  | packet noted => exact noted.keepsSealed isSealed
  | elapsed elapse =>
      subst elapse
      exact runtime.elapse_keepsSealed isSealed _

theorem RtcpStep.keepsSealed (step : RtcpStep os runtime next event output)
    (rtcp : runtime.worker.kind = .rtcp)
    (leavesNone : event.LeavesNone os runtime)
    (isSealed : runtime.sockets.Sealed foreign) :
    KeepsSealed foreign runtime next := by
  cases step with
  | rejected routed sockets lists routes => exact .of_same isSealed sockets
  | refused free free2 failed sockets lists routes =>
      unfold KeepsSealed
      rw [sockets]
      exact ⟨RtcpWorker.addSocketPair_sealed isSealed
          (leavesNone.tidyPair rtcp free free2),
        .of_same (RtcpWorker.addSocketPair_closed _ _ _)⟩
  | added free free2 opened sockets lists routes =>
      unfold KeepsSealed
      rw [sockets]
      exact ⟨RtcpWorker.addSocketPair_sealed isSealed
          (leavesNone.tidyPair rtcp free free2),
        .of_same (RtcpWorker.addSocketPair_closed _ _ _)⟩
  | removed list list2 found found2 sockets lists routes =>
      obtain ⟨pair, pair2⟩ := leavesNone.resolve_left (not_not.mpr rtcp)
        list found list2 found2
      unfold KeepsSealed
      rw [sockets]
      exact RtcpWorker.removeSockets_sealed isSealed pair pair2
  | keptDestination list found rejected read =>
      exact .of_same isSealed read.streamsOnly.sockets
  | addedDestination list list2 changed =>
      exact .of_same isSealed changed.streamsOnly.sockets
  | missedDestination list found missing read =>
      exact .of_same isSealed read.streamsOnly.sockets
  | removedDestination list list2 changed =>
      exact .of_same isSealed changed.streamsOnly.sockets
  | packet noted => exact noted.keepsSealed isSealed
  | elapsed elapse =>
      subst elapse
      exact runtime.elapse_keepsSealed isSealed _

theorem Runtime.step_keepsSealed (leavesNone : event.LeavesNone os runtime)
    (isSealed : runtime.sockets.Sealed foreign)
    (stepped : runtime.step os event = .ok (next, output)) :
    KeepsSealed foreign runtime next := by
  rcases eq_or_ne runtime.worker.kind .rtcp with rtcp | plain
  · exact (RtcpStep.of_step rtcp stepped).keepsSealed rtcp leavesNone isSealed
  · exact (PlainStep.of_step plain stepped).keepsSealed plain leavesNone
      isSealed

end Steps

def Runtime.Opened (start : Kernel) (runtime : Runtime) (fd : Int) : Prop :=
  runtime.kernel.IsOpen fd ∧ ¬ start.IsOpen fd

/-- The descriptors of the ports are those the worker has open. -/
def Runtime.LeaksNone (start : Kernel) (runtime : Runtime) : Prop :=
  ∀ fd, runtime.Opened start fd ↔
    ∃ port, runtime.worker.ports.portFd.lookup port = some fd

/-- As long as no step leaves a descriptor behind, no reachable state has one
that its ports do not name, and only descriptors of ports are closed. -/
theorem sockets_leakNone {os : Os} {kind : WorkerKind} {workerId : Int}
    {kernel : Kernel} {runtime : Runtime} {registry : Registry}
    (run : (workerMachine os).Run Registry.observer
      (fun runtime _ event => event.LeavesNone os runtime)
      (Runtime.start kind workerId kernel) runtime registry) :
    runtime.LeaksNone kernel ∧
      ∀ event next output, event.LeavesNone os runtime →
        (workerMachine os).step runtime event = .ok (next, output) →
        runtime.sockets.ClosesStored next.sockets := by
  have isSealed : runtime.sockets.Sealed kernel.IsOpen := by
    refine run.invariant (motive := fun runtime _ =>
      runtime.sockets.Sealed kernel.IsOpen)
      (SocketState.Sealed.empty kernel) ?_
    intro runtime next registry event output isSealed leavesNone stepped
    exact (Runtime.step_keepsSealed leavesNone isSealed stepped).1
  refine ⟨isSealed.owns.stored, ?_⟩
  intro event next output leavesNone stepped
  exact (Runtime.step_keepsSealed leavesNone isSealed stepped).2

/-- An RTCP source comes and goes, and another one comes. -/
theorem sockets_leakNone_pairs :
    ∃ runtime registry,
      (workerMachine .orderly).Run Registry.observer
        (fun runtime _ event => event.LeavesNone .orderly runtime)
        (Runtime.start .rtcp 0 .fresh) runtime registry ∧
      runtime.kernel.closed = [4, 3] ∧ runtime.LeaksNone .fresh := by
  have run : (workerMachine .orderly).Run Registry.observer
      (fun runtime _ event => event.LeavesNone .orderly runtime)
      (Runtime.start .rtcp 0 .fresh) _ _ :=
    .of_replay [.addSource 1 1 5000, .removeSource 1, .addSource 3 1 6000]
      (by decide)
  exact ⟨_, _, run, rfl, (sockets_leakNone run).1⟩

/-- A descriptor whose port another process has bound stays open. -/
theorem sockets_leak :
    ∃ kernel runtime registry,
      (workerMachine .orderly).Run Registry.observer (fun _ _ _ => True)
        (Runtime.start .forward 0 kernel) runtime registry ∧
      ¬ runtime.LeaksNone kernel := by
  let kernel : Kernel := Kernel.fresh.granted 5000 3
  have run : (workerMachine .orderly).Run Registry.observer
      (fun _ _ _ => True) (Runtime.start .forward 0 kernel) _ _ :=
    .of_replay [.addSource 1 1 5000] (by decide)
  refine ⟨kernel, _, _, run, ?_⟩
  intro leaksNone
  obtain ⟨port, found⟩ := (leaksNone 4).mp ⟨by decide, by decide⟩
  cases found

end StrManager
