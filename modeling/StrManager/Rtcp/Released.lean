import StrManager.Rtcp.Leaks

namespace StrManager

open Library Function

/-! Which ports a source opens, and which are closed with it. A port is opened
as an `int` and closed as the sixteen bits that its address keeps. -/

/-- The port that `getSourcePort` reads from an address `setAddr` has set. -/
def readBack (port : Int) : Int := ntohs (htons port)

theorem readBack_eq (port : Int) : readBack port = port % 65536 :=
  ntohs_htons port

namespace SocketState

/-- Every port that was opened is one of `ports`, and in the end the port
tables are as before and all opened descriptors are closed. -/
structure Released (before opened after : SocketState) (ports : List Int) :
    Prop where
  named : ∀ port fd, opened.kernel.IsOpen fd → ¬ before.kernel.IsOpen fd →
    opened.ports.portFd.lookup port = some fd →
    opened.ports.fdPort.lookup fd = some port → port ∈ ports
  portFd : after.ports.portFd.lookup = before.ports.portFd.lookup
  fdPort : after.ports.fdPort.lookup = before.ports.fdPort.lookup
  closed : ∀ fd, opened.kernel.IsOpen fd → ¬ before.kernel.IsOpen fd →
    ¬ after.kernel.IsOpen fd

theorem Released.of_same {before opened after : SocketState}
    (kernel : opened.kernel = before.kernel)
    (portFd : after.ports.portFd = before.ports.portFd)
    (fdPort : after.ports.fdPort = before.ports.fdPort) (ports : List Int) :
    Released before opened after ports where
  named := by
    intro port fd isOpen notOpen
    rw [kernel] at isOpen
    exact absurd isOpen notOpen
  portFd := by rw [portFd]
  fdPort := by rw [fdPort]
  closed := by
    intro fd isOpen notOpen
    rw [kernel] at isOpen
    exact absurd isOpen notOpen

theorem Released.not_of_lost {before opened after : SocketState}
    {ports : List Int} {port fd : Int}
    (found : before.ports.portFd.lookup port = some fd)
    (lost : after.ports.portFd.lookup port = none) :
    ¬ Released before opened after ports := by
  intro released
  rw [released.portFd, found] at lost
  cases lost

/-- A counted port stays open, or is read back as no other port that would be
closed in its place. A port that is opened is read back as itself, under a
descriptor that the tables do not have. -/
def Releases (os : Os) (state : SocketState) (port : Int) : Prop :=
  if state.ports.listeners port ≠ 0 then
    readBack port = port ∨ state.ports.listeners (readBack port) ≠ 1
  else
    readBack port = port ∧ ∀ fd, os.Grants state.kernel port fd →
      state.ports.fdPort.lookup fd = none

variable {os : Os} {state : SocketState} {port : Int}

theorem released_counted_iff (listening : state.ports.Listening)
    (counted : state.ports.listeners port ≠ 0) :
    let opened : SocketState := ⟨state.kernel, (state.ports.readListener
      port).setListener port (state.ports.listeners port + 1)⟩
    Released state opened (removeSocket opened (readBack port)).2
        [readBack port] ↔
      (readBack port = port ∨ state.ports.listeners (readBack port) ≠ 1) := by
  intro opened
  have listeners : opened.ports.listeners = update state.ports.listeners port
      (state.ports.listeners port + 1) := by
    simp [opened]
  rcases removeSocket_cases opened (readBack port) with
    ⟨last, removed⟩ | ⟨shared, removed⟩
  · rw [removed]
    rw [listeners, update_apply] at last
    split at last
    · omega
    · rename_i elsewhere
      refine iff_of_false ?_ (by simp [elsewhere, last])
      obtain ⟨fd, found⟩ := (listening (readBack port)).mpr (by omega)
      refine Released.not_of_lost found ?_
      change (state.ports.portFd.erase (readBack port)).lookup _ = none
      rw [Table.lookup_erase, if_pos rfl]
  · rw [removed]
    refine iff_of_true (Released.of_same ?_ ?_ ?_ _) ?_
    · rfl
    · rfl
    · rfl
    rw [listeners, update_apply] at shared
    split at shared
    · rename_i here
      exact .inl here
    · exact .inr shared

theorem released_opened_iff (listening : state.ports.Listening)
    (idle : state.ports.listeners port = 0) {fd : Int}
    (grants : os.Grants state.kernel port fd) :
    let opened : SocketState := ⟨state.kernel.granted port fd,
      (state.ports.readListener port).register port fd⟩
    Released state opened (removeSocket opened (readBack port)).2
        [readBack port] ↔
      readBack port = port ∧ state.ports.fdPort.lookup fd = none := by
  intro opened
  have found : opened.ports.portFd.lookup port = some fd := by
    change (state.ports.portFd.insert port fd).lookup port = some fd
    rw [Table.lookup_insert, if_pos rfl]
  have backward : opened.ports.fdPort.lookup fd = some port := by
    change (state.ports.fdPort.insert fd port).lookup fd = some port
    rw [Table.lookup_insert, if_pos rfl]
  by_cases same : readBack port = port
  · rw [same]
    have last : opened.ports.listeners port = 1 := by
      simp [opened]
    rcases removeSocket_cases opened port with ⟨-, removed⟩ | ⟨shared, -⟩
    · rw [removed, Table.subscript_of_lookup 0 found]
      have cleared (key : Int) :
          ((state.ports.portFd.insert port fd).erase port).lookup key =
            if key = port ∨ key = port then none
            else state.ports.portFd.lookup key := by
        rw [Table.lookup_erase, Table.lookup_insert]
        grind
      have cleared2 (key : Int) :
          ((state.ports.fdPort.insert fd port).erase fd).lookup key =
            if key = fd ∨ key = fd then none
            else state.ports.fdPort.lookup key := by
        rw [Table.lookup_erase, Table.lookup_insert]
        grind
      have absent := listening.absent idle.le
      constructor
      · intro released
        exact ⟨rfl, ((Table.lookup_cleared_iff cleared2).mp
          released.fdPort).1⟩
      · rintro ⟨-, fresh⟩
        refine ⟨?_, (Table.lookup_cleared_iff cleared).mpr ⟨absent, absent⟩,
          (Table.lookup_cleared_iff cleared2).mpr ⟨fresh, fresh⟩, ?_⟩
        · intro key other isOpen notOpen keyFound keyBackward
          rw [Kernel.isOpen_granted] at isOpen
          cases isOpen.resolve_right notOpen
          rw [backward] at keyBackward
          cases keyBackward
          exact List.mem_singleton_self port
        · intro other isOpen notOpen
          rw [Kernel.isOpen_granted] at isOpen
          rw [Kernel.isOpen_close]
          intro stillOpen
          exact stillOpen.1 (isOpen.resolve_right notOpen)
    · exact absurd last shared
  · refine iff_of_false ?_ (fun both => same both.1)
    intro released
    have named := released.named port fd
      ((Kernel.isOpen_granted _ _ _ _).mpr (.inl rfl)) grants.fresh found
      backward
    exact same (List.mem_singleton.mp named).symm

theorem released_iff (listening : state.ports.Listening)
    (accepted : (addSocket os state port).1 ≠ -1) :
    Released state (addSocket os state port).2
        (removeSocket (addSocket os state port).2 (readBack port)).2
        [readBack port] ↔
      Releases os state port := by
  unfold Releases
  rcases addSocket_cases os state port with
    ⟨counted, result⟩ | ⟨-, -, result⟩ | ⟨idle, opened, -⟩
  · rw [if_pos counted, result]
    exact released_counted_iff listening counted
  · rw [result] at accepted
    exact absurd rfl accepted
  · obtain ⟨fd, grants⟩ := (initSocket_opens_iff os state.kernel port).mp opened
    rw [if_neg (not_not.mpr idle), addSocket_granted idle grants]
    refine (released_opened_iff listening idle grants).trans ?_
    refine and_congr_right fun _ => ⟨?_, fun fresh => fresh fd grants⟩
    intro fresh other granted
    cases Option.some.inj (grants.1.symm.trans granted.1)
    exact fresh

end SocketState

namespace RtcpWorker

variable {os : Os} {state : SocketState} {port : Int}

theorem addSocket_granted {fd fd2 : Int}
    (idle : state.ports.listeners port = 0)
    (grants : os.Grants state.kernel port fd)
    (grants2 : os.Grants (state.kernel.granted port fd) (port + 1) fd2) :
    addSocket os state port =
      (1, ⟨(state.kernel.granted port fd).granted (port + 1) fd2,
        ((state.ports.readListener port).register port fd).register (port + 1)
          fd2⟩) := by
  have valid := (os.socket_fresh grants.1).1
  have valid2 := (os.socket_fresh grants2.1).1
  rcases addSocket_cases os state port with
    ⟨counted, -⟩ | ⟨-, failed, -⟩ | ⟨-, -, -, result⟩
  · exact absurd idle counted
  · simp only [initSocket_granted grants, initSocket_granted grants2] at failed
    omega
  · simp only [result, initSocket_granted grants, initSocket_granted grants2]

theorem opensPair_iff (os : Os) (kernel : Kernel) (port : Int) :
    OpensPair os kernel port ↔ ∃ fd, os.Grants kernel port fd ∧
      ∃ fd2, os.Grants (kernel.granted port fd) (port + 1) fd2 := by
  unfold OpensPair
  rw [initSocket_opens_iff]
  constructor
  · rintro ⟨⟨fd, grants⟩, opened2⟩
    rw [initSocket_granted grants, initSocket_opens_iff] at opened2
    exact ⟨fd, grants, opened2⟩
  · rintro ⟨fd, grants, granted2⟩
    rw [initSocket_granted grants, initSocket_opens_iff]
    exact ⟨⟨fd, grants⟩, granted2⟩

theorem removeSocket_erases (last : state.ports.listeners port = 1) :
    (removeSocket state port).2.ports.portFd.lookup port = none := by
  rcases removeSocket_cases state port with ⟨-, result⟩ | ⟨shared, -⟩
  · rw [result]
    change ((state.ports.portFd.erase port).erase (port + 1)).lookup port = none
    rw [Table.lookup_erase, if_neg (by omega), Table.lookup_erase, if_pos rfl]
  · exact absurd last shared

/-- A pair of counted ports stays open, or is read back as no other ports that
would be closed in its place. A pair that is opened is read back as itself,
takes no port from another pair, and has descriptors that the tables do not
have. -/
def Releases (os : Os) (state : SocketState) (port : Int) : Prop :=
  if state.ports.listeners port ≠ 0 then
    state.ports.listeners (port + 1) ≠ 0 ∧
      (readBack port = port ∨ state.ports.listeners (readBack port) ≠ 1) ∧
      (readBack (port + 1) = port + 1 ∨
        state.ports.listeners (readBack (port + 1)) ≠ 1)
  else
    (readBack port = port ∧ readBack (port + 1) = port + 1) ∧
      state.ports.portFd.lookup (port + 1) = none ∧
      ∀ fd, os.Grants state.kernel port fd → ∀ fd2,
        os.Grants (state.kernel.granted port fd) (port + 1) fd2 →
        state.ports.fdPort.lookup fd = none ∧
          state.ports.fdPort.lookup fd2 = none

theorem readBack_apart (port : Int) :
    readBack port ≠ port + 1 ∧ readBack port ≠ port + 2 ∧
      readBack (port + 1) ≠ port ∧ readBack (port + 1) ≠ port + 2 ∧
      readBack port ≠ readBack (port + 1) := by
  simp only [readBack_eq]
  omega

def removePair (state : SocketState) (port : Int) : SocketState :=
  (removeSocket (removeSocket state (readBack port)).2
    (readBack (port + 1))).2

theorem released_counted_iff (listening : state.ports.Listening)
    (counted : state.ports.listeners port ≠ 0)
    (counted2 : state.ports.listeners (port + 1) ≠ 0)
    {opened : SocketState} (kernel : opened.kernel = state.kernel)
    (portFd : opened.ports.portFd = state.ports.portFd)
    (fdPort : opened.ports.fdPort = state.ports.fdPort)
    (listeners : opened.ports.listeners = update (update state.ports.listeners
      port (state.ports.listeners port + 1)) (port + 1)
        (state.ports.listeners (port + 1) + 1)) :
    state.Released opened (removePair opened port)
        [readBack port, readBack (port + 1)] ↔
      (readBack port = port ∨ state.ports.listeners (readBack port) ≠ 1) ∧
      (readBack (port + 1) = port + 1 ∨
        state.ports.listeners (readBack (port + 1)) ≠ 1) := by
  obtain ⟨apart, -, apart2, -, differ⟩ := readBack_apart port
  unfold removePair
  have lost {place : Int} {after : SocketState}
      (last : state.ports.listeners place = 1)
      (gone : after.ports.portFd.lookup place = none) :
      ¬ state.Released opened after [readBack port, readBack (port + 1)] := by
    obtain ⟨fd, found⟩ := (listening place).mpr (by omega)
    exact SocketState.Released.not_of_lost found gone
  by_cases last : opened.ports.listeners (readBack port) = 1
  · have gone : (removeSocket (removeSocket opened (readBack port)).2
        (readBack (port + 1))).2.ports.portFd.lookup (readBack port) = none := by
      cases found : (removeSocket (removeSocket opened (readBack port)).2
          (readBack (port + 1))).2.ports.portFd.lookup (readBack port) with
      | none => rfl
      | some fd =>
          have before := (removeSocket_shrinks _ _).1 _ _ found
          rw [removeSocket_erases last] at before
          cases before
    rw [listeners, update_of_ne apart, update_apply] at last
    split at last
    · omega
    · rename_i elsewhere
      exact iff_of_false (lost last gone) (by simp [elsewhere, last])
  · have first : readBack port = port ∨
        state.ports.listeners (readBack port) ≠ 1 := by
      rw [listeners, update_of_ne apart, update_apply] at last
      split at last
      · rename_i here
        exact .inl here
      · exact .inr last
    obtain ⟨middle, shared⟩ : ∃ middle, middle =
      (removeSocket opened (readBack port)).2 := ⟨_, rfl⟩
    rw [← shared]
    rw [removeSocket_shared _ rfl last] at shared
    dsimp only at shared
    have second : middle.ports.listeners (readBack (port + 1)) =
        if readBack (port + 1) = port + 1 then
          state.ports.listeners (port + 1) + 1
        else state.ports.listeners (readBack (port + 1)) := by
      rw [shared, PortTables.listeners_setListener, update_of_ne differ.symm,
        listeners, update_apply, update_of_ne apart2]
    by_cases last2 : middle.ports.listeners (readBack (port + 1)) = 1
    · have gone := removeSocket_erases last2
      rw [second] at last2
      split at last2
      · omega
      · rename_i elsewhere
        exact iff_of_false (lost last2 gone) (by simp [elsewhere, last2])
    · rw [removeSocket_shared _ rfl last2, shared]
      refine iff_of_true (.of_same kernel ?_ ?_ _) ⟨first, ?_⟩
      · exact portFd
      · exact fdPort
      · rw [second] at last2
        split at last2
        · rename_i here
          exact .inl here
        · exact .inr last2

theorem not_released_of_second {opened after : SocketState} {kernel : Kernel}
    {fd fd2 : Int} (fresh : ¬ state.kernel.IsOpen fd2)
    (granted : opened.kernel =
      (kernel.granted (port + 1) fd).granted (port + 1 + 1) fd2)
    (portFd : opened.ports.portFd =
      (state.ports.portFd.insert (port + 1) fd).insert (port + 1 + 1) fd2)
    (fdPort : opened.ports.fdPort =
      (state.ports.fdPort.insert fd (port + 1)).insert fd2 (port + 1 + 1)) :
    ¬ state.Released opened after [readBack port, readBack (port + 1)] := by
  intro released
  obtain ⟨-, apart, -, apart2, -⟩ := readBack_apart port
  have named := released.named (port + 1 + 1) fd2
    (by rw [granted, Kernel.isOpen_granted]; exact .inl rfl) fresh
    (by rw [portFd, Table.lookup_insert, if_pos rfl])
    (by rw [fdPort, Table.lookup_insert, if_pos rfl])
  simp only [List.mem_cons, List.not_mem_nil, or_false] at named
  rcases named with equal | equal
  · exact apart (by omega)
  · exact apart2 (by omega)

theorem removePair_last {fd fd2 : Int} (same : readBack port = port)
    (same2 : readBack (port + 1) = port + 1)
    (last : state.ports.listeners port = 1)
    (found : state.ports.portFd.lookup port = some fd)
    (found2 : state.ports.portFd.lookup (port + 1) = some fd2) :
    let after := removePair state port
    after.kernel = (state.kernel.close fd).close fd2 ∧
      after.ports.portFd =
        (state.ports.portFd.erase port).erase (port + 1) ∧
      after.ports.fdPort = (state.ports.fdPort.erase fd).erase fd2 := by
  unfold removePair
  rw [same, same2, removeSocket_last last found found2]
  dsimp only
  rw [removeSocket_shared 0 (by simp) zero_ne_one]
  exact ⟨rfl, rfl, rfl⟩

theorem released_opened_iff (listening : state.ports.Listening)
    (idle : state.ports.listeners port = 0) {fd fd2 : Int}
    (fresh : ¬ state.kernel.IsOpen fd) (fresh2 : ¬ state.kernel.IsOpen fd2)
    (differ : fd ≠ fd2) {opened : SocketState}
    (granted : opened.kernel =
      (state.kernel.granted port fd).granted (port + 1) fd2)
    (portFd : opened.ports.portFd =
      (state.ports.portFd.insert port fd).insert (port + 1) fd2)
    (fdPort : opened.ports.fdPort =
      (state.ports.fdPort.insert fd port).insert fd2 (port + 1))
    (count : opened.ports.listeners port = 1) :
    state.Released opened (removePair opened port)
        [readBack port, readBack (port + 1)] ↔
      (readBack port = port ∧ readBack (port + 1) = port + 1) ∧
        state.ports.portFd.lookup (port + 1) = none ∧
        state.ports.fdPort.lookup fd = none ∧
        state.ports.fdPort.lookup fd2 = none := by
  have found : opened.ports.portFd.lookup port = some fd := by
    rw [portFd, Table.lookup_insert, if_neg (by omega), Table.lookup_insert,
      if_pos rfl]
  have found2 : opened.ports.portFd.lookup (port + 1) = some fd2 := by
    rw [portFd, Table.lookup_insert, if_pos rfl]
  have backward : opened.ports.fdPort.lookup fd = some port := by
    rw [fdPort, Table.lookup_insert, if_neg differ, Table.lookup_insert,
      if_pos rfl]
  have backward2 : opened.ports.fdPort.lookup fd2 = some (port + 1) := by
    rw [fdPort, Table.lookup_insert, if_pos rfl]
  have isOpen_iff (other : Int) : opened.kernel.IsOpen other ↔
      other = fd2 ∨ other = fd ∨ state.kernel.IsOpen other := by
    rw [granted, Kernel.isOpen_granted, Kernel.isOpen_granted]
  by_cases both : readBack port = port ∧ readBack (port + 1) = port + 1
  · obtain ⟨same, same2⟩ := both
    obtain ⟨kernel, portFd2, fdPort2⟩ :=
      removePair_last same same2 count found found2
    have absent := listening.absent idle.le
    have cleared (key : Int) :
        (removePair opened port).ports.portFd.lookup key =
          if key = port ∨ key = port + 1 then none
          else state.ports.portFd.lookup key := by
      rw [portFd2, portFd]
      simp only [Table.lookup_erase, Table.lookup_insert]
      grind
    have cleared2 (key : Int) :
        (removePair opened port).ports.fdPort.lookup key =
          if key = fd ∨ key = fd2 then none
          else state.ports.fdPort.lookup key := by
      rw [fdPort2, fdPort]
      simp only [Table.lookup_erase, Table.lookup_insert]
      grind
    constructor
    · intro released
      exact ⟨⟨same, same2⟩, ((Table.lookup_cleared_iff cleared).mp
        released.portFd).2, (Table.lookup_cleared_iff cleared2).mp
          released.fdPort⟩
    · rintro ⟨-, absent2, unused⟩
      refine ⟨?_, (Table.lookup_cleared_iff cleared).mpr ⟨absent, absent2⟩,
        (Table.lookup_cleared_iff cleared2).mpr unused, ?_⟩
      · intro key other isOpen notOpen _ keyBackward
        rw [isOpen_iff] at isOpen
        rw [same, same2]
        rcases isOpen with rfl | rfl | wasOpen
        · cases Option.some.inj (backward2.symm.trans keyBackward)
          simp
        · cases Option.some.inj (backward.symm.trans keyBackward)
          simp
        · exact absurd wasOpen notOpen
      · intro other isOpen notOpen
        rw [isOpen_iff] at isOpen
        rw [kernel, Kernel.isOpen_close, Kernel.isOpen_close]
        rintro ⟨differs2, differs, -⟩
        rcases isOpen with here | here | wasOpen
        · exact differs2 here
        · exact differs here
        · exact notOpen wasOpen
  · refine iff_of_false (fun released => both ?_) (fun holds => both holds.1)
    obtain ⟨apart, -, apart2, -, -⟩ := readBack_apart port
    have named := released.named port fd
      ((isOpen_iff fd).mpr (.inr (.inl rfl))) fresh found backward
    have named2 := released.named (port + 1) fd2
      ((isOpen_iff fd2).mpr (.inl rfl)) fresh2 found2 backward2
    simp only [List.mem_cons, List.not_mem_nil, or_false] at named named2
    exact ⟨(named.resolve_right apart2.symm).symm,
      (named2.resolve_left apart.symm).symm⟩

theorem released_iff (listening : state.ports.Listening)
    (accepted : (addSocketPair os state port).1 = true) :
    state.Released (addSocketPair os state port).2
        (removePair (addSocketPair os state port).2 port)
        [readBack port, readBack (port + 1)] ↔
      Releases os state port := by
  rw [addSocketPair_fst, Bool.and_eq_true, bne_iff_ne, bne_iff_ne] at accepted
  obtain ⟨opens, opens2⟩ := accepted
  change state.Released (addSocket os (addSocket os state port).2 (port + 1)).2
    (removePair (addSocket os (addSocket os state port).2 (port + 1)).2 port)
      _ ↔ _
  unfold Releases
  by_cases counted : state.ports.listeners port = 0
  · rw [if_neg (not_not.mpr counted)]
    rw [addSocket_opens_iff] at opens
    obtain ⟨fd, grants, fd2, grants2⟩ := (opensPair_iff os state.kernel port).mp
      (opens.resolve_left (not_not.mpr counted))
    have fresh2 := grants2.fresh
    rw [Kernel.isOpen_granted, not_or] at fresh2
    have first := addSocket_granted counted grants grants2
    rw [first, addSocket_counted os 1 (by simp) one_ne_zero]
    refine (released_opened_iff listening counted grants.fresh fresh2.2
      (Ne.symm fresh2.1) rfl rfl rfl (by simp)).trans ?_
    refine and_congr_right fun _ => and_congr_right fun _ => ⟨?_, ?_⟩
    · intro unused other granted other2 granted2
      cases Option.some.inj (grants.1.symm.trans granted.1)
      cases Option.some.inj (grants2.1.symm.trans granted2.1)
      exact unused
    · intro unused
      exact unused fd grants fd2 grants2
  · rw [if_pos counted]
    rw [addSocket_counted os _ rfl counted] at opens2 ⊢
    by_cases counted2 : state.ports.listeners (port + 1) = 0
    · refine iff_of_false ?_ (fun holds => holds.1 counted2)
      rw [addSocket_opens_iff] at opens2
      have idle : ((state.ports.readListener port).setListener port
          (state.ports.listeners port + 1)).listeners (port + 1) = 0 := by
        simp [counted2]
      obtain ⟨fd, grants, fd2, grants2⟩ := (opensPair_iff os state.kernel
        (port + 1)).mp (opens2.resolve_left (not_not.mpr idle))
      have fresh2 := grants2.fresh
      rw [Kernel.isOpen_granted, not_or] at fresh2
      have second : addSocket os ⟨state.kernel, (state.ports.readListener
          port).setListener port (state.ports.listeners port + 1)⟩ (port + 1) =
          _ := addSocket_granted idle grants grants2
      dsimp only
      rw [second]
      exact not_released_of_second fresh2.2 rfl rfl rfl
    · rw [addSocket_counted os (state.ports.listeners (port + 1)) (by simp)
        counted2]
      refine (released_counted_iff listening counted counted2 ?_ ?_ ?_
        ?_).trans (and_iff_right counted2).symm
      · rfl
      · rfl
      · rfl
      · simp

end RtcpWorker

/-! Adding a source and removing it again. -/

def WorkerKind.listIds : WorkerKind → Int → List Int
  | .forward, srcId | .stats, srcId => [srcId]
  | .rtcp, srcId => [srcId, srcId + 1]

namespace Runtime

def sourcePorts (runtime : Runtime) (srcId : Int) : List Int :=
  (runtime.worker.kind.listIds srcId).filterMap fun listId =>
    (runtime.worker.streams.lists listId).map StreamList.getSourcePort

/-- What adding the source opened, removing it closes, under the ports that its
lists have. -/
def ReleasesPorts (runtime added : Runtime) (srcId : Int) : Prop :=
  ∃ removed messages, added.removeSource srcId = .ok (removed, messages) ∧
    runtime.sockets.Released added.sockets removed.sockets
      (added.sourcePorts srcId)

def Releases (os : Os) (runtime : Runtime) (port : Int) : Prop :=
  match runtime.worker.kind with
  | .forward | .stats => runtime.sockets.Releases os port
  | .rtcp => RtcpWorker.Releases os runtime.sockets port

end Runtime

theorem PlainStep.releases_iff {os : Os} {runtime next : Runtime}
    {srcId port : Int} {ip : InAddr} (plain : runtime.worker.kind ≠ .rtcp)
    (same : runtime.SameWorker next)
    (listening : runtime.worker.ports.Listening)
    (step : PlainStep os runtime next (.addSource srcId ip port)
      (.added true)) :
    runtime.ReleasesPorts next srcId ↔ runtime.sockets.Releases os port := by
  cases step with
  | added list free opened sockets created lists routes =>
      have plainNext : next.worker.kind ≠ .rtcp := by
        rw [same.1]
        exact plain
      have stored : next.worker.streams.lists srcId = some list := by
        rw [lists, update_self]
      have sourcePort : list.getSourcePort = readBack port := by
        rw [StreamList.getSourcePort, created, WorkerKind.newList_source]
        rfl
      have ports : next.sourcePorts srcId = [readBack port] := by
        have listIds : next.worker.kind.listIds srcId = [srcId] := by
          cases kind : next.worker.kind with
          | forward => rfl
          | stats => rfl
          | rtcp => exact absurd kind plainNext
        simp [Runtime.sourcePorts, listIds, stored, sourcePort]
      unfold Runtime.ReleasesPorts
      rw [Runtime.removeSource_of_plain plainNext, ports, sockets,
        ← SocketState.released_iff listening opened]
      rcases Worker.removeSource_cases next srcId with
        ⟨missing, -⟩ | ⟨found, removed, messages, foundHere, called, closed, -⟩
      · rw [stored] at missing
        cases missing
      · rw [stored] at foundHere
        cases foundHere
        rw [sourcePort, sockets] at closed
        rw [← closed]
        constructor
        · rintro ⟨other, messages2, called2, released⟩
          rw [called] at called2
          cases called2
          exact released
        · intro released
          exact ⟨removed, messages, called, released⟩

theorem RtcpStep.releases_iff {os : Os} {runtime next : Runtime}
    {srcId port : Int} {ip : InAddr} (rtcp : runtime.worker.kind = .rtcp)
    (same : runtime.SameWorker next)
    (listening : runtime.worker.ports.Listening)
    (step : RtcpStep os runtime next (.addSource srcId ip port)
      (.added true)) :
    runtime.ReleasesPorts next srcId ↔
      RtcpWorker.Releases os runtime.sockets port := by
  cases step with
  | added free free2 opened sockets lists routes =>
      have rtcpNext : next.worker.kind = .rtcp := same.1.trans rtcp
      have stored : next.worker.streams.lists srcId = some (StreamList.create
          srcId (UdpStream.create srcId ip port)) := by
        rw [lists, update_of_ne (by omega), update_self]
      have stored2 : next.worker.streams.lists (srcId + 1) =
          some (StreamList.create (srcId + 1)
            (UdpStream.create (srcId + 1) ip (port + 1))) := by
        rw [lists, update_self]
      have ports : next.sourcePorts srcId =
          [readBack port, readBack (port + 1)] := by
        simp only [Runtime.sourcePorts, rtcpNext, WorkerKind.listIds,
          List.filterMap_cons, stored, stored2, Option.map_some,
          List.filterMap_nil]
        rfl
      unfold Runtime.ReleasesPorts Runtime.removeSource
      rw [rtcpNext, ports, sockets,
        ← RtcpWorker.released_iff listening opened]
      rcases RtcpWorker.removeSource_cases next srcId with
        ⟨missing, -⟩ |
          ⟨found, found2, removed, foundHere, foundHere2, called, closed, -⟩
      · rw [stored, stored2] at missing
        rcases missing with missing | missing <;> cases missing
      · rw [stored] at foundHere
        cases foundHere
        rw [stored2] at foundHere2
        cases foundHere2
        rw [sockets] at closed
        have closedPair : removed.sockets = RtcpWorker.removePair
          (RtcpWorker.addSocketPair os runtime.sockets port).2 port := closed
        rw [← closedPair]
        simp only [called, bind, Except.bind, pure, Except.pure]
        constructor
        · rintro ⟨other, messages, equal, released⟩
          cases equal
          exact released
        · intro released
          exact ⟨removed, [], rfl, released⟩

theorem workerMachine_run_listening {os : Os} {kind : WorkerKind}
    {workerId : Int} {kernel : Kernel} {Record : Type y}
    {observer : Observer WorkerEvent WorkerOutput Record}
    {Allowed : Runtime → Record → WorkerEvent → Prop}
    {runtime : Runtime} {record : Record}
    (run : (workerMachine os).Run observer Allowed
      (Runtime.start kind workerId kernel) runtime record) :
    runtime.worker.ports.Listening := by
  refine run.invariant (motive := fun runtime _ =>
    runtime.worker.ports.Listening) .of_empty ?_
  intro runtime next record event output listening _ stepped
  exact Runtime.step_listening listening stepped

/-- In every reachable state an accepted source releases what it opened exactly
when its ports are read back as they were opened, or nothing is opened for them
and nothing closed. -/
theorem releasesPorts_iff {os : Os} {kind : WorkerKind} {workerId : Int}
    {kernel : Kernel} {runtime next : Runtime}
    (run : (workerMachine os).Run Observer.none (fun _ _ _ => True)
      (Runtime.start kind workerId kernel) runtime ())
    {srcId port : Int} {ip : InAddr}
    (accepted : (workerMachine os).step runtime (.addSource srcId ip port) =
      .ok (next, .added true)) :
    runtime.ReleasesPorts next srcId ↔ runtime.Releases os port := by
  have listening := workerMachine_run_listening run
  have stepped : runtime.step os (.addSource srcId ip port) =
    .ok (next, .added true) := accepted
  have same := Runtime.step_sameWorker stepped
  unfold Runtime.Releases
  cases kind : runtime.worker.kind with
  | forward =>
      have plain : runtime.worker.kind ≠ .rtcp := by simp [kind]
      exact (PlainStep.of_step plain stepped).releases_iff plain same
        listening
  | stats =>
      have plain : runtime.worker.kind ≠ .rtcp := by simp [kind]
      exact (PlainStep.of_step plain stepped).releases_iff plain same
        listening
  | rtcp =>
      exact (RtcpStep.of_step kind stepped).releases_iff kind same
        listening

theorem releasesPorts_pair :
    ∃ runtime next, (workerMachine .orderly).Run Observer.none
        (fun _ _ _ => True) (Runtime.start .rtcp 0 .fresh) runtime () ∧
      (workerMachine .orderly).step runtime (.addSource 1 1 65534) =
        .ok (next, .added true) ∧
      runtime.ReleasesPorts next 1 := by
  have run : (workerMachine .orderly).Run Observer.none (fun _ _ _ => True)
      (Runtime.start .rtcp 0 .fresh) _ _ := .start
  refine ⟨_, _, run, rfl, (releasesPorts_iff run rfl).mpr ?_⟩
  refine ⟨by decide, rfl, fun fd _ fd2 _ => ⟨rfl, rfl⟩⟩

/-- Port 70000 is opened as port 4464, and stays in the tables when that one is
to be closed. -/
theorem releasesPorts_wide :
    ∃ runtime next, (workerMachine .orderly).Run Observer.none
        (fun _ _ _ => True) (Runtime.start .forward 0 .fresh) runtime () ∧
      (workerMachine .orderly).step runtime (.addSource 1 1 70000) =
        .ok (next, .added true) ∧
      ¬ runtime.ReleasesPorts next 1 := by
  refine ⟨_, _, .start, rfl, ?_⟩
  rintro ⟨removed, messages, called, released⟩
  have named := released.named 70000 3 (by decide) (by decide) rfl rfl
  exact absurd named (by decide)

end StrManager
