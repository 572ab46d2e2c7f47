import StrManager.Worker.Rtcp

namespace StrManager

open Library Function

/-! The sockets of an RTCP worker. A source opens the pair of its RTP port and
the next port, and both reference counts go through `add_socket` twice: the odd
one of a pair counts one more than the sources, and keeps a negative count when
the pair is closed. -/

namespace RtcpWorker

theorem addSocket_cases (os : Os) (state : SocketState) (port : Int) :
    (state.ports.listeners port ≠ 0 ∧
      addSocket os state port =
        (0, ⟨state.kernel, (state.ports.readListener port).setListener port
          (state.ports.listeners port + 1)⟩)) ∨
    (state.ports.listeners port = 0 ∧
      ((initSocket os state.kernel port).1 = -1 ∨
        (initSocket os (initSocket os state.kernel port).2
          (port + 1)).1 = -1) ∧
      addSocket os state port =
        (-1, ⟨(initSocket os (initSocket os state.kernel port).2
          (port + 1)).2, state.ports.readListener port⟩)) ∨
    (state.ports.listeners port = 0 ∧
      (initSocket os state.kernel port).1 ≠ -1 ∧
      (initSocket os (initSocket os state.kernel port).2 (port + 1)).1 ≠ -1 ∧
      addSocket os state port =
        (1, ⟨(initSocket os (initSocket os state.kernel port).2 (port + 1)).2,
          ((state.ports.readListener port).register port
            (initSocket os state.kernel port).1).register (port + 1)
            (initSocket os (initSocket os state.kernel port).2
              (port + 1)).1⟩)) := by
  unfold addSocket
  rcases eq_or_ne (state.ports.listeners port) 0 with idle | counted
  · right
    simp only [idle, ne_eq, not_true_eq_false, if_false, true_and]
    rcases eq_or_ne (initSocket os state.kernel port).1 (-1) with failed | opened
    · exact .inl ⟨.inl failed, by rw [if_pos failed]⟩
    · rcases eq_or_ne (initSocket os (initSocket os state.kernel port).2
        (port + 1)).1 (-1) with failed2 | opened2
      · exact .inl ⟨.inr failed2, by rw [if_neg opened, if_pos failed2]⟩
      · exact .inr ⟨opened, opened2, by rw [if_neg opened, if_neg opened2]⟩
  · exact .inl ⟨counted, by simp [counted]⟩

theorem removeSocket_cases (state : SocketState) (port : Int) :
    (state.ports.listeners port = 1 ∧
      removeSocket state port =
        (true, ⟨(state.kernel.close (state.ports.portFd.subscript 0 port)).close
            (state.ports.portFd.subscript 0 (port + 1)),
          ((state.ports.setListener port 0).release port
            (state.ports.portFd.subscript 0 port)).release (port + 1)
            (state.ports.portFd.subscript 0 (port + 1))⟩)) ∨
    (state.ports.listeners port ≠ 1 ∧
      removeSocket state port =
        (false, ⟨state.kernel,
          state.ports.setListener port (state.ports.listeners port - 1)⟩)) := by
  unfold removeSocket
  rcases eq_or_ne (state.ports.listeners port) 1 with last | shared
  · left
    refine ⟨last, ?_⟩
    simp [last, PortTables.setListener]
  · right
    refine ⟨shared, ?_⟩
    have remaining : state.ports.listeners port - 1 ≠ 0 := by omega
    simp [remaining]

theorem addSocket_counted (os : Os) {state : SocketState} {port : Int}
    (count : Int) (count_eq : state.ports.listeners port = count)
    (counted : count ≠ 0) :
    addSocket os state port = (0, ⟨state.kernel,
      (state.ports.readListener port).setListener port (count + 1)⟩) := by
  subst count_eq
  rcases addSocket_cases os state port with
    ⟨-, result⟩ | ⟨idle, -⟩ | ⟨idle, -⟩
  · exact result
  · exact absurd idle counted
  · exact absurd idle counted

theorem removeSocket_shared {state : SocketState} {port : Int} (count : Int)
    (count_eq : state.ports.listeners port = count) (shared : count ≠ 1) :
    removeSocket state port = (false,
      ⟨state.kernel, state.ports.setListener port (count - 1)⟩) := by
  subst count_eq
  rcases removeSocket_cases state port with ⟨last, -⟩ | ⟨-, result⟩
  · exact absurd last shared
  · exact result

theorem removeSocket_last {state : SocketState} {port fd fd2 : Int}
    (last : state.ports.listeners port = 1)
    (found : state.ports.portFd.lookup port = some fd)
    (found2 : state.ports.portFd.lookup (port + 1) = some fd2) :
    removeSocket state port =
      (true, ⟨(state.kernel.close fd).close fd2,
        ((state.ports.setListener port 0).release port fd).release (port + 1)
          fd2⟩) := by
  rcases removeSocket_cases state port with ⟨-, result⟩ | ⟨shared, -⟩
  · rw [result, Table.subscript_of_lookup 0 found,
      Table.subscript_of_lookup 0 found2]
  · exact absurd last shared

theorem addSocket_listening {state : SocketState}
    (listening : state.ports.Listening) (os : Os) (port : Int) :
    (addSocket os state port).2.ports.Listening := by
  rcases addSocket_cases os state port with
    ⟨counted, result⟩ | ⟨-, -, result⟩ | ⟨-, -, -, result⟩
  · rw [result]
    exact listening.count counted
  · rw [result]
    exact listening.readListener port
  · rw [result]
    exact ((listening.readListener port).register port _).register (port + 1) _

theorem addSocketPair_listening {state : SocketState}
    (listening : state.ports.Listening) (os : Os) (port : Int) :
    (addSocketPair os state port).2.ports.Listening :=
  addSocket_listening (addSocket_listening listening os port) os (port + 1)

theorem removeSocket_listening {state : SocketState}
    (listening : state.ports.Listening) (port : Int) :
    (removeSocket state port).2.ports.Listening := by
  rcases removeSocket_cases state port with ⟨-, result⟩ | ⟨shared, result⟩
  · rw [result]
    exact (listening.close port _).release (port + 1) _
  · rw [result]
    exact listening.discount shared

theorem addSocketPair_fst (os : Os) (state : SocketState) (port : Int) :
    (addSocketPair os state port).1 =
      ((addSocket os state port).1 != -1 &&
        (addSocket os (addSocket os state port).2 (port + 1)).1 != -1) := rfl

theorem addSocketPair_counted (os : Os) {state : SocketState} {port : Int}
    (count count2 : Int) (count_eq : state.ports.listeners port = count)
    (counted : count ≠ 0)
    (count_eq2 : state.ports.listeners (port + 1) = count2)
    (counted2 : count2 ≠ 0) :
    addSocketPair os state port = (true, ⟨state.kernel,
      (((state.ports.readListener port).setListener port
        (count + 1)).readListener (port + 1)).setListener (port + 1)
          (count2 + 1)⟩) := by
  unfold addSocketPair
  rw [addSocket_counted os count count_eq counted]
  dsimp only
  rw [addSocket_counted os count2 (by simpa using count_eq2) counted2]
  rfl

theorem addSocketPair_opened {os : Os} {state : SocketState}
    {kernel : Kernel} {ports : PortTables} {port fd fd2 : Int}
    (opened : addSocket os state port =
      (1, ⟨kernel, (ports.register port fd).register (port + 1) fd2⟩)) :
    addSocketPair os state port = (true, ⟨kernel,
      (((ports.register port fd).register (port + 1) fd2).readListener
        (port + 1)).setListener (port + 1) 2⟩) := by
  unfold addSocketPair
  rw [opened]
  dsimp only
  rw [addSocket_counted os 1 (by simp) one_ne_zero]
  rfl

/-- The operating system grants bound descriptors for a port and the next
one. -/
def OpensPair (os : Os) (kernel : Kernel) (port : Int) : Prop :=
  (initSocket os kernel port).1 ≠ -1 ∧
    (initSocket os (initSocket os kernel port).2 (port + 1)).1 ≠ -1

/-- Both `add_socket` calls for a source on the port succeed: each finds its
port counted or opens the pair that starts there. -/
def CanOpenPair (os : Os) (state : SocketState) (port : Int) : Prop :=
  if state.ports.listeners port = 0 then OpensPair os state.kernel port
  else state.ports.listeners (port + 1) ≠ 0 ∨
    OpensPair os state.kernel (port + 1)

theorem addSocket_opens_iff (os : Os) (state : SocketState) (port : Int) :
    (addSocket os state port).1 ≠ -1 ↔
      state.ports.listeners port ≠ 0 ∨ OpensPair os state.kernel port := by
  unfold OpensPair
  rcases addSocket_cases os state port with
    ⟨counted, result⟩ | ⟨idle, failed, result⟩ | ⟨-, opened, opened2, result⟩
  · simp [result, counted]
  · rw [result]
    simp only [ne_eq, not_true_eq_false, idle, false_or, false_iff, not_and,
      not_not]
    intro opened
    exact failed.resolve_left opened
  · simp [result, opened, opened2]

theorem addSocketPair_opens_iff (os : Os) (state : SocketState) (port : Int) :
    (addSocketPair os state port).1 = true ↔ CanOpenPair os state port := by
  rw [addSocketPair_fst, Bool.and_eq_true, bne_iff_ne, bne_iff_ne,
    addSocket_opens_iff os (addSocket os state port).2]
  unfold CanOpenPair
  rcases addSocket_cases os state port with
    ⟨counted, result⟩ | ⟨idle, failed, result⟩ |
      ⟨idle, opened, opened2, result⟩
  · simp [result, counted]
  · rw [if_pos idle, result]
    unfold OpensPair
    simp only [ne_eq, not_true_eq_false, false_and, false_iff, not_and,
      not_not]
    intro opened
    exact failed.resolve_left opened
  · rw [if_pos idle, result]
    simp [OpensPair, opened, opened2]

instance : Decidable (CanOpenPair os state port) :=
  decidable_of_iff _ (addSocketPair_opens_iff os state port)

instance (os : Os) (kernel : Kernel) (port : Int) :
    Decidable (OpensPair os kernel port) :=
  inferInstanceAs (Decidable (_ ∧ _))

/-- The pair of the port is refused, and then the second `add_socket` call
opens the pair of the next port. -/
def OpensSecondOnly (os : Os) (state : SocketState) (port : Int) : Prop :=
  state.ports.listeners port = 0 ∧ ¬ OpensPair os state.kernel port ∧
    state.ports.listeners (port + 1) = 0 ∧
    OpensPair os (initSocket os (initSocket os state.kernel port).2
      (port + 1)).2 (port + 1)

instance (os : Os) (state : SocketState) (port : Int) :
    Decidable (OpensSecondOnly os state port) :=
  inferInstanceAs (Decidable (_ ∧ _ ∧ _ ∧ _))

theorem addSocketPair_portFd (os : Os) {state : SocketState} {port fd : Int}
    (counted : state.ports.listeners port ≠ 0)
    (found : (addSocketPair os state port).2.ports.portFd.lookup port =
      some fd) : state.ports.portFd.lookup port = some fd := by
  have first := addSocket_counted os _ rfl counted
  change (addSocket os (addSocket os state port).2
    (port + 1)).2.ports.portFd.lookup port = some fd at found
  rw [first] at found
  rcases addSocket_cases os ⟨state.kernel,
    (state.ports.readListener port).setListener port
      (state.ports.listeners port + 1)⟩ (port + 1) with
    ⟨-, result⟩ | ⟨-, -, result⟩ | ⟨-, -, -, result⟩
  · rw [result] at found
    exact found
  · rw [result] at found
    exact found
  · rw [result] at found
    change ((state.ports.portFd.insert (port + 1) _).insert (port + 1 + 1)
      _).lookup port = some fd at found
    rwa [Table.lookup_insert, if_neg (by omega), Table.lookup_insert,
      if_neg (by omega)] at found

theorem initPair_frame {os : Os} {kernel : Kernel} {fd : Int}
    {bound : Option (BitVec 16)} (port : Int)
    (found : kernel.sockets.lookup fd = some bound) :
    (initSocket os (initSocket os kernel port).2
      (port + 1)).2.sockets.lookup fd = some bound :=
  initSocket_frame (port + 1) (initSocket_frame port found)

theorem initPair_bound {os : Os} (exclusive : os.Exclusive) (kernel : Kernel)
    {port : Int} (nonzero : htons (port + 1) ≠ 0) :
    (initSocket os (initSocket os kernel port).2 (port + 1)).2.Bound
      (htons (port + 1)) := by
  rcases eq_or_ne (initSocket os (initSocket os kernel port).2
    (port + 1)).1 (-1) with failed | opened
  · have taken := (exclusive.initSocket_fails_iff _ nonzero).mp failed
    exact taken.initSocket (port + 1)
  · exact bound_of_initSocket opened

end RtcpWorker

/-- The state of the sockets when `sources` counts the sources on each RTP
port. The counts of `clean` ports never go below zero. -/
structure PairCounted (clean : Int → Prop) (state : SocketState)
    (sources : Int → Nat) : Prop extends state.Described where
  apart : ∀ port, 0 < sources port → sources (port + 1) = 0
  counts : ∀ port, 0 < sources port →
    state.ports.listeners port = sources port ∧
      state.ports.listeners (port + 1) = sources port + 1
  idle : ∀ port, sources port = 0 → sources (port - 1) = 0 →
    state.ports.listeners port ≤ 0 ∧
      (clean port → state.ports.listeners port = 0)
  listening : ∀ port,
    (∃ fd, state.ports.portFd.lookup port = some fd) ↔
      0 < sources port ∨ 0 < sources (port - 1)

namespace PairCounted

variable {clean : Int → Prop} {state next : SocketState} {sources : Int → Nat}

theorem empty (clean : Int → Prop) (kernel : Kernel) :
    PairCounted clean ⟨kernel, PortTables.empty⟩ fun _ => 0 where
  toDescribed := SocketState.Described.empty kernel
  apart := by simp
  counts := by simp
  idle := by simp
  listening := by simp [PortTables.empty]

theorem absent (counted : PairCounted clean state sources) {port : Int}
    (here : sources port = 0) (below : sources (port - 1) = 0) :
    state.ports.portFd.lookup port = none := by
  cases found : state.ports.portFd.lookup port with
  | none => rfl
  | some fd =>
      have used := (counted.listening port).mp ⟨fd, found⟩
      omega

theorem recount (counted : PairCounted clean state sources)
    (opened : ∀ fd bound, state.kernel.sockets.lookup fd = some bound →
      next.kernel.sockets.lookup fd = some bound)
    (portFd : next.ports.portFd = state.ports.portFd)
    (fdPort : next.ports.fdPort = state.ports.fdPort)
    (listeners : ∀ port,
      next.ports.listeners port = state.ports.listeners port ∨
        (sources port = 0 ∧ sources (port - 1) = 0 ∧ ¬ clean port ∧
          next.ports.listeners port ≤ 0)) :
    PairCounted clean next sources where
  toDescribed := counted.toDescribed.frame opened portFd fdPort
  apart := counted.apart
  counts := by
    intro port used
    obtain ⟨count, count2⟩ := counted.counts port used
    constructor
    · rcases listeners port with same | ⟨unused, -⟩
      · rw [same, count]
      · omega
    · rcases listeners (port + 1) with same | ⟨-, unused, -⟩
      · rw [same, count2]
      · rw [add_sub_cancel_right] at unused
        omega
  idle := by
    intro port here below
    rcases listeners port with same | ⟨-, -, unclean, low⟩
    · rw [same]
      exact counted.idle port here below
    · exact ⟨low, fun isClean => absurd isClean unclean⟩
  listening := by
    rw [portFd]
    exact counted.listening

theorem below (counted : PairCounted clean state sources) {port : Int}
    (used : 0 < sources port) : sources (port - 1) = 0 := by
  rcases Nat.eq_zero_or_pos (sources (port - 1)) with zero | positive
  · exact zero
  · have here := counted.apart (port - 1) positive
    rw [sub_add_cancel] at here
    omega

theorem replace (counted : PairCounted clean state sources) {port : Int}
    {count : Nat} (below : sources (port - 1) = 0)
    (above : sources (port + 1) = 0) (described : next.Described)
    (counts : 0 < count → next.ports.listeners port = count ∧
      next.ports.listeners (port + 1) = count + 1)
    (idle : count = 0 → next.ports.listeners port = 0 ∧
      next.ports.listeners (port + 1) ≤ 0 ∧ ¬ clean (port + 1))
    (elsewhere : ∀ other, other ≠ port → other ≠ port + 1 →
      next.ports.listeners other = state.ports.listeners other)
    (listening : ∀ other, (∃ fd, next.ports.portFd.lookup other = some fd) ↔
      if other = port ∨ other = port + 1 then 0 < count
      else ∃ fd, state.ports.portFd.lookup other = some fd) :
    PairCounted clean next (update sources port count) where
  toDescribed := described
  apart := by
    intro other used
    rcases eq_or_ne other port with rfl | different
    · rw [update_of_ne (by omega), above]
    · rw [update_of_ne different] at used
      have away : other + 1 ≠ port := by
        rintro rfl
        rw [add_sub_cancel_right] at below
        omega
      rw [update_of_ne away]
      exact counted.apart other used
  counts := by
    intro other used
    rcases eq_or_ne other port with rfl | different
    · rw [update_self] at used ⊢
      exact counts used
    · rw [update_of_ne different] at used ⊢
      have away : other ≠ port + 1 := by
        rintro rfl
        omega
      have away2 : other + 1 ≠ port := by
        rintro rfl
        rw [add_sub_cancel_right] at below
        omega
      rw [elsewhere other different away,
        elsewhere (other + 1) away2 (by omega)]
      exact counted.counts other used
  idle := by
    intro other unused otherBelow
    rcases eq_or_ne other port with rfl | different
    · rw [update_self] at unused
      obtain ⟨zero, -⟩ := idle unused
      exact ⟨zero.le, fun _ => zero⟩
    · rcases eq_or_ne other (port + 1) with rfl | different2
      · rw [add_sub_cancel_right, update_self] at otherBelow
        obtain ⟨-, low, unclean⟩ := idle otherBelow
        exact ⟨low, fun isClean => absurd isClean unclean⟩
      · rw [update_of_ne different] at unused
        rw [update_of_ne (by omega)] at otherBelow
        rw [elsewhere other different different2]
        exact counted.idle other unused otherBelow
  listening := by
    intro other
    rw [listening]
    rcases eq_or_ne other port with rfl | different
    · rw [if_pos (.inl rfl), update_self, update_of_ne (by omega), below]
      omega
    · rcases eq_or_ne other (port + 1) with rfl | different2
      · rw [if_pos (.inr rfl), update_of_ne different, above,
          add_sub_cancel_right, update_self]
        omega
      · rw [if_neg (by omega), counted.listening other,
          update_of_ne different, update_of_ne (by omega)]

theorem listening_pair (counted : PairCounted clean state sources)
    {port : Int} (used : 0 < sources port) {other : Int}
    (isPair : other = port ∨ other = port + 1) :
    ∃ fd, state.ports.portFd.lookup other = some fd := by
  refine (counted.listening other).mpr ?_
  rcases isPair with rfl | rfl
  · exact .inl used
  · rw [add_sub_cancel_right]
    exact .inr used

theorem add_shared (counted : PairCounted clean state sources) (os : Os)
    {port : Int} (below : sources (port - 1) = 0) (used : 0 < sources port) :
    (RtcpWorker.addSocketPair os state port).1 = true ∧
      PairCounted clean (RtcpWorker.addSocketPair os state port).2
        (update sources port (sources port + 1)) ∧
      (RtcpWorker.addSocketPair os state port).2.ports.portFd =
        state.ports.portFd := by
  obtain ⟨count, count2⟩ := counted.counts port used
  have added := RtcpWorker.addSocketPair_counted os _ _ count (by omega) count2
    (by omega)
  have listeners : (RtcpWorker.addSocketPair os state port).2.ports.listeners =
      update (update state.ports.listeners port (sources port + 1))
        (port + 1) (sources port + 1 + 1) := by
    simp [added]
  have portFd : (RtcpWorker.addSocketPair os state port).2.ports.portFd =
      state.ports.portFd := by
    rw [added]
    rfl
  refine ⟨by rw [added], counted.replace below (counted.apart port used) ?_ ?_
    ?_ ?_ ?_, portFd⟩
  · rw [added]
    exact counted.toDescribed.frame (fun fd bound found => found) rfl rfl
  · intro _
    rw [listeners, update_self, update_of_ne (by omega), update_self]
    push_cast
    exact ⟨rfl, rfl⟩
  · intro zero
    omega
  · intro other different different2
    rw [listeners, update_of_ne different2, update_of_ne different]
  · intro other
    rw [portFd]
    split
    · rename_i isPair
      exact iff_of_true (counted.listening_pair used isPair) (by omega)
    · rfl

theorem add_once (counted : PairCounted clean state sources) (os : Os)
    {port : Int} (here : sources port = 0) (below : sources (port - 1) = 0)
    (unopened : (RtcpWorker.addSocket os state port).1 ≠ 1) :
    PairCounted clean (RtcpWorker.addSocket os state port).2 sources ∧
      (RtcpWorker.addSocket os state port).2.ports.portFd =
        state.ports.portFd := by
  obtain ⟨low, zero⟩ := counted.idle port here below
  rcases RtcpWorker.addSocket_cases os state port with
    ⟨negative, result⟩ | ⟨-, -, result⟩ | ⟨-, -, -, result⟩
  · rw [result]
    refine ⟨counted.recount (fun fd bound found => found) rfl rfl ?_, rfl⟩
    intro other
    simp only [PortTables.listeners_setListener,
      PortTables.listeners_readListener]
    rcases eq_or_ne other port with rfl | different
    · right
      rw [update_self]
      exact ⟨here, below, fun isClean => negative (zero isClean), by omega⟩
    · left
      rw [update_of_ne different]
  · rw [result]
    refine ⟨counted.recount
      (fun fd bound found => RtcpWorker.initPair_frame port found) rfl rfl ?_,
      rfl⟩
    intro other
    left
    rw [PortTables.listeners_readListener]
  · exact absurd (by rw [result]) unopened

theorem add_failed (counted : PairCounted clean state sources) {os : Os}
    {port : Int} (here : sources port = 0) (below : sources (port - 1) = 0)
    (above : sources (port + 1) = 0)
    (closed : ¬ RtcpWorker.OpensSecondOnly os state port)
    (idle : state.ports.listeners port = 0)
    (failed : ¬ RtcpWorker.OpensPair os state.kernel port)
    (result : RtcpWorker.addSocket os state port =
      (-1, ⟨(initSocket os (initSocket os state.kernel port).2 (port + 1)).2,
        state.ports.readListener port⟩)) :
    (RtcpWorker.addSocketPair os state port).1 = false ∧
      PairCounted clean (RtcpWorker.addSocketPair os state port).2 sources ∧
      (RtcpWorker.addSocketPair os state port).2.ports.portFd =
        state.ports.portFd := by
  have next : port + 1 - 1 = port := add_sub_cancel_right port 1
  have unopened : (RtcpWorker.addSocket os state port).1 ≠ 1 := by
    rw [result]
    exact (by decide : (-1 : Int) ≠ 1)
  obtain ⟨middle, middlePortFd⟩ := counted.add_once os here below unopened
  have unopened2 : (RtcpWorker.addSocket os
      (RtcpWorker.addSocket os state port).2 (port + 1)).1 ≠ 1 := by
    rcases RtcpWorker.addSocket_cases os
      (RtcpWorker.addSocket os state port).2 (port + 1) with
      ⟨-, result2⟩ | ⟨-, -, result2⟩ | ⟨idle2, succeeded, succeeded2, -⟩
    · rw [result2]
      exact (by decide : (0 : Int) ≠ 1)
    · rw [result2]
      exact (by decide : (-1 : Int) ≠ 1)
    · rw [result] at idle2 succeeded succeeded2
      rw [PortTables.listeners_readListener] at idle2
      exact absurd ⟨idle, failed, idle2, succeeded, succeeded2⟩ closed
  obtain ⟨final, finalPortFd⟩ := middle.add_once os above
    (by rw [next]; exact here) unopened2
  refine ⟨?_, final, finalPortFd.trans middlePortFd⟩
  rw [RtcpWorker.addSocketPair_fst, result]
  rfl

theorem add_opened (counted : PairCounted clean state sources) {os : Os}
    {port : Int} (here : sources port = 0) (below : sources (port - 1) = 0)
    (above : sources (port + 1) = 0)
    (opened : (initSocket os state.kernel port).1 ≠ -1)
    (opened2 : (initSocket os (initSocket os state.kernel port).2
      (port + 1)).1 ≠ -1)
    (result : RtcpWorker.addSocket os state port =
      (1, ⟨(initSocket os (initSocket os state.kernel port).2 (port + 1)).2,
        ((state.ports.readListener port).register port
          (initSocket os state.kernel port).1).register (port + 1)
          (initSocket os (initSocket os state.kernel port).2
            (port + 1)).1⟩)) :
    (RtcpWorker.addSocketPair os state port).1 = true ∧
      PairCounted clean (RtcpWorker.addSocketPair os state port).2
        (update sources port 1) ∧
      ∀ other fd, state.ports.portFd.lookup other = some fd →
        (RtcpWorker.addSocketPair os state port).2.ports.portFd.lookup other =
          some fd := by
  have next : port + 1 - 1 = port := add_sub_cancel_right port 1
  rcases initSocket_cases os state.kernel port with
    ⟨failed, -⟩ | ⟨fd, answered, -, fresh, lookups⟩
  · exact absurd failed opened
  rcases initSocket_cases os (initSocket os state.kernel port).2
    (port + 1) with ⟨failed, -⟩ | ⟨fd2, answered2, -, fresh2, lookups2⟩
  · exact absurd failed opened2
  rw [answered, answered2] at result
  have absent := counted.absent here below
  have absent2 := counted.absent above (by rw [next]; exact here)
  have stillAbsent : (state.ports.register port fd).portFd.lookup
      (port + 1) = none := by
    change (state.ports.portFd.insert port fd).lookup (port + 1) = none
    rw [Table.lookup_insert, if_neg (by omega), absent2]
  have described := (counted.toDescribed.register absent fresh
    lookups).register stillAbsent fresh2 lookups2
  have added := RtcpWorker.addSocketPair_opened result
  have listeners :
      (RtcpWorker.addSocketPair os state port).2.ports.listeners =
        update (update state.ports.listeners port 1) (port + 1) 2 := by
    simp [added]
  have portFd : ∀ other,
      (RtcpWorker.addSocketPair os state port).2.ports.portFd.lookup other =
        if other = port + 1 then some fd2
        else if other = port then some fd
        else state.ports.portFd.lookup other := by
    intro other
    rw [added]
    change ((state.ports.portFd.insert port fd).insert (port + 1)
      fd2).lookup other = _
    rw [Table.lookup_insert, Table.lookup_insert]
  refine ⟨by rw [added], counted.replace below above ?_ ?_ ?_ ?_ ?_, ?_⟩
  · rw [added]
    exact described.frame (fun other bound found => found) rfl rfl
  · intro _
    rw [listeners, update_self, update_of_ne (by omega), update_self]
    exact ⟨rfl, rfl⟩
  · intro zero
    omega
  · intro other different different2
    rw [listeners, update_of_ne different2, update_of_ne different]
  · intro other
    rw [portFd]
    rcases eq_or_ne other (port + 1) with rfl | different
    · simp
    · rcases eq_or_ne other port with rfl | different2
      · simp
      · simp [different, different2]
  · intro other found foundLookup
    have away : other ≠ port := by
      rintro rfl
      rw [absent] at foundLookup
      cases foundLookup
    have away2 : other ≠ port + 1 := by
      rintro rfl
      rw [absent2] at foundLookup
      cases foundLookup
    rw [portFd, if_neg away2, if_neg away, foundLookup]

theorem add_closed (counted : PairCounted clean state sources) {os : Os}
    {port : Int} (here : sources port = 0)
    (below : sources (port - 1) = 0) (above : sources (port + 1) = 0)
    (closed : ¬ RtcpWorker.OpensSecondOnly os state port)
    (zero : state.ports.listeners port = 0) :
    ((RtcpWorker.addSocketPair os state port).1 = false ∧
      PairCounted clean (RtcpWorker.addSocketPair os state port).2 sources ∧
      (RtcpWorker.addSocketPair os state port).2.ports.portFd =
        state.ports.portFd) ∨
    ((RtcpWorker.addSocketPair os state port).1 = true ∧
      PairCounted clean (RtcpWorker.addSocketPair os state port).2
        (update sources port 1) ∧
      ∀ other fd, state.ports.portFd.lookup other = some fd →
        (RtcpWorker.addSocketPair os state port).2.ports.portFd.lookup other =
          some fd) := by
  rcases RtcpWorker.addSocket_cases os state port with
    ⟨nonzero, -⟩ | ⟨-, failed, result⟩ | ⟨-, opened, opened2, result⟩
  · exact absurd zero nonzero
  · have unopened : ¬ RtcpWorker.OpensPair os state.kernel port := by
      intro opens
      exact failed.elim opens.1 opens.2
    exact .inl (counted.add_failed here below above closed zero unopened result)
  · exact .inr (counted.add_opened here below above opened opened2 result)

theorem remove_last (counted : PairCounted clean state sources) {port : Int}
    (alone : sources port = 1) (unclean : ¬ clean (port + 1)) :
    PairCounted clean
      (RtcpWorker.removeSocket (RtcpWorker.removeSocket state port).2
        (port + 1)).2 (update sources port 0) ∧
    ∀ other fd,
      (RtcpWorker.removeSocket (RtcpWorker.removeSocket state port).2
        (port + 1)).2.ports.portFd.lookup other = some fd →
      state.ports.portFd.lookup other = some fd := by
  have used : 0 < sources port := by omega
  have next : port + 1 - 1 = port := add_sub_cancel_right port 1
  have below := counted.below used
  have above := counted.apart port used
  obtain ⟨count, -⟩ := counted.counts port used
  have last : state.ports.listeners port = 1 := by omega
  obtain ⟨fd, found⟩ := (counted.listening port).mpr (.inl used)
  obtain ⟨fd2, found2⟩ := (counted.listening (port + 1)).mpr
    (.inr (by rw [next]; exact used))
  have stillFound : (state.ports.release port fd).portFd.lookup
      (port + 1) = some fd2 := by
    change (state.ports.portFd.erase port).lookup (port + 1) = some fd2
    rw [Table.lookup_erase, if_neg (by omega), found2]
  have described := (counted.toDescribed.release found).release stillFound
  have removed : RtcpWorker.removeSocket (RtcpWorker.removeSocket state port).2
      (port + 1) = (false, ⟨(state.kernel.close fd).close fd2,
        (((state.ports.setListener port 0).release port fd).release (port + 1)
          fd2).setListener (port + 1) (-1)⟩) := by
    rw [RtcpWorker.removeSocket_last last found found2]
    exact RtcpWorker.removeSocket_shared 0 (by simp) zero_ne_one
  have listeners : (RtcpWorker.removeSocket (RtcpWorker.removeSocket state
      port).2 (port + 1)).2.ports.listeners =
        update (update state.ports.listeners port 0) (port + 1) (-1) := by
    simp [removed]
  have portFd : ∀ other, (RtcpWorker.removeSocket (RtcpWorker.removeSocket state
      port).2 (port + 1)).2.ports.portFd.lookup other =
        if other = port + 1 then none else if other = port then none
        else state.ports.portFd.lookup other := by
    intro other
    rw [removed]
    change ((state.ports.portFd.erase port).erase (port + 1)).lookup other = _
    rw [Table.lookup_erase, Table.lookup_erase]
  refine ⟨counted.replace below above ?_ ?_ ?_ ?_ ?_, ?_⟩
  · rw [removed]
    exact described.frame (fun other bound kept => kept) rfl rfl
  · intro positive
    omega
  · intro _
    rw [listeners, update_self, update_of_ne (by omega), update_self]
    exact ⟨rfl, by decide, unclean⟩
  · intro other different different2
    rw [listeners, update_of_ne different2, update_of_ne different]
  · intro other
    rw [portFd]
    rcases eq_or_ne other (port + 1) with rfl | different
    · simp
    · rcases eq_or_ne other port with rfl | different2
      · simp
      · simp [different, different2]
  · intro other kept keptFound
    rw [portFd] at keptFound
    split at keptFound
    · cases keptFound
    · split at keptFound
      · cases keptFound
      · exact keptFound

theorem remove_shared (counted : PairCounted clean state sources) {port : Int}
    (more : 1 < sources port) :
    PairCounted clean
      (RtcpWorker.removeSocket (RtcpWorker.removeSocket state port).2
        (port + 1)).2 (update sources port (sources port - 1)) ∧
    (RtcpWorker.removeSocket (RtcpWorker.removeSocket state port).2
      (port + 1)).2.ports.portFd = state.ports.portFd := by
  have used : 0 < sources port := by omega
  have below := counted.below used
  have above := counted.apart port used
  obtain ⟨count, count2⟩ := counted.counts port used
  have removed : RtcpWorker.removeSocket (RtcpWorker.removeSocket state port).2
      (port + 1) = (false, ⟨state.kernel,
        (state.ports.setListener port (sources port - 1)).setListener (port + 1)
          (sources port + 1 - 1)⟩) := by
    rw [RtcpWorker.removeSocket_shared _ count (by omega)]
    exact RtcpWorker.removeSocket_shared _ (by simpa using count2) (by omega)
  have listeners : (RtcpWorker.removeSocket (RtcpWorker.removeSocket state
      port).2 (port + 1)).2.ports.listeners =
        update (update state.ports.listeners port (sources port - 1))
          (port + 1) (sources port + 1 - 1) := by
    simp [removed]
  have portFd : (RtcpWorker.removeSocket (RtcpWorker.removeSocket state port).2
      (port + 1)).2.ports.portFd = state.ports.portFd := by
    rw [removed]
    rfl
  refine ⟨counted.replace below above ?_ ?_ ?_ ?_ ?_, portFd⟩
  · rw [removed]
    exact counted.toDescribed.frame (fun other bound kept => kept) rfl rfl
  · intro _
    rw [listeners, update_self, update_of_ne (by omega), update_self]
    constructor
    · omega
    · omega
  · intro zero
    omega
  · intro other different different2
    rw [listeners, update_of_ne different2, update_of_ne different]
  · intro other
    rw [portFd]
    split
    · rename_i isPair
      exact iff_of_true (counted.listening_pair used isPair) (by omega)
    · rfl

theorem remove (counted : PairCounted clean state sources) {port : Int}
    (used : 0 < sources port) (unclean : ¬ clean (port + 1)) :
    PairCounted clean
      (RtcpWorker.removeSocket (RtcpWorker.removeSocket state port).2
        (port + 1)).2 (update sources port (sources port - 1)) ∧
    ∀ other fd,
      (RtcpWorker.removeSocket (RtcpWorker.removeSocket state port).2
        (port + 1)).2.ports.portFd.lookup other = some fd →
      state.ports.portFd.lookup other = some fd := by
  rcases Nat.lt_or_eq_of_le (Nat.one_le_iff_ne_zero.mpr used.ne') with
    more | alone
  · obtain ⟨after, portFd⟩ := counted.remove_shared more
    refine ⟨after, ?_⟩
    rw [portFd]
    exact fun _ _ found => found
  · rw [← alone]
    exact counted.remove_last alone.symm unclean

theorem add_refused (counted : PairCounted clean state sources) {os : Os}
    {port : Int} (here : sources port = 0) (below : sources (port - 1) = 0)
    (above : sources (port + 1) = 0)
    (negative : state.ports.listeners port < 0)
    (refused : (RtcpWorker.addSocketPair os state port).1 = false) :
    PairCounted clean (RtcpWorker.addSocketPair os state port).2 sources ∧
      (RtcpWorker.addSocketPair os state port).2.ports.portFd =
        state.ports.portFd := by
  have first : (RtcpWorker.addSocket os state port).1 = 0 := by
    rw [RtcpWorker.addSocket_counted os _ rfl negative.ne]
  obtain ⟨middle, middlePortFd⟩ :=
    counted.add_once os here below (by rw [first]; decide)
  have second : (RtcpWorker.addSocket os
      (RtcpWorker.addSocket os state port).2 (port + 1)).1 = -1 := by
    rw [RtcpWorker.addSocketPair_fst, first] at refused
    simpa using refused
  obtain ⟨final, finalPortFd⟩ := middle.add_once os above
    (by rw [add_sub_cancel_right]; exact here) (by rw [second]; decide)
  exact ⟨final, finalPortFd.trans middlePortFd⟩

end PairCounted

end StrManager
