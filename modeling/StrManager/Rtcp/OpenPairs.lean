import StrManager.Rtcp.Lists
import StrManager.Worker.RefCount

namespace StrManager

open Library Function

/-! An RTCP worker keeps the socket pairs of its sources open, as long as no
two pairs overlap and no negative count is taken for an open socket. -/

theorem Registration.next_port {registration : Registration}
    (bounded : registration.port ≤ 65534) :
    registration.next.port = registration.port + 1 := by
  have one : (1 : BitVec 16).toNat = 1 := rfl
  simp only [port, ntohs] at bounded
  simp only [port, next, SockAddr.next, ntohs, BitVec.toNat_add, one]
  omega

theorem Registry.record_valid (valid : Int → SockAddr → Prop)
    {registry : Registry} (event : WorkerEvent) (output : WorkerOutput)
    (added : ∀ srcId ip port, event = .addSource srcId ip port →
      valid srcId (SockAddr.ofPort ip port))
    (holds : ∀ srcId registration, registry.lookup srcId = some registration →
      valid srcId registration.addr) :
    ∀ srcId registration,
      (registry.record event output).lookup srcId = some registration →
      valid srcId registration.addr := by
  have changed {srcId : Int} {edit : Registration → Registration}
      (keeps : ∀ registration, (edit registration).addr = registration.addr) :
      ∀ other registration,
        (registry.change srcId edit).lookup other = some registration →
        valid other registration.addr := by
    intro other registration found
    rw [lookup_change] at found
    rcases eq_or_ne other srcId with rfl | different
    · rw [if_pos rfl, Option.map_eq_some_iff] at found
      obtain ⟨old, oldFound, rfl⟩ := found
      rw [keeps]
      exact holds other old oldFound
    · rw [if_neg different] at found
      exact holds other registration found
  intro srcId registration found
  cases event with
  | addSource newId ip port =>
      cases output with
      | added accepted =>
          cases accepted with
          | true =>
              change (registry.addSource newId _).lookup srcId = _ at found
              rw [lookup_addSource] at found
              rcases eq_or_ne srcId newId with rfl | different
              · rw [if_pos rfl] at found
                cases found
                exact added srcId ip port rfl
              · rw [if_neg different] at found
                exact holds srcId registration found
          | false => exact holds srcId registration found
      | removed messages => exact holds srcId registration found
      | done => exact holds srcId registration found
      | sent transmissions => exact holds srcId registration found
  | removeSource oldId =>
      change (registry.removeSource oldId).lookup srcId = _ at found
      rw [lookup_removeSource] at found
      split at found
      · cases found
      · exact holds srcId registration found
  | addDestination destSrc destId ip port =>
      exact changed (fun old => old.addDestination_addr _) srcId registration
        found
  | removeDestination destSrc destId =>
      exact changed (fun old => old.removeDestination_addr _) srcId
        registration found
  | packet fd received => exact holds srcId registration found
  | elapse seconds => exact holds srcId registration found

theorem Registry.onPort_eq_zero {registry : Registry} {port : Int}
    (unused : ∀ srcId registration,
      registry.lookup srcId = some registration → registration.port ≠ port) :
    registry.onPort port = 0 := by
  rcases Nat.eq_zero_or_pos (registry.onPort port) with zero | positive
  · exact zero
  · obtain ⟨srcId, registration, found, equal⟩ :=
      (registry.onPort_pos_iff port).mp positive
    exact absurd equal (unused srcId registration found)

/-- A new source is turned down for its address; or its ports overlap no other
pair, a negative count does not make the worker accept it, and a pair that is
refused does not leave the next one open. -/
def KeepsPairs (os : Os) (runtime : Runtime) (registry : Registry) :
    WorkerEvent → Prop
  | .addSource _ ip port =>
      runtime.worker.streams.routes (SockAddr.ofPort ip port) ≠ 0 ∨
      runtime.worker.streams.routes (SockAddr.ofPort ip (port + 1)) ≠ 0 ∨
      (registry.onPort (port - 1) = 0 ∧ registry.onPort (port + 1) = 0 ∧
        (0 ≤ runtime.worker.ports.listeners port ∨
          ¬ RtcpWorker.CanOpenPair os runtime.sockets port) ∧
        ¬ RtcpWorker.OpensSecondOnly os runtime.sockets port)
  | _ => True

instance (os : Os) (runtime : Runtime) (registry : Registry)
    (event : WorkerEvent) : Decidable (KeepsPairs os runtime registry event) :=
  match event with
  | .addSource _ _ _ =>
      inferInstanceAs (Decidable (_ ∨ _ ∨ (_ ∧ _ ∧ (_ ∨ _) ∧ _)))
  | .removeSource _ | .addDestination _ _ _ _ | .removeDestination _ _
  | .packet _ _ | .elapse _ => isTrue trivial

structure PairPorts (clean : Int → Prop) (port : Int) : Prop where
  low : 0 ≤ port
  high : port ≤ 65534
  unclean : ¬ clean (port + 1)

theorem PairCounted.add {clean : Int → Prop} {state : SocketState}
    {sources : Int → Nat} (counted : PairCounted clean state sources) {os : Os}
    {port : Int} (below : sources (port - 1) = 0)
    (above : sources (port + 1) = 0)
    (guard : 0 ≤ state.ports.listeners port ∨
      ¬ RtcpWorker.CanOpenPair os state port)
    (closed : ¬ RtcpWorker.OpensSecondOnly os state port) :
    ((RtcpWorker.addSocketPair os state port).1 = false ∧
      PairCounted clean (RtcpWorker.addSocketPair os state port).2 sources ∧
      (RtcpWorker.addSocketPair os state port).2.ports.portFd =
        state.ports.portFd) ∨
    ((RtcpWorker.addSocketPair os state port).1 = true ∧
      PairCounted clean (RtcpWorker.addSocketPair os state port).2
        (update sources port (sources port + 1)) ∧
      ∀ other fd, state.ports.portFd.lookup other = some fd →
        (RtcpWorker.addSocketPair os state port).2.ports.portFd.lookup other =
          some fd) := by
  rcases Nat.eq_zero_or_pos (sources port) with here | used
  · have low := (counted.idle port here below).1
    rcases lt_or_eq_of_le low with negative | zero
    · have refused : (RtcpWorker.addSocketPair os state port).1 = false := by
        rcases guard with nonnegative | refused
        · omega
        · rwa [← RtcpWorker.addSocketPair_opens_iff, Bool.not_eq_true]
            at refused
      exact .inl ⟨refused,
        counted.add_refused here below above negative refused⟩
    · rw [here]
      exact counted.add_closed here below above closed zero
  · obtain ⟨opened, after, portFd⟩ := counted.add_shared os below used
    refine .inr ⟨opened, after, ?_⟩
    rw [portFd]
    exact fun _ _ found => found

namespace RtcpStep

variable {os : Os} {runtime next : Runtime} {event : WorkerEvent}
  {output : WorkerOutput} {registry : Registry} {clean : Int → Prop}

theorem pairCounted (step : RtcpStep os runtime next event output)
    (paired : PairedLists runtime.worker.streams.lists registry)
    (ports : ∀ srcId registration,
      registry.lookup srcId = some registration →
      PairPorts clean registration.port)
    (added : ∀ srcId ip port, event = .addSource srcId ip port →
      registry.lookup srcId = none ∧ PairPorts clean port)
    (registered : event.Registered registry)
    (keeps : KeepsPairs os runtime registry event)
    (polled : event.Polled runtime)
    (counted : PairCounted clean runtime.sockets registry.onPort) :
    PairCounted clean next.sockets (registry.record event output).onPort ∧
      ((∀ other fd, runtime.worker.ports.portFd.lookup other = some fd →
          next.worker.ports.portFd.lookup other = some fd) ∨
        ∀ other fd, next.worker.ports.portFd.lookup other = some fd →
          runtime.worker.ports.portFd.lookup other = some fd) := by
  have unchanged (sockets : next.sockets = runtime.sockets) {after : Registry}
      (sources : after.onPort = registry.onPort) :
      PairCounted clean next.sockets after.onPort ∧
        ((∀ other fd, runtime.worker.ports.portFd.lookup other = some fd →
            next.worker.ports.portFd.lookup other = some fd) ∨
          ∀ other fd, next.worker.ports.portFd.lookup other = some fd →
            runtime.worker.ports.portFd.lookup other = some fd) := by
    have same : next.worker.ports = runtime.worker.ports :=
      congrArg SocketState.ports sockets
    rw [sockets, same, sources]
    exact ⟨counted, .inl fun other fd found => found⟩
  cases step with
  | rejected routed sockets lists routes => exact unchanged sockets rfl
  | @refused srcId ip port free free2 failed sockets lists routes =>
      have same : next.worker.ports =
          (RtcpWorker.addSocketPair os runtime.sockets port).2.ports :=
        congrArg SocketState.ports sockets
      change PairCounted clean next.sockets registry.onPort ∧ _
      rw [sockets, same]
      rcases keeps with routed | routed2 | ⟨below, above, guard, closed⟩
      · exact absurd free routed
      · exact absurd free2 routed2
      · rcases counted.add below above guard closed with
          ⟨-, after, portFd⟩ | ⟨opened, -⟩
        · exact ⟨after, .inl (by rw [portFd]; exact fun _ _ found => found)⟩
        · rw [failed] at opened
          cases opened
  | @added srcId ip port free free2 opened sockets lists routes =>
      obtain ⟨fresh, portRange⟩ := added srcId ip port rfl
      have same : next.worker.ports =
          (RtcpWorker.addSocketPair os runtime.sockets port).2.ports :=
        congrArg SocketState.ports sockets
      change PairCounted clean next.sockets
        (registry.addSource srcId (SockAddr.ofPort ip port)).onPort ∧ _
      rw [sockets, same, Registry.onPort_added fresh ip portRange.low
        (portRange.high.trans (by decide))]
      rcases keeps with routed | routed2 | ⟨below, above, guard, closed⟩
      · exact absurd free routed
      · exact absurd free2 routed2
      · rcases counted.add below above guard closed with
          ⟨failed, -⟩ | ⟨-, after, portFd⟩
        · rw [opened] at failed
          cases failed
        · exact ⟨after, .inl portFd⟩
  | @removed srcId list list2 found found2 sockets lists routes =>
      obtain ⟨registration, known⟩ := Option.isSome_iff_exists.mp registered
      obtain ⟨stored, stored2, storedFound, storedFound2, rfl, next2⟩ :=
        paired.registered known
      rw [found] at storedFound
      rw [found2] at storedFound2
      cases storedFound
      cases storedFound2
      have portRange := ports srcId _ known
      have used := Registry.onPort_of_lookup known
      have port2 : list2.getSourcePort = list.getSourcePort + 1 := by
        rw [StreamList.getSourcePort_eq, next2,
          Registration.next_port portRange.high]
        rfl
      have same : next.worker.ports = _ := congrArg SocketState.ports sockets
      change PairCounted clean next.sockets
        (registry.removeSource srcId).onPort ∧ _
      rw [sockets, same, Registry.onPort_removed known, port2]
      obtain ⟨after, portFd⟩ := counted.remove used portRange.unclean
      exact ⟨after, .inr portFd⟩
  | keptDestination list found rejected read =>
      exact unchanged read.streamsOnly.sockets
        (registry.onPort_change _ fun registration =>
          registration.addDestination_addr _)
  | addedDestination list list2 changed =>
      exact unchanged changed.streamsOnly.sockets
        (registry.onPort_change _ fun registration =>
          registration.addDestination_addr _)
  | missedDestination list found missing read =>
      exact unchanged read.streamsOnly.sockets
        (registry.onPort_change _ fun registration =>
          registration.removeDestination_addr _)
  | removedDestination list list2 changed =>
      exact unchanged changed.streamsOnly.sockets
        (registry.onPort_change _ fun registration =>
          registration.removeDestination_addr _)
  | packet noted =>
      obtain ⟨port, found⟩ := (Worker.polls_iff _ _).mp polled
      have fdPort := noted.fdPort port ((counted.inverse _ _).mp found)
      have kernel : next.sockets.kernel = runtime.sockets.kernel := noted.kernel
      refine ⟨counted.recount ?_ noted.portFd fdPort fun other =>
        .inl (by rw [Runtime.sockets, noted.listeners]; rfl), .inl ?_⟩
      · intro fd bound opened
        rw [kernel]
        exact opened
      · rw [noted.portFd]
        exact fun other fd opened => opened
  | elapsed elapse =>
      subst elapse
      exact ⟨counted.recount (fun fd bound opened => opened) rfl rfl
        fun other => .inl rfl, .inl fun other fd opened => opened⟩

end RtcpStep

def PortOpen (runtime : Runtime) (port : Int) : Prop :=
  ∃ fd, runtime.worker.ports.portFd.lookup port = some fd ∧
    runtime.worker.ports.fdPort.lookup fd = some port ∧
    runtime.kernel.sockets.lookup fd = some (some (htons port))

/-- Both lists of every source have their port open. -/
def PairsOpen (runtime : Runtime) (registry : Registry) : Prop :=
  ∀ srcId registration, registry.lookup srcId = some registration →
    ∃ list list2, runtime.worker.streams.lists srcId = some list ∧
      runtime.worker.streams.lists (srcId + 1) = some list2 ∧
      list.getSourceSockAddr = registration.addr ∧
      list2.getSourceSockAddr = registration.addr.next ∧
      PortOpen runtime list.getSourcePort ∧
      PortOpen runtime list2.getSourcePort

/-- A source that stays registered keeps the descriptors of its ports. -/
def PairsKept (runtime next : Runtime) (nextRegistry : Registry) : Prop :=
  ∀ srcId registration, nextRegistry.lookup srcId = some registration →
    ∀ port fd, port = registration.port ∨ port = registration.port + 1 →
      runtime.worker.ports.portFd.lookup port = some fd →
      next.worker.ports.portFd.lookup port = some fd ∧
        next.kernel.sockets.lookup fd = some (some (htons port))

structure RtcpHolds (clean : Int → Prop) (runtime : Runtime)
    (registry : Registry) : Prop where
  paired : PairedLists runtime.worker.streams.lists registry
  ports : ∀ srcId registration,
    registry.lookup srcId = some registration →
    PairPorts clean registration.port
  counted : PairCounted clean runtime.sockets registry.onPort

namespace RtcpHolds

variable {clean : Int → Prop} {runtime next : Runtime} {registry : Registry}

theorem start (clean : Int → Prop) (kind : WorkerKind) (workerId : Int)
    (kernel : Kernel) :
    RtcpHolds clean (Runtime.start kind workerId kernel) ∅ where
  paired := PairedLists.of_empty
  ports := by simp
  counted := PairCounted.empty clean kernel

theorem portOpen (holds : RtcpHolds clean runtime registry) {srcId : Int}
    {registration : Registration}
    (found : registry.lookup srcId = some registration) {port : Int}
    (isPair : port = registration.port ∨ port = registration.port + 1) :
    PortOpen runtime port := by
  obtain ⟨fd, listening⟩ := holds.counted.listening_pair
    (Registry.onPort_of_lookup found) isPair
  exact ⟨fd, listening, (holds.counted.inverse port fd).mp listening,
    holds.counted.bound port fd listening⟩

theorem pairsOpen (holds : RtcpHolds clean runtime registry) :
    PairsOpen runtime registry := by
  intro srcId registration found
  obtain ⟨list, list2, stored, stored2, rfl, next2⟩ :=
    holds.paired.registered found
  have port2 : list2.getSourcePort = list.registration.port + 1 := by
    rw [StreamList.getSourcePort_eq, next2,
      Registration.next_port (holds.ports srcId _ found).high]
  exact ⟨list, list2, stored, stored2, rfl,
    congrArg Registration.addr next2, holds.portOpen found (.inl rfl),
    holds.portOpen found (.inr port2)⟩

theorem pairsKept {nextRegistry : Registry}
    (after : RtcpHolds clean next nextRegistry)
    (monotone : (∀ other fd,
        runtime.worker.ports.portFd.lookup other = some fd →
        next.worker.ports.portFd.lookup other = some fd) ∨
      ∀ other fd, next.worker.ports.portFd.lookup other = some fd →
        runtime.worker.ports.portFd.lookup other = some fd) :
    PairsKept runtime next nextRegistry := by
  intro srcId registration found port fd isPair before
  have kept : next.worker.ports.portFd.lookup port = some fd := by
    rcases monotone with grows | shrinks
    · exact grows port fd before
    · obtain ⟨fd2, listening, -⟩ := after.portOpen found isPair
      have same := shrinks port fd2 listening
      rw [before] at same
      cases same
      exact listening
  exact ⟨kept, after.counted.bound port fd kept⟩

theorem step (holds : RtcpHolds clean runtime registry) {os : Os}
    {event : WorkerEvent} {output : WorkerOutput}
    (stepped : RtcpStep os runtime next event output)
    (apart : event.Apart registry) (registered : event.Registered registry)
    (polled : event.Polled runtime)
    (valid : ∀ srcId ip port, event = .addSource srcId ip port →
      PairPorts clean port)
    (keeps : KeepsPairs os runtime registry event) :
    RtcpHolds clean next (registry.record event output) ∧
      PairsKept runtime next (registry.record event output) := by
  have added : ∀ srcId ip port, event = .addSource srcId ip port →
      registry.lookup srcId = none ∧ PairPorts clean port := by
    intro srcId ip port isAdd
    refine ⟨?_, valid srcId ip port isAdd⟩
    subst isAdd
    exact apart.1
  obtain ⟨counted, monotone⟩ := stepped.pairCounted holds.paired
    holds.ports added registered keeps polled holds.counted
  have ports := Registry.record_valid
    (fun _ addr => PairPorts clean (ntohs addr.sinPort)) event output (by
      intro srcId ip port isAdd
      have portRange := valid srcId ip port isAdd
      have hosted : ntohs (SockAddr.ofPort ip port).sinPort = port :=
        ntohs_htons_of_range portRange.low (portRange.high.trans (by decide))
      rw [hosted]
      exact portRange) holds.ports
  have after : RtcpHolds clean next (registry.record event output) :=
    ⟨stepped.pairedLists (fun _ => apart) registered holds.paired, ports,
      counted⟩
  exact ⟨after, after.pairsKept monotone⟩

end RtcpHolds

/-! Sources whose identifiers are two apart, on any ports. -/

def WorkerEvent.RtpPort : WorkerEvent → Prop
  | .addSource _ _ port => 1 ≤ port ∧ port ≤ 65534
  | _ => True

instance (event : WorkerEvent) : Decidable event.RtpPort :=
  match event with
  | .addSource _ _ port =>
      inferInstanceAs (Decidable (1 ≤ port ∧ port ≤ 65534))
  | .removeSource _ | .addDestination _ _ _ _ | .removeDestination _ _
  | .packet _ _ | .elapse _ => isTrue trivial

def SpacedUse (runtime : Runtime) (registry : Registry)
    (event : WorkerEvent) : Prop :=
  event.Apart registry ∧ event.Registered registry ∧ event.RtpPort ∧
    event.Polled runtime

instance : Decidable (SpacedUse runtime registry event) :=
  inferInstanceAs (Decidable (_ ∧ _ ∧ _ ∧ _))

def KeepingUse (os : Os) (runtime : Runtime) (registry : Registry)
    (event : WorkerEvent) : Prop :=
  SpacedUse runtime registry event ∧ KeepsPairs os runtime registry event

instance : Decidable (KeepingUse os runtime registry event) :=
  inferInstanceAs (Decidable (_ ∧ _))

theorem SpacedUse.pairPorts {runtime : Runtime} {registry : Registry}
    {event : WorkerEvent} (allowed : SpacedUse runtime registry event) :
    ∀ srcId ip port, event = .addSource srcId ip port →
      PairPorts (fun _ => False) port := by
  intro srcId ip port isAdd
  subst isAdd
  obtain ⟨-, -, range, -⟩ := allowed
  exact ⟨by have := range.1; omega, range.2, id⟩

theorem workerMachine_run_keeping {os : Os} {workerId : Int} {kernel : Kernel}
    {runtime : Runtime} {registry : Registry}
    (run : (workerMachine os).Run Registry.observer (KeepingUse os)
      (Runtime.start .rtcp workerId kernel) runtime registry) :
    RtcpHolds (fun _ => False) runtime registry := by
  refine run.invariant_of (fun run => workerMachine_run_kind run)
    (motive := RtcpHolds fun _ => False)
    (RtcpHolds.start _ .rtcp workerId kernel) ?_
  intro runtime next registry event output sameKind holds allowed stepped
  exact (holds.step (.of_step sameKind stepped) allowed.1.1
    allowed.1.2.1 allowed.1.2.2.2 allowed.1.pairPorts allowed.2).1

theorem RtcpStep.skipped {os : Os} {runtime next : Runtime}
    {registry : Registry} {clean : Int → Prop} {srcId : Int} {ip : InAddr}
    {port : Int}
    (step : RtcpStep os runtime next (.addSource srcId ip port) (.added true))
    (holds : RtcpHolds clean runtime registry) (portRange : PairPorts clean port)
    (negative : runtime.worker.ports.listeners port < 0) :
    ¬ PairsOpen next (registry.addSource srcId (SockAddr.ofPort ip port)) := by
  intro opens
  have counted := holds.counted
  have here : registry.onPort port = 0 := by
    rcases Nat.eq_zero_or_pos (registry.onPort port) with zero | used
    · exact zero
    · have count := (counted.counts port used).1
      change runtime.worker.ports.listeners port = _ at count
      omega
  have below : registry.onPort (port - 1) = 0 := by
    rcases Nat.eq_zero_or_pos (registry.onPort (port - 1)) with zero | used
    · exact zero
    · have count := (counted.counts (port - 1) used).2
      rw [sub_add_cancel] at count
      change runtime.worker.ports.listeners port = _ at count
      omega
  have absent := counted.absent here below
  have lookup : (registry.addSource srcId (SockAddr.ofPort ip port)).lookup
      srcId = some ⟨SockAddr.ofPort ip port, []⟩ := by
    rw [Registry.lookup_addSource, if_pos rfl]
  obtain ⟨list, list2, -, -, address, -, ⟨fd, listening, -⟩, -⟩ :=
    opens srcId _ lookup
  have hosted : list.getSourcePort = port := by
    rw [StreamList.getSourcePort_eq, Registration.port]
    change ntohs list.getSourceSockAddr.sinPort = port
    rw [address]
    exact ntohs_htons_of_range portRange.low (portRange.high.trans (by decide))
  rw [hosted] at listening
  cases step with
  | added free free2 opened sockets lists routes =>
      have same : next.worker.ports = _ := congrArg SocketState.ports sockets
      rw [same] at listening
      have unopened := RtcpWorker.addSocketPair_portFd os
        (ne_of_lt negative) listening
      rw [absent] at unopened
      cases unopened

/-- Socket pairs stay open in every run whose steps keep them, and accepting a
source on a negative count breaks that at once. -/
theorem pairsOpen_of_keeping {os : Os} {workerId : Int} {kernel : Kernel}
    {runtime : Runtime} {registry : Registry}
    (run : (workerMachine os).Run Registry.observer (KeepingUse os)
      (Runtime.start .rtcp workerId kernel) runtime registry) :
    PairsOpen runtime registry ∧
      (∀ event next output, KeepingUse os runtime registry event →
        (workerMachine os).step runtime event = .ok (next, output) →
        PairsKept runtime next (registry.record event output)) ∧
      ∀ srcId ip port next,
        SpacedUse runtime registry (.addSource srcId ip port) →
        runtime.worker.ports.listeners port < 0 →
        (workerMachine os).step runtime (.addSource srcId ip port) =
          .ok (next, .added true) →
        ¬ PairsOpen next
          (registry.record (.addSource srcId ip port) (.added true)) := by
  have rtcp := workerMachine_run_kind run
  have holds := workerMachine_run_keeping run
  refine ⟨holds.pairsOpen, ?_, ?_⟩
  · intro event next output allowed stepped
    exact (holds.step (.of_step rtcp stepped) allowed.1.1
      allowed.1.2.1 allowed.1.2.2.2 allowed.1.pairPorts allowed.2).2
  · intro srcId ip port next allowed negative stepped
    have step : RtcpStep os runtime next (.addSource srcId ip port)
        (.added true) := .of_step rtcp stepped
    exact step.skipped holds (allowed.pairPorts srcId ip port rfl) negative

/-- Two pairs, one of them shared, closed and opened again. -/
theorem pairsOpen_two_pairs :
    ∃ runtime registry,
      (workerMachine .orderly).Run Registry.observer (KeepingUse .orderly)
        (Runtime.start .rtcp 0 .fresh) runtime registry ∧
      PairsOpen runtime registry := by
  have run : (workerMachine .orderly).Run Registry.observer (KeepingUse .orderly)
      (Runtime.start .rtcp 0 .fresh) _ _ :=
    .of_replay [.addSource 2 1 5000, .addSource 4 2 5000, .addSource 6 1 5003,
      .removeSource 2, .removeSource 4, .addSource 8 1 5000] (by decide)
  exact ⟨_, _, run, (pairsOpen_of_keeping run).1⟩

/-- The count that port 5001 keeps after the pair 5000 was closed makes the
worker believe that 5001 is open. -/
theorem pairsOpen_negative_count :
    ∃ runtime registry,
      (workerMachine .orderly).Run Registry.observer SpacedUse
        (Runtime.start .rtcp 0 .fresh) runtime registry ∧
      ¬ PairsOpen runtime registry := by
  have run : (workerMachine .orderly).Run Registry.observer SpacedUse
      (Runtime.start .rtcp 0 .fresh) _ _ :=
    .of_replay [.addSource 2 1 5000, .removeSource 2, .addSource 4 1 5001]
      (by decide)
  refine ⟨_, _, run, ?_⟩
  intro opens
  obtain ⟨list, list2, stored, -, -, -, ⟨fd, listening, -⟩, -⟩ :=
    opens 4 _ rfl
  cases stored
  cases listening

end StrManager
