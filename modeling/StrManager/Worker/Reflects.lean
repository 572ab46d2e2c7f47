import StrManager.Worker.Delivery
import StrManager.Worker.Traffic

namespace StrManager

open Library Function

/-! What `process` does with each outcome of `recvfrom`. -/

namespace Worker

structure Unchanged (before after : Worker) : Prop where
  fdPort : after.ports.fdPort.lookup = before.ports.fdPort.lookup
  portFd : after.ports.portFd.lookup = before.ports.portFd.lookup
  portListener :
    after.ports.portListener.lookup = before.ports.portListener.lookup
  forwarding :
    after.streams.forwarding.lookup = before.streams.forwarding.lookup
  management :
    after.streams.management.lookup = before.streams.management.lookup
  inputBytes : after.inputBytes = before.inputBytes

theorem Unchanged.holds {before after : Worker}
    (unchanged : Unchanged before after) {arrival : Arrival}
    (holds : after.Holds arrival) : before.Holds arrival := by
  have addr : after.lookupAddr arrival.fd arrival.received =
      before.lookupAddr arrival.fd arrival.received := by
    unfold lookupAddr Table.subscript
    rw [unchanged.fdPort]
  have routed : after.routed arrival = before.routed arrival := by
    unfold Worker.routed StreamTables.routes Table.subscript
    rw [addr, unchanged.forwarding]
  constructor
  · rw [← unchanged.fdPort]
    exact holds.fdPort
  · rw [← unchanged.forwarding, ← addr]
    exact holds.forwarding
  · rw [← unchanged.management, ← routed]
    exact holds.management

def lookedUp (worker : Worker) (fd : Int) (received : Received) :
    Option StreamList :=
  worker.streams.lists (worker.routed ⟨0, fd, received⟩)

end Worker

namespace Runtime

variable {runtime : Runtime} {fd : Int} {received : Received}

theorem process_missed (content : 0 < received.rlen.toNat)
    (missing : runtime.worker.lookedUp fd received = none) :
    let (next, sent) := runtime.process fd received
    sent = [] ∧ next.worker.streams.lists = runtime.worker.streams.lists ∧
      next.worker.inputBytes = runtime.worker.inputBytes := by
  unfold Worker.lookedUp Worker.routed at missing
  rw [process_eq]
  unfold Worker.processWith
  simp only [content, if_true, StreamTables.getStreamListBySocket_fst, missing,
    StreamTables.lists_getStreamListBySocket, and_self]

theorem process_found (content : 0 < received.rlen.toNat)
    {list noted : StreamList}
    (found : runtime.worker.lookedUp fd received = some list)
    (accepted : runtime.worker.kind.notes.note runtime.kernel.clock
      received.rlen list = some noted) :
    let (next, sent) := runtime.process fd received
    sent = Worker.sendAll fd received list ∧
      next.worker.streams.lists = update runtime.worker.streams.lists
        (runtime.worker.routed ⟨0, fd, received⟩) (some noted) ∧
      next.worker.inputBytes = runtime.worker.kind.notes.count received.rlen
        runtime.worker.inputBytes := by
  unfold Worker.lookedUp Worker.routed at found
  rw [process_eq]
  unfold Worker.processWith
  simp only [content, if_true, StreamTables.getStreamListBySocket_fst, found,
    accepted, StreamTables.lists_modifyList,
    StreamTables.lists_getStreamListBySocket, true_and]
  exact ⟨rfl, trivial⟩

end Runtime

theorem WorkerKind.notes_of_ne_stats {kind : WorkerKind} (other : kind ≠ .stats) :
    kind.notes = ForwardWorker.notes := by
  cases kind with
  | stats => exact absurd rfl other
  | forward => rfl
  | rtcp => rfl

theorem Received.rlen_failed (sender : SockAddr) (buffer : List UInt8) :
    (failed sender buffer).rlen.toNat = 2 ^ 32 - 1 := by
  simp [rlen, recvfrom]

theorem int32_add_failed_ne (value : Int) :
    int32 (value + (2 ^ 32 - 1 : Nat)) ≠ value := by
  intro equal
  unfold int32 at equal
  have congruent : (value + (2 ^ 32 - 1 : Nat)).bmod (2 ^ 32) % (2 ^ 32 : Nat) =
      (value + (2 ^ 32 - 1 : Nat)) % (2 ^ 32 : Nat) := Int.bmod_emod
  rw [equal] at congruent
  omega

namespace Worker

theorem Unchanged.lists {before after : Worker}
    (unchanged : Unchanged before after) :
    after.streams.lists = before.streams.lists := by
  unfold StreamTables.lists
  funext listId
  unfold Table.subscript
  rw [unchanged.management]

theorem ArrivalStep.unchanged {before after : Worker} {arrival : Arrival}
    (step : ArrivalStep before after arrival) (holds : before.Holds arrival)
    (lists : after.streams.lists = before.streams.lists)
    (inputBytes : after.inputBytes = before.inputBytes) :
    Unchanged before after := by
  have untouched := step.untouched holds
  refine ⟨?_, ?_, ?_, ?_, ?_, inputBytes⟩
  · rw [untouched.ports]
  · rw [untouched.ports]
  · rw [untouched.ports]
  · rw [untouched.forwarding]
  · rcases step.management with touched | ⟨list, noted, found, -, noting⟩
    · rw [touched, Table.touch_of_isSome none holds.management]
    · have stored : after.streams.lists (before.routed arrival) =
          some noted := by
        unfold StreamTables.lists
        rw [noting, Table.subscript_insert, update_self]
      have same : some noted = some list := by
        rw [← stored, lists]
        exact Table.subscript_of_lookup none found
      rw [noting, Table.lookup_insert_eq_update, same, ← found, update_eq_self]

end Worker

def Worker.relays (worker : Worker) (fd : Int) (received : Received) :
    List SockAddr :=
  match worker.lookedUp fd received with
  | none => []
  | some list => list.destinations.map UdpStream.addr

def transmitAll (fd : Int) (bytes : List UInt8) (addrs : List SockAddr) :
    List Transmission :=
  addrs.map fun addr => ⟨fd, bytes, bytes.length, addr⟩

namespace Runtime

def IgnoresFailure (runtime : Runtime) (fd : Int) (sender : SockAddr)
    (buffer : List UInt8) : Prop :=
  let (next, sent) := runtime.process fd (.failed sender buffer)
  sent = [] ∧ Worker.Unchanged runtime.worker next.worker

/-- The whole datagram goes to the destinations of a source with its
address. -/
def RelaysWhole (runtime : Runtime) (fd : Int) (sender : SockAddr)
    (bytes : List UInt8) : Prop :=
  ∀ srcId list, runtime.worker.streams.lists srcId = some list →
    list.getSourceSockAddr =
      runtime.worker.lookupAddr fd (.datagram sender bytes) →
    (runtime.process fd (.datagram sender bytes)).2 =
      transmitAll fd bytes (list.destinations.map UdpStream.addr)

def Reflects (runtime : Runtime) (fd : Int) : Received → Prop
  | .failed sender buffer => runtime.IgnoresFailure fd sender buffer
  | .datagram sender bytes => runtime.RelaysWhole fd sender bytes

/-- When it does so. After a failed call the stale sender has to be in the
tables already, without a list or with one on which a packet leaves no trace.
A datagram has to fit the buffer, and to be routed to the destinations of its
source. -/
def Harmless (runtime : Runtime) (fd : Int) : Received → Prop
  | .failed sender buffer =>
      runtime.worker.Holds ⟨0, fd, .failed sender buffer⟩ ∧
      ∀ list, runtime.worker.lookedUp fd (.failed sender buffer) = some list →
        runtime.worker.kind ≠ .stats ∧ list.destinations = [] ∧
          list.timeStamp = some runtime.kernel.clock
  | .datagram sender bytes =>
      ∀ srcId list, runtime.worker.streams.lists srcId = some list →
        list.getSourceSockAddr =
          runtime.worker.lookupAddr fd (.datagram sender bytes) →
        if bytes = [] then list.destinations = []
        else runtime.worker.relays fd (.datagram sender bytes) =
            list.destinations.map UdpStream.addr ∧
          (list.destinations = [] ∨ bytes.length ≤ 2048)

variable {runtime : Runtime} {fd : Int}

theorem ignoresFailure_iff (accepted : runtime.worker.ListsAccepted)
    (sender : SockAddr) (buffer : List UInt8) :
    runtime.IgnoresFailure fd sender buffer ↔
      runtime.Harmless fd (.failed sender buffer) := by
  have content : 0 < (Received.failed sender buffer).rlen.toNat := by
    rw [Received.rlen_failed]
    decide
  obtain ⟨-, step⟩ := (runtime.process_cases
    ⟨0, fd, .failed sender buffer⟩).resolve_left (by
      rintro ⟨empty, -⟩
      exact absurd empty content.ne')
  constructor
  · rintro ⟨silent, unchanged⟩
    refine ⟨unchanged.holds step.holds, ?_⟩
    intro list found
    obtain ⟨noted, notes⟩ := WorkerKind.notes_accept
      (fun stats => accepted stats _ list found) runtime.kernel.clock
      (Received.failed sender buffer).rlen
    obtain ⟨sent, lists, inputBytes⟩ := process_found content found notes
    have other : runtime.worker.kind ≠ .stats := by
      intro stats
      have counts : runtime.worker.kind.notes = StatsWorker.notes := by
        rw [stats]
        rfl
      rw [counts] at inputBytes
      apply int32_add_failed_ne runtime.worker.inputBytes
      rw [← Received.rlen_failed sender buffer]
      exact inputBytes.symm.trans unchanged.inputBytes
    refine ⟨other, ?_, ?_⟩
    · rw [silent] at sent
      exact List.map_eq_nil_iff.mp sent.symm
    · have same : some noted = some list := by
        rw [← found, Worker.lookedUp, ← unchanged.lists, lists, update_self]
      rw [WorkerKind.notes_of_ne_stats other] at notes
      cases notes
      rw [← Option.some.inj same]
      rfl
  · rintro ⟨holds, quiet⟩
    cases found : runtime.worker.lookedUp fd (.failed sender buffer) with
    | none =>
        obtain ⟨sent, lists, inputBytes⟩ := process_missed content found
        exact ⟨sent, step.unchanged holds lists inputBytes⟩
    | some list =>
        obtain ⟨other, unfed, stamped⟩ := quiet list found
        have notes := WorkerKind.notes_of_ne_stats other
        have same : list.updateTimeStamp runtime.kernel.clock = list := by
          unfold StreamList.updateTimeStamp
          rw [← stamped]
        have accepts : runtime.worker.kind.notes.note runtime.kernel.clock
            (Received.failed sender buffer).rlen list = some list := by
          rw [notes]
          exact congrArg some same
        obtain ⟨sent, lists, inputBytes⟩ := process_found content found accepts
        refine ⟨?_, step.unchanged holds ?_ ?_⟩
        · refine sent.trans ?_
          rw [Worker.sendAll, unfed, List.map_nil]
        · refine lists.trans ?_
          rw [← found, Worker.lookedUp, update_eq_self]
        · refine inputBytes.trans ?_
          rw [notes]
          rfl

end Runtime

theorem transmitAll_eq_iff {fd : Int} {bytes cut : List UInt8}
    {first second : List SockAddr} :
    transmitAll fd cut first = transmitAll fd bytes second ↔
      first = second ∧ (second = [] ∨ cut = bytes) := by
  constructor
  · intro equal
    have sameAddrs : first = second := by
      have addrs := congrArg (List.map Transmission.destination) equal
      unfold transmitAll at addrs
      rw [List.map_map, List.map_map] at addrs
      exact (List.map_id first).symm.trans (addrs.trans (List.map_id second))
    subst sameAddrs
    refine ⟨rfl, ?_⟩
    cases first with
    | nil => exact .inl rfl
    | cons addr rest =>
        have heads := (List.cons.inj equal).1
        exact .inr (congrArg Transmission.buffer heads)
  · rintro ⟨rfl, rfl | rfl⟩ <;> rfl

namespace Runtime

variable {runtime : Runtime} {fd : Int}

theorem process_datagram (accepted : runtime.worker.ListsAccepted)
    (sender : SockAddr) (bytes : List UInt8) :
    (runtime.process fd (.datagram sender bytes)).2 =
      if bytes = [] then [] else transmitAll fd (bytes.take 2048)
        (runtime.worker.relays fd (.datagram sender bytes)) := by
  split
  · rename_i empty
    rw [empty, process_nil]
  · rename_i content
    have positive : 0 < (Received.datagram sender bytes).rlen.toNat := by
      rw [Received.rlen_datagram, List.length_take, lt_inf_iff]
      exact ⟨by decide, List.length_pos_iff.mpr content⟩
    unfold Worker.relays
    cases found : runtime.worker.lookedUp fd (.datagram sender bytes) with
    | none => exact (process_missed positive found).1
    | some list =>
        obtain ⟨noted, notes⟩ := WorkerKind.notes_accept
          (fun stats => accepted stats _ list found) runtime.kernel.clock
          (Received.datagram sender bytes).rlen
        refine (process_found positive found notes).1.trans ?_
        rw [sendAll_datagram, deliveries, transmitAll, List.map_map]
        rfl

theorem relaysWhole_iff (accepted : runtime.worker.ListsAccepted)
    (sender : SockAddr) (bytes : List UInt8) :
    runtime.RelaysWhole fd sender bytes ↔
      runtime.Harmless fd (.datagram sender bytes) := by
  refine forall_congr' fun srcId => forall_congr' fun list => ?_
  refine imp_congr_right fun _ => imp_congr_right fun _ => ?_
  rw [process_datagram accepted]
  split
  · rw [eq_comm, transmitAll, List.map_eq_nil_iff, List.map_eq_nil_iff]
  · rw [transmitAll_eq_iff, List.map_eq_nil_iff, List.take_eq_self_iff]

end Runtime

/-- In every reachable state and for every outcome of `recvfrom`. -/
theorem reflects_iff {os : Os} {kind : WorkerKind} {workerId : Int}
    {kernel : Kernel} {runtime : Runtime}
    (run : (workerMachine os).Run Observer.none (fun _ _ _ => True)
      (Runtime.start kind workerId kernel) runtime ()) (fd : Int)
    (received : Received) :
    runtime.Reflects fd received ↔ runtime.Harmless fd received := by
  have accepted := workerMachine_run_listsAccepted run
  cases received with
  | failed sender buffer => exact Runtime.ignoresFailure_iff accepted sender buffer
  | datagram sender bytes => exact Runtime.relaysWhole_iff accepted sender bytes

theorem reflects_short :
    ∃ runtime, (workerMachine .orderly).Run Observer.none (fun _ _ _ => True)
        (Runtime.start .stats 0 .fresh) runtime () ∧
      runtime.Reflects 3 (.datagram ⟨1, 9⟩ [7, 8, 9]) := by
  have run : (workerMachine .orderly).Run Observer.none (fun _ _ _ => True)
      (Runtime.start .stats 0 .fresh) _ _ :=
    .of_replay [.addSource 1 1 5000, .addDestination 1 5 9 6000] (by decide)
  refine ⟨_, run, (reflects_iff run 3 _).mpr ?_⟩
  intro srcId list found _
  have stored := (Table.mem_entries_iff _ _ _).mpr
    (StreamTables.lookup_of_lists found)
  cases List.mem_singleton.mp stored
  decide

/-- A failed call is taken for a packet of 4294967295 bytes from whoever sent
the last one. -/
theorem reflects_failure :
    ∃ runtime, (workerMachine .orderly).Run Observer.none (fun _ _ _ => True)
        (Runtime.start .forward 0 .fresh) runtime () ∧
      ¬ runtime.Reflects 3 (.failed ⟨1, 9⟩ []) := by
  have run : (workerMachine .orderly).Run Observer.none (fun _ _ _ => True)
      (Runtime.start .forward 0 .fresh) _ _ :=
    .of_replay [.addSource 1 1 5000, .addDestination 1 5 9 6000] (by decide)
  refine ⟨_, run, ?_⟩
  rintro ⟨silent, -⟩
  exact absurd silent (by decide)

end StrManager
