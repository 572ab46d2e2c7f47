import StrManager.Worker.Implements
import StrManager.Worker.Traffic

namespace StrManager

open Library Function

/-! When a worker that has lost its last source stops. -/

namespace WorkerOutput

def messages : WorkerOutput → List Message
  | .removed messages => messages
  | .added _ | .done | .sent _ => []

end WorkerOutput

def RemovesOnly (registry : Registry) : WorkerEvent → Prop
  | .removeSource srcId => (registry.lookup srcId).isSome = true ∧
      ∀ other, other ≠ srcId → registry.lookup other = none
  | _ => False

/-- The removal of the only source queues one message and stops the worker;
nothing else does either while a source is registered. -/
structure Retires (runtime next : Runtime) (registry : Registry)
    (event : WorkerEvent) (output : WorkerOutput) : Prop where
  last : RemovesOnly registry event → next.worker.working = false ∧
    ∃ message, output.messages = [message] ∧ message.type = 100 ∧
      message.sender = runtime.worker.workerId
  used : (∃ srcId, ((registry.record event output).lookup srcId).isSome = true) →
    next.worker.working = runtime.worker.working ∧ output.messages = []

def StreamTables.NoNull (tables : StreamTables) : Prop :=
  ∀ listId entry, tables.management.lookup listId = some entry →
    entry.isSome = true

instance (tables : StreamTables) : Decidable tables.NoNull :=
  inferInstanceAs (Decidable (∀ listId entry,
    tables.management.lookup listId = some entry → entry.isSome = true))

theorem Runtime.step_stops {os : Os} {runtime next : Runtime}
    {event : WorkerEvent} {output : WorkerOutput}
    (stepped : runtime.step os event = .ok (next, output)) :
    (next.worker.working = runtime.worker.working ∧ output.messages = []) ∨
    (runtime.worker.kind ≠ .rtcp ∧ next.worker.streams.isEmpty = true ∧
      next.worker.working = false ∧
      output.messages = [runtime.worker.idleMessage]) := by
  cases event with
  | addSource srcId ip port =>
      cases stepped
      exact .inl ⟨(Runtime.addSource_sameWorker os runtime srcId ip port).2, rfl⟩
  | removeSource srcId =>
      obtain ⟨messages, rfl, called⟩ := Runtime.step_removeSource stepped
      exact (Runtime.removeSource_stops called).2
  | addDestination srcId destId ip port =>
      obtain ⟨rfl, called⟩ := Runtime.step_addDestination stepped
      exact .inl ⟨(Runtime.addDestination_streamsOnly called).working, rfl⟩
  | removeDestination srcId destId =>
      obtain ⟨rfl, called⟩ := Runtime.step_removeDestination stepped
      exact .inl ⟨(Runtime.removeDestination_streamsOnly called).working, rfl⟩
  | packet fd received =>
      cases stepped
      exact .inl ⟨(Runtime.process_step runtime fd received).working, rfl⟩
  | elapse seconds =>
      cases stepped
      exact .inl ⟨rfl, rfl⟩

theorem Worker.removeSource_empties_iff {runtime next : Runtime} {srcId : Int}
    {messages : List Message} {registry : Registry}
    (called : Worker.removeSource runtime srcId = .ok (next, messages))
    (implements : Implements runtime.worker.streams.lists registry.lookup)
    (only : RemovesOnly registry (.removeSource srcId)) :
    next.worker.streams.isEmpty = true ↔ runtime.worker.streams.NoNull := by
  obtain ⟨registered, alone⟩ := only
  obtain ⟨registration, known⟩ := Option.isSome_iff_exists.mp registered
  obtain ⟨list, found, -⟩ := implements.stored known
  rw [StreamTables.isEmpty_iff, Worker.removeSource_management called]
  constructor
  · intro empty listId entry stored
    by_cases here : listId = srcId
    · subst here
      rw [StreamTables.lookup_of_lists found] at stored
      cases stored
      rfl
    · have gone := empty listId
      rw [Table.lookup_erase, if_neg here, stored] at gone
      cases gone
  · intro noNull listId
    rw [Table.lookup_erase]
    by_cases here : listId = srcId
    · rw [if_pos here]
    · rw [if_neg here]
      have unlisted := (implements.none_iff listId).mpr (alone listId here)
      cases stored : runtime.worker.streams.management.lookup listId with
      | none => rfl
      | some entry =>
          obtain ⟨other, rfl⟩ :=
            Option.isSome_iff_exists.mp (noNull listId entry stored)
          simp [StreamTables.lists, Table.subscript, stored] at unlisted

variable {os : Os} {runtime next : Runtime} {registry : Registry}
  {event : WorkerEvent} {output : WorkerOutput}

theorem Runtime.step_keeps_working
    (implements : runtime.worker.kind ≠ .rtcp →
      Implements next.worker.streams.lists (registry.record event output).lookup)
    (stepped : runtime.step os event = .ok (next, output))
    (inUse : ∃ srcId,
      ((registry.record event output).lookup srcId).isSome = true) :
    next.worker.working = runtime.worker.working ∧ output.messages = [] := by
  rcases Runtime.step_stops stepped with quiet | ⟨plain, empty, -, -⟩
  · exact quiet
  · obtain ⟨srcId, registered⟩ := inUse
    obtain ⟨registration, known⟩ := Option.isSome_iff_exists.mp registered
    obtain ⟨list, found, -⟩ := (implements plain).stored known
    rw [StreamTables.isEmpty_eq_false found] at empty
    cases empty

theorem RemovesOnly.removes (only : RemovesOnly registry event) :
    ∃ srcId, event = .removeSource srcId := by
  cases event with
  | removeSource srcId => exact ⟨srcId, rfl⟩
  | addSource _ _ _ | addDestination _ _ _ _ | removeDestination _ _
  | packet _ _ | elapse _ => cases only

theorem Runtime.step_stops_iff (plain : runtime.worker.kind ≠ .rtcp)
    (implements : Implements runtime.worker.streams.lists registry.lookup)
    (only : RemovesOnly registry event)
    (stepped : runtime.step os event = .ok (next, output)) :
    (next.worker.working = false ∧
      output.messages = [runtime.worker.idleMessage]) ↔
      runtime.worker.streams.NoNull := by
  obtain ⟨srcId, rfl⟩ := only.removes
  obtain ⟨messages, rfl, called⟩ := Runtime.step_removeSource stepped
  rw [Runtime.removeSource_of_plain plain] at called
  rw [← Worker.removeSource_empties_iff called implements only]
  rcases Worker.removeSource_cases runtime srcId with
    ⟨-, faulted⟩ |
      ⟨list, after, queued, -, removed, -, -, -, -, stops | kept⟩
  · rw [faulted] at called
    cases called
  · rw [removed] at called
    cases called
    exact iff_of_true stops.2 stops.1
  · rw [removed] at called
    cases called
    refine iff_of_false ?_ (by simp [kept.1])
    rw [kept.2.2]
    rintro ⟨-, queued⟩
    cases queued

/-- Along every run, each step retires the worker as it should exactly when it
is no removal of the only source, or one from a worker that is no RTCP worker
and holds no null list. -/
theorem retires_iff {kind : WorkerKind} {workerId : Int} {kernel : Kernel}
    (run : (workerMachine os).Run Registry.observer (fun _ _ _ => True)
      (Runtime.start kind workerId kernel) runtime registry)
    (stepped : (workerMachine os).step runtime event = .ok (next, output)) :
    Retires runtime next registry event output ↔
      (RemovesOnly registry event →
        kind ≠ .rtcp ∧ runtime.worker.streams.NoNull) := by
  have sameKind := workerMachine_run_kind run
  have nextRun := run.step trivial stepped
  change runtime.step os event = .ok (next, output) at stepped
  subst sameKind
  constructor
  · intro retires only
    obtain ⟨stopped, message, queued, -, -⟩ := retires.last only
    rcases Runtime.step_stops stepped with ⟨-, quiet⟩ | ⟨plain, -, stops⟩
    · rw [quiet] at queued
      cases queued
    · exact ⟨plain, (Runtime.step_stops_iff plain
        (workerMachine_run_implements plain run) only stepped).mp stops⟩
  · intro condition
    refine ⟨?_, Runtime.step_keeps_working
      (fun plain => workerMachine_run_implements plain nextRun) stepped⟩
    intro only
    obtain ⟨plain, noNull⟩ := condition only
    obtain ⟨stopped, queued⟩ := (Runtime.step_stops_iff plain
      (workerMachine_run_implements plain run) only stepped).mpr noNull
    exact ⟨stopped, _, queued, rfl, rfl⟩

/-- A stranger's packet was routed to list 0, which was no null list. -/
theorem retires_listed :
    ∃ runtime registry next output,
      (workerMachine .orderly).Run Registry.observer (fun _ _ _ => True)
        (Runtime.start .stats 3 .fresh) runtime registry ∧
      (workerMachine .orderly).step runtime (.removeSource 0) =
        .ok (next, output) ∧
      RemovesOnly registry (.removeSource 0) ∧
      Retires runtime next registry (.removeSource 0) output := by
  have run : (workerMachine .orderly).Run Registry.observer
      (fun _ _ _ => True) (Runtime.start .stats 3 .fresh) _ _ :=
    .of_replay [.addSource 0 1 5000,
      .packet 3 (.datagram (SockAddr.ofPort 9 6000) [7])] (by decide)
  refine ⟨_, _, _, _, run, rfl, ⟨rfl, ?_⟩, ?_⟩
  · intro other different
    exact (Table.lookup_insert _ _ _ _).trans (if_neg different)
  · exact (retires_iff run rfl).mpr fun _ => ⟨by decide, by decide⟩

/-- A stranger's packet keeps a forward worker from being retired, and nothing
ever retires an RTCP worker. -/
theorem retires_never :
    (∃ runtime registry next output,
      (workerMachine .orderly).Run Registry.observer (fun _ _ _ => True)
        (Runtime.start .forward 3 .fresh) runtime registry ∧
      (workerMachine .orderly).step runtime (.removeSource 1) =
        .ok (next, output) ∧
      ¬ Retires runtime next registry (.removeSource 1) output) ∧
    ∃ runtime registry next output,
      (workerMachine .orderly).Run Registry.observer (fun _ _ _ => True)
        (Runtime.start .rtcp 3 .fresh) runtime registry ∧
      (workerMachine .orderly).step runtime (.removeSource 1) =
        .ok (next, output) ∧
      ¬ Retires runtime next registry (.removeSource 1) output := by
  have alone : RemovesOnly (Registry.addSource ∅ 1 (SockAddr.ofPort 1 5000))
      (.removeSource 1) := by
    refine ⟨rfl, ?_⟩
    intro other different
    exact (Table.lookup_insert _ _ _ _).trans (if_neg different)
  have run : (workerMachine .orderly).Run Registry.observer
      (fun _ _ _ => True) (Runtime.start .forward 3 .fresh) _ _ :=
    .of_replay [.addSource 1 1 5000,
      .packet 3 (.datagram (SockAddr.ofPort 9 6000) [7])] (by decide)
  have rtcpRun : (workerMachine .orderly).Run Registry.observer
      (fun _ _ _ => True) (Runtime.start .rtcp 3 .fresh) _ _ :=
    .of_replay [.addSource 1 1 5000] (by decide)
  refine ⟨⟨_, _, _, _, run, rfl, ?_⟩, _, _, _, _, rtcpRun, rfl, ?_⟩
  · intro retires
    exact absurd (retires.last alone).1 (by decide)
  · intro retires
    exact absurd (retires.last alone).1 (by decide)

/-! Runs in which no packet finds its list missing. -/

namespace StreamTables.NoNull

variable {tables : StreamTables}

theorem of_empty : empty.NoNull := by
  intro listId entry stored
  simp [empty] at stored

theorem getStreamList (noNull : tables.NoNull) {listId : Int}
    {list : StreamList} (found : tables.lists listId = some list) :
    (tables.getStreamList listId).2.NoNull := by
  unfold StreamTables.getStreamList
  rw [Table.touch_of_lookup none (lookup_of_lists found)]
  exact noNull

theorem modifyList (noNull : tables.NoNull) (listId : Int)
    (list : StreamList) : (tables.modifyList listId list).NoNull := by
  intro other entry stored
  change (tables.management.insert listId (some list)).lookup other = _
    at stored
  rw [Table.lookup_insert] at stored
  split at stored
  · cases stored
    rfl
  · exact noNull other entry stored

theorem addStreamList (noNull : tables.NoNull) (listId : Int)
    (list : StreamList) : (tables.addStreamList listId list).NoNull :=
  noNull.modifyList listId list

end StreamTables.NoNull

def WorkerEvent.Listed (runtime : Runtime) : WorkerEvent → Prop
  | .packet fd received => 0 < received.rlen.toNat →
      (runtime.worker.streams.management.lookup
        (runtime.worker.routed ⟨0, fd, received⟩)).isSome = true
  | _ => True

theorem Worker.addSourceWith_noNull
    (newList : Kernel → Int → UdpStream → StreamList) (os : Os)
    {runtime : Runtime} (srcId : Int) (ip : InAddr) (port : Int)
    (noNull : runtime.worker.streams.NoNull) :
    (addSourceWith newList os runtime srcId ip port).2.worker.streams.NoNull
    := by
  simp only [addSourceWith]
  split
  · exact noNull
  · split
    · apply StreamTables.NoNull.addStreamList
      exact noNull
    · exact noNull

theorem Worker.removeSource_noNull {runtime next : Runtime} {srcId : Int}
    {messages : List Message}
    (called : Worker.removeSource runtime srcId = .ok (next, messages))
    (noNull : runtime.worker.streams.NoNull) :
    next.worker.streams.NoNull := by
  intro other entry stored
  rw [Worker.removeSource_management called, Table.lookup_erase] at stored
  split at stored
  · cases stored
  · exact noNull other entry stored

theorem Worker.addDestination_noNull {runtime next : Runtime}
    {srcId destId : Int} {ip : InAddr} {port : Int}
    (called : Worker.addDestination runtime srcId destId ip port = .ok next)
    (noNull : runtime.worker.streams.NoNull) :
    next.worker.streams.NoNull := by
  obtain ⟨list, found, rfl | rfl⟩ := Worker.addDestination_ok called
  · exact noNull.getStreamList found
  · exact (noNull.getStreamList found).addStreamList srcId _

theorem Worker.removeDestination_noNull {runtime next : Runtime}
    {srcId destId : Int}
    (called : Worker.removeDestination runtime srcId destId = .ok next)
    (noNull : runtime.worker.streams.NoNull) :
    next.worker.streams.NoNull := by
  obtain ⟨list, found, rfl | rfl⟩ := Worker.removeDestination_ok called
  · exact noNull.getStreamList found
  · exact (noNull.getStreamList found).addStreamList srcId _

theorem Runtime.process_noNull {runtime : Runtime} {fd : Int}
    {received : Received}
    (listed : WorkerEvent.Listed runtime (.packet fd received))
    (noNull : runtime.worker.streams.NoNull) :
    (runtime.process fd received).1.worker.streams.NoNull := by
  rcases runtime.process_cases ⟨0, fd, received⟩ with
    ⟨-, same⟩ | ⟨content, step⟩
  · rw [same]
    exact noNull
  · have management := step.management
    rw [Table.touch_of_isSome none (listed content)] at management
    intro listId entry stored
    rcases management with same | ⟨list, noted, -, -, noting⟩
    · rw [same] at stored
      exact noNull listId entry stored
    · rw [noting, Table.lookup_insert] at stored
      split at stored
      · cases stored
        rfl
      · exact noNull listId entry stored

theorem Runtime.step_noNull (plain : runtime.worker.kind ≠ .rtcp)
    (listed : event.Listed runtime)
    (noNull : runtime.worker.streams.NoNull)
    (stepped : runtime.step os event = .ok (next, output)) :
    next.worker.streams.NoNull := by
  cases event with
  | addSource srcId ip port =>
      have kept := Worker.addSourceWith_noNull runtime.worker.kind.newList os
        srcId ip port noNull
      rw [← Runtime.addSource_of_plain plain] at kept
      cases stepped
      exact kept
  | removeSource srcId =>
      obtain ⟨messages, rfl, called⟩ := Runtime.step_removeSource stepped
      rw [Runtime.removeSource_of_plain plain] at called
      exact Worker.removeSource_noNull called noNull
  | addDestination srcId destId ip port =>
      obtain ⟨rfl, called⟩ := Runtime.step_addDestination stepped
      rw [Runtime.addDestination_of_plain plain] at called
      exact Worker.addDestination_noNull called noNull
  | removeDestination srcId destId =>
      obtain ⟨rfl, called⟩ := Runtime.step_removeDestination stepped
      rw [Runtime.removeDestination_of_plain plain] at called
      exact Worker.removeDestination_noNull called noNull
  | packet fd received =>
      cases stepped
      exact Runtime.process_noNull listed noNull
  | elapse seconds =>
      cases stepped
      exact noNull

theorem workerMachine_run_noNull {kind : WorkerKind} (plain : kind ≠ .rtcp)
    {workerId : Int} {kernel : Kernel}
    (run : (workerMachine os).Run Registry.observer
      (fun runtime _ event => event.Listed runtime)
      (Runtime.start kind workerId kernel) runtime registry) :
    runtime.worker.streams.NoNull := by
  refine run.invariant_of (fun run => workerMachine_run_kind run)
    (motive := fun runtime _ => runtime.worker.streams.NoNull)
    StreamTables.NoNull.of_empty ?_
  intro runtime next registry event output sameKind noNull listed stepped
  exact Runtime.step_noNull (sameKind ▸ plain) listed noNull stepped

/-- Unless a packet was routed to a missing list, the removal of the only
source always stops a forward or stats worker. -/
theorem retired_of_listed {kind : WorkerKind} (plain : kind ≠ .rtcp)
    {workerId : Int} {kernel : Kernel}
    (run : (workerMachine os).Run Registry.observer
      (fun runtime _ event => event.Listed runtime)
      (Runtime.start kind workerId kernel) runtime registry)
    (only : RemovesOnly registry event)
    (stepped : (workerMachine os).step runtime event = .ok (next, output)) :
    next.worker.working = false ∧
      output.messages = [runtime.worker.idleMessage] := by
  have sameKind := workerMachine_run_kind run
  exact (Runtime.step_stops_iff (sameKind ▸ plain)
    (workerMachine_run_implements plain run) only stepped).mpr
      (workerMachine_run_noNull plain run)

end StrManager
