import StrManager.Library.Account
import StrManager.Worker.Reflects

namespace StrManager

open Library Function

/-! A statistics worker in the steps between which its two threads interleave:
`process`, which counts the bytes of a packet twice, and `generateStats`, which
computes rates from the counters and resets them. -/

structure Store where
  keep : Int → Int
  absorbs : ∀ total amount, keep (total + keep amount) = keep (total + amount)

namespace Store

def exact : Store where
  keep := id
  absorbs := fun _ _ => rfl

@[simp] theorem exact_keep (total : Int) : exact.keep total = total := rfl

/-- The type of both counters is `int`. -/
def int : Store where
  keep := int32
  absorbs := fun _ _ => Int.add_bmod_bmod

@[simp] theorem int_keep (total : Int) : int.keep total = int32 total := rfl

end Store

namespace StatsStreamList

def updateInputBytes (store : Store) (length : BitVec 32) (list : StreamList) :
    Option StreamList :=
  list.counters.map fun counters =>
    { list with
      counters := some { counters with
        inputBytes :=
          store.keep (counters.inputBytes + store.keep length.toNat) } }

/-- The first statement of `calculateRate`, outside its critical section. -/
def readRate (diff : Int) (list : StreamList) : StreamList :=
  { list with
    counters := list.counters.map fun counters =>
      { counters with
        actualRate := (counters.inputBytes.tdiv 125).tdiv diff } }

/-- The critical section of `calculateRate`. -/
def resetInputBytes (list : StreamList) : StreamList :=
  { list with
    counters := list.counters.map fun counters =>
      { counters with inputBytes := 0 } }

def calculateRate (diff : Int) (list : StreamList) : StreamList :=
  resetInputBytes (readRate diff list)

/-- The seconds since the last rate, when they are more than ten. -/
def due (now : Int) (list : StreamList) : Option Int :=
  (list.timeStamp.map fun timeStamp => now - timeStamp).filter (10 < ·)

def update (now : Int) (list : StreamList) : StreamList :=
  match due now list with
  | none => list
  | some diff => (calculateRate diff list).updateTimeStamp now

def inputBytes (list : Option StreamList) : Int :=
  (list.bind StreamList.counters).elim 0 RateCounters.inputBytes

end StatsStreamList

/-- A packet that `process` has added to the counter of the worker, but not
yet to that of its list. -/
structure PendingPacket where
  listId : Int
  rlen : BitVec 32
  transmissions : List Transmission

inductive StatsStage where
  | check
  | sleep (wakes : Int)
  | visit (rest : List Int)
  | reset (listId : Int) (rest : List Int)
  | stamp (listId : Int) (rest : List Int)

inductive StatsOutput where
  | waited
  | counted (rlen : Nat)
  | noted (listId : Int) (rlen : Nat) (transmissions : List Transmission)
  | totalled (inputInfo inputRate : Int)
  | rated (listId inputBytes diff actualRate : Int)
  | cleared (listId : Int)

namespace StatsWorker

def counts (worker : Worker) (fd : Int) (received : Received) : Bool :=
  0 < received.rlen.toNat &&
    (worker.lookedUp fd received).any fun list => list.counters.isSome

/-- `process` up to the end of its first critical section. -/
def countPacket (store : Store) (runtime : Runtime) (fd : Int)
    (received : Received) : Runtime × Option PendingPacket :=
  if 0 < received.rlen.toNat then
    let a := runtime.worker.lookupAddr fd received
    let listId := runtime.worker.streams.routes a
    let (b, streams) := runtime.worker.streams.getStreamListBySocket a
    let worker := { runtime.worker with
      ports := { runtime.worker.ports with
        fdPort := runtime.worker.ports.fdPort.touch 0 fd }
      streams := streams }
    match b with
    | none => ({ runtime with worker := worker }, none)
    | some list =>
        match list.counters with
        | none => ({ runtime with worker := worker }, none)
        | some _ =>
            ({ runtime with worker := { worker with
                inputBytes :=
                  store.keep (worker.inputBytes + received.rlen.toNat) } },
              some ⟨listId, received.rlen, Worker.sendAll fd received list⟩)
  else
    (runtime, none)

def notePacket (store : Store) (runtime : Runtime) (packet : PendingPacket) :
    Except Fault (Runtime × List Transmission) := do
  let list ← derefList (runtime.worker.streams.lists packet.listId)
  let noted ←
    derefList (StatsStreamList.updateInputBytes store packet.rlen list)
  return (runtime.withStreams
    (runtime.worker.streams.modifyList packet.listId noted),
    packet.transmissions)

/-- The critical section of `generateStats`. -/
def resetInputBytes (runtime : Runtime) : Runtime :=
  { runtime with worker := { runtime.worker with inputBytes := 0 } }

/-- The identifiers in the order an iterator over `management` visits them. -/
def listIds (runtime : Runtime) : List Int :=
  runtime.worker.streams.management.entries.map Sigma.fst

/-- One step of `generateStats`. It skips null lists, and nothing of it runs
once the worker has stopped. -/
def proceed (runtime : Runtime) :
    StatsStage → Except Fault (Runtime × StatsStage × StatsOutput)
  | .check =>
      if runtime.worker.working then
        .ok (runtime, .sleep (runtime.kernel.clock + 10), .waited)
      else .ok (runtime, .check, .waited)
  | .sleep wakes =>
      if wakes ≤ runtime.kernel.clock then
        let inputInfo := runtime.worker.inputBytes
        .ok (resetInputBytes runtime, .visit (listIds runtime),
          .totalled inputInfo (inputInfo.tdiv 1250))
      else .ok (runtime, .sleep wakes, .waited)
  | .visit [] => .ok (runtime, .check, .waited)
  | .visit (listId :: rest) =>
      match runtime.worker.streams.lists listId with
      | none => .ok (runtime, .visit rest, .waited)
      | some list =>
          match list.counters with
          | none => .error .nullStreamList
          | some counters =>
              match StatsStreamList.due runtime.kernel.clock list with
              | none => .ok (runtime, .visit rest, .waited)
              | some diff =>
                  .ok (runtime.withStreams (runtime.worker.streams.modifyList
                      listId (StatsStreamList.readRate diff list)),
                    .reset listId rest,
                    .rated listId counters.inputBytes diff
                      ((counters.inputBytes.tdiv 125).tdiv diff))
  | .reset listId rest => do
      let list ← derefList (runtime.worker.streams.lists listId)
      return (runtime.withStreams (runtime.worker.streams.modifyList listId
        (StatsStreamList.resetInputBytes list)), .stamp listId rest,
        .cleared listId)
  | .stamp listId rest => do
      let list ← derefList (runtime.worker.streams.lists listId)
      return (runtime.withStreams (runtime.worker.streams.modifyList listId
        (list.updateTimeStamp runtime.kernel.clock)), .visit rest, .waited)

def updateList (runtime : Runtime) (listId : Int) : Except Fault Runtime :=
  match runtime.worker.streams.lists listId with
  | none => .ok runtime
  | some list =>
      match list.counters with
      | none => .error .nullStreamList
      | some _ =>
          if (StatsStreamList.due runtime.kernel.clock list).isSome then
            .ok (runtime.withStreams (runtime.worker.streams.modifyList listId
              (StatsStreamList.update runtime.kernel.clock list)))
          else .ok runtime

/-- A round of `generateStats` after its sleep. -/
def generateStats (runtime : Runtime) : Except Fault Runtime :=
  (listIds runtime).foldlM updateList (resetInputBytes runtime)

/-! Without interruption the steps are the functions of the source. -/

theorem process_eq (runtime : Runtime) (fd : Int) (received : Received) :
    match countPacket .int runtime fd received with
    | (counted, none) => process runtime fd received = (counted, [])
    | (counted, some packet) =>
        notePacket .int counted packet =
          .ok (process runtime fd received) := by
  by_cases content : 0 < received.rlen.toNat
  · cases found : runtime.worker.streams.lists (runtime.worker.streams.routes
      (runtime.worker.lookupAddr fd received)) with
    | none =>
        simp [process, Worker.processWith, countPacket, content, found]
    | some list =>
        cases counted : list.counters with
        | none =>
            simp [process, Worker.processWith, countPacket, notes, content,
              found, counted]
        | some counters =>
            simp [process, Worker.processWith, countPacket, notePacket, notes,
              content, found, counted, Store.int, Runtime.withStreams,
              StatsStreamList.updateInputBytes, bind, Except.bind, pure,
              Except.pure]
  · simp [process, Worker.processWith, countPacket, content]

def proceedAll : Nat → Runtime → StatsStage →
    Except Fault (Runtime × StatsStage)
  | 0, runtime, stage => .ok (runtime, stage)
  | steps + 1, runtime, stage => do
      let (runtime, stage, _) ← proceed runtime stage
      proceedAll steps runtime stage

theorem proceedAll_add (first second : Nat) (runtime : Runtime)
    (stage : StatsStage) :
    proceedAll (first + second) runtime stage =
      proceedAll first runtime stage >>= fun (runtime, stage) =>
        proceedAll second runtime stage := by
  induction first generalizing runtime stage with
  | zero => simp [proceedAll, bind, Except.bind]
  | succ first ih =>
      rw [Nat.succ_add, proceedAll, proceedAll]
      cases proceed runtime stage with
      | error fault => rfl
      | ok result => exact ih _ _

theorem proceedAll_updateList (runtime : Runtime) (listId : Int)
    (rest : List Int) :
    ∃ steps, proceedAll steps runtime (.visit (listId :: rest)) =
      (updateList runtime listId).map fun runtime => (runtime, .visit rest) := by
  cases found : runtime.worker.streams.lists listId with
  | none =>
      refine ⟨1, ?_⟩
      simp [proceedAll, proceed, updateList, found, bind, Except.bind,
        Except.map]
  | some list =>
      cases counted : list.counters with
      | none =>
          refine ⟨1, ?_⟩
          simp [proceedAll, proceed, updateList, found, counted, bind,
            Except.bind, Except.map]
      | some counters =>
          cases waited : StatsStreamList.due runtime.kernel.clock list with
          | none =>
              refine ⟨1, ?_⟩
              simp [proceedAll, proceed, updateList, found, counted, waited,
                bind, Except.bind, Except.map]
          | some diff =>
              refine ⟨3, ?_⟩
              simp [proceedAll, proceed, updateList, found, counted, waited,
                bind, Except.bind, pure, Except.pure, Except.map,
                Runtime.withStreams, StatsStreamList.update,
                StatsStreamList.calculateRate,
                StreamTables.modifyList_modifyList]

theorem proceedAll_visit (listIds : List Int) (runtime : Runtime) :
    ∃ steps, proceedAll steps runtime (.visit listIds) =
      (listIds.foldlM updateList runtime).map fun runtime =>
        (runtime, .visit []) := by
  induction listIds generalizing runtime with
  | nil => exact ⟨0, rfl⟩
  | cons listId rest ih =>
      obtain ⟨first, visits⟩ := proceedAll_updateList runtime listId rest
      rw [List.foldlM_cons]
      cases updated : updateList runtime listId with
      | error fault =>
          rw [updated] at visits
          exact ⟨first, visits⟩
      | ok next =>
          rw [updated] at visits
          obtain ⟨second, others⟩ := ih next
          refine ⟨first + second, ?_⟩
          rw [proceedAll_add, visits]
          exact others

theorem proceedAll_generateStats {runtime : Runtime} {wakes : Int}
    (awake : wakes ≤ runtime.kernel.clock) :
    ∃ steps, proceedAll steps runtime (.sleep wakes) =
      (generateStats runtime).map fun runtime => (runtime, .visit []) := by
  obtain ⟨steps, visits⟩ :=
    proceedAll_visit (listIds runtime) (resetInputBytes runtime)
  refine ⟨steps + 1, ?_⟩
  rw [proceedAll, proceed, if_pos awake]
  exact visits

end StatsWorker

/-! The two threads. -/

inductive StatsEvent where
  | receive (fd : Int) (sender : SockAddr) (bytes : List UInt8)
  | note
  | proceed
  | elapse (seconds : Nat)

structure StatsThreads where
  runtime : Runtime
  packet : Option PendingPacket
  stage : StatsStage

namespace StatsThreads

def start (runtime : Runtime) : StatsThreads := ⟨runtime, none, .check⟩

/-- A packet is received once the one before it is processed. -/
def step (store : Store) (state : StatsThreads) :
    StatsEvent → Except Fault (StatsThreads × StatsOutput)
  | .receive fd sender bytes =>
      match state.packet with
      | some _ => .ok (state, .waited)
      | none =>
          match StatsWorker.countPacket store state.runtime fd
            (.datagram sender bytes) with
          | (runtime, none) => .ok ({ state with runtime := runtime }, .waited)
          | (runtime, some packet) =>
              .ok (⟨runtime, some packet, state.stage⟩,
                .counted packet.rlen.toNat)
  | .note =>
      match state.packet with
      | none => .ok (state, .waited)
      | some packet => do
          let (runtime, transmissions) ←
            StatsWorker.notePacket store state.runtime packet
          return (⟨runtime, none, state.stage⟩,
            .noted packet.listId packet.rlen.toNat transmissions)
  | .proceed => do
      let (runtime, stage, output) ←
        StatsWorker.proceed state.runtime state.stage
      return (⟨runtime, state.packet, stage⟩, output)
  | .elapse seconds =>
      .ok ({ state with runtime := state.runtime.elapse seconds }, .waited)

end StatsThreads

def statsMachine (store : Store) :
    Machine StatsThreads StatsEvent StatsOutput Fault where
  step := StatsThreads.step store

end StrManager
