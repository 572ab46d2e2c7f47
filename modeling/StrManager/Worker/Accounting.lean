import StrManager.Worker.Statistics

namespace StrManager

open Library Function

/-! What the statistics threads do to the counters of a worker and of its
lists, and the books kept of it. -/

/-- The worker counts the bytes of all packets, each list those of its own. -/
inductive Level where
  | worker
  | list (listId : Int)
  deriving DecidableEq, Repr

def Runtime.counters (runtime : Runtime) : Level → Int
  | .worker => runtime.worker.inputBytes
  | .list listId =>
      StatsStreamList.inputBytes (runtime.worker.streams.lists listId)

namespace StatsStreamList

@[simp] theorem inputBytes_readRate (diff : Int) (list : StreamList) :
    inputBytes (some (readRate diff list)) = inputBytes (some list) := by
  cases counted : list.counters <;> simp [inputBytes, readRate, counted]

@[simp] theorem inputBytes_resetInputBytes (list : StreamList) :
    inputBytes (some (resetInputBytes list)) = 0 := by
  unfold inputBytes resetInputBytes
  cases list.counters <;> rfl

theorem late_of_due {now diff : Int} {list : StreamList}
    (waited : due now list = some diff) : 10 < diff := by
  have late := (Option.filter_eq_some_iff.mp waited).2
  simpa using late

end StatsStreamList

namespace Runtime

theorem counters_congr {runtime next : Runtime}
    (inputBytes : next.worker.inputBytes = runtime.worker.inputBytes)
    (lists : next.worker.streams.lists = runtime.worker.streams.lists) :
    next.counters = runtime.counters := by
  funext level
  cases level with
  | worker => exact inputBytes
  | list listId => simp only [counters, lists]

theorem counters_update_list {runtime next : Runtime} {listId : Int}
    {list : Option StreamList}
    (inputBytes : next.worker.inputBytes = runtime.worker.inputBytes)
    (lists : next.worker.streams.lists =
      update runtime.worker.streams.lists listId list) :
    next.counters = update runtime.counters (.list listId)
      (StatsStreamList.inputBytes list) := by
  funext level
  cases level with
  | worker => exact inputBytes
  | list other =>
      rcases eq_or_ne other listId with rfl | different
      · simp only [counters, lists, update_self]
      · have otherLevel : Level.list other ≠ .list listId := by
          intro same
          exact different (Level.list.inj same)
        simp only [counters, lists, update_of_ne different,
          update_of_ne otherLevel]

theorem counters_withList (runtime : Runtime) (listId : Int)
    (list : StreamList) :
    (runtime.withStreams
        (runtime.worker.streams.modifyList listId list)).counters =
      update runtime.counters (.list listId)
        (StatsStreamList.inputBytes (some list)) :=
  counters_update_list rfl (StreamTables.lists_modifyList _ _ _)

theorem counters_withList_same {runtime : Runtime} {listId : Int}
    {list after : StreamList}
    (found : runtime.worker.streams.lists listId = some list)
    (same : StatsStreamList.inputBytes (some after) =
      StatsStreamList.inputBytes (some list)) :
    (runtime.withStreams
        (runtime.worker.streams.modifyList listId after)).counters =
      runtime.counters := by
  have current : runtime.counters (.list listId) =
      StatsStreamList.inputBytes (some after) := by
    rw [same, ← found]
    rfl
  rw [counters_withList, ← current, update_eq_self]

theorem counters_update_worker {runtime next : Runtime}
    (lists : next.worker.streams.lists = runtime.worker.streams.lists) :
    next.counters = update runtime.counters .worker next.worker.inputBytes := by
  funext level
  cases level with
  | worker => rw [update_self]; rfl
  | list listId =>
      rw [update_of_ne (by simp)]
      simp only [counters, lists]

end Runtime

namespace StatsWorker

variable (store : Store) {runtime : Runtime} {fd : Int} {received : Received}

theorem countPacket_passed
    (passed : counts runtime.worker fd received = false) :
    ∃ next, countPacket store runtime fd received = (next, none) ∧
      next.counters = runtime.counters := by
  unfold counts Worker.lookedUp Worker.routed at passed
  by_cases content : 0 < received.rlen.toNat
  · simp only [content, decide_true, Bool.true_and] at passed
    unfold countPacket
    rw [if_pos content]
    simp only [StreamTables.getStreamListBySocket_fst]
    cases found : runtime.worker.streams.lists (runtime.worker.streams.routes
      (runtime.worker.lookupAddr fd received)) with
    | none => exact ⟨_, rfl, Runtime.counters_congr rfl (by simp)⟩
    | some list =>
        cases counted : list.counters with
        | none =>
            simp only [counted]
            exact ⟨_, rfl, Runtime.counters_congr rfl (by simp)⟩
        | some counters => simp [found, counted] at passed
  · exact ⟨runtime, by simp [countPacket, content], rfl⟩

theorem countPacket_counted
    (counted : counts runtime.worker fd received = true) :
    ∃ next transmissions, countPacket store runtime fd received =
        (next, some ⟨runtime.worker.routed ⟨0, fd, received⟩, received.rlen,
          transmissions⟩) ∧
      next.worker.streams.lists = runtime.worker.streams.lists ∧
      next.worker.streams.routes = runtime.worker.streams.routes ∧
      next.worker.ports.fdPort.subscript 0 =
        runtime.worker.ports.fdPort.subscript 0 ∧
      next.worker.inputBytes =
        store.keep (runtime.counters .worker + received.rlen.toNat) := by
  unfold counts Worker.lookedUp Worker.routed at counted
  simp only [Bool.and_eq_true, decide_eq_true_eq] at counted
  obtain ⟨content, accepted⟩ := counted
  unfold countPacket
  rw [if_pos content]
  simp only [StreamTables.getStreamListBySocket_fst]
  cases found : runtime.worker.streams.lists (runtime.worker.streams.routes
    (runtime.worker.lookupAddr fd received)) with
  | none => simp [found] at accepted
  | some list =>
      cases counters : list.counters with
      | none => simp [found, counters] at accepted
      | some _ =>
          simp only [counters]
          exact ⟨_, _, rfl, by simp, by simp, by simp, rfl⟩

theorem notePacket_eq {runtime : Runtime} {packet : PendingPacket}
    {list : StreamList} {counters : RateCounters}
    (found : runtime.worker.streams.lists packet.listId = some list)
    (counted : list.counters = some counters) :
    ∃ noted, noted.counters.isSome = true ∧
      StatsStreamList.inputBytes (some noted) =
        store.keep (counters.inputBytes + packet.rlen.toNat) ∧
      notePacket store runtime packet = .ok (runtime.withStreams
        (runtime.worker.streams.modifyList packet.listId noted),
        packet.transmissions) := by
  refine ⟨{ list with
    counters := some { counters with
      inputBytes := store.keep
        (counters.inputBytes + store.keep packet.rlen.toNat) } }, rfl,
    store.absorbs _ _, ?_⟩
  rw [notePacket, found, derefList_some]
  simp only [bind, Except.bind, StatsStreamList.updateInputBytes, counted,
    Option.map_some, derefList_some]
  rfl

theorem notePacket_counters {store : Store} {runtime next : Runtime}
    {packet : PendingPacket} {transmissions : List Transmission}
    (noted : notePacket store runtime packet = .ok (next, transmissions)) :
    next.counters = update runtime.counters (.list packet.listId)
      (store.keep (runtime.counters (.list packet.listId) +
        packet.rlen.toNat)) := by
  cases found : runtime.worker.streams.lists packet.listId with
  | none => simp [notePacket, found, bind, Except.bind] at noted
  | some list =>
      cases counted : list.counters with
      | none =>
          simp [notePacket, found, counted, StatsStreamList.updateInputBytes,
            bind, Except.bind] at noted
      | some counters =>
          obtain ⟨after, -, bytes, result⟩ :=
            notePacket_eq store found counted
          rw [result] at noted
          cases noted
          rw [Runtime.counters_withList, bytes]
          simp only [Runtime.counters, StatsStreamList.inputBytes, found,
            counted, Option.bind_some, Option.elim_some]

end StatsWorker

/-! One step of the two threads. -/

namespace StatsThreads

def counters (state : StatsThreads) : Level → Int := state.runtime.counters

def Idle (state : StatsThreads) : StatsEvent → Prop
  | .receive fd sender bytes => state.packet = none →
      StatsWorker.counts state.runtime.worker fd (.datagram sender bytes) =
        false
  | .note => state.packet = none
  | .proceed => ∀ listId rest, state.stage ≠ .reset listId rest
  | .elapse _ => True

end StatsThreads

inductive StatsStep (store : Store) (state next : StatsThreads) :
    StatsEvent → StatsOutput → Prop
  | waited {event : StatsEvent} (idle : state.Idle event)
      (counters : next.counters = state.counters) :
      StatsStep store state next event .waited
  | counted {fd : Int} {sender : SockAddr} {bytes : List UInt8}
      (free : state.packet = none)
      (counted : StatsWorker.counts state.runtime.worker fd
        (.datagram sender bytes) = true)
      (counters : next.counters = update state.counters .worker
        (store.keep (state.counters .worker + (bytes.take 2048).length))) :
      StatsStep store state next (.receive fd sender bytes)
        (.counted (bytes.take 2048).length)
  | noted {packet : PendingPacket} {transmissions : List Transmission}
      (pending : state.packet = some packet)
      (counters : next.counters = update state.counters (.list packet.listId)
        (store.keep (state.counters (.list packet.listId) +
          packet.rlen.toNat))) :
      StatsStep store state next .note
        (.noted packet.listId packet.rlen.toNat transmissions)
  | totalled {wakes : Int} (asleep : state.stage = .sleep wakes)
      (counters : next.counters = update state.counters .worker 0) :
      StatsStep store state next .proceed
        (.totalled (state.counters .worker)
          ((state.counters .worker).tdiv 1250))
  | rated {listId diff : Int} {rest : List Int}
      (visiting : state.stage = .visit (listId :: rest)) (late : 10 < diff)
      (counters : next.counters = state.counters) :
      StatsStep store state next .proceed
        (.rated listId (state.counters (.list listId)) diff
          (((state.counters (.list listId)).tdiv 125).tdiv diff))
  | cleared {listId : Int} {rest : List Int}
      (resetting : state.stage = .reset listId rest)
      (counters : next.counters = update state.counters (.list listId) 0) :
      StatsStep store state next .proceed (.cleared listId)

namespace StatsStep

theorem of_proceed {store : Store} {state next : StatsThreads}
    {output : StatsOutput}
    (stepped : state.step store .proceed = .ok (next, output)) :
    StatsStep store state next .proceed output := by
  obtain ⟨runtime, packet, stage⟩ := state
  cases stage with
  | check =>
      simp only [StatsThreads.step, StatsWorker.proceed] at stepped
      split at stepped <;>
        (cases stepped; exact .waited (by simp [StatsThreads.Idle]) rfl)
  | sleep wakes =>
      simp only [StatsThreads.step, StatsWorker.proceed] at stepped
      split at stepped
      · cases stepped
        exact .totalled rfl (Runtime.counters_update_worker rfl)
      · cases stepped
        exact .waited (by simp [StatsThreads.Idle]) rfl
  | visit listIds =>
      cases listIds with
      | nil =>
          cases stepped
          exact .waited (by simp [StatsThreads.Idle]) rfl
      | cons listId rest =>
          simp only [StatsThreads.step, StatsWorker.proceed] at stepped
          cases found : runtime.worker.streams.lists listId with
          | none =>
              rw [found] at stepped
              cases stepped
              exact .waited (by simp [StatsThreads.Idle]) rfl
          | some list =>
              cases counted : list.counters with
              | none =>
                  simp only [found, counted] at stepped
                  cases stepped
              | some counters =>
                  have bytes : counters.inputBytes =
                      runtime.counters (.list listId) := by
                    simp [Runtime.counters, StatsStreamList.inputBytes, found,
                      counted]
                  cases waited : StatsStreamList.due runtime.kernel.clock list with
                  | none =>
                      simp only [found, counted, waited] at stepped
                      cases stepped
                      exact .waited (by simp [StatsThreads.Idle]) rfl
                  | some diff =>
                      simp only [found, counted, waited, bytes] at stepped
                      cases stepped
                      exact .rated rfl (StatsStreamList.late_of_due waited)
                        (Runtime.counters_withList_same found (by simp))
  | reset listId rest =>
      simp only [StatsThreads.step, StatsWorker.proceed] at stepped
      cases found : runtime.worker.streams.lists listId with
      | none =>
          rw [found] at stepped
          cases stepped
      | some list =>
          rw [found] at stepped
          cases stepped
          refine .cleared rfl ?_
          refine (Runtime.counters_withList _ _ _).trans ?_
          rw [StatsStreamList.inputBytes_resetInputBytes]
          rfl
  | stamp listId rest =>
      simp only [StatsThreads.step, StatsWorker.proceed] at stepped
      cases found : runtime.worker.streams.lists listId with
      | none =>
          rw [found] at stepped
          cases stepped
      | some list =>
          rw [found] at stepped
          cases stepped
          exact .waited (by simp [StatsThreads.Idle])
            (Runtime.counters_withList_same found rfl)

theorem of_step {store : Store} {state next : StatsThreads}
    {event : StatsEvent} {output : StatsOutput}
    (stepped : state.step store event = .ok (next, output)) :
    StatsStep store state next event output := by
  cases event with
  | receive fd sender bytes =>
      simp only [StatsThreads.step] at stepped
      cases free : state.packet with
      | some packet =>
          rw [free] at stepped
          cases stepped
          exact .waited (by simp [StatsThreads.Idle, free]) rfl
      | none =>
          rw [free] at stepped
          cases counted : StatsWorker.counts state.runtime.worker fd
            (.datagram sender bytes) with
          | false =>
              obtain ⟨runtime, passed, same⟩ :=
                StatsWorker.countPacket_passed store counted
              simp only [passed] at stepped
              cases stepped
              exact .waited (fun _ => counted) same
          | true =>
              obtain ⟨runtime, transmissions, adds, lists, -, -, inputBytes⟩ :=
                StatsWorker.countPacket_counted store counted
              simp only [adds, Received.rlen_datagram] at stepped
              rw [Received.rlen_datagram] at inputBytes
              cases stepped
              refine .counted free counted ?_
              refine (Runtime.counters_update_worker lists).trans ?_
              rw [inputBytes]
              rfl
  | note =>
      simp only [StatsThreads.step] at stepped
      cases pending : state.packet with
      | none =>
          rw [pending] at stepped
          cases stepped
          exact .waited pending rfl
      | some packet =>
          rw [pending] at stepped
          obtain ⟨⟨runtime, transmissions⟩, noted, ended⟩ := bind_eq_ok stepped
          cases ended
          exact .noted pending (StatsWorker.notePacket_counters noted)
  | proceed => exact of_proceed stepped
  | elapse seconds =>
      cases stepped
      exact .waited trivial rfl

end StatsStep

/-! A worker that has received nothing yet. -/

def WorkerEvent.NoPacket : WorkerEvent → Prop
  | .packet _ _ => False
  | _ => True

instance (event : WorkerEvent) : Decidable event.NoPacket :=
  match event with
  | .packet _ _ => isFalse id
  | .addSource _ _ _ | .removeSource _ | .addDestination _ _ _ _
  | .removeDestination _ _ | .elapse _ => isTrue trivial

namespace Runtime

theorem addSource_inputBytes {runtime : Runtime}
    (plain : runtime.worker.kind ≠ .rtcp) (os : Os) (srcId : Int)
    (ip : InAddr) (port : Int) :
    (runtime.addSource os srcId ip port).2.worker.inputBytes =
      runtime.worker.inputBytes := by
  rw [addSource_of_plain plain]
  simp only [Worker.addSourceWith]
  split
  · rfl
  · split <;> rfl

theorem removeSource_inputBytes {runtime next : Runtime} {srcId : Int}
    {messages : List Message} (plain : runtime.worker.kind ≠ .rtcp)
    (called : runtime.removeSource srcId = .ok (next, messages)) :
    next.worker.inputBytes = runtime.worker.inputBytes := by
  rw [removeSource_of_plain plain, Worker.removeSource_eq] at called
  cases found : runtime.worker.streams.lists srcId with
  | none => simp [found, bind, Except.bind] at called
  | some list =>
      simp only [found, derefList_some, bind, Except.bind] at called
      split at called
      · cases called
      · split at called <;> (cases called; rfl)

theorem addDestination_inputBytes {runtime next : Runtime}
    {srcId destId : Int} {ip : InAddr} {port : Int}
    (plain : runtime.worker.kind ≠ .rtcp)
    (called : runtime.addDestination srcId destId ip port = .ok next) :
    next.worker.inputBytes = runtime.worker.inputBytes := by
  rw [addDestination_of_plain plain] at called
  obtain ⟨list, -, rfl | rfl⟩ := Worker.addDestination_ok called
  · rfl
  · rfl

theorem removeDestination_inputBytes {runtime next : Runtime}
    {srcId destId : Int} (plain : runtime.worker.kind ≠ .rtcp)
    (called : runtime.removeDestination srcId destId = .ok next) :
    next.worker.inputBytes = runtime.worker.inputBytes := by
  rw [removeDestination_of_plain plain] at called
  obtain ⟨list, -, rfl | rfl⟩ := Worker.removeDestination_ok called
  · rfl
  · rfl

theorem step_inputBytes {os : Os} {runtime next : Runtime}
    {event : WorkerEvent} {output : WorkerOutput}
    (plain : runtime.worker.kind ≠ .rtcp) (unfed : event.NoPacket)
    (stepped : runtime.step os event = .ok (next, output)) :
    next.worker.inputBytes = runtime.worker.inputBytes := by
  cases event with
  | addSource srcId ip port =>
      cases stepped
      exact addSource_inputBytes plain os srcId ip port
  | removeSource srcId =>
      obtain ⟨messages, -, called⟩ := step_removeSource stepped
      exact removeSource_inputBytes plain called
  | addDestination srcId destId ip port =>
      exact addDestination_inputBytes plain (step_addDestination stepped).2
  | removeDestination srcId destId =>
      exact removeDestination_inputBytes plain
        (step_removeDestination stepped).2
  | packet fd received => exact unfed.elim
  | elapse seconds =>
      cases stepped
      rfl

theorem step_listBytes {os : Os} {runtime next : Runtime}
    {event : WorkerEvent} {output : WorkerOutput}
    (plain : runtime.worker.kind ≠ .rtcp) (unfed : event.NoPacket)
    (stepped : runtime.step os event = .ok (next, output)) (listId : Int)
    (empty : StatsStreamList.inputBytes
      (runtime.worker.streams.lists listId) = 0) :
    StatsStreamList.inputBytes (next.worker.streams.lists listId) = 0 := by
  have updated {srcId : Int} {value : Option StreamList}
      (lists : next.worker.streams.lists =
        update runtime.worker.streams.lists srcId value)
      (zero : srcId = listId → StatsStreamList.inputBytes value = 0) :
      StatsStreamList.inputBytes (next.worker.streams.lists listId) = 0 := by
    rw [lists]
    rcases eq_or_ne listId srcId with rfl | different
    · rw [update_self]
      exact zero rfl
    · rw [update_of_ne different]
      exact empty
  have changed {srcId : Int} {list after : StreamList}
      (step : Worker.DestinationStep runtime next srcId list after) :
      StatsStreamList.inputBytes (next.worker.streams.lists listId) = 0 := by
    refine updated step.lists ?_
    rintro rfl
    rw [step.found] at empty
    simpa only [StatsStreamList.inputBytes, Option.bind_some, step.counters]
      using empty
  cases PlainStep.of_step plain stepped with
  | rejected routed sockets lists routes =>
      rw [lists]
      exact empty
  | refused free failed sockets lists routes =>
      rw [lists]
      exact empty
  | added list free opened sockets created lists routes =>
      refine updated lists fun _ => ?_
      rw [created]
      cases runtime.worker.kind <;> rfl
  | removed list found sockets lists routes => exact updated lists fun _ => rfl
  | addedDestination list step => exact changed step
  | removedDestination list after step filtered => exact changed step
  | packet noted => exact unfed.elim
  | elapsed elapse =>
      rw [elapse]
      exact empty

end Runtime

theorem workerMachine_run_counters {os : Os} {workerId : Int}
    {kernel : Kernel} {runtime : Runtime}
    (run : (workerMachine os).Run Observer.none
      (fun _ _ event => event.NoPacket)
      (Runtime.start .stats workerId kernel) runtime ()) (level : Level) :
    runtime.counters level = 0 := by
  refine run.invariant_of (motive := fun runtime _ =>
    ∀ level, runtime.counters level = 0) workerMachine_run_kind ?_ ?_ level
  · intro level
    cases level with
    | worker => rfl
    | list listId =>
        simp [Runtime.counters, Runtime.start, Worker.create,
          StatsStreamList.inputBytes]
  · intro runtime next record event output stats empty unfed stepped level
    have plain : runtime.worker.kind ≠ .rtcp := by simp [stats]
    cases level with
    | worker =>
        exact (Runtime.step_inputBytes plain unfed stepped).trans (empty .worker)
    | list listId =>
        exact Runtime.step_listBytes plain unfed stepped listId
          (empty (.list listId))

/-! The books. -/

/-- A rate that was printed, with the bytes received since the reset before
it, and what they are divided by. -/
structure RateReport where
  bytes : Int
  divisor : Int
  rate : Int
  deriving DecidableEq, Repr

structure StatsLedger where
  accounts : Level → Account Int
  reports : List RateReport

namespace StatsLedger

def opened : StatsLedger := ⟨fun _ => .opened, []⟩

def book (ledger : StatsLedger) (level : Level)
    (entry : Account Int → Account Int) : StatsLedger :=
  { ledger with
    accounts := update ledger.accounts level (entry (ledger.accounts level)) }

def report (ledger : StatsLedger) (level : Level) (divisor rate : Int) :
    StatsLedger :=
  { ledger with
    reports :=
      ledger.reports ++ [⟨(ledger.accounts level).since, divisor, rate⟩] }

def record (ledger : StatsLedger) : StatsOutput → StatsLedger
  | .waited => ledger
  | .counted rlen => ledger.book .worker (·.add rlen)
  | .noted listId rlen _ => ledger.book (.list listId) (·.add rlen)
  | .totalled inputInfo inputRate =>
      (ledger.report .worker 1250 inputRate).book .worker (·.collect inputInfo)
  | .rated listId inputBytes diff actualRate =>
      (ledger.report (.list listId) (125 * diff) actualRate).book
        (.list listId) (·.read inputBytes)
  | .cleared listId => ledger.book (.list listId) Account.reset

/-- At both levels every byte received is used once or still counted. -/
def Balanced (ledger : StatsLedger) (counters : Level → Int) : Prop :=
  ∀ level, (ledger.accounts level).Balanced (counters level)

end StatsLedger

def statsLedger : Observer StatsEvent StatsOutput StatsLedger where
  initial := .opened
  update := fun ledger _ output => ledger.record output

def StatsThreads.FindsRead (state : StatsThreads) (ledger : StatsLedger) :
    StatsEvent → Prop
  | .proceed =>
      match state.stage with
      | .reset listId _ => state.counters (.list listId) =
          (ledger.accounts (.list listId)).pending
      | _ => True
  | _ => True

instance (state : StatsThreads) (ledger : StatsLedger) (event : StatsEvent) :
    Decidable (state.FindsRead ledger event) :=
  match state, event with
  | ⟨_, _, .reset _ _⟩, .proceed => inferInstanceAs (Decidable (_ = _))
  | ⟨_, _, .check⟩, .proceed | ⟨_, _, .sleep _⟩, .proceed
  | ⟨_, _, .visit _⟩, .proceed | ⟨_, _, .stamp _ _⟩, .proceed
  | _, .receive _ _ _ | _, .note | _, .elapse _ => isTrue trivial

theorem StatsThreads.Idle.findsRead {state : StatsThreads}
    {event : StatsEvent} (idle : state.Idle event) (ledger : StatsLedger) :
    state.FindsRead ledger event := by
  cases event with
  | proceed =>
      simp only [StatsThreads.FindsRead]
      split
      · rename_i listId rest resetting
        exact absurd resetting (idle listId rest)
      · trivial
  | receive fd sender bytes => trivial
  | note => trivial
  | elapse seconds => trivial

theorem StatsStep.balanced_iff {state next : StatsThreads}
    {event : StatsEvent} {output : StatsOutput} {ledger : StatsLedger}
    (step : StatsStep .exact state next event output)
    (balanced : ledger.Balanced state.counters) :
    (ledger.record output).Balanced next.counters ↔
      state.FindsRead ledger event := by
  cases step with
  | waited idle counters =>
      rw [counters]
      exact iff_of_true balanced (idle.findsRead ledger)
  | counted free counted counters =>
      refine iff_of_true ?_ trivial
      rw [counters]
      exact (forall_update_iff balanced .worker _ _).mpr
        ((balanced .worker).add _)
  | noted pending counters =>
      refine iff_of_true ?_ trivial
      rw [counters]
      exact (forall_update_iff balanced _ _ _).mpr ((balanced _).add _)
  | totalled asleep counters =>
      refine iff_of_true ?_ (by simp [StatsThreads.FindsRead, asleep])
      rw [counters]
      exact (forall_update_iff balanced .worker _ _).mpr
        (balanced .worker).collect
  | @rated listId diff rest visiting late counters =>
      refine iff_of_true ?_ (by simp [StatsThreads.FindsRead, visiting])
      rw [counters, ← update_eq_self (.list listId) state.counters]
      exact (forall_update_iff balanced (.list listId) _ _).mpr
        ((balanced (.list listId)).read _)
  | @cleared listId rest resetting counters =>
      have condition : state.FindsRead ledger .proceed ↔
          state.counters (.list listId) =
            (ledger.accounts (.list listId)).pending := by
        simp [StatsThreads.FindsRead, resetting]
      rw [counters, condition]
      refine (forall_update_iff balanced (.list listId) _ _).trans ?_
      exact (balanced (.list listId)).reset_iff

theorem statistics_worker_balanced {os : Os} {workerId : Int}
    {kernel : Kernel} {registered : Runtime}
    (registration : (workerMachine os).Run Observer.none
      (fun _ _ event => event.NoPacket)
      (Runtime.start .stats workerId kernel) registered ())
    {state : StatsThreads} {ledger : StatsLedger}
    (run : (statsMachine .exact).Run statsLedger (fun _ _ _ => True)
      (.start registered) state ledger) :
    (ledger.accounts .worker).Balanced (state.counters .worker) := by
  refine run.invariant (motive := fun state ledger =>
    (ledger.accounts .worker).Balanced (state.counters .worker)) ?_ ?_
  · have zero : (StatsThreads.start registered).counters .worker = 0 :=
      workerMachine_run_counters registration .worker
    rw [zero]
    exact Account.opened_balanced
  · intro state next ledger event output balanced _ stepped
    cases StatsStep.of_step stepped with
    | waited idle counters =>
        rw [counters]
        exact balanced
    | @counted fd sender bytes free counted counters =>
        rw [counters, update_self]
        have added := balanced.add ((bytes.take 2048).length : Int)
        simpa only [statsLedger, StatsLedger.record, StatsLedger.book,
          update_self, Store.exact_keep] using added
    | noted pending counters =>
        rw [counters]
        simpa [statsLedger, StatsLedger.record, StatsLedger.book] using balanced
    | totalled asleep counters =>
        rw [counters, update_self]
        simpa [statsLedger, StatsLedger.record, StatsLedger.book,
          StatsLedger.report] using balanced.collect
    | rated visiting late counters =>
        rw [counters]
        simpa [statsLedger, StatsLedger.record, StatsLedger.book,
          StatsLedger.report] using balanced
    | cleared resetting counters =>
        rw [counters]
        simpa [statsLedger, StatsLedger.record, StatsLedger.book] using balanced

/-- The books of the worker and of all lists balance as long as no packet
comes between the two halves of `calculateRate`, and not one step longer. -/
theorem statistics_balanced_iff {os : Os} {workerId : Int} {kernel : Kernel}
    {registered : Runtime}
    (registration : (workerMachine os).Run Observer.none
      (fun _ _ event => event.NoPacket)
      (Runtime.start .stats workerId kernel) registered ())
    {state : StatsThreads} {ledger : StatsLedger}
    (run : (statsMachine .exact).Run statsLedger
      (fun state ledger event => state.FindsRead ledger event)
      (.start registered) state ledger) :
    ledger.Balanced state.counters ∧
      ∀ event next output, state.step .exact event = .ok (next, output) →
        ((statsLedger.update ledger event output).Balanced next.counters ↔
          state.FindsRead ledger event) := by
  have balanced : ledger.Balanced state.counters := by
    refine run.invariant (motive := fun state ledger =>
      ledger.Balanced state.counters) ?_ ?_
    · intro level
      have zero : (StatsThreads.start registered).counters level = 0 :=
        workerMachine_run_counters registration level
      rw [zero]
      exact Account.opened_balanced
    · intro state next ledger event output balanced finds stepped
      exact ((StatsStep.of_step stepped).balanced_iff balanced).mpr finds
  refine ⟨balanced, ?_⟩
  intro event next output stepped
  exact (StatsStep.of_step stepped).balanced_iff balanced

def Runtime.oneSource : Runtime :=
  (((workerMachine .orderly).replay Observer.none
    (fun _ _ event => event.NoPacket)
    [WorkerEvent.addSource 1 1 5000, .addDestination 1 5 9 6000]
    (Runtime.start .stats 0 .fresh) ()).get (by decide)).1

theorem Runtime.oneSource_registered :
    (workerMachine .orderly).Run Observer.none
      (fun _ _ event => event.NoPacket) (Runtime.start .stats 0 .fresh)
      oneSource () :=
  .of_replay [WorkerEvent.addSource 1 1 5000, .addDestination 1 5 9 6000]
    (by decide)

theorem statistics_balanced_tick :
    ∃ state ledger,
      (statsMachine .exact).Run statsLedger
        (fun state ledger event => state.FindsRead ledger event)
        (.start .oneSource) state ledger ∧
      ledger.reports.length = 2 ∧ ledger.Balanced state.counters := by
  have run : (statsMachine .exact).Run statsLedger
      (fun state ledger event => state.FindsRead ledger event)
      (.start .oneSource) _ _ :=
    .of_replay [.receive 3 ⟨1, 9⟩ [7, 8], .note, .proceed, .elapse 20,
      .proceed, .proceed, .proceed, .receive 3 ⟨1, 9⟩ [9], .note] (by decide)
  exact ⟨_, _, run, by decide,
    (statistics_balanced_iff Runtime.oneSource_registered run).1⟩

/-- A packet that arrives after `calculateRate` has read the counter and
before it resets it is in no rate and no longer counted. -/
theorem statistics_balanced_lost :
    ∃ state ledger,
      (statsMachine .exact).Run statsLedger (fun _ _ _ => True)
        (.start .oneSource) state ledger ∧
      (ledger.accounts (.list 1)).received = 1 ∧
      (ledger.accounts (.list 1)).used = 0 ∧ state.counters (.list 1) = 0 ∧
      ¬ ledger.Balanced state.counters := by
  have run : (statsMachine .exact).Run statsLedger (fun _ _ _ => True)
      (.start .oneSource) _ _ :=
    .of_replay [.proceed, .elapse 20, .proceed, .proceed,
      .receive 3 ⟨1, 9⟩ [7], .note, .proceed] (by decide)
  refine ⟨_, _, run, by decide, by decide, by decide, ?_⟩
  intro balanced
  exact absurd (balanced (.list 1)) (by decide)

end StrManager
