import StrManager.Manager.Changes
import StrManager.Worker.TimeStamps

namespace StrManager

open Library Function

/-! The manager together with the rate computations of its statistics
workers, and the times that `readTimeStamp` answers. -/

inductive TimedEvent where
  | event (event : ManagerEvent)
  | update (worker : Nat) (listId : Int)

inductive TimedOutput where
  | ran (output : ManagerOutput)
  | heard (worker : Nat) (addr : SockAddr) (clock : Int)
  | updated

/-- A source, with the time of the last packet since it was added. -/
structure HeardSource where
  worker : Nat
  addr : SockAddr
  last : Option Int
  deriving DecidableEq, Repr

def HeardSource.hear (place : Option (Nat × SockAddr)) (clock : Int)
    (source : HeardSource) : HeardSource :=
  if place = some (source.worker, source.addr) then
    { source with last := some clock }
  else source

def heardSources : Observer TimedEvent TimedOutput (Table Int HeardSource) where
  initial := ∅
  update sources event output :=
    match event, output with
    | .event (.addSource _ srcId ip port), .ran (.returned 0 (some worker)) =>
        sources.insert srcId ⟨worker, SockAddr.ofPort ip port, none⟩
    | .event (.removeSource srcId), .ran (.returned 0 (some _)) =>
        sources.erase srcId
    | _, .heard worker addr clock =>
        sources.mapValues (HeardSource.hear (some (worker, addr)) clock)
    | _, _ => sources

namespace Manager

def stamp (manager : Manager) (worker : Nat) (listId : Int) : Option Int :=
  (manager.workers worker).stamp listId

def heard (manager : Manager) : TimedEvent → Option (Nat × SockAddr)
  | .event (.packet worker fd (.datagram sender bytes)) =>
      some (worker, (manager.workers worker).lookupAddr fd
        (.datagram sender bytes))
  | _ => none

/-- The list whose time stamp an event writes. -/
def stamped (manager : Manager) : TimedEvent → Option (Nat × Int)
  | .event (.packet worker fd received) =>
      ((manager.runtime worker).stamped fd received).map fun listId =>
        (worker, listId)
  | .update worker listId =>
      if (manager.workers worker).kind = .stats ∧
          (manager.runtime worker).ticks listId = true then
        some (worker, listId)
      else none
  | _ => none

/-- The list after that of an RTCP source, which is replaced or removed with
the source. -/
def displaced (os : Os) (manager : Manager) :
    TimedEvent → Option (Nat × Int)
  | .event (.addSource workerType srcId ip port) =>
      match manager.getWorkerByPortType port workerType with
      | none => none
      | some worker =>
          if (manager.workers worker).kind = .rtcp ∧
              (manager.runtime worker).CanAdd os ip port then
            some (worker, srcId + 1)
          else none
  | .event (.removeSource srcId) =>
      match manager.srcIdWorker.lookup srcId with
      | none => none
      | some worker =>
          if (manager.workers worker).kind = .rtcp then
            some (worker, srcId + 1)
          else none
  | _ => none

def observe (manager : Manager) (event : ManagerEvent)
    (output : ManagerOutput) : TimedOutput :=
  match manager.heard (.event event) with
  | some (worker, addr) => .heard worker addr manager.kernel.clock
  | none => .ran output

/-- Only a `StatsWorker` has a thread that calls `update`. -/
def timedStep (os : Os) (maxWorkers : Int) (manager : Manager) :
    TimedEvent → Except Fault (Manager × TimedOutput)
  | .event event => do
      let (next, output) ← manager.step os maxWorkers event
      return (next, manager.observe event output)
  | .update worker listId =>
      if (manager.workers worker).kind = .stats then do
        let runtime ← StatsWorker.updateList (manager.runtime worker) listId
        return (manager.put worker runtime, .updated)
      else .ok (manager, .updated)

/-- `readTimeStamp` answers the time of the last packet of every source that
has sent one since it was added. -/
def ReportsLast (manager : Manager) (sources : Table Int HeardSource) : Prop :=
  ∀ srcId source, sources.lookup srcId = some source →
    ∀ time ∈ source.last, ∃ next worker,
      manager.readTimeStamp srcId = .ok (next, .time (some time) worker)

/-- A packet of the source stamps its list, or finds it stamped in the same
second. Otherwise nothing stamps or displaces the list of a source that was
heard, unless it was heard in the same second. -/
def KeepsSource (os : Os) (manager : Manager) (event : TimedEvent)
    (srcId : Int) (source : HeardSource) : Prop :=
  if manager.heard event = some (source.worker, source.addr) then
    manager.stamped event = some (source.worker, srcId) ∨
      manager.stamp source.worker srcId = some manager.kernel.clock
  else
    ∀ time ∈ source.last,
      manager.displaced os event ≠ some (source.worker, srcId) ∧
        (manager.stamped event = some (source.worker, srcId) →
          time = manager.kernel.clock)

def KeepsLast (os : Os) (manager : Manager)
    (sources : Table Int HeardSource) (event : TimedEvent) : Prop :=
  ∀ srcId source, sources.lookup srcId = some source →
    manager.KeepsSource os event srcId source

instance (os : Os) (manager : Manager) (event : TimedEvent) (srcId : Int)
    (source : HeardSource) :
    Decidable (manager.KeepsSource os event srcId source) :=
  inferInstanceAs (Decidable (@ite _ _ _ _ _))

instance (os : Os) (manager : Manager) (sources : Table Int HeardSource)
    (event : TimedEvent) : Decidable (manager.KeepsLast os sources event) :=
  inferInstanceAs (Decidable (∀ _ _, _ → _))

end Manager

def timedMachine (os : Os) (maxWorkers : Int) :
    Machine Manager TimedEvent TimedOutput Fault where
  step := Manager.timedStep os maxWorkers

/-! What one event does to one source. -/

@[simp] theorem HeardSource.hear_none (clock : Int) :
    HeardSource.hear none clock = id := by
  funext source
  simp [hear]

@[simp] theorem HeardSource.hear_worker (place : Option (Nat × SockAddr))
    (clock : Int) (source : HeardSource) :
    (source.hear place clock).worker = source.worker := by
  unfold hear
  split <;> rfl

namespace Manager

variable {os : Os} {manager : Manager}

def Tracks (manager : Manager) (sources : Table Int HeardSource) : Prop :=
  ∀ srcId, (sources.lookup srcId).map HeardSource.worker =
    manager.srcIdWorker.lookup srcId

theorem Tracks.mapped {sources : Table Int HeardSource}
    (tracks : manager.Tracks sources) {srcId : Int} {source : HeardSource}
    (known : sources.lookup srcId = some source) :
    manager.srcIdWorker.lookup srcId = some source.worker := by
  rw [← tracks srcId, known]
  rfl

theorem Tracks.reportsLast_iff {sources : Table Int HeardSource}
    (tracks : manager.Tracks sources) :
    manager.ReportsLast sources ↔
      ∀ srcId source, sources.lookup srcId = some source →
        ∀ time ∈ source.last, manager.stamp source.worker srcId = some time := by
  refine forall_congr' fun srcId => forall_congr' fun source =>
    forall_congr' fun known => forall_congr' fun time => imp_congr_right ?_
  intro _
  have mapped := tracks.mapped known
  unfold readTimeStamp stamp Worker.stamp
  simp only [mapped]
  rcases Worker.readTimeStamp_cases (manager.runtime source.worker) srcId with
    ⟨missing, faulted⟩ | ⟨list, next, found, result, -⟩
  · change (manager.workers source.worker).streams.lists srcId = none at missing
    rw [faulted, missing]
    simp [bind, Except.bind]
  · change (manager.workers source.worker).streams.lists srcId = some list
      at found
    rw [result, found]
    simp [bind, Except.bind, pure, Except.pure]

def stampAfter (os : Os) (manager : Manager) (event : TimedEvent)
    (worker : Nat) (listId : Int) : Option Int :=
  if manager.stamped event = some (worker, listId) then
    some manager.kernel.clock
  else if manager.displaced os event = some (worker, listId) then none
  else manager.stamp worker listId

theorem displaced_of_stamped {event : TimedEvent} {place : Nat × Int}
    (stamped : manager.stamped event = some place) :
    manager.displaced os event = none := by
  cases event with
  | update worker listId => rfl
  | event event =>
      cases event with
      | addSource workerType srcId ip port => cases stamped
      | removeSource srcId => cases stamped
      | _ => rfl

theorem displaced_of_heard {event : TimedEvent} {place : Nat × SockAddr}
    (heard : manager.heard event = some place) :
    manager.displaced os event = none := by
  cases event with
  | update worker listId => rfl
  | event event =>
      cases event with
      | addSource workerType srcId ip port => cases heard
      | removeSource srcId => cases heard
      | _ => rfl

theorem stampAfter_iff {event : TimedEvent} {srcId : Int}
    {source : HeardSource}
    (before : ∀ time ∈ source.last,
      manager.stamp source.worker srcId = some time) :
    (∀ time ∈ (source.hear (manager.heard event) manager.kernel.clock).last,
      manager.stampAfter os event source.worker srcId = some time) ↔
      manager.KeepsSource os event srcId source := by
  unfold HeardSource.hear KeepsSource
  split
  · rename_i heard
    have undisplaced : manager.displaced os event = none :=
      displaced_of_heard heard
    simp only [Option.mem_def, Option.some.injEq, forall_eq', stampAfter,
      undisplaced]
    split <;> simp [*]
  · refine forall_congr' fun time => imp_congr_right ?_
    intro last
    have stamp := before time last
    unfold stampAfter
    split
    · rename_i stamped
      simp [stamped, displaced_of_stamped stamped, eq_comm]
    · rename_i unstamped
      split
      · rename_i displaced
        simp [displaced]
      · rename_i undisplaced
        simp [unstamped, undisplaced, stamp]

theorem keepsSource_of_quiet {event : TimedEvent} {srcId : Int}
    {source : HeardSource} (unheard : manager.heard event = none)
    (unstamped : manager.stamped event = none)
    (undisplaced :
      manager.displaced os event ≠ some (source.worker, srcId)) :
    manager.KeepsSource os event srcId source := by
  simp [KeepsSource, unheard, unstamped, undisplaced]

theorem Filed.getWorkerByPortType_of_chosen (filed : manager.Filed)
    {workerType : Int} {worker : Nat} {middle : Manager}
    (chosen : manager.Chosen workerType worker middle) (port : Int) :
    (middle = manager ∧
        manager.getWorkerByPortType port workerType = some worker) ∨
      (worker = manager.allocated ∧
        manager.getWorkerByPortType port workerType = none) := by
  cases search : manager.getWorkerByPortType port workerType with
  | none =>
      cases chosen with
      | found key entry sameType =>
          exact absurd sameType (getWorkerByPortType_none search entry)
      | created kind absent supported => exact .inr ⟨rfl, rfl⟩
  | some other =>
      obtain ⟨key, entry, sameType⟩ := getWorkerByPortType_found search
      cases chosen with
      | found key2 entry2 sameType2 =>
          have same := filed.single key key2 other worker entry entry2
            (sameType.trans sameType2.symm)
          exact .inl ⟨rfl, congrArg some same⟩
      | created kind absent supported =>
          exact absurd sameType (absent key other entry)

end Manager

/-- What an event does to the source with an identifier: it is new or gone,
or it stays and its list gets its next stamp. -/
inductive SourceStep (os : Os) (manager next : Manager)
    (sources after : Table Int HeardSource) (event : TimedEvent)
    (srcId : Int) : Prop
  | renewed
      (tracked : (after.lookup srcId).map HeardSource.worker =
        next.srcIdWorker.lookup srcId)
      (silent : ∀ source, after.lookup srcId = some source →
        source.last = none)
      (free : ∀ source, sources.lookup srcId = some source →
        manager.KeepsSource os event srcId source) :
      SourceStep os manager next sources after event srcId
  | kept
      (mapped : next.srcIdWorker.lookup srcId =
        manager.srcIdWorker.lookup srcId)
      (lookup : after.lookup srcId = (sources.lookup srcId).map
        (HeardSource.hear (manager.heard event) manager.kernel.clock))
      (stamp : ∀ source, sources.lookup srcId = some source →
        next.stamp source.worker srcId =
          manager.stampAfter os event source.worker srcId) :
      SourceStep os manager next sources after event srcId

namespace SourceStep

variable {os : Os} {maxWorkers : Int} {manager next : Manager}
  {sources after : Table Int HeardSource} {event : TimedEvent} {srcId : Int}

theorem right_iff
    (step : SourceStep os manager next sources after event srcId)
    (before : ∀ source, sources.lookup srcId = some source →
      ∀ time ∈ source.last, manager.stamp source.worker srcId = some time) :
    (∀ source, after.lookup srcId = some source →
      ∀ time ∈ source.last, next.stamp source.worker srcId = some time) ↔
      ∀ source, sources.lookup srcId = some source →
        manager.KeepsSource os event srcId source := by
  cases step with
  | renewed tracked silent free =>
      refine iff_of_true ?_ free
      intro source known time last
      rw [silent source known] at last
      cases last
  | kept mapped lookup stamp =>
      rw [lookup]
      cases known : sources.lookup srcId with
      | none => simp
      | some source =>
          rw [known] at before stamp
          simp only [Option.map_some, Option.some.injEq, forall_eq',
            HeardSource.hear_worker]
          rw [stamp source rfl]
          exact Manager.stampAfter_iff (before source rfl)

theorem tracks
    (step : SourceStep os manager next sources after event srcId)
    (tracks : manager.Tracks sources) :
    (after.lookup srcId).map HeardSource.worker =
      next.srcIdWorker.lookup srcId := by
  cases step with
  | renewed tracked silent free => exact tracked
  | kept mapped lookup stamp =>
      rw [lookup, mapped, ← tracks srcId]
      cases sources.lookup srcId <;> simp

theorem of_quiet (unheard : manager.heard event = none)
    (unstamped : manager.stamped event = none)
    (undisplaced : manager.displaced os event = none)
    (mapped : next.srcIdWorker = manager.srcIdWorker)
    (same : ∀ source, sources.lookup srcId = some source →
      next.stamp source.worker = manager.stamp source.worker) :
    SourceStep os manager next sources sources event srcId := by
  refine .kept ?_ ?_ ?_
  · rw [mapped]
  · rw [unheard, HeardSource.hear_none, Option.map_id]
    rfl
  · intro source known
    simp [Manager.stampAfter, unstamped, undisplaced, same source known]

end SourceStep

namespace AcceptedStep

variable {os : Os} {maxWorkers : Int} {manager next middle : Manager}
  {workerType srcId : Int} {ip : InAddr} {port : Int} {worker : Nat}
  {runtime : Runtime}

theorem displaced_iff (accepted : AcceptedStep os maxWorkers manager next
    workerType srcId ip port worker middle runtime) (filed : manager.Filed)
    {other : Nat} (below : other < manager.allocated) (listId : Int) :
    manager.displaced os (.event (.addSource workerType srcId ip port)) =
        some (other, listId) ↔
      other = worker ∧ (middle.workers worker).kind = .rtcp ∧
        listId = srcId + 1 := by
  have canAdd := (Runtime.canAdd_iff accepted.called).mp rfl
  rcases filed.getWorkerByPortType_of_chosen accepted.chosen port with
    ⟨rfl, search⟩ | ⟨created, search⟩
  · simp only [Manager.displaced, search, canAdd, and_true]
    split
    · simp [*, eq_comm]
    · simp [*]
  · have different : other ≠ worker := by
      rw [created]
      exact below.ne
    simp [Manager.displaced, search, different]

theorem stamp (accepted : AcceptedStep os maxWorkers manager next workerType
    srcId ip port worker middle runtime) {other : Nat}
    (below : other < manager.allocated) {listId : Int}
    (different : listId ≠ srcId) :
    next.stamp other listId =
      if other = worker ∧ (middle.workers worker).kind = .rtcp ∧
          listId = srcId + 1 then none
      else manager.stamp other listId := by
  unfold Manager.stamp
  rcases eq_or_ne other worker with rfl | elsewhere
  · have called := accepted.called
    rw [accepted.middle_eq below] at called ⊢
    rw [accepted.worker_eq, Runtime.step_added_stamp called different]
    by_cases after :
        (manager.workers other).kind = .rtcp ∧ listId = srcId + 1
    · exact (if_pos after).trans (if_pos ⟨rfl, after⟩).symm
    · exact (if_neg after).trans (if_neg fun both => after both.2).symm
  · simp [accepted.other_eq elsewhere, elsewhere]

theorem source (accepted : AcceptedStep os maxWorkers manager next workerType
    srcId ip port worker middle runtime) (filed : manager.Filed)
    {sources : Table Int HeardSource} (tracks : manager.Tracks sources)
    (other : Int) :
    SourceStep os manager next sources
      (sources.insert srcId ⟨worker, SockAddr.ofPort ip port, none⟩)
      (.event (.addSource workerType srcId ip port)) other := by
  rcases eq_or_ne other srcId with rfl | different
  · refine .renewed ?_ ?_ ?_
    · rw [accepted.sources, Table.lookup_insert, Table.lookup_insert, if_pos rfl,
        if_pos rfl]
      rfl
    · intro source known
      rw [Table.lookup_insert, if_pos rfl] at known
      cases known
      rfl
    · intro source known
      have below := filed.sources _ _ (tracks.mapped known)
      refine Manager.keepsSource_of_quiet rfl rfl ?_
      simp [accepted.displaced_iff filed below]
  · refine .kept ?_ ?_ ?_
    · rw [accepted.sources, Table.lookup_insert, if_neg different]
    · rw [Table.lookup_insert, if_neg different]
      simp [Manager.heard]
    · intro source known
      have below := filed.sources _ _ (tracks.mapped known)
      rw [accepted.stamp below different]
      simp [Manager.stampAfter, Manager.stamped,
        accepted.displaced_iff filed below]

end AcceptedStep

namespace RemovedStep

variable {os : Os} {manager next : Manager} {srcId : Int} {worker : Nat}
  {runtime : Runtime} {messages : List Message}

theorem displaced_iff (removed : RemovedStep manager next srcId worker runtime
    messages) (other : Nat) (listId : Int) :
    manager.displaced os (.event (.removeSource srcId)) =
        some (other, listId) ↔
      other = worker ∧ (manager.workers worker).kind = .rtcp ∧
        listId = srcId + 1 := by
  simp only [Manager.displaced, removed.mapped]
  split
  · simp [*, eq_comm]
  · simp [*]

theorem stamp (removed : RemovedStep manager next srcId worker runtime
    messages) (other : Nat) {listId : Int} (different : listId ≠ srcId) :
    next.stamp other listId =
      if other = worker ∧ (manager.workers worker).kind = .rtcp ∧
          listId = srcId + 1 then none
      else manager.stamp other listId := by
  unfold Manager.stamp
  rcases eq_or_ne other worker with rfl | elsewhere
  · rw [removed.worker_eq, Runtime.removeSource_stamp removed.called different]
    by_cases after :
        (manager.workers other).kind = .rtcp ∧ listId = srcId + 1
    · exact (if_pos after).trans (if_pos ⟨rfl, after⟩).symm
    · exact (if_neg after).trans (if_neg fun both => after both.2).symm
  · simp [removed.other_eq elsewhere, elsewhere]

theorem source (removed : RemovedStep manager next srcId worker runtime
    messages) (sources : Table Int HeardSource) (other : Int) :
    SourceStep os manager next sources (sources.erase srcId)
      (.event (.removeSource srcId)) other := by
  rcases eq_or_ne other srcId with rfl | different
  · refine .renewed ?_ ?_ ?_
    · rw [removed.put, Table.lookup_erase, Table.lookup_erase, if_pos rfl,
        if_pos rfl]
      rfl
    · intro source known
      rw [Table.lookup_erase, if_pos rfl] at known
      cases known
    · intro source _
      refine Manager.keepsSource_of_quiet rfl rfl ?_
      simp [removed.displaced_iff]
  · refine .kept ?_ ?_ ?_
    · rw [removed.put, Table.lookup_erase, if_neg different]
    · rw [Table.lookup_erase, if_neg different]
      simp [Manager.heard]
    · intro source _
      rw [removed.stamp _ different]
      simp [Manager.stampAfter, Manager.stamped, removed.displaced_iff]

end RemovedStep

namespace Manager

variable {os : Os} {manager : Manager}

theorem put_stamp {worker : Nat} {runtime : Runtime}
    (same : runtime.worker.stamp = (manager.workers worker).stamp)
    (other : Nat) :
    (manager.put worker runtime).stamp other = manager.stamp other := by
  funext listId
  rcases eq_or_ne other worker with rfl | elsewhere
  · simp [stamp, same]
  · simp [stamp, elsewhere]

theorem create_stamp {kind : WorkerKind} {other : Nat}
    (below : other < manager.allocated) :
    (manager.create kind).stamp other = manager.stamp other := by
  funext listId
  simp [stamp, below.ne]

theorem packet_stamp (worker : Nat) (fd : Int) (received : Received)
    (other : Nat) (listId : Int) :
    (manager.put worker
        ((manager.runtime worker).process fd received).1).stamp other listId =
      manager.stampAfter os (.event (.packet worker fd received)) other
        listId := by
  have written : manager.stamped (.event (.packet worker fd received)) =
        some (other, listId) ↔
      worker = other ∧
        (manager.runtime worker).stamped fd received = some listId := by
    simp [stamped, and_comm]
  have undisplaced : manager.displaced os
      (.event (.packet worker fd received)) ≠ some (other, listId) := by
    simp [displaced]
  rw [stampAfter, if_neg undisplaced]
  simp only [written]
  rcases eq_or_ne other worker with rfl | elsewhere
  · rw [stamp, put_workers, update_self, Runtime.process_stamp]
    cases found : (manager.runtime other).stamped fd received with
    | none => simp [stamp, runtime]
    | some listed => simp [stamp, runtime, update_apply, eq_comm]
  · simp [stamp, elsewhere, elsewhere.symm]

theorem displaced_of_unsupported {workerType srcId port : Int} {ip : InAddr}
    (unsupported : WorkerKind.ofType workerType = none) :
    manager.displaced os (.event (.addSource workerType srcId ip port)) =
      none := by
  cases search : manager.getWorkerByPortType port workerType with
  | none => simp [displaced, search]
  | some worker =>
      obtain ⟨key, entry, sameType⟩ := getWorkerByPortType_found search
      rw [← sameType, Worker.getWorkerType, WorkerKind.ofType_workerType]
        at unsupported
      cases unsupported

theorem displaced_of_rejected {middle : Manager} {worker : Nat}
    {runtime : Runtime} {workerType srcId port : Int} {ip : InAddr}
    (filed : manager.Filed)
    (chosen : manager.Chosen workerType worker middle)
    (called : (middle.runtime worker).step os (.addSource srcId ip port) =
      .ok (runtime, .added false)) :
    manager.displaced os (.event (.addSource workerType srcId ip port)) =
      none := by
  rcases filed.getWorkerByPortType_of_chosen chosen port with
    ⟨rfl, search⟩ | ⟨created, search⟩
  · have refused : ¬ (middle.runtime worker).CanAdd os ip port := by
      rw [← Runtime.canAdd_iff called]
      exact Bool.false_ne_true
    simp [displaced, search, refused]
  · simp [displaced, search]

end Manager

theorem heardSources_unserved {manager : Manager}
    {sources : Table Int HeardSource} {event : ManagerEvent}
    {output : ManagerOutput} {srcId : Int}
    (unserved : ∀ code worker, output ≠ .returned code (some worker))
    (names : event.guarded = some srcId) :
    heardSources.update sources (.event event) (manager.observe event output) =
      sources := by
  cases event with
  | removeSource other =>
      cases output with
      | returned code worker =>
          cases worker with
          | none => simp [heardSources, Manager.observe, Manager.heard]
          | some worker => exact absurd rfl (unserved code worker)
      | _ => rfl
  | addSource => cases names
  | packet => cases names
  | _ => rfl

theorem heardSources_packet (manager : Manager)
    (sources : Table Int HeardSource) (worker : Nat) (fd : Int)
    (received : Received) (output : ManagerOutput) (srcId : Int) :
    (heardSources.update sources (.event (.packet worker fd received))
        (manager.observe (.packet worker fd received) output)).lookup srcId =
      (sources.lookup srcId).map (HeardSource.hear
        (manager.heard (.event (.packet worker fd received)))
        manager.kernel.clock) := by
  cases received with
  | datagram sender bytes => exact Table.lookup_mapValues _ _ _
  | failed => simp [heardSources, Manager.observe, Manager.heard]

namespace ManagerStep

variable {os : Os} {maxWorkers : Int} {manager next : Manager}
  {event : ManagerEvent} {output : ManagerOutput}

theorem source
    (step : ManagerStep os maxWorkers manager next event output)
    (filed : manager.Filed) {sources : Table Int HeardSource}
    (tracks : manager.Tracks sources) (srcId : Int) :
    SourceStep os manager next sources
      (heardSources.update sources (.event event)
        (manager.observe event output)) (.event event) srcId := by
  cases step with
  | unsupported unknownType same =>
      subst same
      exact .of_quiet rfl rfl (Manager.displaced_of_unsupported unknownType)
        rfl fun _ _ => rfl
  | @rejected workerType other ip port worker middle runtime chosen called put =>
      subst put
      refine .of_quiet rfl rfl
        (Manager.displaced_of_rejected filed chosen called) chosen.tables.1 ?_
      intro source known
      have below := filed.sources _ _ (tracks.mapped known)
      rw [Manager.put_stamp (Runtime.step_rejected_stamp called)]
      cases chosen with
      | found key entry sameType => rfl
      | created kind absent supported => exact Manager.create_stamp below
  | accepted middle runtime chosen called committed =>
      exact AcceptedStep.source ⟨chosen, called, committed⟩ filed tracks srcId
  | unknown names missing same unserved =>
      subst same
      have quiet : heardSources.update sources (.event event)
          (next.observe event output) = sources :=
        heardSources_unserved unserved names
      have undisplaced : next.displaced os (.event event) = none := by
        cases event with
        | removeSource other =>
            cases names
            simp [Manager.displaced, missing]
        | addSource => cases names
        | _ => rfl
      rw [quiet]
      cases event with
      | packet => cases names
      | _ => exact .of_quiet rfl rfl undisplaced rfl fun _ _ => rfl
  | removed runtime messages mapped called put =>
      exact RemovedStep.source ⟨mapped, called, put⟩ sources srcId
  | destination runtime calls mapped called put =>
      subst put
      obtain ⟨destId, ip, port, rfl, rfl⟩ | ⟨destId, rfl, rfl⟩ :=
        ManagerEvent.destinationCall_cases calls
      · exact .of_quiet rfl rfl rfl rfl fun _ _ =>
          Manager.put_stamp (Runtime.step_addDestination_stamp called) _
      · exact .of_quiet rfl rfl rfl rfl fun _ _ =>
          Manager.put_stamp (Runtime.step_removeDestination_stamp called) _
  | read runtime mapped called put =>
      subst put
      exact .of_quiet rfl rfl rfl rfl fun _ _ =>
        Manager.put_stamp
          (Worker.stamp_congr (Worker.readTimeStamp_kept called).2.1) _
  | handled same =>
      subst same
      obtain ⟨workers, -, mapped⟩ := manager.handleMessage_kept
      refine .of_quiet rfl rfl rfl mapped ?_
      intro source _
      funext listId
      rw [Manager.stamp, workers, Manager.stamp]
  | packet put =>
      subst put
      exact .kept rfl (heardSources_packet ..) fun _ _ =>
        Manager.packet_stamp ..
  | timedOut same =>
      subst same
      exact .of_quiet rfl rfl rfl rfl fun _ _ => rfl
  | elapsed same =>
      subst same
      exact .of_quiet rfl rfl rfl rfl fun _ _ => rfl

end ManagerStep

namespace Manager

variable {os : Os} {maxWorkers : Int} {manager next : Manager}
  {sources : Table Int HeardSource} {event : TimedEvent} {output : TimedOutput}

theorem update_cases {worker : Nat} {listId : Int}
    (stepped : manager.timedStep os maxWorkers (.update worker listId) =
      .ok (next, output)) :
    output = .updated ∧
      (((manager.workers worker).kind ≠ .stats ∧ next = manager) ∨
        ∃ runtime, (manager.workers worker).kind = .stats ∧
          StatsWorker.updateList (manager.runtime worker) listId =
            .ok runtime ∧ next = manager.put worker runtime) := by
  by_cases stats : (manager.workers worker).kind = .stats
  · rw [timedStep, if_pos stats] at stepped
    obtain ⟨runtime, updated, ended⟩ := bind_eq_ok stepped
    cases ended
    exact ⟨rfl, .inr ⟨runtime, stats, updated, rfl⟩⟩
  · rw [timedStep, if_neg stats] at stepped
    cases stepped
    exact ⟨rfl, .inl ⟨stats, rfl⟩⟩

theorem update_stamp {worker : Nat} {listId : Int} {runtime : Runtime}
    (stats : (manager.workers worker).kind = .stats)
    (updated : StatsWorker.updateList (manager.runtime worker) listId =
      .ok runtime) (other : Nat) (otherId : Int) :
    (manager.put worker runtime).stamp other otherId =
      manager.stampAfter os (.update worker listId) other otherId := by
  have written : manager.stamped (.update worker listId) =
        some (other, otherId) ↔
      (manager.runtime worker).ticks listId = true ∧ worker = other ∧
        listId = otherId := by
    simp [stamped, stats]
  have undisplaced : manager.displaced os (.update worker listId) ≠
      some (other, otherId) := by
    simp [displaced]
  rw [stampAfter, if_neg undisplaced]
  simp only [written]
  rcases eq_or_ne other worker with rfl | elsewhere
  · rw [stamp, put_workers, update_self, Runtime.updateList_stamp updated]
    cases (manager.runtime other).ticks listId with
    | false => simp [stamp, Manager.runtime]
    | true => simp [stamp, Manager.runtime, update_apply, eq_comm]
  · simp [stamp, elsewhere, elsewhere.symm]

theorem timedStep_source (filed : manager.Filed)
    (tracks : manager.Tracks sources)
    (stepped : manager.timedStep os maxWorkers event = .ok (next, output)) :
    next.Filed ∧ ∀ srcId, SourceStep os manager next sources
      (heardSources.update sources event output) event srcId := by
  cases event with
  | event event =>
      obtain ⟨⟨after, answer⟩, called, ended⟩ := bind_eq_ok stepped
      cases ended
      have step := ManagerStep.of_step called
      exact ⟨step.filed filed, step.source filed tracks⟩
  | update worker listId =>
      obtain ⟨rfl, ⟨other, rfl⟩ | ⟨runtime, stats, updated, rfl⟩⟩ :=
        update_cases stepped
      · refine ⟨filed, fun srcId => .of_quiet rfl ?_ rfl rfl fun _ _ => rfl⟩
        simp [stamped, other]
      · have only := Runtime.updateList_streamsOnly updated
        refine ⟨filed.shrink (.put_streamsOnly only) ⟨?_, ?_⟩, ?_⟩
        · exact fun _ _ mapped => mapped
        · exact fun _ _ entry => entry
        · intro srcId
          refine .kept rfl ?_ fun source _ => update_stamp stats updated _ _
          simp [heard, heardSources]

theorem timedStep_reportsLast_iff (filed : manager.Filed)
    (tracks : manager.Tracks sources) (right : manager.ReportsLast sources)
    (stepped : manager.timedStep os maxWorkers event = .ok (next, output)) :
    next.ReportsLast (heardSources.update sources event output) ↔
      manager.KeepsLast os sources event := by
  have steps := (timedStep_source filed tracks stepped).2
  have after : next.Tracks (heardSources.update sources event output) :=
    fun srcId => (steps srcId).tracks tracks
  rw [tracks.reportsLast_iff] at right
  rw [after.reportsLast_iff]
  exact forall_congr' fun srcId => (steps srcId).right_iff (right srcId)

end Manager

theorem timedMachine_run_right {os : Os} {maxWorkers : Int} {kernel : Kernel}
    {manager : Manager} {sources : Table Int HeardSource}
    (run : (timedMachine os maxWorkers).Run heardSources
      (Manager.KeepsLast os) (Manager.start kernel) manager sources) :
    manager.Filed ∧ manager.Tracks sources ∧ manager.ReportsLast sources := by
  refine run.invariant (motive := fun manager sources =>
    manager.Filed ∧ manager.Tracks sources ∧ manager.ReportsLast sources)
    ⟨.start kernel, fun _ => rfl, ?_⟩ ?_
  · intro srcId source known
    cases known
  · intro manager next sources event output ⟨filed, tracks, right⟩ keeps stepped
    obtain ⟨nextFiled, steps⟩ :=
      Manager.timedStep_source filed tracks stepped
    exact ⟨nextFiled, fun srcId => (steps srcId).tracks tracks,
      (Manager.timedStep_reportsLast_iff filed tracks right stepped).mpr keeps⟩

theorem Manager.keepsSource_packet_iff {os : Os} {manager : Manager}
    {worker : Nat} {fd srcId : Int} {sender : SockAddr} {bytes : List UInt8}
    {source : HeardSource}
    (heard : manager.heard (.event (.packet worker fd
      (.datagram sender bytes))) = some (source.worker, source.addr))
    (routed : (manager.workers source.worker).streams.routes source.addr =
      srcId)
    (present : ((manager.workers source.worker).streams.lists
      srcId).isSome = true) :
    manager.KeepsSource os (.event (.packet worker fd
        (.datagram sender bytes))) srcId source ↔
      ((manager.workers source.worker).kind ≠ .stats ∧ bytes ≠ []) ∨
        manager.stamp source.worker srcId = some manager.kernel.clock := by
  obtain ⟨list, found⟩ := Option.isSome_iff_exists.mp present
  have place := heard
  simp only [Manager.heard, Option.some.injEq, Prod.mk.injEq] at place
  obtain ⟨rfl, addr⟩ := place
  have route : (manager.workers source.worker).routed
      ⟨0, fd, .datagram sender bytes⟩ = srcId := by
    rw [Worker.routed, addr, routed]
  rw [KeepsSource, if_pos heard]
  refine or_congr_left ?_
  simp [stamped, Runtime.stamped, Manager.runtime, Worker.lookedUp, route,
    found]

/-- As long as every event keeps the stamps of the sources heard,
`readTimeStamp` answers the time of the last packet; the first event that does
not ends this. -/
theorem readTimeStamp_last_iff {os : Os} {maxWorkers : Int} {kernel : Kernel}
    {manager : Manager} {sources : Table Int HeardSource}
    (run : (timedMachine os maxWorkers).Run heardSources
      (Manager.KeepsLast os) (Manager.start kernel) manager sources) :
    manager.ReportsLast sources ∧
      ∀ event next output,
        (timedMachine os maxWorkers).step manager event = .ok (next, output) →
        (next.ReportsLast (heardSources.update sources event output) ↔
          manager.KeepsLast os sources event) := by
  obtain ⟨filed, tracks, right⟩ := timedMachine_run_right run
  refine ⟨right, ?_⟩
  intro event next output stepped
  exact Manager.timedStep_reportsLast_iff filed tracks right stepped

theorem readTimeStamp_last_forwarded :
    ∃ manager sources,
      (timedMachine .orderly 10).Run heardSources (Manager.KeepsLast .orderly)
        (Manager.start .fresh) manager sources ∧
      (sources.lookup 1).bind HeardSource.last = some 5 ∧
      manager.kernel.clock = 10 ∧ manager.ReportsLast sources := by
  have run : (timedMachine .orderly 10).Run heardSources
      (Manager.KeepsLast .orderly) (Manager.start .fresh) _ _ :=
    .of_replay [.event (.addSource 1 1 1 5000), .event (.elapse 5),
      .event (.packet 0 3 (.datagram ⟨1, 9⟩ [7])), .event (.elapse 5)]
      (by decide)
  exact ⟨_, _, run, by decide, by decide, (readTimeStamp_last_iff run).1⟩

/-- A source of a `StatsWorker` keeps the time at which it was added, whatever
it sends. -/
theorem readTimeStamp_last_statistics :
    ∃ manager sources next,
      (timedMachine .orderly 10).Run heardSources (fun _ _ _ => True)
        (Manager.start .fresh) manager sources ∧
      (sources.lookup 1).bind HeardSource.last = some 5 ∧
      manager.readTimeStamp 1 = .ok (next, .time (some 0) (some 0)) ∧
      ¬ manager.ReportsLast sources := by
  have run : (timedMachine .orderly 10).Run heardSources (fun _ _ _ => True)
      (Manager.start .fresh) _ _ :=
    .of_replay [.event (.addSource 2 1 1 5000), .event (.elapse 5),
      .event (.packet 0 3 (.datagram ⟨1, 9⟩ [7]))] (by decide)
  refine ⟨_, _, _, run, by decide, rfl, ?_⟩
  intro right
  obtain ⟨next, worker, answer⟩ :=
    right 1 ⟨0, ⟨1, 5000⟩, some 5⟩ (by decide) 5 rfl
  cases answer

end StrManager
