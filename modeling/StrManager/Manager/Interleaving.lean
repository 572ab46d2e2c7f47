import StrManager.Manager.Changes

namespace StrManager

open Library Function

/-! `Manager::addSource` in the steps between which `messageHandler` and the
threads of the workers may run. The other calls touch neither the pool nor the
head of the queue, so that a turn of the handler in their middle is one before
them. -/

structure SourceCall where
  workerType : Int
  srcId : Int
  ip : InAddr
  port : Int

inductive CallStage where
  | searchPort
  | searchType
  | create
  | ask (worker : Nat)
  | assign (worker : Nat)
  | file (worker : Nat)
  | advance (worker : Nat)

namespace Manager

/-- The first loop of `getWorkerByPortType`. -/
def searchPort (manager : Manager) (port workerType : Int) : Option Nat :=
  (manager.workerIdWorker.entries.find? fun entry =>
    (manager.workers entry.2).hasPort port &&
      (manager.workers entry.2).getWorkerType == workerType).map Sigma.snd

theorem getWorkerByPortType_eq (manager : Manager) (port workerType : Int) :
    manager.getWorkerByPortType port workerType =
      (manager.searchPort port workerType).or
        (manager.getWorkerByType workerType) := by
  unfold getWorkerByPortType searchPort
  cases manager.workerIdWorker.entries.find? fun entry =>
    (manager.workers entry.2).hasPort port &&
      (manager.workers entry.2).getWorkerType == workerType <;> rfl

theorem searchPort_found {manager : Manager} {port workerType : Int}
    {worker : Nat} (found : manager.searchPort port workerType = some worker) :
    ∃ key, manager.workerIdWorker.lookup key = some worker ∧
      (manager.workers worker).getWorkerType = workerType := by
  have chosen : manager.getWorkerByPortType port workerType =
      some worker := by
    rw [getWorkerByPortType_eq, found]
    rfl
  exact getWorkerByPortType_found chosen

def assign (manager : Manager) (srcId : Int) (worker : Nat) : Manager :=
  { manager with srcIdWorker := manager.srcIdWorker.insert srcId worker }

def file (manager : Manager) (worker : Nat) : Manager :=
  { manager with
    workerIdWorker := manager.workerIdWorker.insert
      (manager.workers worker).workerId worker }

def advance (maxWorkers : Int) (manager : Manager) : Manager :=
  let next := manager.currentWorkerId + 1
  { manager with currentWorkerId := if next ≥ maxWorkers then 0 else next }

theorem commit_eq (maxWorkers : Int) (manager : Manager) (srcId : Int)
    (worker : Nat) :
    manager.commit maxWorkers srcId worker =
      ((manager.assign srcId worker).file worker).advance maxWorkers := rfl

/-- One step of an `addSource` call: the manager after it, and the next step
or the result of the call. -/
def proceed (os : Os) (maxWorkers : Int) (manager : Manager)
    (call : SourceCall) : CallStage → Manager × (CallStage ⊕ ManagerOutput)
  | .searchPort =>
      match manager.searchPort call.port call.workerType with
      | some worker => (manager, .inl (.ask worker))
      | none => (manager, .inl .searchType)
  | .searchType =>
      match manager.getWorkerByType call.workerType with
      | some worker => (manager, .inl (.ask worker))
      | none => (manager, .inl .create)
  | .create =>
      match WorkerKind.ofType call.workerType with
      | some kind => (manager.create kind, .inl (.ask manager.allocated))
      | none => (manager, .inr (.returned (-1) none))
  | .ask worker =>
      let (accepted, runtime) :=
        (manager.runtime worker).addSource os call.srcId call.ip call.port
      let manager := manager.put worker runtime
      if accepted then (manager, .inl (.assign worker))
      else (manager, .inr (.returned (-1) (some worker)))
  | .assign worker => (manager.assign call.srcId worker, .inl (.file worker))
  | .file worker => (manager.file worker, .inl (.advance worker))
  | .advance worker =>
      (manager.advance maxWorkers, .inr (.returned 0 (some worker)))

def finish (os : Os) (maxWorkers : Int) (call : SourceCall) :
    Nat → Manager → CallStage → Option (Manager × ManagerOutput)
  | 0, _, _ => none
  | fuel + 1, manager, stage =>
      match manager.proceed os maxWorkers call stage with
      | (manager, .inl stage) => finish os maxWorkers call fuel manager stage
      | (manager, .inr output) => some (manager, output)

/-- Without interruption the steps are `Manager::addSource`. -/
theorem finish_eq_addSource (os : Os) (maxWorkers : Int) (manager : Manager)
    (call : SourceCall) :
    manager.finish os maxWorkers call 7 .searchPort =
      some (manager.addSource os maxWorkers call.workerType call.srcId call.ip
        call.port) := by
  have asked (middle : Manager) (worker : Nat) (rest : Nat) :
      middle.finish os maxWorkers call (rest + 4) (.ask worker) =
        let (accepted, runtime) := (middle.runtime worker).addSource os
          call.srcId call.ip call.port
        let manager := middle.put worker runtime
        some (if accepted then
          (manager.commit maxWorkers call.srcId worker,
            .returned 0 (some worker))
        else (manager, .returned (-1) (some worker))) := by
    rcases called : (middle.runtime worker).addSource os call.srcId call.ip
      call.port with ⟨accepted, runtime⟩
    cases accepted with
    | true => simp [finish, proceed, called, commit_eq]
    | false => simp [finish, proceed, called]
  unfold addSource getWorker
  rw [getWorkerByPortType_eq]
  cases onPort : manager.searchPort call.port call.workerType with
  | some worker =>
      have steps : manager.finish os maxWorkers call 7 .searchPort =
          manager.finish os maxWorkers call 6 (.ask worker) := by
        simp [finish, proceed, onPort]
      rw [steps, asked manager worker 2]
      rfl
  | none =>
      cases ofType : manager.getWorkerByType call.workerType with
      | some worker =>
          have steps : manager.finish os maxWorkers call 7 .searchPort =
              manager.finish os maxWorkers call 5 (.ask worker) := by
            simp [finish, proceed, onPort, ofType]
          rw [steps, asked manager worker 1]
          rfl
      | none =>
          cases supported : WorkerKind.ofType call.workerType with
          | none => simp [finish, proceed, onPort, ofType, supported]
          | some kind =>
              have steps : manager.finish os maxWorkers call 7 .searchPort =
                  (manager.create kind).finish os maxWorkers call 4
                    (.ask manager.allocated) := by
                simp [finish, proceed, onPort, ofType, supported]
              rw [steps, asked (manager.create kind) manager.allocated 0]
              rfl

end Manager

/-- A manager with the `addSource` call that is in progress, if any. -/
structure Interleaved where
  manager : Manager
  current : Option (SourceCall × CallStage)

inductive InterleavedEvent where
  | event (event : ManagerEvent)
  | proceed

inductive InterleavedOutput where
  | waited
  | ran (output : ManagerOutput)
  | passed (call : SourceCall) (stage : CallStage)
      (result : CallStage ⊕ ManagerOutput)

/-- The calls of the manager's users, which come one after the other. -/
def ManagerEvent.isCall : ManagerEvent → Bool
  | .addSource _ _ _ _ | .removeSource _ | .addDestination _ _ _ _
  | .removeDestination _ _ | .readTimeStamp _ => true
  | .handleMessage | .packet _ _ _ | .selectTimeout _ | .elapse _ => false

namespace Interleaved

def start (kernel : Kernel) : Interleaved := ⟨Manager.start kernel, none⟩

/-- A call waits while another one is in progress. -/
def step (os : Os) (maxWorkers : Int) (state : Interleaved) :
    InterleavedEvent → Except Fault (Interleaved × InterleavedOutput)
  | .event (.addSource workerType srcId ip port) =>
      match state.current with
      | some _ => .ok (state, .waited)
      | none =>
          .ok ({ state with
            current := some (⟨workerType, srcId, ip, port⟩, .searchPort) },
            .waited)
  | .event event =>
      if event.isCall && state.current.isSome then .ok (state, .waited)
      else do
        let (manager, output) ← state.manager.step os maxWorkers event
        return ({ state with manager := manager }, .ran output)
  | .proceed =>
      match state.current with
      | none => .ok (state, .waited)
      | some (call, stage) =>
          let (manager, result) :=
            state.manager.proceed os maxWorkers call stage
          .ok (⟨manager, result.getLeft?.map fun stage => (call, stage)⟩,
            .passed call stage result)

end Interleaved

def interleavedMachine (os : Os) (maxWorkers : Int) :
    Machine Interleaved InterleavedEvent InterleavedOutput Fault where
  step := Interleaved.step os maxWorkers

/-- The type that the latest accepted `addSource` call for an identifier
requested. A call is accepted once its source is in `srcIdWorker`. -/
def requestedTypes :
    Observer InterleavedEvent InterleavedOutput (Table Int Int) where
  initial := ∅
  update requested _ output :=
    match output with
    | .passed call (.assign _) _ =>
        requested.insert call.srcId call.workerType
    | _ => requested

inductive InterleavedStep (os : Os) (maxWorkers : Int)
    (state next : Interleaved) : InterleavedOutput → Prop
  | waited (same : next = state) : InterleavedStep os maxWorkers state next .waited
  | called (call : SourceCall) (idle : state.current = none)
      (begun : next = { state with current := some (call, .searchPort) }) :
      InterleavedStep os maxWorkers state next .waited
  | ran {event : ManagerEvent} {output : ManagerOutput}
      (other : ∀ workerType srcId ip port,
        event ≠ .addSource workerType srcId ip port)
      (stepped : ManagerStep os maxWorkers state.manager next.manager event
        output)
      (kept : next.current = state.current) :
      InterleavedStep os maxWorkers state next (.ran output)
  | passed (call : SourceCall) (stage : CallStage)
      (busy : state.current = some (call, stage))
      (proceeded : next.manager =
        (state.manager.proceed os maxWorkers call stage).1)
      (follows : next.current =
        (state.manager.proceed os maxWorkers call stage).2.getLeft?.map
          fun stage => (call, stage)) :
      InterleavedStep os maxWorkers state next (.passed call stage
        (state.manager.proceed os maxWorkers call stage).2)

theorem InterleavedStep.of_step {os : Os} {maxWorkers : Int}
    {state next : Interleaved} {event : InterleavedEvent}
    {output : InterleavedOutput}
    (stepped : state.step os maxWorkers event = .ok (next, output)) :
    InterleavedStep os maxWorkers state next output := by
  cases event with
  | proceed =>
      unfold Interleaved.step at stepped
      cases busy : state.current with
      | none =>
          rw [busy] at stepped
          cases stepped
          exact .waited rfl
      | some current =>
          obtain ⟨call, stage⟩ := current
          rw [busy] at stepped
          cases stepped
          exact .passed call stage busy rfl rfl
  | event event =>
      rcases em (∃ workerType srcId ip port,
        event = .addSource workerType srcId ip port) with
        ⟨workerType, srcId, ip, port, rfl⟩ | other
      · unfold Interleaved.step at stepped
        cases busy : state.current with
        | none =>
            simp only [busy] at stepped
            cases stepped
            exact .called _ busy rfl
        | some current =>
            simp only [busy] at stepped
            cases stepped
            exact .waited rfl
      · have ordinary : state.step os maxWorkers (.event event) =
            if event.isCall && state.current.isSome then .ok (state, .waited)
            else do
              let (manager, output) ← state.manager.step os maxWorkers event
              return ({ state with manager := manager }, .ran output) := by
          cases event with
          | addSource workerType srcId ip port =>
              exact absurd ⟨workerType, srcId, ip, port, rfl⟩ other
          | _ => rfl
        rw [ordinary] at stepped
        split at stepped
        · cases stepped
          exact .waited rfl
        · obtain ⟨⟨manager, output⟩, called, ended⟩ := bind_eq_ok stepped
          cases ended
          refine InterleavedStep.ran ?_ (ManagerStep.of_step called) rfl
          intro workerType srcId ip port same
          exact other ⟨workerType, srcId, ip, port, same⟩

/-! The pool and the sources at every point of a call. -/

/-- What a call knows about the pool at each of its stages, whatever the
handler has erased since. -/
def CallStage.Sound (manager : Manager) (workerType : Int) : CallStage → Prop
  | .create => ∀ key worker,
      manager.workerIdWorker.lookup key = some worker →
      (manager.workers worker).getWorkerType ≠ workerType
  | .ask worker | .assign worker | .file worker =>
      worker < manager.allocated ∧
      (manager.workers worker).getWorkerType = workerType ∧
      ∀ key other, manager.workerIdWorker.lookup key = some other →
        (manager.workers other).getWorkerType = workerType → other = worker
  | .searchPort | .searchType | .advance _ => True

theorem CallStage.Sound.shrink {manager next : Manager} {workerType : Int}
    {stage : CallStage} (sound : stage.Sound manager workerType)
    (filed : manager.Filed) (keeps : manager.Keeps next)
    (shrinks : manager.Shrinks next) : stage.Sound next workerType := by
  have served {worker : Nat} (chosen : worker < manager.allocated ∧
      (manager.workers worker).getWorkerType = workerType ∧
      ∀ key other, manager.workerIdWorker.lookup key = some other →
        (manager.workers other).getWorkerType = workerType → other = worker) :
      worker < next.allocated ∧
      (next.workers worker).getWorkerType = workerType ∧
      ∀ key other, next.workerIdWorker.lookup key = some other →
        (next.workers other).getWorkerType = workerType → other = worker := by
    obtain ⟨below, sameType, alone⟩ := chosen
    refine ⟨below.trans_le keeps.allocated, ?_, ?_⟩
    · rw [keeps.workerType below, sameType]
    · intro key other entry otherType
      have before := shrinks.pool key other entry
      rw [keeps.workerType (filed.pool key other before)] at otherType
      exact alone key other before otherType
  cases stage with
  | searchPort => trivial
  | searchType => trivial
  | advance worker => trivial
  | create =>
      intro key worker entry
      have before := shrinks.pool key worker entry
      rw [keeps.workerType (filed.pool key worker before)]
      exact sound key worker before
  | ask worker => exact served sound
  | assign worker => exact served sound
  | file worker => exact served sound

theorem Manager.Filed.sound_ask {manager : Manager} (filed : manager.Filed)
    {workerType : Int} {worker : Nat}
    (found : ∃ key, manager.workerIdWorker.lookup key = some worker ∧
      (manager.workers worker).getWorkerType = workerType) :
    (CallStage.ask worker).Sound manager workerType := by
  obtain ⟨key, entry, sameType⟩ := found
  refine ⟨filed.pool key worker entry, sameType, ?_⟩
  intro key2 other entry2 otherType
  exact filed.single key2 key other worker entry2 entry
    (otherType.trans sameType.symm)

structure Shaped (state : Interleaved) (requested : Table Int Int) : Prop where
  filed : state.manager.Filed
  stage : ∀ call stage, state.current = some (call, stage) →
    stage.Sound state.manager call.workerType
  types : ∀ srcId worker,
    state.manager.srcIdWorker.lookup srcId = some worker →
    requested.lookup srcId = some (state.manager.workers worker).getWorkerType

namespace Shaped

variable {os : Os} {maxWorkers : Int} {state : Interleaved}
  {requested : Table Int Int}

theorem start (kernel : Kernel) : Shaped (Interleaved.start kernel) ∅ where
  filed := Manager.Filed.start kernel
  stage := by
    intro call stage busy
    cases busy
  types := by
    intro srcId worker mapped
    cases mapped

theorem shrink (shaped : Shaped state requested) {next : Manager}
    {current : Option (SourceCall × CallStage)}
    (keeps : state.manager.Keeps next) (shrinks : state.manager.Shrinks next)
    (stage : ∀ call stage, current = some (call, stage) →
      stage.Sound next call.workerType) :
    Shaped ⟨next, current⟩ requested where
  filed := shaped.filed.shrink keeps shrinks
  stage := stage
  types := by
    intro srcId worker mapped
    have before := shrinks.sources srcId worker mapped
    have known := shaped.types srcId worker before
    rwa [keeps.workerType (shaped.filed.sources srcId worker before)]

theorem ran (shaped : Shaped state requested) {next : Interleaved}
    {event : ManagerEvent} {output : ManagerOutput}
    (other : ∀ workerType srcId ip port,
      event ≠ .addSource workerType srcId ip port)
    (stepped : ManagerStep os maxWorkers state.manager next.manager event
      output)
    (kept : next.current = state.current) : Shaped next requested := by
  rcases stepped.shrinks_or_accepts with
    shrinks | ⟨workerType, srcId, ip, port, -, -, -, isAdd, -⟩
  · refine shaped.shrink stepped.keeps shrinks ?_
    intro call stage busy
    rw [kept] at busy
    exact (shaped.stage call stage busy).shrink shaped.filed stepped.keeps
      shrinks
  · exact absurd isAdd (other workerType srcId ip port)

theorem assign (shaped : Shaped state requested) {call : SourceCall}
    {worker : Nat}
    (sound : (CallStage.assign worker).Sound state.manager call.workerType) :
    Shaped ⟨state.manager.assign call.srcId worker, some (call, .file worker)⟩
      (requested.insert call.srcId call.workerType) where
  filed := by
    refine ⟨?_, shaped.filed.pool, shaped.filed.keys, shaped.filed.single⟩
    intro srcId server mapped
    change (state.manager.srcIdWorker.insert call.srcId worker).lookup srcId =
      some server at mapped
    rw [Table.lookup_insert] at mapped
    split at mapped
    · cases mapped
      exact sound.1
    · exact shaped.filed.sources srcId server mapped
  stage := by
    intro call stage busy
    cases busy
    exact sound
  types := by
    intro srcId server mapped
    change (state.manager.srcIdWorker.insert call.srcId worker).lookup srcId =
      some server at mapped
    change (requested.insert call.srcId call.workerType).lookup srcId =
      some (state.manager.workers server).getWorkerType
    rw [Table.lookup_insert] at mapped ⊢
    split at mapped
    · cases mapped
      rw [if_pos ‹_›, sound.2.1]
    · rw [if_neg ‹_›]
      exact shaped.types srcId server mapped

theorem file (shaped : Shaped state requested) {call : SourceCall}
    {worker : Nat}
    (sound : (CallStage.file worker).Sound state.manager call.workerType) :
    Shaped ⟨state.manager.file worker, some (call, .advance worker)⟩
      requested := by
  obtain ⟨below, sameType, alone⟩ := sound
  have entered {key : Int} {server : Nat}
      (entry : (state.manager.file worker).workerIdWorker.lookup key =
        some server) :
      (key = (state.manager.workers worker).workerId ∧ server = worker) ∨
        state.manager.workerIdWorker.lookup key = some server := by
    change (state.manager.workerIdWorker.insert _ worker).lookup key =
      some server at entry
    rw [Table.lookup_insert] at entry
    split at entry
    · cases entry
      exact .inl ⟨‹_›, rfl⟩
    · exact .inr entry
  refine ⟨⟨shaped.filed.sources, ?_, ?_, ?_⟩, ?_, shaped.types⟩
  · intro key server entry
    rcases entered entry with ⟨-, rfl⟩ | before
    · exact below
    · exact shaped.filed.pool key server before
  · intro key server entry
    rcases entered entry with ⟨rfl, rfl⟩ | before
    · rfl
    · exact shaped.filed.keys key server before
  · intro key key2 server server2 entry entry2 equalTypes
    change (state.manager.workers server).getWorkerType =
      (state.manager.workers server2).getWorkerType at equalTypes
    rcases entered entry with ⟨-, rfl⟩ | before
    · rcases entered entry2 with ⟨-, rfl⟩ | before2
      · rfl
      · exact (alone key2 server2 before2 (equalTypes.symm.trans sameType)).symm
    · rcases entered entry2 with ⟨-, rfl⟩ | before2
      · exact alone key server before (equalTypes.trans sameType)
      · exact shaped.filed.single key key2 server server2 before before2
          equalTypes
  · intro call stage busy
    cases busy
    trivial

theorem ask (shaped : Shaped state requested) {call : SourceCall}
    {worker : Nat} (busy : state.current = some (call, .ask worker)) :
    Shaped ⟨(state.manager.proceed os maxWorkers call (.ask worker)).1,
        (state.manager.proceed os maxWorkers call
          (.ask worker)).2.getLeft?.map fun stage => (call, stage)⟩
      requested := by
  have sound : (CallStage.assign worker).Sound state.manager call.workerType :=
    shaped.stage call (.ask worker) busy
  cases called : (state.manager.runtime worker).addSource os call.srcId
    call.ip call.port with
  | mk accepted runtime =>
      have stepped : (state.manager.runtime worker).step os
          (.addSource call.srcId call.ip call.port) =
            .ok (runtime, .added accepted) := by
        rw [Runtime.step, called]
      have keeps := Manager.Keeps.called stepped
      have shrinks : state.manager.Shrinks (state.manager.put worker runtime) :=
        ⟨fun _ _ mapped => mapped, fun _ _ entry => entry⟩
      cases accepted with
      | false =>
          have asked : state.manager.proceed os maxWorkers call (.ask worker) =
              (state.manager.put worker runtime,
                .inr (.returned (-1) (some worker))) := by
            simp [Manager.proceed, called]
          rw [asked]
          refine shaped.shrink keeps shrinks ?_
          rintro _ _ ⟨⟩
      | true =>
          have asked : state.manager.proceed os maxWorkers call (.ask worker) =
              (state.manager.put worker runtime, .inl (.assign worker)) := by
            simp [Manager.proceed, called]
          rw [asked]
          refine shaped.shrink keeps shrinks ?_
          rintro _ _ ⟨⟩
          exact sound.shrink shaped.filed keeps shrinks

theorem proceed (shaped : Shaped state requested) {call : SourceCall}
    {stage : CallStage} (busy : state.current = some (call, stage)) :
    Shaped ⟨(state.manager.proceed os maxWorkers call stage).1,
        (state.manager.proceed os maxWorkers call stage).2.getLeft?.map
          fun stage => (call, stage)⟩
      (requestedTypes.update requested .proceed (.passed call stage
        (state.manager.proceed os maxWorkers call stage).2)) := by
  have sound := shaped.stage call stage busy
  have unchanged {current : Option (SourceCall × CallStage)}
      (stage : ∀ call stage, current = some (call, stage) →
        stage.Sound state.manager call.workerType) :
      Shaped ⟨state.manager, current⟩ requested :=
    shaped.shrink (.of_workers rfl rfl) ⟨fun _ _ mapped => mapped,
      fun _ _ entry => entry⟩ stage
  cases stage with
  | searchPort =>
      unfold Manager.proceed
      cases found : state.manager.searchPort call.port call.workerType with
      | some worker =>
          apply unchanged
          rintro _ _ ⟨⟩
          exact shaped.filed.sound_ask (Manager.searchPort_found found)
      | none =>
          apply unchanged
          rintro _ _ ⟨⟩
          trivial
  | searchType =>
      unfold Manager.proceed
      cases found : state.manager.getWorkerByType call.workerType with
      | some worker =>
          apply unchanged
          rintro _ _ ⟨⟩
          exact shaped.filed.sound_ask (Manager.getWorkerByType_found found)
      | none =>
          apply unchanged
          rintro _ _ ⟨⟩
          exact fun key worker => Manager.getWorkerByType_none found
  | create =>
      unfold Manager.proceed
      cases supported : WorkerKind.ofType call.workerType with
      | none =>
          apply unchanged
          rintro _ _ ⟨⟩
      | some kind =>
          have keeps := Manager.Keeps.create state.manager kind
          refine shaped.shrink keeps ⟨fun _ _ mapped => mapped,
            fun _ _ entry => entry⟩ ?_
          rintro _ _ ⟨⟩
          refine ⟨Nat.lt_succ_self _, ?_, ?_⟩
          · rw [Manager.create_workers, update_self]
            exact WorkerKind.workerType_of_ofType supported
          · intro key other entry otherType
            rw [keeps.workerType (shaped.filed.pool key other entry)]
              at otherType
            exact absurd otherType (sound key other entry)
  | ask worker => exact shaped.ask busy
  | assign worker => exact shaped.assign sound
  | file worker => exact shaped.file sound
  | advance worker =>
      refine shaped.shrink (.of_workers rfl rfl) ⟨fun _ _ mapped => mapped,
        fun _ _ entry => entry⟩ ?_
      rintro _ _ ⟨⟩

theorem step (shaped : Shaped state requested) {next : Interleaved}
    {event : InterleavedEvent} {output : InterleavedOutput}
    (step : InterleavedStep os maxWorkers state next output) :
    Shaped next (requestedTypes.update requested event output) := by
  cases step with
  | waited same =>
      subst same
      exact shaped
  | called call idle begun =>
      subst begun
      refine shaped.shrink (.of_workers rfl rfl) ⟨fun _ _ mapped => mapped,
        fun _ _ entry => entry⟩ ?_
      rintro _ _ ⟨⟩
      trivial
  | ran other stepped kept => exact shaped.ran other stepped kept
  | passed call stage busy proceeded follows =>
      obtain ⟨manager, current⟩ := next
      subst proceeded follows
      exact shaped.proceed busy

end Shaped

/-- The pool files every worker under its identifier and never has two workers
of one type, and a source is served by a worker of the type requested for it,
wherever turns of the handler fall. -/
theorem tableShape {os : Os} {maxWorkers : Int} {kernel : Kernel}
    {state : Interleaved} {requested : Table Int Int}
    (run : (interleavedMachine os maxWorkers).Run requestedTypes
      (fun _ _ _ => True) (Interleaved.start kernel) state requested) :
    (∀ key worker, state.manager.workerIdWorker.lookup key = some worker →
      (state.manager.workers worker).workerId = key) ∧
    (∀ key key2 worker worker2, key ≠ key2 →
      state.manager.workerIdWorker.lookup key = some worker →
      state.manager.workerIdWorker.lookup key2 = some worker2 →
      (state.manager.workers worker).getWorkerType ≠
        (state.manager.workers worker2).getWorkerType) ∧
    ∀ srcId worker, state.manager.srcIdWorker.lookup srcId = some worker →
      requested.lookup srcId =
        some (state.manager.workers worker).getWorkerType := by
  have shaped : Shaped state requested := by
    refine run.invariant (Shaped.start kernel) ?_
    intro state next requested event output shaped _ stepped
    exact shaped.step (.of_step stepped)
  refine ⟨shaped.filed.keys, ?_, shaped.types⟩
  intro key key2 worker worker2 different entry entry2 sameType
  obtain rfl := shaped.filed.single key key2 worker worker2 entry entry2
    sameType
  have keyOf := shaped.filed.keys key worker entry
  have key2Of := shaped.filed.keys key2 worker entry2
  exact different (keyOf.symm.trans key2Of)

/-- The handler erases a worker that a call in progress has found, and the call
files it again. -/
theorem tableShape_refiled :
    ∃ state requested,
      (interleavedMachine .orderly 4).Run requestedTypes (fun _ _ _ => True)
        (Interleaved.start .fresh) state requested ∧
      state.manager.workerIdWorker.lookup 0 = some 0 ∧
      (state.manager.workers 0).workerId = 0 := by
  have run : (interleavedMachine .orderly 4).Run requestedTypes
      (fun _ _ _ => True) (Interleaved.start .fresh) _ _ :=
    .of_replay [.event (.addSource 1 1 1 5000), .proceed, .proceed, .proceed,
      .proceed, .proceed, .proceed, .proceed, .event (.removeSource 1),
      .event (.addSource 1 2 1 5002), .proceed, .proceed,
      .event .handleMessage, .proceed, .proceed, .proceed, .proceed] (by decide)
  exact ⟨_, _, run, rfl, (tableShape run).1 0 0 rfl⟩

end StrManager
