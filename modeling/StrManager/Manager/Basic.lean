import StrManager.Rtcp.Lists
import StrManager.Worker.Routing

namespace StrManager

open Library Function

/-! The manager: a pool of workers, the tables that say which worker serves a
source and which workers may take new ones, and the queue of messages from the
workers to the manager. -/

def WorkerKind.ofType (workerType : Int) : Option WorkerKind :=
  if workerType = 1 then some .forward
  else if workerType = 4 then some .rtcp
  else if workerType = 2 then some .stats
  else none

theorem WorkerKind.workerType_of_ofType {workerType : Int} {kind : WorkerKind}
    (supported : WorkerKind.ofType workerType = some kind) :
    kind.workerType = workerType := by
  unfold WorkerKind.ofType at supported
  split at supported
  · cases supported
    exact Eq.symm ‹workerType = 1›
  · split at supported
    · cases supported
      exact Eq.symm ‹workerType = 4›
    · split at supported
      · cases supported
        exact Eq.symm ‹workerType = 2›
      · cases supported

theorem WorkerKind.ofType_workerType (kind : WorkerKind) :
    WorkerKind.ofType kind.workerType = some kind := by
  cases kind <;> rfl

/-- The worker takes a source with this address: it has no list for it, and
the ports can be opened. -/
def Runtime.CanAdd (os : Os) (runtime : Runtime) (ip : InAddr) (port : Int) :
    Prop :=
  match runtime.worker.kind with
  | .forward | .stats =>
      runtime.worker.streams.routes (SockAddr.ofPort ip port) = 0 ∧
        SocketState.CanOpen os runtime.sockets port
  | .rtcp =>
      runtime.worker.streams.routes (SockAddr.ofPort ip port) = 0 ∧
        runtime.worker.streams.routes (SockAddr.ofPort ip (port + 1)) = 0 ∧
        RtcpWorker.CanOpenPair os runtime.sockets port

theorem Runtime.canAdd_of_rtcp {os : Os} {runtime : Runtime}
    (rtcp : runtime.worker.kind = .rtcp) (ip : InAddr) (port : Int) :
    runtime.CanAdd os ip port ↔
      runtime.worker.streams.routes (SockAddr.ofPort ip port) = 0 ∧
        runtime.worker.streams.routes (SockAddr.ofPort ip (port + 1)) = 0 ∧
        (RtcpWorker.addSocketPair os runtime.sockets port).1 = true := by
  rw [CanAdd, rtcp, RtcpWorker.addSocketPair_opens_iff]

theorem Runtime.canAdd_of_plain {os : Os} {runtime : Runtime}
    (plain : runtime.worker.kind ≠ .rtcp) (ip : InAddr) (port : Int) :
    runtime.CanAdd os ip port ↔
      runtime.worker.streams.routes (SockAddr.ofPort ip port) = 0 ∧
        (SocketState.addSocket os runtime.sockets port).1 ≠ -1 := by
  rw [CanAdd, SocketState.addSocket_opens_iff]
  cases kind : runtime.worker.kind with
  | forward => rfl
  | stats => rfl
  | rtcp => exact absurd kind plain

instance (runtime : Runtime) : Decidable (runtime.CanAdd os ip port) :=
  if rtcp : runtime.worker.kind = .rtcp then
    decidable_of_iff _ (Runtime.canAdd_of_rtcp rtcp ip port).symm
  else
    decidable_of_iff _ (Runtime.canAdd_of_plain rtcp ip port).symm

theorem Runtime.canAdd_iff {os : Os} {runtime next : Runtime} {srcId : Int}
    {ip : InAddr} {port : Int} {accepted : Bool}
    (called : runtime.step os (.addSource srcId ip port) =
      .ok (next, .added accepted)) :
    accepted = true ↔ runtime.CanAdd os ip port := by
  rcases eq_or_ne runtime.worker.kind .rtcp with rtcp | plain
  · rw [canAdd_of_rtcp rtcp]
    cases RtcpStep.of_step rtcp called with
    | rejected routed => grind
    | refused free free2 failed => grind
    | added free free2 opened => grind
  · rw [canAdd_of_plain plain]
    cases PlainStep.of_step plain called with
    | rejected routed => simp [routed]
    | refused free failed => simp [failed]
    | added list free opened => simp [free, opened]

theorem Runtime.step_addSource {os : Os} {runtime next : Runtime}
    {srcId : Int} {ip : InAddr} {port : Int} {accepted : Bool}
    (called : runtime.step os (.addSource srcId ip port) =
      .ok (next, .added accepted)) :
    runtime.SameWorker next ∧ next.worker.working = runtime.worker.working := by
  have same := Runtime.addSource_sameWorker os runtime srcId ip port
  cases called
  exact same

/-- A `Manager` with the process around it. Workers are never deleted; the first
`allocated` places of `workers` are in use, and a place stands for a pointer
to the object there. -/
structure Manager where
  kernel : Kernel
  workers : Nat → Worker
  allocated : Nat
  currentWorkerId : Int
  srcIdWorker : Table Int Nat
  workerIdWorker : Table Int Nat
  queue : List Message

inductive ManagerEvent where
  | addSource (workerType srcId : Int) (ip : InAddr) (port : Int)
  | removeSource (srcId : Int)
  | addDestination (srcId destId : Int) (ip : InAddr) (port : Int)
  | removeDestination (srcId destId : Int)
  | readTimeStamp (srcId : Int)
  | handleMessage
  | packet (worker : Nat) (fd : Int) (received : Received)
  | selectTimeout (worker : Nat)
  | elapse (seconds : Nat)

/-- What an event returns; for a call also the worker that served it. -/
inductive ManagerOutput where
  | returned (code : Int) (worker : Option Nat)
  | time (timeStamp : Option Int) (worker : Option Nat)
  | sent (transmissions : List Transmission)
  | quiet

namespace Manager

def start (kernel : Kernel) : Manager where
  kernel := kernel
  workers := fun _ => Worker.create .forward (-1)
  allocated := 0
  currentWorkerId := 0
  srcIdWorker := ∅
  workerIdWorker := ∅
  queue := []

def runtime (manager : Manager) (worker : Nat) : Runtime :=
  ⟨manager.kernel, manager.workers worker⟩

def put (manager : Manager) (worker : Nat) (runtime : Runtime) : Manager :=
  { manager with
    kernel := runtime.kernel
    workers := update manager.workers worker runtime.worker }

def getWorkerByType (manager : Manager) (workerType : Int) : Option Nat :=
  (manager.workerIdWorker.entries.find? fun entry =>
    (manager.workers entry.2).getWorkerType == workerType).map Sigma.snd

def getWorkerByPortType (manager : Manager) (port workerType : Int) :
    Option Nat :=
  match manager.workerIdWorker.entries.find? fun entry =>
      (manager.workers entry.2).hasPort port &&
        (manager.workers entry.2).getWorkerType == workerType with
  | some entry => some entry.2
  | none => manager.getWorkerByType workerType

def create (manager : Manager) (kind : WorkerKind) : Manager :=
  { manager with
    workers := update manager.workers manager.allocated
      (Worker.create kind manager.currentWorkerId)
    allocated := manager.allocated + 1 }

def getWorker (manager : Manager) (workerType port : Int) :
    Option Nat × Manager :=
  match manager.getWorkerByPortType port workerType with
  | some worker => (some worker, manager)
  | none =>
      match WorkerKind.ofType workerType with
      | none => (none, manager)
      | some kind => (some manager.allocated, manager.create kind)

def commit (maxWorkers : Int) (manager : Manager) (srcId : Int) (worker : Nat) :
    Manager :=
  let next := manager.currentWorkerId + 1
  { manager with
    srcIdWorker := manager.srcIdWorker.insert srcId worker
    workerIdWorker := manager.workerIdWorker.insert
      (manager.workers worker).workerId worker
    currentWorkerId := if next ≥ maxWorkers then 0 else next }

def addSource (os : Os) (maxWorkers : Int) (manager : Manager)
    (workerType srcId : Int) (ip : InAddr) (port : Int) :
    Manager × ManagerOutput :=
  match manager.getWorker workerType port with
  | (none, manager) => (manager, .returned (-1) none)
  | (some worker, manager) =>
      let (accepted, runtime) :=
        (manager.runtime worker).addSource os srcId ip port
      let manager := manager.put worker runtime
      if accepted then
        (manager.commit maxWorkers srcId worker, .returned 0 (some worker))
      else
        (manager, .returned (-1) (some worker))

def removeSource (manager : Manager) (srcId : Int) :
    Except Fault (Manager × ManagerOutput) :=
  match manager.srcIdWorker.lookup srcId with
  | none => .ok (manager, .returned (-1) none)
  | some worker => do
      let manager :=
        { manager with srcIdWorker := manager.srcIdWorker.erase srcId }
      let (runtime, messages) ← (manager.runtime worker).removeSource srcId
      let manager := manager.put worker runtime
      return ({ manager with queue := manager.queue ++ messages },
        .returned 0 (some worker))

def addDestination (manager : Manager) (srcId destId : Int) (ip : InAddr)
    (port : Int) : Except Fault (Manager × ManagerOutput) :=
  match manager.srcIdWorker.lookup srcId with
  | none => .ok (manager, .returned (-1) none)
  | some worker => do
      let runtime ← (manager.runtime worker).addDestination srcId destId ip port
      return (manager.put worker runtime, .returned 0 (some worker))

def removeDestination (manager : Manager) (srcId destId : Int) :
    Except Fault (Manager × ManagerOutput) :=
  match manager.srcIdWorker.lookup srcId with
  | none => .ok (manager, .returned (-1) none)
  | some worker => do
      let runtime ← (manager.runtime worker).removeDestination srcId destId
      return (manager.put worker runtime, .returned 0 (some worker))

/-- `Manager::readTimeStamp` answers the clock for an unknown source. -/
def readTimeStamp (manager : Manager) (srcId : Int) :
    Except Fault (Manager × ManagerOutput) :=
  match manager.srcIdWorker.lookup srcId with
  | none => .ok (manager, .time (some manager.kernel.clock) none)
  | some worker => do
      let (runtime, timeStamp) ←
        Worker.readTimeStamp (manager.runtime worker) srcId
      return (manager.put worker runtime, .time timeStamp (some worker))

/-- One turn of `messageHandler`, which waits while the queue is empty. -/
def handleMessage (manager : Manager) : Manager :=
  match manager.queue with
  | [] => manager
  | message :: rest =>
      { manager with
        workerIdWorker :=
          if message.type = 100 then
            manager.workerIdWorker.erase message.sender
          else manager.workerIdWorker
        queue := rest }

theorem handleMessage_kept (manager : Manager) :
    manager.handleMessage.workers = manager.workers ∧
      manager.handleMessage.allocated = manager.allocated ∧
      manager.handleMessage.srcIdWorker = manager.srcIdWorker := by
  unfold handleMessage
  split <;> exact ⟨rfl, rfl, rfl⟩

def selectTimeout (manager : Manager) (worker : Nat) : Manager :=
  { manager with
    queue := manager.queue ++
      [⟨0, (manager.workers worker).workerId, "NOTHING TO DO"⟩] }

def step (os : Os) (maxWorkers : Int) (manager : Manager) :
    ManagerEvent → Except Fault (Manager × ManagerOutput)
  | .addSource workerType srcId ip port =>
      .ok (manager.addSource os maxWorkers workerType srcId ip port)
  | .removeSource srcId => manager.removeSource srcId
  | .addDestination srcId destId ip port =>
      manager.addDestination srcId destId ip port
  | .removeDestination srcId destId => manager.removeDestination srcId destId
  | .readTimeStamp srcId => manager.readTimeStamp srcId
  | .handleMessage => .ok (manager.handleMessage, .quiet)
  | .packet worker fd received =>
      let (runtime, transmissions) :=
        (manager.runtime worker).process fd received
      .ok (manager.put worker runtime, .sent transmissions)
  | .selectTimeout worker => .ok (manager.selectTimeout worker, .quiet)
  | .elapse seconds =>
      .ok ({ manager with kernel := { manager.kernel with
        clock := manager.kernel.clock + seconds } }, .quiet)

@[simp] theorem put_workers (manager : Manager) (worker : Nat)
    (runtime : Runtime) :
    (manager.put worker runtime).workers =
      update manager.workers worker runtime.worker := rfl

@[simp] theorem create_workers (manager : Manager) (kind : WorkerKind) :
    (manager.create kind).workers = update manager.workers manager.allocated
      (Worker.create kind manager.currentWorkerId) := rfl

/-! What one step of the manager can do. -/

/-- `getWorker` finds a worker of the type in the pool, or creates one when
the pool has none. -/
inductive Chosen (manager : Manager) (workerType : Int) : Nat → Manager → Prop
  | found {worker : Nat} (key : Int)
      (entry : manager.workerIdWorker.lookup key = some worker)
      (sameType : (manager.workers worker).getWorkerType = workerType) :
      Chosen manager workerType worker manager
  | created (kind : WorkerKind)
      (absent : ∀ key worker, manager.workerIdWorker.lookup key = some worker →
        (manager.workers worker).getWorkerType ≠ workerType)
      (supported : WorkerKind.ofType workerType = some kind) :
      Chosen manager workerType manager.allocated (manager.create kind)

theorem getWorkerByType_found {manager : Manager} {workerType : Int}
    {worker : Nat} (found : manager.getWorkerByType workerType = some worker) :
    ∃ key, manager.workerIdWorker.lookup key = some worker ∧
      (manager.workers worker).getWorkerType = workerType := by
  obtain ⟨entry, search, rfl⟩ := Option.map_eq_some_iff.mp found
  have member := List.mem_of_find?_eq_some search
  have passes := List.find?_some search
  rw [beq_iff_eq] at passes
  exact ⟨entry.1, (Table.mem_entries_iff _ _ _).mp member, passes⟩

theorem getWorkerByType_none {manager : Manager} {workerType : Int}
    (missing : manager.getWorkerByType workerType = none)
    {key : Int} {worker : Nat}
    (entry : manager.workerIdWorker.lookup key = some worker) :
    (manager.workers worker).getWorkerType ≠ workerType := by
  have search := Option.map_eq_none_iff.mp missing
  have fails := List.find?_eq_none.mp search ⟨key, worker⟩
    ((Table.mem_entries_iff _ _ _).mpr entry)
  simpa using fails

theorem getWorkerByPortType_found {manager : Manager} {port workerType : Int}
    {worker : Nat}
    (found : manager.getWorkerByPortType port workerType = some worker) :
    ∃ key, manager.workerIdWorker.lookup key = some worker ∧
      (manager.workers worker).getWorkerType = workerType := by
  unfold getWorkerByPortType at found
  split at found
  · rename_i entry search
    cases found
    have member := List.mem_of_find?_eq_some search
    have passes := List.find?_some search
    rw [Bool.and_eq_true, beq_iff_eq] at passes
    exact ⟨entry.1, (Table.mem_entries_iff _ _ _).mp member, passes.2⟩
  · exact getWorkerByType_found found

theorem getWorkerByPortType_none {manager : Manager} {port workerType : Int}
    (missing : manager.getWorkerByPortType port workerType = none)
    {key : Int} {worker : Nat}
    (entry : manager.workerIdWorker.lookup key = some worker) :
    (manager.workers worker).getWorkerType ≠ workerType := by
  unfold getWorkerByPortType at missing
  split at missing
  · cases missing
  · exact getWorkerByType_none missing entry

theorem getWorker_cases (manager : Manager) (workerType port : Int) :
    (manager.getWorker workerType port = (none, manager) ∧
      WorkerKind.ofType workerType = none) ∨
    ∃ worker middle,
      manager.getWorker workerType port = (some worker, middle) ∧
      Chosen manager workerType worker middle := by
  unfold getWorker
  cases search : manager.getWorkerByPortType port workerType with
  | some worker =>
      obtain ⟨key, entry, sameType⟩ := getWorkerByPortType_found search
      exact .inr ⟨worker, manager, rfl, .found key entry sameType⟩
  | none =>
      cases supported : WorkerKind.ofType workerType with
      | none => exact .inl ⟨rfl, rfl⟩
      | some kind =>
          exact .inr ⟨manager.allocated, manager.create kind, rfl,
            .created kind (fun key worker => getWorkerByPortType_none search)
              supported⟩

end Manager

def managerMachine (os : Os) (maxWorkers : Int) :
    Machine Manager ManagerEvent ManagerOutput Fault where
  step := Manager.step os maxWorkers

def ManagerEvent.destinationCall : ManagerEvent → Option (Int × WorkerEvent)
  | .addDestination srcId destId ip port =>
      some (srcId, .addDestination srcId destId ip port)
  | .removeDestination srcId destId =>
      some (srcId, .removeDestination srcId destId)
  | _ => none

theorem ManagerEvent.destinationCall_cases {event : ManagerEvent}
    {srcId : Int} {call : WorkerEvent}
    (calls : event.destinationCall = some (srcId, call)) :
    (∃ destId ip port, event = .addDestination srcId destId ip port ∧
        call = .addDestination srcId destId ip port) ∨
      ∃ destId, event = .removeDestination srcId destId ∧
        call = .removeDestination srcId destId := by
  unfold destinationCall at calls
  split at calls
  · cases calls
    exact .inl ⟨_, _, _, rfl, rfl⟩
  · cases calls
    exact .inr ⟨_, rfl, rfl⟩
  · cases calls

def ManagerEvent.guarded : ManagerEvent → Option Int
  | .removeSource srcId | .addDestination srcId _ _ _
  | .removeDestination srcId _ | .readTimeStamp srcId => some srcId
  | _ => none

inductive ManagerStep (os : Os) (maxWorkers : Int) (manager next : Manager) :
    ManagerEvent → ManagerOutput → Prop
  | unsupported {workerType srcId : Int} {ip : InAddr} {port : Int}
      (unknownType : WorkerKind.ofType workerType = none)
      (same : next = manager) :
      ManagerStep os maxWorkers manager next
        (.addSource workerType srcId ip port) (.returned (-1) none)
  | rejected {workerType srcId : Int} {ip : InAddr} {port : Int}
      {worker : Nat} (middle : Manager) (runtime : Runtime)
      (chosen : manager.Chosen workerType worker middle)
      (called : (middle.runtime worker).step os (.addSource srcId ip port) =
        .ok (runtime, .added false))
      (put : next = middle.put worker runtime) :
      ManagerStep os maxWorkers manager next
        (.addSource workerType srcId ip port) (.returned (-1) (some worker))
  | accepted {workerType srcId : Int} {ip : InAddr} {port : Int}
      {worker : Nat} (middle : Manager) (runtime : Runtime)
      (chosen : manager.Chosen workerType worker middle)
      (called : (middle.runtime worker).step os (.addSource srcId ip port) =
        .ok (runtime, .added true))
      (committed : next =
        (middle.put worker runtime).commit maxWorkers srcId worker) :
      ManagerStep os maxWorkers manager next
        (.addSource workerType srcId ip port) (.returned 0 (some worker))
  | unknown {event : ManagerEvent} {output : ManagerOutput} {srcId : Int}
      (names : event.guarded = some srcId)
      (missing : manager.srcIdWorker.lookup srcId = none)
      (same : next = manager)
      (unserved : ∀ code worker, output ≠ .returned code (some worker)) :
      ManagerStep os maxWorkers manager next event output
  | removed {srcId : Int} {worker : Nat} (runtime : Runtime)
      (messages : List Message)
      (mapped : manager.srcIdWorker.lookup srcId = some worker)
      (called : (manager.runtime worker).removeSource srcId =
        .ok (runtime, messages))
      (put : next = { manager.put worker runtime with
        srcIdWorker := manager.srcIdWorker.erase srcId
        queue := manager.queue ++ messages }) :
      ManagerStep os maxWorkers manager next (.removeSource srcId)
        (.returned 0 (some worker))
  | destination {event : ManagerEvent} {srcId : Int} {call : WorkerEvent}
      {worker : Nat} (runtime : Runtime)
      (calls : event.destinationCall = some (srcId, call))
      (mapped : manager.srcIdWorker.lookup srcId = some worker)
      (called : (manager.runtime worker).step os call = .ok (runtime, .done))
      (put : next = manager.put worker runtime) :
      ManagerStep os maxWorkers manager next event (.returned 0 (some worker))
  | read {srcId : Int} {worker : Nat} {timeStamp : Option Int}
      (runtime : Runtime)
      (mapped : manager.srcIdWorker.lookup srcId = some worker)
      (called : Worker.readTimeStamp (manager.runtime worker) srcId =
        .ok (runtime, timeStamp))
      (put : next = manager.put worker runtime) :
      ManagerStep os maxWorkers manager next (.readTimeStamp srcId)
        (.time timeStamp (some worker))
  | handled (same : next = manager.handleMessage) :
      ManagerStep os maxWorkers manager next .handleMessage .quiet
  | packet {worker : Nat} {fd : Int} {received : Received}
      (put : next = manager.put worker
        ((manager.runtime worker).process fd received).1) :
      ManagerStep os maxWorkers manager next (.packet worker fd received)
        (.sent ((manager.runtime worker).process fd received).2)
  | timedOut {worker : Nat} (same : next = manager.selectTimeout worker) :
      ManagerStep os maxWorkers manager next (.selectTimeout worker) .quiet
  | elapsed {seconds : Nat}
      (same : next = { manager with kernel := { manager.kernel with
        clock := manager.kernel.clock + seconds } }) :
      ManagerStep os maxWorkers manager next (.elapse seconds) .quiet

theorem ManagerStep.of_step {os : Os} {maxWorkers : Int} {manager next : Manager}
    {event : ManagerEvent} {output : ManagerOutput}
    (stepped : manager.step os maxWorkers event = .ok (next, output)) :
    ManagerStep os maxWorkers manager next event output := by
  cases event with
  | addSource workerType srcId ip port =>
      simp only [Manager.step, Manager.addSource] at stepped
      rcases manager.getWorker_cases workerType port with
        ⟨search, unknownType⟩ | ⟨worker, middle, search, chosen⟩
      · rw [search] at stepped
        cases stepped
        exact .unsupported unknownType rfl
      · simp only [search] at stepped
        cases called : (middle.runtime worker).addSource os srcId ip port with
        | mk accepted runtime =>
            have step : (middle.runtime worker).step os
                (.addSource srcId ip port) = .ok (runtime, .added accepted) := by
              rw [Runtime.step, called]
            rw [called] at stepped
            cases accepted with
            | true =>
                cases stepped
                exact .accepted middle runtime chosen step rfl
            | false =>
                cases stepped
                exact .rejected middle runtime chosen step rfl
  | removeSource srcId =>
      simp only [Manager.step, Manager.removeSource] at stepped
      split at stepped
      · cases stepped
        exact .unknown rfl ‹_› rfl (by simp)
      · rename_i worker mapped
        obtain ⟨⟨runtime, messages⟩, called, ended⟩ := bind_eq_ok stepped
        cases ended
        exact .removed runtime messages mapped called rfl
  | addDestination srcId destId ip port =>
      simp only [Manager.step, Manager.addDestination] at stepped
      split at stepped
      · cases stepped
        exact .unknown rfl ‹_› rfl (by simp)
      · rename_i worker mapped
        obtain ⟨runtime, called, ended⟩ := bind_eq_ok stepped
        cases ended
        have step : (manager.runtime worker).step os
            (.addDestination srcId destId ip port) = .ok (runtime, .done) := by
          rw [Runtime.step, called]
          rfl
        exact .destination runtime rfl mapped step rfl
  | removeDestination srcId destId =>
      simp only [Manager.step, Manager.removeDestination] at stepped
      split at stepped
      · cases stepped
        exact .unknown rfl ‹_› rfl (by simp)
      · rename_i worker mapped
        obtain ⟨runtime, called, ended⟩ := bind_eq_ok stepped
        cases ended
        have step : (manager.runtime worker).step os
            (.removeDestination srcId destId) = .ok (runtime, .done) := by
          rw [Runtime.step, called]
          rfl
        exact .destination runtime rfl mapped step rfl
  | readTimeStamp srcId =>
      simp only [Manager.step, Manager.readTimeStamp] at stepped
      split at stepped
      · cases stepped
        exact .unknown rfl ‹_› rfl (by simp)
      · rename_i worker mapped
        obtain ⟨⟨runtime, timeStamp⟩, called, ended⟩ := bind_eq_ok stepped
        cases ended
        exact .read runtime mapped called rfl
  | handleMessage =>
      cases stepped
      exact .handled rfl
  | packet worker fd received =>
      cases stepped
      exact .packet rfl
  | selectTimeout worker =>
      cases stepped
      exact .timedOut rfl
  | elapse seconds =>
      cases stepped
      exact .elapsed rfl

end StrManager
