import StrManager.Library.Machine
import StrManager.Worker.Ports
import StrManager.Worker.Streams

namespace StrManager

open Library Function

/-! The worker object and the operations every worker class inherits. -/

structure Message where
  type : Int
  sender : Int
  body : String
  deriving DecidableEq, Repr

inductive WorkerKind where
  | forward
  | stats
  | rtcp
  deriving DecidableEq, Repr

def WorkerKind.workerType : WorkerKind → Int
  | .forward => 1
  | .stats => 2
  | .rtcp => 4

structure Worker where
  kind : WorkerKind
  workerId : Int
  working : Bool
  ports : PortTables
  streams : StreamTables
  /-- Counted by a `StatsWorker` only. -/
  inputBytes : Int

namespace Worker

def create (kind : WorkerKind) (workerId : Int) : Worker where
  kind := kind
  workerId := workerId
  working := true
  ports := PortTables.empty
  streams := StreamTables.empty
  inputBytes := 0

def getWorkerType (worker : Worker) : Int := worker.kind.workerType

def hasPort (worker : Worker) (port : Int) : Bool :=
  (worker.ports.portFd.lookup port).isSome

end Worker

structure Runtime where
  kernel : Kernel
  worker : Worker

namespace Runtime

def sockets (runtime : Runtime) : SocketState :=
  ⟨runtime.kernel, runtime.worker.ports⟩

def withSockets (runtime : Runtime) (sockets : SocketState) : Runtime where
  kernel := sockets.kernel
  worker := { runtime.worker with ports := sockets.ports }

def withStreams (runtime : Runtime) (streams : StreamTables) : Runtime :=
  { runtime with worker := { runtime.worker with streams := streams } }

def stop (runtime : Runtime) : Runtime :=
  { runtime with worker := { runtime.worker with working := false } }

def SameWorker (before after : Runtime) : Prop :=
  after.worker.kind = before.worker.kind ∧
    after.worker.workerId = before.worker.workerId

/-- At most the tables of lists and routes differ. -/
structure StreamsOnly (before after : Runtime) : Prop where
  sockets : after.sockets = before.sockets
  sameWorker : before.SameWorker after
  working : after.worker.working = before.worker.working

theorem withStreams_streamsOnly (runtime : Runtime) (streams : StreamTables) :
    runtime.StreamsOnly (runtime.withStreams streams) :=
  ⟨rfl, ⟨rfl, rfl⟩, rfl⟩

end Runtime

/-- Reading a member through a `shared_ptr` to a list. -/
def derefList (list : Option StreamList) : Except Fault StreamList :=
  match list with
  | none => .error .nullStreamList
  | some list => .ok list

@[simp] theorem derefList_none : derefList none = .error .nullStreamList := rfl

@[simp] theorem derefList_some (list : StreamList) :
    derefList (some list) = .ok list := rfl

theorem derefList_eq_ok {list : Option StreamList} {read : StreamList}
    (result : derefList list = .ok read) : list = some read := by
  cases list with
  | none => cases result
  | some list =>
      cases result
      rfl

namespace Worker

/-- `addSource` of the classes with one list per source, which differ in the
class of the list they create. -/
def addSourceWith (newList : Kernel → Int → UdpStream → StreamList) (os : Os)
    (runtime : Runtime) (srcId : Int) (ip : InAddr) (port : Int) :
    Bool × Runtime :=
  let udpstream := UdpStream.create srcId ip port
  let streamlist := newList runtime.kernel srcId udpstream
  let (known, streams) := runtime.worker.streams.getListIdBySocket udpstream.addr
  let runtime := runtime.withStreams streams
  if known ≠ 0 then
    (false, runtime)
  else
    let (ret, sockets) := SocketState.addSocket os runtime.sockets port
    let runtime := runtime.withSockets sockets
    if ret ≠ -1 then
      (true, runtime.withStreams
        (runtime.worker.streams.addStreamList srcId streamlist))
    else
      (false, runtime)

def addSource (os : Os) (runtime : Runtime) (srcId : Int) (ip : InAddr)
    (port : Int) : Bool × Runtime :=
  addSourceWith (fun _ => StreamList.create) os runtime srcId ip port

def idleMessage (worker : Worker) : Message where
  type := 100
  sender := worker.workerId
  body := "WORKER DOESN'T HAVE ANY JOB TO PERFORM"

/-- `Worker::removeSource`, with the messages it queues. -/
def removeSource (runtime : Runtime) (srcId : Int) :
    Except Fault (Runtime × List Message) := do
  let (list, streams) := runtime.worker.streams.getStreamList srcId
  let list ← derefList list
  let runtime := runtime.withStreams streams
  let (_, sockets) := runtime.sockets.removeSocket list.getSourcePort
  let runtime := runtime.withSockets sockets
  let streams ← runtime.worker.streams.removeStreamList srcId
  let runtime := runtime.withStreams streams
  if runtime.worker.streams.isEmpty then
    return (runtime.stop, [runtime.worker.idleMessage])
  else
    return (runtime, [])

def addDestination (runtime : Runtime) (srcId destId : Int) (ip : InAddr)
    (port : Int) : Except Fault Runtime := do
  let udpstream := UdpStream.create destId ip port
  let (list, streams) := runtime.worker.streams.getStreamList srcId
  let list ← derefList list
  let (added, list) := list.addDestination udpstream
  if added then
    return runtime.withStreams (streams.addStreamList srcId list)
  else
    return runtime.withStreams streams

def removeDestination (runtime : Runtime) (srcId destId : Int) :
    Except Fault Runtime := do
  let (list, streams) := runtime.worker.streams.getStreamList srcId
  let list ← derefList list
  if list.existDestination destId then
    let (_, list) ← list.remDestination destId
    return runtime.withStreams (streams.addStreamList srcId list)
  else
    return runtime.withStreams streams

def readTimeStamp (runtime : Runtime) (srcId : Int) :
    Except Fault (Runtime × Option Int) := do
  let (list, streams) := runtime.worker.streams.getStreamList srcId
  let list ← derefList list
  return (runtime.withStreams streams, list.timeStamp)

/-! What each operation can do. -/

theorem readTimeStamp_cases (runtime : Runtime) (srcId : Int) :
    (runtime.worker.streams.lists srcId = none ∧
      readTimeStamp runtime srcId = .error .nullStreamList) ∨
    ∃ list next, runtime.worker.streams.lists srcId = some list ∧
      readTimeStamp runtime srcId = .ok (next, list.timeStamp) ∧
      runtime.StreamsOnly next ∧
      next.worker.streams.lists = runtime.worker.streams.lists ∧
      next.worker.streams.routes = runtime.worker.streams.routes := by
  cases found : runtime.worker.streams.lists srcId with
  | none =>
      left
      refine ⟨rfl, ?_⟩
      simp [readTimeStamp, found, bind, Except.bind]
  | some list =>
      right
      refine ⟨list, runtime.withStreams
        (runtime.worker.streams.getStreamList srcId).2, rfl, ?_,
        Runtime.withStreams_streamsOnly _ _,
        StreamTables.lists_getStreamList _ _, rfl⟩
      simp [readTimeStamp, found, bind, Except.bind, pure, Except.pure]

theorem readTimeStamp_kept {runtime next : Runtime} {srcId : Int}
    {timeStamp : Option Int}
    (called : readTimeStamp runtime srcId = .ok (next, timeStamp)) :
    runtime.StreamsOnly next ∧
      next.worker.streams.lists = runtime.worker.streams.lists ∧
      next.worker.streams.routes = runtime.worker.streams.routes := by
  rcases readTimeStamp_cases runtime srcId with
    ⟨-, faulted⟩ | ⟨list, after, -, result, kept⟩
  · rw [faulted] at called
    cases called
  · rw [result] at called
    cases called
    exact kept

theorem addSourceWith_cases (newList : Kernel → Int → UdpStream → StreamList)
    (os : Os) (runtime : Runtime) (srcId : Int) (ip : InAddr) (port : Int)
    {accepted : Bool} {next : Runtime}
    (called : addSourceWith newList os runtime srcId ip port =
      (accepted, next)) :
    (runtime.worker.streams.routes (SockAddr.ofPort ip port) ≠ 0 ∧
      accepted = false ∧
      next.sockets = runtime.sockets ∧
      next.worker.streams.lists = runtime.worker.streams.lists ∧
      next.worker.streams.routes = runtime.worker.streams.routes) ∨
    (runtime.worker.streams.routes (SockAddr.ofPort ip port) = 0 ∧
      (SocketState.addSocket os runtime.sockets port).1 = -1 ∧
      accepted = false ∧
      next.sockets = (SocketState.addSocket os runtime.sockets port).2 ∧
      next.worker.streams.lists = runtime.worker.streams.lists ∧
      next.worker.streams.routes = runtime.worker.streams.routes) ∨
    (runtime.worker.streams.routes (SockAddr.ofPort ip port) = 0 ∧
      (SocketState.addSocket os runtime.sockets port).1 ≠ -1 ∧
      accepted = true ∧
      next.sockets = (SocketState.addSocket os runtime.sockets port).2 ∧
      next.worker.streams.lists =
        update runtime.worker.streams.lists srcId
          (some (newList runtime.kernel srcId
            (UdpStream.create srcId ip port))) ∧
      next.worker.streams.routes =
        update runtime.worker.streams.routes
          (newList runtime.kernel srcId
            (UdpStream.create srcId ip port)).getSourceSockAddr srcId) := by
  unfold addSourceWith at called
  simp only [StreamTables.getListIdBySocket_fst] at called
  change (if runtime.worker.streams.routes (SockAddr.ofPort ip port) ≠ 0 then _
    else if (SocketState.addSocket os runtime.sockets port).1 ≠ -1 then _
    else _) = _ at called
  rcases eq_or_ne (runtime.worker.streams.routes (SockAddr.ofPort ip port)) 0
    with free | routed
  · rw [if_neg (not_not.mpr free)] at called
    rcases eq_or_ne (SocketState.addSocket os runtime.sockets port).1 (-1)
      with failed | opened
    · rw [if_neg (not_not.mpr failed)] at called
      cases called
      exact .inr (.inl ⟨free, failed, rfl, rfl, rfl,
        StreamTables.routes_getListIdBySocket _ _⟩)
    · rw [if_pos opened] at called
      cases called
      refine .inr (.inr ⟨free, opened, rfl, rfl,
        StreamTables.lists_addStreamList _ _ _, ?_⟩)
      refine (StreamTables.routes_addStreamList _ _ _).trans ?_
      congr 1
      exact StreamTables.routes_getListIdBySocket _ _
  · rw [if_pos routed] at called
    cases called
    exact .inl ⟨routed, rfl, rfl, rfl,
      StreamTables.routes_getListIdBySocket _ _⟩

theorem addSourceWith_sameWorker
    (newList : Kernel → Int → UdpStream → StreamList) (os : Os)
    (runtime : Runtime) (srcId : Int) (ip : InAddr) (port : Int) :
    let next := (addSourceWith newList os runtime srcId ip port).2
    runtime.SameWorker next ∧
      next.worker.working = runtime.worker.working := by
  simp only [addSourceWith]
  split
  · exact ⟨⟨rfl, rfl⟩, rfl⟩
  · split <;> exact ⟨⟨rfl, rfl⟩, rfl⟩

theorem removeSource_eq (runtime : Runtime) (srcId : Int) :
    removeSource runtime srcId = (do
      let list ← derefList (runtime.worker.streams.lists srcId)
      let closed := (runtime.withStreams
          (runtime.worker.streams.getStreamList srcId).2).withSockets
        (runtime.sockets.removeSocket list.getSourcePort).2
      let streams ← closed.worker.streams.removeStreamList srcId
      let removed := closed.withStreams streams
      if streams.isEmpty then
        return (removed.stop, [removed.worker.idleMessage])
      else
        return (removed, [])) := rfl

theorem removeSource_cases (runtime : Runtime) (srcId : Int) :
    (runtime.worker.streams.lists srcId = none ∧
      removeSource runtime srcId = .error .nullStreamList) ∨
    ∃ list next messages,
      runtime.worker.streams.lists srcId = some list ∧
      removeSource runtime srcId = .ok (next, messages) ∧
      next.sockets =
        (runtime.sockets.removeSocket list.getSourcePort).2 ∧
      next.worker.streams.lists =
        update runtime.worker.streams.lists srcId none ∧
      next.worker.streams.routes =
        update runtime.worker.streams.routes list.getSourceSockAddr 0 ∧
      runtime.SameWorker next ∧
      ((next.worker.streams.isEmpty = true ∧ next.worker.working = false ∧
          messages = [runtime.worker.idleMessage]) ∨
        (next.worker.streams.isEmpty = false ∧
          next.worker.working = runtime.worker.working ∧
          messages = [])) := by
  cases found : runtime.worker.streams.lists srcId with
  | none =>
      left
      refine ⟨rfl, ?_⟩
      simp [removeSource, found, bind, Except.bind]
  | some list =>
      right
      let looked := runtime.withStreams
        (runtime.worker.streams.getStreamList srcId).2
      let closed := looked.withSockets
        (looked.sockets.removeSocket list.getSourcePort).2
      have closedLists : closed.worker.streams.lists =
          runtime.worker.streams.lists :=
        StreamTables.lists_getStreamList _ _
      have closedRoutes : closed.worker.streams.routes =
          runtime.worker.streams.routes := rfl
      rcases StreamTables.removeStreamList_cases closed.worker.streams srcId
        with ⟨missing, -⟩ | ⟨stored, removed, storedFound, removes, lists, routes⟩
      · rw [closedLists, found] at missing
        cases missing
      rw [closedLists, found] at storedFound
      cases storedFound
      have called : removeSource runtime srcId =
          if (closed.withStreams removed).worker.streams.isEmpty then
            .ok ((closed.withStreams removed).stop,
              [(closed.withStreams removed).worker.idleMessage])
          else .ok (closed.withStreams removed, []) := by
        rw [removeSource_eq, found]
        change Except.bind (closed.worker.streams.removeStreamList srcId) _ = _
        rw [removes]
        rfl
      rw [closedLists] at lists
      rw [closedRoutes] at routes
      cases empty : removed.isEmpty with
      | true =>
          refine ⟨list, (closed.withStreams removed).stop,
            [runtime.worker.idleMessage], rfl, ?_, rfl, lists, routes,
            ⟨rfl, rfl⟩, .inl ⟨empty, rfl, rfl⟩⟩
          rw [called]
          exact if_pos empty
      | false =>
          refine ⟨list, closed.withStreams removed, [], rfl, ?_, rfl, lists,
            routes, ⟨rfl, rfl⟩, .inr ⟨empty, rfl, rfl⟩⟩
          rw [called]
          exact if_neg (by
            change ¬ removed.isEmpty = true
            rw [empty]
            simp)

/-- A removal leaves no entry under the identifier, not even a null one, and
every other entry as it is. -/
theorem removeSource_management {runtime next : Runtime} {srcId : Int}
    {messages : List Message}
    (called : removeSource runtime srcId = .ok (next, messages)) :
    next.worker.streams.management =
      runtime.worker.streams.management.erase srcId := by
  rw [removeSource_eq] at called
  cases found : runtime.worker.streams.lists srcId with
  | none => simp [found, bind, Except.bind] at called
  | some list =>
      have touched := Table.touch_of_lookup none
        (StreamTables.lookup_of_lists found)
      have removes : StreamTables.removeStreamList
          (runtime.worker.streams.getStreamList srcId).2 srcId =
          .ok { management := runtime.worker.streams.management.erase srcId
                forwarding := runtime.worker.streams.forwarding.erase
                  list.getSourceSockAddr } := by
        simp only [StreamTables.removeStreamList,
          StreamTables.lists_getStreamList, found]
        simp only [StreamTables.getStreamList, touched]
      rw [found] at called
      change Except.bind (StreamTables.removeStreamList
        (runtime.worker.streams.getStreamList srcId).2 srcId) _ = _ at called
      rw [removes] at called
      change (if _ then Except.ok _ else Except.ok _) = _ at called
      split at called <;> (cases called; rfl)

structure DestinationStep (runtime next : Runtime) (srcId : Int)
    (before after : StreamList) : Prop where
  streamsOnly : runtime.StreamsOnly next
  found : runtime.worker.streams.lists srcId = some before
  lists : next.worker.streams.lists =
    update runtime.worker.streams.lists srcId (some after)
  routes : next.worker.streams.routes = runtime.worker.streams.routes ∨
    next.worker.streams.routes =
      update runtime.worker.streams.routes before.getSourceSockAddr srcId
  source : after.source = before.source
  counters : after.counters = before.counters

theorem addDestination_cases (runtime : Runtime) (srcId destId : Int)
    (ip : InAddr) (port : Int) :
    (runtime.worker.streams.lists srcId = none ∧
      addDestination runtime srcId destId ip port =
        .error .nullStreamList) ∨
    ∃ list next,
      addDestination runtime srcId destId ip port = .ok next ∧
      DestinationStep runtime next srcId list
        (list.addDestination (UdpStream.create destId ip port)).2 := by
  cases found : runtime.worker.streams.lists srcId with
  | none =>
      left
      refine ⟨rfl, ?_⟩
      simp [addDestination, found, bind, Except.bind]
  | some list =>
      right
      let stream := UdpStream.create destId ip port
      have source := StreamList.addDestination_source list stream
      have counters := StreamList.addDestination_counters list stream
      cases added : (list.addDestination stream).1 with
      | true =>
          refine ⟨list, runtime.withStreams
            ((runtime.worker.streams.getStreamList srcId).2.addStreamList srcId
              (list.addDestination stream).2), ?_, ?_⟩
          · unfold addDestination
            simp only [StreamTables.getStreamList_fst, found, derefList_some,
              bind, Except.bind, pure, Except.pure]
            exact if_pos added
          · refine ⟨Runtime.withStreams_streamsOnly _ _, found, ?_, .inr ?_, source,
              counters⟩
            · change (StreamTables.addStreamList _ _ _).lists = _
              simp [stream]
            · change (StreamTables.addStreamList _ _ _).routes = _
              simp [StreamList.getSourceSockAddr, source]
      | false =>
          refine ⟨list, runtime.withStreams
            (runtime.worker.streams.getStreamList srcId).2, ?_, ?_⟩
          · unfold addDestination
            simp only [StreamTables.getStreamList_fst, found, derefList_some,
              bind, Except.bind, pure, Except.pure]
            exact if_neg (by
              change ¬ (list.addDestination stream).1 = true
              rw [added]
              simp)
          · refine ⟨Runtime.withStreams_streamsOnly _ _, found, ?_, .inl rfl, source,
              counters⟩
            change (StreamTables.getStreamList _ _).2.lists = _
            rw [StreamTables.lists_getStreamList,
              StreamList.addDestination_rejected added, ← found,
              update_eq_self]

theorem addDestination_ok {runtime next : Runtime} {srcId destId : Int}
    {ip : InAddr} {port : Int}
    (called : addDestination runtime srcId destId ip port = .ok next) :
    ∃ list, runtime.worker.streams.lists srcId = some list ∧
      (next = runtime.withStreams
          (runtime.worker.streams.getStreamList srcId).2 ∨
        next = runtime.withStreams
          ((runtime.worker.streams.getStreamList srcId).2.addStreamList srcId
            (list.addDestination (UdpStream.create destId ip port)).2)) := by
  obtain ⟨list, found, ended⟩ := bind_eq_ok called
  refine ⟨list, derefList_eq_ok found, ?_⟩
  dsimp only at ended
  split at ended
  · cases ended
    exact .inr rfl
  · cases ended
    exact .inl rfl

theorem removeDestination_ok {runtime next : Runtime} {srcId destId : Int}
    (called : removeDestination runtime srcId destId = .ok next) :
    ∃ list, runtime.worker.streams.lists srcId = some list ∧
      (next = runtime.withStreams
          (runtime.worker.streams.getStreamList srcId).2 ∨
        next = runtime.withStreams
          ((runtime.worker.streams.getStreamList srcId).2.addStreamList srcId
            (list.eraseFound destId))) := by
  obtain ⟨list, found, ended⟩ := bind_eq_ok called
  refine ⟨list, derefList_eq_ok found, ?_⟩
  cases known : list.existDestination destId with
  | false =>
      simp only [known, Bool.false_eq_true, if_false] at ended
      cases ended
      exact .inl rfl
  | true =>
      simp only [known, if_true, StreamList.remDestination_of_exists known]
        at ended
      cases ended
      exact .inr rfl

theorem removeDestination_cases (runtime : Runtime) (srcId destId : Int) :
    (runtime.worker.streams.lists srcId = none ∧
      removeDestination runtime srcId destId = .error .nullStreamList) ∨
    ∃ list after next,
      removeDestination runtime srcId destId = .ok next ∧
      DestinationStep runtime next srcId list after ∧
      (list.Keyed → after = { list with
        destinations :=
          list.destinations.filter fun stream => stream.id != destId }) := by
  cases found : runtime.worker.streams.lists srcId with
  | none =>
      left
      refine ⟨rfl, ?_⟩
      simp [removeDestination, found, bind, Except.bind]
  | some list =>
      right
      cases known : list.existDestination destId with
      | true =>
          refine ⟨list, list.eraseFound destId, runtime.withStreams
            ((runtime.worker.streams.getStreamList srcId).2.addStreamList srcId
              (list.eraseFound destId)), ?_, ?_, ?_⟩
          · unfold removeDestination
            simp only [StreamTables.getStreamList_fst, found, derefList_some,
              known, StreamList.remDestination_of_exists known,
              bind, Except.bind, pure, Except.pure]
            rfl
          · refine ⟨Runtime.withStreams_streamsOnly _ _, found, ?_, .inr ?_, rfl,
              rfl⟩
            · change (StreamTables.addStreamList _ _ _).lists = _
              simp
            · change (StreamTables.addStreamList _ _ _).routes = _
              simp [StreamList.getSourceSockAddr, StreamList.eraseFound]
          · intro keyed
            exact keyed.eraseFound_eq destId
      | false =>
          refine ⟨list, list, runtime.withStreams
            (runtime.worker.streams.getStreamList srcId).2, ?_, ?_, ?_⟩
          · unfold removeDestination
            simp only [StreamTables.getStreamList_fst, found, derefList_some,
              known, bind, Except.bind, pure, Except.pure]
            rfl
          · refine ⟨Runtime.withStreams_streamsOnly _ _, found, ?_, .inl rfl, rfl,
              rfl⟩
            change (StreamTables.getStreamList _ _).2.lists = _
            rw [StreamTables.lists_getStreamList, ← found, update_eq_self]
          · intro _
            rw [StreamList.filter_of_not_exists known]

theorem DestinationStep.of_addDestination {runtime next : Runtime}
    {srcId destId : Int} {ip : InAddr} {port : Int}
    (called : addDestination runtime srcId destId ip port = .ok next) :
    ∃ list, DestinationStep runtime next srcId list
      (list.addDestination (UdpStream.create destId ip port)).2 := by
  rcases addDestination_cases runtime srcId destId ip port with
    ⟨-, faulted⟩ | ⟨list, after, added, changed⟩
  · rw [faulted] at called
    cases called
  · rw [added] at called
    cases called
    exact ⟨list, changed⟩

theorem DestinationStep.of_removeDestination {runtime next : Runtime}
    {srcId destId : Int}
    (called : removeDestination runtime srcId destId = .ok next) :
    ∃ list after, DestinationStep runtime next srcId list after ∧
      (list.Keyed → after = { list with
        destinations :=
          list.destinations.filter fun stream => stream.id != destId }) := by
  rcases removeDestination_cases runtime srcId destId with
    ⟨-, faulted⟩ | ⟨list, after, result, removed, changed, filtered⟩
  · rw [faulted] at called
    cases called
  · rw [removed] at called
    cases called
    exact ⟨list, after, changed, filtered⟩

end Worker

end StrManager
