import StrManager.Worker.Events

namespace StrManager

open Library Function

/-! Moving destinations between the lists of a worker, and the simulation
between a `StatsWorker` and a `ForwardWorker`. -/

namespace Worker

/-- `Worker::conmuteStreamList`. Both pointers lead to one object when the
identifiers are equal, so the list to clear is read again. -/
def conmuteStreamList (runtime : Runtime) (fromId toId : Int) :
    Except Fault Runtime := do
  let (a, streams) := runtime.worker.streams.getStreamList fromId
  let (b, streams) := streams.getStreamList toId
  let a ← derefList a
  let b ← derefList b
  let streams := streams.modifyList toId (b.setDestinations a.destinations)
  let (a, streams) := streams.getStreamList fromId
  let a ← derefList a
  return runtime.withStreams (streams.modifyList fromId a.clearDestinations)

/-- `Worker::conmuteUdpStream`, which leaves the first list as it is. -/
def conmuteUdpStream (runtime : Runtime) (id fromId toId : Int) :
    Except Fault Runtime := do
  let (a, streams) := runtime.worker.streams.getStreamList fromId
  let (b, streams) := streams.getStreamList toId
  let a ← derefList a
  let stream ← a.getDestination id
  let b ← derefList b
  let (_, b) ← b.addDestinationPointer stream
  return runtime.withStreams (streams.modifyList toId b)

end Worker

inductive ConmuteEvent where
  | call (event : WorkerEvent)
  | conmuteStreamList (fromId toId : Int)
  | conmuteUdpStream (id fromId toId : Int)

def Runtime.conmuteStep (os : Os) (runtime : Runtime) :
    ConmuteEvent → Except Fault (Runtime × WorkerOutput)
  | .call event => runtime.step os event
  | .conmuteStreamList fromId toId => do
      let next ← Worker.conmuteStreamList runtime fromId toId
      return (next, .done)
  | .conmuteUdpStream id fromId toId => do
      let next ← Worker.conmuteUdpStream runtime id fromId toId
      return (next, .done)

def conmuteMachine (os : Os) :
    Machine Runtime ConmuteEvent WorkerOutput Fault where
  step := Runtime.conmuteStep os

/-! Lists that differ in their class, their time stamp and their counters. -/

structure StreamList.Mirrors (list mirror : StreamList) : Prop where
  listId : mirror.listId = list.listId
  source : mirror.source = list.source
  destinations : mirror.destinations = list.destinations
  stats : mirror.counters.isSome = true

namespace StreamList.Mirrors

variable {list mirror : StreamList}

theorem existDestination (mirrors : list.Mirrors mirror) (id : Int) :
    mirror.existDestination id = list.existDestination id := by
  simp [StreamList.existDestination, mirrors.destinations]

theorem findDestination (mirrors : list.Mirrors mirror) (id : Int) :
    mirror.findDestination id = list.findDestination id := by
  simp [StreamList.findDestination, mirrors.destinations]

theorem setDestinations (mirrors : list.Mirrors mirror)
    (destinations : List UdpStream) :
    (list.setDestinations destinations).Mirrors
      (mirror.setDestinations destinations) :=
  ⟨mirrors.listId, mirrors.source, rfl, mirrors.stats⟩

theorem addDestination (mirrors : list.Mirrors mirror) (stream : UdpStream) :
    (mirror.addDestination stream).1 = (list.addDestination stream).1 ∧
      (list.addDestination stream).2.Mirrors
        (mirror.addDestination stream).2 := by
  unfold StreamList.addDestination
  rw [mirrors.existDestination]
  cases list.existDestination stream.id with
  | true => exact ⟨rfl, mirrors⟩
  | false =>
      exact ⟨rfl, mirrors.listId, mirrors.source,
        congrArg (· ++ [stream]) mirrors.destinations, mirrors.stats⟩

theorem eraseFound (mirrors : list.Mirrors mirror) (id : Int) :
    (list.eraseFound id).Mirrors (mirror.eraseFound id) where
  listId := mirrors.listId
  source := mirrors.source
  destinations := by
    unfold StreamList.eraseFound
    rw [mirrors.findDestination, mirrors.destinations]
  stats := mirrors.stats

theorem getDestination (mirrors : list.Mirrors mirror) (id : Int) :
    mirror.getDestination id = list.getDestination id := by
  unfold StreamList.getDestination
  rw [mirrors.findDestination, mirrors.destinations]

theorem remDestination (mirrors : list.Mirrors mirror) (id : Int) :
    Alike (fun result other =>
        other.1 = result.1 ∧ result.2.Mirrors other.2)
      (list.remDestination id) (mirror.remDestination id) := by
  unfold StreamList.remDestination
  rw [mirrors.findDestination, mirrors.destinations]
  cases list.destinations[list.findDestination id]? with
  | none => exact .error _
  | some stream =>
      dsimp only
      split
      · exact .ok ⟨rfl, mirrors.eraseFound id⟩
      · exact .ok ⟨rfl, mirrors⟩

theorem addDestinationPointer (mirrors : list.Mirrors mirror)
    (stream : Option UdpStream) :
    Alike (fun result other =>
        other.1 = result.1 ∧ result.2.Mirrors other.2)
      (list.addDestinationPointer stream)
      (mirror.addDestinationPointer stream) := by
  cases stream with
  | none => exact .error _
  | some stream => exact .ok (mirrors.addDestination stream)

end StreamList.Mirrors

structure StreamTables.Mirrors (tables mirror : StreamTables) : Prop where
  forwarding : mirror.forwarding = tables.forwarding
  management : ∀ listId, Option.Rel (Option.Rel StreamList.Mirrors)
    (tables.management.lookup listId) (mirror.management.lookup listId)

namespace StreamTables.Mirrors

variable {tables mirror : StreamTables}

theorem of_empty : empty.Mirrors empty where
  forwarding := rfl
  management := fun _ => .none

theorem routes (mirrors : tables.Mirrors mirror) :
    mirror.routes = tables.routes := by
  unfold StreamTables.routes
  rw [mirrors.forwarding]

theorem lists (mirrors : tables.Mirrors mirror) (listId : Int) :
    Option.Rel StreamList.Mirrors (tables.lists listId)
      (mirror.lists listId) := by
  have entries := mirrors.management listId
  unfold StreamTables.lists Table.subscript
  generalize tables.management.lookup listId = entry at entries
  generalize mirror.management.lookup listId = mirrorEntry at entries
  cases entries with
  | none => exact .none
  | some related => exact related

theorem deref (mirrors : tables.Mirrors mirror) (listId : Int) :
    Alike StreamList.Mirrors (derefList (tables.lists listId))
      (derefList (mirror.lists listId)) := by
  have related := mirrors.lists listId
  generalize tables.lists listId = list at related
  generalize mirror.lists listId = mirrorList at related
  cases related with
  | none => exact .error _
  | some mirrored => exact .ok mirrored

theorem getStreamList (mirrors : tables.Mirrors mirror) (listId : Int) :
    (tables.getStreamList listId).2.Mirrors
      (mirror.getStreamList listId).2 where
  forwarding := mirrors.forwarding
  management := by
    intro other
    change Option.Rel _ ((tables.management.touch none listId).lookup other)
      ((mirror.management.touch none listId).lookup other)
    rw [Table.lookup_touch, Table.lookup_touch]
    split
    · exact .some (mirrors.lists listId)
    · exact mirrors.management other

theorem getListIdBySocket (mirrors : tables.Mirrors mirror)
    (addr : SockAddr) :
    (tables.getListIdBySocket addr).2.Mirrors
      (mirror.getListIdBySocket addr).2 where
  forwarding := by
    change mirror.forwarding.touch 0 addr = tables.forwarding.touch 0 addr
    rw [mirrors.forwarding]
  management := mirrors.management

theorem getStreamListBySocket (mirrors : tables.Mirrors mirror)
    (addr : SockAddr) :
    (tables.getStreamListBySocket addr).2.Mirrors
      (mirror.getStreamListBySocket addr).2 := by
  change ((tables.getListIdBySocket addr).2.getStreamList
      (tables.routes addr)).2.Mirrors
    ((mirror.getListIdBySocket addr).2.getStreamList (mirror.routes addr)).2
  rw [mirrors.routes]
  exact (mirrors.getListIdBySocket addr).getStreamList _

theorem modifyList (mirrors : tables.Mirrors mirror) (listId : Int)
    {list mirrorList : StreamList} (mirrored : list.Mirrors mirrorList) :
    (tables.modifyList listId list).Mirrors
      (mirror.modifyList listId mirrorList) where
  forwarding := mirrors.forwarding
  management := by
    intro other
    change Option.Rel _ ((tables.management.insert listId _).lookup other)
      ((mirror.management.insert listId _).lookup other)
    rw [Table.lookup_insert, Table.lookup_insert]
    split
    · exact .some (.some mirrored)
    · exact mirrors.management other

theorem addStreamList (mirrors : tables.Mirrors mirror) (listId : Int)
    {list mirrorList : StreamList} (mirrored : list.Mirrors mirrorList) :
    (tables.addStreamList listId list).Mirrors
      (mirror.addStreamList listId mirrorList) where
  forwarding := by
    change mirror.forwarding.insert mirrorList.source.addr listId =
      tables.forwarding.insert list.source.addr listId
    rw [mirrors.forwarding, mirrored.source]
  management := (mirrors.modifyList listId mirrored).management

theorem removeStreamList (mirrors : tables.Mirrors mirror) (listId : Int) :
    Alike StreamTables.Mirrors (tables.removeStreamList listId)
      (mirror.removeStreamList listId) := by
  unfold StreamTables.removeStreamList
  have related := mirrors.lists listId
  generalize tables.lists listId = list at related
  generalize mirror.lists listId = mirrorList at related
  cases related with
  | none => exact .error _
  | @some list mirrorList mirrored =>
      refine .ok ⟨?_, ?_⟩
      · change mirror.forwarding.erase mirrorList.source.addr =
          tables.forwarding.erase list.source.addr
        rw [mirrors.forwarding, mirrored.source]
      · intro other
        change Option.Rel _ ((tables.management.erase listId).lookup other)
          ((mirror.management.erase listId).lookup other)
        rw [Table.lookup_erase, Table.lookup_erase]
        split
        · exact .none
        · exact mirrors.management other

theorem isEmpty (mirrors : tables.Mirrors mirror) :
    mirror.isEmpty = tables.isEmpty := by
  rw [Bool.eq_iff_iff, StreamTables.isEmpty_iff, StreamTables.isEmpty_iff]
  refine forall_congr' fun listId => ?_
  have entries := mirrors.management listId
  generalize tables.management.lookup listId = entry at entries
  generalize mirror.management.lookup listId = mirrorEntry at entries
  cases entries with
  | none => exact Iff.rfl
  | some related => exact iff_of_false (by simp) (by simp)

end StreamTables.Mirrors

/-! A forward worker and a stats worker in the same state. -/

structure Runtime.Mirrors (runtime mirror : Runtime) : Prop where
  forward : runtime.worker.kind = .forward
  stats : mirror.worker.kind = .stats
  sockets : mirror.sockets = runtime.sockets
  workerId : mirror.worker.workerId = runtime.worker.workerId
  working : mirror.worker.working = runtime.worker.working
  streams : runtime.worker.streams.Mirrors mirror.worker.streams

namespace Runtime.Mirrors

variable {runtime mirror : Runtime}

theorem withStreams (mirrors : runtime.Mirrors mirror)
    {streams mirrorStreams : StreamTables}
    (related : streams.Mirrors mirrorStreams) :
    (runtime.withStreams streams).Mirrors
      (mirror.withStreams mirrorStreams) :=
  ⟨mirrors.forward, mirrors.stats, mirrors.sockets, mirrors.workerId,
    mirrors.working, related⟩

theorem withSockets (mirrors : runtime.Mirrors mirror)
    (sockets : SocketState) :
    (runtime.withSockets sockets).Mirrors (mirror.withSockets sockets) :=
  ⟨mirrors.forward, mirrors.stats, rfl, mirrors.workerId, mirrors.working,
    mirrors.streams⟩

theorem stop (mirrors : runtime.Mirrors mirror) :
    runtime.stop.Mirrors mirror.stop :=
  ⟨mirrors.forward, mirrors.stats, mirrors.sockets, mirrors.workerId, rfl,
    mirrors.streams⟩

theorem idleMessage (mirrors : runtime.Mirrors mirror) :
    mirror.worker.idleMessage = runtime.worker.idleMessage := by
  unfold Worker.idleMessage
  rw [mirrors.workerId]

theorem kernel (mirrors : runtime.Mirrors mirror) :
    mirror.kernel = runtime.kernel :=
  congrArg SocketState.kernel mirrors.sockets

theorem ports (mirrors : runtime.Mirrors mirror) :
    mirror.worker.ports = runtime.worker.ports :=
  congrArg SocketState.ports mirrors.sockets


theorem addSource (mirrors : runtime.Mirrors mirror) (os : Os) (srcId : Int)
    (ip : InAddr) (port : Int) :
    (StatsWorker.addSource os mirror srcId ip port).1 =
        (Worker.addSource os runtime srcId ip port).1 ∧
      (Worker.addSource os runtime srcId ip port).2.Mirrors
        (StatsWorker.addSource os mirror srcId ip port).2 := by
  have looked := mirrors.withStreams
    (mirrors.streams.getListIdBySocket (UdpStream.create srcId ip port).addr)
  unfold StatsWorker.addSource Worker.addSource Worker.addSourceWith
  simp only [StreamTables.getListIdBySocket_fst, mirrors.streams.routes,
    looked.sockets]
  split
  · exact ⟨rfl, looked⟩
  · have called := looked.withSockets (SocketState.addSocket os
      (runtime.withStreams (runtime.worker.streams.getListIdBySocket
        (UdpStream.create srcId ip port).addr).2).sockets port).2
    split
    · refine ⟨rfl, called.withStreams (called.streams.addStreamList srcId ?_)⟩
      exact ⟨rfl, rfl, rfl, rfl⟩
    · exact ⟨rfl, called⟩

theorem removeSource (mirrors : runtime.Mirrors mirror) (srcId : Int) :
    Alike (fun result other => result.1.Mirrors other.1 ∧ other.2 = result.2)
      (Worker.removeSource runtime srcId)
      (Worker.removeSource mirror srcId) := by
  have looked := mirrors.withStreams (mirrors.streams.getStreamList srcId)
  rw [Worker.removeSource_eq, Worker.removeSource_eq]
  apply Alike.bind (mirrors.streams.deref srcId)
  intro list mirrorList mirrored
  have port : mirrorList.getSourcePort = list.getSourcePort := by
    simp [StreamList.getSourcePort, mirrored.source]
  rw [mirrors.sockets, port]
  have closed := looked.withSockets
    (runtime.sockets.removeSocket list.getSourcePort).2
  apply Alike.bind (closed.streams.removeStreamList srcId)
  intro streams mirrorStreams related
  have removed := closed.withStreams related
  rw [related.isEmpty]
  split
  · exact .ok ⟨removed.stop, congrArg (fun message => [message])
      removed.idleMessage⟩
  · exact .ok ⟨removed, rfl⟩

theorem addDestination (mirrors : runtime.Mirrors mirror)
    (srcId destId : Int) (ip : InAddr) (port : Int) :
    Alike Runtime.Mirrors (Worker.addDestination runtime srcId destId ip port)
      (Worker.addDestination mirror srcId destId ip port) := by
  have looked := mirrors.streams.getStreamList srcId
  apply Alike.bind (mirrors.streams.deref srcId)
  intro list mirrorList mirrored
  obtain ⟨same, related⟩ :=
    mirrored.addDestination (UdpStream.create destId ip port)
  simp only [same]
  split
  · exact .ok (mirrors.withStreams (looked.addStreamList srcId related))
  · exact .ok (mirrors.withStreams looked)

theorem removeDestination (mirrors : runtime.Mirrors mirror)
    (srcId destId : Int) :
    Alike Runtime.Mirrors (Worker.removeDestination runtime srcId destId)
      (Worker.removeDestination mirror srcId destId) := by
  have looked := mirrors.streams.getStreamList srcId
  apply Alike.bind (mirrors.streams.deref srcId)
  intro list mirrorList mirrored
  rw [mirrored.existDestination]
  split
  · apply Alike.bind (mirrored.remDestination destId)
    intro removed mirrorRemoved related
    exact .ok (mirrors.withStreams (looked.addStreamList srcId related.2))
  · exact .ok (mirrors.withStreams looked)

theorem conmuteStreamList (mirrors : runtime.Mirrors mirror)
    (fromId toId : Int) :
    Alike Runtime.Mirrors (Worker.conmuteStreamList runtime fromId toId)
      (Worker.conmuteStreamList mirror fromId toId) := by
  have looked := (mirrors.streams.getStreamList fromId).getStreamList toId
  apply Alike.bind (mirrors.streams.deref fromId)
  intro a mirrorA mirroredA
  apply Alike.bind ((mirrors.streams.getStreamList fromId).deref toId)
  intro b mirrorB mirroredB
  rw [mirroredA.destinations]
  have given := looked.modifyList toId
    (mirroredB.setDestinations a.destinations)
  apply Alike.bind (given.deref fromId)
  intro emptied mirrorEmptied related
  exact .ok (mirrors.withStreams ((given.getStreamList fromId).modifyList fromId
    (related.setDestinations [])))

theorem conmuteUdpStream (mirrors : runtime.Mirrors mirror)
    (id fromId toId : Int) :
    Alike Runtime.Mirrors (Worker.conmuteUdpStream runtime id fromId toId)
      (Worker.conmuteUdpStream mirror id fromId toId) := by
  have looked := (mirrors.streams.getStreamList fromId).getStreamList toId
  apply Alike.bind (mirrors.streams.deref fromId)
  intro a mirrorA mirroredA
  rw [mirroredA.getDestination]
  apply Alike.bind (Alike.same _)
  intro stream mirrorStream equal
  subst equal
  apply Alike.bind ((mirrors.streams.getStreamList fromId).deref toId)
  intro b mirrorB mirroredB
  apply Alike.bind (mirroredB.addDestinationPointer mirrorStream)
  intro added mirrorAdded related
  exact .ok (mirrors.withStreams (looked.modifyList toId related.2))

/-- The cast to `StatsStreamList` never fails, so no packet is dropped that a
forward worker would send on. -/
theorem process (mirrors : runtime.Mirrors mirror) (fd : Int)
    (received : Received) :
    (StatsWorker.process mirror fd received).2 =
        (ForwardWorker.process runtime fd received).2 ∧
      (ForwardWorker.process runtime fd received).1.Mirrors
        (StatsWorker.process mirror fd received).1 := by
  have looked := mirrors.streams.getStreamListBySocket
    (runtime.worker.lookupAddr fd received)
  have addr : mirror.worker.lookupAddr fd received =
      runtime.worker.lookupAddr fd received := by
    simp [Worker.lookupAddr, mirrors.ports]
  unfold StatsWorker.process ForwardWorker.process Worker.processWith
  simp only [StreamTables.getStreamListBySocket_fst, addr,
    mirrors.streams.routes, mirrors.ports, mirrors.kernel]
  split
  · have related := mirrors.streams.lists (runtime.worker.streams.routes
      (runtime.worker.lookupAddr fd received))
    generalize runtime.worker.streams.lists _ = list at related
    generalize mirror.worker.streams.lists _ = mirrorList at related
    cases related with
    | none =>
        exact ⟨rfl, mirrors.forward, mirrors.stats, rfl, mirrors.workerId,
          mirrors.working, looked⟩
    | @some list mirrorList mirrored =>
        obtain ⟨counters, counted⟩ := Option.isSome_iff_exists.mp mirrored.stats
        simp only [StatsWorker.notes, ForwardWorker.notes, counted,
          Option.map_some]
        refine ⟨?_, mirrors.forward, mirrors.stats, rfl, mirrors.workerId,
          mirrors.working, looked.modifyList _ ?_⟩
        · simp [Worker.sendAll, mirrored.destinations]
        · exact ⟨mirrored.listId, mirrored.source, mirrored.destinations, rfl⟩
  · exact ⟨rfl, mirrors⟩

theorem elapse (mirrors : runtime.Mirrors mirror) (seconds : Nat) :
    (runtime.elapse seconds).Mirrors (mirror.elapse seconds) where
  forward := mirrors.forward
  stats := mirrors.stats
  sockets := by
    unfold Runtime.elapse Runtime.sockets
    rw [mirrors.kernel, mirrors.ports]
  workerId := mirrors.workerId
  working := mirrors.working
  streams := mirrors.streams

end Runtime.Mirrors

def SameAnswer (result other : Runtime × WorkerOutput) : Prop :=
  result.1.Mirrors other.1 ∧ other.2 = result.2

theorem Runtime.Mirrors.step {runtime mirror : Runtime}
    (mirrors : runtime.Mirrors mirror) (os : Os) (event : WorkerEvent) :
    Alike SameAnswer (runtime.step os event) (mirror.step os event) := by
  cases event with
  | addSource srcId ip port =>
      have called := mirrors.addSource os srcId ip port
      unfold Runtime.step Runtime.addSource
      rw [mirrors.forward, mirrors.stats]
      exact .ok ⟨called.2, congrArg WorkerOutput.added called.1⟩
  | removeSource srcId =>
      unfold Runtime.step Runtime.removeSource
      rw [mirrors.forward, mirrors.stats]
      apply Alike.bind (mirrors.removeSource srcId)
      intro result other same
      exact .ok ⟨same.1, congrArg WorkerOutput.removed same.2⟩
  | addDestination srcId destId ip port =>
      unfold Runtime.step Runtime.addDestination
      rw [mirrors.forward, mirrors.stats]
      apply Alike.bind (mirrors.addDestination srcId destId ip port)
      intro next other related
      exact .ok ⟨related, rfl⟩
  | removeDestination srcId destId =>
      unfold Runtime.step Runtime.removeDestination
      rw [mirrors.forward, mirrors.stats]
      apply Alike.bind (mirrors.removeDestination srcId destId)
      intro next other related
      exact .ok ⟨related, rfl⟩
  | packet fd received =>
      have called := mirrors.process fd received
      unfold Runtime.step Runtime.process
      rw [mirrors.forward, mirrors.stats]
      exact .ok ⟨called.2, congrArg WorkerOutput.sent called.1⟩
  | elapse seconds => exact .ok ⟨mirrors.elapse seconds, rfl⟩

theorem Runtime.Mirrors.conmuteStep {runtime mirror : Runtime}
    (mirrors : runtime.Mirrors mirror) (os : Os) (event : ConmuteEvent) :
    Alike SameAnswer (runtime.conmuteStep os event)
      (mirror.conmuteStep os event) := by
  cases event with
  | call event => exact mirrors.step os event
  | conmuteStreamList fromId toId =>
      apply Alike.bind (mirrors.conmuteStreamList fromId toId)
      intro next other related
      exact .ok ⟨related, rfl⟩
  | conmuteUdpStream id fromId toId =>
      apply Alike.bind (mirrors.conmuteUdpStream id fromId toId)
      intro next other related
      exact .ok ⟨related, rfl⟩

theorem Runtime.Mirrors.of_start (workerId : Int) (kernel : Kernel) :
    (Runtime.start .forward workerId kernel).Mirrors
      (Runtime.start .stats workerId kernel) :=
  ⟨rfl, rfl, rfl, rfl, rfl, .of_empty⟩

/-- A stats worker answers every sequence of calls and packets the way a
forward worker does, up to the fault that ends it, if one does. -/
theorem stats_forwards (os : Os) (workerId : Int) (kernel : Kernel)
    (events : List ConmuteEvent) :
    (conmuteMachine os).trace events
        (Runtime.start .stats workerId kernel) =
      (conmuteMachine os).trace events
        (Runtime.start .forward workerId kernel) := by
  refine (Machine.trace_eq_of_alike Runtime.Mirrors ?_ events
    (.of_start workerId kernel)).symm
  intro runtime mirror event mirrors
  exact mirrors.conmuteStep os event

end StrManager
