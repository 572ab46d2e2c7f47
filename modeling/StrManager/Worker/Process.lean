import StrManager.Worker.Basic

namespace StrManager

open Library Function

/-! The packet handlers. They differ in what a list and the worker note about
a packet, so they share one skeleton. -/

/-- What a worker class does with a packet for a list: the list after the
packet, or nothing when the class refuses the list, and the worker's byte
counter after it. -/
structure PacketNotes where
  note : Int → BitVec 32 → StreamList → Option StreamList
  count : BitVec 32 → Int → Int

namespace Worker

/-- The address `process` looks up: the sender's IP address and the port of
the descriptor. -/
def lookupAddr (worker : Worker) (fd : Int) (received : Received) : SockAddr :=
  SockAddr.ofPort received.recvfrom.2.1.sinAddr
    (worker.ports.fdPort.subscript 0 fd)

/-- The descriptor is stored for a port of the worker, which may have stopped. -/
def polls (worker : Worker) (fd : Int) : Bool :=
  worker.ports.portFd.entries.any fun entry => entry.2 == fd

theorem polls_iff (worker : Worker) (fd : Int) :
    worker.polls fd = true ↔
      ∃ port, worker.ports.portFd.lookup port = some fd := by
  unfold polls
  rw [List.any_eq_true]
  constructor
  · rintro ⟨⟨port, stored⟩, member, equal⟩
    rw [beq_iff_eq] at equal
    subst equal
    exact ⟨port, (Table.mem_entries_iff _ _ _).mp member⟩
  · rintro ⟨port, found⟩
    exact ⟨⟨port, fd⟩, (Table.mem_entries_iff _ _ _).mpr found, by simp⟩

def sendAll (fd : Int) (received : Received) (list : StreamList) :
    List Transmission :=
  list.destinations.map fun stream =>
    ⟨fd, received.recvfrom.2.2, received.rlen.toNat, stream.addr⟩

/-- `process`: the test `rlen < 0` never holds of the unsigned `rlen`. -/
def processWith (notes : PacketNotes) (runtime : Runtime) (fd : Int)
    (received : Received) : Runtime × List Transmission :=
  if 0 < received.rlen.toNat then
    let a := runtime.worker.lookupAddr fd received
    let listId := runtime.worker.streams.routes a
    let (b, streams) := runtime.worker.streams.getStreamListBySocket a
    let worker := { runtime.worker with
      ports := { runtime.worker.ports with
        fdPort := runtime.worker.ports.fdPort.touch 0 fd }
      streams := streams }
    match b with
    | none => ({ runtime with worker := worker }, [])
    | some list =>
        match notes.note runtime.kernel.clock received.rlen list with
        | none => ({ runtime with worker := worker }, [])
        | some noted =>
            ({ runtime with worker := { worker with
                streams := streams.modifyList listId noted
                inputBytes := notes.count received.rlen worker.inputBytes } },
              sendAll fd received list)
  else
    (runtime, [])

end Worker

def ForwardWorker.notes : PacketNotes where
  note clock _ list := some (list.updateTimeStamp clock)
  count _ inputBytes := inputBytes

/-- `StatsWorker::process` counts bytes, and refuses a list that is not a
`StatsStreamList`. -/
def StatsWorker.notes : PacketNotes where
  note _ rlen list := list.counters.map fun counters =>
    { list with
      counters := some { counters with
        inputBytes := int32 (counters.inputBytes + int32 rlen.toNat) } }
  count rlen inputBytes := int32 (inputBytes + rlen.toNat)

def ForwardWorker.process := Worker.processWith ForwardWorker.notes

def StatsWorker.process := Worker.processWith StatsWorker.notes

def PacketNotes.Keeps (notes : PacketNotes) : Prop :=
  ∀ {clock rlen list noted}, notes.note clock rlen list = some noted →
    noted.source = list.source ∧ noted.destinations = list.destinations ∧
      noted.counters.isSome = list.counters.isSome

theorem ForwardWorker.notes_keeps : ForwardWorker.notes.Keeps := by
  intro clock rlen list noted equal
  cases equal
  exact ⟨rfl, rfl, rfl⟩

theorem StatsWorker.notes_keeps : StatsWorker.notes.Keeps := by
  intro clock rlen list noted equal
  obtain ⟨counters, found, rfl⟩ := Option.map_eq_some_iff.mp equal
  exact ⟨rfl, rfl, by rw [found]; rfl⟩

namespace Worker

structure PacketStep (runtime next : Runtime) (fd : Int) : Prop where
  kernel : next.kernel = runtime.kernel
  sameWorker : runtime.SameWorker next
  working : next.worker.working = runtime.worker.working
  portFd : next.worker.ports.portFd = runtime.worker.ports.portFd
  listeners : next.worker.ports.listeners = runtime.worker.ports.listeners
  fdPort : ∀ port, runtime.worker.ports.fdPort.lookup fd = some port →
    next.worker.ports.fdPort = runtime.worker.ports.fdPort
  routes : next.worker.streams.routes = runtime.worker.streams.routes
  lists : next.worker.streams.lists = runtime.worker.streams.lists ∨
    ∃ listId list noted,
      runtime.worker.streams.lists listId = some list ∧
      next.worker.streams.lists =
        update runtime.worker.streams.lists listId (some noted) ∧
      noted.source = list.source ∧ noted.destinations = list.destinations ∧
      noted.counters.isSome = list.counters.isSome

theorem processWith_step {notes : PacketNotes} (keeps : notes.Keeps)
    (runtime : Runtime) (fd : Int) (received : Received) :
    PacketStep runtime (processWith notes runtime fd received).1 fd := by
  have touched : ∀ port, runtime.worker.ports.fdPort.lookup fd = some port →
      runtime.worker.ports.fdPort.touch 0 fd = runtime.worker.ports.fdPort :=
    fun port found => Table.touch_of_lookup 0 found
  unfold processWith
  split
  · simp only [StreamTables.getStreamListBySocket_fst]
    split
    · exact ⟨rfl, ⟨rfl, rfl⟩, rfl, rfl, rfl, touched,
        StreamTables.routes_getStreamListBySocket _ _,
        .inl (StreamTables.lists_getStreamListBySocket _ _)⟩
    · rename_i list found
      split
      · exact ⟨rfl, ⟨rfl, rfl⟩, rfl, rfl, rfl, touched,
          StreamTables.routes_getStreamListBySocket _ _,
          .inl (StreamTables.lists_getStreamListBySocket _ _)⟩
      · rename_i noted recorded
        have kept := keeps recorded
        refine ⟨rfl, ⟨rfl, rfl⟩, rfl, rfl, rfl, touched, ?_, .inr
          ⟨_, list, noted, found, ?_, kept⟩⟩
        · exact StreamTables.routes_getStreamListBySocket _ _
        · simp
  · exact ⟨rfl, ⟨rfl, rfl⟩, rfl, rfl, rfl, fun _ _ => rfl, rfl, .inl rfl⟩

theorem processWith_sends (notes : PacketNotes) (runtime : Runtime) (fd : Int)
    (received : Received) :
    (processWith notes runtime fd received).2 = [] ∨
    ∃ list,
      runtime.worker.streams.lists (runtime.worker.streams.routes
        (runtime.worker.lookupAddr fd received)) = some list ∧
      (processWith notes runtime fd received).2 = sendAll fd received list := by
  unfold processWith
  split
  · simp only [StreamTables.getStreamListBySocket_fst]
    split
    · exact .inl rfl
    · rename_i list found
      split
      · exact .inl rfl
      · exact .inr ⟨list, found, rfl⟩
  · exact .inl rfl

theorem processWith_drops {notes : PacketNotes} {runtime : Runtime} {fd : Int}
    {received : Received}
    (missing : runtime.worker.streams.lists (runtime.worker.streams.routes
      (runtime.worker.lookupAddr fd received)) = none) :
    (processWith notes runtime fd received).2 = [] := by
  rcases processWith_sends notes runtime fd received with
    nothing | ⟨list, found, -⟩
  · exact nothing
  · rw [missing] at found
    cases found

theorem processWith_delivers {notes : PacketNotes} {runtime : Runtime}
    {fd : Int} {received : Received} {list noted : StreamList}
    (content : 0 < received.rlen.toNat)
    (found : runtime.worker.streams.lists (runtime.worker.streams.routes
      (runtime.worker.lookupAddr fd received)) = some list)
    (accepted : notes.note runtime.kernel.clock received.rlen list =
      some noted) :
    (processWith notes runtime fd received).2 = sendAll fd received list := by
  simp [processWith, content, found, accepted]

end Worker

end StrManager
