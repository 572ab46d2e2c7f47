import StrManager.Worker.Basic

namespace StrManager

open Library Function

/-! The RTCP worker. Every source has two lists, one for its RTP port and one
for the next port. -/

namespace RtcpWorker

/-- `RtcpWorker::add_socket` opens a port together with the next one. -/
def addSocket (os : Os) (state : SocketState) (port : Int) :
    Int × SocketState :=
  let count := state.ports.listeners port
  let ports := state.ports.readListener port
  if count ≠ 0 then
    (0, ⟨state.kernel, ports.setListener port (count + 1)⟩)
  else
    let (fd, kernel) := initSocket os state.kernel port
    let (fd2, kernel) := initSocket os kernel (port + 1)
    if fd = -1 then
      (-1, ⟨kernel, ports⟩)
    else if fd2 = -1 then
      (-1, ⟨kernel, ports⟩)
    else
      (1, ⟨kernel, (ports.register port fd).register (port + 1) fd2⟩)

/-- `RtcpWorker::remove_socket` closes a port together with the next one. -/
def removeSocket (state : SocketState) (port : Int) : Bool × SocketState :=
  let count := state.ports.listeners port - 1
  let ports := state.ports.setListener port count
  if count = 0 then
    let fd := ports.portFd.subscript 0 port
    let fd2 := ports.portFd.subscript 0 (port + 1)
    (true, ⟨(state.kernel.close fd).close fd2,
      (ports.release port fd).release (port + 1) fd2⟩)
  else
    (false, ⟨state.kernel, ports⟩)

/-- The two `add_socket` calls of `addSource`; the second one is made even
when the first one failed. -/
def addSocketPair (os : Os) (state : SocketState) (port : Int) :
    Bool × SocketState :=
  let (ret, state) := addSocket os state port
  let (ret2, state) := addSocket os state (port + 1)
  (ret != -1 && ret2 != -1, state)

def addSource (os : Os) (runtime : Runtime) (srcId : Int) (ip : InAddr)
    (port : Int) : Bool × Runtime :=
  let udpstream := UdpStream.create srcId ip port
  let udpstream2 := UdpStream.create (srcId + 1) ip (port + 1)
  let (known, streams) := runtime.worker.streams.getListIdBySocket udpstream.addr
  if known ≠ 0 then
    (false, runtime.withStreams streams)
  else
    let (known2, streams) := streams.getListIdBySocket udpstream2.addr
    let runtime := runtime.withStreams streams
    if known2 ≠ 0 then
      (false, runtime)
    else
      let streamlist := StreamList.create srcId udpstream
      let streamlist2 := StreamList.create (srcId + 1) udpstream2
      let (opened, sockets) := addSocketPair os runtime.sockets port
      let runtime := runtime.withSockets sockets
      if opened then
        (true, runtime.withStreams
          ((runtime.worker.streams.addStreamList srcId streamlist).addStreamList
            (srcId + 1) streamlist2))
      else
        (false, runtime)

def removeSource (runtime : Runtime) (srcId : Int) : Except Fault Runtime := do
  let (list, streams) := runtime.worker.streams.getStreamList srcId
  let list ← derefList list
  let (_, sockets) := removeSocket runtime.sockets list.getSourcePort
  let (list2, streams) := streams.getStreamList (srcId + 1)
  let list2 ← derefList list2
  let (_, sockets) := removeSocket sockets list2.getSourcePort
  let streams ← streams.removeStreamList srcId
  let streams ← streams.removeStreamList (srcId + 1)
  return (runtime.withSockets sockets).withStreams streams

/-- `RtcpWorker::addDestination`. The first list keeps its new destination
when the second list rejects its own. -/
def addDestination (runtime : Runtime) (srcId destId : Int) (ip : InAddr)
    (port : Int) : Except Fault Runtime := do
  let udpstream := UdpStream.create destId ip port
  let udpstream2 := UdpStream.create (destId + 1) ip (port + 1)
  let (list, streams) := runtime.worker.streams.getStreamList srcId
  let (list2, streams) := streams.getStreamList (srcId + 1)
  let list ← derefList list
  let (added, list) := list.addDestination udpstream
  if added then
    let streams := streams.modifyList srcId list
    let list2 ← derefList list2
    let (added2, list2) := list2.addDestination udpstream2
    if added2 then
      return runtime.withStreams
        ((streams.addStreamList srcId list).addStreamList (srcId + 1) list2)
    else
      return runtime.withStreams streams
  else
    return runtime.withStreams streams

def removeDestination (runtime : Runtime) (srcId destId : Int) :
    Except Fault Runtime := do
  let (list, streams) := runtime.worker.streams.getStreamList srcId
  let (list2, streams) := streams.getStreamList (srcId + 1)
  let list ← derefList list
  if list.existDestination destId then
    let list2 ← derefList list2
    if list2.existDestination (destId + 1) then
      let (_, list) ← list.remDestination destId
      let (_, list2) ← list2.remDestination (destId + 1)
      return runtime.withStreams
        ((streams.addStreamList srcId list).addStreamList (srcId + 1) list2)
    else
      return runtime.withStreams streams
  else
    return runtime.withStreams streams

/-! What each operation can do to the lists and routes. -/

theorem addSource_cases (os : Os) (runtime : Runtime) (srcId : Int)
    (ip : InAddr) (port : Int) {accepted : Bool} {next : Runtime}
    (called : addSource os runtime srcId ip port = (accepted, next)) :
    ((runtime.worker.streams.routes (SockAddr.ofPort ip port) ≠ 0 ∨
        runtime.worker.streams.routes (SockAddr.ofPort ip (port + 1)) ≠ 0) ∧
      accepted = false ∧
      next.sockets = runtime.sockets ∧
      next.worker.streams.lists = runtime.worker.streams.lists ∧
      next.worker.streams.routes = runtime.worker.streams.routes) ∨
    (runtime.worker.streams.routes (SockAddr.ofPort ip port) = 0 ∧
      runtime.worker.streams.routes (SockAddr.ofPort ip (port + 1)) = 0 ∧
      (addSocketPair os runtime.sockets port).1 = false ∧
      accepted = false ∧
      next.sockets = (addSocketPair os runtime.sockets port).2 ∧
      next.worker.streams.lists = runtime.worker.streams.lists ∧
      next.worker.streams.routes = runtime.worker.streams.routes) ∨
    (runtime.worker.streams.routes (SockAddr.ofPort ip port) = 0 ∧
      runtime.worker.streams.routes (SockAddr.ofPort ip (port + 1)) = 0 ∧
      (addSocketPair os runtime.sockets port).1 = true ∧
      accepted = true ∧
      next.sockets = (addSocketPair os runtime.sockets port).2 ∧
      next.worker.streams.lists =
        update (update runtime.worker.streams.lists srcId
            (some (StreamList.create srcId (UdpStream.create srcId ip port))))
          (srcId + 1) (some (StreamList.create (srcId + 1)
            (UdpStream.create (srcId + 1) ip (port + 1)))) ∧
      next.worker.streams.routes =
        update (update runtime.worker.streams.routes
            (SockAddr.ofPort ip port) srcId)
          (SockAddr.ofPort ip (port + 1)) (srcId + 1)) := by
  unfold addSource at called
  simp only [StreamTables.getListIdBySocket_fst,
    StreamTables.routes_getListIdBySocket] at called
  change (if runtime.worker.streams.routes (SockAddr.ofPort ip port) ≠ 0 then _
    else if runtime.worker.streams.routes (SockAddr.ofPort ip (port + 1)) ≠ 0
    then _ else if (addSocketPair os runtime.sockets port).1 = true then _
    else _) = _ at called
  let looked := ((runtime.worker.streams.getListIdBySocket
    (SockAddr.ofPort ip port)).2.getListIdBySocket
      (SockAddr.ofPort ip (port + 1))).2
  have lookedRoutes : looked.routes = runtime.worker.streams.routes := by
    simp [looked]
  rcases eq_or_ne (runtime.worker.streams.routes (SockAddr.ofPort ip port)) 0
    with free | routed
  · rw [if_neg (not_not.mpr free)] at called
    rcases eq_or_ne
      (runtime.worker.streams.routes (SockAddr.ofPort ip (port + 1))) 0
      with free2 | routed2
    · rw [if_neg (not_not.mpr free2)] at called
      cases opened : (addSocketPair os runtime.sockets port).1 with
      | true =>
          rw [opened, if_pos rfl] at called
          cases called
          refine .inr (.inr ⟨free, free2, rfl, rfl, rfl, ?_, ?_⟩)
          · change (StreamTables.addStreamList _ _ _).lists = _
            simp
            rfl
          · change (StreamTables.addStreamList _ _ _).routes = _
            simp only [StreamTables.routes_addStreamList,
              StreamList.create_getSourceSockAddr, UdpStream.create]
            change update (update looked.routes _ _) _ _ = _
            rw [lookedRoutes]
      | false =>
          rw [opened, if_neg (by simp)] at called
          cases called
          exact .inr (.inl ⟨free, free2, rfl, rfl, rfl, rfl, lookedRoutes⟩)
    · rw [if_pos routed2] at called
      cases called
      exact .inl ⟨.inr routed2, rfl, rfl, rfl, lookedRoutes⟩
  · rw [if_pos routed] at called
    cases called
    exact .inl ⟨.inl routed, rfl, rfl, rfl,
      StreamTables.routes_getListIdBySocket _ _⟩

theorem addSource_sameWorker (os : Os) (runtime : Runtime) (srcId : Int)
    (ip : InAddr) (port : Int) :
    let next := (addSource os runtime srcId ip port).2
    runtime.SameWorker next ∧
      next.worker.working = runtime.worker.working := by
  simp only [addSource]
  split
  · exact ⟨⟨rfl, rfl⟩, rfl⟩
  · split
    · exact ⟨⟨rfl, rfl⟩, rfl⟩
    · split <;> exact ⟨⟨rfl, rfl⟩, rfl⟩

theorem removeSource_cases (runtime : Runtime) (srcId : Int) :
    ((runtime.worker.streams.lists srcId = none ∨
        runtime.worker.streams.lists (srcId + 1) = none) ∧
      removeSource runtime srcId = .error .nullStreamList) ∨
    ∃ list list2 next,
      runtime.worker.streams.lists srcId = some list ∧
      runtime.worker.streams.lists (srcId + 1) = some list2 ∧
      removeSource runtime srcId = .ok next ∧
      next.sockets =
        (removeSocket (removeSocket runtime.sockets list.getSourcePort).2
          list2.getSourcePort).2 ∧
      next.worker.streams.lists =
        update (update runtime.worker.streams.lists srcId none)
          (srcId + 1) none ∧
      next.worker.streams.routes =
        update (update runtime.worker.streams.routes list.getSourceSockAddr 0)
          list2.getSourceSockAddr 0 ∧
      runtime.SameWorker next ∧
      next.worker.working = runtime.worker.working := by
  cases found : runtime.worker.streams.lists srcId with
  | none =>
      left
      refine ⟨.inl rfl, ?_⟩
      simp [removeSource, found, bind, Except.bind]
  | some list =>
      cases found2 : runtime.worker.streams.lists (srcId + 1) with
      | none =>
          left
          refine ⟨.inr rfl, ?_⟩
          simp [removeSource, found, found2, bind, Except.bind]
      | some list2 =>
          right
          let looked := ((runtime.worker.streams.getStreamList srcId).2
            |>.getStreamList (srcId + 1)).2
          have lookedLists : looked.lists = runtime.worker.streams.lists := by
            simp [looked]
          have lookedRoutes : looked.routes = runtime.worker.streams.routes := by
            simp [looked]
          rcases StreamTables.removeStreamList_cases looked srcId with
            ⟨missing, -⟩ | ⟨stored, removed, stored_eq, removes, lists, routes⟩
          · rw [lookedLists, found] at missing
            cases missing
          rw [lookedLists, found] at stored_eq
          cases stored_eq
          have other : removed.lists (srcId + 1) = some list2 := by
            rw [lists, update_of_ne (by omega), lookedLists, found2]
          rcases StreamTables.removeStreamList_cases removed (srcId + 1) with
            ⟨missing, -⟩ |
              ⟨stored, removed2, stored_eq, removes2, lists2, routes2⟩
          · rw [other] at missing
            cases missing
          rw [other] at stored_eq
          cases stored_eq
          refine ⟨list, list2,
            (runtime.withSockets (removeSocket
              (removeSocket runtime.sockets list.getSourcePort).2
              list2.getSourcePort).2).withStreams removed2,
            rfl, rfl, ?_, rfl, ?_, ?_, ⟨rfl, rfl⟩, rfl⟩
          · unfold removeSource
            simp only [StreamTables.getStreamList_fst,
              StreamTables.lists_getStreamList, found, found2, derefList_some]
            change Except.bind (looked.removeStreamList srcId) _ = _
            rw [removes]
            change Except.bind (removed.removeStreamList (srcId + 1)) _ = _
            rw [removes2]
            rfl
          · exact lists2.trans (by rw [lists, lookedLists])
          · exact routes2.trans (by rw [routes, lookedRoutes])

structure PairStep (runtime next : Runtime) (srcId : Int)
    (before before2 after after2 : StreamList) : Prop where
  streamsOnly : runtime.StreamsOnly next
  found : runtime.worker.streams.lists srcId = some before
  found2 : runtime.worker.streams.lists (srcId + 1) = some before2
  lists : next.worker.streams.lists =
    update (update runtime.worker.streams.lists srcId (some after))
      (srcId + 1) (some after2)
  routes : next.worker.streams.routes = runtime.worker.streams.routes ∨
    next.worker.streams.routes =
      update (update runtime.worker.streams.routes
        before.getSourceSockAddr srcId) before2.getSourceSockAddr (srcId + 1)
  source : after.source = before.source
  source2 : after2.source = before2.source

structure ReadStep (runtime next : Runtime) : Prop where
  streamsOnly : runtime.StreamsOnly next
  lists : next.worker.streams.lists = runtime.worker.streams.lists
  routes : next.worker.streams.routes = runtime.worker.streams.routes

theorem addDestination_cases (runtime : Runtime) (srcId destId : Int)
    (ip : InAddr) (port : Int) :
    (runtime.worker.streams.lists srcId = none ∧
      addDestination runtime srcId destId ip port = .error .nullStreamList) ∨
    (∃ list, runtime.worker.streams.lists srcId = some list ∧
      (list.addDestination (UdpStream.create destId ip port)).1 = true ∧
      runtime.worker.streams.lists (srcId + 1) = none ∧
      addDestination runtime srcId destId ip port = .error .nullStreamList) ∨
    (∃ list next, runtime.worker.streams.lists srcId = some list ∧
      (list.addDestination (UdpStream.create destId ip port)).1 = false ∧
      addDestination runtime srcId destId ip port = .ok next ∧
      ReadStep runtime next) ∨
    ∃ list list2 next,
      (list.addDestination (UdpStream.create destId ip port)).1 = true ∧
      addDestination runtime srcId destId ip port = .ok next ∧
      PairStep runtime next srcId list list2
        (list.addDestination (UdpStream.create destId ip port)).2
        (list2.addDestination
          (UdpStream.create (destId + 1) ip (port + 1))).2 := by
  let stream := UdpStream.create destId ip port
  let stream2 := UdpStream.create (destId + 1) ip (port + 1)
  let looked := ((runtime.worker.streams.getStreamList srcId).2
    |>.getStreamList (srcId + 1)).2
  have lookedLists : looked.lists = runtime.worker.streams.lists := by
    simp [looked]
  have lookedRoutes : looked.routes = runtime.worker.streams.routes := by
    simp [looked]
  cases found : runtime.worker.streams.lists srcId with
  | none =>
      left
      refine ⟨rfl, ?_⟩
      simp [addDestination, found, bind, Except.bind]
  | some list =>
      right
      cases added : (list.addDestination stream).1 with
      | false =>
          refine .inr (.inl ⟨list, runtime.withStreams looked, rfl, added, ?_,
            Runtime.withStreams_streamsOnly _ _, lookedLists, lookedRoutes⟩)
          unfold addDestination
          simp only [StreamTables.getStreamList_fst, found, derefList_some,
            bind, Except.bind, pure, Except.pure]
          exact if_neg (by
            change ¬ (list.addDestination stream).1 = true
            simp [added])
      | true =>
          have source := StreamList.addDestination_source list stream
          cases found2 : runtime.worker.streams.lists (srcId + 1) with
          | none =>
              refine .inl ⟨list, rfl, added, rfl, ?_⟩
              unfold addDestination
              simp only [StreamTables.getStreamList_fst,
                StreamTables.lists_getStreamList, found, found2,
                derefList_some, derefList_none, bind, Except.bind]
              exact if_pos added
          | some list2 =>
              have source2 := StreamList.addDestination_source list2 stream2
              have unfolded : addDestination runtime srcId destId ip port =
                  if (list2.addDestination stream2).1 = true then
                    .ok (runtime.withStreams
                      (((looked.modifyList srcId
                        (list.addDestination stream).2).addStreamList srcId
                        (list.addDestination stream).2).addStreamList
                        (srcId + 1) (list2.addDestination stream2).2))
                  else .ok (runtime.withStreams
                    (looked.modifyList srcId
                      (list.addDestination stream).2)) := by
                unfold addDestination
                simp only [StreamTables.getStreamList_fst,
                  StreamTables.lists_getStreamList, found, found2,
                  derefList_some, bind, Except.bind, pure, Except.pure]
                exact if_pos added
              cases added2 : (list2.addDestination stream2).1 with
              | true =>
                  refine .inr (.inr ⟨list, list2, _, added,
                    unfolded.trans (if_pos added2),
                    Runtime.withStreams_streamsOnly _ _, found, found2, ?_,
                    .inr ?_, source, source2⟩)
                  · change (StreamTables.addStreamList _ _ _).lists = _
                    simp [lookedLists, stream, stream2]
                  · change (StreamTables.addStreamList _ _ _).routes = _
                    simp [lookedRoutes, StreamList.getSourceSockAddr, source,
                      source2]
              | false =>
                  have rejected := StreamList.addDestination_rejected added2
                  refine .inr (.inr ⟨list, list2, _, added,
                    unfolded.trans (if_neg (by simp [added2])),
                    Runtime.withStreams_streamsOnly _ _, found, found2, ?_,
                    .inl ?_, source, source2⟩)
                  · change (StreamTables.modifyList _ _ _).lists = _
                    rw [rejected, StreamTables.lists_modifyList, lookedLists,
                      eq_comm, update_eq_self_iff,
                      update_of_ne (by omega), found2]
                  · change (StreamTables.modifyList _ _ _).routes = _
                    simp [lookedRoutes]

theorem removeDestination_cases (runtime : Runtime) (srcId destId : Int) :
    (runtime.worker.streams.lists srcId = none ∧
      removeDestination runtime srcId destId = .error .nullStreamList) ∨
    (∃ list, runtime.worker.streams.lists srcId = some list ∧
      list.existDestination destId = true ∧
      runtime.worker.streams.lists (srcId + 1) = none ∧
      removeDestination runtime srcId destId = .error .nullStreamList) ∨
    (∃ list next, runtime.worker.streams.lists srcId = some list ∧
      (list.existDestination destId = false ∨ ∃ list2,
        runtime.worker.streams.lists (srcId + 1) = some list2 ∧
        list2.existDestination (destId + 1) = false) ∧
      removeDestination runtime srcId destId = .ok next ∧
      ReadStep runtime next) ∨
    ∃ list list2 next,
      list.existDestination destId = true ∧
      list2.existDestination (destId + 1) = true ∧
      removeDestination runtime srcId destId = .ok next ∧
      PairStep runtime next srcId list list2
        (list.eraseFound destId) (list2.eraseFound (destId + 1)) := by
  let looked := ((runtime.worker.streams.getStreamList srcId).2
    |>.getStreamList (srcId + 1)).2
  have lookedLists : looked.lists = runtime.worker.streams.lists := by
    simp [looked]
  have lookedRoutes : looked.routes = runtime.worker.streams.routes := by
    simp [looked]
  have readStep : ReadStep runtime (runtime.withStreams looked) :=
    ⟨Runtime.withStreams_streamsOnly _ _, lookedLists, lookedRoutes⟩
  cases found : runtime.worker.streams.lists srcId with
  | none =>
      left
      refine ⟨rfl, ?_⟩
      simp [removeDestination, found, bind, Except.bind]
  | some list =>
      right
      cases known : list.existDestination destId with
      | false =>
          refine .inr (.inl ⟨list, _, rfl, .inl known, ?_, readStep⟩)
          unfold removeDestination
          simp only [StreamTables.getStreamList_fst, found, derefList_some,
            known, bind, Except.bind, pure, Except.pure]
          rfl
      | true =>
          cases found2 : runtime.worker.streams.lists (srcId + 1) with
          | none =>
              refine .inl ⟨list, rfl, known, rfl, ?_⟩
              unfold removeDestination
              simp only [StreamTables.getStreamList_fst,
                StreamTables.lists_getStreamList, found, found2,
                derefList_some, derefList_none, known, bind, Except.bind]
              rfl
          | some list2 =>
              cases known2 : list2.existDestination (destId + 1) with
              | false =>
                  refine .inr (.inl ⟨list, _, rfl, .inr ⟨list2, rfl, known2⟩,
                    ?_, readStep⟩)
                  unfold removeDestination
                  simp only [StreamTables.getStreamList_fst,
                    StreamTables.lists_getStreamList, found, found2,
                    derefList_some, known, known2, bind, Except.bind, pure,
                    Except.pure]
                  rfl
              | true =>
                  refine .inr (.inr ⟨list, list2, runtime.withStreams
                    ((looked.addStreamList srcId
                      (list.eraseFound destId)).addStreamList
                      (srcId + 1) (list2.eraseFound (destId + 1))),
                    known, known2, ?_, Runtime.withStreams_streamsOnly _ _,
                    found, found2, ?_, .inr ?_, rfl, rfl⟩)
                  · unfold removeDestination
                    simp only [StreamTables.getStreamList_fst,
                      StreamTables.lists_getStreamList, found, found2,
                      derefList_some, known, known2,
                      StreamList.remDestination_of_exists known,
                      StreamList.remDestination_of_exists known2,
                      bind, Except.bind, pure, Except.pure]
                    rfl
                  · change (StreamTables.addStreamList _ _ _).lists = _
                    simp [lookedLists]
                  · change (StreamTables.addStreamList _ _ _).routes = _
                    simp [lookedRoutes, StreamList.getSourceSockAddr,
                      StreamList.eraseFound]

/-! The calls that end well. -/

section Called

variable {runtime next : Runtime} {srcId destId : Int} {ip : InAddr}
  {port : Int}

theorem addDestination_ok
    (called : addDestination runtime srcId destId ip port = .ok next) :
    (∃ list, runtime.worker.streams.lists srcId = some list ∧
      (list.addDestination (UdpStream.create destId ip port)).1 = false ∧
      ReadStep runtime next) ∨
    ∃ list list2,
      PairStep runtime next srcId list list2
        (list.addDestination (UdpStream.create destId ip port)).2
        (list2.addDestination
          (UdpStream.create (destId + 1) ip (port + 1))).2 := by
  rcases addDestination_cases runtime srcId destId ip port with
    ⟨-, faulted⟩ | ⟨list, -, -, -, faulted⟩ |
      ⟨list, after, found, rejected, kept, read⟩ |
      ⟨list, list2, after, -, added, changed⟩
  · rw [faulted] at called
    cases called
  · rw [faulted] at called
    cases called
  · rw [kept] at called
    cases called
    exact .inl ⟨list, found, rejected, read⟩
  · rw [added] at called
    cases called
    exact .inr ⟨list, list2, changed⟩

theorem removeDestination_ok
    (called : removeDestination runtime srcId destId = .ok next) :
    (∃ list, runtime.worker.streams.lists srcId = some list ∧
      (list.existDestination destId = false ∨ ∃ list2,
        runtime.worker.streams.lists (srcId + 1) = some list2 ∧
        list2.existDestination (destId + 1) = false) ∧
      ReadStep runtime next) ∨
    ∃ list list2,
      PairStep runtime next srcId list list2
        (list.eraseFound destId) (list2.eraseFound (destId + 1)) := by
  rcases removeDestination_cases runtime srcId destId with
    ⟨-, faulted⟩ | ⟨list, -, -, -, faulted⟩ |
      ⟨list, after, found, missing, kept, read⟩ |
      ⟨list, list2, after, -, -, removed, changed⟩
  · rw [faulted] at called
    cases called
  · rw [faulted] at called
    cases called
  · rw [kept] at called
    cases called
    exact .inl ⟨list, found, missing, read⟩
  · rw [removed] at called
    cases called
    exact .inr ⟨list, list2, changed⟩

end Called

end RtcpWorker

end StrManager
