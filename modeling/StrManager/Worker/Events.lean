import StrManager.Library.Machine
import StrManager.Registry
import StrManager.Worker.Process
import StrManager.Worker.Rtcp

namespace StrManager

open Library Function

/-! Virtual dispatch, and a worker as a machine driven by calls and packets. -/

/-- A new `StatsStreamList`, whose constructor reads the clock. -/
def StatsStreamList.create (clock listId : Int) (source : UdpStream) :
    StreamList :=
  { StreamList.create listId source with
    timeStamp := some clock
    counters := some ⟨0, 0, 0⟩ }

def StatsWorker.addSource :=
  Worker.addSourceWith fun kernel => StatsStreamList.create kernel.clock

namespace WorkerKind

def newList : WorkerKind → Kernel → Int → UdpStream → StreamList
  | .stats, kernel => StatsStreamList.create kernel.clock
  | .forward, _ | .rtcp, _ => StreamList.create

/-- `RtcpWorker` inherits the packet handler of `ForwardWorker`. -/
def notes : WorkerKind → PacketNotes
  | .stats => StatsWorker.notes
  | .forward | .rtcp => ForwardWorker.notes

theorem newList_source (kind : WorkerKind) (kernel : Kernel) (listId : Int)
    (source : UdpStream) : (kind.newList kernel listId source).source = source := by
  cases kind <;> rfl

theorem newList_destinations (kind : WorkerKind) (kernel : Kernel)
    (listId : Int) (source : UdpStream) :
    (kind.newList kernel listId source).destinations = [] := by
  cases kind <;> rfl

theorem notes_keeps (kind : WorkerKind) : kind.notes.Keeps := by
  cases kind with
  | stats => exact StatsWorker.notes_keeps
  | forward => exact ForwardWorker.notes_keeps
  | rtcp => exact ForwardWorker.notes_keeps

end WorkerKind

inductive WorkerEvent where
  | addSource (srcId : Int) (ip : InAddr) (port : Int)
  | removeSource (srcId : Int)
  | addDestination (srcId destId : Int) (ip : InAddr) (port : Int)
  | removeDestination (srcId destId : Int)
  | packet (fd : Int) (received : Received)
  | elapse (seconds : Nat)

inductive WorkerOutput where
  | added (accepted : Bool)
  | removed (messages : List Message)
  | done
  | sent (transmissions : List Transmission)

namespace Runtime

def addSource (os : Os) (runtime : Runtime) (srcId : Int) (ip : InAddr)
    (port : Int) : Bool × Runtime :=
  match runtime.worker.kind with
  | .forward => Worker.addSource os runtime srcId ip port
  | .stats => StatsWorker.addSource os runtime srcId ip port
  | .rtcp => RtcpWorker.addSource os runtime srcId ip port

def removeSource (runtime : Runtime) (srcId : Int) :
    Except Fault (Runtime × List Message) :=
  match runtime.worker.kind with
  | .forward | .stats => Worker.removeSource runtime srcId
  | .rtcp => do
      let runtime ← RtcpWorker.removeSource runtime srcId
      return (runtime, [])

def addDestination (runtime : Runtime) (srcId destId : Int) (ip : InAddr)
    (port : Int) : Except Fault Runtime :=
  match runtime.worker.kind with
  | .forward | .stats => Worker.addDestination runtime srcId destId ip port
  | .rtcp => RtcpWorker.addDestination runtime srcId destId ip port

def removeDestination (runtime : Runtime) (srcId destId : Int) :
    Except Fault Runtime :=
  match runtime.worker.kind with
  | .forward | .stats => Worker.removeDestination runtime srcId destId
  | .rtcp => RtcpWorker.removeDestination runtime srcId destId

def process (runtime : Runtime) (fd : Int) (received : Received) :
    Runtime × List Transmission :=
  match runtime.worker.kind with
  | .forward | .rtcp => ForwardWorker.process runtime fd received
  | .stats => StatsWorker.process runtime fd received

theorem process_eq (runtime : Runtime) (fd : Int) (received : Received) :
    runtime.process fd received =
      Worker.processWith runtime.worker.kind.notes runtime fd received := by
  unfold process
  cases runtime.worker.kind <;> rfl

def elapse (runtime : Runtime) (seconds : Nat) : Runtime :=
  { runtime with kernel := { runtime.kernel with
      clock := runtime.kernel.clock + seconds } }

def step (os : Os) (runtime : Runtime) :
    WorkerEvent → Except Fault (Runtime × WorkerOutput)
  | .addSource srcId ip port =>
      let (accepted, next) := runtime.addSource os srcId ip port
      .ok (next, .added accepted)
  | .removeSource srcId => do
      let (next, messages) ← runtime.removeSource srcId
      return (next, .removed messages)
  | .addDestination srcId destId ip port => do
      let next ← runtime.addDestination srcId destId ip port
      return (next, .done)
  | .removeDestination srcId destId => do
      let next ← runtime.removeDestination srcId destId
      return (next, .done)
  | .packet fd received =>
      let (next, transmissions) := runtime.process fd received
      .ok (next, .sent transmissions)
  | .elapse seconds => .ok (runtime.elapse seconds, .done)

theorem step_of_removeSource (os : Os) {runtime next : Runtime} {srcId : Int}
    {messages : List Message}
    (called : runtime.removeSource srcId = .ok (next, messages)) :
    runtime.step os (.removeSource srcId) = .ok (next, .removed messages) := by
  rw [step, called]
  rfl

theorem step_removeSource {os : Os} {runtime next : Runtime} {srcId : Int}
    {output : WorkerOutput}
    (stepped : runtime.step os (.removeSource srcId) = .ok (next, output)) :
    ∃ messages, output = .removed messages ∧
      runtime.removeSource srcId = .ok (next, messages) := by
  obtain ⟨⟨after, messages⟩, called, ended⟩ := bind_eq_ok stepped
  cases ended
  exact ⟨messages, rfl, called⟩

theorem step_addDestination {os : Os} {runtime next : Runtime}
    {srcId destId : Int} {ip : InAddr} {port : Int} {output : WorkerOutput}
    (stepped : runtime.step os (.addDestination srcId destId ip port) =
      .ok (next, output)) :
    output = .done ∧
      runtime.addDestination srcId destId ip port = .ok next := by
  obtain ⟨after, called, ended⟩ := bind_eq_ok stepped
  cases ended
  exact ⟨rfl, called⟩

theorem step_removeDestination {os : Os} {runtime next : Runtime}
    {srcId destId : Int} {output : WorkerOutput}
    (stepped : runtime.step os (.removeDestination srcId destId) =
      .ok (next, output)) :
    output = .done ∧ runtime.removeDestination srcId destId = .ok next := by
  obtain ⟨after, called, ended⟩ := bind_eq_ok stepped
  cases ended
  exact ⟨rfl, called⟩

theorem step_packet (os : Os) (runtime : Runtime) (fd : Int)
    (received : Received) :
    runtime.step os (.packet fd received) =
      .ok ((runtime.process fd received).1,
        .sent (runtime.process fd received).2) :=
  rfl

def start (kind : WorkerKind) (workerId : Int) (kernel : Kernel) : Runtime :=
  ⟨kernel, Worker.create kind workerId⟩

end Runtime

def workerMachine (os : Os) :
    Machine Runtime WorkerEvent WorkerOutput Fault where
  step := Runtime.step os

namespace Registry

/-- The registry after a call: sources and destinations that were accepted,
minus those removed. -/
def record (registry : Registry) : WorkerEvent → WorkerOutput → Registry
  | .addSource srcId ip port, .added true =>
      registry.addSource srcId (SockAddr.ofPort ip port)
  | .removeSource srcId, _ => registry.removeSource srcId
  | .addDestination srcId destId ip port, _ =>
      registry.change srcId fun registration =>
        registration.addDestination (UdpStream.create destId ip port)
  | .removeDestination srcId destId, _ =>
      registry.change srcId fun registration =>
        registration.removeDestination destId
  | _, _ => registry

def observer : Observer WorkerEvent WorkerOutput Registry where
  initial := ∅
  update := record

end Registry

namespace WorkerEvent

/-! Ways of using a worker. -/

def Fresh (registry : Registry) : WorkerEvent → Prop
  | .addSource srcId _ _ => registry.lookup srcId = none
  | _ => True

def Registered (registry : Registry) : WorkerEvent → Prop
  | .removeSource srcId
  | .addDestination srcId _ _ _
  | .removeDestination srcId _ => (registry.lookup srcId).isSome = true
  | _ => True

def NonzeroSource : WorkerEvent → Prop
  | .addSource srcId _ _ => srcId ≠ 0
  | _ => True

def PortInRange : WorkerEvent → Prop
  | .addSource _ _ port => 0 ≤ port ∧ port ≤ 65535
  | _ => True

def Polled (runtime : Runtime) : WorkerEvent → Prop
  | .packet fd _ => runtime.worker.polls fd = true
  | _ => True

instance (registry : Registry) (event : WorkerEvent) :
    Decidable (event.Fresh registry) :=
  match event with
  | .addSource srcId _ _ =>
      inferInstanceAs (Decidable (registry.lookup srcId = none))
  | .removeSource _ | .addDestination _ _ _ _ | .removeDestination _ _
  | .packet _ _ | .elapse _ => isTrue trivial

instance (registry : Registry) (event : WorkerEvent) :
    Decidable (event.Registered registry) :=
  match event with
  | .removeSource srcId | .addDestination srcId _ _ _
  | .removeDestination srcId _ =>
      inferInstanceAs (Decidable ((registry.lookup srcId).isSome = true))
  | .addSource _ _ _ | .packet _ _ | .elapse _ => isTrue trivial

instance (event : WorkerEvent) : Decidable event.NonzeroSource :=
  match event with
  | .addSource srcId _ _ => inferInstanceAs (Decidable (srcId ≠ 0))
  | .removeSource _ | .addDestination _ _ _ _ | .removeDestination _ _
  | .packet _ _ | .elapse _ => isTrue trivial

instance (event : WorkerEvent) : Decidable event.PortInRange :=
  match event with
  | .addSource _ _ port =>
      inferInstanceAs (Decidable (0 ≤ port ∧ port ≤ 65535))
  | .removeSource _ | .addDestination _ _ _ _ | .removeDestination _ _
  | .packet _ _ | .elapse _ => isTrue trivial

instance (runtime : Runtime) (event : WorkerEvent) :
    Decidable (event.Polled runtime) :=
  match event with
  | .packet fd _ =>
      inferInstanceAs (Decidable (runtime.worker.polls fd = true))
  | .addSource _ _ _ | .removeSource _ | .addDestination _ _ _ _
  | .removeDestination _ _ | .elapse _ => isTrue trivial

end WorkerEvent

/-! What one step of a worker with one list per source can do. -/

inductive PlainStep (os : Os) (runtime next : Runtime) :
    WorkerEvent → WorkerOutput → Prop
  | rejected {srcId : Int} {ip : InAddr} {port : Int}
      (routed : runtime.worker.streams.routes (SockAddr.ofPort ip port) ≠ 0)
      (sockets : next.sockets = runtime.sockets)
      (lists : next.worker.streams.lists = runtime.worker.streams.lists)
      (routes : next.worker.streams.routes = runtime.worker.streams.routes) :
      PlainStep os runtime next (.addSource srcId ip port) (.added false)
  | refused {srcId : Int} {ip : InAddr} {port : Int}
      (free : runtime.worker.streams.routes (SockAddr.ofPort ip port) = 0)
      (failed : (SocketState.addSocket os runtime.sockets port).1 = -1)
      (sockets : next.sockets =
        (SocketState.addSocket os runtime.sockets port).2)
      (lists : next.worker.streams.lists = runtime.worker.streams.lists)
      (routes : next.worker.streams.routes = runtime.worker.streams.routes) :
      PlainStep os runtime next (.addSource srcId ip port) (.added false)
  | added {srcId : Int} {ip : InAddr} {port : Int} (list : StreamList)
      (free : runtime.worker.streams.routes (SockAddr.ofPort ip port) = 0)
      (opened : (SocketState.addSocket os runtime.sockets port).1 ≠ -1)
      (sockets : next.sockets =
        (SocketState.addSocket os runtime.sockets port).2)
      (created : list = runtime.worker.kind.newList runtime.kernel srcId
        (UdpStream.create srcId ip port))
      (lists : next.worker.streams.lists =
        update runtime.worker.streams.lists srcId (some list))
      (routes : next.worker.streams.routes =
        update runtime.worker.streams.routes list.getSourceSockAddr srcId) :
      PlainStep os runtime next (.addSource srcId ip port) (.added true)
  | removed {srcId : Int} {messages : List Message} (list : StreamList)
      (found : runtime.worker.streams.lists srcId = some list)
      (sockets : next.sockets =
        (runtime.sockets.removeSocket list.getSourcePort).2)
      (lists : next.worker.streams.lists =
        update runtime.worker.streams.lists srcId none)
      (routes : next.worker.streams.routes =
        update runtime.worker.streams.routes list.getSourceSockAddr 0) :
      PlainStep os runtime next (.removeSource srcId) (.removed messages)
  | addedDestination {srcId destId : Int} {ip : InAddr} {port : Int}
      (list : StreamList)
      (changed : Worker.DestinationStep runtime next srcId list
        (list.addDestination (UdpStream.create destId ip port)).2) :
      PlainStep os runtime next (.addDestination srcId destId ip port) .done
  | removedDestination {srcId destId : Int} (list after : StreamList)
      (changed : Worker.DestinationStep runtime next srcId list after)
      (filtered : list.Keyed → after = { list with
        destinations :=
          list.destinations.filter fun stream => stream.id != destId }) :
      PlainStep os runtime next (.removeDestination srcId destId) .done
  | packet {fd : Int} {received : Received}
      (noted : Worker.PacketStep runtime next fd) :
      PlainStep os runtime next (.packet fd received)
        (.sent (runtime.process fd received).2)
  | elapsed {seconds : Nat} (elapse : next = runtime.elapse seconds) :
      PlainStep os runtime next (.elapse seconds) .done

theorem Runtime.addSource_of_plain {runtime : Runtime}
    (plain : runtime.worker.kind ≠ .rtcp) (os : Os) (srcId : Int)
    (ip : InAddr) (port : Int) :
    runtime.addSource os srcId ip port =
      Worker.addSourceWith runtime.worker.kind.newList os runtime srcId ip
        port := by
  unfold Runtime.addSource
  cases kind : runtime.worker.kind with
  | forward => rfl
  | stats => rfl
  | rtcp => exact absurd kind plain

theorem Runtime.removeSource_of_plain {runtime : Runtime}
    (plain : runtime.worker.kind ≠ .rtcp) (srcId : Int) :
    runtime.removeSource srcId = Worker.removeSource runtime srcId := by
  unfold Runtime.removeSource
  cases kind : runtime.worker.kind with
  | forward => rfl
  | stats => rfl
  | rtcp => exact absurd kind plain

theorem Runtime.addDestination_of_rtcp {runtime : Runtime}
    (rtcp : runtime.worker.kind = .rtcp) (srcId destId : Int) (ip : InAddr)
    (port : Int) :
    runtime.addDestination srcId destId ip port =
      RtcpWorker.addDestination runtime srcId destId ip port := by
  rw [Runtime.addDestination, rtcp]

theorem Runtime.removeDestination_of_rtcp {runtime : Runtime}
    (rtcp : runtime.worker.kind = .rtcp) (srcId destId : Int) :
    runtime.removeDestination srcId destId =
      RtcpWorker.removeDestination runtime srcId destId := by
  rw [Runtime.removeDestination, rtcp]

theorem Runtime.addDestination_of_plain {runtime : Runtime}
    (plain : runtime.worker.kind ≠ .rtcp) (srcId destId : Int) (ip : InAddr)
    (port : Int) :
    runtime.addDestination srcId destId ip port =
      Worker.addDestination runtime srcId destId ip port := by
  unfold Runtime.addDestination
  cases kind : runtime.worker.kind with
  | forward => rfl
  | stats => rfl
  | rtcp => exact absurd kind plain

theorem Runtime.removeDestination_of_plain {runtime : Runtime}
    (plain : runtime.worker.kind ≠ .rtcp) (srcId destId : Int) :
    runtime.removeDestination srcId destId =
      Worker.removeDestination runtime srcId destId := by
  unfold Runtime.removeDestination
  cases kind : runtime.worker.kind with
  | forward => rfl
  | stats => rfl
  | rtcp => exact absurd kind plain

theorem Runtime.process_step (runtime : Runtime) (fd : Int)
    (received : Received) :
    Worker.PacketStep runtime (runtime.process fd received).1 fd := by
  rw [process_eq]
  exact Worker.processWith_step (WorkerKind.notes_keeps _) runtime fd received

theorem PlainStep.of_step {os : Os} {runtime next : Runtime}
    {event : WorkerEvent} {output : WorkerOutput}
    (plain : runtime.worker.kind ≠ .rtcp)
    (stepped : runtime.step os event = .ok (next, output)) :
    PlainStep os runtime next event output := by
  cases event with
  | addSource srcId ip port =>
      rw [Runtime.step, Runtime.addSource_of_plain plain] at stepped
      cases called : Worker.addSourceWith runtime.worker.kind.newList os runtime
        srcId ip port with
      | mk accepted after =>
          rw [called] at stepped
          cases stepped
          rcases Worker.addSourceWith_cases _ os runtime srcId ip port called
            with ⟨routed, rfl, sockets, lists, routes⟩ |
              ⟨free, failed, rfl, sockets, lists, routes⟩ |
              ⟨free, opened, rfl, sockets, lists, routes⟩
          · exact .rejected routed sockets lists routes
          · exact .refused free failed sockets lists routes
          · exact .added _ free opened sockets rfl lists routes
  | removeSource srcId =>
      obtain ⟨messages, rfl, called⟩ := Runtime.step_removeSource stepped
      rw [Runtime.removeSource_of_plain plain] at called
      rcases Worker.removeSource_cases runtime srcId with
        ⟨-, faulted⟩ |
          ⟨list, after, queued, found, removed, sockets, lists, routes, -, -⟩
      · rw [faulted] at called
        cases called
      · rw [removed] at called
        cases called
        exact .removed list found sockets lists routes
  | addDestination srcId destId ip port =>
      obtain ⟨rfl, called⟩ := Runtime.step_addDestination stepped
      rw [Runtime.addDestination_of_plain plain] at called
      obtain ⟨list, changed⟩ := Worker.DestinationStep.of_addDestination called
      exact .addedDestination list changed
  | removeDestination srcId destId =>
      obtain ⟨rfl, called⟩ := Runtime.step_removeDestination stepped
      rw [Runtime.removeDestination_of_plain plain] at called
      obtain ⟨list, after, changed, filtered⟩ :=
        Worker.DestinationStep.of_removeDestination called
      exact .removedDestination list after changed filtered
  | packet fd received =>
      cases stepped
      exact .packet (Runtime.process_step runtime fd received)
  | elapse seconds =>
      cases stepped
      exact .elapsed rfl

/-! What every class keeps. -/

theorem Runtime.addSource_sameWorker (os : Os) (runtime : Runtime)
    (srcId : Int) (ip : InAddr) (port : Int) :
    let next := (runtime.addSource os srcId ip port).2
    runtime.SameWorker next ∧
      next.worker.working = runtime.worker.working := by
  unfold Runtime.addSource
  cases runtime.worker.kind with
  | forward => exact Worker.addSourceWith_sameWorker _ os runtime srcId ip port
  | stats => exact Worker.addSourceWith_sameWorker _ os runtime srcId ip port
  | rtcp => exact RtcpWorker.addSource_sameWorker os runtime srcId ip port

theorem Runtime.removeSource_stops {runtime next : Runtime} {srcId : Int}
    {messages : List Message}
    (called : runtime.removeSource srcId = .ok (next, messages)) :
    runtime.SameWorker next ∧
      ((next.worker.working = runtime.worker.working ∧ messages = []) ∨
        (runtime.worker.kind ≠ .rtcp ∧
          next.worker.streams.isEmpty = true ∧ next.worker.working = false ∧
          messages = [runtime.worker.idleMessage])) := by
  rcases eq_or_ne runtime.worker.kind .rtcp with rtcp | plain
  · unfold Runtime.removeSource at called
    rw [rtcp] at called
    rcases RtcpWorker.removeSource_cases runtime srcId with
      ⟨-, faulted⟩ |
        ⟨list, list2, after, -, -, removed, -, -, -, same, working⟩
    · rw [faulted] at called
      cases called
    · rw [removed] at called
      cases called
      exact ⟨same, .inl ⟨working, rfl⟩⟩
  · rw [Runtime.removeSource_of_plain plain] at called
    rcases Worker.removeSource_cases runtime srcId with
      ⟨-, faulted⟩ |
        ⟨list, after, queued, -, removed, -, -, -, same, stops | kept⟩
    · rw [faulted] at called
      cases called
    · rw [removed] at called
      cases called
      exact ⟨same, .inr ⟨plain, stops⟩⟩
    · rw [removed] at called
      cases called
      exact ⟨same, .inl kept.2⟩

theorem Runtime.addDestination_streamsOnly {runtime next : Runtime}
    {srcId destId : Int} {ip : InAddr} {port : Int}
    (called : runtime.addDestination srcId destId ip port = .ok next) :
    runtime.StreamsOnly next := by
  rcases eq_or_ne runtime.worker.kind .rtcp with rtcp | plain
  · rw [Runtime.addDestination_of_rtcp rtcp] at called
    obtain ⟨_, -, -, read⟩ | ⟨_, _, changed⟩ :=
      RtcpWorker.addDestination_ok called
    · exact read.streamsOnly
    · exact changed.streamsOnly
  · rw [Runtime.addDestination_of_plain plain] at called
    obtain ⟨list, changed⟩ := Worker.DestinationStep.of_addDestination called
    exact changed.streamsOnly

theorem Runtime.removeDestination_streamsOnly {runtime next : Runtime}
    {srcId destId : Int}
    (called : runtime.removeDestination srcId destId = .ok next) :
    runtime.StreamsOnly next := by
  rcases eq_or_ne runtime.worker.kind .rtcp with rtcp | plain
  · rw [Runtime.removeDestination_of_rtcp rtcp] at called
    obtain ⟨_, -, -, read⟩ | ⟨_, _, changed⟩ :=
      RtcpWorker.removeDestination_ok called
    · exact read.streamsOnly
    · exact changed.streamsOnly
  · rw [Runtime.removeDestination_of_plain plain] at called
    obtain ⟨list, after, changed, -⟩ :=
      Worker.DestinationStep.of_removeDestination called
    exact changed.streamsOnly

theorem Runtime.step_sameWorker {os : Os} {runtime next : Runtime}
    {event : WorkerEvent} {output : WorkerOutput}
    (stepped : runtime.step os event = .ok (next, output)) :
    runtime.SameWorker next := by
  cases event with
  | addSource srcId ip port =>
      cases stepped
      exact (Runtime.addSource_sameWorker os runtime srcId ip port).1
  | removeSource srcId =>
      obtain ⟨messages, rfl, called⟩ := Runtime.step_removeSource stepped
      exact (Runtime.removeSource_stops called).1
  | addDestination srcId destId ip port =>
      obtain ⟨rfl, called⟩ := Runtime.step_addDestination stepped
      exact (Runtime.addDestination_streamsOnly called).sameWorker
  | removeDestination srcId destId =>
      obtain ⟨rfl, called⟩ := Runtime.step_removeDestination stepped
      exact (Runtime.removeDestination_streamsOnly called).sameWorker
  | packet fd received =>
      cases stepped
      exact (Runtime.process_step runtime fd received).sameWorker
  | elapse seconds =>
      cases stepped
      exact ⟨rfl, rfl⟩

theorem workerMachine_run_kind {os : Os} {kind : WorkerKind} {workerId : Int}
    {kernel : Kernel} {Record : Type y}
    {observer : Observer WorkerEvent WorkerOutput Record}
    {Allowed : Runtime → Record → WorkerEvent → Prop}
    {runtime : Runtime} {record : Record}
    (run : (workerMachine os).Run observer Allowed
      (Runtime.start kind workerId kernel) runtime record) :
    runtime.worker.kind = kind := by
  refine Machine.Run.invariant (motive := fun state _ =>
    state.worker.kind = kind) rfl ?_ run
  intro state next record event output kept _ stepped
  exact (Runtime.step_sameWorker stepped).1.trans kept

end StrManager
