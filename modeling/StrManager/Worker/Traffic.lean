import StrManager.Worker.Events

namespace StrManager

open Library Function

/-! What traffic alone does to the tables of a worker. -/

def StreamList.unstamped (list : StreamList) : StreamList :=
  { list with
    timeStamp := none
    counters := list.counters.map fun counters =>
      { counters with inputBytes := 0 } }

structure Arrival where
  seconds : Nat
  fd : Int
  received : Received

def Runtime.arrive (runtime : Runtime) (arrival : Arrival) : Runtime :=
  ((runtime.elapse arrival.seconds).process arrival.fd arrival.received).1

def Runtime.arriveAll (runtime : Runtime) (arrivals : List Arrival) : Runtime :=
  arrivals.foldl Runtime.arrive runtime

namespace Worker

/-- The routing state is the same, but for time stamps and byte counters. -/
structure Untouched (before after : Worker) : Prop where
  ports : after.ports = before.ports
  forwarding : after.streams.forwarding = before.streams.forwarding
  management : ∀ listId,
    (after.streams.management.lookup listId).map
        (Option.map StreamList.unstamped) =
      (before.streams.management.lookup listId).map
        (Option.map StreamList.unstamped)
  size : after.streams.management.size = before.streams.management.size

def routed (worker : Worker) (arrival : Arrival) : Int :=
  worker.streams.routes (worker.lookupAddr arrival.fd arrival.received)

structure Holds (worker : Worker) (arrival : Arrival) : Prop where
  fdPort : (worker.ports.fdPort.lookup arrival.fd).isSome = true
  forwarding : (worker.streams.forwarding.lookup
    (worker.lookupAddr arrival.fd arrival.received)).isSome = true
  management : (worker.streams.management.lookup
    (worker.routed arrival)).isSome = true

/-- A packet without content is not looked up at all. -/
def Knows (worker : Worker) (arrival : Arrival) : Prop :=
  0 < arrival.received.rlen.toNat → worker.Holds arrival

structure Grown (before after : Worker) : Prop where
  fdPort : after.ports.fdPort.subscript 0 = before.ports.fdPort.subscript 0
  routes : after.streams.routes = before.streams.routes
  fds : before.ports.fdPort.Within after.ports.fdPort
  addrs : before.streams.forwarding.Within after.streams.forwarding
  listIds : before.streams.management.Within after.streams.management

theorem Untouched.refl (worker : Worker) : Untouched worker worker :=
  ⟨rfl, rfl, fun _ => rfl, rfl⟩

theorem Untouched.trans {before middle after : Worker}
    (left : Untouched before middle) (right : Untouched middle after) :
    Untouched before after :=
  ⟨right.ports.trans left.ports, right.forwarding.trans left.forwarding,
    fun listId => (right.management listId).trans (left.management listId),
    right.size.trans left.size⟩

theorem Grown.refl (worker : Worker) : Grown worker worker :=
  ⟨rfl, rfl, .refl _, .refl _, .refl _⟩

theorem Grown.trans {before middle after : Worker}
    (left : Grown before middle) (right : Grown middle after) :
    Grown before after :=
  ⟨right.fdPort.trans left.fdPort, right.routes.trans left.routes,
    left.fds.trans right.fds, left.addrs.trans right.addrs,
    left.listIds.trans right.listIds⟩

theorem Grown.lookupAddr {before after : Worker} (grown : Grown before after)
    (fd : Int) (received : Received) :
    after.lookupAddr fd received = before.lookupAddr fd received := by
  unfold Worker.lookupAddr
  rw [grown.fdPort]

theorem Grown.routed {before after : Worker} (grown : Grown before after)
    (arrival : Arrival) : after.routed arrival = before.routed arrival := by
  unfold Worker.routed
  rw [grown.lookupAddr, grown.routes]

theorem Grown.holds {before after : Worker} (grown : Grown before after)
    {arrival : Arrival} (holds : before.Holds arrival) :
    after.Holds arrival where
  fdPort := grown.fds _ holds.fdPort
  forwarding := by
    rw [grown.lookupAddr]
    exact grown.addrs _ holds.forwarding
  management := by
    rw [grown.routed]
    exact grown.listIds _ holds.management

theorem Untouched.symm {before after : Worker}
    (untouched : Untouched before after) : Untouched after before :=
  ⟨untouched.ports.symm, untouched.forwarding.symm,
    fun listId => (untouched.management listId).symm, untouched.size.symm⟩

theorem Untouched.grown {before after : Worker}
    (untouched : Untouched before after) : Grown before after where
  fdPort := by rw [untouched.ports]
  routes := by
    unfold StreamTables.routes
    rw [untouched.forwarding]
  fds := by
    rw [untouched.ports]
    exact .refl _
  addrs := by
    rw [untouched.forwarding]
    exact .refl _
  listIds := by
    intro listId present
    have same := congrArg Option.isSome (untouched.management listId)
    simp only [Option.isSome_map] at same
    exact same.trans present

structure ArrivalStep (before after : Worker) (arrival : Arrival) : Prop where
  ports : after.ports = { before.ports with
    fdPort := before.ports.fdPort.touch 0 arrival.fd }
  forwarding : after.streams.forwarding = before.streams.forwarding.touch 0
    (before.lookupAddr arrival.fd arrival.received)
  management : after.streams.management =
      before.streams.management.touch none (before.routed arrival) ∨
    ∃ list noted,
      before.streams.management.lookup (before.routed arrival) =
        some (some list) ∧
      noted.unstamped = list.unstamped ∧
      after.streams.management = before.streams.management.insert
        (before.routed arrival) (some noted)

end Worker

theorem WorkerKind.notes_unstamped {kind : WorkerKind} {clock : Int}
    {rlen : BitVec 32} {list noted : StreamList}
    (accepted : kind.notes.note clock rlen list = some noted) :
    noted.unstamped = list.unstamped := by
  cases kind with
  | forward | rtcp =>
      cases accepted
      rfl
  | stats =>
      obtain ⟨counters, found, rfl⟩ := Option.map_eq_some_iff.mp accepted
      simp [StreamList.unstamped, found]

theorem Runtime.process_cases (runtime : Runtime) (arrival : Arrival) :
    let next := (runtime.process arrival.fd arrival.received).1
    (arrival.received.rlen.toNat = 0 ∧ next.worker = runtime.worker) ∨
      (0 < arrival.received.rlen.toNat ∧
        Worker.ArrivalStep runtime.worker next.worker arrival) := by
  rw [process_eq]
  unfold Worker.processWith
  split
  · rename_i content
    simp only [StreamTables.getStreamListBySocket_fst]
    refine .inr ⟨content, ?_⟩
    split
    · exact ⟨rfl, rfl, .inl rfl⟩
    · rename_i list found
      split
      · exact ⟨rfl, rfl, .inl rfl⟩
      · rename_i noted accepted
        have stored := StreamTables.lookup_of_lists found
        refine ⟨rfl, rfl, .inr ⟨list, noted, stored,
          WorkerKind.notes_unstamped accepted, ?_⟩⟩
        change (runtime.worker.streams.management.touch none _).insert _
          (some noted) = _
        rw [Table.touch_of_lookup none stored]
        rfl
  · exact .inl ⟨by omega, rfl⟩

theorem Runtime.arrive_cases (runtime : Runtime) (arrival : Arrival) :
    (arrival.received.rlen.toNat = 0 ∧
      (runtime.arrive arrival).worker = runtime.worker) ∨
    (0 < arrival.received.rlen.toNat ∧
      Worker.ArrivalStep runtime.worker (runtime.arrive arrival).worker
        arrival) :=
  (runtime.elapse arrival.seconds).process_cases arrival

namespace Worker.ArrivalStep

variable {before after : Worker} {arrival : Arrival}

theorem grown (step : ArrivalStep before after arrival) :
    Grown before after where
  fdPort := by
    rw [step.ports]
    exact Table.subscript_touch _ _ _
  routes := by
    unfold StreamTables.routes
    rw [step.forwarding]
    exact Table.subscript_touch _ _ _
  fds := by
    rw [step.ports]
    exact .touch _ _ _
  addrs := by
    rw [step.forwarding]
    exact .touch _ _ _
  listIds := by
    rcases step.management with touched | ⟨list, noted, -, -, noting⟩
    · rw [touched]
      exact .touch _ _ _
    · rw [noting]
      exact .insert _ _ _

theorem holds (step : ArrivalStep before after arrival) :
    after.Holds arrival where
  fdPort := by
    rw [step.ports]
    exact Table.lookup_touch_isSome _ _ _
  forwarding := by
    rw [step.grown.lookupAddr, step.forwarding]
    exact Table.lookup_touch_isSome _ _ _
  management := by
    rw [step.grown.routed]
    rcases step.management with touched | ⟨list, noted, -, -, noting⟩
    · rw [touched]
      exact Table.lookup_touch_isSome _ _ _
    · simp [noting, Table.lookup_insert]

theorem untouched (step : ArrivalStep before after arrival)
    (holds : before.Holds arrival) : Untouched before after where
  ports := by
    rw [step.ports, Table.touch_of_isSome 0 holds.fdPort]
  forwarding := by
    rw [step.forwarding, Table.touch_of_isSome 0 holds.forwarding]
  management := by
    intro listId
    rcases step.management with touched | ⟨list, noted, found, same, noting⟩
    · rw [touched, Table.touch_of_isSome none holds.management]
    · rw [noting, Table.lookup_insert]
      split
      · rename_i here
        simp [here, found, same]
      · rfl
  size := by
    rcases step.management with touched | ⟨list, noted, found, -, noting⟩
    · rw [touched, Table.touch_of_isSome none holds.management]
    · rw [noting, Table.size_insert_of_lookup _ found]

end Worker.ArrivalStep

namespace Runtime

theorem arrive_grown (runtime : Runtime) (arrival : Arrival) :
    Worker.Grown runtime.worker (runtime.arrive arrival).worker := by
  rcases runtime.arrive_cases arrival with ⟨-, same⟩ | ⟨-, step⟩
  · rw [same]
    exact .refl _
  · exact step.grown

theorem arriveAll_grown (runtime : Runtime) (arrivals : List Arrival) :
    Worker.Grown runtime.worker (runtime.arriveAll arrivals).worker := by
  induction arrivals generalizing runtime with
  | nil => exact .refl _
  | cons arrival rest ih =>
      exact (runtime.arrive_grown arrival).trans (ih (runtime.arrive arrival))

theorem arriveAll_knows (runtime : Runtime) (arrivals : List Arrival) :
    ∀ arrival ∈ arrivals,
      (runtime.arriveAll arrivals).worker.Knows arrival := by
  induction arrivals generalizing runtime with
  | nil => simp
  | cons first rest ih =>
      intro arrival member content
      rcases List.mem_cons.mp member with rfl | later
      · rcases runtime.arrive_cases arrival with
          ⟨empty, -⟩ | ⟨-, step⟩
        · omega
        · exact ((runtime.arrive arrival).arriveAll_grown rest).holds step.holds
      · exact ih (runtime.arrive first) arrival later content

theorem arrive_untouched {runtime : Runtime} {arrival : Arrival}
    (knows : runtime.worker.Knows arrival) :
    Worker.Untouched runtime.worker (runtime.arrive arrival).worker := by
  rcases runtime.arrive_cases arrival with ⟨-, same⟩ | ⟨content, step⟩
  · rw [same]
    exact .refl _
  · exact step.untouched (knows content)

theorem arriveAll_untouched {runtime : Runtime} {arrivals : List Arrival}
    (knows : ∀ arrival ∈ arrivals, runtime.worker.Knows arrival) :
    Worker.Untouched runtime.worker (runtime.arriveAll arrivals).worker := by
  induction arrivals generalizing runtime with
  | nil => exact .refl _
  | cons first rest ih =>
      have untouched := arrive_untouched (knows first (by simp))
      refine untouched.trans (ih ?_)
      intro arrival later content
      exact untouched.grown.holds
        (knows arrival (by simp [later]) content)

end Runtime

/-- Packets leave the routing state alone exactly when none of them makes
`process` subscript an absent key. -/
theorem traffic_untouched_iff (runtime : Runtime) (arrivals : List Arrival) :
    Worker.Untouched runtime.worker (runtime.arriveAll arrivals).worker ↔
      ∀ arrival ∈ arrivals, runtime.worker.Knows arrival := by
  constructor
  · intro untouched arrival member content
    exact untouched.symm.grown.holds
      (runtime.arriveAll_knows arrivals arrival member content)
  · exact Runtime.arriveAll_untouched

/-- One datagram from a stranger adds a route to list 0 and a null list 0. -/
theorem traffic_touched :
    ∃ runtime registry arrivals,
      (workerMachine .orderly).Run Registry.observer
        (fun runtime registry event =>
          event.Registered registry ∧ event.Polled runtime)
        (Runtime.start .forward 0 .fresh) runtime registry ∧
      ¬ Worker.Untouched runtime.worker
        (runtime.arriveAll arrivals).worker := by
  have run : (workerMachine .orderly).Run Registry.observer
      (fun runtime registry event =>
        event.Registered registry ∧ event.Polled runtime)
      (Runtime.start .forward 0 .fresh) _ _ :=
    .of_replay [.addSource 1 1 5000] (by decide)
  refine ⟨_, _, [⟨0, 3, .datagram (SockAddr.ofPort 9 6000) [7]⟩], run, ?_⟩
  intro untouched
  have size := untouched.size
  exact absurd size (by decide)

end StrManager
