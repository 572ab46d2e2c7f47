import StrManager.Manager.Answers

namespace StrManager

open Library Function

/-! Sources and workers that leave each other alone. -/

def ManagerEvent.server : ManagerEvent → ManagerOutput → Option Nat
  | .packet worker _ _, _ => some worker
  | _, .returned _ server | _, .time _ server => server
  | _, .sent _ | _, .quiet => none

theorem Manager.Chosen.others {manager middle : Manager} {workerType : Int}
    {worker other : Nat} (chosen : manager.Chosen workerType worker middle)
    (different : other ≠ worker) :
    middle.workers other = manager.workers other := by
  cases chosen with
  | found key entry sameType => rfl
  | created kind absent supported => exact update_of_ne different _ _

theorem ManagerStep.others {os : Os} {maxWorkers : Int}
    {manager next : Manager} {event : ManagerEvent} {output : ManagerOutput}
    (step : ManagerStep os maxWorkers manager next event output) {other : Nat}
    (elsewhere : event.server output ≠ some other) :
    next.workers other = manager.workers other := by
  have away {worker : Nat} (served : event.server output = some worker) :
      other ≠ worker := by
    rintro rfl
    exact elsewhere served
  cases step with
  | unsupported unknownType same => rw [same]
  | rejected middle runtime chosen called put =>
      have different := away rfl
      rw [put, ← chosen.others different]
      exact update_of_ne different _ _
  | accepted middle runtime chosen called committed =>
      have different := away rfl
      rw [committed, ← chosen.others different]
      exact update_of_ne different _ _
  | unknown names missing same unserved => rw [same]
  | removed runtime messages mapped called put =>
      rw [put]
      exact update_of_ne (away rfl) _ _
  | destination runtime calls mapped called put =>
      obtain ⟨destId, ip, port, rfl, rfl⟩ | ⟨destId, rfl, rfl⟩ :=
        ManagerEvent.destinationCall_cases calls
      · rw [put]
        exact update_of_ne (away rfl) _ _
      · rw [put]
        exact update_of_ne (away rfl) _ _
  | read runtime mapped called put =>
      rw [put]
      exact update_of_ne (away rfl) _ _
  | handled same =>
      rw [same, manager.handleMessage_kept.1]
  | packet put =>
      rw [put]
      exact update_of_ne (away rfl) _ _
  | timedOut same =>
      rw [same]
      rfl
  | elapsed same => rw [same]

/-- The descriptors of the workers are open, bound to the port they are stored
for, and each belongs to one worker; no port is open at two workers. -/
structure Manager.Apart (manager : Manager) : Prop where
  bound : ∀ worker port fd,
    (manager.workers worker).ports.portFd.lookup port = some fd →
    manager.kernel.sockets.lookup fd = some (some (htons port))
  owner : ∀ first second fd, (manager.workers first).ports.Holds fd →
    (manager.workers second).ports.Holds fd → first = second
  opener : ∀ first second port port2 fd fd2,
    (manager.workers first).ports.portFd.lookup port = some fd →
    (manager.workers second).ports.portFd.lookup port2 = some fd2 →
    htons port = htons port2 → first = second ∧ fd = fd2

theorem Manager.Hosts.apart {manager : Manager} {registries : Nat → Registry}
    {reflector : Reflector} (hosts : manager.Hosts registries reflector) :
    manager.Apart := by
  have bound : ∀ worker port fd,
      (manager.workers worker).ports.portFd.lookup port = some fd →
      manager.kernel.sockets.lookup fd = some (some (htons port)) :=
    fun worker => (hosts.serves worker).described.bound
  refine ⟨bound, fun _ _ _ => hosts.shared.apart, ?_⟩
  intro first second port port2 fd fd2 listening listening2 same
  have isBound := bound first port fd listening
  have isBound2 := bound second port2 fd2 listening2
  rw [same] at isBound
  exact ⟨hosts.sameWorker ⟨port, listening⟩ isBound ⟨port2, listening2⟩
    isBound2, hosts.unique fd fd2 _ isBound isBound2⟩

/-- In every run the workers own their descriptors and ports, and a step
leaves the other workers as they are, down to the descriptors they hold. -/
theorem managerMachine_run_apart {os : Os} (exclusive : os.Exclusive)
    {maxWorkers : Int} {kernel : Kernel} (unique : kernel.OnePerPort)
    {manager : Manager} {reflector : Reflector}
    (run : (managerMachine os maxWorkers).Run Reflector.observer ReflectorUse
      (Manager.start kernel) manager reflector) :
    manager.Apart ∧
      ∀ event next output, ReflectorUse manager reflector event →
        (managerMachine os maxWorkers).step manager event =
          .ok (next, output) →
        ∀ other, event.server output ≠ some other →
          next.workers other = manager.workers other ∧
            ∀ fd, (manager.workers other).ports.Holds fd →
              next.kernel.sockets.lookup fd =
                manager.kernel.sockets.lookup fd := by
  obtain ⟨registries, hosts⟩ := managerMachine_run_hosts exclusive unique run
  have apart := hosts.apart
  refine ⟨apart, ?_⟩
  intro event next output allowed stepped other elsewhere
  have step : ManagerStep os maxWorkers manager next event output :=
    .of_step stepped
  have same := step.others elsewhere
  refine ⟨same, ?_⟩
  intro fd holds
  obtain ⟨port, listening⟩ := holds
  obtain ⟨after, nextHosts⟩ := hosts.step exclusive allowed.1 allowed.2 stepped
  rw [apart.bound other port fd listening]
  apply nextHosts.apart.bound other
  rw [same]
  exact listening

theorem managerMachine_run_apart_classes :
    ∃ manager reflector,
      (managerMachine .orderly 10).Run Reflector.observer ReflectorUse
        (Manager.start .fresh) manager reflector ∧
      manager.Apart ∧ reflector 1 ≠ none ∧ reflector 2 ≠ none := by
  have run : (managerMachine .orderly 10).Run Reflector.observer ReflectorUse
      (Manager.start .fresh) _ _ :=
    .of_replay [.addSource 1 1 1 5000, .addSource 4 2 1 6000,
      .addSource 1 3 1 6001] (by decide)
  exact ⟨_, _, run, (managerMachine_run_apart Os.orderly_exclusive
    Kernel.OnePerPort.fresh run).1, by decide, by decide⟩

/-! A worker without lists stops, and stays in the pool until the handler takes
it out. -/

def Manager.Attended (manager : Manager) : Prop :=
  ∀ srcId worker, manager.srcIdWorker.lookup srcId = some worker →
    (manager.workers worker).working = true

/-- A source is added when the pool has no stopped worker of its type. -/
def ManagerEvent.Attended (manager : Manager) : ManagerEvent → Prop
  | .addSource workerType _ _ _ =>
      ∀ key worker, manager.workerIdWorker.lookup key = some worker →
        (manager.workers worker).getWorkerType = workerType →
        (manager.workers worker).working = true
  | _ => True

instance (manager : Manager) (event : ManagerEvent) :
    Decidable (event.Attended manager) :=
  match event with
  | .addSource _ _ _ _ =>
      inferInstanceAs (Decidable (∀ key worker,
        manager.workerIdWorker.lookup key = some worker → _))
  | .removeSource _ | .addDestination _ _ _ _ | .removeDestination _ _
  | .readTimeStamp _ | .handleMessage | .packet _ _ _ | .selectTimeout _
  | .elapse _ => isTrue trivial

namespace RemovedStep

variable {manager next : Manager} {srcId : Int} {worker : Nat}
  {runtime : Runtime} {messages : List Message}

theorem attended (removed : RemovedStep manager next srcId worker runtime
    messages) (present : next.Present) (attended : manager.Attended) :
    next.Attended := by
  intro other server mapped
  have before := attended other server (removed.mapped_before mapped).2
  rcases eq_or_ne server worker with rfl | elsewhere
  · have lists := (present other server mapped).1
    rw [removed.worker_eq] at lists ⊢
    obtain ⟨-, ⟨kept, -⟩ | ⟨-, empty, -, -⟩⟩ :=
      Runtime.removeSource_stops removed.called
    · rwa [kept]
    · obtain ⟨list, stored⟩ := Option.isSome_iff_exists.mp lists
      rw [StreamTables.isEmpty_eq_false stored] at empty
      cases empty
  · rwa [removed.other_eq elsewhere]

end RemovedStep

theorem AcceptedStep.attended {os : Os} {maxWorkers : Int}
    {manager next middle : Manager} {workerType srcId : Int} {ip : InAddr}
    {port : Int} {worker : Nat} {runtime : Runtime}
    (accepted : AcceptedStep os maxWorkers manager next workerType srcId ip port
      worker middle runtime)
    (running : (ManagerEvent.addSource workerType srcId ip port).Attended
      manager) (attended : manager.Attended) : next.Attended := by
  intro other server mapped
  rcases eq_or_ne server worker with rfl | elsewhere
  · rw [accepted.worker_kept.2]
    cases accepted.chosen with
    | found key entry sameType => exact running key server entry sameType
    | created kind absent supported =>
        rw [Manager.create_workers, update_self]
        rfl
  · rw [accepted.other_eq elsewhere]
    obtain ⟨-, same⟩ | ⟨-, before⟩ := accepted.mapped mapped
    · exact absurd same elsewhere
    · exact attended other server before

theorem ManagerStep.attended {os : Os} {maxWorkers : Int}
    {manager next : Manager} {event : ManagerEvent} {output : ManagerOutput}
    (step : ManagerStep os maxWorkers manager next event output)
    (filed : manager.Filed) (present : next.Present)
    (attended : manager.Attended) (running : event.Attended manager) :
    next.Attended := by
  rcases step.changes with
    quiet | ⟨_, _, _, _, -, -, removed⟩ |
      ⟨_, _, _, _, _, _, _, rfl, -, accepted⟩
  · intro srcId worker mapped
    rw [quiet.sources] at mapped
    rw [quiet.working worker (filed.sources srcId worker mapped)]
    exact attended srcId worker mapped
  · exact removed.attended present attended
  · exact accepted.attended running attended

/-- A running worker polls a descriptor for the port of the stream, and what is
received there from its address goes to its destinations and nowhere else. -/
structure Manager.Relays (os : Os) (maxWorkers : Int) (manager : Manager)
    (stream : Registration) : Prop where
  reachable : ∃ worker < manager.allocated, ∃ fd,
    (manager.workers worker).working = true ∧
    (manager.workers worker).polls fd = true ∧
    manager.kernel.sockets.lookup fd = some (some stream.addr.sinPort)
  relayed : ∀ worker fd received,
    (manager.workers worker).polls fd = true →
    manager.kernel.sockets.lookup fd = some (some stream.addr.sinPort) →
    received.sender.sinAddr = stream.addr.sinAddr → 0 < received.rlen.toNat →
    ∃ next, manager.step os maxWorkers (.packet worker fd received) =
      .ok (next, .sent (relays fd received stream.destinations))

theorem Manager.Hosts.relaying {os : Os} {maxWorkers : Int} {manager : Manager}
    {registries : Nat → Registry} {reflector : Reflector}
    (hosts : manager.Hosts registries reflector) (attended : manager.Attended)
    {srcId : Int} {flow : Flow} {stream : Registration}
    (found : reflector srcId = some flow) (member : stream ∈ flow.streams) :
    manager.Relays os maxWorkers stream where
  reachable := by
    obtain ⟨worker, fd, mapped, -, -, holds, bound⟩ :=
      hosts.hosted found member
    exact ⟨worker, hosts.sources srcId worker mapped, fd,
      attended srcId worker mapped, (Worker.polls_iff _ _).mpr holds, bound⟩
  relayed := by
    intro worker fd received polled bound sender content
    have reflected : reflector.Reflects stream := ⟨srcId, flow, found, member⟩
    have sent : ((manager.runtime worker).process fd received).2 =
        relays fd received stream.destinations := by
      have answer := hosts.packet polled received
      generalize ((manager.runtime worker).process fd received).2 = sent
        at answer
      cases answer with
      | @reflected _ _ _ other port hosted content known addressed =>
          rw [bound] at hosted
          cases hosted
          have same : other.addr = stream.addr := by
            rw [addressed, sender]
          rw [hosts.distinct.stream_eq known reflected same]
      | dropped hosted stray =>
          rw [bound] at hosted
          cases hosted
          refine absurd ?_ (stray content stream reflected)
          rw [sender]
    refine ⟨manager.put worker
      ((manager.runtime worker).process fd received).1, ?_⟩
    rw [← sent]
    rfl

def LedgerUse (manager : Manager) (calls : List ManagerEvent)
    (event : ManagerEvent) : Prop :=
  ReflectorUse manager (Reflector.after calls) event ∧ event.Attended manager

instance (manager : Manager) (calls : List ManagerEvent)
    (event : ManagerEvent) : Decidable (LedgerUse manager calls event) :=
  inferInstanceAs (Decidable (_ ∧ _))

theorem managerMachine_run_ledger {os : Os} {maxWorkers : Int}
    {kernel : Kernel} {manager : Manager} {calls : List ManagerEvent}
    (run : (managerMachine os maxWorkers).Run Reflector.ledger LedgerUse
      (Manager.start kernel) manager calls) :
    (managerMachine os maxWorkers).Run Reflector.observer ReflectorUse
      (Manager.start kernel) manager (Reflector.after calls) :=
  run.project Reflector.after rfl Reflector.after_ledger And.left

theorem managerMachine_run_attended {os : Os} (exclusive : os.Exclusive)
    {maxWorkers : Int} {kernel : Kernel} (unique : kernel.OnePerPort)
    {manager : Manager} {calls : List ManagerEvent}
    (run : (managerMachine os maxWorkers).Run Reflector.ledger LedgerUse
      (Manager.start kernel) manager calls) : manager.Attended := by
  refine run.invariant_of (motive := fun manager _ => manager.Attended)
    (fun run => managerMachine_run_hosts exclusive unique
      (managerMachine_run_ledger run)) ?_ ?_
  · intro srcId worker mapped
    cases mapped
  · intro manager next calls event output known attended allowed stepped
    obtain ⟨registries, hosts⟩ := known
    obtain ⟨after, nextHosts⟩ :=
      hosts.step exclusive allowed.1.1 allowed.1.2 stepped
    have step : ManagerStep os maxWorkers manager next event output :=
      .of_step stepped
    exact step.attended hosts.toFiled nextHosts.present attended allowed.2

/-- What becomes of the packets of a source depends on the calls about this
source alone: in two processes that carried out the same calls about it, it
has the same streams, and both relay them alike. -/
theorem relays_alike {os os2 : Os} (exclusive : os.Exclusive)
    (exclusive2 : os2.Exclusive) {maxWorkers maxWorkers2 : Int}
    {kernel kernel2 : Kernel} (unique : kernel.OnePerPort)
    (unique2 : kernel2.OnePerPort) {manager manager2 : Manager}
    {calls calls2 : List ManagerEvent}
    (run : (managerMachine os maxWorkers).Run Reflector.ledger LedgerUse
      (Manager.start kernel) manager calls)
    (run2 : (managerMachine os2 maxWorkers2).Run Reflector.ledger LedgerUse
      (Manager.start kernel2) manager2 calls2) {srcId : Int}
    (same : Reflector.about srcId calls = Reflector.about srcId calls2) :
    Reflector.after calls2 srcId = Reflector.after calls srcId ∧
      ∀ flow, Reflector.after calls srcId = some flow →
        ∀ stream ∈ flow.streams, manager.Relays os maxWorkers stream ∧
          manager2.Relays os2 maxWorkers2 stream := by
  have agree : Reflector.after calls2 srcId = Reflector.after calls srcId :=
    (Reflector.keyed.foldl_eq _ same).symm
  obtain ⟨registries, hosts⟩ := managerMachine_run_hosts exclusive unique
    (managerMachine_run_ledger run)
  obtain ⟨registries2, hosts2⟩ := managerMachine_run_hosts exclusive2 unique2
    (managerMachine_run_ledger run2)
  refine ⟨agree, ?_⟩
  intro flow found stream member
  exact ⟨hosts.relaying (managerMachine_run_attended exclusive unique run)
      found member,
    hosts2.relaying (managerMachine_run_attended exclusive2 unique2 run2)
      (agree.trans found) member⟩

/-- The second process has other sources as well, and refused one. -/
theorem relays_alike_crowded :
    ∃ manager manager2 calls calls2 stream,
      (managerMachine .orderly 10).Run Reflector.ledger LedgerUse
        (Manager.start .fresh) manager calls ∧
      (managerMachine .orderly 2).Run Reflector.ledger LedgerUse
        (Manager.start .fresh) manager2 calls2 ∧
      stream.destinations = [⟨3, ⟨9, 8001⟩⟩] ∧
      manager.Relays .orderly 10 stream ∧
      manager2.Relays .orderly 2 stream := by
  have run : (managerMachine .orderly 10).Run Reflector.ledger LedgerUse
      (Manager.start .fresh) _ _ :=
    .of_replay [.addSource 4 4 1 5000, .addDestination 4 2 9 8000] (by decide)
  have run2 : (managerMachine .orderly 2).Run Reflector.ledger LedgerUse
      (Manager.start .fresh) _ _ :=
    .of_replay [.addSource 1 1 1 6000, .addSource 4 4 1 5000,
      .addDestination 1 9 9 8000, .addSource 1 8 1 5001,
      .addDestination 4 2 9 8000, .removeSource 1, .handleMessage] (by decide)
  obtain ⟨-, alike⟩ := relays_alike Os.orderly_exclusive Os.orderly_exclusive
    Kernel.OnePerPort.fresh Kernel.OnePerPort.fresh run run2
    (show Reflector.about 4 _ = _ by rfl)
  obtain ⟨first, second⟩ := alike _ rfl
    ⟨⟨1, 5001⟩, [⟨3, ⟨9, 8001⟩⟩]⟩ (by decide)
  exact ⟨_, _, _, _, _, run, run2, rfl, first, second⟩

end StrManager
