import StrManager.Library.Blocks
import StrManager.Library.Dotted
import StrManager.Manager.Answers

namespace StrManager

open Library

/-! The listings of the manager: its workers with their lists, the sources of
the workers, and their ports. The program visits a table bucket by bucket; here
the latest entry comes first, and the results use only whether two orders are
equal. -/

open Text Dotted

def UdpStream.printStream (stream : UdpStream) : Text :=
  "udpStream: ".toList ++ decimal stream.id ++
    ' ' :: inetNtoa stream.addr.sinAddr ++
    ':' :: decimal (ntohs stream.addr.sinPort) ++ ['\n']

def StreamList.printList (list : StreamList) : Text :=
  "Printing streamList ".toList ++ decimal list.listId ++
    "\nSource:\n".toList ++ list.source.printStream ++
    "\nDestinations:\n".toList ++
    list.destinations.flatMap fun stream => stream.printStream ++ ['\n']

namespace Worker

/-- Null lists are left out. -/
def printManagement (worker : Worker) : Text :=
  "Replication lists of worker ".toList ++ decimal worker.workerId ++ ['\n'] ++
    worker.streams.management.entries.flatMap fun entry =>
      match entry.2 with
      | none => []
      | some list => list.printList ++ ['\n']

def printForwarding (worker : Worker) : Text :=
  "Sources of: ".toList ++ decimal worker.workerId ++ ['\n'] ++
    worker.streams.forwarding.entries.flatMap fun entry =>
      "ListID: ".toList ++ decimal entry.2 ++ ['\n']

/-- `workerId + "\n"` is the end of this literal from the place `workerId` on,
and undefined past it. -/
def lineEnd (worker : Worker) : Option Text :=
  if worker.workerId = 0 then some ['\n']
  else if worker.workerId = 1 then some []
  else none

def portLine (worker : Worker) (entry : Sigma fun _ : Int => Int) :
    Option Text :=
  worker.lineEnd.map fun ending =>
    decimal entry.1 ++ ' ' :: decimal entry.2 ++
      " in socketWoker ".toList ++ ending

def printPortFd (worker : Worker) : Option Text :=
  (worker.ports.portFd.entries.mapM worker.portLine).map fun lines =>
    "portFd size = ".toList ++ decimal worker.ports.portFd.entries.length ++
      " in socketWoker ".toList ++ decimal worker.workerId ++
      '\n' :: lines.flatten

end Worker

namespace Manager

def printManagement (manager : Manager) : Text :=
  "Printing management list of all workers\n".toList ++
    manager.workerIdWorker.entries.flatMap fun entry =>
      (manager.workers entry.2).printManagement ++ ['\n']

/-- A worker is listed once for each of its sources. -/
def printForwarding (manager : Manager) : Text :=
  "Printing forwarding list of all workers\n".toList ++
    manager.srcIdWorker.entries.flatMap fun entry =>
      (manager.workers entry.2).printForwarding ++ ['\n']

def printPortFd (manager : Manager) : Option Text :=
  (manager.srcIdWorker.entries.mapM fun entry =>
    (manager.workers entry.2).printPortFd.map fun text => text ++ ['\n']).map
      fun texts => "Printing PortFd list of all workers\n".toList ++
        texts.flatten

end Manager

/-! What a listing of the workers shows. -/

structure ListedList where
  listId : Int
  source : UdpStream
  destinations : List UdpStream
  deriving DecidableEq

structure ListedWorker where
  workerId : Int
  lists : List ListedList
  deriving DecidableEq

def StreamList.listed (list : StreamList) : ListedList where
  listId := list.listId
  source := list.source
  destinations := list.destinations

def Worker.listed (worker : Worker) : ListedWorker where
  workerId := worker.workerId
  lists := worker.streams.management.entries.filterMap fun entry =>
    entry.2.map StreamList.listed

def Manager.listed (manager : Manager) : List ListedWorker :=
  manager.workerIdWorker.entries.map fun entry =>
    (manager.workers entry.2).listed

namespace UdpStream

def line (stream : UdpStream) : Text :=
  "udpStream: ".toList ++ (decimal stream.id ++
    ' ' :: (inetNtoa stream.addr.sinAddr ++
      ':' :: decimal (ntohs stream.addr.sinPort)))

theorem printStream_eq (stream : UdpStream) :
    stream.printStream = stream.line ++ ['\n'] := by
  unfold printStream line
  simp only [List.append_assoc, List.cons_append]

theorem line_injective : Function.Injective line := by
  intro stream other same
  have spaced := decimal_not_mem (c := ' ') rfl (by decide)
  have colons := inetNtoa_not_mem (c := ':') rfl (by decide)
  obtain ⟨id, ip, port⟩ := stream
  obtain ⟨id2, ip2, port2⟩ := other
  obtain ⟨sameText, sameAddr⟩ := append_cons_inj (spaced _) (spaced _)
    (List.append_cancel_left same)
  obtain ⟨sameDotted, samePort⟩ := append_cons_inj (colons _) (colons _) sameAddr
  have sameId : id = id2 := decimal_injective sameText
  have sameIp : ip = ip2 := by
    have read := congrArg inetAton sameDotted
    rw [inetAton_inetNtoa, inetAton_inetNtoa] at read
    exact Option.some.inj read
  have hosted : port = port2 := by
    have swapped := congrArg htons (decimal_injective samePort)
    rwa [htons_ntohs, htons_ntohs] at swapped
  rw [sameId, sameIp, hosted]

theorem line_oneLine (stream : UdpStream) : '\n' ∉ stream.line := by
  have digits := decimal_not_mem (c := '\n') rfl (by decide)
  have dotted := inetNtoa_not_mem (c := '\n') rfl (by decide)
  unfold line
  simp only [List.mem_append, List.mem_cons, digits, dotted]
  decide

def block (stream : UdpStream) : List Text := [stream.line, []]

theorem block_headed :
    Headed (fun line : Text => line.head? == some 'u') block where
  headed := by
    intro stream
    refine ⟨stream.line, [[]], rfl, rfl, ?_⟩
    intro item member
    cases List.mem_singleton.mp member
    rfl
  injective := by
    intro stream other same
    exact line_injective (List.cons.inj same).1

end UdpStream

namespace ListedList

def block (list : ListedList) : List Text :=
  ("Printing streamList ".toList ++ decimal list.listId) ::
    ("Source:".toList :: list.source.line :: [] :: "Destinations:".toList ::
      (list.destinations.flatMap UdpStream.block ++ [[]]))

end ListedList

theorem UdpStream.unlines_block (destinations : List UdpStream) :
    unlines (destinations.flatMap block) =
      destinations.flatMap fun stream => stream.printStream ++ ['\n'] := by
  induction destinations with
  | nil => rfl
  | cons stream rest ih =>
      rw [List.flatMap_cons, List.flatMap_cons, unlines_append, ih,
        printStream_eq]
      rfl

theorem StreamList.unlines_block (list : StreamList) :
    unlines list.listed.block = list.printList ++ ['\n'] := by
  have source : "\nSource:\n".toList = '\n' :: ("Source:".toList ++ ['\n']) :=
    rfl
  have destinations : "\nDestinations:\n".toList =
      '\n' :: ("Destinations:".toList ++ ['\n']) := rfl
  have last : unlines [[]] = ['\n'] := rfl
  unfold StreamList.printList
  change unlines (("Printing streamList ".toList ++ decimal list.listId) ::
    "Source:".toList :: list.source.line :: [] :: "Destinations:".toList ::
      (list.destinations.flatMap UdpStream.block ++ [[]])) = _
  simp only [unlines_cons, unlines_append, UdpStream.unlines_block, last,
    source, destinations, UdpStream.printStream_eq, List.append_assoc,
    List.cons_append, List.nil_append]

namespace ListedList

theorem block_headed :
    Headed (fun line : Text => line.head? == some 'P') block where
  headed := by
    intro list
    refine ⟨_, _, rfl, rfl, ?_⟩
    intro line member
    simp only [List.mem_cons, List.mem_append, List.mem_flatMap,
      UdpStream.block, List.not_mem_nil, or_false] at member
    rcases member with rfl | rfl | rfl | rfl | ⟨stream, -, rfl | rfl⟩ | rfl <;>
      rfl
  injective := by
    intro list other same
    obtain ⟨listId, source, destinations⟩ := list
    obtain ⟨listId2, source2, destinations2⟩ := other
    obtain ⟨heading, body⟩ := List.cons.inj same
    obtain ⟨sourceLine, rest⟩ := List.cons.inj (List.cons.inj body).2
    have streams := List.append_cancel_right
      (List.cons.inj (List.cons.inj rest).2).2
    have sameId : listId = listId2 :=
      decimal_injective (List.append_cancel_left heading)
    have sameSource : source = source2 := UdpStream.line_injective sourceLine
    have sameDestinations : destinations = destinations2 :=
      UdpStream.block_headed.flatMap_injective streams
    rw [sameId, sameSource, sameDestinations]

theorem block_oneLine (list : ListedList) :
    ∀ line ∈ list.block, '\n' ∉ line := by
  have digits := decimal_not_mem (c := '\n') rfl (by decide) list.listId
  intro line member
  simp only [block, List.mem_cons, List.mem_append, List.mem_flatMap,
    UdpStream.block, List.not_mem_nil, or_false] at member
  rcases member with rfl | rfl | rfl | rfl | rfl | ⟨stream, -, rfl | rfl⟩ | rfl
  · simp only [List.mem_append, digits]
    decide
  · decide
  · exact list.source.line_oneLine
  · decide
  · decide
  · exact stream.line_oneLine
  · decide
  · decide

end ListedList

namespace ListedWorker

def block (worker : ListedWorker) : List Text :=
  ("Replication lists of worker ".toList ++ decimal worker.workerId) ::
    (worker.lists.flatMap ListedList.block ++ [[]])

theorem block_headed :
    Headed (fun line : Text => line.head? == some 'R') block where
  headed := by
    intro worker
    refine ⟨_, _, rfl, rfl, ?_⟩
    intro line member
    simp only [List.mem_append, List.mem_flatMap, List.mem_singleton] at member
    rcases member with ⟨list, -, inBlock⟩ | rfl
    · simp only [ListedList.block, List.mem_cons, List.mem_append,
        List.mem_flatMap, UdpStream.block, List.not_mem_nil, or_false] at inBlock
      rcases inBlock with
        rfl | rfl | rfl | rfl | rfl | ⟨stream, -, rfl | rfl⟩ | rfl <;> rfl
    · rfl
  injective := by
    intro worker other same
    obtain ⟨workerId, lists⟩ := worker
    obtain ⟨workerId2, lists2⟩ := other
    obtain ⟨heading, body⟩ := List.cons.inj same
    have sameId : workerId = workerId2 :=
      decimal_injective (List.append_cancel_left heading)
    have sameLists : lists = lists2 :=
      ListedList.block_headed.flatMap_injective (List.append_cancel_right body)
    rw [sameId, sameLists]

theorem block_oneLine (worker : ListedWorker) :
    ∀ line ∈ worker.block, '\n' ∉ line := by
  have digits := decimal_not_mem (c := '\n') rfl (by decide) worker.workerId
  intro line member
  simp only [block, List.mem_cons, List.mem_append, List.mem_flatMap,
    List.not_mem_nil, or_false] at member
  rcases member with rfl | ⟨list, -, inBlock⟩ | rfl
  · simp only [List.mem_append, digits]
    decide
  · exact list.block_oneLine line inBlock
  · decide

end ListedWorker

theorem StreamList.unlines_blocks
    (entries : List (Sigma fun _ : Int => Option StreamList)) :
    unlines ((entries.filterMap fun entry =>
        entry.2.map StreamList.listed).flatMap ListedList.block) =
      entries.flatMap fun entry =>
        match entry.2 with
        | none => []
        | some list => list.printList ++ ['\n'] := by
  induction entries with
  | nil => rfl
  | cons entry rest ih =>
      obtain ⟨key, list⟩ := entry
      cases list with
      | none => exact ih
      | some list =>
          rw [List.flatMap_cons, ← ih]
          change unlines (list.listed.block ++
            (rest.filterMap fun entry => entry.2.map listed).flatMap
              ListedList.block) = _
          rw [unlines_append, unlines_block]

theorem Worker.unlines_block (worker : Worker) :
    unlines worker.listed.block = worker.printManagement ++ ['\n'] := by
  have last : unlines [[]] = ['\n'] := rfl
  unfold printManagement
  rw [← StreamList.unlines_blocks]
  change unlines (("Replication lists of worker ".toList ++
    decimal worker.workerId) :: (worker.listed.lists.flatMap ListedList.block ++
      [[]])) = _
  simp only [unlines_cons, unlines_append, last, List.append_assoc,
    List.cons_append, List.nil_append]
  rfl

theorem Manager.unlines_blocks (manager : Manager) :
    manager.printManagement =
      "Printing management list of all workers\n".toList ++
        unlines (manager.listed.flatMap ListedWorker.block) := by
  unfold printManagement listed
  congr 1
  induction manager.workerIdWorker.entries with
  | nil => rfl
  | cons entry rest ih =>
      rw [List.flatMap_cons, List.map_cons, List.flatMap_cons, unlines_append,
        ih, Worker.unlines_block]

/-- What is listed can be read off the text, whatever the workers hold. -/
theorem Manager.printManagement_eq_iff (manager other : Manager) :
    manager.printManagement = other.printManagement ↔
      manager.listed = other.listed := by
  have oneLine (workers : List ListedWorker) :
      ∀ line ∈ workers.flatMap ListedWorker.block, '\n' ∉ line := by
    intro line member
    obtain ⟨worker, -, inBlock⟩ := List.mem_flatMap.mp member
    exact worker.block_oneLine line inBlock
  constructor
  · intro same
    rw [unlines_blocks, unlines_blocks] at same
    apply ListedWorker.block_headed.flatMap_injective
    exact unlines_injective (oneLine _) (oneLine _)
      (List.append_cancel_left same)
  · intro same
    rw [unlines_blocks, unlines_blocks, same]

/-! What the listings of a reflector show. -/

def ListedList.registration (list : ListedList) : Registration :=
  ⟨list.source.addr, list.destinations⟩

theorem Worker.mem_listed {worker : Worker} {shown : ListedList} :
    shown ∈ worker.listed.lists ↔
      ∃ listId list, worker.streams.lists listId = some list ∧
        list.listed = shown := by
  unfold listed
  rw [List.mem_filterMap]
  constructor
  · intro found
    obtain ⟨⟨key, value⟩, member, shows⟩ := found
    obtain ⟨list, rfl, rfl⟩ := Option.map_eq_some_iff.mp shows
    refine ⟨key, list, ?_, rfl⟩
    exact Table.subscript_of_lookup none ((Table.mem_entries_iff _ _ _).mp member)
  · intro found
    obtain ⟨key, list, stored, rfl⟩ := found
    refine ⟨⟨key, some list⟩, ?_, rfl⟩
    rw [Table.mem_entries_iff]
    change (worker.streams.management.lookup key).getD none = some list at stored
    rw [Option.getD_eq_iff] at stored
    obtain found | ⟨-, impossible⟩ := stored
    · exact found
    · cases impossible

theorem isSome_mapM {α β : Type} {read : α → Option β} (values : List α) :
    (values.mapM read).isSome = true ↔
      ∀ value ∈ values, (read value).isSome = true := by
  induction values with
  | nil => simp
  | cons value rest ih =>
      rw [List.mapM_cons, List.forall_mem_cons, ← ih]
      cases read value with
      | none => simp
      | some result => cases rest.mapM read <;> simp

theorem Worker.printPortFd_isSome (worker : Worker) :
    worker.printPortFd.isSome = true ↔
      ((∃ port fd, worker.ports.portFd.lookup port = some fd) →
        worker.workerId = 0 ∨ worker.workerId = 1) := by
  have ending : worker.lineEnd.isSome = true ↔
      worker.workerId = 0 ∨ worker.workerId = 1 := by
    unfold lineEnd
    by_cases zero : worker.workerId = 0
    · simp [zero]
    · by_cases one : worker.workerId = 1 <;> simp [zero, one]
  unfold printPortFd
  rw [Option.isSome_map, isSome_mapM, ← ending]
  constructor
  · intro printed open_
    obtain ⟨port, fd, listening⟩ := open_
    have line := printed ⟨port, fd⟩ ((Table.mem_entries_iff _ _ _).mpr listening)
    rwa [portLine, Option.isSome_map] at line
  · intro ends entry member
    rw [portLine, Option.isSome_map]
    exact ends ⟨entry.1, entry.2, (Table.mem_entries_iff _ _ _).mp member⟩

theorem Manager.printPortFd_isSome (manager : Manager) :
    manager.printPortFd.isSome = true ↔
      ∀ srcId worker, manager.srcIdWorker.lookup srcId = some worker →
        (manager.workers worker).printPortFd.isSome = true := by
  unfold printPortFd
  rw [Option.isSome_map, isSome_mapM]
  constructor
  · intro printed srcId worker mapped
    have text := printed ⟨srcId, worker⟩
      ((Table.mem_entries_iff _ _ _).mpr mapped)
    rwa [Option.isSome_map] at text
  · intro printed entry member
    rw [Option.isSome_map]
    exact printed entry.1 entry.2 ((Table.mem_entries_iff _ _ _).mp member)

/-- What the listings show of a reflector. Sources at workers outside the pool
are not listed. -/
structure Manager.Lists (manager : Manager) (reflector : Reflector) : Prop where
  shown : ∀ worker ∈ manager.listed, ∀ list ∈ worker.lists,
    reflector.Reflects list.registration
  complete : ∀ {key : Int} {worker : Nat} {srcId : Int} {flow : Flow}
    {stream : Registration},
    manager.workerIdWorker.lookup key = some worker →
    manager.srcIdWorker.lookup srcId = some worker →
    reflector srcId = some flow → stream ∈ flow.streams →
    ∃ shown ∈ manager.listed, ∃ list ∈ shown.lists, list.registration = stream
  ports : manager.printPortFd.isSome = true ↔
    ∀ srcId worker, manager.srcIdWorker.lookup srcId = some worker →
      (manager.workers worker).workerId = 0 ∨
        (manager.workers worker).workerId = 1

namespace Manager.Hosts

variable {manager : Manager} {registries : Nat → Registry}
  {reflector : Reflector}

theorem view (hosts : manager.Hosts registries reflector) {worker : Nat}
    {list : ListedList} (listed : list ∈ (manager.workers worker).listed.lists) :
    reflector.Reflects list.registration := by
  obtain ⟨listId, stored, found, rfl⟩ := Worker.mem_listed.mp listed
  have serves := hosts.serves worker
  have viewed := serves.delivering.implements.registered found
  obtain ⟨srcId, registration, registered, member⟩ := serves.registered viewed
  have mapped := (hosts.tied worker srcId).mp (by rw [registered]; rfl)
  obtain ⟨registration2, registered2, reflected⟩ := hosts.registered mapped
  rw [registered] at registered2
  cases registered2
  exact ⟨srcId, _, reflected, member⟩

theorem lists (hosts : manager.Hosts registries reflector) :
    manager.Lists reflector where
  shown := by
    intro worker member list listed
    obtain ⟨entry, -, rfl⟩ := List.mem_map.mp member
    exact hosts.view listed
  complete := by
    intro key worker srcId flow stream pooled mapped found member
    obtain ⟨worker2, mapped2, registered, kind⟩ := hosts.home found
    rw [mapped] at mapped2
    cases mapped2
    have serves := hosts.serves worker
    obtain ⟨listId, viewed, -⟩ := serves.listed registered
      (by rw [← kind]; exact member)
    obtain ⟨list, stored, registration⟩ :=
      serves.delivering.implements.stored viewed
    refine ⟨(manager.workers worker).listed, ?_, list.listed,
      Worker.mem_listed.mpr ⟨listId, list, stored, rfl⟩, registration⟩
    exact List.mem_map.mpr
      ⟨⟨key, worker⟩, (Table.mem_entries_iff _ _ _).mpr pooled, rfl⟩
  ports := by
    rw [Manager.printPortFd_isSome]
    constructor
    · intro printed srcId worker mapped
      obtain ⟨registration, -, found⟩ := hosts.registered mapped
      obtain ⟨worker2, fd, mapped2, -, -, holds, -⟩ := hosts.hosted found
        ((Flow.mem_streams _ _).mpr (.inl rfl))
      rw [mapped] at mapped2
      cases mapped2
      obtain ⟨port, listening⟩ := holds
      exact (Worker.printPortFd_isSome _).mp (printed srcId worker mapped)
        ⟨port, fd, listening⟩
    · intro early srcId worker mapped
      exact (Worker.printPortFd_isSome _).mpr fun _ => early srcId worker mapped

end Manager.Hosts

/-- After every use as a reflector, the listing of the workers shows streams of
its sources only, and all of those whose worker is in the pool; the ports can
be listed as long as no source is at a worker other than 0 and 1. -/
theorem managerMachine_run_lists {os : Os} (exclusive : os.Exclusive)
    {maxWorkers : Int} {kernel : Kernel} (unique : kernel.OnePerPort)
    {manager : Manager} {reflector : Reflector}
    (run : (managerMachine os maxWorkers).Run Reflector.observer ReflectorUse
      (Manager.start kernel) manager reflector) :
    manager.Lists reflector := by
  obtain ⟨registries, hosts⟩ := managerMachine_run_hosts exclusive unique run
  exact hosts.lists

/-- A third class of sources is at worker 2, and the ports cannot be listed any
more. -/
theorem managerMachine_run_lists_classes :
    ∃ manager reflector,
      (managerMachine .orderly 10).Run Reflector.observer ReflectorUse
        (Manager.start .fresh) manager reflector ∧
      manager.Lists reflector ∧ manager.printPortFd.isSome = false := by
  have run : (managerMachine .orderly 10).Run Reflector.observer ReflectorUse
      (Manager.start .fresh) _ _ :=
    .of_replay [.addSource 1 1 1 5000, .addSource 4 2 1 6000,
      .addDestination 2 4 9 9000, .addSource 2 3 2 7000] (by decide)
  exact ⟨_, _, run,
    managerMachine_run_lists Os.orderly_exclusive Kernel.OnePerPort.fresh run,
    by decide⟩

end StrManager
