import StrManager.Manager.Lists

namespace StrManager

open Library Function

/-! What the return codes of the destination calls say about the lists. -/

def ListsKeyed (lists : Int → Option StreamList) : Prop :=
  ∀ listId list, lists listId = some list → list.Keyed

namespace ListsKeyed

variable {lists : Int → Option StreamList}

theorem insert (keyed : ListsKeyed lists) (listId : Int) {list : StreamList}
    (added : list.Keyed) : ListsKeyed (update lists listId (some list)) := by
  intro other stored found
  rcases eq_or_ne other listId with rfl | different
  · rw [update_self] at found
    cases found
    exact added
  · rw [update_of_ne different] at found
    exact keyed other stored found

theorem remove (keyed : ListsKeyed lists) (listId : Int) :
    ListsKeyed (update lists listId none) := by
  intro other stored found
  rcases eq_or_ne other listId with rfl | different
  · rw [update_self] at found
    cases found
  · rw [update_of_ne different] at found
    exact keyed other stored found

theorem packet {runtime next : Runtime} {fd : Int}
    (keyed : ListsKeyed runtime.worker.streams.lists)
    (noted : Worker.PacketStep runtime next fd) :
    ListsKeyed next.worker.streams.lists := by
  rcases noted.lists with
    same | ⟨listId, list, after, found, lists, -, destinations, -⟩
  · rwa [same]
  · rw [lists]
    have before := keyed listId list found
    refine keyed.insert listId ?_
    rwa [StreamList.Keyed, destinations]

end ListsKeyed

theorem PlainStep.listsKeyed {os : Os} {runtime next : Runtime}
    {event : WorkerEvent} {output : WorkerOutput}
    (step : PlainStep os runtime next event output)
    (keyed : ListsKeyed runtime.worker.streams.lists) :
    ListsKeyed next.worker.streams.lists := by
  cases step with
  | rejected routed sockets lists routes => rwa [lists]
  | refused free failed sockets lists routes => rwa [lists]
  | added list free opened sockets created lists routes =>
      rw [lists]
      refine keyed.insert _ ?_
      rw [StreamList.Keyed, created, WorkerKind.newList_destinations]
      exact List.nodup_nil
  | removed list found sockets lists routes =>
      rw [lists]
      exact keyed.remove _
  | addedDestination list changed =>
      rw [changed.lists]
      exact keyed.insert _
        (StreamList.addDestination_keyed (keyed _ _ changed.found) _)
  | @removedDestination srcId destId list after changed filtered =>
      have before := keyed _ _ changed.found
      rw [changed.lists, filtered before, ← before.eraseFound_eq]
      exact keyed.insert _ (before.eraseFound destId)
  | packet noted => exact keyed.packet noted
  | elapsed elapse =>
      subst elapse
      exact keyed

theorem RtcpStep.listsKeyed {os : Os} {runtime next : Runtime}
    {event : WorkerEvent} {output : WorkerOutput}
    (step : RtcpStep os runtime next event output)
    (keyed : ListsKeyed runtime.worker.streams.lists) :
    ListsKeyed next.worker.streams.lists := by
  cases step with
  | rejected routed sockets lists routes => rwa [lists]
  | refused free free2 failed sockets lists routes => rwa [lists]
  | added free free2 opened sockets lists routes =>
      rw [lists]
      exact (keyed.insert _ (StreamList.create_keyed _ _)).insert _
        (StreamList.create_keyed _ _)
  | removed list list2 found found2 sockets lists routes =>
      rw [lists]
      exact (keyed.remove _).remove _
  | keptDestination list found rejected read => rwa [read.lists]
  | addedDestination list list2 changed =>
      rw [changed.lists]
      exact (keyed.insert _
        (StreamList.addDestination_keyed (keyed _ _ changed.found) _)).insert _
        (StreamList.addDestination_keyed (keyed _ _ changed.found2) _)
  | missedDestination list found missing read => rwa [read.lists]
  | removedDestination list list2 changed =>
      rw [changed.lists]
      exact (keyed.insert _ ((keyed _ _ changed.found).eraseFound _)).insert _
        ((keyed _ _ changed.found2).eraseFound _)
  | packet noted => exact keyed.packet noted
  | elapsed elapse =>
      subst elapse
      exact keyed

theorem Worker.lasting_listsKeyed (os : Os) :
    Worker.Lasting os fun worker => ListsKeyed worker.streams.lists where
  created := by
    intro kind workerId listId list found
    change StreamTables.empty.lists listId = some list at found
    rw [StreamTables.lists_empty] at found
    cases found
  stepped := by
    intro runtime next event output keyed stepped
    rcases eq_or_ne runtime.worker.kind .rtcp with rtcp | plain
    · exact (RtcpStep.of_step rtcp stepped).listsKeyed keyed
    · exact (PlainStep.of_step plain stepped).listsKeyed keyed
  read := by
    intro runtime next srcId timeStamp keyed called
    obtain ⟨-, lists, -⟩ := readTimeStamp_kept called
    rwa [lists]

/-! What a destination call did to the lists. -/

def NewlyAdded (before after : Worker) (listId : Int) (stream : UdpStream) :
    Prop :=
  ∃ list list', before.streams.lists listId = some list ∧
    after.streams.lists listId = some list' ∧
    stream ∉ list.destinations ∧ stream ∈ list'.destinations

def NewlyRemoved (before after : Worker) (listId destId : Int) : Prop :=
  ∃ list list', before.streams.lists listId = some list ∧
    after.streams.lists listId = some list' ∧
    destId ∈ list.destinations.map UdpStream.id ∧
    destId ∉ list'.destinations.map UdpStream.id

theorem newlyAdded_of_lists {before after : Worker} {listId : Int}
    {list list' : StreamList}
    (found : before.streams.lists listId = some list)
    (found' : after.streams.lists listId = some list') (stream : UdpStream) :
    NewlyAdded before after listId stream ↔
      stream ∉ list.destinations ∧ stream ∈ list'.destinations := by
  simp [NewlyAdded, found, found']

theorem newlyRemoved_of_lists {before after : Worker} {listId : Int}
    {list list' : StreamList}
    (found : before.streams.lists listId = some list)
    (found' : after.streams.lists listId = some list') (destId : Int) :
    NewlyRemoved before after listId destId ↔
      destId ∈ list.destinations.map UdpStream.id ∧
        destId ∉ list'.destinations.map UdpStream.id := by
  simp [NewlyRemoved, found, found']

/-- The list of the source is there and answers for the destination, and so
does the second list of an RTCP source. -/
def Worker.Answers (worker : Worker) (srcId destId : Int) (known : Bool) :
    Prop :=
  (∃ list ∈ worker.streams.lists srcId, list.existDestination destId = known) ∧
    (worker.kind = .rtcp → ∃ list ∈ worker.streams.lists (srcId + 1),
      list.existDestination (destId + 1) = known)

instance (worker : Worker) (srcId destId : Int) (known : Bool) :
    Decidable (worker.Answers srcId destId known) :=
  inferInstanceAs (Decidable ((∃ _ ∈ _, _) ∧ (_ → ∃ _ ∈ _, _)))

theorem Worker.answers_of_plain {worker : Worker} (plain : worker.kind ≠ .rtcp)
    {srcId : Int} {list : StreamList}
    (found : worker.streams.lists srcId = some list) (destId : Int)
    (known : Bool) :
    worker.Answers srcId destId known ↔ list.existDestination destId = known := by
  simp [Answers, plain, found]

theorem Worker.answers_of_rtcp {worker : Worker} (rtcp : worker.kind = .rtcp)
    {srcId : Int} {list list2 : StreamList}
    (found : worker.streams.lists srcId = some list)
    (found2 : worker.streams.lists (srcId + 1) = some list2) (destId : Int)
    (known : Bool) :
    worker.Answers srcId destId known ↔
      list.existDestination destId = known ∧
        list2.existDestination (destId + 1) = known := by
  simp [Answers, rtcp, found, found2]

theorem Worker.Answers.hasLists {worker : Worker} {srcId destId : Int}
    {known : Bool} (answers : worker.Answers srcId destId known) :
    worker.HasLists srcId := by
  obtain ⟨⟨list, found, -⟩, second⟩ := answers
  refine ⟨Option.isSome_iff_exists.mpr ⟨list, found⟩, ?_⟩
  intro rtcp
  obtain ⟨list2, found2, -⟩ := second rtcp
  exact Option.isSome_iff_exists.mpr ⟨list2, found2⟩

namespace Manager

def CarriedOut (manager next : Manager) : ManagerEvent → Prop
  | .addDestination srcId destId ip port =>
      ∃ worker, manager.srcIdWorker.lookup srcId = some worker ∧
        NewlyAdded (manager.workers worker) (next.workers worker) srcId
          (UdpStream.create destId ip port) ∧
        ((manager.workers worker).kind = .rtcp →
          NewlyAdded (manager.workers worker) (next.workers worker) (srcId + 1)
            (UdpStream.create (destId + 1) ip (port + 1)))
  | .removeDestination srcId destId =>
      ∃ worker, manager.srcIdWorker.lookup srcId = some worker ∧
        NewlyRemoved (manager.workers worker) (next.workers worker) srcId
          destId ∧
        ((manager.workers worker).kind = .rtcp →
          NewlyRemoved (manager.workers worker) (next.workers worker)
            (srcId + 1) (destId + 1))
  | _ => True

/-- Zero says that the call was carried out, another code that no list
changed. -/
def Truthful (manager next : Manager) (event : ManagerEvent) (code : Int) :
    Prop :=
  (code = 0 ↔ manager.CarriedOut next event) ∧
    (code ≠ 0 → ∀ worker, (next.workers worker).streams.lists =
      (manager.workers worker).streams.lists)

/-- A registered source has its lists, and they can do what the call asks for:
a new destination has a free identifier, and one to remove is there. -/
def Feasible (manager : Manager) : ManagerEvent → Prop
  | .addDestination srcId destId _ _ =>
      ∀ worker ∈ manager.srcIdWorker.lookup srcId,
        (manager.workers worker).Answers srcId destId false
  | .removeDestination srcId destId =>
      ∀ worker ∈ manager.srcIdWorker.lookup srcId,
        (manager.workers worker).Answers srcId destId true
  | _ => True

instance (manager : Manager) (event : ManagerEvent) :
    Decidable (manager.Feasible event) :=
  match event with
  | .addDestination _ _ _ _ | .removeDestination _ _ =>
      inferInstanceAs (Decidable (∀ _ ∈ _, Worker.Answers _ _ _ _))
  | .addSource _ _ _ _ | .removeSource _ | .readTimeStamp _ | .handleMessage
  | .packet _ _ _ | .selectTimeout _ | .elapse _ => isTrue trivial

end Manager

/-! The outcome of a destination call on one worker. -/

theorem Worker.DestinationStep.replaced {runtime next : Runtime} {srcId : Int}
    {before after : StreamList}
    (changed : DestinationStep runtime next srcId before after) :
    next.worker.streams.lists srcId = some after := by
  rw [changed.lists, update_self]

namespace RtcpWorker.PairStep

variable {runtime next : Runtime} {srcId : Int}
  {before before2 after after2 : StreamList}

theorem first (changed : PairStep runtime next srcId before before2 after
    after2) : next.worker.streams.lists srcId = some after := by
  rw [changed.lists, update_of_ne (by omega), update_self]

theorem second (changed : PairStep runtime next srcId before before2 after
    after2) : next.worker.streams.lists (srcId + 1) = some after2 := by
  rw [changed.lists, update_self]

end RtcpWorker.PairStep

namespace Runtime

variable {runtime next : Runtime} {srcId destId : Int} {ip : InAddr}
  {port : Int}

theorem newlyAdded_iff
    (called : runtime.addDestination srcId destId ip port = .ok next) :
    (NewlyAdded runtime.worker next.worker srcId
        (UdpStream.create destId ip port) ∧
      (runtime.worker.kind = .rtcp →
        NewlyAdded runtime.worker next.worker (srcId + 1)
          (UdpStream.create (destId + 1) ip (port + 1)))) ↔
    runtime.worker.Answers srcId destId false := by
  rcases eq_or_ne runtime.worker.kind .rtcp with rtcp | plain
  · rw [Runtime.addDestination_of_rtcp rtcp] at called
    obtain ⟨list, found, rejected, read⟩ | ⟨list, list2, changed⟩ :=
      RtcpWorker.addDestination_ok called
    · have known := list.added_iff (UdpStream.create destId ip port)
      rw [StreamList.addDestination_rejected rejected] at known
      have found' : next.worker.streams.lists srcId = some list := by
        rw [read.lists, found]
      rw [newlyAdded_of_lists found found']
      refine iff_of_false (fun fresh => fresh.1.1 fresh.1.2) ?_
      rintro ⟨⟨other, same, free⟩, -⟩
      rw [found] at same
      cases same
      exact (known.mpr free).1 (known.mpr free).2
    · have fresh := list.added_iff (UdpStream.create destId ip port)
      have fresh2 := list2.added_iff
        (UdpStream.create (destId + 1) ip (port + 1))
      rw [newlyAdded_of_lists changed.found changed.first,
        newlyAdded_of_lists changed.found2 changed.second,
        Worker.answers_of_rtcp rtcp changed.found changed.found2]
      simp only [rtcp, forall_const]
      exact and_congr fresh fresh2
  · rw [Runtime.addDestination_of_plain plain] at called
    obtain ⟨list, changed⟩ := Worker.DestinationStep.of_addDestination called
    have fresh := list.added_iff (UdpStream.create destId ip port)
    rw [newlyAdded_of_lists changed.found changed.replaced,
      Worker.answers_of_plain plain changed.found]
    simp only [plain, false_implies, and_true]
    exact fresh

theorem newlyRemoved_iff (keyed : ListsKeyed runtime.worker.streams.lists)
    (called : runtime.removeDestination srcId destId = .ok next) :
    (NewlyRemoved runtime.worker next.worker srcId destId ∧
      (runtime.worker.kind = .rtcp →
        NewlyRemoved runtime.worker next.worker (srcId + 1) (destId + 1))) ↔
    runtime.worker.Answers srcId destId true := by
  rcases eq_or_ne runtime.worker.kind .rtcp with rtcp | plain
  · rw [Runtime.removeDestination_of_rtcp rtcp] at called
    obtain ⟨list, found, missing, read⟩ | ⟨list, list2, changed⟩ :=
      RtcpWorker.removeDestination_ok called
    · have found' : next.worker.streams.lists srcId = some list := by
        rw [read.lists, found]
      rw [newlyRemoved_of_lists found found']
      refine iff_of_false (fun gone => gone.1.2 gone.1.1) ?_
      rintro ⟨⟨other, same, known⟩, second⟩
      rw [found] at same
      cases same
      rcases missing with unknown | ⟨list2, found2, unknown2⟩
      · rw [known] at unknown
        cases unknown
      · obtain ⟨other2, same2, known2⟩ := second rtcp
        rw [found2] at same2
        cases same2
        rw [known2] at unknown2
        cases unknown2
    · have gone := (keyed _ _ changed.found).erased_iff destId
      have gone2 := (keyed _ _ changed.found2).erased_iff (destId + 1)
      rw [newlyRemoved_of_lists changed.found changed.first,
        newlyRemoved_of_lists changed.found2 changed.second,
        Worker.answers_of_rtcp rtcp changed.found changed.found2]
      simp only [rtcp, forall_const]
      exact and_congr gone gone2
  · rw [Runtime.removeDestination_of_plain plain] at called
    obtain ⟨list, after, changed, filtered⟩ :=
      Worker.DestinationStep.of_removeDestination called
    have before := keyed _ _ changed.found
    have gone := before.erased_iff destId
    rw [before.eraseFound_eq, ← filtered before] at gone
    rw [newlyRemoved_of_lists changed.found changed.replaced,
      Worker.answers_of_plain plain changed.found]
    simp only [plain, false_implies, and_true]
    exact gone

end Runtime

namespace Manager

variable {os : Os} {maxWorkers : Int} {manager next : Manager}

/-- The call returns, and its code tells the truth. -/
def ReturnsTruthful (os : Os) (maxWorkers : Int) (manager : Manager)
    (event : ManagerEvent) : Prop :=
  ∃ next code server,
    manager.step os maxWorkers event = .ok (next, .returned code server) ∧
      manager.Truthful next event code

theorem truthful_unknown {event : ManagerEvent}
    (unknown : ¬ manager.CarriedOut manager event) :
    manager.Truthful manager event (-1) :=
  ⟨iff_of_false (by decide) unknown, fun _ _ => rfl⟩

theorem truthful_served {event : ManagerEvent} :
    manager.Truthful next event 0 ↔ manager.CarriedOut next event := by
  simp [Truthful]

theorem returnsTruthful_iff {event : ManagerEvent} {code : Int}
    {server : Option Nat}
    (stepped : manager.step os maxWorkers event =
      .ok (next, .returned code server)) :
    manager.ReturnsTruthful os maxWorkers event ↔
      manager.Truthful next event code := by
  constructor
  · intro returns
    obtain ⟨after, result, worker, again, truthful⟩ := returns
    rw [stepped] at again
    cases again
    exact truthful
  · intro truthful
    exact ⟨next, code, server, stepped, truthful⟩

theorem returnsTruthful_of_unknown {event : ManagerEvent}
    (stepped : manager.step os maxWorkers event =
      .ok (manager, .returned (-1) none))
    (unknown : ¬ manager.CarriedOut manager event) :
    manager.ReturnsTruthful os maxWorkers event :=
  (returnsTruthful_iff stepped).mpr (truthful_unknown unknown)

/-- A call that a worker serves returns 0 whenever it returns. -/
theorem returnsTruthful_served_iff {event : ManagerEvent} {worker : Nat}
    {called : Except Fault Runtime} {feasible : Prop}
    (steps : manager.step os maxWorkers event = called.map fun runtime =>
      (manager.put worker runtime, .returned 0 (some worker)))
    (returns : feasible → ∃ runtime, called = .ok runtime)
    (carries : ∀ runtime, called = .ok runtime →
      (manager.CarriedOut (manager.put worker runtime) event ↔ feasible)) :
    manager.ReturnsTruthful os maxWorkers event ↔ feasible := by
  cases called with
  | error fault =>
      constructor
      · intro truthful
        obtain ⟨next, code, server, stepped, -⟩ := truthful
        rw [steps] at stepped
        cases stepped
      · intro possible
        obtain ⟨runtime, returned⟩ := returns possible
        cases returned
  | ok runtime =>
      rw [returnsTruthful_iff steps, truthful_served]
      exact carries runtime rfl

theorem addDestination_truthful (srcId destId : Int) (ip : InAddr)
    (port : Int) :
    manager.ReturnsTruthful os maxWorkers
        (.addDestination srcId destId ip port) ↔
      manager.Feasible (.addDestination srcId destId ip port) := by
  cases mapped : manager.srcIdWorker.lookup srcId with
  | none =>
      refine iff_of_true (returnsTruthful_of_unknown ?_ ?_) ?_
      · rw [Manager.step, Manager.addDestination, mapped]
      · simp [CarriedOut, mapped]
      · simp [Feasible, mapped]
  | some worker =>
      have feasible : manager.Feasible (.addDestination srcId destId ip port) ↔
          (manager.runtime worker).worker.Answers srcId destId false := by
        simp [Feasible, mapped, Manager.runtime]
      have steps : manager.step os maxWorkers (.addDestination srcId destId ip port) =
          ((manager.runtime worker).addDestination srcId destId ip port).map
            fun runtime =>
              (manager.put worker runtime, .returned 0 (some worker)) := by
        simp only [Manager.step, Manager.addDestination, mapped]
        cases (manager.runtime worker).addDestination srcId destId ip port with
        | error fault => rfl
        | ok runtime => rfl
      rw [feasible]
      refine returnsTruthful_served_iff steps ?_ ?_
      · intro answers
        exact Runtime.addDestination_of_hasLists answers.hasLists destId ip port
      · intro runtime called
        simp only [CarriedOut, mapped, Option.some.injEq, exists_eq_left',
          put_workers, update_self]
        exact Runtime.newlyAdded_iff called

theorem removeDestination_truthful
    (keyed : ∀ worker, ListsKeyed (manager.workers worker).streams.lists)
    (srcId destId : Int) :
    manager.ReturnsTruthful os maxWorkers (.removeDestination srcId destId) ↔
      manager.Feasible (.removeDestination srcId destId) := by
  cases mapped : manager.srcIdWorker.lookup srcId with
  | none =>
      refine iff_of_true (returnsTruthful_of_unknown ?_ ?_) ?_
      · rw [Manager.step, Manager.removeDestination, mapped]
      · simp [CarriedOut, mapped]
      · simp [Feasible, mapped]
  | some worker =>
      have feasible : manager.Feasible (.removeDestination srcId destId) ↔
          (manager.runtime worker).worker.Answers srcId destId true := by
        simp [Feasible, mapped, Manager.runtime]
      have steps : manager.step os maxWorkers (.removeDestination srcId destId) =
          ((manager.runtime worker).removeDestination srcId destId).map
            fun runtime =>
              (manager.put worker runtime, .returned 0 (some worker)) := by
        simp only [Manager.step, Manager.removeDestination, mapped]
        cases (manager.runtime worker).removeDestination srcId destId with
        | error fault => rfl
        | ok runtime => rfl
      rw [feasible]
      refine returnsTruthful_served_iff steps ?_ ?_
      · intro answers
        exact Runtime.removeDestination_of_hasLists answers.hasLists destId
      · intro runtime called
        simp only [CarriedOut, mapped, Option.some.injEq, exists_eq_left',
          put_workers, update_self]
        exact Runtime.newlyRemoved_iff (keyed worker) called

end Manager

/-- In every reachable state, a destination call returns a truthful code exactly
when the lists are there and can do what it asks for. -/
theorem truthful_iff {os : Os} {maxWorkers : Int} {kernel : Kernel}
    {manager : Manager}
    (run : (managerMachine os maxWorkers).Run Observer.none
      (fun _ _ _ => True) (Manager.start kernel) manager ()) :
    ∀ event, event.destinationCall.isSome = true →
      (manager.ReturnsTruthful os maxWorkers event ↔
        manager.Feasible event) := by
  intro event isDestination
  have keyed := managerMachine_run_each (Worker.lasting_listsKeyed os) run
  cases event with
  | addDestination srcId destId ip port =>
      exact Manager.addDestination_truthful srcId destId ip port
  | removeDestination srcId destId =>
      exact Manager.removeDestination_truthful keyed srcId destId
  | addSource workerType srcId ip port => cases isDestination
  | removeSource srcId => cases isDestination
  | readTimeStamp srcId => cases isDestination
  | handleMessage => cases isDestination
  | packet worker fd received => cases isDestination
  | selectTimeout worker => cases isDestination
  | elapse seconds => cases isDestination

/-- A destination of an RTCP source is added to both its lists. -/
theorem truthful_added :
    ∃ manager,
      (managerMachine .orderly 4).Run Observer.none (fun _ _ _ => True)
        (Manager.start .fresh) manager () ∧
      manager.ReturnsTruthful .orderly 4 (.addDestination 100 5 9 6000) := by
  have run : (managerMachine .orderly 4).Run Observer.none (fun _ _ _ => True)
      (Manager.start .fresh) _ _ :=
    .of_replay [.addSource 4 100 1 5000, .addDestination 100 7 8 7000]
      (by decide)
  have feasible := truthful_iff run (.addDestination 100 5 9 6000) rfl
  exact ⟨_, run, feasible.mpr (by decide)⟩

/-- The second of two equal calls returns 0 as well. -/
theorem truthful_repeated :
    ∃ manager next,
      (managerMachine .orderly 4).Run Observer.none (fun _ _ _ => True)
        (Manager.start .fresh) manager () ∧
      (managerMachine .orderly 4).step manager
        (.addDestination 1 5 9 6000) = .ok (next, .returned 0 (some 0)) ∧
      ¬ manager.Truthful next (.addDestination 1 5 9 6000) 0 := by
  have run : (managerMachine .orderly 4).Run Observer.none (fun _ _ _ => True)
      (Manager.start .fresh) _ _ :=
    .of_replay [.addSource 1 1 1 5000, .addDestination 1 5 9 6000] (by decide)
  refine ⟨_, _, run, rfl, ?_⟩
  rintro ⟨code, -⟩
  obtain ⟨worker, mapped, ⟨list, list', found, -, fresh, -⟩, -⟩ := code.mp rfl
  cases mapped
  cases found
  exact fresh (by decide)

end StrManager
