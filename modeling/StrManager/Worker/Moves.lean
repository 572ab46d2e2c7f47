import Mathlib.Algebra.Order.Group.Multiset
import StrManager.Streams.Destinations
import StrManager.Worker.Conmute

namespace StrManager

open Library Function

/-! What the two conmute operations do to the destinations of a worker. -/

namespace StreamTables

/-- The destinations of one entry; a null list has none. -/
def entryDestinations (entry : Option StreamList) : Multiset UdpStream :=
  match entry with
  | none => 0
  | some list => list.destinations

def allDestinations (tables : StreamTables) : Multiset UdpStream :=
  tables.management.total entryDestinations

def DistinctDestinations (tables : StreamTables) : Prop :=
  (tables.allDestinations.map UdpStream.id).Nodup

instance (tables : StreamTables) : Decidable tables.DistinctDestinations :=
  inferInstanceAs (Decidable (Multiset.Nodup _))

theorem allDestinations_modifyList {tables : StreamTables} {listId : Int}
    {list : StreamList} (found : tables.lists listId = some list)
    (after : StreamList) :
    (list.destinations : Multiset UdpStream) +
        (tables.modifyList listId after).allDestinations =
      (after.destinations : Multiset UdpStream) + tables.allDestinations :=
  Table.total_insert entryDestinations (some after) (lookup_of_lists found)

end StreamTables

namespace Worker

theorem getStreamList_of_found {tables : StreamTables} {listId : Int}
    {list : StreamList} (found : tables.lists listId = some list) :
    tables.getStreamList listId = (some list, tables) := by
  unfold StreamTables.getStreamList
  rw [Table.touch_of_lookup none (StreamTables.lookup_of_lists found), found]

theorem conmuteStreamList_ok {runtime : Runtime} {fromId toId : Int}
    {a b : StreamList}
    (found : runtime.worker.streams.lists fromId = some a)
    (found2 : runtime.worker.streams.lists toId = some b) :
    conmuteStreamList runtime fromId toId = .ok (runtime.withStreams
      (((runtime.worker.streams.modifyList toId
        (b.setDestinations a.destinations)).modifyList fromId
          (if fromId = toId then b.clearDestinations
            else a.clearDestinations)))) := by
  have again : (runtime.worker.streams.modifyList toId
      (b.setDestinations a.destinations)).lists fromId =
        some (if fromId = toId then b.setDestinations a.destinations else a) := by
    rw [StreamTables.lists_modifyList, update_apply]
    split
    · rfl
    · exact found
  unfold conmuteStreamList
  simp only [getStreamList_of_found found, getStreamList_of_found found2,
    getStreamList_of_found again, derefList_some, bind, Except.bind, pure,
    Except.pure]
  split <;> rfl

/-- All destinations of one list are in the other one, and none are lost. -/
structure MovesAll (before after : StreamTables) (fromId toId : Int) : Prop where
  conserved : after.allDestinations = before.allDestinations
  received : ∀ a, before.lists fromId = some a →
    ∃ b, after.lists toId = some b ∧ a.destinations ⊆ b.destinations
  emptied : fromId ≠ toId →
    ∃ a, after.lists fromId = some a ∧ a.destinations = []
  others : ∀ listId, listId ≠ fromId → listId ≠ toId →
    after.lists listId = before.lists listId
  sources : ∀ listId, (after.lists listId).map StreamList.source =
    (before.lists listId).map StreamList.source
  forwarding : after.forwarding = before.forwarding

section ConmuteStreamList

variable {runtime : Runtime} {fromId toId : Int} {a b : StreamList}
  (found : runtime.worker.streams.lists fromId = some a)
  (found2 : runtime.worker.streams.lists toId = some b)
include found found2

theorem conmuteStreamList_loses :
    ∃ next, conmuteStreamList runtime fromId toId = .ok next ∧
      (b.destinations : Multiset UdpStream) +
          next.worker.streams.allDestinations =
        runtime.worker.streams.allDestinations := by
  refine ⟨_, conmuteStreamList_ok found found2, ?_⟩
  let given := runtime.worker.streams.modifyList toId
    (b.setDestinations a.destinations)
  have replaced := StreamTables.allDestinations_modifyList found2
    (b.setDestinations a.destinations)
  by_cases same : fromId = toId
  · subst toId
    cases Option.some.inj (found.symm.trans found2)
    have stored : given.lists fromId = some (a.setDestinations a.destinations) := by
      rw [StreamTables.lists_modifyList, update_self]
    have cleared := StreamTables.allDestinations_modifyList stored
      a.clearDestinations
    rw [if_pos rfl]
    exact cleared.trans ((zero_add _).trans (add_left_cancel replaced))
  · have stored : given.lists fromId = some a := by
      rw [StreamTables.lists_modifyList, update_of_ne same, found]
    have cleared := StreamTables.allDestinations_modifyList stored
      a.clearDestinations
    rw [if_neg same]
    -- The first list gives up exactly what it has just handed over.
    apply add_left_cancel (a := (a.destinations : Multiset UdpStream))
    rw [add_left_comm]
    refine (congrArg _ cleared).trans ?_
    change _ + (0 + _) = _
    rw [zero_add]
    exact replaced

theorem conmuteStreamList_lists :
    ∃ next, conmuteStreamList runtime fromId toId = .ok next ∧
      next.worker.streams.forwarding = runtime.worker.streams.forwarding ∧
      ∀ listId, next.worker.streams.lists listId =
        if listId = fromId then some a.clearDestinations
        else if listId = toId then some (b.setDestinations a.destinations)
        else runtime.worker.streams.lists listId := by
  refine ⟨_, conmuteStreamList_ok found found2, rfl, ?_⟩
  intro listId
  change (StreamTables.modifyList _ _ _).lists listId = _
  rw [StreamTables.lists_modifyList, StreamTables.lists_modifyList,
    update_apply, update_apply]
  by_cases same : fromId = toId
  · subst toId
    cases Option.some.inj (found.symm.trans found2)
    rw [if_pos rfl]
  · rw [if_neg same]

end ConmuteStreamList

end Worker

/-- The call moves all destinations and loses none exactly when the list they
are moved to has none of its own. -/
theorem conmuteStreamList_movesAll_iff {runtime : Runtime} {fromId toId : Int}
    {a b : StreamList}
    (found : runtime.worker.streams.lists fromId = some a)
    (found2 : runtime.worker.streams.lists toId = some b) :
    (∃ next, Worker.conmuteStreamList runtime fromId toId = .ok next ∧
      Worker.MovesAll runtime.worker.streams next.worker.streams
        fromId toId) ↔
    b.destinations = [] := by
  obtain ⟨next, called, loses⟩ :=
    Worker.conmuteStreamList_loses found found2
  constructor
  · rintro ⟨other, called2, moves⟩
    rw [called] at called2
    cases called2
    rw [moves.conserved] at loses
    exact Multiset.coe_eq_zero b.destinations |>.mp
      (add_eq_right.mp loses)
  · intro empty
    obtain ⟨other, called2, forwarding, lists⟩ :=
      Worker.conmuteStreamList_lists found found2
    rw [called] at called2
    cases called2
    refine ⟨next, called, ?_, ?_, ?_, ?_, ?_, forwarding⟩
    · rw [empty] at loses
      exact (zero_add _).symm.trans loses
    · intro source sourceFound
      cases Option.some.inj (found.symm.trans sourceFound)
      by_cases same : toId = fromId
      · subst toId
        cases Option.some.inj (found.symm.trans found2)
        refine ⟨_, (lists fromId).trans (if_pos rfl), ?_⟩
        rw [empty]
        exact List.nil_subset _
      · refine ⟨_, (lists toId).trans ((if_neg same).trans (if_pos rfl)), ?_⟩
        exact List.Subset.refl _
    · intro _
      exact ⟨_, (lists fromId).trans (if_pos rfl), rfl⟩
    · intro listId notFrom notTo
      rw [lists, if_neg notFrom, if_neg notTo]
    · intro listId
      rw [lists]
      split
      · rename_i here
        rw [here, found]
        rfl
      · split
        · rename_i here
          rw [here, found2]
          rfl
        · rfl

def conmuteSetup (events : List ConmuteEvent) : List ConmuteEvent :=
  [.call (.addSource 1 1 5000), .call (.addSource 2 2 5000),
    .call (.addDestination 1 5 9 6000)] ++ events

theorem conmuteStreamList_movesAll_first :
    ∃ runtime b,
      (conmuteMachine Os.orderly).Run Observer.none (fun _ _ _ => True)
        (Runtime.start .forward 1 Kernel.fresh) runtime () ∧
      runtime.worker.streams.lists 2 = some b ∧ b.destinations = [] ∧
      ∃ next, Worker.conmuteStreamList runtime 1 2 = .ok next ∧
        Worker.MovesAll runtime.worker.streams next.worker.streams 1 2 := by
  refine ⟨_, _, .of_replay (conmuteSetup []) (by decide), rfl, rfl, ?_⟩
  exact (conmuteStreamList_movesAll_iff rfl rfl).mpr rfl

/-- With a destination in each list, the one in the second list is lost. -/
theorem conmuteStreamList_overwrites :
    ∃ runtime a b,
      (conmuteMachine Os.orderly).Run Observer.none (fun _ _ _ => True)
        (Runtime.start .forward 1 Kernel.fresh) runtime () ∧
      runtime.worker.streams.DistinctDestinations ∧
      runtime.worker.streams.lists 1 = some a ∧
      runtime.worker.streams.lists 2 = some b ∧
      ¬ ∃ next, Worker.conmuteStreamList runtime 1 2 = .ok next ∧
        Worker.MovesAll runtime.worker.streams next.worker.streams 1 2 := by
  refine ⟨_, _, _, .of_replay (conmuteSetup
    [.call (.addDestination 2 6 9 6002)]) (by decide), by decide, rfl, rfl, ?_⟩
  rintro ⟨next, called, moves⟩
  cases called
  exact absurd moves.conserved (by decide)

/-! One destination. -/

namespace StreamList

theorem getDestination_of_exists {list : StreamList} {id : Int}
    (known : list.existDestination id = true) :
    ∃ stream ∈ list.destinations, stream.id = id ∧
      list.getDestination id = .ok (some stream) := by
  obtain ⟨stream, member, sameId, atPosition⟩ := found_of_exists known
  refine ⟨stream, member, sameId, ?_⟩
  simp only [getDestination, atPosition, if_pos sameId]

def without (list : StreamList) (id : Int) : List UdpStream :=
  list.destinations.filter fun stream => stream.id ≠ id

end StreamList

namespace Worker

/-- The destination is taken from one list to the other one, or, where there is
nothing to take or no room for it, all lists stay. -/
structure MovesOne (before after : StreamTables) (id fromId toId : Int)
    (a b : StreamList) : Prop where
  moved : a.existDestination id = true → b.existDestination id = false →
    ∃ source target stream,
      stream ∈ a.destinations ∧ stream.id = id ∧
      after.lists toId = some target ∧ stream ∈ target.destinations ∧
      after.lists fromId = some source ∧
      source.existDestination id = false ∧
      ∀ listId, (after.lists listId).map (StreamList.without · id) =
        (before.lists listId).map (StreamList.without · id)
  kept : a.existDestination id = false ∨
      (b.existDestination id = true ∧ fromId ≠ toId) →
    after.lists = before.lists

section ConmuteUdpStream

variable {runtime : Runtime} {id fromId toId : Int} {a b : StreamList}
  (found : runtime.worker.streams.lists fromId = some a)
include found

theorem conmuteUdpStream_faults (absent : a.existDestination id = false) :
    conmuteUdpStream runtime id fromId toId = .error .endIterator := by
  have missing : id ∉ a.destinations.map UdpStream.id := by
    intro member
    rw [(a.existDestination_iff id).mpr member] at absent
    cases absent
  have faults : a.getDestination id = .error .endIterator := by
    simp only [StreamList.getDestination, StreamList.found_of_absent missing]
  unfold conmuteUdpStream
  simp only [getStreamList_of_found found, derefList_some, bind, Except.bind,
    faults]

variable (found2 : runtime.worker.streams.lists toId = some b)
include found2

theorem conmuteUdpStream_copies (known : a.existDestination id = true) :
    ∃ stream next, stream ∈ a.destinations ∧ stream.id = id ∧
      conmuteUdpStream runtime id fromId toId = .ok next ∧
      next.worker.streams.lists = update runtime.worker.streams.lists toId
        (some (b.addDestination stream).2) := by
  obtain ⟨stream, member, sameId, returned⟩ :=
    StreamList.getDestination_of_exists known
  refine ⟨stream, runtime.withStreams (runtime.worker.streams.modifyList toId
    (b.addDestination stream).2), member, sameId, ?_,
    StreamTables.lists_modifyList _ _ _⟩
  unfold conmuteUdpStream
  simp only [getStreamList_of_found found, getStreamList_of_found found2,
    derefList_some, bind, Except.bind, returned,
    StreamList.addDestinationPointer, pure, Except.pure]

end ConmuteUdpStream

end Worker

/-- The call moves a destination as it should exactly when both lists have it,
and there is nothing to do. -/
theorem conmuteUdpStream_movesOne_iff {runtime : Runtime}
    {fromId toId : Int} {a b : StreamList}
    (found : runtime.worker.streams.lists fromId = some a)
    (found2 : runtime.worker.streams.lists toId = some b) (id : Int) :
    (∃ next, Worker.conmuteUdpStream runtime id fromId toId = .ok next ∧
      Worker.MovesOne runtime.worker.streams next.worker.streams
        id fromId toId a b) ↔
    a.existDestination id = true ∧ b.existDestination id = true := by
  constructor
  · rintro ⟨next, called, moves⟩
    cases known : a.existDestination id with
    | false =>
        rw [Worker.conmuteUdpStream_faults found known] at called
        cases called
    | true =>
        refine ⟨rfl, ?_⟩
        by_contra unknown
        rw [Bool.not_eq_true] at unknown
        have differ : fromId ≠ toId := by
          rintro rfl
          cases Option.some.inj (found.symm.trans found2)
          rw [known] at unknown
          cases unknown
        obtain ⟨stream, other, -, -, called2, lists⟩ :=
          Worker.conmuteUdpStream_copies found found2 known
        rw [called] at called2
        cases called2
        obtain ⟨source, target, moved, -, -, -, -, sourceFound, gone, -⟩ :=
          moves.moved known unknown
        -- The first list is as it was, so it still has the destination.
        rw [lists, update_of_ne differ, found] at sourceFound
        cases sourceFound
        rw [known] at gone
        cases gone
  · rintro ⟨known, taken⟩
    obtain ⟨stream, next, -, sameId, called, lists⟩ :=
      Worker.conmuteUdpStream_copies found found2 known
    have ignored : (b.addDestination stream).2 = b := by
      apply StreamList.addDestination_rejected
      simp [StreamList.addDestination, sameId, taken]
    refine ⟨next, called, ?_, ?_⟩
    · intro _ missing
      rw [taken] at missing
      cases missing
    · intro _
      rw [lists, ignored, ← found2, update_eq_self]

theorem conmuteUdpStream_movesOne_both :
    ∃ runtime a b,
      (conmuteMachine Os.orderly).Run Observer.none (fun _ _ _ => True)
        (Runtime.start .forward 1 Kernel.fresh) runtime () ∧
      runtime.worker.streams.lists 1 = some a ∧
      runtime.worker.streams.lists 2 = some b ∧
      ∃ next, Worker.conmuteUdpStream runtime 5 1 2 = .ok next ∧
        Worker.MovesOne runtime.worker.streams next.worker.streams
          5 1 2 a b := by
  refine ⟨_, _, _, .of_replay (conmuteSetup
    [.call (.addDestination 2 5 9 6002)]) (by decide), rfl, rfl, ?_⟩
  exact (conmuteUdpStream_movesOne_iff rfl rfl 5).mpr (by decide)

/-- A destination that is to be moved is in both lists afterwards. -/
theorem conmuteUdpStream_duplicates :
    ∃ runtime a b,
      (conmuteMachine Os.orderly).Run Observer.none (fun _ _ _ => True)
        (Runtime.start .forward 1 Kernel.fresh) runtime () ∧
      runtime.worker.streams.lists 1 = some a ∧
      runtime.worker.streams.lists 2 = some b ∧
      a.existDestination 5 = true ∧ b.existDestination 5 = false ∧
      ¬ ∃ next, Worker.conmuteUdpStream runtime 5 1 2 = .ok next ∧
        Worker.MovesOne runtime.worker.streams next.worker.streams
          5 1 2 a b := by
  refine ⟨_, _, _, .of_replay (conmuteSetup []) (by decide), rfl, rfl,
    by decide, by decide, ?_⟩
  rintro ⟨next, called, moves⟩
  cases called
  obtain ⟨source, target, stream, -, -, -, -, sourceFound, gone, -⟩ :=
    moves.moved (by decide) (by decide)
  cases sourceFound
  exact absurd gone (by decide)

end StrManager
