import Mathlib.Data.List.Basic
import Mathlib.Data.List.Nodup
import StrManager.Net.Address

namespace StrManager

/-! Undefined behaviour the workers can run into: a null list that is
dereferenced, and an end iterator that is read. -/

inductive Fault where
  | nullStreamList
  | endIterator
  deriving DecidableEq, Repr

/-- A value stored in a 32-bit `int`. -/
def int32 (value : Int) : Int := value.bmod (2 ^ 32)

structure RateCounters where
  actualRate : Int
  limitRate : Int
  inputBytes : Int
  deriving DecidableEq, Repr

/-- A `StreamList`, or a `StatsStreamList` when it carries counters. The time
stamp is absent until something writes it. -/
structure StreamList where
  listId : Int
  source : UdpStream
  destinations : List UdpStream
  timeStamp : Option Int
  counters : Option RateCounters
  deriving DecidableEq, Repr

namespace StreamList

def create (listId : Int) (source : UdpStream) : StreamList where
  listId := listId
  source := source
  destinations := []
  timeStamp := none
  counters := none

def getSourcePort (list : StreamList) : Int := ntohs list.source.addr.sinPort

def getSourceSockAddr (list : StreamList) : SockAddr := list.source.addr

def existDestination (list : StreamList) (id : Int) : Bool :=
  list.destinations.any fun stream => stream.id == id

/-- The position `findDestination` returns; the length of the list stands for
its end iterator. -/
def findDestination (list : StreamList) (id : Int) : Nat :=
  list.destinations.findIdx fun stream => stream.id == id

def addDestination (list : StreamList) (destination : UdpStream) :
    Bool × StreamList :=
  if list.existDestination destination.id then (false, list)
  else (true, { list with destinations := list.destinations ++ [destination] })

def eraseFound (list : StreamList) (id : Int) : StreamList :=
  { list with
    destinations := list.destinations.eraseIdx (list.findDestination id) }

def remDestination (list : StreamList) (id : Int) :
    Except Fault (Bool × StreamList) :=
  match list.destinations[list.findDestination id]? with
  | none => .error .endIterator
  | some stream =>
      if stream.id = id then .ok (true, list.eraseFound id)
      else .ok (false, list)

def getDestination (list : StreamList) (id : Int) :
    Except Fault (Option UdpStream) :=
  match list.destinations[list.findDestination id]? with
  | none => .error .endIterator
  | some stream => if stream.id = id then .ok (some stream) else .ok none

def popDestination (list : StreamList) (id : Int) :
    Except Fault (Option UdpStream × StreamList) :=
  match list.destinations[list.findDestination id]? with
  | none => .error .endIterator
  | some stream =>
      if stream.id = id then .ok (some stream, list.eraseFound id)
      else .ok (none, list)

def setDestinations (list : StreamList) (destinations : List UdpStream) :
    StreamList :=
  { list with destinations := destinations }

def clearDestinations (list : StreamList) : StreamList :=
  list.setDestinations []

def addDestinationPointer (list : StreamList) (destination : Option UdpStream) :
    Except Fault (Bool × StreamList) :=
  match destination with
  | none => .error .nullStreamList
  | some stream => .ok (list.addDestination stream)

def updateTimeStamp (list : StreamList) (clock : Int) : StreamList :=
  { list with timeStamp := some clock }

def Keyed (list : StreamList) : Prop :=
  (list.destinations.map UdpStream.id).Nodup

theorem create_keyed (listId : Int) (source : UdpStream) :
    (create listId source).Keyed := List.nodup_nil

@[simp] theorem create_getSourceSockAddr (listId : Int) (source : UdpStream) :
    (create listId source).getSourceSockAddr = source.addr := rfl

theorem existDestination_iff (list : StreamList) (id : Int) :
    list.existDestination id = true ↔
      id ∈ list.destinations.map UdpStream.id := by
  simp [existDestination, List.any_eq_true, List.mem_map]

theorem addDestination_source (list : StreamList) (destination : UdpStream) :
    (list.addDestination destination).2.source = list.source := by
  unfold addDestination
  split <;> rfl

theorem addDestination_counters (list : StreamList) (destination : UdpStream) :
    (list.addDestination destination).2.counters = list.counters := by
  unfold addDestination
  split <;> rfl

theorem addDestination_rejected {list : StreamList} {destination : UdpStream}
    (rejected : (list.addDestination destination).1 = false) :
    (list.addDestination destination).2 = list := by
  unfold addDestination at rejected ⊢
  cases known : list.existDestination destination.id with
  | true => rfl
  | false =>
      rw [known] at rejected
      cases rejected

theorem addDestination_keyed {list : StreamList} (keyed : list.Keyed)
    (destination : UdpStream) :
    (list.addDestination destination).2.Keyed := by
  unfold addDestination
  cases known : list.existDestination destination.id with
  | true => exact keyed
  | false =>
      have absent : destination.id ∉ list.destinations.map UdpStream.id := by
        intro member
        rw [(existDestination_iff list destination.id).mpr member] at known
        cases known
      change (List.map UdpStream.id (list.destinations ++ [destination])).Nodup
      rw [List.map_append, List.nodup_append]
      refine ⟨keyed, List.nodup_singleton _, ?_⟩
      intro id member other otherMember equal
      simp only [List.map_cons, List.map_nil, List.mem_singleton] at otherMember
      subst equal otherMember
      exact absent member

theorem found_of_exists {list : StreamList} {id : Int}
    (known : list.existDestination id = true) :
    ∃ stream ∈ list.destinations, stream.id = id ∧
      list.destinations[list.findDestination id]? = some stream := by
  unfold findDestination
  rw [← List.find?_eq_getElem?_findIdx]
  cases search : list.destinations.find? fun stream => stream.id == id with
  | none =>
      obtain ⟨stream, member, passes⟩ := List.any_eq_true.mp known
      exact absurd passes (List.find?_eq_none.mp search stream member)
  | some stream =>
      have sameId := List.find?_some search
      exact ⟨stream, List.mem_of_find?_eq_some search, eq_of_beq sameId, rfl⟩

theorem remDestination_of_exists {list : StreamList} {id : Int}
    (known : list.existDestination id = true) :
    list.remDestination id = .ok (true, list.eraseFound id) := by
  obtain ⟨stream, -, sameId, atPosition⟩ := found_of_exists known
  unfold remDestination
  simp only [atPosition, if_pos sameId]

private theorem eraseIdx_findIdx_eq_filter (id : Int) (streams : List UdpStream)
    (nodup : (streams.map UdpStream.id).Nodup) :
    streams.eraseIdx (streams.findIdx fun stream => stream.id == id) =
      streams.filter fun stream => stream.id != id := by
  induction streams with
  | nil => rfl
  | cons head tail ih =>
      rw [List.map_cons, List.nodup_cons] at nodup
      rw [List.findIdx_cons, List.filter_cons]
      by_cases here : head.id = id
      · have untouched : tail.filter (fun stream => stream.id != id) = tail := by
          rw [List.filter_eq_self]
          intro stream member
          have differs : stream.id ≠ id := by
            intro equal
            exact nodup.1 (List.mem_map.mpr ⟨stream, member, by
              rw [equal, here]⟩)
          simpa using differs
        simp [here, untouched]
      · have differs : (head.id == id) = false := by simpa using here
        simp [differs, here, ih nodup.2]

theorem Keyed.eraseFound_eq {list : StreamList} (keyed : list.Keyed)
    (id : Int) :
    list.eraseFound id = { list with
      destinations :=
        list.destinations.filter fun stream => stream.id != id } := by
  unfold eraseFound findDestination
  rw [eraseIdx_findIdx_eq_filter id list.destinations keyed]

theorem Keyed.eraseFound {list : StreamList} (keyed : list.Keyed) (id : Int) :
    (list.eraseFound id).Keyed := by
  rw [keyed.eraseFound_eq]
  exact List.Nodup.sublist (List.Sublist.map _ List.filter_sublist) keyed

theorem filter_of_not_exists {list : StreamList} {id : Int}
    (unknown : list.existDestination id = false) :
    list.destinations.filter (fun stream => stream.id != id) =
      list.destinations := by
  rw [List.filter_eq_self]
  intro stream member
  have differs := List.any_eq_false.mp unknown stream member
  simpa using differs

theorem added_iff (list : StreamList) (stream : UdpStream) :
    (stream ∉ list.destinations ∧
      stream ∈ (list.addDestination stream).2.destinations) ↔
      list.existDestination stream.id = false := by
  cases known : list.existDestination stream.id with
  | true =>
      have rejected : (list.addDestination stream).1 = false := by
        simp [addDestination, known]
      rw [addDestination_rejected rejected]
      simp
  | false =>
      have absent : stream ∉ list.destinations := by
        intro member
        have taken := (list.existDestination_iff stream.id).mpr
          (List.mem_map_of_mem member)
        rw [known] at taken
        cases taken
      simp [addDestination, known, absent]

theorem Keyed.erased_iff {list : StreamList} (keyed : list.Keyed) (id : Int) :
    (id ∈ list.destinations.map UdpStream.id ∧
      id ∉ (list.eraseFound id).destinations.map UdpStream.id) ↔
      list.existDestination id = true := by
  rw [keyed.eraseFound_eq, existDestination_iff]
  simp

end StreamList

end StrManager
