import StrManager.Library.Machine
import StrManager.Library.TimedMap
import StrManager.Streams.StreamList

namespace StrManager

open Library Function

/-! The destinations of a list as a map from identifiers to streams, in the
order of insertion. -/

namespace StreamList

theorem found_of_absent {list : StreamList} {id : Int}
    (absent : id ∉ list.destinations.map UdpStream.id) :
    list.destinations[list.findDestination id]? = none := by
  unfold findDestination
  rw [← List.find?_eq_getElem?_findIdx, List.find?_eq_none]
  intro stream member sameId
  exact absent (List.mem_map.mpr ⟨stream, member, eq_of_beq sameId⟩)

/-- The functions of a list answer as the map does, and remove one stream. -/
structure Represents (list : StreamList) (map : TimedMap Int UdpStream) :
    Prop where
  distinct : list.Keyed
  getDestinations : ∀ streams,
    map.Listed UdpStream.id streams ↔ streams = list.destinations
  existDestination : ∀ id,
    list.existDestination id = true ↔ (map id).isSome = true
  getDestination : ∀ id time stream, map id = some (time, stream) →
    list.getDestination id = .ok (some stream)
  popDestination : ∀ id time stream, map id = some (time, stream) →
    list.popDestination id = .ok (some stream, { list with
      destinations := list.destinations.filter fun other => other.id ≠ id })
  remDestination : ∀ id, (map id).isSome = true →
    list.remDestination id = .ok (true, { list with
      destinations := list.destinations.filter fun other => other.id ≠ id })

theorem represents_of_listed {list : StreamList} {map : TimedMap Int UdpStream}
    (listed : map.Listed UdpStream.id list.destinations) :
    list.Represents map := by
  have keyed : list.Keyed := listed.nodup
  have exists_iff (id : Int) :
      list.existDestination id = true ↔ (map id).isSome = true := by
    rw [existDestination_iff]
    exact listed.mem_keys_iff id
  have erased (id : Int) : list.eraseFound id = { list with
      destinations := list.destinations.filter fun other => other.id ≠ id } := by
    rw [keyed.eraseFound_eq]
    congr 1
    exact List.filter_congr fun stream _ => by
      simp [bne, beq_eq_decide]
  -- The position that is found holds the stream that was inserted.
  have found {id : Int} {time : Nat} {stream : UdpStream}
      (entry : map id = some (time, stream)) :
      list.destinations[list.findDestination id]? = some stream ∧
        stream.id = id := by
    have known := (exists_iff id).mpr (by rw [entry]; rfl)
    obtain ⟨other, member, rfl, atPosition⟩ := found_of_exists known
    obtain ⟨time2, entry2⟩ := (listed.mem other).mp member
    rw [entry] at entry2
    cases entry2
    exact ⟨atPosition, rfl⟩
  refine ⟨keyed, ?_, exists_iff, ?_, ?_, ?_⟩
  · intro streams
    constructor
    · intro other
      exact other.unique listed
    · rintro rfl
      exact listed
  · intro id time stream entry
    obtain ⟨atPosition, sameId⟩ := found entry
    simp only [StreamList.getDestination, atPosition, if_pos sameId]
  · intro id time stream entry
    obtain ⟨atPosition, sameId⟩ := found entry
    simp only [StreamList.popDestination, atPosition, if_pos sameId, erased]
  · intro id used
    rw [remDestination_of_exists ((exists_iff id).mpr used), erased]

end StreamList

/-! Any number of lists, and the calls that change their destinations. -/

inductive ListEvent where
  | addDestination (list : Nat) (destination : UdpStream)
  | remDestination (list : Nat) (id : Int)
  | popDestination (list : Nat) (id : Int)
  | clearDestinations (list : Nat)
  /-- The argument is what `getDestinations` of the other list returns. -/
  | setDestinations (list other : Nat)

inductive ListOutput where
  | returned (success : Bool)
  | popped (stream : Option UdpStream)
  | done

abbrev StreamLists := Nat → StreamList

namespace StreamLists

/-- Lists of any class as the `clear` of their constructor leaves them. -/
def start (made : StreamLists) : StreamLists :=
  fun list => (made list).clearDestinations

def step (lists : StreamLists) :
    ListEvent → Except Fault (StreamLists × ListOutput)
  | .addDestination list destination =>
      let (added, after) := (lists list).addDestination destination
      .ok (update lists list after, .returned added)
  | .remDestination list id => do
      let (removed, after) ← (lists list).remDestination id
      return (update lists list after, .returned removed)
  | .popDestination list id => do
      let (stream, after) ← (lists list).popDestination id
      return (update lists list after, .popped stream)
  | .clearDestinations list =>
      .ok (update lists list (lists list).clearDestinations, .done)
  | .setDestinations list other =>
      .ok (update lists list
        ((lists list).setDestinations (lists other).destinations), .done)

end StreamLists

def listMachine : Machine StreamLists ListEvent ListOutput Fault where
  step := StreamLists.step

def ListEvent.Present (lists : StreamLists) : ListEvent → Prop
  | .remDestination list id | .popDestination list id =>
      id ∈ (lists list).destinations.map UdpStream.id
  | _ => True

instance (lists : StreamLists) (event : ListEvent) :
    Decidable (event.Present lists) :=
  match event with
  | .remDestination list id | .popDestination list id =>
      inferInstanceAs (Decidable (id ∈ (lists list).destinations.map _))
  | .addDestination _ _ | .clearDestinations _ | .setDestinations _ _ =>
      isTrue trivial

structure Insertions where
  now : Nat
  maps : Nat → TimedMap Int UdpStream

namespace Insertions

def record (insertions : Insertions) (event : ListEvent) : Insertions where
  now := insertions.now + 1
  maps :=
    match event with
    | .addDestination list destination => update insertions.maps list
        ((insertions.maps list).insert insertions.now destination.id destination)
    | .remDestination list id | .popDestination list id =>
        update insertions.maps list ((insertions.maps list).erase id)
    | .clearDestinations list => update insertions.maps list .empty
    | .setDestinations list other =>
        update insertions.maps list (insertions.maps other)

def observer : Observer ListEvent ListOutput Insertions where
  initial := ⟨0, fun _ => .empty⟩
  update insertions event _ := insertions.record event

structure Hold (insertions : Insertions) (lists : StreamLists) : Prop where
  before : ∀ list, (insertions.maps list).Before insertions.now
  listed : ∀ list,
    (insertions.maps list).Listed UdpStream.id (lists list).destinations

namespace Hold

variable {insertions : Insertions} {lists : StreamLists}

theorem start (made : StreamLists) :
    observer.initial.Hold (StreamLists.start made) :=
  ⟨fun _ => .empty 0, fun _ => .nil⟩

theorem write (hold : insertions.Hold lists) {list : Nat}
    {map : TimedMap Int UdpStream} {after : StreamList}
    (before : map.Before (insertions.now + 1))
    (listed : map.Listed UdpStream.id after.destinations) :
    Hold ⟨insertions.now + 1, update insertions.maps list map⟩
      (update lists list after) where
  before := by
    intro other
    change (update insertions.maps list map other).Before _
    rw [update_apply]
    split
    · exact before
    · exact (hold.before other).later
  listed := by
    intro other
    change (update insertions.maps list map other).Listed _
      (update lists list after other).destinations
    rw [update_apply, update_apply]
    split
    · exact listed
    · exact hold.listed other

theorem added (hold : insertions.Hold lists) (list : Nat)
    (destination : UdpStream) :
    ((insertions.maps list).insert insertions.now destination.id
        destination).Listed UdpStream.id
      ((lists list).addDestination destination).2.destinations := by
  have listed := hold.listed list
  have represents := StreamList.represents_of_listed listed
  unfold StreamList.addDestination
  cases known : (lists list).existDestination destination.id with
  | true =>
      rw [TimedMap.insert_of_isSome _ _
        ((represents.existDestination destination.id).mp known)]
      exact listed
  | false =>
      refine listed.insert (hold.before list) ?_
      rw [← Option.not_isSome_iff_eq_none,
        ← represents.existDestination, known]
      exact Bool.false_ne_true

theorem step (hold : insertions.Hold lists) {next : StreamLists}
    {event : ListEvent} {output : ListOutput} (present : event.Present lists)
    (stepped : lists.step event = .ok (next, output)) :
    (insertions.record event).Hold next := by
  have represents (list : Nat) :=
    StreamList.represents_of_listed (hold.listed list)
  cases event with
  | addDestination list destination =>
      cases stepped
      exact hold.write ((hold.before list).insert _ _)
        (hold.added list destination)
  | remDestination list id =>
      have used := ((hold.listed list).mem_keys_iff id).mp present
      simp only [StreamLists.step, (represents list).remDestination id used]
        at stepped
      cases stepped
      exact hold.write ((hold.before list).erase id).later
        ((hold.listed list).erase id)
  | popDestination list id =>
      have used := ((hold.listed list).mem_keys_iff id).mp present
      obtain ⟨⟨time, stream⟩, entry⟩ := Option.isSome_iff_exists.mp used
      simp only [StreamLists.step,
        (represents list).popDestination id time stream entry] at stepped
      cases stepped
      exact hold.write ((hold.before list).erase id).later
        ((hold.listed list).erase id)
  | clearDestinations list =>
      cases stepped
      exact hold.write (.empty _) .nil
  | setDestinations list other =>
      cases stepped
      exact hold.write (hold.before other).later (hold.listed other)

end Hold

end Insertions

/-- In every run whose removals name destinations of their lists, every list is
the map of what was added to it and not removed. -/
theorem destinations_insertionOrdered {made lists : StreamLists}
    {insertions : Insertions}
    (run : listMachine.Run Insertions.observer
      (fun lists _ event => event.Present lists) (StreamLists.start made) lists
      insertions) (list : Nat) :
    (lists list).Represents (insertions.maps list) := by
  have hold : insertions.Hold lists := by
    refine run.invariant (motive := fun lists insertions =>
      insertions.Hold lists) (Insertions.Hold.start made) ?_
    intro lists next insertions event output hold present stepped
    exact hold.step present stepped
  exact StreamList.represents_of_listed (hold.listed list)

/-- Two lists, a destination moved on by copying all destinations, and one that
is removed and added again at the end. -/
theorem destinations_insertionOrdered_copied :
    ∃ (lists : StreamLists) (insertions : Insertions),
      (lists 0).destinations.map UdpStream.id = [6, 5] ∧
      (lists 1).destinations.map UdpStream.id = [5, 6] ∧
      (lists 0).Represents (insertions.maps 0) := by
  have run : listMachine.Run Insertions.observer
      (fun lists _ event => event.Present lists)
      (StreamLists.start fun _ => StreamList.create 1 (UdpStream.create 1 1 5000))
      _ _ :=
    .of_replay [.addDestination 0 (UdpStream.create 5 9 6000),
      .addDestination 0 (UdpStream.create 6 9 6002), .setDestinations 1 0,
      .popDestination 0 5, .addDestination 0 (UdpStream.create 5 9 6000)]
      (by decide)
  exact ⟨_, _, by decide, by decide, destinations_insertionOrdered run 0⟩

namespace StreamList

/-- An absent identifier is reported, and the list stays as it is. -/
structure HandlesAbsent (list : StreamList) (id : Int) : Prop where
  remDestination : list.remDestination id = .ok (false, list)
  getDestination : list.getDestination id = .ok none
  popDestination : list.popDestination id = .ok (none, list)

end StreamList

/-- All three functions read the end of the list for an absent identifier: the
comparison that is to catch it comes after the read. -/
theorem absent_readsEnd (list : StreamList) (id : Int)
    (absent : id ∉ list.destinations.map UdpStream.id) :
    list.remDestination id = .error .endIterator ∧
      list.getDestination id = .error .endIterator ∧
      list.popDestination id = .error .endIterator ∧
      ¬ list.HandlesAbsent id := by
  have atEnd := StreamList.found_of_absent absent
  have removes : list.remDestination id = .error .endIterator := by
    simp only [StreamList.remDestination, atEnd]
  refine ⟨removes, ?_, ?_, ?_⟩
  · simp only [StreamList.getDestination, atEnd]
  · simp only [StreamList.popDestination, atEnd]
  · intro handles
    have removed := handles.remDestination
    rw [removes] at removed
    cases removed

theorem absent_readsEnd_one :
    (StreamList.create 1 (UdpStream.create 1 1 5000)).getDestination 5 =
      .error .endIterator :=
  (absent_readsEnd (StreamList.create 1 (UdpStream.create 1 1 5000)) 5
    (by decide)).2.1

/-- The empty list reads its end for every identifier. -/
theorem absent_unhandled :
    ¬ ∀ (list : StreamList) (id : Int),
      id ∉ list.destinations.map UdpStream.id → list.HandlesAbsent id := by
  intro handled
  have handles := handled (StreamList.create 1 (UdpStream.create 1 1 5000)) 5
    (by decide)
  cases handles.remDestination

end StrManager
