import StrManager.Library.Keyed
import StrManager.Manager.Basic
import StrManager.Worker.Delivery

namespace StrManager

open Library Function

/-! What the manager is for, in its own terms: sources, each of a class, with
an address and destinations. Workers, tables and sockets do not occur here. -/

structure Flow where
  kind : WorkerKind
  registration : Registration
  deriving DecidableEq

/-- The streams of a source that are reflected. An RTCP source has a second
one on the next port. -/
def Flow.streams (flow : Flow) : List Registration :=
  match flow.kind with
  | .rtcp => [flow.registration, flow.registration.next]
  | .forward | .stats => [flow.registration]

theorem Flow.mem_streams (flow : Flow) (stream : Registration) :
    stream ∈ flow.streams ↔
      stream = flow.registration ∨
        (flow.kind = .rtcp ∧ stream = flow.registration.next) := by
  unfold streams
  cases flow.kind <;> simp

def Flow.edit (edit : Registration → Registration) (flow : Flow) : Flow :=
  { flow with registration := edit flow.registration }

abbrev Reflector := Int → Option Flow

def Received.sender (received : Received) : SockAddr := received.recvfrom.2.1

def relays (fd : Int) (received : Received) (streams : List UdpStream) :
    List Transmission :=
  streams.map fun stream =>
    ⟨fd, received.recvfrom.2.2, received.rlen.toNat, stream.addr⟩

/-- The source a destination call names, and what the call does to it. -/
def ManagerEvent.editing :
    ManagerEvent → Option (Int × (Registration → Registration))
  | .addDestination srcId destId ip port =>
      some (srcId, fun registration =>
        registration.addDestination (UdpStream.create destId ip port))
  | .removeDestination srcId destId =>
      some (srcId, fun registration => registration.removeDestination destId)
  | _ => none

def ManagerEvent.changed : ManagerEvent → Option Int
  | .addSource _ srcId _ _ | .removeSource srcId
  | .addDestination srcId _ _ _ | .removeDestination srcId _ => some srcId
  | _ => none

namespace Reflector

/-- The sources after a call that returned 0. -/
def carryOut (reflector : Reflector) (event : ManagerEvent) : Reflector :=
  match event with
  | .addSource workerType srcId ip port =>
      update reflector srcId ((WorkerKind.ofType workerType).map fun kind =>
        ⟨kind, ⟨SockAddr.ofPort ip port, []⟩⟩)
  | .removeSource srcId => update reflector srcId none
  | event =>
      match event.editing with
      | some (srcId, edit) =>
          update reflector srcId ((reflector srcId).map (Flow.edit edit))
      | none => reflector

/-- A call that does not return 0 changes nothing. -/
def record (reflector : Reflector) (event : ManagerEvent) :
    ManagerOutput → Reflector
  | .returned code _ => if code = 0 then reflector.carryOut event else reflector
  | .time _ _ | .sent _ | .quiet => reflector

def observer : Observer ManagerEvent ManagerOutput Reflector where
  initial := fun _ => none
  update := record

def after (calls : List ManagerEvent) : Reflector :=
  calls.foldl carryOut fun _ => none

def about (srcId : Int) (calls : List ManagerEvent) : List ManagerEvent :=
  calls.filter fun event => event.changed = some srcId

def ledger : Observer ManagerEvent ManagerOutput (List ManagerEvent) where
  initial := []
  update calls event
    | .returned code _ => if code = 0 then calls ++ [event] else calls
    | .time _ _ | .sent _ | .quiet => calls

theorem after_ledger (calls : List ManagerEvent) (event : ManagerEvent)
    (output : ManagerOutput) :
    after (ledger.update calls event output) =
      (after calls).record event output := by
  cases output with
  | returned code server =>
      change after (if code = 0 then calls ++ [event] else calls) =
        if code = 0 then (after calls).carryOut event else after calls
      split
      · unfold after
        rw [List.foldl_append]
        rfl
      · rfl
  | time timeStamp server => rfl
  | sent transmissions => rfl
  | quiet => rfl

theorem keyed : Keyed carryOut ManagerEvent.changed where
  elsewhere := by
    intro reflector event srcId unnamed
    have other {changed : Int} (named : event.changed = some changed) :
        srcId ≠ changed := by
      rintro rfl
      exact unnamed named
    cases event with
    | addSource workerType changed ip port => exact update_of_ne (other rfl) _ _
    | removeSource changed => exact update_of_ne (other rfl) _ _
    | addDestination changed destId ip port =>
        exact update_of_ne (other rfl) _ _
    | removeDestination changed destId => exact update_of_ne (other rfl) _ _
    | readTimeStamp changed => rfl
    | handleMessage => rfl
    | packet worker fd received => rfl
    | selectTimeout worker => rfl
    | elapse seconds => rfl
  here := by
    intro reflector reflector2 event srcId named same
    cases event with
    | addSource workerType changed ip port =>
        cases named
        simp only [carryOut, update_self]
    | removeSource changed =>
        cases named
        simp only [carryOut, update_self]
    | addDestination changed destId ip port =>
        cases named
        simp only [carryOut, ManagerEvent.editing, update_self, same]
    | removeDestination changed destId =>
        cases named
        simp only [carryOut, ManagerEvent.editing, update_self, same]
    | readTimeStamp changed => cases named
    | handleMessage => cases named
    | packet worker fd received => cases named
    | selectTimeout worker => cases named
    | elapse seconds => cases named

def Reflects (reflector : Reflector) (stream : Registration) : Prop :=
  ∃ srcId flow, reflector srcId = some flow ∧ stream ∈ flow.streams

/-- No two sources have a stream with the same address, and no two classes
have streams on the same port. -/
structure Distinct (reflector : Reflector) : Prop where
  address : ∀ {first second : Int} {flow flow2 : Flow}
    {stream stream2 : Registration},
    reflector first = some flow → stream ∈ flow.streams →
    reflector second = some flow2 → stream2 ∈ flow2.streams →
    stream.addr = stream2.addr → first = second
  port : ∀ {first second : Int} {flow flow2 : Flow}
    {stream stream2 : Registration},
    reflector first = some flow → stream ∈ flow.streams →
    reflector second = some flow2 → stream2 ∈ flow2.streams →
    stream.addr.sinPort = stream2.addr.sinPort → flow.kind = flow2.kind

/-- What the reflector may answer. The kernel tells the local port of a
descriptor. A source is refused only when one of its ports is taken. -/
inductive Step (kernel : Kernel) (reflector : Reflector) :
    ManagerEvent → ManagerOutput → Prop
  | refused {workerType srcId : Int} {ip : InAddr} {port : Int}
      {server : Option Nat}
      (clash : ∀ kind, WorkerKind.ofType workerType = some kind →
        ∃ stream ∈ (Flow.mk kind ⟨SockAddr.ofPort ip port, []⟩).streams,
          kernel.Bound stream.addr.sinPort) :
      Step kernel reflector (.addSource workerType srcId ip port)
        (.returned (-1) server)
  | accepted {workerType srcId : Int} {ip : InAddr} {port : Int}
      {server : Option Nat} (kind : WorkerKind)
      (supported : WorkerKind.ofType workerType = some kind)
      (free : Distinct (reflector.carryOut
        (.addSource workerType srcId ip port))) :
      Step kernel reflector (.addSource workerType srcId ip port)
        (.returned 0 server)
  | removed {srcId : Int} {server : Option Nat}
      (known : (reflector srcId).isSome = true) :
      Step kernel reflector (.removeSource srcId) (.returned 0 server)
  | edited {event : ManagerEvent} {srcId : Int}
      {edit : Registration → Registration} {server : Option Nat}
      (edits : event.editing = some (srcId, edit))
      (known : (reflector srcId).isSome = true) :
      Step kernel reflector event (.returned 0 server)
  | unknownSource {srcId : Int} (missing : reflector srcId = none) :
      Step kernel reflector (.removeSource srcId) (.returned (-1) none)
  | unknownEdited {event : ManagerEvent} {srcId : Int}
      {edit : Registration → Registration}
      (edits : event.editing = some (srcId, edit))
      (missing : reflector srcId = none) :
      Step kernel reflector event (.returned (-1) none)
  | read {srcId : Int} {timeStamp : Option Int} {server : Option Nat}
      (missing : reflector srcId = none → timeStamp = some kernel.clock) :
      Step kernel reflector (.readTimeStamp srcId) (.time timeStamp server)
  | reflected {worker : Nat} {fd : Int} {received : Received}
      {stream : Registration} {port : BitVec 16}
      (hosted : kernel.sockets.lookup fd = some (some port))
      (content : 0 < received.rlen.toNat) (known : reflector.Reflects stream)
      (addressed : stream.addr = ⟨received.sender.sinAddr, port⟩) :
      Step kernel reflector (.packet worker fd received)
        (.sent (relays fd received stream.destinations))
  | dropped {worker : Nat} {fd : Int} {received : Received} {port : BitVec 16}
      (hosted : kernel.sockets.lookup fd = some (some port))
      (stray : 0 < received.rlen.toNat → ∀ stream, reflector.Reflects stream →
        stream.addr ≠ ⟨received.sender.sinAddr, port⟩) :
      Step kernel reflector (.packet worker fd received) (.sent [])
  | handled : Step kernel reflector .handleMessage .quiet
  | timedOut {worker : Nat} : Step kernel reflector (.selectTimeout worker) .quiet
  | elapsed {seconds : Nat} : Step kernel reflector (.elapse seconds) .quiet

theorem Distinct.stream_eq {reflector : Reflector}
    (distinct : reflector.Distinct) {first second : Registration}
    (firstKnown : reflector.Reflects first)
    (secondKnown : reflector.Reflects second)
    (same : first.addr = second.addr) : first = second := by
  obtain ⟨srcId, flow, found, member⟩ := firstKnown
  obtain ⟨srcId2, flow2, found2, member2⟩ := secondKnown
  have sameId := distinct.address found member found2 member2 same
  subst sameId
  rw [found] at found2
  cases found2
  rw [Flow.mem_streams] at member member2
  rcases member with rfl | ⟨-, rfl⟩
  · rcases member2 with rfl | ⟨-, rfl⟩
    · rfl
    · exact absurd same.symm (SockAddr.next_ne _)
  · rcases member2 with rfl | ⟨-, rfl⟩
    · exact absurd same (SockAddr.next_ne _)
    · rfl

end Reflector

end StrManager
