import StrManager.Library.Table
import StrManager.Net.Address

namespace StrManager

open Library Function

/-! The purpose of a worker in its own terms: a registry of sources, each with
an address and the destinations its packets go to, in order. -/

structure Registration where
  addr : SockAddr
  destinations : List UdpStream
  deriving DecidableEq, Repr

namespace Registration

def addDestination (registration : Registration) (stream : UdpStream) :
    Registration :=
  if stream.id ∈ registration.destinations.map UdpStream.id then registration
  else { registration with
    destinations := registration.destinations ++ [stream] }

def removeDestination (registration : Registration) (destId : Int) :
    Registration :=
  { registration with
    destinations :=
      registration.destinations.filter fun stream => stream.id != destId }

/-- The same stream one port higher, with identifiers one higher. -/
def next (registration : Registration) : Registration where
  addr := registration.addr.next
  destinations := registration.destinations.map UdpStream.next

def port (registration : Registration) : Int := ntohs registration.addr.sinPort

@[simp] theorem addDestination_addr (registration : Registration)
    (stream : UdpStream) :
    (registration.addDestination stream).addr = registration.addr := by
  unfold addDestination
  split <;> rfl

@[simp] theorem removeDestination_addr (registration : Registration)
    (destId : Int) :
    (registration.removeDestination destId).addr = registration.addr := rfl

end Registration

abbrev Registry := Table Int Registration

namespace Registry

def addSource (registry : Registry) (srcId : Int) (addr : SockAddr) :
    Registry :=
  registry.insert srcId ⟨addr, []⟩

def removeSource (registry : Registry) (srcId : Int) : Registry :=
  registry.erase srcId

def change (registry : Registry) (srcId : Int)
    (edit : Registration → Registration) : Registry :=
  match registry.lookup srcId with
  | none => registry
  | some registration => registry.insert srcId (edit registration)

def onPort (registry : Registry) (port : Int) : Nat :=
  registry.tally fun registration => registration.port == port

theorem lookup_addSource (registry : Registry) (srcId other : Int)
    (addr : SockAddr) :
    (registry.addSource srcId addr).lookup other =
      if other = srcId then some ⟨addr, []⟩ else registry.lookup other :=
  Table.lookup_insert registry srcId other _

theorem lookup_removeSource (registry : Registry) (srcId other : Int) :
    (registry.removeSource srcId).lookup other =
      if other = srcId then none else registry.lookup other :=
  Table.lookup_erase registry srcId other

theorem change_of_lookup {registry : Registry} {srcId : Int}
    {registration : Registration} (edit : Registration → Registration)
    (found : registry.lookup srcId = some registration) :
    registry.change srcId edit = registry.insert srcId (edit registration) := by
  simp [change, found]

theorem lookup_change (registry : Registry) (srcId other : Int)
    (edit : Registration → Registration) :
    (registry.change srcId edit).lookup other =
      if other = srcId then (registry.lookup srcId).map edit
      else registry.lookup other := by
  unfold change
  cases found : registry.lookup srcId with
  | none =>
      rcases eq_or_ne other srcId with rfl | different
      · simp [found]
      · simp [different]
  | some registration => simp [Table.lookup_insert]

theorem onPort_addSource {registry : Registry} {srcId : Int} (addr : SockAddr)
    (fresh : registry.lookup srcId = none) (port : Int) :
    (registry.addSource srcId addr).onPort port =
      registry.onPort port + (if ntohs addr.sinPort = port then 1 else 0) := by
  unfold onPort addSource
  rw [Table.tally_insert _ _ fresh]
  simp [Registration.port]

theorem onPort_removeSource {registry : Registry} {srcId : Int}
    {registration : Registration}
    (found : registry.lookup srcId = some registration) (port : Int) :
    (registry.removeSource srcId).onPort port +
        (if registration.port = port then 1 else 0) =
      registry.onPort port := by
  have erased := Table.tally_erase
    (fun registration : Registration => registration.port == port) found
  simpa [onPort, removeSource] using erased

theorem onPort_added {registry : Registry} {srcId port : Int}
    (fresh : registry.lookup srcId = none) (ip : InAddr) (low : 0 ≤ port)
    (high : port ≤ 65535) :
    (registry.addSource srcId (SockAddr.ofPort ip port)).onPort =
      update registry.onPort port (registry.onPort port + 1) := by
  have hosted : ntohs (SockAddr.ofPort ip port).sinPort = port :=
    ntohs_htons_of_range low high
  funext other
  rw [onPort_addSource _ fresh, hosted]
  rcases eq_or_ne other port with rfl | different
  · rw [update_self, if_pos rfl]
  · rw [update_of_ne different, if_neg different.symm, add_zero]

theorem onPort_removed {registry : Registry} {srcId : Int}
    {registration : Registration}
    (known : registry.lookup srcId = some registration) :
    (registry.removeSource srcId).onPort =
      update registry.onPort registration.port
        (registry.onPort registration.port - 1) := by
  funext other
  have removal := onPort_removeSource known other
  rcases eq_or_ne other registration.port with rfl | different
  · rw [if_pos rfl] at removal
    rw [update_self]
    omega
  · rw [if_neg different.symm] at removal
    rw [update_of_ne different]
    omega

theorem onPort_change (registry : Registry) (srcId : Int)
    {edit : Registration → Registration}
    (keeps : ∀ registration, (edit registration).addr = registration.addr) :
    (registry.change srcId edit).onPort = registry.onPort := by
  funext port
  unfold change
  cases found : registry.lookup srcId with
  | none => rfl
  | some registration =>
      exact Table.tally_replace _ found (by
        simp [Registration.port, keeps])

theorem onPort_pos_iff (registry : Registry) (port : Int) :
    0 < registry.onPort port ↔
      ∃ srcId registration, registry.lookup srcId = some registration ∧
        registration.port = port := by
  unfold onPort
  rw [Table.tally_pos_iff]
  simp

theorem onPort_of_lookup {registry : Registry} {srcId : Int}
    {registration : Registration}
    (found : registry.lookup srcId = some registration) :
    0 < registry.onPort registration.port :=
  (registry.onPort_pos_iff _).mpr ⟨srcId, registration, found, rfl⟩

end Registry

end StrManager
