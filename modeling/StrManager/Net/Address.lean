import Mathlib.Data.BitVec
import Mathlib.Tactic.Ring

namespace StrManager

/-! Socket addresses, as far as the worker tables compare them. -/

abbrev InAddr := BitVec 32

/-- The fields of a `sockaddr_in` that `sock_addr_cmp` compares. The port is
kept in host order. -/
structure SockAddr where
  sinAddr : InAddr
  sinPort : BitVec 16
  deriving DecidableEq, Repr

/-- `htons` of an `int`: the argument is cut to sixteen bits. -/
def htons (port : Int) : BitVec 16 := BitVec.ofInt 16 port

def ntohs (port : BitVec 16) : Int := port.toNat

theorem ntohs_htons (port : Int) : ntohs (htons port) = port % 65536 := by
  simp only [ntohs, htons, BitVec.toNat_ofInt]
  norm_num
  omega

theorem ntohs_htons_of_range {port : Int} (nonnegative : 0 ≤ port)
    (bounded : port ≤ 65535) : ntohs (htons port) = port := by
  rw [ntohs_htons]
  omega

theorem htons_ne_zero {port : Int} (positive : 1 ≤ port)
    (bounded : port ≤ 65535) : htons port ≠ 0 := by
  intro zero
  have same := ntohs_htons_of_range (by omega) bounded
  rw [zero] at same
  change (0 : Int) = port at same
  omega

@[simp] theorem htons_ntohs (port : BitVec 16) : htons (ntohs port) = port := by
  apply BitVec.eq_of_toNat_eq
  have bound := port.isLt
  simp only [ntohs, htons, BitVec.toNat_ofInt]
  omega

theorem htons_add_one (port : Int) : htons (port + 1) = htons port + 1 := by
  simp [htons, BitVec.ofInt_add]

namespace SockAddr

def ofPort (ip : InAddr) (port : Int) : SockAddr := ⟨ip, htons port⟩

def next (address : SockAddr) : SockAddr :=
  ⟨address.sinAddr, address.sinPort + 1⟩

theorem ofPort_add_one (ip : InAddr) (port : Int) :
    ofPort ip (port + 1) = (ofPort ip port).next := by
  simp [ofPort, next, htons_add_one]

theorem next_ne (address : SockAddr) : address.next ≠ address := by
  intro equal
  have ports : address.sinPort + 1 = address.sinPort :=
    congrArg SockAddr.sinPort equal
  simp at ports

theorem next_injective {first second : SockAddr}
    (equal : first.next = second.next) : first = second := by
  cases first
  cases second
  simpa [next] using equal

end SockAddr

structure UdpStream where
  id : Int
  addr : SockAddr
  deriving DecidableEq, Repr

namespace UdpStream

def create (id : Int) (ip : InAddr) (port : Int) : UdpStream :=
  ⟨id, SockAddr.ofPort ip port⟩

def next (stream : UdpStream) : UdpStream :=
  ⟨stream.id + 1, stream.addr.next⟩

theorem next_injective {first second : UdpStream}
    (equal : first.next = second.next) : first = second := by
  cases first with
  | mk id addr =>
      cases second with
      | mk id2 addr2 =>
          simp only [next, mk.injEq, add_left_inj] at equal ⊢
          exact ⟨equal.1, SockAddr.next_injective equal.2⟩

theorem create_add_one (id : Int) (ip : InAddr) (port : Int) :
    create (id + 1) ip (port + 1) = (create id ip port).next := by
  simp [create, next, SockAddr.ofPort_add_one]

end UdpStream

end StrManager
