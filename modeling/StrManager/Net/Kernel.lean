import StrManager.Library.Table
import StrManager.Net.Address

namespace StrManager

open Library

/-! The operating system as the workers see it: open descriptors, the clock
and the answers of `socket`, `bind` and `recvfrom`. -/

structure Kernel where
  /-- Counts the `socket` calls, so that an answer may differ from call to
  call. -/
  calls : Nat
  clock : Int
  /-- The open datagram descriptors and the port each is bound to. -/
  sockets : Table Int (Option (BitVec 16))
  /-- The arguments of the `close` calls, the latest first. -/
  closed : List Int

/-- The answers of an operating system. A new descriptor is never one that is
still open. -/
structure Os where
  socket : Kernel → Option Int
  bind : Kernel → Int → BitVec 16 → Bool
  socket_fresh : ∀ {kernel fd}, socket kernel = some fd →
    0 ≤ fd ∧ kernel.sockets.lookup fd = none

namespace Kernel

def Bound (kernel : Kernel) (port : BitVec 16) : Prop :=
  ∃ fd, kernel.sockets.lookup fd = some (some port)

def close (kernel : Kernel) (fd : Int) : Kernel :=
  { kernel with
    sockets := kernel.sockets.erase fd
    closed := fd :: kernel.closed }

def opened (kernel : Kernel) (fd : Int) : Kernel :=
  { kernel with
    calls := kernel.calls + 1
    sockets := kernel.sockets.insert fd none }

def bound (kernel : Kernel) (fd : Int) (port : BitVec 16) : Kernel :=
  { kernel with sockets := kernel.sockets.insert fd (some port) }

def denied (kernel : Kernel) : Kernel :=
  { kernel with calls := kernel.calls + 1 }

def granted (kernel : Kernel) (port fd : Int) : Kernel :=
  (kernel.opened fd).bound fd (htons port)

def IsOpen (kernel : Kernel) (fd : Int) : Prop :=
  (kernel.sockets.lookup fd).isSome = true

instance (kernel : Kernel) (fd : Int) : Decidable (kernel.IsOpen fd) :=
  inferInstanceAs (Decidable (_ = true))

theorem isOpen_opened (kernel : Kernel) (fd other : Int) :
    (kernel.opened fd).IsOpen other ↔ other = fd ∨ kernel.IsOpen other := by
  by_cases here : other = fd
  · simp [IsOpen, opened, Table.lookup_insert, here]
  · simp [IsOpen, opened, Table.lookup_insert, here]

theorem isOpen_granted (kernel : Kernel) (port fd other : Int) :
    (kernel.granted port fd).IsOpen other ↔
      other = fd ∨ kernel.IsOpen other := by
  by_cases here : other = fd
  · simp [IsOpen, granted, bound, opened, Table.lookup_insert, here]
  · simp [IsOpen, granted, bound, opened, Table.lookup_insert, here]

theorem isOpen_close (kernel : Kernel) (fd other : Int) :
    (kernel.close fd).IsOpen other ↔ other ≠ fd ∧ kernel.IsOpen other := by
  by_cases here : other = fd
  · simp [IsOpen, close, Table.lookup_erase, here]
  · simp [IsOpen, close, Table.lookup_erase, here]

end Kernel

def Os.Grants (os : Os) (kernel : Kernel) (port fd : Int) : Prop :=
  os.socket kernel = some fd ∧
    os.bind (kernel.opened fd) fd (htons port) = true

theorem Os.Grants.fresh {os : Os} {kernel : Kernel} {port fd : Int}
    (grants : os.Grants kernel port fd) : ¬ kernel.IsOpen fd := by
  simp [Kernel.IsOpen, (os.socket_fresh grants.1).2]

instance (os : Os) (kernel : Kernel) (port : Int) (P : Int → Prop)
    [DecidablePred P] : Decidable (∃ fd, os.Grants kernel port fd ∧ P fd) :=
  match answered : os.socket kernel with
  | none => isFalse (by simp [Os.Grants, answered])
  | some fd => decidable_of_iff
      (os.bind (kernel.opened fd) fd (htons port) = true ∧ P fd)
      (by simp [Os.Grants, answered])

instance (os : Os) (kernel : Kernel) (port : Int) :
    Decidable (∃ fd, os.Grants kernel port fd) :=
  decidable_of_iff (∃ fd, os.Grants kernel port fd ∧ True) (by simp)

/-- `Worker::init_socket`. A descriptor that cannot be bound stays open. -/
def initSocket (os : Os) (kernel : Kernel) (port : Int) : Int × Kernel :=
  match os.socket kernel with
  | none => (-1, { kernel with calls := kernel.calls + 1 })
  | some fd =>
      let kernel := kernel.opened fd
      if os.bind kernel fd (htons port) then
        (fd, kernel.bound fd (htons port))
      else
        (-1, kernel)

theorem initSocket_denied {os : Os} {kernel : Kernel}
    (answered : os.socket kernel = none) (port : Int) :
    initSocket os kernel port = (-1, kernel.denied) := by
  simp only [initSocket, answered]
  rfl

theorem initSocket_granted {os : Os} {kernel : Kernel} {port fd : Int}
    (grants : os.Grants kernel port fd) :
    initSocket os kernel port = (fd, kernel.granted port fd) := by
  simp only [initSocket, grants.1, grants.2, if_true]
  rfl

theorem initSocket_unbound {os : Os} {kernel : Kernel} {port fd : Int}
    (answered : os.socket kernel = some fd)
    (refused : ¬ ∃ fd, os.Grants kernel port fd) :
    initSocket os kernel port = (-1, kernel.opened fd) := by
  have unbound : os.bind (kernel.opened fd) fd (htons port) = false := by
    rw [Bool.eq_false_iff]
    intro bindable
    exact refused ⟨fd, answered, bindable⟩
  simp [initSocket, answered, unbound]

theorem initSocket_cases (os : Os) (kernel : Kernel) (port : Int) :
    ((initSocket os kernel port).1 = -1 ∧
      ∀ fd bound, kernel.sockets.lookup fd = some bound →
        (initSocket os kernel port).2.sockets.lookup fd = some bound) ∨
    ∃ fd, (initSocket os kernel port).1 = fd ∧ 0 ≤ fd ∧
      kernel.sockets.lookup fd = none ∧
      ∀ other, (initSocket os kernel port).2.sockets.lookup other =
        if other = fd then some (some (htons port))
        else kernel.sockets.lookup other := by
  unfold initSocket
  cases answered : os.socket kernel with
  | none => exact .inl ⟨rfl, fun fd bound found => found⟩
  | some fd =>
      obtain ⟨valid, fresh⟩ := os.socket_fresh answered
      by_cases bindable : os.bind (kernel.opened fd) fd (htons port) = true
      · simp only [bindable, if_true]
        refine .inr ⟨fd, rfl, valid, fresh, ?_⟩
        intro other
        by_cases here : other = fd
        · simp [Kernel.bound, Table.lookup_insert, here]
        · simp [Kernel.bound, Kernel.opened, Table.lookup_insert, here]
      · simp only [bindable]
        refine .inl ⟨rfl, ?_⟩
        intro other bound found
        have here : other ≠ fd := by
          rintro rfl
          rw [fresh] at found
          cases found
        simp [Kernel.opened, Table.lookup_insert, here, found]

theorem initSocket_frame {os : Os} {kernel : Kernel} {fd : Int}
    {bound : Option (BitVec 16)} (port : Int)
    (found : kernel.sockets.lookup fd = some bound) :
    (initSocket os kernel port).2.sockets.lookup fd = some bound := by
  rcases initSocket_cases os kernel port with
    ⟨-, kept⟩ | ⟨opened, -, -, fresh, lookups⟩
  · exact kept fd bound found
  · have here : fd ≠ opened := by
      rintro rfl
      rw [fresh] at found
      cases found
    rw [lookups, if_neg here, found]

@[simp] theorem initSocket_closed (os : Os) (kernel : Kernel) (port : Int) :
    (initSocket os kernel port).2.closed = kernel.closed := by
  unfold initSocket
  cases os.socket kernel with
  | none => rfl
  | some fd =>
      dsimp only
      split <;> rfl

/-! An operating system that grants every socket and binds a port exactly when
no open descriptor is bound to it. Port 0 stands for any free port, so nothing
is said about it. -/

structure Os.Exclusive (os : Os) : Prop where
  grants : ∀ kernel, ∃ fd, os.socket kernel = some fd
  binds : ∀ kernel fd port, port ≠ 0 →
    (os.bind kernel fd port = true ↔ ¬ kernel.Bound port)

theorem Kernel.bound_opened_iff {kernel : Kernel} {fd : Int}
    (fresh : kernel.sockets.lookup fd = none) (port : BitVec 16) :
    (kernel.opened fd).Bound port ↔ kernel.Bound port := by
  unfold Kernel.Bound
  constructor
  · rintro ⟨other, found⟩
    by_cases here : other = fd
    · simp [Kernel.opened, Table.lookup_insert, here] at found
    · exact ⟨other, by
        simpa [Kernel.opened, Table.lookup_insert, here] using found⟩
  · rintro ⟨other, found⟩
    have here : other ≠ fd := by
      rintro rfl
      rw [fresh] at found
      cases found
    exact ⟨other, by simpa [Kernel.opened, Table.lookup_insert, here] using found⟩

theorem Os.Exclusive.initSocket_fails_iff {os : Os} (exclusive : os.Exclusive)
    (kernel : Kernel) {port : Int} (nonzero : htons port ≠ 0) :
    (initSocket os kernel port).1 = -1 ↔ kernel.Bound (htons port) := by
  obtain ⟨fd, answered⟩ := exclusive.grants kernel
  obtain ⟨valid, fresh⟩ := os.socket_fresh answered
  have bindable := exclusive.binds (kernel.opened fd) fd (htons port) nonzero
  rw [Kernel.bound_opened_iff fresh] at bindable
  unfold initSocket
  rw [answered]
  by_cases bound : kernel.Bound (htons port)
  · simp [bindable, bound]
  · have notFailed : fd ≠ -1 := by omega
    simp [bindable, bound, notFailed]

theorem Kernel.Bound.initSocket {os : Os} {kernel : Kernel} {bound : BitVec 16}
    (port : Int) (isBound : kernel.Bound bound) :
    (initSocket os kernel port).2.Bound bound := by
  obtain ⟨fd, found⟩ := isBound
  exact ⟨fd, initSocket_frame port found⟩

theorem bound_of_initSocket {os : Os} {kernel : Kernel} {port : Int}
    (succeeded : (initSocket os kernel port).1 ≠ -1) :
    (initSocket os kernel port).2.Bound (htons port) := by
  rcases initSocket_cases os kernel port with
    ⟨failed, -⟩ | ⟨fd, -, -, -, lookups⟩
  · exact absurd failed succeeded
  · exact ⟨fd, by rw [lookups, if_pos rfl]⟩

def Kernel.nextFd (kernel : Kernel) : Int :=
  (kernel.sockets.entries.map Sigma.fst).foldr max 2 + 1

theorem Kernel.lt_nextFd {kernel : Kernel} {fd : Int}
    {bound : Option (BitVec 16)}
    (found : kernel.sockets.lookup fd = some bound) : fd < kernel.nextFd := by
  have member : fd ∈ kernel.sockets.entries.map Sigma.fst :=
    List.mem_map.mpr
      ⟨⟨fd, bound⟩, (Table.mem_entries_iff _ _ _).mpr found, rfl⟩
  unfold nextFd
  generalize kernel.sockets.entries.map Sigma.fst = fds at member ⊢
  induction fds with
  | nil => cases member
  | cons first rest ih =>
      rw [List.foldr_cons]
      rcases List.mem_cons.mp member with rfl | later
      · omega
      · have below := ih later
        omega

theorem Kernel.two_lt_nextFd (kernel : Kernel) : 2 < kernel.nextFd := by
  unfold nextFd
  generalize kernel.sockets.entries.map Sigma.fst = fds
  induction fds with
  | nil => simp
  | cons fd rest ih =>
      rw [List.foldr_cons]
      omega

instance (kernel : Kernel) (port : BitVec 16) :
    Decidable (kernel.Bound port) :=
  decidable_of_iff
    (∃ entry ∈ kernel.sockets.entries, entry.2 = some port) <| by
      constructor
      · rintro ⟨⟨fd, bound⟩, member, rfl⟩
        exact ⟨fd, (Table.mem_entries_iff _ _ _).mp member⟩
      · rintro ⟨fd, found⟩
        exact ⟨⟨fd, some port⟩, (Table.mem_entries_iff _ _ _).mpr found, rfl⟩

/-- An exclusive operating system that hands out descriptors in order. -/
def Os.orderly : Os where
  socket kernel := some kernel.nextFd
  bind kernel _ port := !decide (kernel.Bound port)
  socket_fresh := by
    intro kernel fd answered
    cases answered
    refine ⟨by have := kernel.two_lt_nextFd; omega, ?_⟩
    cases found : kernel.sockets.lookup kernel.nextFd with
    | none => rfl
    | some bound => exact absurd (Kernel.lt_nextFd found) (lt_irrefl _)

theorem Os.orderly_exclusive : Os.orderly.Exclusive where
  grants kernel := ⟨kernel.nextFd, rfl⟩
  binds kernel fd port _ := by simp [Os.orderly]

def Kernel.fresh : Kernel where
  calls := 0
  clock := 0
  sockets := ∅
  closed := []

/-! Datagrams. -/

/-- The outcome of one `recvfrom`. A failed call leaves the sender address and
the buffer as they were. -/
inductive Received where
  | failed (sender : SockAddr) (buffer : List UInt8)
  | datagram (sender : SockAddr) (bytes : List UInt8)

namespace Received

def recvfrom : Received → Int × SockAddr × List UInt8
  | .failed sender buffer => (-1, sender, buffer)
  | .datagram sender bytes =>
      let buffer := bytes.take 2048
      (buffer.length, sender, buffer)

/-- `rlen`, the returned length stored in a `socklen_t`. -/
def rlen (received : Received) : BitVec 32 :=
  BitVec.ofInt 32 received.recvfrom.1

@[simp] theorem rlen_datagram (sender : SockAddr) (bytes : List UInt8) :
    (datagram sender bytes).rlen.toNat = (bytes.take 2048).length := by
  have bound : (bytes.take 2048).length ≤ 2048 := List.length_take_le 2048 bytes
  simp only [rlen, recvfrom, BitVec.toNat_ofInt]
  omega

end Received

structure Transmission where
  fd : Int
  buffer : List UInt8
  length : Nat
  destination : SockAddr
  deriving DecidableEq, Repr

end StrManager
