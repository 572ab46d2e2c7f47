import StrManager.Rtcp.Lists
import StrManager.Rtcp.Sockets

namespace StrManager

open Library Function

/-! The `select` cycle of a worker: the set it builds, and the sockets it
serves. -/

def fdSetSize : Nat := 1024

abbrev FdSet := Finset (Fin fdSetSize)

namespace FdSet

def Inside (fd : Int) : Prop := 0 ≤ fd ∧ fd < fdSetSize

instance (fd : Int) : Decidable (Inside fd) :=
  inferInstanceAs (Decidable (_ ∧ _))

def place (fd : Int) : Option (Fin fdSetSize) :=
  if inside : Inside fd then
    some ⟨fd.toNat, (Int.toNat_lt inside.1).mpr inside.2⟩
  else none

/-- `FD_SET`, which writes out of bounds for other descriptors. -/
def set (fds : FdSet) (fd : Int) : Option FdSet :=
  (place fd).map fun index => insert index fds

/-- `FD_ISSET`, which reads out of bounds for other descriptors. -/
def isSet (fds : FdSet) (fd : Int) : Option Bool :=
  (place fd).map fun index => index ∈ fds

def Has (fds : FdSet) (fd : Int) : Prop := fds.isSet fd = some true

instance (fds : FdSet) (fd : Int) : Decidable (fds.Has fd) :=
  inferInstanceAs (Decidable (_ = _))

theorem place_of_inside {fd : Int} (inside : Inside fd) :
    ∃ index, place fd = some index :=
  ⟨_, dif_pos inside⟩

theorem inside_of_place {fd : Int} {index : Fin fdSetSize}
    (placed : place fd = some index) : Inside fd := by
  unfold place at placed
  split at placed
  · rename_i inside
    exact inside
  · cases placed

theorem place_injective {fd other : Int} {index : Fin fdSetSize}
    (placed : place fd = some index) (placed2 : place other = some index) :
    fd = other := by
  have inside := inside_of_place placed
  have inside2 := inside_of_place placed2
  unfold place at placed placed2
  rw [dif_pos inside] at placed
  rw [dif_pos inside2, ← placed, Option.some.injEq, Fin.mk.injEq] at placed2
  unfold Inside at inside inside2
  omega

theorem set_has (fds : FdSet) {fd : Int} (inside : Inside fd) :
    ∃ after, fds.set fd = some after ∧
      ∀ other, after.Has other ↔ other = fd ∨ fds.Has other := by
  obtain ⟨index, placed⟩ := place_of_inside inside
  refine ⟨insert index fds, by rw [set, placed]; rfl, ?_⟩
  intro other
  unfold Has isSet
  cases placed2 : place other with
  | none =>
      have differs : other ≠ fd := by
        rintro rfl
        rw [placed] at placed2
        cases placed2
      simp [differs]
  | some index2 =>
      have same : index2 = index ↔ other = fd := by
        constructor
        · rintro rfl
          exact place_injective placed2 placed
        · rintro rfl
          exact Option.some.inj (placed2.symm.trans placed)
      simp [same]

theorem isSet_eq (fds : FdSet) {fd : Int} (inside : Inside fd) :
    fds.isSet fd = some (decide (fds.Has fd)) := by
  obtain ⟨index, placed⟩ := place_of_inside inside
  simp [Has, isSet, placed]

end FdSet

structure Selection where
  fdset : FdSet
  highsock : Int
  deriving DecidableEq

namespace Selection

/-- The loop of `build_select_list`. -/
def setAll : List Int → Selection → Option Selection
  | [], selection => some selection
  | fd :: rest, selection => do
      let fdset ← selection.fdset.set fd
      setAll rest
        ⟨fdset, if fd > selection.highsock then fd else selection.highsock⟩

theorem setAll_spec {fds : List Int} (inside : ∀ fd ∈ fds, FdSet.Inside fd)
    (selection : Selection) :
    ∃ built, setAll fds selection = some built ∧
      (∀ fd, built.fdset.Has fd ↔ fd ∈ fds ∨ selection.fdset.Has fd) ∧
      selection.highsock ≤ built.highsock ∧ ∀ fd ∈ fds, fd ≤ built.highsock := by
  induction fds generalizing selection with
  | nil => exact ⟨selection, rfl, by simp, le_rfl, by simp⟩
  | cons fd rest ih =>
      obtain ⟨fdset, added, members⟩ :=
        FdSet.set_has selection.fdset (inside fd List.mem_cons_self)
      obtain ⟨built, builds, members2, grows, above⟩ :=
        ih (fun other member => inside other (List.mem_cons_of_mem fd member))
          ⟨fdset, if fd > selection.highsock then fd else selection.highsock⟩
      refine ⟨built, ?_, ?_, ?_, ?_⟩
      · rw [setAll, added]
        exact builds
      · intro other
        rw [members2, members, List.mem_cons]
        tauto
      · dsimp only at grows
        split at grows <;> omega
      · intro other member
        rcases List.mem_cons.mp member with rfl | later
        · dsimp only at grows
          split at grows <;> omega
        · exact above other later

theorem setAll_inside {fds : List Int} {selection built : Selection}
    (builds : setAll fds selection = some built) :
    ∀ fd ∈ fds, FdSet.Inside fd := by
  induction fds generalizing selection with
  | nil => simp
  | cons first rest ih =>
      cases added : selection.fdset.set first with
      | none => simp [setAll, added] at builds
      | some fdset =>
          rw [setAll, added] at builds
          obtain ⟨index, placed, -⟩ := Option.map_eq_some_iff.mp added
          intro fd member
          rcases List.mem_cons.mp member with rfl | later
          · exact FdSet.inside_of_place placed
          · exact ih builds fd later

end Selection

namespace Worker

/-- The descriptors in the order an iterator over `portFd` visits them. -/
def fds (worker : Worker) : List Int :=
  worker.ports.portFd.entries.map Sigma.snd

theorem mem_fds_iff (worker : Worker) (fd : Int) :
    fd ∈ worker.fds ↔ ∃ port, worker.ports.portFd.lookup port = some fd := by
  unfold fds
  rw [List.mem_map]
  constructor
  · rintro ⟨entry, member, rfl⟩
    exact ⟨entry.1, (Table.mem_entries_iff _ _ _).mp member⟩
  · rintro ⟨port, found⟩
    exact ⟨⟨port, fd⟩, (Table.mem_entries_iff _ _ _).mpr found, rfl⟩

/-- `Worker::build_select_list`; the highest descriptor is counted up once
more after the loop. -/
def buildSelectList (worker : Worker) : Option Selection := do
  let built ← Selection.setAll worker.fds ⟨∅, -1⟩
  return { built with highsock := built.highsock + 1 }

end Worker

/-- A call of `process`: its descriptor and what it sent. -/
abbrev ProcessCall := Int × List Transmission

namespace Runtime

/-- The loop of `check_select_list`. The outcomes of `recvfrom` are numbered. -/
def serveEach (ready : FdSet) (receive : Nat → Received) :
    List Int → Runtime → List ProcessCall →
      Option (Runtime × List ProcessCall)
  | [], runtime, calls => some (runtime, calls)
  | fd :: rest, runtime, calls => do
      let isReady ← ready.isSet fd
      if isReady then
        let (next, sent) := runtime.process fd (receive calls.length)
        serveEach ready receive rest next (calls ++ [(fd, sent)])
      else
        serveEach ready receive rest runtime calls

/-- `Worker::check_select_list`. -/
def checkSelectList (runtime : Runtime) (ready : FdSet)
    (receive : Nat → Received) : Option (Runtime × List ProcessCall) :=
  serveEach ready receive runtime.worker.fds runtime []

/-- One turn of the loop in `Worker::run`, with the `process` calls it makes
and the messages it queues. -/
def turn (select : Int → FdSet → FdSet) (receive : Nat → Received)
    (runtime : Runtime) :
    Option (Runtime × List ProcessCall × List Message) :=
  if 0 < runtime.worker.ports.portFd.size then do
    let built ← runtime.worker.buildSelectList
    let ready := select (built.highsock + 1) built.fdset
    if 0 < ready.card then
      let (next, calls) ← runtime.checkSelectList ready receive
      return (next, calls, [])
    else
      return (runtime, [], [⟨0, runtime.worker.workerId, "NOTHING TO DO"⟩])
  else
    return (runtime, [], [])

theorem serveEach_calls {fds : List Int}
    (inside : ∀ fd ∈ fds, FdSet.Inside fd) (ready : FdSet)
    (receive : Nat → Received) (runtime : Runtime) (calls : List ProcessCall) :
    ∃ next served,
      serveEach ready receive fds runtime calls = some (next, calls ++ served) ∧
      served.map Prod.fst = fds.filter fun fd => ready.Has fd := by
  induction fds generalizing runtime calls with
  | nil => exact ⟨runtime, [], by simp [serveEach], rfl⟩
  | cons fd rest ih =>
      have later := fun other member =>
        inside other (List.mem_cons_of_mem fd member)
      have tested := FdSet.isSet_eq ready (inside fd List.mem_cons_self)
      by_cases isReady : ready.Has fd
      · obtain ⟨next, served, result, order⟩ := ih later
          (runtime.process fd (receive calls.length)).1
          (calls ++ [(fd, (runtime.process fd (receive calls.length)).2)])
        refine ⟨next, (fd, (runtime.process fd (receive calls.length)).2) ::
          served, ?_, ?_⟩
        · rw [serveEach, tested, decide_eq_true isReady]
          refine result.trans ?_
          rw [List.append_assoc]
          rfl
        · rw [List.map_cons, order, List.filter_cons_of_pos (by simpa)]
      · obtain ⟨next, served, result, order⟩ := ih later runtime calls
        refine ⟨next, served, ?_, ?_⟩
        · rw [serveEach, tested, decide_eq_false isReady]
          exact result
        · rw [order, List.filter_cons_of_neg (by simpa)]

end Runtime

/-! The states in which the cycle works. -/

namespace Runtime

/-- The set holds exactly the descriptors of `portFd`, and a turn calls
`process` once for each descriptor that `select` finds ready, and for no
other. -/
structure ServesAll (runtime : Runtime) (built : Selection) : Prop where
  inside : ∀ port fd, runtime.worker.ports.portFd.lookup port = some fd →
    fd < fdSetSize
  builds : runtime.worker.buildSelectList = some built
  members : ∀ fd, built.fdset.Has fd ↔
    ∃ port, runtime.worker.ports.portFd.lookup port = some fd
  exceeds : ∀ port fd, runtime.worker.ports.portFd.lookup port = some fd →
    fd < built.highsock + 1
  serves : ∀ select receive,
    select (built.highsock + 1) built.fdset ⊆ built.fdset →
    ∃ next calls messages,
      runtime.turn select receive = some (next, calls, messages) ∧
      (calls.map Prod.fst).Nodup ∧
      ∀ fd, fd ∈ calls.map Prod.fst ↔
        (select (built.highsock + 1) built.fdset).Has fd

end Runtime

/-- All descriptors have a place in an `fd_set`, and no two ports share one. -/
structure Selectable (portFd : Table Int Int) : Prop where
  inside : ∀ port fd, portFd.lookup port = some fd → FdSet.Inside fd
  once : ∀ port other fd, portFd.lookup port = some fd →
    portFd.lookup other = some fd → port = other

theorem Worker.fds_nodup {worker : Worker}
    (once : ∀ port other fd, worker.ports.portFd.lookup port = some fd →
      worker.ports.portFd.lookup other = some fd → port = other) :
    worker.fds.Nodup := by
  refine List.Nodup.map_on ?_ (AList.nodupKeys worker.ports.portFd).nodup
  rintro ⟨port, fd⟩ member ⟨other, fd2⟩ member2 equal
  dsimp only at equal
  subst equal
  have same := once port other fd
    ((Table.mem_entries_iff _ _ _).mp member)
    ((Table.mem_entries_iff _ _ _).mp member2)
  rw [same]

@[simp] theorem FdSet.not_has_empty (fd : Int) : ¬ (∅ : FdSet).Has fd := by
  simp [FdSet.Has, FdSet.isSet]

theorem FdSet.Has.mono {fds ready : FdSet} {fd : Int} (has : ready.Has fd)
    (subset : ready ⊆ fds) : fds.Has fd := by
  obtain ⟨index, placed, member⟩ := Option.map_eq_some_iff.mp has
  simp only [decide_eq_true_eq] at member
  simp [FdSet.Has, FdSet.isSet, placed, subset member]

namespace Runtime

variable {runtime : Runtime}

theorem turn_calls (inside : ∀ fd ∈ runtime.worker.fds, FdSet.Inside fd)
    {built : Selection} (builds : runtime.worker.buildSelectList = some built)
    (select : Int → FdSet → FdSet) (receive : Nat → Received) :
    ∃ next calls messages,
      runtime.turn select receive = some (next, calls, messages) ∧
      calls.map Prod.fst = runtime.worker.fds.filter fun fd =>
        (select (built.highsock + 1) built.fdset).Has fd := by
  unfold turn
  simp only [builds, bind, Option.bind]
  generalize select (built.highsock + 1) built.fdset = ready
  split
  · split
    · obtain ⟨next, served, result, order⟩ :=
        serveEach_calls inside ready receive runtime []
      refine ⟨next, served, [], ?_, order⟩
      rw [checkSelectList, result]
      rfl
    · rename_i none
      rw [Finset.card_pos, Finset.not_nonempty_iff_eq_empty] at none
      refine ⟨runtime, [], _, rfl, ?_⟩
      simp [none]
  · rename_i unpolled
    refine ⟨runtime, [], [], rfl, Eq.symm (List.filter_eq_nil_iff.mpr ?_)⟩
    intro fd member
    exact absurd (List.length_pos_of_mem (List.mem_map.mp member).choose_spec.1)
      unpolled

theorem serves_of_selectable
    (selectable : Selectable runtime.worker.ports.portFd) :
    ∃ built, runtime.ServesAll built := by
  have inside : ∀ fd ∈ runtime.worker.fds, FdSet.Inside fd := by
    intro fd member
    obtain ⟨port, found⟩ := (runtime.worker.mem_fds_iff fd).mp member
    exact selectable.inside port fd found
  obtain ⟨last, collected, members, -, above⟩ :=
    Selection.setAll_spec inside ⟨∅, -1⟩
  let built : Selection := { last with highsock := last.highsock + 1 }
  have builds : runtime.worker.buildSelectList = some built := by
    rw [Worker.buildSelectList, collected]
    rfl
  have has (fd : Int) : built.fdset.Has fd ↔ fd ∈ runtime.worker.fds :=
    (members fd).trans (or_iff_left (FdSet.not_has_empty fd))
  refine ⟨built, ?_, builds, ?_, ?_, ?_⟩
  · intro port fd found
    exact (selectable.inside port fd found).2
  · intro fd
    exact (has fd).trans (runtime.worker.mem_fds_iff fd)
  · intro port fd found
    have below := above fd ((runtime.worker.mem_fds_iff fd).mpr ⟨port, found⟩)
    change fd < last.highsock + 1 + 1
    omega
  · intro select receive subset
    obtain ⟨next, calls, messages, turned, order⟩ :=
      turn_calls inside builds select receive
    refine ⟨next, calls, messages, turned, ?_, ?_⟩
    · rw [order]
      exact (Worker.fds_nodup selectable.once).filter _
    · intro fd
      rw [order, List.mem_filter, decide_eq_true_eq]
      exact and_iff_right_of_imp fun ready => (has fd).mp (ready.mono subset)

/-- The cycle works in no other state: a descriptor that two ports share is
served twice when it is ready. -/
theorem servesAll_iff (runtime : Runtime) :
    (∃ built, runtime.ServesAll built) ↔
      Selectable runtime.worker.ports.portFd := by
  refine ⟨?_, serves_of_selectable⟩
  rintro ⟨built, serves⟩
  have inside : ∀ fd ∈ runtime.worker.fds, FdSet.Inside fd := by
    cases collected : Selection.setAll runtime.worker.fds ⟨∅, -1⟩ with
    | none =>
        have builds := serves.builds
        rw [Worker.buildSelectList, collected] at builds
        cases builds
    | some selection => exact Selection.setAll_inside collected
  have has (fd : Int) : built.fdset.Has fd ↔ fd ∈ runtime.worker.fds :=
    (serves.members fd).trans (runtime.worker.mem_fds_iff fd).symm
  -- All descriptors are ready, so all of them are served once.
  have nodup : runtime.worker.fds.Nodup := by
    obtain ⟨next, calls, messages, turned, once, -⟩ :=
      serves.serves (fun _ fds => fds) (fun _ => .datagram ⟨0, 0⟩ []) subset_rfl
    obtain ⟨next2, calls2, messages2, turned2, order⟩ :=
      turn_calls inside serves.builds (fun _ fds => fds)
        (fun _ => .datagram ⟨0, 0⟩ [])
    rw [turned] at turned2
    cases turned2
    rwa [order, List.filter_eq_self.mpr] at once
    intro fd member
    exact decide_eq_true ((has fd).mpr member)
  constructor
  · intro port fd found
    exact inside fd ((runtime.worker.mem_fds_iff fd).mpr ⟨port, found⟩)
  · intro port other fd found found2
    have same := List.inj_on_of_nodup_map nodup
      ((Table.mem_entries_iff _ port fd).mpr found)
      ((Table.mem_entries_iff _ other fd).mpr found2) rfl
    exact congrArg Sigma.fst same

end Runtime

/-! Which descriptors a run may hand out. -/

def Fits (portFd : Table Int Int) (port fd : Int) : Prop :=
  fd < fdSetSize ∧ ∀ other stored, portFd.lookup other = some stored →
    stored = fd → other = port

instance (portFd : Table Int Int) (port fd : Int) :
    Decidable (Fits portFd port fd) :=
  inferInstanceAs (Decidable (_ ∧ _))

namespace Selectable

variable {portFd : Table Int Int}

theorem empty : Selectable (∅ : Table Int Int) := by
  constructor <;> simp

theorem insert (selectable : Selectable portFd) {port fd : Int}
    (valid : 0 ≤ fd) (fits : Fits portFd port fd) :
    Selectable (portFd.insert port fd) where
  inside := by
    intro other stored found
    rw [Table.lookup_insert] at found
    split at found
    · cases found
      exact ⟨valid, fits.1⟩
    · exact selectable.inside other stored found
  once := by
    intro first second stored found found2
    rw [Table.lookup_insert] at found found2
    split at found <;> split at found2
    · rename_i here here2
      rw [here, here2]
    · rename_i here elsewhere
      cases found
      exact absurd (fits.2 second fd found2 rfl) elsewhere
    · rename_i elsewhere here
      cases found2
      exact absurd (fits.2 first fd found rfl) elsewhere
    · exact selectable.once first second stored found found2

theorem erase (selectable : Selectable portFd) (port : Int) :
    Selectable (portFd.erase port) where
  inside := by
    intro other stored found
    rw [Table.lookup_erase] at found
    split at found
    · cases found
    · exact selectable.inside other stored found
  once := by
    intro first second stored found found2
    rw [Table.lookup_erase] at found found2
    split at found
    · cases found
    · split at found2
      · cases found2
      · exact selectable.once first second stored found found2

end Selectable

theorem initSocket_valid {os : Os} {kernel : Kernel} {port : Int}
    (opened : (initSocket os kernel port).1 ≠ -1) :
    0 ≤ (initSocket os kernel port).1 := by
  rcases initSocket_cases os kernel port with
    ⟨failed, -⟩ | ⟨fd, answered, valid, -, -⟩
  · exact absurd failed opened
  · rwa [answered]

namespace SocketState

def FitsSelect (os : Os) (state : SocketState) (port : Int) : Prop :=
  state.ports.listeners port = 0 → (initSocket os state.kernel port).1 ≠ -1 →
    Fits state.ports.portFd port (initSocket os state.kernel port).1

instance (os : Os) (state : SocketState) (port : Int) :
    Decidable (state.FitsSelect os port) :=
  inferInstanceAs (Decidable (_ → _ → _))

variable {state : SocketState}

theorem addSocket_selectable (selectable : Selectable state.ports.portFd)
    {os : Os} {port : Int} (fits : state.FitsSelect os port) :
    Selectable (addSocket os state port).2.ports.portFd := by
  rcases addSocket_cases os state port with
    ⟨-, result⟩ | ⟨-, -, result⟩ | ⟨idle, opened, result⟩
  · rwa [result]
  · rwa [result]
  · rw [result]
    exact selectable.insert (initSocket_valid opened) (fits idle opened)

theorem removeSocket_selectable (selectable : Selectable state.ports.portFd)
    (port : Int) :
    Selectable (removeSocket state port).2.ports.portFd := by
  rcases removeSocket_cases state port with ⟨-, result⟩ | ⟨-, result⟩
  · rw [result]
    exact selectable.erase port
  · rwa [result]

end SocketState

namespace RtcpWorker

def FitsSelect (os : Os) (state : SocketState) (port : Int) : Prop :=
  let (fd, kernel) := initSocket os state.kernel port
  let (fd2, _) := initSocket os kernel (port + 1)
  state.ports.listeners port = 0 → fd ≠ -1 → fd2 ≠ -1 →
    Fits state.ports.portFd port fd ∧
      Fits (state.ports.portFd.insert port fd) (port + 1) fd2

instance (os : Os) (state : SocketState) (port : Int) :
    Decidable (FitsSelect os state port) :=
  inferInstanceAs (Decidable (_ → _ → _ → _ ∧ _))

variable {state : SocketState}

theorem addSocket_selectable (selectable : Selectable state.ports.portFd)
    {os : Os} {port : Int} (fits : FitsSelect os state port) :
    Selectable (addSocket os state port).2.ports.portFd := by
  rcases addSocket_cases os state port with
    ⟨-, result⟩ | ⟨-, -, result⟩ | ⟨idle, opened, opened2, result⟩
  · rwa [result]
  · rwa [result]
  · obtain ⟨here, above⟩ := fits idle opened opened2
    rw [result]
    exact (selectable.insert (initSocket_valid opened) here).insert
      (initSocket_valid opened2) above

theorem removeSocket_selectable (selectable : Selectable state.ports.portFd)
    (port : Int) :
    Selectable (removeSocket state port).2.ports.portFd := by
  rcases removeSocket_cases state port with ⟨-, result⟩ | ⟨-, result⟩
  · rw [result]
    exact (selectable.erase port).erase (port + 1)
  · rwa [result]

end RtcpWorker

/-- Every descriptor that the call stores fits. -/
def Runtime.FitsSelect (os : Os) (runtime : Runtime) : WorkerEvent → Prop
  | .addSource _ ip port =>
      runtime.worker.streams.routes (SockAddr.ofPort ip port) = 0 →
        (runtime.worker.kind ≠ .rtcp → runtime.sockets.FitsSelect os port) ∧
        (runtime.worker.kind = .rtcp →
          runtime.worker.streams.routes (SockAddr.ofPort ip (port + 1)) = 0 →
          RtcpWorker.FitsSelect os runtime.sockets port ∧
            RtcpWorker.FitsSelect os
              (RtcpWorker.addSocket os runtime.sockets port).2 (port + 1))
  | _ => True

instance (os : Os) (runtime : Runtime) (event : WorkerEvent) :
    Decidable (runtime.FitsSelect os event) :=
  match event with
  | .addSource _ _ _ =>
      inferInstanceAs (Decidable (_ → (_ → _) ∧ (_ → _ → _ ∧ _)))
  | .removeSource _ | .addDestination _ _ _ _ | .removeDestination _ _
  | .packet _ _ | .elapse _ => isTrue trivial

section Steps

variable {os : Os} {runtime next : Runtime} {event : WorkerEvent}
  {output : WorkerOutput}

theorem PlainStep.selectable (plain : runtime.worker.kind ≠ .rtcp)
    (step : PlainStep os runtime next event output)
    (fits : runtime.FitsSelect os event)
    (selectable : Selectable runtime.sockets.ports.portFd) :
    Selectable next.sockets.ports.portFd := by
  cases step with
  | rejected routed sockets lists routes => rwa [sockets]
  | refused free failed sockets lists routes =>
      rw [sockets]
      exact SocketState.addSocket_selectable selectable ((fits free).1 plain)
  | added list free opened sockets created lists routes =>
      rw [sockets]
      exact SocketState.addSocket_selectable selectable ((fits free).1 plain)
  | removed list found sockets lists routes =>
      rw [sockets]
      exact SocketState.removeSocket_selectable selectable _
  | addedDestination list changed => rwa [changed.streamsOnly.sockets]
  | removedDestination list after changed filtered =>
      rwa [changed.streamsOnly.sockets]
  | packet noted =>
      change Selectable next.worker.ports.portFd
      rwa [noted.portFd]
  | elapsed elapse =>
      subst elapse
      exact selectable

theorem RtcpStep.selectable (rtcp : runtime.worker.kind = .rtcp)
    (step : RtcpStep os runtime next event output)
    (fits : runtime.FitsSelect os event)
    (selectable : Selectable runtime.sockets.ports.portFd) :
    Selectable next.sockets.ports.portFd := by
  have pair {srcId port : Int} {ip : InAddr}
      (fits : runtime.FitsSelect os (.addSource srcId ip port))
      (free : runtime.worker.streams.routes (SockAddr.ofPort ip port) = 0)
      (free2 : runtime.worker.streams.routes
        (SockAddr.ofPort ip (port + 1)) = 0) :
      Selectable (RtcpWorker.addSocketPair os
        runtime.sockets port).2.ports.portFd := by
    obtain ⟨first, second⟩ := (fits free).2 rtcp free2
    exact RtcpWorker.addSocket_selectable
      (RtcpWorker.addSocket_selectable selectable first) second
  cases step with
  | rejected routed sockets lists routes => rwa [sockets]
  | refused free free2 failed sockets lists routes =>
      rw [sockets]
      exact pair fits free free2
  | added free free2 opened sockets lists routes =>
      rw [sockets]
      exact pair fits free free2
  | removed list list2 found found2 sockets lists routes =>
      rw [sockets]
      apply RtcpWorker.removeSocket_selectable
      exact RtcpWorker.removeSocket_selectable selectable _
  | keptDestination list found rejected read => rwa [read.streamsOnly.sockets]
  | addedDestination list list2 changed => rwa [changed.streamsOnly.sockets]
  | missedDestination list found missing read =>
      rwa [read.streamsOnly.sockets]
  | removedDestination list list2 changed => rwa [changed.streamsOnly.sockets]
  | packet noted =>
      change Selectable next.worker.ports.portFd
      rwa [noted.portFd]
  | elapsed elapse =>
      subst elapse
      exact selectable

end Steps

/-- A call or packet of the worker, or whatever the other threads of the
process do to the kernel. -/
inductive SharedEvent where
  | own (event : WorkerEvent)
  | others (kernel : Kernel)

def Runtime.sharedStep (os : Os) (runtime : Runtime) :
    SharedEvent → Except Fault (Runtime × WorkerOutput)
  | .own event => runtime.step os event
  | .others kernel => .ok ({ runtime with kernel := kernel }, .done)

def sharedMachine (os : Os) : Machine Runtime SharedEvent WorkerOutput Fault where
  step := Runtime.sharedStep os

def SharedEvent.FitsSelect (os : Os) (runtime : Runtime) : SharedEvent → Prop
  | .own event => runtime.FitsSelect os event
  | .others _ => True

instance (os : Os) (runtime : Runtime) (event : SharedEvent) :
    Decidable (event.FitsSelect os runtime) :=
  match event with
  | .own event => inferInstanceAs (Decidable (runtime.FitsSelect os event))
  | .others _ => isTrue trivial

/-- A worker that only ever stores descriptors that fit serves every one of
them in every state it reaches. -/
theorem select_servesAll {os : Os} {kind : WorkerKind} {workerId : Int}
    {kernel : Kernel} {runtime : Runtime}
    (run : (sharedMachine os).Run Observer.none
      (fun runtime _ event => event.FitsSelect os runtime)
      (Runtime.start kind workerId kernel) runtime ()) :
    ∃ built, runtime.ServesAll built := by
  apply Runtime.serves_of_selectable
  refine run.invariant (motive := fun state _ =>
    Selectable state.worker.ports.portFd) .empty ?_
  intro state next record event output selectable fits stepped
  cases event with
  | own event =>
      rcases eq_or_ne state.worker.kind .rtcp with rtcp | plain
      · exact (RtcpStep.of_step rtcp stepped).selectable rtcp fits selectable
      · exact (PlainStep.of_step plain stepped).selectable plain fits selectable
  | others kernel =>
      cases stepped
      exact selectable

theorem select_servesAll_pair :
    ∃ (runtime : Runtime) (built : Selection),
      runtime.worker.fds = [6, 5, 4, 3] ∧ runtime.ServesAll built := by
  have run : (sharedMachine Os.orderly).Run Observer.none
      (fun runtime _ event => event.FitsSelect .orderly runtime)
      (Runtime.start .rtcp 1 .fresh) _ _ :=
    .of_replay [.own (.addSource 1 1 5000), .own (.addSource 3 2 5001)] (by decide)
  exact ⟨_, (select_servesAll run).choose, by decide,
    (select_servesAll run).choose_spec⟩

/-! A worker with a thousand sources. -/

/-- Sources 1 to `count` of one sender are on the ports of their numbers, and
their sockets have the descriptors from 3 on. -/
structure Runtime.Crowded (runtime : Runtime) (count : Nat) : Prop where
  plain : runtime.worker.kind ≠ .rtcp
  nextFd : runtime.kernel.nextFd = count + 3
  last : 0 < count →
    runtime.worker.ports.portFd.lookup count = some (count + 2 : Int)
  idle : ∀ port : Int, count < port → port ≤ 65535 →
    runtime.worker.ports.listeners port = 0
  free : ∀ port : Int, count < port → port ≤ 65535 →
    runtime.worker.streams.routes (SockAddr.ofPort 1 port) = 0
  unbound : ∀ port : Int, count < port → port ≤ 65535 →
    ¬ runtime.kernel.Bound (htons port)

namespace Kernel

theorem nextFd_fresh (kernel : Kernel) :
    kernel.sockets.lookup kernel.nextFd = none :=
  (@Os.orderly.socket_fresh kernel _ rfl).2

theorem granted_sockets (kernel : Kernel) (port fd : Int) :
    (kernel.granted port fd).sockets =
      kernel.sockets.insert fd (some (htons port)) :=
  AList.insert_insert kernel.sockets

theorem nextFd_granted (kernel : Kernel) (port : Int) :
    (kernel.granted port kernel.nextFd).nextFd = kernel.nextFd + 1 := by
  have entries : (kernel.granted port kernel.nextFd).sockets.entries =
      ⟨kernel.nextFd, some (htons port)⟩ :: kernel.sockets.entries := by
    rw [granted_sockets]
    exact AList.entries_insert_of_notMem
      (AList.lookup_eq_none.mp kernel.nextFd_fresh)
  rw [nextFd, entries, List.map_cons, List.foldr_cons]
  have unfolded : kernel.nextFd =
      (kernel.sockets.entries.map Sigma.fst).foldr max 2 + 1 := rfl
  dsimp only
  omega

theorem bound_granted_iff (kernel : Kernel) (port : Int) (other : BitVec 16) :
    (kernel.granted port kernel.nextFd).Bound other ↔
      other = htons port ∨ kernel.Bound other := by
  unfold Bound
  simp only [granted_sockets, Table.lookup_insert]
  constructor
  · rintro ⟨fd, found⟩
    split at found
    · cases found
      exact .inl rfl
    · exact .inr ⟨fd, found⟩
  · rintro (rfl | ⟨fd, found⟩)
    · exact ⟨kernel.nextFd, if_pos rfl⟩
    · refine ⟨fd, (if_neg ?_).trans found⟩
      rintro rfl
      rw [kernel.nextFd_fresh] at found
      cases found

end Kernel

theorem htons_injective {port other : Int} (inRange : 0 ≤ port ∧ port ≤ 65535)
    (inRange2 : 0 ≤ other ∧ other ≤ 65535) (equal : htons port = htons other) :
    port = other := by
  have ports := congrArg ntohs equal
  rwa [ntohs_htons_of_range inRange.1 inRange.2,
    ntohs_htons_of_range inRange2.1 inRange2.2] at ports

theorem Runtime.Crowded.addSource {runtime : Runtime} {count : Nat}
    (crowded : runtime.Crowded count) (room : count < 65535) :
    ∃ next, runtime.step .orderly (.addSource (count + 1) 1 (count + 1)) =
        .ok (next, .added true) ∧ next.Crowded (count + 1) := by
  have idle := crowded.idle (count + 1) (by omega) (by omega)
  have free := crowded.free (count + 1) (by omega) (by omega)
  have unbound := crowded.unbound (count + 1) (by omega) (by omega)
  have grants : Os.orderly.Grants runtime.kernel (count + 1)
      runtime.kernel.nextFd := by
    refine ⟨rfl, ?_⟩
    have opened := Kernel.bound_opened_iff runtime.kernel.nextFd_fresh
      (htons (count + 1))
    simp [Os.orderly, opened, unbound]
  have called : SocketState.addSocket .orderly runtime.sockets (count + 1) =
      _ := SocketState.addSocket_granted idle grants
  obtain ⟨accepted, next, stepped⟩ : ∃ accepted next,
      runtime.step .orderly (.addSource (count + 1) 1 (count + 1)) =
        .ok (next, .added accepted) := ⟨_, _, rfl⟩
  have same := (Runtime.step_sameWorker stepped).1
  cases PlainStep.of_step crowded.plain stepped with
  | rejected routed sockets lists routes => exact absurd free routed
  | refused free failed sockets lists routes =>
      rw [called] at failed
      cases failed
  | added list free opened sockets created lists routes =>
      rw [called] at sockets
      have kernel := congrArg SocketState.kernel sockets
      have ports := congrArg SocketState.ports sockets
      change next.kernel = _ at kernel
      change next.worker.ports = _ at ports
      refine ⟨next, stepped, ?_, ?_, ?_, ?_, ?_, ?_⟩
      · rw [same]
        exact crowded.plain
      · rw [kernel]
        change Kernel.nextFd (runtime.kernel.granted _ _) = _
        rw [Kernel.nextFd_granted, crowded.nextFd]
        push_cast
        ring
      · intro _
        rw [ports]
        change (Table.insert _ _ _).lookup _ = _
        rw [Table.lookup_insert, if_pos (by push_cast; rfl), crowded.nextFd]
        push_cast
        ring_nf
      · intro port above below
        rw [ports]
        change (PortTables.register _ _ _).listeners port = 0
        rw [PortTables.listeners_register, update_of_ne (by omega),
          PortTables.listeners_readListener]
        exact crowded.idle port (by omega) below
      · intro port above below
        rw [routes, created, update_of_ne]
        · exact crowded.free port (by omega) below
        · rw [StreamList.getSourceSockAddr, WorkerKind.newList_source]
          intro equal
          have ports := htons_injective (by omega) (by omega)
            (congrArg SockAddr.sinPort equal)
          omega
      · intro port above below
        rw [kernel]
        change ¬ (runtime.kernel.granted _ _).Bound _
        rw [Kernel.bound_granted_iff]
        rintro (equal | bound)
        · have ports := htons_injective (by omega) (by omega) equal
          omega
        · exact crowded.unbound port (by omega) below bound

theorem crowded_reachable (count : Nat) (room : count ≤ 65535) :
    ∃ runtime, (sharedMachine Os.orderly).Run Observer.none
        (fun _ _ _ => True) (Runtime.start .forward 1 .fresh) runtime () ∧
      runtime.Crowded count := by
  induction count with
  | zero =>
      refine ⟨_, .start, by simp [Runtime.start, Worker.create], by decide, ?_,
        ?_, ?_, ?_⟩
      · simp
      · intro port _ _
        exact PortTables.listeners_empty port
      · intro port _ _
        exact StreamTables.routes_empty _
      · rintro port _ _ ⟨fd, found⟩
        simp [Runtime.start, Kernel.fresh] at found
  | succ count ih =>
      obtain ⟨runtime, run, crowded⟩ := ih (by omega)
      obtain ⟨next, stepped, crowdedNext⟩ := crowded.addSource (by omega)
      have shared : (sharedMachine .orderly).step runtime
          (.own (.addSource (count + 1) 1 (count + 1))) =
            .ok (next, .added true) := stepped
      exact ⟨next, run.step trivial shared, crowdedNext⟩

/-- The socket of the 1022nd source has descriptor 1024. -/
theorem select_overflows :
    ∃ runtime, (sharedMachine Os.orderly).Run Observer.none
        (fun _ _ _ => True) (Runtime.start .forward 1 .fresh) runtime () ∧
      ¬ ∃ built, runtime.ServesAll built := by
  obtain ⟨runtime, run, crowded⟩ := crowded_reachable 1022 (by omega)
  refine ⟨runtime, run, ?_⟩
  rintro ⟨built, serves⟩
  have below := serves.inside _ _ (crowded.last (by omega))
  revert below
  decide

end StrManager
