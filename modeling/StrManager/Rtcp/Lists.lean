import StrManager.Rtcp.Sockets
import StrManager.Worker.Implements

namespace StrManager

open Library Function

/-! The lists of an RTCP worker: every source has a list of its own and a list
under the next identifier, whose streams are one port higher. -/

namespace Registration

theorem next_addDestination (registration : Registration)
    (stream : UdpStream) :
    (registration.addDestination stream).next =
      registration.next.addDestination stream.next := by
  have sameId : stream.next.id ∈
      registration.next.destinations.map UdpStream.id ↔
        stream.id ∈ registration.destinations.map UdpStream.id := by
    simp [next, UdpStream.next]
  unfold addDestination
  rcases em (stream.id ∈ registration.destinations.map UdpStream.id) with
    known | unknown
  · rw [if_pos known, if_pos (sameId.mpr known)]
  · rw [if_neg unknown, if_neg fun member => unknown (sameId.mp member)]
    simp [next]

theorem next_removeDestination (registration : Registration) (destId : Int) :
    (registration.removeDestination destId).next =
      registration.next.removeDestination (destId + 1) := by
  have sameId (stream : UdpStream) :
      (stream.next.id != destId + 1) = (stream.id != destId) := by
    rw [Bool.eq_iff_iff, bne_iff_ne, bne_iff_ne]
    exact not_congr (add_left_inj 1)
  simp only [removeDestination, next, List.filter_map, mk.injEq, true_and]
  congr 1
  exact List.filter_congr fun stream _ => (sameId stream).symm

theorem next_injective {first second : Registration}
    (equal : first.next = second.next) : first = second := by
  cases first with
  | mk addr destinations =>
      cases second with
      | mk addr2 destinations2 =>
          simp only [next, mk.injEq] at equal ⊢
          exact ⟨SockAddr.next_injective equal.1,
            List.map_injective_iff.mpr (fun _ _ => UdpStream.next_injective)
              equal.2⟩

end Registration

theorem StreamList.removeDestination_of_not_exists {list : StreamList}
    {destId : Int} (unknown : list.existDestination destId = false) :
    list.registration.removeDestination destId = list.registration := by
  unfold Registration.removeDestination
  rw [show list.registration.destinations = list.destinations from rfl,
    StreamList.filter_of_not_exists unknown]
  rfl

namespace Registry

def paired (registry : Registry) (listId : Int) : Option Registration :=
  (registry.lookup listId).or
    ((registry.lookup (listId - 1)).map Registration.next)

def Spaced (registry : Registry) : Prop :=
  ∀ srcId, (registry.lookup srcId).isSome = true →
    registry.lookup (srcId + 1) = none

theorem Spaced.none_below {registry : Registry} (spaced : registry.Spaced)
    {srcId : Int} (used : (registry.lookup srcId).isSome = true) :
    registry.lookup (srcId - 1) = none := by
  cases found : registry.lookup (srcId - 1) with
  | none => rfl
  | some registration =>
      have above := spaced (srcId - 1) (by rw [found]; rfl)
      rw [sub_add_cancel] at above
      rw [above] at used
      cases used

theorem paired_update {registry next : Registry} {srcId : Int}
    {value : Option Registration}
    (lookups : next.lookup = update registry.lookup srcId value)
    (below : registry.lookup (srcId - 1) = none)
    (above : registry.lookup (srcId + 1) = none) :
    next.paired = update (update registry.paired srcId value) (srcId + 1)
      (value.map Registration.next) := by
  funext listId
  unfold paired
  rw [lookups]
  rcases eq_or_ne listId (srcId + 1) with rfl | different
  · rw [update_self, update_of_ne (by omega), above, add_sub_cancel_right,
      update_self]
    rfl
  · have away : listId - 1 ≠ srcId := by omega
    rw [update_of_ne different, update_of_ne away]
    rcases eq_or_ne listId srcId with rfl | different2
    · rw [update_self, update_self, below]
      exact Option.or_none
    · rw [update_of_ne different2, update_of_ne different2]

theorem Spaced.update {registry next : Registry} {srcId : Int}
    {value : Option Registration} (spaced : registry.Spaced)
    (lookups : next.lookup = update registry.lookup srcId value)
    (below : registry.lookup (srcId - 1) = none)
    (above : registry.lookup (srcId + 1) = none) : next.Spaced := by
  intro other used
  rw [lookups] at used ⊢
  rcases eq_or_ne other srcId with rfl | different
  · rw [update_of_ne (by omega), above]
  · rw [update_of_ne different] at used
    have away : other + 1 ≠ srcId := by
      rintro rfl
      rw [add_sub_cancel_right] at below
      rw [below] at used
      cases used
    rw [update_of_ne away]
    exact spaced other used

theorem spaced_empty : Spaced ∅ := by
  intro srcId used
  simp at used

end Registry

def WorkerEvent.Apart (registry : Registry) : WorkerEvent → Prop
  | .addSource srcId _ _ =>
      registry.lookup srcId = none ∧ registry.lookup (srcId - 1) = none ∧
        registry.lookup (srcId + 1) = none
  | _ => True

instance (registry : Registry) (event : WorkerEvent) :
    Decidable (event.Apart registry) :=
  match event with
  | .addSource srcId _ _ =>
      inferInstanceAs (Decidable (registry.lookup srcId = none ∧
        registry.lookup (srcId - 1) = none ∧
        registry.lookup (srcId + 1) = none))
  | .removeSource _ | .addDestination _ _ _ _ | .removeDestination _ _
  | .packet _ _ | .elapse _ => isTrue trivial

/-! What one step of an RTCP worker can do. -/

inductive RtcpStep (os : Os) (runtime next : Runtime) :
    WorkerEvent → WorkerOutput → Prop
  | rejected {srcId : Int} {ip : InAddr} {port : Int}
      (routed : runtime.worker.streams.routes (SockAddr.ofPort ip port) ≠ 0 ∨
        runtime.worker.streams.routes (SockAddr.ofPort ip (port + 1)) ≠ 0)
      (sockets : next.sockets = runtime.sockets)
      (lists : next.worker.streams.lists = runtime.worker.streams.lists)
      (routes : next.worker.streams.routes = runtime.worker.streams.routes) :
      RtcpStep os runtime next (.addSource srcId ip port) (.added false)
  | refused {srcId : Int} {ip : InAddr} {port : Int}
      (free : runtime.worker.streams.routes (SockAddr.ofPort ip port) = 0)
      (free2 : runtime.worker.streams.routes
        (SockAddr.ofPort ip (port + 1)) = 0)
      (failed : (RtcpWorker.addSocketPair os runtime.sockets port).1 = false)
      (sockets : next.sockets =
        (RtcpWorker.addSocketPair os runtime.sockets port).2)
      (lists : next.worker.streams.lists = runtime.worker.streams.lists)
      (routes : next.worker.streams.routes = runtime.worker.streams.routes) :
      RtcpStep os runtime next (.addSource srcId ip port) (.added false)
  | added {srcId : Int} {ip : InAddr} {port : Int}
      (free : runtime.worker.streams.routes (SockAddr.ofPort ip port) = 0)
      (free2 : runtime.worker.streams.routes
        (SockAddr.ofPort ip (port + 1)) = 0)
      (opened : (RtcpWorker.addSocketPair os runtime.sockets port).1 = true)
      (sockets : next.sockets =
        (RtcpWorker.addSocketPair os runtime.sockets port).2)
      (lists : next.worker.streams.lists =
        update (update runtime.worker.streams.lists srcId
            (some (StreamList.create srcId (UdpStream.create srcId ip port))))
          (srcId + 1) (some (StreamList.create (srcId + 1)
            (UdpStream.create (srcId + 1) ip (port + 1)))))
      (routes : next.worker.streams.routes =
        update (update runtime.worker.streams.routes
            (SockAddr.ofPort ip port) srcId)
          (SockAddr.ofPort ip (port + 1)) (srcId + 1)) :
      RtcpStep os runtime next (.addSource srcId ip port) (.added true)
  | removed {srcId : Int} (list list2 : StreamList)
      (found : runtime.worker.streams.lists srcId = some list)
      (found2 : runtime.worker.streams.lists (srcId + 1) = some list2)
      (sockets : next.sockets = (RtcpWorker.removeSocket
        (RtcpWorker.removeSocket runtime.sockets list.getSourcePort).2
          list2.getSourcePort).2)
      (lists : next.worker.streams.lists =
        update (update runtime.worker.streams.lists srcId none)
          (srcId + 1) none)
      (routes : next.worker.streams.routes =
        update (update runtime.worker.streams.routes list.getSourceSockAddr 0)
          list2.getSourceSockAddr 0) :
      RtcpStep os runtime next (.removeSource srcId) (.removed [])
  | keptDestination {srcId destId : Int} {ip : InAddr} {port : Int}
      (list : StreamList)
      (found : runtime.worker.streams.lists srcId = some list)
      (rejected :
        (list.addDestination (UdpStream.create destId ip port)).1 = false)
      (read : RtcpWorker.ReadStep runtime next) :
      RtcpStep os runtime next (.addDestination srcId destId ip port) .done
  | addedDestination {srcId destId : Int} {ip : InAddr} {port : Int}
      (list list2 : StreamList)
      (changed : RtcpWorker.PairStep runtime next srcId list list2
        (list.addDestination (UdpStream.create destId ip port)).2
        (list2.addDestination
          (UdpStream.create (destId + 1) ip (port + 1))).2) :
      RtcpStep os runtime next (.addDestination srcId destId ip port) .done
  | missedDestination {srcId destId : Int} (list : StreamList)
      (found : runtime.worker.streams.lists srcId = some list)
      (missing : list.existDestination destId = false ∨ ∃ list2,
        runtime.worker.streams.lists (srcId + 1) = some list2 ∧
          list2.existDestination (destId + 1) = false)
      (read : RtcpWorker.ReadStep runtime next) :
      RtcpStep os runtime next (.removeDestination srcId destId) .done
  | removedDestination {srcId destId : Int} (list list2 : StreamList)
      (changed : RtcpWorker.PairStep runtime next srcId list list2
        (list.eraseFound destId) (list2.eraseFound (destId + 1))) :
      RtcpStep os runtime next (.removeDestination srcId destId) .done
  | packet {fd : Int} {received : Received}
      (noted : Worker.PacketStep runtime next fd) :
      RtcpStep os runtime next (.packet fd received)
        (.sent (runtime.process fd received).2)
  | elapsed {seconds : Nat} (elapse : next = runtime.elapse seconds) :
      RtcpStep os runtime next (.elapse seconds) .done

theorem RtcpStep.of_step {os : Os} {runtime next : Runtime}
    {event : WorkerEvent} {output : WorkerOutput}
    (rtcp : runtime.worker.kind = .rtcp)
    (stepped : runtime.step os event = .ok (next, output)) :
    RtcpStep os runtime next event output := by
  cases event with
  | addSource srcId ip port =>
      rw [Runtime.step, Runtime.addSource, rtcp] at stepped
      cases called : RtcpWorker.addSource os runtime srcId ip port with
      | mk accepted after =>
          simp only [called] at stepped
          cases stepped
          rcases RtcpWorker.addSource_cases os runtime srcId ip port called
            with ⟨routed, rfl, sockets, lists, routes⟩ |
              ⟨free, free2, failed, rfl, sockets, lists, routes⟩ |
              ⟨free, free2, opened, rfl, sockets, lists, routes⟩
          · exact .rejected routed sockets lists routes
          · exact .refused free free2 failed sockets lists routes
          · exact .added free free2 opened sockets lists routes
  | removeSource srcId =>
      obtain ⟨messages, rfl, called⟩ := Runtime.step_removeSource stepped
      rw [Runtime.removeSource, rtcp] at called
      rcases RtcpWorker.removeSource_cases runtime srcId with
        ⟨-, faulted⟩ | ⟨list, list2, after, found, found2, removed, sockets,
          lists, routes, -, -⟩
      · simp only [faulted] at called
        cases called
      · simp only [removed] at called
        cases called
        exact .removed list list2 found found2 sockets lists routes
  | addDestination srcId destId ip port =>
      obtain ⟨rfl, called⟩ := Runtime.step_addDestination stepped
      rw [Runtime.addDestination_of_rtcp rtcp] at called
      obtain ⟨list, found, rejected, read⟩ | ⟨list, list2, changed⟩ :=
        RtcpWorker.addDestination_ok called
      · exact .keptDestination list found rejected read
      · exact .addedDestination list list2 changed
  | removeDestination srcId destId =>
      obtain ⟨rfl, called⟩ := Runtime.step_removeDestination stepped
      rw [Runtime.removeDestination_of_rtcp rtcp] at called
      obtain ⟨list, found, missing, read⟩ | ⟨list, list2, changed⟩ :=
        RtcpWorker.removeDestination_ok called
      · exact .missedDestination list found missing read
      · exact .removedDestination list list2 changed
  | packet fd received =>
      cases stepped
      exact .packet (Runtime.process_step runtime fd received)
  | elapse seconds =>
      cases stepped
      exact .elapsed rfl

/-- Every source has its two lists, and there are no others. -/
structure PairedLists (lists : Int → Option StreamList)
    (registry : Registry) : Prop where
  implements : Implements lists registry.paired
  spaced : registry.Spaced

namespace PairedLists

variable {lists : Int → Option StreamList} {registry : Registry}

theorem of_empty : PairedLists StreamTables.empty.lists ∅ where
  implements := Implements.of_empty
  spaced := Registry.spaced_empty

theorem registered (paired : PairedLists lists registry) {srcId : Int}
    {registration : Registration}
    (found : registry.lookup srcId = some registration) :
    ∃ list list2, lists srcId = some list ∧ lists (srcId + 1) = some list2 ∧
      list.registration = registration ∧
      list2.registration = registration.next := by
  have above := paired.spaced srcId (by rw [found]; rfl)
  have view : registry.paired srcId = some registration := by
    rw [Registry.paired, found]
    rfl
  have view2 : registry.paired (srcId + 1) = some registration.next := by
    rw [Registry.paired, above, add_sub_cancel_right, found]
    rfl
  obtain ⟨list, stored, equal⟩ := paired.implements.stored view
  obtain ⟨list2, stored2, equal2⟩ := paired.implements.stored view2
  exact ⟨list, list2, stored, stored2, equal, equal2⟩

theorem registrations (paired : PairedLists lists registry) {srcId : Int}
    (used : (registry.lookup srcId).isSome = true) {list list2 : StreamList}
    (found : lists srcId = some list)
    (found2 : lists (srcId + 1) = some list2) :
    registry.lookup srcId = some list.registration ∧
      list2.registration = list.registration.next := by
  obtain ⟨registration, known⟩ := Option.isSome_iff_exists.mp used
  obtain ⟨stored, stored2, storedFound, storedFound2, rfl, next2⟩ :=
    paired.registered known
  rw [found] at storedFound
  rw [found2] at storedFound2
  cases storedFound
  cases storedFound2
  exact ⟨known, next2⟩

theorem congr (paired : PairedLists lists registry) {next : Registry}
    (lookups : next.lookup = registry.lookup) : PairedLists lists next where
  implements := by
    have view : next.paired = registry.paired := by
      funext listId
      rw [Registry.paired, Registry.paired, lookups]
    rw [view]
    exact paired.implements
  spaced := by
    intro srcId
    rw [lookups]
    exact paired.spaced srcId

theorem insert (paired : PairedLists lists registry) {next : Registry}
    {srcId : Int} {registration : Registration} {list list2 : StreamList}
    (lookups : next.lookup =
      update registry.lookup srcId (some registration))
    (below : registry.lookup (srcId - 1) = none)
    (above : registry.lookup (srcId + 1) = none)
    (keyed : list.Keyed) (keyed2 : list2.Keyed)
    (described : list.registration = registration)
    (described2 : list2.registration = registration.next) :
    PairedLists (update (update lists srcId (some list)) (srcId + 1)
      (some list2)) next where
  implements := by
    rw [Registry.paired_update lookups below above]
    exact (paired.implements.insert keyed described).insert keyed2 described2
  spaced := paired.spaced.update lookups below above

theorem remove (paired : PairedLists lists registry) {next : Registry}
    {srcId : Int} (lookups : next.lookup = update registry.lookup srcId none)
    (below : registry.lookup (srcId - 1) = none)
    (above : registry.lookup (srcId + 1) = none) :
    PairedLists (update (update lists srcId none) (srcId + 1) none) next where
  implements := by
    rw [Registry.paired_update lookups below above]
    exact (paired.implements.remove srcId).remove (srcId + 1)
  spaced := paired.spaced.update lookups below above

end PairedLists

theorem Registry.lookup_change_of_fixed {registry : Registry} {srcId : Int}
    {registration : Registration} {edit : Registration → Registration}
    (found : registry.lookup srcId = some registration)
    (fixed : edit registration = registration) :
    (registry.change srcId edit).lookup = registry.lookup := by
  rw [lookup_change_of_lookup edit found, fixed, ← found, update_eq_self]

theorem RtcpStep.pairedLists {os : Os} {runtime next : Runtime}
    {event : WorkerEvent} {output : WorkerOutput} {registry : Registry}
    (step : RtcpStep os runtime next event output)
    (apart : output = .added true → event.Apart registry)
    (registered : event.Registered registry)
    (paired : PairedLists runtime.worker.streams.lists registry) :
    PairedLists next.worker.streams.lists (registry.record event output) := by
  cases step with
  | rejected routed sockets lists routes =>
      rw [lists]
      exact paired
  | refused free free2 failed sockets lists routes =>
      rw [lists]
      exact paired
  | @added srcId ip port free free2 opened sockets lists routes =>
      obtain ⟨-, below, above⟩ := apart rfl
      rw [lists]
      exact paired.insert (Table.lookup_insert_eq_update registry srcId
        ⟨SockAddr.ofPort ip port, []⟩) below above
        (StreamList.create_keyed _ _) (StreamList.create_keyed _ _) rfl (by
          rw [UdpStream.create_add_one]
          rfl)
  | @removed srcId list list2 found found2 sockets lists routes =>
      rw [lists]
      exact paired.remove (Table.lookup_erase_eq_update registry srcId)
        (paired.spaced.none_below registered) (paired.spaced srcId registered)
  | @keptDestination srcId destId ip port list found rejected read =>
      obtain ⟨registration, known⟩ := Option.isSome_iff_exists.mp registered
      obtain ⟨stored, -, storedFound, -, rfl, -⟩ := paired.registered known
      rw [found] at storedFound
      cases storedFound
      rw [read.lists]
      refine paired.congr (Registry.lookup_change_of_fixed known ?_)
      rw [← StreamList.registration_addDestination,
        StreamList.addDestination_rejected rejected]
  | @addedDestination srcId destId ip port list list2 changed =>
      obtain ⟨known, next2⟩ := paired.registrations registered changed.found
        changed.found2
      rw [changed.lists]
      refine paired.insert (Registry.lookup_change_of_lookup _ known)
        (paired.spaced.none_below registered) (paired.spaced srcId registered)
        (StreamList.addDestination_keyed
          (paired.implements.keyed _ _ changed.found) _)
        (StreamList.addDestination_keyed
          (paired.implements.keyed _ _ changed.found2) _)
        (list.registration_addDestination _) ?_
      rw [list2.registration_addDestination, next2,
        Registration.next_addDestination, UdpStream.create_add_one]
  | @missedDestination srcId destId list found missing read =>
      obtain ⟨registration, known⟩ := Option.isSome_iff_exists.mp registered
      obtain ⟨stored, stored2, storedFound, storedFound2, rfl, next2⟩ :=
        paired.registered known
      rw [found] at storedFound
      cases storedFound
      rw [read.lists]
      refine paired.congr (Registry.lookup_change_of_fixed known ?_)
      rcases missing with missing | ⟨list2, found2, missing⟩
      · exact StreamList.removeDestination_of_not_exists missing
      · rw [found2] at storedFound2
        cases storedFound2
        have fixed := StreamList.removeDestination_of_not_exists missing
        rw [next2, ← Registration.next_removeDestination] at fixed
        exact Registration.next_injective fixed
  | @removedDestination srcId destId list list2 changed =>
      obtain ⟨known, next2⟩ := paired.registrations registered changed.found
        changed.found2
      have keyed := paired.implements.keyed _ _ changed.found
      have keyed2 := paired.implements.keyed _ _ changed.found2
      rw [changed.lists]
      refine paired.insert (Registry.lookup_change_of_lookup _ known)
        (paired.spaced.none_below registered) (paired.spaced srcId registered)
        (keyed.eraseFound destId) (keyed2.eraseFound (destId + 1))
        (StreamList.registration_eraseFound keyed destId) ?_
      rw [StreamList.registration_eraseFound keyed2, next2,
        Registration.next_removeDestination]
  | packet noted =>
      rcases noted.lists with
        lists | ⟨listId, list, after, found, lists, source, destinations, -⟩
      · rw [lists]
        exact paired
      · rw [lists]
        exact ⟨paired.implements.modify found source destinations,
          paired.spaced⟩
  | elapsed elapse =>
      subst elapse
      exact paired

end StrManager
