import StrManager.Rtcp.Convention
import StrManager.Worker.Handles

namespace StrManager

open Library Function

/-! The descriptors of an RTCP worker among those of the process. -/

theorem Os.Exclusive.opensPair {os : Os} (exclusive : os.Exclusive)
    {kernel : Kernel} {port : Int} (nonzero : htons port ≠ 0)
    (nonzero2 : htons (port + 1) ≠ 0) (free : ¬ kernel.Bound (htons port))
    (free2 : ¬ kernel.Bound (htons (port + 1))) :
    RtcpWorker.OpensPair os kernel port := by
  refine ⟨fun failed =>
    free ((exclusive.initSocket_fails_iff _ nonzero).mp failed), ?_⟩
  intro failed
  obtain ⟨fd, found⟩ := (exclusive.initSocket_fails_iff _ nonzero2).mp failed
  rcases initSocket_cases os kernel port with
    ⟨refused, -⟩ | ⟨opened, -, -, -, lookups⟩
  · exact free ((exclusive.initSocket_fails_iff _ nonzero).mp refused)
  · rw [lookups] at found
    split at found
    · have same : htons port = htons port + 1 := by
        rw [← htons_add_one]
        exact Option.some.inj (Option.some.inj found)
      simp at same
    · exact free2 ⟨fd, found⟩

namespace RtcpWorker

theorem addSocket_moves (os : Os) (state : SocketState) (port : Int) :
    state.Moves (addSocket os state port).2 := by
  have opening (ports : PortTables)
      (portFd : ports.portFd = state.ports.portFd) :
      state.Moves ⟨(initSocket os (initSocket os state.kernel port).2
        (port + 1)).2, ports⟩ := by
    have first : state.Moves ⟨(initSocket os state.kernel port).2, ports⟩ :=
      .of_initSocket os port portFd
    exact first.trans (.of_initSocket os (port + 1) rfl)
  rcases addSocket_cases os state port with
    ⟨-, result⟩ | ⟨-, -, result⟩ | ⟨-, opened, opened2, result⟩
  · rw [result]
    exact .of_same rfl rfl
  · rw [result]
    exact opening _ rfl
  · rcases initSocket_cases os state.kernel port with
      ⟨failed, -⟩ | ⟨fd, answered, -, fresh, -⟩
    · exact absurd failed opened
    rcases initSocket_cases os (initSocket os state.kernel port).2
      (port + 1) with ⟨failed, -⟩ | ⟨fd2, answered2, -, fresh2, -⟩
    · exact absurd failed opened2
    rw [result, answered, answered2]
    have first : state.Moves ⟨(initSocket os state.kernel port).2,
        (state.ports.readListener port).register port fd⟩ :=
      .of_register (fun other bound found => initSocket_frame port found) fresh
        rfl
    exact first.trans (.of_register
      (fun other bound found => initSocket_frame (port + 1) found) fresh2 rfl)

theorem addSocketPair_moves (os : Os) (state : SocketState) (port : Int) :
    state.Moves (addSocketPair os state port).2 :=
  (addSocket_moves os state port).trans (addSocket_moves os _ (port + 1))

theorem addSocketPair_onePerPort {os : Os} (exclusive : os.Exclusive)
    {state : SocketState} (unique : state.kernel.OnePerPort) {port : Int}
    (nonzero : htons port ≠ 0) (nonzero2 : htons (port + 1) ≠ 0)
    (nonzero3 : htons (port + 1 + 1) ≠ 0) :
    (addSocketPair os state port).2.kernel.OnePerPort := by
  have once {state : SocketState} (unique : state.kernel.OnePerPort)
      {port : Int} (nonzero : htons port ≠ 0)
      (nonzero2 : htons (port + 1) ≠ 0) :
      (addSocket os state port).2.kernel.OnePerPort := by
    have both := (unique.initSocket exclusive nonzero).initSocket exclusive
      nonzero2
    rcases addSocket_cases os state port with
      ⟨-, result⟩ | ⟨-, -, result⟩ | ⟨-, -, -, result⟩
    · rw [result]
      exact unique
    · rw [result]
      exact both
    · rw [result]
      exact both
  exact once (once unique nonzero nonzero2) nonzero2 nonzero3

theorem removeSocket_onePerPort {state : SocketState}
    (unique : state.kernel.OnePerPort) (port : Int) :
    (removeSocket state port).2.kernel.OnePerPort := by
  rcases removeSocket_cases state port with ⟨-, result⟩ | ⟨-, result⟩
  · rw [result]
    exact (unique.close _).close _
  · rw [result]
    exact unique

end RtcpWorker

theorem PairCounted.remove_moves {clean : Int → Prop} {state : SocketState}
    {sources : Int → Nat} (counted : PairCounted clean state sources)
    {port : Int} (used : 0 < sources port) :
    state.Moves (RtcpWorker.removeSocket (RtcpWorker.removeSocket state
      port).2 (port + 1)).2 := by
  obtain ⟨count, count2⟩ := counted.counts port used
  rcases eq_or_ne (sources port) 1 with alone | shared
  · obtain ⟨fd, found⟩ := (counted.listening port).mpr (.inl used)
    obtain ⟨fd2, found2⟩ := (counted.listening (port + 1)).mpr
      (.inr (by rwa [add_sub_cancel_right]))
    have stillFound : (state.ports.release port fd).portFd.lookup (port + 1) =
        some fd2 := by
      change (state.ports.portFd.erase port).lookup (port + 1) = some fd2
      rw [Table.lookup_erase, if_neg (by omega), found2]
    have first : state.Moves ⟨state.kernel.close fd,
        (state.ports.setListener port 0).release port fd⟩ :=
      .of_release found rfl
    have second := first.trans (.of_release stillFound rfl)
    rw [RtcpWorker.removeSocket_last (by omega) found found2,
      RtcpWorker.removeSocket_shared 0 (by simp) zero_ne_one]
    exact second.trans (.of_same rfl rfl)
  · rw [RtcpWorker.removeSocket_shared _ count (by omega),
      RtcpWorker.removeSocket_shared (sources port + 1)
        (by simpa using count2) (by omega)]
    exact .of_same rfl rfl

namespace RtcpStep

variable {os : Os} {runtime next : Runtime} {event : WorkerEvent}
  {output : WorkerOutput} {registry : Registry} {clean : Int → Prop}

theorem moves (step : RtcpStep os runtime next event output)
    (holds : RtcpHolds clean runtime registry)
    (registered : event.Registered registry) :
    runtime.sockets.Moves next.sockets := by
  cases step with
  | rejected routed sockets lists routes =>
      rw [sockets]
      exact .refl _
  | refused free free2 failed sockets lists routes =>
      rw [sockets]
      exact RtcpWorker.addSocketPair_moves os _ _
  | added free free2 opened sockets lists routes =>
      rw [sockets]
      exact RtcpWorker.addSocketPair_moves os _ _
  | @removed srcId list list2 found found2 sockets lists routes =>
      obtain ⟨registration, known⟩ := Option.isSome_iff_exists.mp registered
      obtain ⟨stored, stored2, storedFound, storedFound2, rfl, next2⟩ :=
        holds.paired.registered known
      rw [found] at storedFound
      rw [found2] at storedFound2
      cases storedFound
      cases storedFound2
      have port2 : list2.getSourcePort = list.getSourcePort + 1 := by
        rw [StreamList.getSourcePort_eq, next2,
          Registration.next_port (holds.ports srcId _ known).high]
        rfl
      rw [sockets, port2]
      exact holds.counted.remove_moves (Registry.onPort_of_lookup known)
  | keptDestination list found rejected read =>
      rw [read.streamsOnly.sockets]
      exact .refl _
  | addedDestination list list2 changed =>
      rw [changed.streamsOnly.sockets]
      exact .refl _
  | missedDestination list found missing read =>
      rw [read.streamsOnly.sockets]
      exact .refl _
  | removedDestination list list2 changed =>
      rw [changed.streamsOnly.sockets]
      exact .refl _
  | packet noted => exact noted.moves
  | elapsed elapse =>
      subst elapse
      exact .of_same rfl rfl

theorem onePerPort (step : RtcpStep os runtime next event output)
    (exclusive : os.Exclusive) (rtcp : runtime.worker.kind = .rtcp)
    (bindable : event.Bindable runtime.worker.kind)
    (unique : runtime.kernel.OnePerPort) : next.kernel.OnePerPort := by
  cases step with
  | rejected routed sockets lists routes =>
      exact Runtime.onePerPort_of_sockets sockets unique
  | refused free free2 failed sockets lists routes =>
      exact Runtime.onePerPort_of_sockets sockets
        (RtcpWorker.addSocketPair_onePerPort exclusive unique bindable.1
          (bindable.2 rtcp).1 (bindable.2 rtcp).2)
  | added free free2 opened sockets lists routes =>
      exact Runtime.onePerPort_of_sockets sockets
        (RtcpWorker.addSocketPair_onePerPort exclusive unique bindable.1
          (bindable.2 rtcp).1 (bindable.2 rtcp).2)
  | removed list list2 found found2 sockets lists routes =>
      exact Runtime.onePerPort_of_sockets sockets
        (RtcpWorker.removeSocket_onePerPort
          (RtcpWorker.removeSocket_onePerPort unique _) _)
  | keptDestination list found rejected read =>
      exact Runtime.onePerPort_of_sockets read.streamsOnly.sockets unique
  | addedDestination list list2 changed =>
      exact Runtime.onePerPort_of_sockets changed.streamsOnly.sockets unique
  | missedDestination list found missing read =>
      exact Runtime.onePerPort_of_sockets read.streamsOnly.sockets unique
  | removedDestination list list2 changed =>
      exact Runtime.onePerPort_of_sockets changed.streamsOnly.sockets unique
  | packet noted =>
      rw [noted.kernel]
      exact unique
  | elapsed elapse =>
      subst elapse
      exact unique

end RtcpStep

theorem Runtime.step_onePerPort {os : Os} (exclusive : os.Exclusive)
    {runtime next : Runtime} {event : WorkerEvent} {output : WorkerOutput}
    (bindable : event.Bindable runtime.worker.kind)
    (stepped : runtime.step os event = .ok (next, output))
    (unique : runtime.kernel.OnePerPort) : next.kernel.OnePerPort := by
  rcases eq_or_ne runtime.worker.kind .rtcp with rtcp | plain
  · exact (RtcpStep.of_step rtcp stepped).onePerPort exclusive rtcp bindable
      unique
  · exact (PlainStep.of_step plain stepped).onePerPort exclusive bindable
      unique

end StrManager
