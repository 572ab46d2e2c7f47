import StrManager.Rtcp.Lists
import StrManager.Worker.Statistics

namespace StrManager

open Library Function

/-! The time stamps of the lists of a worker, and what writes them. -/

def Worker.stamp (worker : Worker) (listId : Int) : Option Int :=
  (worker.streams.lists listId).bind StreamList.timeStamp

def Runtime.stamped (runtime : Runtime) (fd : Int) (received : Received) :
    Option Int :=
  if runtime.worker.kind ≠ .stats ∧ 0 < received.rlen.toNat then
    (runtime.worker.lookedUp fd received).map fun _ =>
      runtime.worker.routed ⟨0, fd, received⟩
  else none

namespace Worker

theorem stamp_congr {worker after : Worker}
    (lists : after.streams.lists = worker.streams.lists) :
    after.stamp = worker.stamp := by
  funext listId
  simp only [stamp, lists]

theorem stamp_update {worker after : Worker} {listId : Int}
    {list : Option StreamList}
    (lists : after.streams.lists = update worker.streams.lists listId list) :
    after.stamp =
      update worker.stamp listId (list.bind StreamList.timeStamp) := by
  funext other
  simp only [stamp, lists, update_apply]
  split <;> rfl

theorem stamp_same {worker after : Worker} {listId : Int}
    {list replaced : StreamList}
    (lists : after.streams.lists =
      update worker.streams.lists listId (some replaced))
    (found : worker.streams.lists listId = some list)
    (same : replaced.timeStamp = list.timeStamp) :
    after.stamp = worker.stamp := by
  have current : worker.stamp listId = replaced.timeStamp := by
    rw [stamp, found, same]
    rfl
  rw [stamp_update lists, Option.bind_some, ← current, update_eq_self]

end Worker

theorem RtcpWorker.PairStep.stamp {runtime next : Runtime} {srcId : Int}
    {before before2 after after2 : StreamList}
    (changed : PairStep runtime next srcId before before2 after after2)
    (same : after.timeStamp = before.timeStamp)
    (same2 : after2.timeStamp = before2.timeStamp) :
    next.worker.stamp = runtime.worker.stamp := by
  funext listId
  simp only [Worker.stamp, changed.lists, update_apply]
  split
  · rename_i second
    rw [second, changed.found2, Option.bind_some, Option.bind_some, same2]
  · split
    · rename_i first
      rw [first, changed.found, Option.bind_some, Option.bind_some, same]
    · rfl

theorem StreamList.addDestination_timeStamp (list : StreamList)
    (destination : UdpStream) :
    (list.addDestination destination).2.timeStamp = list.timeStamp := by
  unfold addDestination
  split <;> rfl

namespace Runtime

variable {os : Os} {runtime next : Runtime}

theorem process_stamp_stats (stats : runtime.worker.kind = .stats) (fd : Int)
    (received : Received) :
    (runtime.process fd received).1.worker.stamp = runtime.worker.stamp := by
  have process : runtime.process fd received =
      Worker.processWith StatsWorker.notes runtime fd received := by
    rw [process_eq, stats]
    rfl
  rw [process]
  unfold Worker.processWith
  split
  · simp only [StreamTables.getStreamListBySocket_fst]
    split
    · exact Worker.stamp_congr (StreamTables.lists_getStreamListBySocket _ _)
    · rename_i list found
      split
      · exact Worker.stamp_congr (StreamTables.lists_getStreamListBySocket _ _)
      · rename_i noted notes
        obtain ⟨counters, -, rfl⟩ := Option.map_eq_some_iff.mp notes
        exact Worker.stamp_same ((StreamTables.lists_modifyList _ _ _).trans
          (congrArg (update · _ _)
            (StreamTables.lists_getStreamListBySocket _ _))) found rfl
  · rfl

theorem process_stamp (runtime : Runtime) (fd : Int) (received : Received) :
    (runtime.process fd received).1.worker.stamp =
      match runtime.stamped fd received with
      | none => runtime.worker.stamp
      | some listId =>
          update runtime.worker.stamp listId (some runtime.kernel.clock) := by
  rcases eq_or_ne runtime.worker.kind .stats with stats | other
  · simp [stamped, stats, process_stamp_stats stats]
  by_cases content : 0 < received.rlen.toNat
  · cases found : runtime.worker.lookedUp fd received with
    | none =>
        have lists : (runtime.process fd received).1.worker.streams.lists =
            runtime.worker.streams.lists := (process_missed content found).2.1
        simp [stamped, found, Worker.stamp_congr lists]
    | some list =>
        have notes : runtime.worker.kind.notes.note runtime.kernel.clock
            received.rlen list =
              some (list.updateTimeStamp runtime.kernel.clock) := by
          rw [WorkerKind.notes_of_ne_stats other]
          rfl
        have lists : (runtime.process fd received).1.worker.streams.lists =
            update runtime.worker.streams.lists
              (runtime.worker.routed ⟨0, fd, received⟩)
              (some (list.updateTimeStamp runtime.kernel.clock)) :=
          (process_found content found notes).2.1
        simp [stamped, found, other, content, Worker.stamp_update lists,
          StreamList.updateTimeStamp]
  · have dropped : runtime.process fd received = (runtime, []) := by
      rw [process_eq, Worker.processWith, if_neg content]
    simp [stamped, content, dropped]

/-! Calls. -/

theorem removeDestination_stamp {srcId destId : Int}
    (plain : runtime.worker.kind ≠ .rtcp)
    (called : runtime.removeDestination srcId destId = .ok next) :
    next.worker.stamp = runtime.worker.stamp := by
  rw [removeDestination_of_plain plain] at called
  obtain ⟨list, found, rfl | rfl⟩ := Worker.removeDestination_ok called
  · exact Worker.stamp_congr (StreamTables.lists_getStreamList _ _)
  · exact Worker.stamp_same
      ((StreamTables.lists_addStreamList _ _ (list.eraseFound _)).trans
        (congrArg (update · _ _) (StreamTables.lists_getStreamList _ _)))
      found rfl

theorem step_addDestination_stamp {srcId destId : Int} {ip : InAddr}
    {port : Int} {output : WorkerOutput}
    (stepped : runtime.step os (.addDestination srcId destId ip port) =
      .ok (next, output)) : next.worker.stamp = runtime.worker.stamp := by
  rcases eq_or_ne runtime.worker.kind .rtcp with rtcp | plain
  · cases RtcpStep.of_step rtcp stepped with
    | keptDestination list found rejected read =>
        exact Worker.stamp_congr read.lists
    | addedDestination list list2 changed =>
        exact changed.stamp (StreamList.addDestination_timeStamp _ _)
          (StreamList.addDestination_timeStamp _ _)
  · cases PlainStep.of_step plain stepped with
    | addedDestination list changed =>
        exact Worker.stamp_same changed.lists changed.found
          (StreamList.addDestination_timeStamp _ _)

theorem step_removeDestination_stamp {srcId destId : Int}
    {output : WorkerOutput}
    (stepped : runtime.step os (.removeDestination srcId destId) =
      .ok (next, output)) : next.worker.stamp = runtime.worker.stamp := by
  rcases eq_or_ne runtime.worker.kind .rtcp with rtcp | plain
  · cases RtcpStep.of_step rtcp stepped with
    | missedDestination list found missing read =>
        exact Worker.stamp_congr read.lists
    | removedDestination list list2 changed => exact changed.stamp rfl rfl
  · exact removeDestination_stamp plain (step_removeDestination stepped).2

theorem step_rejected_stamp {srcId : Int} {ip : InAddr} {port : Int}
    (stepped : runtime.step os (.addSource srcId ip port) =
      .ok (next, .added false)) : next.worker.stamp = runtime.worker.stamp := by
  rcases eq_or_ne runtime.worker.kind .rtcp with rtcp | plain
  · cases RtcpStep.of_step rtcp stepped with
    | rejected routed sockets lists routes => exact Worker.stamp_congr lists
    | refused free free2 failed sockets lists routes =>
        exact Worker.stamp_congr lists
  · cases PlainStep.of_step plain stepped with
    | rejected routed sockets lists routes => exact Worker.stamp_congr lists
    | refused free failed sockets lists routes =>
        exact Worker.stamp_congr lists

/-- A new source has a list without a packet; that of an RTCP worker takes the
place of the list after it as well. -/
theorem step_added_stamp {srcId listId : Int} {ip : InAddr} {port : Int}
    (stepped : runtime.step os (.addSource srcId ip port) =
      .ok (next, .added true)) (other : listId ≠ srcId) :
    next.worker.stamp listId =
      if runtime.worker.kind = .rtcp ∧ listId = srcId + 1 then none
      else runtime.worker.stamp listId := by
  rcases eq_or_ne runtime.worker.kind .rtcp with rtcp | plain
  · cases RtcpStep.of_step rtcp stepped with
    | added free free2 opened sockets lists routes =>
        simp only [Worker.stamp, lists, update_apply, rtcp, true_and, other,
          if_false]
        split <;> rfl
  · cases PlainStep.of_step plain stepped with
    | added list free opened sockets created lists routes =>
        simp only [Worker.stamp, lists, update_of_ne other, plain, false_and,
          if_false]

theorem removeSource_stamp {srcId listId : Int} {messages : List Message}
    (called : runtime.removeSource srcId = .ok (next, messages))
    (other : listId ≠ srcId) :
    next.worker.stamp listId =
      if runtime.worker.kind = .rtcp ∧ listId = srcId + 1 then none
      else runtime.worker.stamp listId := by
  have stepped := Runtime.step_of_removeSource .orderly called
  rcases eq_or_ne runtime.worker.kind .rtcp with rtcp | plain
  · cases RtcpStep.of_step rtcp stepped with
    | removed list list2 found found2 sockets lists routes =>
        simp only [Worker.stamp, lists, update_apply, rtcp, true_and, other,
          if_false]
        split <;> rfl
  · cases PlainStep.of_step plain stepped with
    | removed list found sockets lists routes =>
        simp only [Worker.stamp, lists, update_of_ne other, plain, false_and,
          if_false]

/-! The thread of a `StatsWorker`. -/

def ticks (runtime : Runtime) (listId : Int) : Bool :=
  (runtime.worker.streams.lists listId).any fun list =>
    (StatsStreamList.due runtime.kernel.clock list).isSome

theorem updateList_streamsOnly {listId : Int}
    (updated : StatsWorker.updateList runtime listId = .ok next) :
    runtime.StreamsOnly next := by
  unfold StatsWorker.updateList at updated
  split at updated
  · cases updated
    exact withStreams_streamsOnly runtime runtime.worker.streams
  · split at updated
    · cases updated
    · split at updated
      · cases updated
        exact withStreams_streamsOnly runtime _
      · cases updated
        exact withStreams_streamsOnly runtime runtime.worker.streams

theorem updateList_stamp {listId : Int}
    (updated : StatsWorker.updateList runtime listId = .ok next) :
    next.worker.stamp =
      if runtime.ticks listId then
        update runtime.worker.stamp listId (some runtime.kernel.clock)
      else runtime.worker.stamp := by
  unfold StatsWorker.updateList at updated
  cases found : runtime.worker.streams.lists listId with
  | none =>
      simp only [found] at updated
      cases updated
      simp [ticks, found]
  | some list =>
      cases counted : list.counters with
      | none =>
          simp only [found, counted] at updated
          cases updated
      | some counters =>
          cases waited : StatsStreamList.due runtime.kernel.clock list with
          | none =>
              simp only [found, counted, waited, Option.isSome_none,
                Bool.false_eq_true, if_false] at updated
              cases updated
              simp [ticks, found, waited]
          | some diff =>
              simp only [found, counted, waited, Option.isSome_some,
                if_true] at updated
              cases updated
              simp only [ticks, found, Option.any_some, waited,
                Option.isSome_some, if_true]
              refine (Worker.stamp_update
                (StreamTables.lists_modifyList _ _ _)).trans ?_
              simp [StatsStreamList.update, waited, StreamList.updateTimeStamp]

end Runtime

end StrManager
