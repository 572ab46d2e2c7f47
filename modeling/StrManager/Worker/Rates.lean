import StrManager.Worker.Accounting

namespace StrManager

open Library Function

/-! The counters of a statistics worker as the 32-bit integers they are, and
the rates computed from them. -/

theorem int32_eq_self_iff {value : Int} (nonneg : 0 ≤ value) :
    int32 value = value ↔ value < 2 ^ 31 := by
  unfold int32
  constructor
  · intro same
    have bound : value.bmod (2 ^ 32) < ((2 ^ 32 : Nat) + 1) / 2 :=
      Int.bmod_lt (by decide)
    rw [same] at bound
    omega
  · intro small
    exact Int.bmod_eq_of_le (by omega) (by omega)

def RateReport.Exact (report : RateReport) : Prop :=
  0 ≤ report.rate ∧ report.rate = report.bytes / report.divisor

theorem RateReport.exact_worker {bytes : Int} (nonneg : 0 ≤ bytes) :
    RateReport.Exact ⟨bytes, 1250, bytes.tdiv 1250⟩ := by
  have floor : bytes.tdiv 1250 = bytes / 1250 :=
    Int.tdiv_eq_ediv_of_nonneg nonneg
  refine ⟨?_, floor⟩
  simp only [floor]
  omega

theorem RateReport.exact_list {bytes diff : Int} (nonneg : 0 ≤ bytes)
    (late : 10 < diff) :
    RateReport.Exact ⟨bytes, 125 * diff, (bytes.tdiv 125).tdiv diff⟩ := by
  have kilobits : bytes.tdiv 125 = bytes / 125 :=
    Int.tdiv_eq_ediv_of_nonneg nonneg
  have positive : 0 ≤ bytes / 125 := by omega
  have floor : (bytes.tdiv 125).tdiv diff = bytes / (125 * diff) := by
    rw [kilobits, Int.tdiv_eq_ediv_of_nonneg positive,
      Int.ediv_ediv_of_nonneg (by decide)]
  refine ⟨?_, floor⟩
  simp only [floor]
  exact Int.ediv_nonneg nonneg (by omega)

/-- Every counter holds the bytes received since its last reset, and every
rate is exact. -/
structure StatsLedger.Exact (ledger : StatsLedger) (counters : Level → Int) :
    Prop where
  counters : ∀ level, (ledger.accounts level).Exact (counters level)
  reports : ∀ report ∈ ledger.reports, report.Exact

/-- A packet that is added to a counter leaves it below 2^31. -/
def StatsThreads.SumFits (state : StatsThreads) : StatsEvent → Prop
  | .receive fd sender bytes =>
      match state.packet with
      | none => StatsWorker.counts state.runtime.worker fd
          (.datagram sender bytes) = true →
        state.counters .worker + (bytes.take 2048).length < 2 ^ 31
      | some _ => True
  | .note =>
      match state.packet with
      | none => True
      | some packet =>
          state.counters (.list packet.listId) + packet.rlen.toNat < 2 ^ 31
  | .proceed | .elapse _ => True

instance (state : StatsThreads) (event : StatsEvent) :
    Decidable (state.SumFits event) :=
  match state, event with
  | ⟨_, none, _⟩, .receive _ _ _ => inferInstanceAs (Decidable (_ → _))
  | ⟨_, some _, _⟩, .note => inferInstanceAs (Decidable (_ < _))
  | ⟨_, some _, _⟩, .receive _ _ _ | ⟨_, none, _⟩, .note
  | _, .proceed | _, .elapse _ => isTrue trivial

theorem StatsThreads.Idle.sumFits {state : StatsThreads} {event : StatsEvent}
    (idle : state.Idle event) : state.SumFits event := by
  cases event with
  | receive fd sender bytes =>
      simp only [StatsThreads.SumFits]
      split
      · rename_i free
        intro counted
        rw [idle free] at counted
        cases counted
      · trivial
  | note =>
      simp only [StatsThreads.SumFits]
      rw [idle]
      trivial
  | proceed => trivial
  | elapse seconds => trivial

namespace StatsLedger

variable {ledger book : StatsLedger}

theorem record_nonneg (nonneg : ∀ level, 0 ≤ (ledger.accounts level).since)
    (output : StatsOutput) (level : Level) :
    0 ≤ ((ledger.record output).accounts level).since := by
  have booked (book : StatsLedger) (other : Level)
      (entry : Account Int → Account Int)
      (same : book.accounts = ledger.accounts)
      (kept : 0 ≤ (entry (ledger.accounts other)).since) :
      0 ≤ ((book.book other entry).accounts level).since := by
    rcases eq_or_ne level other with rfl | different
    · simpa [StatsLedger.book, same] using kept
    · simpa [StatsLedger.book, same, different] using nonneg level
  have added (other : Level) (amount : Nat) :
      0 ≤ ((ledger.accounts other).add amount).since :=
    add_nonneg (nonneg other) (Int.natCast_nonneg amount)
  cases output with
  | waited => exact nonneg level
  | counted rlen =>
      exact booked ledger .worker (·.add rlen) rfl (added .worker rlen)
  | noted listId rlen transmissions =>
      exact booked ledger (.list listId) (·.add rlen) rfl (added _ rlen)
  | totalled inputInfo inputRate =>
      exact booked (ledger.report .worker 1250 inputRate) .worker
        (·.collect inputInfo) rfl le_rfl
  | rated listId inputBytes diff actualRate =>
      exact booked (ledger.report (.list listId) (125 * diff) actualRate)
        (.list listId) (·.read inputBytes) rfl (nonneg (.list listId))
  | cleared listId =>
      exact booked ledger (.list listId) Account.reset rfl le_rfl

theorem Exact.book_iff {counters : Level → Int}
    (exact : ledger.Exact counters)
    (reports : ∀ report ∈ book.reports, report.Exact)
    (accounts : book.accounts = ledger.accounts) (level : Level)
    (entry : Account Int → Account Int) (value : Int) :
    (book.book level entry).Exact (update counters level value) ↔
      value = (entry (ledger.accounts level)).since := by
  rw [← Account.Exact, ← forall_update_iff exact.counters level
    (entry (ledger.accounts level)) value]
  constructor
  · intro after
    simpa only [StatsLedger.book, accounts] using after.counters
  · intro after
    refine ⟨?_, reports⟩
    simpa only [StatsLedger.book, accounts] using after

theorem Exact.report {counters : Level → Int} (exact : ledger.Exact counters)
    {level : Level} {divisor rate : Int}
    (reported : RateReport.Exact ⟨counters level, divisor, rate⟩) :
    ∀ report ∈ (ledger.report level divisor rate).reports, report.Exact := by
  intro report member
  rcases List.mem_append.mp member with earlier | latest
  · exact exact.reports report earlier
  · rw [List.mem_singleton.mp latest, ← exact.counters level]
    exact reported

end StatsLedger

theorem StatsStep.exact_iff {state next : StatsThreads} {event : StatsEvent}
    {output : StatsOutput} {ledger : StatsLedger}
    (step : StatsStep .int state next event output)
    (exact : ledger.Exact state.counters)
    (nonneg : ∀ level, 0 ≤ (ledger.accounts level).since) :
    (ledger.record output).Exact next.counters ↔ state.SumFits event := by
  have positive (level : Level) : 0 ≤ state.counters level := by
    rw [exact.counters]
    exact nonneg level
  have added (level : Level) (amount : Nat) :
      (ledger.book level (·.add amount)).Exact (update state.counters level
        (Store.int.keep (state.counters level + amount))) ↔
      state.counters level + amount < 2 ^ 31 := by
    rw [exact.book_iff exact.reports rfl,
      ← int32_eq_self_iff (add_nonneg (positive level)
        (Int.natCast_nonneg amount)), exact.counters level]
    rfl
  cases step with
  | waited idle counters =>
      rw [counters]
      exact iff_of_true exact idle.sumFits
  | @counted fd sender bytes free counted counters =>
      have condition : state.SumFits (.receive fd sender bytes) ↔
          state.counters .worker + (bytes.take 2048).length < 2 ^ 31 := by
        simp only [StatsThreads.SumFits, free]
        exact imp_iff_right counted
      rw [condition, counters]
      exact added .worker _
  | @noted packet transmissions pending counters =>
      have condition : state.SumFits .note ↔
          state.counters (.list packet.listId) + packet.rlen.toNat < 2 ^ 31 := by
        simp only [StatsThreads.SumFits, pending]
      rw [condition, counters]
      exact added (.list packet.listId) _
  | totalled asleep counters =>
      refine iff_of_true ?_ trivial
      rw [counters]
      have reports := exact.report
        (RateReport.exact_worker (positive .worker))
      exact (exact.book_iff reports rfl .worker
        (·.collect (state.counters .worker)) 0).mpr rfl
  | @rated listId diff rest visiting late counters =>
      refine iff_of_true ?_ trivial
      have reports := exact.report
        (RateReport.exact_list (positive (.list listId)) late)
      have after := (exact.book_iff reports rfl (.list listId)
        (·.read (state.counters (.list listId)))
        (state.counters (.list listId))).mpr (exact.counters (.list listId))
      rw [update_eq_self] at after
      rw [counters]
      exact after
  | @cleared listId rest resetting counters =>
      refine iff_of_true ?_ trivial
      rw [counters]
      exact (exact.book_iff exact.reports rfl (.list listId) _ 0).mpr rfl

/-- The counters and the rates are exact as long as no sum reaches 2^31, and
not one step longer. -/
theorem statistics_exact_iff {os : Os} {workerId : Int} {kernel : Kernel}
    {registered : Runtime}
    (registration : (workerMachine os).Run Observer.none
      (fun _ _ event => event.NoPacket)
      (Runtime.start .stats workerId kernel) registered ())
    {state : StatsThreads} {ledger : StatsLedger}
    (run : (statsMachine .int).Run statsLedger
      (fun state _ event => state.SumFits event)
      (.start registered) state ledger) :
    ledger.Exact state.counters ∧
      ∀ event next output, state.step .int event = .ok (next, output) →
        ((statsLedger.update ledger event output).Exact next.counters ↔
          state.SumFits event) := by
  have invariant : ledger.Exact state.counters ∧
      ∀ level, 0 ≤ (ledger.accounts level).since := by
    refine run.invariant (motive := fun state ledger =>
      ledger.Exact state.counters ∧
        ∀ level, 0 ≤ (ledger.accounts level).since) ?_ ?_
    · refine ⟨⟨?_, ?_⟩, fun level => le_rfl⟩
      · exact workerMachine_run_counters registration
      · intro report member
        cases member
    · rintro state next ledger event output ⟨exact, nonneg⟩ fits stepped
      exact ⟨((StatsStep.of_step stepped).exact_iff exact nonneg).mpr fits,
        StatsLedger.record_nonneg nonneg output⟩
  refine ⟨invariant.1, ?_⟩
  intro event next output stepped
  exact (StatsStep.of_step stepped).exact_iff invariant.1 invariant.2

theorem statistics_exact_tick :
    ∃ state ledger,
      (statsMachine .int).Run statsLedger (fun state _ event => state.SumFits event)
        (.start .oneSource) state ledger ∧
      ledger.reports.length = 2 ∧ ledger.Exact state.counters := by
  have run : (statsMachine .int).Run statsLedger
      (fun state _ event => state.SumFits event) (.start .oneSource) _ _ :=
    .of_replay [.receive 3 ⟨1, 9⟩ [7, 8], .note, .proceed, .elapse 20,
      .proceed, .proceed, .proceed, .receive 3 ⟨1, 9⟩ [9], .note] (by decide)
  exact ⟨_, _, run, by decide,
    (statistics_exact_iff Runtime.oneSource_registered run).1⟩

/-! A source that sends 2^31 bytes between two ticks. -/

def fullDatagram : List UInt8 := List.replicate 2048 0

theorem fullDatagram_length : (fullDatagram.take 2048).length = 2048 := by
  rw [fullDatagram, List.length_take, List.length_replicate, min_self]

structure Flooded (count : Nat) (state : StatsThreads) (ledger : StatsLedger) :
    Prop where
  free : state.packet = none
  found : ((state.runtime.worker.lookedUp 3
    (.datagram ⟨1, 9⟩ fullDatagram)).any fun list => list.counters.isSome) = true
  counter : state.counters .worker = 2048 * count
  since : (ledger.accounts .worker).since = 2048 * count

theorem Flooded.counts {count : Nat} {state : StatsThreads}
    {ledger : StatsLedger} (flooded : Flooded count state ledger) :
    StatsWorker.counts state.runtime.worker 3 (.datagram ⟨1, 9⟩ fullDatagram) =
      true := by
  rw [StatsWorker.counts, Received.rlen_datagram, fullDatagram_length,
    flooded.found]
  rfl

theorem flooded_start : Flooded 0 (.start .oneSource) statsLedger.initial where
  free := rfl
  found := rfl
  counter := rfl
  since := rfl

theorem Flooded.receive {count : Nat} {state : StatsThreads}
    {ledger : StatsLedger} (flooded : Flooded count state ledger) :
    ∃ runtime packet,
      (statsMachine .int).step state (.receive 3 ⟨1, 9⟩ fullDatagram) =
        .ok (⟨runtime, some packet, state.stage⟩, .counted 2048) ∧
      packet.rlen.toNat = 2048 ∧
      packet.listId = state.runtime.worker.routed
        ⟨0, 3, .datagram ⟨1, 9⟩ fullDatagram⟩ ∧
      runtime.worker.streams.lists = state.runtime.worker.streams.lists ∧
      runtime.worker.streams.routes = state.runtime.worker.streams.routes ∧
      runtime.worker.ports.fdPort.subscript 0 =
        state.runtime.worker.ports.fdPort.subscript 0 ∧
      runtime.worker.inputBytes = int32 (2048 * (count + 1 : Nat)) := by
  obtain ⟨runtime, transmissions, counted, lists, routes, fdPort, inputBytes⟩ :=
    StatsWorker.countPacket_counted .int flooded.counts
  have length : (Received.datagram ⟨1, 9⟩ fullDatagram).rlen.toNat = 2048 :=
    (Received.rlen_datagram ⟨1, 9⟩ fullDatagram).trans fullDatagram_length
  refine ⟨runtime, ⟨state.runtime.worker.routed
    ⟨0, 3, .datagram ⟨1, 9⟩ fullDatagram⟩,
    (Received.datagram ⟨1, 9⟩ fullDatagram).rlen, transmissions⟩, ?_, length,
    rfl, lists, routes, fdPort, ?_⟩
  · simp only [statsMachine, StatsThreads.step, flooded.free, counted, length]
  · have before : state.runtime.counters .worker = 2048 * count :=
      flooded.counter
    have sum : (2048 * count + (2048 : Nat) : Int) = 2048 * (count + 1 : Nat) := by
      omega
    refine inputBytes.trans ((Store.int_keep _).trans (congrArg int32 ?_))
    rw [length, before, sum]

theorem Flooded.succ {count : Nat} {state : StatsThreads}
    {ledger : StatsLedger} (flooded : Flooded count state ledger)
    (small : 2048 * (count + 1) < 2 ^ 31)
    (run : (statsMachine .int).Run statsLedger (fun _ _ _ => True)
      (.start .oneSource) state ledger) :
    ∃ next after, Flooded (count + 1) next after ∧
      (statsMachine .int).Run statsLedger (fun _ _ _ => True)
        (.start .oneSource) next after := by
  let received : Received := .datagram ⟨1, 9⟩ fullDatagram
  obtain ⟨runtime, packet, receives, -, routed, lists, routes, fdPort,
    inputBytes⟩ := flooded.receive
  obtain ⟨list, found, accepted⟩ := (Option.any_eq_true _ _).mp flooded.found
  obtain ⟨counters, bytes⟩ := Option.isSome_iff_exists.mp accepted
  have present : runtime.worker.streams.lists packet.listId = some list := by
    rw [lists, routed]
    exact found
  obtain ⟨noted, kept, -, result⟩ :=
    StatsWorker.notePacket_eq .int present bytes
  let after := runtime.withStreams
    (runtime.worker.streams.modifyList packet.listId noted)
  have notes : (statsMachine .int).step
      ⟨runtime, some packet, state.stage⟩ .note =
      .ok (⟨after, none, state.stage⟩,
        .noted packet.listId packet.rlen.toNat packet.transmissions) := by
    simp only [statsMachine, StatsThreads.step, result, bind, Except.bind, pure,
      Except.pure, after]
  have processed := (run.step trivial receives).step trivial notes
  refine ⟨_, _, ⟨rfl, ?_, ?_, ?_⟩, processed⟩
  · have sameAddr : after.worker.lookupAddr 3 received =
        state.runtime.worker.lookupAddr 3 received := by
      unfold Worker.lookupAddr
      exact congrArg (SockAddr.ofPort _ <| · 3) fdPort
    have stored : after.worker.lookedUp 3 received = some noted := by
      unfold Worker.lookedUp Worker.routed
      rw [sameAddr]
      change (StreamTables.modifyList _ _ _).lists
        (StreamTables.routes (StreamTables.modifyList _ _ _) _) = _
      rw [StreamTables.lists_modifyList, StreamTables.routes_modifyList, routes,
        routed]
      exact update_self _ _ _
    change Option.any _ (after.worker.lookedUp 3 received) = true
    rw [stored]
    exact kept
  · refine inputBytes.trans ?_
    exact (int32_eq_self_iff (by omega)).mpr (by omega)
  · have sum : (ledger.accounts .worker).since + 2048 =
        2048 * (count + 1 : Nat) := by
      rw [flooded.since]
      omega
    rw [← sum]
    simp [statsLedger, StatsLedger.record, StatsLedger.book, Account.add]

theorem flooded_reachable {count : Nat} (small : 2048 * count < 2 ^ 31) :
    ∃ state ledger, Flooded count state ledger ∧
      (statsMachine .int).Run statsLedger (fun _ _ _ => True)
        (.start .oneSource) state ledger := by
  induction count with
  | zero => exact ⟨_, _, flooded_start, .start⟩
  | succ count ih =>
      obtain ⟨state, ledger, flooded, run⟩ := ih (by omega)
      exact flooded.succ small run

/-- With its 1048576th full datagram since the last tick the worker has
received 2^31 bytes, and its counter holds -2^31. -/
theorem statistics_exact_wraps :
    ∃ state ledger,
      (statsMachine .int).Run statsLedger (fun _ _ _ => True)
        (.start .oneSource) state ledger ∧
      (ledger.accounts .worker).since = 2 ^ 31 ∧
      state.counters .worker = - 2 ^ 31 ∧ ¬ ledger.Exact state.counters := by
  have small : 2048 * (2 ^ 20 - 1) < 2 ^ 31 := by decide
  obtain ⟨state, ledger, flooded, run⟩ := flooded_reachable small
  obtain ⟨runtime, packet, receives, -, -, -, -, -, inputBytes⟩ :=
    flooded.receive
  have full : runtime.counters .worker = - 2 ^ 31 := by
    refine inputBytes.trans ?_
    decide
  have received : ((ledger.record (.counted 2048)).accounts .worker).since =
      2 ^ 31 := by
    simp [StatsLedger.record, StatsLedger.book, Account.add, flooded.since]
  refine ⟨_, _, run.step trivial receives, received, full, ?_⟩
  intro exact
  have same : runtime.counters .worker = _ := exact.counters .worker
  rw [full] at same
  exact absurd (same.trans received) (by decide)

end StrManager
