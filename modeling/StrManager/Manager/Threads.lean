import StrManager.Manager.Answers
import StrManager.Worker.Select

namespace StrManager

open Library Function

/-! The manager with the threads of its workers. `Worker::run` takes no lock,
so that calls, the handler and other threads come in at every stage of a turn of
its loop. -/

inductive ThreadStage where
  | test
  | build
  | select (built : Selection)
  /-- `check_select_list`, with the descriptors that are still to be tested. -/
  | check (ready : FdSet) (rest : List Int)
  | ended

namespace ThreadStage

def checks : ThreadStage → Bool
  | .check _ _ => true
  | .test | .build | .select _ | .ended => false

end ThreadStage

inductive ThreadOutput where
  | passed
  | built (selection : Selection)
  | began
  | served (fd : Int) (sent : List Transmission)

inductive ThreadedFault where
  | manager (fault : Fault)
  /-- A descriptor has no place in an `fd_set`. -/
  | overflow

/-- One stage of `Worker::run`. The stages ask `select` and `recvfrom` at most
once. -/
def Manager.threadStep (manager : Manager) (worker : Nat)
    (select : Int → FdSet → FdSet) (received : Received) :
    ThreadStage → Except ThreadedFault (Manager × ThreadStage × ThreadOutput)
  | .test =>
      if (manager.workers worker).working then .ok (manager, .build, .passed)
      else .ok (manager, .ended, .passed)
  | .build =>
      if 0 < (manager.workers worker).ports.portFd.size then
        match (manager.workers worker).buildSelectList with
        | none => .error .overflow
        | some built => .ok (manager, .select built, .built built)
      else .ok (manager, .test, .passed)
  | .select built =>
      let ready := select (built.highsock + 1) built.fdset
      if 0 < ready.card then
        .ok (manager, .check ready (manager.workers worker).fds, .began)
      else .ok (manager.selectTimeout worker, .test, .passed)
  | .check ready (fd :: rest) =>
      match ready.isSet fd with
      | none => .error .overflow
      | some true =>
          let (runtime, sent) := (manager.runtime worker).process fd received
          .ok (manager.put worker runtime, .check ready rest, .served fd sent)
      | some false => .ok (manager, .check ready rest, .passed)
  | .check _ [] => .ok (manager, .test, .passed)
  | .ended => .ok (manager, .ended, .passed)

inductive ThreadMove (manager : Manager) (worker : Nat)
    (select : Int → FdSet → FdSet) (received : Received) :
    ThreadStage → Manager → ThreadStage → ThreadOutput → Prop
  | tested : ThreadMove manager worker select received
      .test manager .build .passed
  | ended {stage : ThreadStage} : ThreadMove manager worker select received
      stage manager .ended .passed
  | repeated {stage : ThreadStage} : ThreadMove manager worker select received
      stage manager .test .passed
  | built (built : Selection)
      (builds : (manager.workers worker).buildSelectList = some built) :
      ThreadMove manager worker select received
        .build manager (.select built) (.built built)
  | began (built : Selection) : ThreadMove manager worker select received
      (.select built) manager (.check (select (built.highsock + 1) built.fdset)
        (manager.workers worker).fds) .began
  | timedOut (built : Selection) : ThreadMove manager worker select received
      (.select built) (manager.selectTimeout worker) .test .passed
  | served (ready : FdSet) (fd : Int) (rest : List Int) (isReady : ready.Has fd) :
      ThreadMove manager worker select received (.check ready (fd :: rest))
        (manager.put worker ((manager.runtime worker).process fd received).1)
        (.check ready rest)
        (.served fd ((manager.runtime worker).process fd received).2)
  | skipped (ready : FdSet) (fd : Int) (rest : List Int)
      (unready : ¬ ready.Has fd) :
      ThreadMove manager worker select received (.check ready (fd :: rest))
        manager (.check ready rest) .passed

theorem ThreadMove.of_threadStep {manager next : Manager} {worker : Nat}
    {select : Int → FdSet → FdSet} {received : Received}
    {stage after : ThreadStage} {output : ThreadOutput}
    (stepped : manager.threadStep worker select received stage =
      .ok (next, after, output)) :
    ThreadMove manager worker select received stage next after output := by
  cases stage with
  | test =>
      simp only [Manager.threadStep] at stepped
      split at stepped
      · cases stepped
        exact .tested
      · cases stepped
        exact .ended
  | build =>
      simp only [Manager.threadStep] at stepped
      split at stepped
      · cases builds : (manager.workers worker).buildSelectList with
        | none =>
            rw [builds] at stepped
            cases stepped
        | some built =>
            rw [builds] at stepped
            cases stepped
            exact .built built builds
      · cases stepped
        exact .repeated
  | select built =>
      simp only [Manager.threadStep] at stepped
      split at stepped
      · cases stepped
        exact .began built
      · cases stepped
        exact .timedOut built
  | check ready remaining =>
      cases remaining with
      | nil =>
          cases stepped
          exact .repeated
      | cons fd rest =>
          cases tested : ready.isSet fd with
          | none => simp [Manager.threadStep, tested] at stepped
          | some isReady =>
              cases isReady with
              | true =>
                  simp only [Manager.threadStep, tested] at stepped
                  cases stepped
                  exact .served ready fd rest tested
              | false =>
                  simp only [Manager.threadStep, tested] at stepped
                  cases stepped
                  refine .skipped ready fd rest ?_
                  unfold FdSet.Has
                  rw [tested]
                  simp
  | ended =>
      cases stepped
      exact .ended

namespace Manager

theorem put_self (manager : Manager) (worker : Nat) :
    manager.put worker (manager.runtime worker) = manager := by
  unfold put runtime
  rw [update_eq_self]

theorem put_put (manager : Manager) (worker : Nat) (first second : Runtime) :
    (manager.put worker first).put worker second =
      manager.put worker second := by
  unfold put
  simp only [update_idem]

theorem runtime_put (manager : Manager) (worker : Nat) (runtime : Runtime) :
    (manager.put worker runtime).runtime worker = runtime := by
  unfold Manager.runtime
  rw [put_workers, update_self]
  rfl

/-- The rest of a turn when nothing comes in between, with the calls of
`process`. The outcomes of `recvfrom` are numbered. -/
def finishTurn (worker : Nat) (select : Int → FdSet → FdSet)
    (receive : Nat → Received) :
    Nat → Manager → ThreadStage → List ProcessCall →
      Option (Manager × List ProcessCall)
  | 0, _, _, _ => none
  | fuel + 1, manager, stage, calls =>
      match manager.threadStep worker select (receive calls.length) stage with
      | .error _ => none
      | .ok (manager, .test, _) => some (manager, calls)
      | .ok (manager, stage, .served fd sent) =>
          finishTurn worker select receive fuel manager stage
            (calls ++ [(fd, sent)])
      | .ok (manager, stage, _) =>
          finishTurn worker select receive fuel manager stage calls

theorem finishTurn_check (manager : Manager) (worker : Nat)
    (select : Int → FdSet → FdSet) (receive : Nat → Received) (ready : FdSet)
    (rest : List Int) (calls : List ProcessCall) :
    finishTurn worker select receive (rest.length + 1) manager
        (.check ready rest) calls =
      (Runtime.serveEach ready receive rest (manager.runtime worker) calls).map
        fun result => (manager.put worker result.1, result.2) := by
  induction rest generalizing manager calls with
  | nil =>
      rw [Runtime.serveEach, Option.map_some, put_self]
      rfl
  | cons fd rest ih =>
      rw [List.length_cons, finishTurn, Runtime.serveEach]
      cases tested : ready.isSet fd with
      | none => simp [threadStep, tested]
      | some isReady =>
          cases isReady with
          | false =>
              simp only [threadStep, tested]
              exact ih manager calls
          | true =>
              simp only [threadStep, tested]
              rw [ih, runtime_put]
              simp only [put_put]
              rfl

/-- Without interruption the stages are a turn. -/
theorem finishTurn_eq_turn (manager : Manager) (worker : Nat)
    (select : Int → FdSet → FdSet) (receive : Nat → Received) :
    finishTurn worker select receive
        ((manager.workers worker).fds.length + 3) manager .build [] =
      ((manager.runtime worker).turn select receive).map
        fun (runtime, calls, messages) =>
          ({ manager.put worker runtime with
            queue := manager.queue ++ messages }, calls) := by
  have turned : (manager.runtime worker).worker = manager.workers worker := rfl
  by_cases listening : 0 < (manager.workers worker).ports.portFd.size
  · cases builds : (manager.workers worker).buildSelectList with
    | none =>
        simp [finishTurn, threadStep, Runtime.turn, turned, listening, builds]
    | some built =>
        have first : finishTurn worker select receive
            ((manager.workers worker).fds.length + 3) manager .build [] =
              finishTurn worker select receive
                ((manager.workers worker).fds.length + 2) manager
                (.select built) [] := by
          rw [finishTurn]
          simp only [threadStep, if_pos listening, builds]
        rw [first, finishTurn]
        by_cases found : 0 < (select (built.highsock + 1) built.fdset).card
        · simp only [threadStep, if_pos found]
          rw [finishTurn_check]
          simp only [Runtime.turn, turned, if_pos listening, builds,
            Runtime.checkSelectList, Option.bind_eq_bind, Option.bind_some,
            if_pos found]
          cases Runtime.serveEach (select (built.highsock + 1) built.fdset)
            receive (manager.workers worker).fds (manager.runtime worker) [] with
          | none => rfl
          | some result =>
              simp only [Option.map_some, Option.bind_some, Option.pure_def,
                List.append_nil]
              rfl
        · simp only [threadStep, if_neg found]
          simp only [Runtime.turn, turned, if_pos listening, builds,
            Option.bind_eq_bind, Option.bind_some, if_neg found,
            Option.pure_def, Option.map_some]
          rw [put_self]
          rfl
  · simp [finishTurn, threadStep, Runtime.turn, turned, listening, put_self]

end Manager

structure Threaded where
  manager : Manager
  stages : Nat → ThreadStage

/-- Packets and timeouts come from the loops. -/
def ManagerEvent.ofLoop : ManagerEvent → Bool
  | .packet _ _ _ | .selectTimeout _ => true
  | .addSource _ _ _ _ | .removeSource _ | .addDestination _ _ _ _
  | .removeDestination _ _ | .readTimeStamp _ | .handleMessage | .elapse _ =>
      false

inductive ThreadedEvent where
  | other (event : ManagerEvent) (apart : event.ofLoop = false)
  | thread (worker : Nat) (select : Int → FdSet → FdSet) (received : Received)

inductive ThreadedOutput where
  | answered (output : ManagerOutput)
  | moved (output : ThreadOutput)

namespace Threaded

def start (kernel : Kernel) : Threaded := ⟨.start kernel, fun _ => .test⟩

def step (os : Os) (maxWorkers : Int) (state : Threaded) :
    ThreadedEvent → Except ThreadedFault (Threaded × ThreadedOutput)
  | .other event _ =>
      match state.manager.step os maxWorkers event with
      | .error fault => .error (.manager fault)
      | .ok (manager, output) =>
          .ok ({ state with manager := manager }, .answered output)
  | .thread worker select received =>
      match state.manager.threadStep worker select received
        (state.stages worker) with
      | .error fault => .error fault
      | .ok (manager, stage, output) =>
          .ok (⟨manager, update state.stages worker stage⟩, .moved output)

end Threaded

def threadedMachine (os : Os) (maxWorkers : Int) :
    Machine Threaded ThreadedEvent ThreadedOutput ThreadedFault where
  step := Threaded.step os maxWorkers

/-- A step carries out a call or moves one thread. -/
inductive ThreadedStep (os : Os) (maxWorkers : Int) (state : Threaded) :
    Threaded → ThreadedEvent → ThreadedOutput → Prop
  | answered {event : ManagerEvent} {apart : event.ofLoop = false}
      {manager : Manager} {output : ManagerOutput}
      (stepped : state.manager.step os maxWorkers event = .ok (manager, output)) :
      ThreadedStep os maxWorkers state { state with manager := manager }
        (.other event apart) (.answered output)
  | moved {worker : Nat} {select : Int → FdSet → FdSet} {received : Received}
      {manager : Manager} {after : ThreadStage} {output : ThreadOutput}
      (move : ThreadMove state.manager worker select received
        (state.stages worker) manager after output) :
      ThreadedStep os maxWorkers state
        ⟨manager, update state.stages worker after⟩
        (.thread worker select received) (.moved output)

theorem ThreadedStep.of_step {os : Os} {maxWorkers : Int}
    {state next : Threaded} {event : ThreadedEvent} {output : ThreadedOutput}
    (stepped : state.step os maxWorkers event = .ok (next, output)) :
    ThreadedStep os maxWorkers state next event output := by
  cases event with
  | other event apart =>
      cases answered : state.manager.step os maxWorkers event with
      | error fault =>
          simp only [Threaded.step, answered] at stepped
          cases stepped
      | ok result =>
          simp only [Threaded.step, answered] at stepped
          cases stepped
          exact .answered answered
  | thread worker select received =>
      cases moved : state.manager.threadStep worker select received
        (state.stages worker) with
      | error fault =>
          simp only [Threaded.step, moved] at stepped
          cases stepped
      | ok result =>
          simp only [Threaded.step, moved] at stepped
          cases stepped
          exact .moved (.of_threadStep moved)

namespace Threaded

/-- No port of a worker opens or closes while its thread iterates over the
table of its ports. -/
def Undisturbed (state : Threaded) :
    Except Fault (Manager × ManagerOutput) → Prop
  | .error _ => True
  | .ok (next, _) => ∀ worker < state.manager.allocated,
      (state.stages worker).checks = true →
        (next.workers worker).ports.portFd.entries =
          (state.manager.workers worker).ports.portFd.entries

instance (state : Threaded) (result : Except Fault (Manager × ManagerOutput)) :
    Decidable (state.Undisturbed result) :=
  match result with
  | .error _ => isTrue trivial
  | .ok (_, _) => inferInstanceAs (Decidable (∀ worker < _, _ → _ = _))

end Threaded

/-- The reflector after the calls, and what each thread has served since its
`check_select_list` began. -/
structure ThreadRecord where
  reflector : Reflector
  served : Nat → List Int

def ThreadRecord.observer :
    Observer ThreadedEvent ThreadedOutput ThreadRecord where
  initial := ⟨Reflector.observer.initial, fun _ => []⟩
  update record event output :=
    match event, output with
    | .other event _, .answered output =>
        { record with reflector := record.reflector.record event output }
    | .thread worker _ _, .moved .began =>
        { record with served := update record.served worker [] }
    | .thread worker _ _, .moved (.served fd _) =>
        { record with
          served := update record.served worker (record.served worker ++ [fd]) }
    | _, _ => record

/-- The calls fit the reflector, and a thread runs for a worker that was
launched and whose descriptors have a place in the set. -/
def ThreadedUse (os : Os) (maxWorkers : Int) (state : Threaded)
    (record : ThreadRecord) : ThreadedEvent → Prop
  | .other event _ =>
      event.Fits record.reflector ∧
        state.Undisturbed (state.manager.step os maxWorkers event)
  | .thread worker _ _ =>
      worker < state.manager.allocated ∧
        ∀ fd ∈ (state.manager.workers worker).fds, FdSet.Inside fd

instance (os : Os) (maxWorkers : Int) (state : Threaded) (record : ThreadRecord)
    (event : ThreadedEvent) :
    Decidable (ThreadedUse os maxWorkers state record event) :=
  match event with
  | .other _ _ => inferInstanceAs (Decidable (_ ∧ _))
  | .thread worker _ _ => inferInstanceAs (Decidable (_ ∧
      ∀ fd ∈ (state.manager.workers worker).fds, FdSet.Inside fd))

/-- The threads belong to workers that were launched, and each of them has
served what was ready of the descriptors it has tested. -/
structure Threaded.Tracked (state : Threaded) (served : Nat → List Int) :
    Prop where
  launched : ∀ worker, state.stages worker ≠ .test →
    worker < state.manager.allocated
  tested : ∀ worker ready rest, state.stages worker = .check ready rest →
    ∃ before, (state.manager.workers worker).fds = before ++ rest ∧
      served worker = before.filter fun fd => ready.Has fd

namespace Threaded.Tracked

variable {os : Os} {maxWorkers : Int} {state : Threaded}
  {served : Nat → List Int} {next : Manager}

theorem start (kernel : Kernel) (served : Nat → List Int) :
    (Threaded.start kernel).Tracked served where
  launched := by
    intro worker moved
    exact absurd rfl moved
  tested := by
    intro worker ready rest stage
    cases stage

theorem called (tracked : state.Tracked served) {event : ManagerEvent}
    {output : ManagerOutput}
    (undisturbed : state.Undisturbed (state.manager.step os maxWorkers event))
    (stepped : state.manager.step os maxWorkers event = .ok (next, output)) :
    Tracked { state with manager := next } served := by
  have keeps : state.manager.Keeps next := (ManagerStep.of_step stepped).keeps
  rw [stepped] at undisturbed
  constructor
  · intro worker moved
    exact (tracked.launched worker moved).trans_le keeps.allocated
  · intro worker ready rest stage
    obtain ⟨before, fds, noted⟩ := tracked.tested worker ready rest stage
    have launched := tracked.launched worker (by
      rw [stage]
      exact ThreadStage.noConfusion)
    have same := undisturbed worker launched (by
      rw [stage]
      rfl)
    refine ⟨before, ?_, noted⟩
    rw [← fds]
    exact congrArg (List.map Sigma.snd) same

theorem moved (tracked : state.Tracked served) {worker : Nat}
    {stage : ThreadStage} {noted : List Int}
    (launched : worker < state.manager.allocated)
    (allocated : next.allocated = state.manager.allocated)
    (ports : ∀ other, (next.workers other).ports.portFd =
      (state.manager.workers other).ports.portFd)
    (tested : ∀ ready rest, stage = .check ready rest →
      ∃ before, (state.manager.workers worker).fds = before ++ rest ∧
        noted = before.filter fun fd => ready.Has fd) :
    Tracked ⟨next, update state.stages worker stage⟩
      (update served worker noted) := by
  have fds (other : Nat) : (next.workers other).fds =
      (state.manager.workers other).fds := by
    unfold Worker.fds
    rw [ports]
  constructor
  · intro other moved
    change other < next.allocated
    rw [allocated]
    rcases eq_or_ne other worker with rfl | different
    · exact launched
    · apply tracked.launched
      change update _ _ _ other ≠ _ at moved
      rwa [update_of_ne different] at moved
  · intro other ready rest reached
    change update _ _ _ other = _ at reached
    change ∃ before, (next.workers other).fds = _ ∧ _
    rw [fds]
    rcases eq_or_ne other worker with rfl | different
    · rw [update_self] at reached
      rw [update_self]
      exact tested ready rest reached
    · rw [update_of_ne different] at reached
      rw [update_of_ne different]
      exact tracked.tested other ready rest reached

end Threaded.Tracked

theorem Manager.put_process_portFd (manager : Manager) (worker : Nat) (fd : Int)
    (received : Received) (other : Nat) :
    ((manager.put worker ((manager.runtime worker).process fd
      received).1).workers other).ports.portFd =
        (manager.workers other).ports.portFd := by
  rw [put_workers]
  rcases eq_or_ne other worker with rfl | different
  · rw [update_self]
    exact ((manager.runtime other).process_step fd received).portFd
  · rw [update_of_ne different]

theorem ThreadMove.tracked {state : Threaded} {record : ThreadRecord}
    {worker : Nat} {select : Int → FdSet → FdSet} {received : Received}
    {next : Manager} {after : ThreadStage} {output : ThreadOutput}
    (move : ThreadMove state.manager worker select received
      (state.stages worker) next after output)
    (launched : worker < state.manager.allocated)
    (tracked : state.Tracked record.served) :
    Threaded.Tracked ⟨next, update state.stages worker after⟩
      (ThreadRecord.observer.update record (.thread worker select received)
        (.moved output)).served := by
  -- A thread that serves nothing leaves the notes as they are.
  have quiet {next : Manager} {after : ThreadStage}
      (allocated : next.allocated = state.manager.allocated)
      (workers : next.workers = state.manager.workers)
      (tested : ∀ ready rest, after = .check ready rest →
        ∃ before, (state.manager.workers worker).fds = before ++ rest ∧
          record.served worker = before.filter fun fd => ready.Has fd) :
      Threaded.Tracked ⟨next, update state.stages worker after⟩
        record.served := by
    have moved := tracked.moved launched allocated
      (fun other => by rw [workers]) tested
    rwa [update_eq_self] at moved
  generalize reached : state.stages worker = stage at move
  cases move with
  | tested => exact quiet rfl rfl nofun
  | ended => exact quiet rfl rfl nofun
  | repeated => exact quiet rfl rfl nofun
  | built built builds => exact quiet rfl rfl nofun
  | timedOut built => exact quiet rfl rfl nofun
  | began built =>
      refine tracked.moved launched rfl (fun _ => rfl) ?_
      intro ready rest begun
      cases begun
      exact ⟨[], rfl, rfl⟩
  | served ready fd rest isReady =>
      obtain ⟨before, fds, noted⟩ := tracked.tested worker _ _ reached
      refine tracked.moved launched rfl
        (state.manager.put_process_portFd worker fd received) ?_
      intro ready2 rest2 same
      cases same
      refine ⟨before ++ [fd], by rw [fds, List.append_cons], ?_⟩
      rw [noted, List.filter_append]
      simp [isReady]
  | skipped ready fd rest unready =>
      obtain ⟨before, fds, noted⟩ := tracked.tested worker _ _ reached
      refine quiet rfl rfl ?_
      intro ready2 rest2 same
      cases same
      refine ⟨before ++ [fd], by rw [fds, List.append_cons], ?_⟩
      rw [noted, List.filter_append]
      simp [unready]

section

variable {os : Os} {maxWorkers : Int} {kernel : Kernel} {state : Threaded}
  {record : ThreadRecord}

theorem threadedMachine_run_tracked
    (run : (threadedMachine os maxWorkers).Run ThreadRecord.observer
      (ThreadedUse os maxWorkers) (Threaded.start kernel) state record) :
    state.Tracked record.served := by
  refine run.invariant (motive := fun state record =>
    state.Tracked record.served) (.start kernel _) ?_
  intro state next record event output tracked allowed stepped
  have step : ThreadedStep os maxWorkers state next event output :=
    .of_step stepped
  cases step with
  | answered answered => exact tracked.called allowed.2 answered
  | moved move => exact move.tracked allowed.1 tracked

end

namespace ThreadRecord

/-- What is received goes where the reflector sends it, and the set a thread
builds has the descriptors of its worker. -/
def Reflects (record : ThreadRecord) (manager : Manager) :
    ThreadedEvent → ThreadedOutput → Prop
  | .other event _, .answered output =>
      record.reflector.Step manager.kernel event output
  | .thread worker _ received, .moved (.served fd sent) =>
      record.reflector.Step manager.kernel (.packet worker fd received)
        (.sent sent)
  | .thread worker _ _, .moved (.built built) =>
      ∀ fd, built.fdset.Has fd ↔ fd ∈ (manager.workers worker).fds
  | .thread _ _ _, .moved .passed | .thread _ _ _, .moved .began => True
  | .other _ _, .moved _ | .thread _ _ _, .answered _ => False

/-- A thread in `check_select_list` has served every ready descriptor that it
has tested, once, and no other. -/
def ServesOnce (record : ThreadRecord) (state : Threaded) : Prop :=
  ∀ worker ready rest, state.stages worker = .check ready rest →
    (record.served worker).Nodup ∧
      ∀ fd, fd ∈ record.served worker ↔
        ready.Has fd ∧ fd ∈ (state.manager.workers worker).fds ∧ fd ∉ rest

end ThreadRecord

theorem Threaded.Tracked.polls {state : Threaded} {served : Nat → List Int}
    (tracked : state.Tracked served) {worker : Nat} {ready : FdSet} {fd : Int}
    {rest : List Int}
    (reached : state.stages worker = .check ready (fd :: rest)) :
    (state.manager.workers worker).polls fd = true := by
  obtain ⟨before, fds, -⟩ := tracked.tested worker _ _ reached
  rw [Worker.polls_iff, ← Worker.mem_fds_iff, fds]
  simp

theorem Threaded.Tracked.servesOnce {state : Threaded} {record : ThreadRecord}
    (tracked : state.Tracked record.served)
    (once : ∀ worker, (state.manager.workers worker).fds.Nodup) :
    record.ServesOnce state := by
  intro worker ready rest reached
  obtain ⟨before, fds, served⟩ := tracked.tested worker ready rest reached
  have nodup := once worker
  rw [fds, List.nodup_append] at nodup
  obtain ⟨distinct, -, apart⟩ := nodup
  rw [served]
  refine ⟨distinct.filter _, ?_⟩
  intro fd
  rw [List.mem_filter, decide_eq_true_eq, fds, List.mem_append]
  constructor
  · intro both
    refine ⟨both.2, .inl both.1, ?_⟩
    intro later
    exact apart fd both.1 fd later rfl
  · intro all
    exact ⟨all.2.1.resolve_right all.2.2, all.1⟩

theorem Manager.Hosts.fds_nodup {manager : Manager}
    {registries : Nat → Registry} {reflector : Reflector}
    (hosts : manager.Hosts registries reflector) (worker : Nat) :
    (manager.workers worker).fds.Nodup := by
  have inverse := (hosts.serves worker).described.inverse
  apply Worker.fds_nodup
  intro port other fd found found2
  have first := (inverse port fd).mp found
  rw [(inverse other fd).mp found2] at first
  exact (Option.some.inj first).symm

theorem ManagerEvent.polled_of_apart {event : ManagerEvent} (manager : Manager)
    (apart : event.ofLoop = false) : event.Polled manager := by
  cases event with
  | packet worker fd received => cases apart
  | _ => trivial

theorem Manager.threadStep_ok {manager : Manager} {worker : Nat}
    (select : Int → FdSet → FdSet) (received : Received) (stage : ThreadStage)
    (inside : ∀ fd ∈ (manager.workers worker).fds, FdSet.Inside fd)
    (rested : ∀ ready fd rest, stage = .check ready (fd :: rest) →
      fd ∈ (manager.workers worker).fds) :
    ∃ next after output, manager.threadStep worker select received stage =
      .ok (next, after, output) := by
  cases stage with
  | test =>
      simp only [threadStep]
      split
      · exact ⟨_, _, _, rfl⟩
      · exact ⟨_, _, _, rfl⟩
  | build =>
      simp only [threadStep]
      split
      · obtain ⟨built, collected, -⟩ := Selection.setAll_spec inside ⟨∅, -1⟩
        simp only [Worker.buildSelectList, collected]
        exact ⟨_, _, _, rfl⟩
      · exact ⟨_, _, _, rfl⟩
  | select built =>
      simp only [threadStep]
      split
      · exact ⟨_, _, _, rfl⟩
      · exact ⟨_, _, _, rfl⟩
  | check ready remaining =>
      cases remaining with
      | nil => exact ⟨_, _, _, rfl⟩
      | cons fd rest =>
          have tested := ready.isSet_eq (inside fd (rested ready fd rest rfl))
          cases isReady : decide (ready.Has fd) with
          | true =>
              simp only [threadStep, tested, isReady]
              exact ⟨_, _, _, rfl⟩
          | false =>
              simp only [threadStep, tested, isReady]
              exact ⟨_, _, _, rfl⟩
  | ended => exact ⟨_, _, _, rfl⟩

theorem Worker.buildSelectList_has {worker : Worker} {built : Selection}
    (builds : worker.buildSelectList = some built) (fd : Int) :
    built.fdset.Has fd ↔ fd ∈ worker.fds := by
  obtain ⟨last, collected, same⟩ := Option.bind_eq_some_iff.mp builds
  cases same
  obtain ⟨other, collected2, members, -⟩ :=
    Selection.setAll_spec (Selection.setAll_inside collected) ⟨∅, -1⟩
  rw [collected] at collected2
  cases collected2
  exact (members fd).trans (or_iff_left (FdSet.not_has_empty fd))

section

variable {os : Os} {maxWorkers : Int} {kernel : Kernel} {state : Threaded}
  {record : ThreadRecord}

/-- Stage by stage the threads do what the manager does packet by packet. -/
theorem threadedMachine_run_manager
    (run : (threadedMachine os maxWorkers).Run ThreadRecord.observer
      (ThreadedUse os maxWorkers) (Threaded.start kernel) state record) :
    (managerMachine os maxWorkers).Run Reflector.observer ReflectorUse
      (Manager.start kernel) state.manager record.reflector := by
  refine run.simulated Threaded.manager ThreadRecord.reflector
    threadedMachine_run_tracked rfl ?_
  intro state next record event output tracked allowed stepped
  have step : ThreadedStep os maxWorkers state next event output :=
    .of_step stepped
  cases step with
  | @answered event apart manager output answered =>
      exact .inr ⟨event, output, ⟨allowed.1, event.polled_of_apart _ apart⟩,
        answered, rfl⟩
  | @moved worker select received manager after output move =>
      generalize reached : state.stages worker = stage at move
      cases move with
      | tested => exact .inl ⟨rfl, rfl⟩
      | ended => exact .inl ⟨rfl, rfl⟩
      | repeated => exact .inl ⟨rfl, rfl⟩
      | built built builds => exact .inl ⟨rfl, rfl⟩
      | began built => exact .inl ⟨rfl, rfl⟩
      | skipped ready fd rest unready => exact .inl ⟨rfl, rfl⟩
      | timedOut built =>
          exact .inr ⟨.selectTimeout worker, .quiet, ⟨trivial, trivial⟩, rfl,
            rfl⟩
      | served ready fd rest isReady =>
          exact .inr ⟨.packet worker fd received, .sent _,
            ⟨trivial, tracked.polls reached⟩, rfl, rfl⟩

end

end StrManager
