import StrManager.Manager.CommandLine
import StrManager.Manager.Interleaving
import StrManager.Manager.Refinement
import StrManager.Worker.SourceZero

namespace StrManager

open Library Function

/-! A manager for programs whose sources all have one plain class and stay. One
worker, the first one, serves them all. -/

/-- The registry after a call of the manager that returned 0. -/
def Registry.follow (registry : Registry) (event : ManagerEvent) :
    ManagerOutput → Registry
  | .returned code _ =>
      if code = 0 then
        match event.workerCall with
        | some call => registry.record call (.added true)
        | none => registry
      else registry
  | .time _ _ | .sent _ | .quiet => registry

namespace ManagerEvent

/-- Sources of the class only, under new identifiers and from new addresses,
and no removals. -/
def SoleUse (kind : WorkerKind) (registry : Registry) : ManagerEvent → Prop
  | .addSource workerType srcId ip port =>
      workerType = kind.workerType ∧ registry.lookup srcId = none ∧
        registry.Unknown (SockAddr.ofPort ip port)
  | .removeSource _ | .readTimeStamp _ => False
  | _ => True

def Taken (event : ManagerEvent) (output : ManagerOutput) : Prop :=
  ∀ workerType srcId ip port, event = .addSource workerType srcId ip port →
    ∃ server, output = .returned 0 server

end ManagerEvent

namespace Manager

/-- The first worker serves the sources of the registry, and no other one has
a descriptor. -/
structure Sole (kind : WorkerKind) (manager : Manager) (registry : Registry) :
    Prop extends Filed manager where
  delivers : (manager.runtime 0).Delivers registry
  idle : ∀ worker fd, worker ≠ 0 → (manager.workers worker).polls fd = false
  only : ∀ key worker, manager.workerIdWorker.lookup key = some worker →
    worker = 0
  begun : (manager.allocated = 0 ∧ ∀ srcId, registry.lookup srcId = none) ∨
    ((manager.workers 0).kind = kind ∧
      ∃ key, manager.workerIdWorker.lookup key = some 0)
  tied : ∀ srcId worker, manager.srcIdWorker.lookup srcId = some worker ↔
    worker = 0 ∧ (registry.lookup srcId).isSome = true
  calm : ∀ message ∈ manager.queue, message.type ≠ 100

namespace Sole

variable {os : Os} {maxWorkers : Int} {kind : WorkerKind}
  {manager next : Manager} {registry : Registry} {event : ManagerEvent}
  {output : ManagerOutput}

theorem start (kind : WorkerKind) (kernel : Kernel) :
    (Manager.start kernel).Sole kind ∅ where
  toFiled := .start kernel
  delivers := .create (by decide) (-1) kernel Table.lookup_empty
  idle := by
    intro worker fd _
    rfl
  only := by
    intro key worker entry
    cases entry
  begun := .inl ⟨rfl, Table.lookup_empty⟩
  tied := by
    intro srcId worker
    constructor
    · intro mapped
      cases mapped
    · intro used
      cases used.2
  calm := by
    intro message member
    cases member

theorem present (sole : manager.Sole kind registry) : manager.Present := by
  intro srcId worker mapped
  obtain ⟨rfl, used⟩ := (sole.tied srcId worker).mp mapped
  obtain ⟨registration, found⟩ := Option.isSome_iff_exists.mp used
  obtain ⟨list, stored, -⟩ := sole.delivers.implements.stored found
  have isStored : (manager.workers 0).streams.lists srcId = some list := stored
  constructor
  · rw [isStored]
    rfl
  · intro rtcp
    exact absurd rtcp sole.delivers.plain

theorem chosen (sole : manager.Sole kind registry) (plain : kind ≠ .rtcp)
    {worker : Nat} {middle : Manager}
    (chosen : manager.Chosen kind.workerType worker middle) :
    worker = 0 ∧ (middle.runtime 0).Delivers registry ∧
      (middle.workers 0).kind = kind ∧
      ∀ other fd, other ≠ 0 → (middle.workers other).polls fd = false := by
  cases chosen with
  | found key entry sameType =>
      have first := sole.only key worker entry
      subst first
      refine ⟨rfl, sole.delivers, ?_, sole.idle⟩
      cases sole.begun with
      | inl unused =>
          have below := sole.pool key 0 entry
          rw [unused.1] at below
          exact absurd below (Nat.lt_irrefl 0)
      | inr pooled => exact pooled.1
  | created kind2 absent supported =>
      have same : kind2 = kind :=
        Option.some.inj (supported.symm.trans kind.ofType_workerType)
      subst same
      cases sole.begun with
      | inl unused =>
          rw [unused.1]
          have created : (manager.create kind2).workers = update manager.workers
              0 (Worker.create kind2 manager.currentWorkerId) := by
            rw [create_workers, unused.1]
          refine ⟨rfl, ?_, ?_, ?_⟩
          · unfold Manager.runtime
            rw [created, update_self]
            exact .create plain _ _ unused.2
          · rw [created, update_self]
            rfl
          · intro other fd different
            rw [created, update_of_ne different]
            exact sole.idle other fd different
      | inr pooled =>
          obtain ⟨key, entry⟩ := pooled.2
          exact absurd (congrArg WorkerKind.workerType pooled.1)
            (absent key 0 entry)

theorem moved (sole : manager.Sole kind registry) {registry2 : Registry}
    (filed : next.Filed) (delivers : (next.runtime 0).Delivers registry2)
    (sameKind : (next.workers 0).kind = (manager.workers 0).kind)
    (others : ∀ worker, worker ≠ 0 →
      next.workers worker = manager.workers worker)
    (allocated : next.allocated = manager.allocated)
    (sources : next.srcIdWorker = manager.srcIdWorker)
    (pool : ∀ key, next.workerIdWorker.lookup key =
      manager.workerIdWorker.lookup key)
    (calm : ∀ message ∈ next.queue, message.type ≠ 100)
    (used : ∀ srcId, (registry2.lookup srcId).isSome =
      (registry.lookup srcId).isSome) : next.Sole kind registry2 where
  toFiled := filed
  delivers := delivers
  idle := by
    intro worker fd different
    rw [others worker different]
    exact sole.idle worker fd different
  only := by
    intro key worker entry
    rw [pool] at entry
    exact sole.only key worker entry
  begun := by
    rw [allocated, sameKind]
    cases sole.begun with
    | inl unused =>
        refine .inl ⟨unused.1, ?_⟩
        intro srcId
        rw [← Option.not_isSome_iff_eq_none, used, unused.2 srcId]
        simp
    | inr pooled =>
        obtain ⟨key, entry⟩ := pooled.2
        exact .inr ⟨pooled.1, key, (pool key).trans entry⟩
  tied := by
    intro srcId worker
    rw [sources, used]
    exact sole.tied srcId worker
  calm := calm

theorem put (sole : manager.Sole kind registry) {registry2 : Registry}
    {runtime : Runtime} {call : WorkerEvent} {result : WorkerOutput}
    (filed : next.Filed)
    (called : (manager.runtime 0).step os call = .ok (runtime, result))
    (delivers : runtime.Delivers registry2)
    (used : ∀ srcId, (registry2.lookup srcId).isSome =
      (registry.lookup srcId).isSome)
    (put : next = manager.put 0 runtime) : next.Sole kind registry2 := by
  have same : next.runtime 0 = runtime := by
    subst put
    unfold Manager.runtime
    rw [put_workers, update_self]
    rfl
  refine sole.moved filed (by rw [same]; exact delivers) ?_ ?_ ?_ ?_ ?_ ?_ used
  · change (next.runtime 0).worker.kind = _
    rw [same]
    exact (Runtime.step_sameWorker called).1
  · intro other different
    subst put
    exact update_of_ne different _ _
  · subst put
    rfl
  · subst put
    rfl
  · intro key
    subst put
    rfl
  · subst put
    exact sole.calm

theorem step_taken (sole : manager.Sole kind registry) (plain : kind ≠ .rtcp)
    (filed : next.Filed) {workerType srcId : Int} {ip : InAddr} {port : Int}
    {worker : Nat} {middle : Manager} {runtime : Runtime}
    (fits : (ManagerEvent.addSource workerType srcId ip port).SoleUse kind
      registry)
    (accepted : AcceptedStep os maxWorkers manager next workerType srcId ip port
      worker middle runtime) :
    next.Sole kind (registry.record (.addSource srcId ip port)
      (.added true)) := by
  obtain ⟨rfl, fresh, unknown⟩ := fits
  obtain ⟨rfl, delivers, sameKind, idle⟩ := sole.chosen plain accepted.chosen
  have sources := accepted.sources
  have pool := accepted.pool
  have workerEq := accepted.worker_eq
  have kept := accepted.worker_kept.1.1
  have called := accepted.called
  obtain ⟨sourcesKept, poolKept, queueKept⟩ := accepted.chosen.tables
  have committed := accepted.committed
  have separate : (WorkerEvent.addSource srcId ip port).Separate registry :=
    ⟨fresh, unknown⟩
  have after := delivers.step separate trivial called
  have lookups (other : Int) : ((registry.record (.addSource srcId ip port)
      (.added true)).lookup other).isSome = true ↔
        other = srcId ∨ (registry.lookup other).isSome = true := by
    change ((registry.addSource srcId _).lookup other).isSome = true ↔ _
    rw [Registry.lookup_addSource]
    split
    · rename_i same
      exact iff_of_true rfl (.inl same)
    · rename_i different
      exact (or_iff_right different).symm
  constructor
  · exact filed
  · have same : next.runtime 0 = runtime := by
      subst committed
      unfold Manager.runtime
      rw [workerEq]
      rfl
    rw [same]
    exact after
  · intro other fd different
    have same : next.workers other = middle.workers other := by
      subst committed
      exact update_of_ne different _ _
    rw [same]
    exact idle other fd different
  · intro key other entry
    rw [pool, Table.lookup_insert] at entry
    split at entry
    · exact (Option.some.inj entry).symm
    · exact sole.only key other entry
  · refine .inr ⟨?_, (next.workers 0).workerId, ?_⟩
    · rw [workerEq, kept]
      exact sameKind
    · rw [pool, Table.lookup_insert, if_pos rfl]
  · intro other worker
    rw [sources, Table.lookup_insert, lookups]
    split
    · rename_i same
      constructor
      · intro mapped
        exact ⟨(Option.some.inj mapped).symm, .inl same⟩
      · intro used
        rw [used.1]
    · rename_i different
      rw [sole.tied]
      constructor
      · intro used
        exact ⟨used.1, .inr used.2⟩
      · intro used
        exact ⟨used.1, used.2.resolve_left different⟩
  · intro message member
    have same : next.queue = manager.queue := by
      rw [← queueKept]
      subst committed
      rfl
    rw [same] at member
    exact sole.calm message member

theorem handleMessage (sole : manager.Sole kind registry)
    (filed : manager.handleMessage.Filed) :
    manager.handleMessage.Sole kind registry := by
  obtain ⟨workers, allocated, sources⟩ := manager.handleMessage_kept
  have kernel : manager.handleMessage.kernel = manager.kernel := by
    unfold Manager.handleMessage
    split <;> rfl
  have pool : manager.handleMessage.workerIdWorker = manager.workerIdWorker := by
    unfold Manager.handleMessage
    split
    · rfl
    · rename_i message rest queue
      have calm := sole.calm message (by rw [queue]; exact List.mem_cons_self)
      exact if_neg calm
  have queue : ∀ message ∈ manager.handleMessage.queue,
      message ∈ manager.queue := by
    unfold Manager.handleMessage
    split
    · exact fun _ member => member
    · rename_i message rest queue
      rw [queue]
      exact fun _ member => List.mem_cons_of_mem _ member
  refine sole.moved filed ?_ ?_ ?_ allocated sources ?_ ?_ fun _ => rfl
  · unfold Manager.runtime
    rw [workers, kernel]
    exact sole.delivers
  · rw [workers]
  · intro worker _
    rw [workers]
  · intro key
    rw [pool]
  · intro message member
    exact sole.calm message (queue message member)

theorem selectTimeout (sole : manager.Sole kind registry) {worker : Nat}
    (filed : (manager.selectTimeout worker).Filed) :
    (manager.selectTimeout worker).Sole kind registry := by
  refine sole.moved filed sole.delivers rfl (fun _ _ => rfl) rfl rfl
    (fun _ => rfl) ?_ fun _ => rfl
  intro message member
  cases List.mem_append.mp member with
  | inl queued => exact sole.calm message queued
  | inr sent =>
      rw [List.mem_singleton.mp sent]
      exact (by decide : (0 : Int) ≠ 100)

theorem step (sole : manager.Sole kind registry) (plain : kind ≠ .rtcp)
    (fits : event.SoleUse kind registry) (polled : event.Polled manager)
    (stepped : manager.step os maxWorkers event = .ok (next, output))
    (taken : event.Taken output) :
    next.Sole kind (registry.follow event output) := by
  have step : ManagerStep os maxWorkers manager next event output :=
    .of_step stepped
  have filed := step.filed sole.toFiled
  cases step with
  | unsupported unknownType same =>
      obtain ⟨server, returned⟩ := taken _ _ _ _ rfl
      cases returned
  | rejected middle runtime chosen called put =>
      obtain ⟨server, returned⟩ := taken _ _ _ _ rfl
      cases returned
  | accepted middle runtime chosen called committed =>
      exact sole.step_taken plain filed fits ⟨chosen, called, committed⟩
  | unknown names missing same unserved =>
      subst same
      cases Manager.step_unknown names missing stepped with
      | inl returned =>
          rw [returned.1]
          exact sole
      | inr read =>
          rw [read.2]
          exact sole
  | removed runtime messages mapped called put => cases fits
  | @destination event srcId call worker runtime calls mapped called put =>
      obtain ⟨rfl, used⟩ := (sole.tied srcId worker).mp mapped
      obtain ⟨destId, ip, port, rfl, rfl⟩ | ⟨destId, rfl, rfl⟩ :=
        ManagerEvent.destinationCall_cases calls
      · have separate : (WorkerEvent.addDestination srcId destId ip port).Separate
          registry := trivial
        exact sole.put filed called
          (sole.delivers.step separate trivial called)
          (fun other => registry.isSome_change srcId other _) put
      · have separate : (WorkerEvent.removeDestination srcId destId).Separate
          registry := trivial
        exact sole.put filed called
          (sole.delivers.step separate trivial called)
          (fun other => registry.isSome_change srcId other _) put
  | read runtime mapped called put => cases fits
  | handled same =>
      rw [same] at filed ⊢
      exact sole.handleMessage filed
  | @packet worker fd received put =>
      have polls : (manager.workers worker).polls fd = true := polled
      have first : worker = 0 := by
        by_contra different
        rw [sole.idle worker fd different] at polls
        cases polls
      subst first
      have processed := Runtime.step_packet os (manager.runtime 0) fd received
      have separate : (WorkerEvent.packet fd received).Separate registry :=
        trivial
      exact sole.put filed processed
        (sole.delivers.step separate polls processed) (fun _ => rfl) put
  | timedOut same =>
      rw [same] at filed ⊢
      exact sole.selectTimeout filed
  | @elapsed seconds same =>
      subst same
      have separate : (WorkerEvent.elapse seconds).Separate registry := trivial
      have elapsed : (manager.runtime 0).step os (.elapse seconds) =
        .ok ((manager.runtime 0).elapse seconds, .done) := rfl
      exact sole.moved filed (sole.delivers.step separate trivial elapsed) rfl
        (fun _ _ => rfl) rfl rfl (fun _ => rfl) sole.calm fun _ => rfl

theorem background (sole : manager.Sole kind registry) (plain : kind ≠ .rtcp)
    (uncalled : event.isCall = false) (polled : event.Polled manager)
    (stepped : manager.step os maxWorkers event = .ok (next, output)) :
    next.Sole kind registry := by
  have fits : event.SoleUse kind registry := by
    cases event with
    | addSource workerType srcId ip port => cases uncalled
    | removeSource srcId => cases uncalled
    | readTimeStamp srcId => cases uncalled
    | _ => trivial
  have taken : event.Taken output := by
    intro workerType srcId ip port same
    subst same
    cases uncalled
  have follows : registry.follow event output = registry := by
    cases output with
    | returned code server =>
        cases event with
        | addSource workerType srcId ip port => cases uncalled
        | removeSource srcId => cases uncalled
        | addDestination srcId destId ip port => cases uncalled
        | removeDestination srcId destId => cases uncalled
        | _ => exact ite_self registry
    | time timeStamp server => rfl
    | sent transmissions => rfl
    | quiet => rfl
  have after := sole.step plain fits polled stepped taken
  rwa [follows] at after

theorem edited (sole : manager.Sole kind registry) (plain : kind ≠ .rtcp)
    {srcId : Int} {call : WorkerEvent}
    (calls : event.destinationCall = some (srcId, call))
    (known : (registry.lookup srcId).isSome = true)
    (stepped : manager.step os maxWorkers event = .ok (next, output)) :
    output = .returned 0 (some 0) ∧ next.Sole kind (registry.record call .done) := by
  have mapped := (sole.tied srcId 0).mpr ⟨rfl, known⟩
  have step : ManagerStep os maxWorkers manager next event output :=
    .of_step stepped
  have guarded : event.guarded = some srcId := by
    obtain ⟨destId, ip, port, rfl, rfl⟩ | ⟨destId, rfl, rfl⟩ :=
      ManagerEvent.destinationCall_cases calls
    · rfl
    · rfl
  have returned : output = .returned 0 (some 0) := by
    cases step with
    | unknown names missing same unserved =>
        rw [guarded] at names
        cases names
        rw [missing] at mapped
        cases mapped
    | destination runtime calls2 found called put =>
        rw [calls] at calls2
        cases calls2
        rw [mapped] at found
        cases found
        rfl
    | _ => cases calls
  subst returned
  refine ⟨rfl, ?_⟩
  obtain ⟨destId, ip, port, rfl, rfl⟩ | ⟨destId, rfl, rfl⟩ :=
    ManagerEvent.destinationCall_cases calls
  · have fits : (ManagerEvent.addDestination srcId destId ip port).SoleUse kind
        registry := trivial
    exact sole.step plain fits trivial stepped fun _ _ _ _ same => by cases same
  · have fits : (ManagerEvent.removeDestination srcId destId).SoleUse kind
        registry := trivial
    exact sole.step plain fits trivial stepped fun _ _ _ _ same => by cases same

end Sole

end Manager

end StrManager
