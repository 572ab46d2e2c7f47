import StrManager.FrontEnd.Session
import StrManager.Manager.Sole

namespace StrManager

open Library Text

/-! Programs that make the calls of a script, stage by stage, and add up what
the calls return, while the threads go on between any two of their steps. -/

/-- What a stage does: a call, with the next stage for the sum, or output. -/
inductive Action (Stage : Type) where
  | call (event : ManagerEvent) (next : Int → Stage)
  | say (text : Text) (next : Stage)
  | fail (fault : SessionFault)

structure Script (Stage : Type) where
  first : Stage
  /-- A stage may read a line, and what is in the manager. -/
  act : Manager → Stage → Text → Action Stage
  ended : Stage → Bool

structure Caller (Stage : Type) where
  manager : Manager
  res : Int
  stage : Stage

inductive CallerEvent where
  | turn (line : Text)
  | background (event : ManagerEvent) (uncalled : event.isCall = false)

def ManagerOutput.code : ManagerOutput → Int
  | .returned code _ => code
  | .time _ _ | .sent _ | .quiet => 0

namespace Action

def ofCall {Stage : Type} (event : Except SessionFault ManagerEvent)
    (next : Int → Stage) : Action Stage :=
  match event with
  | .ok event => .call event next
  | .error fault => .fail fault

end Action

namespace Caller

variable {Stage : Type} (script : Script Stage) (os : Os) (maxWorkers : Int)
  (caller : Caller Stage)

def start (kernel : Kernel) : Caller Stage :=
  ⟨Manager.start kernel, 0, script.first⟩

def perform : Action Stage →
    Except SessionFault (Caller Stage × SessionOutput)
  | .call event next =>
      match caller.manager.step os maxWorkers event with
      | .error fault => .error (.manager fault)
      | .ok (manager, output) =>
          let res := caller.res + output.code
          .ok (⟨manager, res, next res⟩, .answered event output)
  | .say text next => .ok ({ caller with stage := next }, .said text)
  | .fail fault => .error fault

def step : CallerEvent → Except SessionFault (Caller Stage × SessionOutput)
  | event =>
      if script.ended caller.stage then .ok (caller, .quiet)
      else match event with
        | .turn line =>
            caller.perform os maxWorkers
              (script.act caller.manager caller.stage line)
        | .background event _ =>
            match caller.manager.step os maxWorkers event with
            | .error fault => .error (.manager fault)
            | .ok (manager, output) =>
                .ok ({ caller with manager := manager }, .answered event output)

end Caller

def callerMachine {Stage : Type} (script : Script Stage) (os : Os)
    (maxWorkers : Int) :
    Machine (Caller Stage) CallerEvent SessionOutput SessionFault where
  step := Caller.step script os maxWorkers

inductive CallerStep {Stage : Type} (script : Script Stage) (os : Os)
    (maxWorkers : Int) (caller next : Caller Stage) :
    CallerEvent → SessionOutput → Prop
  | finished {event : CallerEvent} (ended : script.ended caller.stage = true)
      (same : next = caller) :
      CallerStep script os maxWorkers caller next event .quiet
  | called {line : Text} {call : ManagerEvent} {after : Int → Stage}
      {manager : Manager} {answer : ManagerOutput}
      (acts : script.act caller.manager caller.stage line = .call call after)
      (stepped : caller.manager.step os maxWorkers call =
        .ok (manager, answer))
      (moved : next = ⟨manager, caller.res + answer.code,
        after (caller.res + answer.code)⟩) :
      CallerStep script os maxWorkers caller next (.turn line)
        (.answered call answer)
  | told {line text : Text} {stage : Stage}
      (acts : script.act caller.manager caller.stage line = .say text stage)
      (moved : next = { caller with stage := stage }) :
      CallerStep script os maxWorkers caller next (.turn line) (.said text)
  | background {event : ManagerEvent} {uncalled : event.isCall = false}
      {manager : Manager} {answer : ManagerOutput}
      (running : script.ended caller.stage = false)
      (stepped : caller.manager.step os maxWorkers event =
        .ok (manager, answer))
      (moved : next = { caller with manager := manager }) :
      CallerStep script os maxWorkers caller next (.background event uncalled)
        (.answered event answer)

section

variable {Stage : Type} {script : Script Stage} {os : Os} {maxWorkers : Int}
  {caller next : Caller Stage} {event : CallerEvent} {output : SessionOutput}

theorem CallerStep.of_step
    (stepped : caller.step script os maxWorkers event = .ok (next, output)) :
    CallerStep script os maxWorkers caller next event output := by
  unfold Caller.step at stepped
  cases ended : script.ended caller.stage with
  | true =>
      rw [ended] at stepped
      cases stepped
      exact .finished ended rfl
  | false =>
      rw [ended] at stepped
      cases event with
      | turn line =>
          change caller.perform os maxWorkers _ = _ at stepped
          cases acts : script.act caller.manager caller.stage line with
          | call call after =>
              rw [acts] at stepped
              cases ran : caller.manager.step os maxWorkers call with
              | error fault =>
                  simp only [Caller.perform, ran] at stepped
                  cases stepped
              | ok result =>
                  simp only [Caller.perform, ran] at stepped
                  cases stepped
                  exact .called acts ran rfl
          | say text stage =>
              rw [acts] at stepped
              cases stepped
              exact .told acts rfl
          | fail fault =>
              rw [acts] at stepped
              cases stepped
      | background event uncalled =>
          cases ran : caller.manager.step os maxWorkers event with
          | error fault =>
              simp only [ran] at stepped
              cases stepped
          | ok result =>
              simp only [ran] at stepped
              cases stepped
              exact .background ended ran rfl

theorem Caller.step_ok (present : caller.manager.Present)
    (acts : ∀ line fault,
      script.act caller.manager caller.stage line ≠ .fail fault)
    (event : CallerEvent) :
    ∃ next output, caller.step script os maxWorkers event =
      .ok (next, output) := by
  unfold Caller.step
  cases script.ended caller.stage with
  | true => exact ⟨_, _, rfl⟩
  | false =>
      cases event with
      | turn line =>
          change ∃ next output, caller.perform os maxWorkers _ = _
          cases act : script.act caller.manager caller.stage line with
          | call call after =>
              obtain ⟨manager, answer, ran⟩ :=
                present.step_ok os maxWorkers call
              simp only [Caller.perform, ran]
              exact ⟨_, _, rfl⟩
          | say text stage => exact ⟨_, _, rfl⟩
          | fail fault => exact absurd act (acts line fault)
      | background event uncalled =>
          obtain ⟨manager, answer, ran⟩ := present.step_ok os maxWorkers event
          simp only [ran]
          exact ⟨_, _, rfl⟩

end

theorem Manager.step_code {os : Os} {maxWorkers : Int}
    {manager next : Manager} {event : ManagerEvent} {output : ManagerOutput}
    (stepped : manager.step os maxWorkers event = .ok (next, output)) :
    output.code ≤ 0 := by
  have step : ManagerStep os maxWorkers manager next event output :=
    .of_step stepped
  cases step with
  | unknown names missing same unserved =>
      cases Manager.step_unknown names missing stepped with
      | inl returned =>
          rw [returned.1]
          decide
      | inr read =>
          rw [read.2]
          exact le_refl 0
  | _ => simp [ManagerOutput.code]

theorem Manager.step_addSource {os : Os} {maxWorkers : Int}
    {manager next : Manager} {workerType srcId : Int} {ip : InAddr}
    {port : Int} {output : ManagerOutput}
    (stepped : manager.step os maxWorkers (.addSource workerType srcId ip port) =
      .ok (next, output)) :
    (∃ worker, output = .returned 0 (some worker)) ∨
      output.code = -1 ∧ next.srcIdWorker = manager.srcIdWorker := by
  have step : ManagerStep os maxWorkers manager next
    (.addSource workerType srcId ip port) output := .of_step stepped
  cases step with
  | unsupported unknownType same =>
      subst same
      exact .inr ⟨rfl, rfl⟩
  | rejected middle runtime chosen called put =>
      subst put
      exact .inr ⟨rfl, chosen.tables.1⟩
  | accepted middle runtime chosen called committed => exact .inl ⟨_, rfl⟩
  | unknown names missing same unserved => cases names
  | destination runtime calls mapped called put => cases calls

structure Manager.Lacks (manager : Manager) (srcId : Int) : Prop
    extends Filed manager where
  present : manager.Present
  missing : manager.srcIdWorker.lookup srcId = none

theorem Manager.Lacks.step {os : Os} {maxWorkers : Int}
    {manager next : Manager} {srcId : Int} {event : ManagerEvent}
    {output : ManagerOutput} (lacks : manager.Lacks srcId)
    (stays : ∀ other, event ≠ .removeSource other)
    (unnamed : ∀ workerType ip port,
      event ≠ .addSource workerType srcId ip port)
    (stepped : manager.step os maxWorkers event = .ok (next, output)) :
    next.Lacks srcId := by
  have step : ManagerStep os maxWorkers manager next event output :=
    .of_step stepped
  have keeps : manager.KeepsLists event := by
    cases event with
    | removeSource other => exact absurd rfl (stays other)
    | _ => trivial
  refine ⟨step.filed lacks.toFiled,
    (step.present_iff lacks.toFiled lacks.present).mpr keeps, ?_⟩
  rcases step.changes with
    quiet | ⟨other, _, _, _, rfl, -, removed⟩ |
      ⟨workerType, other, ip, port, worker, _, _, rfl, -, accepted⟩
  · rw [quiet.sources]
    exact lacks.missing
  · exact absurd rfl (stays other)
  · have different : srcId ≠ other := by
      rintro rfl
      exact unnamed workerType ip port rfl
    rw [accepted.sources, Table.lookup_insert, if_neg different]
    exact lacks.missing

theorem Manager.Lacks.background {os : Os} {maxWorkers : Int}
    {manager next : Manager} {srcId : Int} {event : ManagerEvent}
    {output : ManagerOutput} (lacks : manager.Lacks srcId)
    (uncalled : event.isCall = false)
    (stepped : manager.step os maxWorkers event = .ok (next, output)) :
    next.Lacks srcId := by
  refine lacks.step ?_ ?_ stepped
  · intro other same
    subst same
    cases uncalled
  · intro workerType ip port same
    subst same
    cases uncalled

theorem Manager.Sole.addSource {os : Os} {maxWorkers : Int}
    {kind : WorkerKind} {manager next : Manager} {registry : Registry}
    {srcId : Int} {ip : InAddr} {port : Int} {output : ManagerOutput}
    (sole : manager.Sole kind registry) (plain : kind ≠ .rtcp)
    (unused : registry.lookup srcId = none)
    (unknown : registry.Unknown (SockAddr.ofPort ip port))
    (stepped : manager.step os maxWorkers
      (.addSource kind.workerType srcId ip port) = .ok (next, output)) :
    output.code = 0 ∧
        next.Sole kind (registry.addSource srcId (SockAddr.ofPort ip port)) ∨
      output.code = -1 ∧ next.Lacks srcId := by
  have fits : (ManagerEvent.addSource kind.workerType srcId ip port).SoleUse
      kind registry := ⟨rfl, unused, unknown⟩
  cases Manager.step_addSource stepped with
  | inl returned =>
      obtain ⟨worker, rfl⟩ := returned
      exact .inl ⟨rfl, sole.step plain fits trivial stepped
        fun _ _ _ _ _ => ⟨_, rfl⟩⟩
  | inr refused =>
      have step : ManagerStep os maxWorkers manager next _ output :=
        .of_step stepped
      refine .inr ⟨refused.1, step.filed sole.toFiled,
        (step.present_iff sole.toFiled sole.present).mpr trivial, ?_⟩
      rw [refused.2]
      by_contra mapped
      obtain ⟨worker, found⟩ := Option.ne_none_iff_exists'.mp mapped
      have used := ((sole.tied srcId worker).mp found).2
      rw [unused] at used
      cases used

def CallerEvent.Polled {Stage : Type} (caller : Caller Stage) :
    CallerEvent → Prop
  | .turn _ => True
  | .background event _ => event.Polled caller.manager

instance {Stage : Type} (caller : Caller Stage) (event : CallerEvent) :
    Decidable (event.Polled caller) :=
  match event with
  | .turn _ => isTrue trivial
  | .background event _ =>
      inferInstanceAs (Decidable (event.Polled caller.manager))

/-- What the calls, the output and the threads keep holds along every run. -/
theorem callerMachine_run_invariant {Stage : Type} {script : Script Stage}
    {os : Os} {maxWorkers : Int} {kernel : Kernel} {Record : Type}
    {observer : Observer CallerEvent SessionOutput Record}
    {motive : Caller Stage → Record → Prop}
    (initially : motive (Caller.start script kernel) observer.initial)
    (noted : ∀ record event, observer.update record event .quiet = record)
    (called : ∀ {caller record line call after manager answer},
      motive caller record →
      script.act caller.manager caller.stage line = .call call after →
      caller.manager.step os maxWorkers call = .ok (manager, answer) →
      motive ⟨manager, caller.res + answer.code,
          after (caller.res + answer.code)⟩
        (observer.update record (.turn line) (.answered call answer)))
    (told : ∀ {caller record line text stage}, motive caller record →
      script.act caller.manager caller.stage line = .say text stage →
      motive { caller with stage := stage }
        (observer.update record (.turn line) (.said text)))
    (threads : ∀ {caller record event} {uncalled : event.isCall = false}
      {manager answer}, motive caller record → event.Polled caller.manager →
      caller.manager.step os maxWorkers event = .ok (manager, answer) →
      motive { caller with manager := manager }
        (observer.update record (.background event uncalled)
          (.answered event answer)))
    {caller : Caller Stage} {record : Record}
    (run : (callerMachine script os maxWorkers).Run observer
      (fun caller _ event => event.Polled caller) (Caller.start script kernel)
      caller record) : motive caller record := by
  refine run.invariant initially ?_
  intro caller next record event output holds polled stepped
  have step : CallerStep script os maxWorkers caller next event output :=
    .of_step stepped
  cases step with
  | finished ended same =>
      rw [same, noted]
      exact holds
  | called acts answered moved =>
      rw [moved]
      exact called holds acts answered
  | told acts moved =>
      rw [moved]
      exact told holds acts
  | background running answered moved =>
      rw [moved]
      exact threads holds polled answered

def leading : Fin 3 := 0

def succeeding {Stage : Type} (stage : Fin 3 → Stage) (last : Stage)
    (n : Fin 3) : Stage :=
  if n = 0 then stage 1 else if n = 1 then stage 2 else last

theorem succeeding_cases {Stage : Type} (stage : Fin 3 → Stage) (last : Stage)
    (n : Fin 3) :
    (∃ next : Fin 3, succeeding stage last n = stage next ∧
        (next : Nat) = n + 1) ∨
      ((n : Nat) + 1 = 3 ∧ succeeding stage last n = last) := by
  match n with
  | 0 => exact .inl ⟨1, rfl, rfl⟩
  | 1 => exact .inl ⟨2, rfl, rfl⟩
  | 2 => exact .inr ⟨rfl, rfl⟩

/-! Arguments. -/

def argument (argv : List Text) (n : Nat) : Text := argv[n]?.getD []

/-- What is printed for another number of arguments than 8. -/
def misuse (argv : List Text) (usage : Text) : Text :=
  "Number of parameters = ".toList ++ decimal (argv.length - 1) ++
    '\n' :: usage

def failure : Text := "Some error has ocurred. See log file!\n".toList

def pair (argv : List Text) (n : Nat) : Text :=
  argument argv n ++ ':' :: argument argv (n + 1)

def endpoint (argv : List Text) (n : Nat) (used : Bool) :
    Except SessionFault (InAddr × Int) :=
  match atoi (argument argv (n + 1)) with
  | .error fault => .error (.text fault)
  | .ok port => do
      let ip ← Session.address (some (argument argv n)) used
      return (ip, port)

def Names (argv : List Text) (n : Nat) (ip : InAddr) (port : Int) : Prop :=
  Dotted.inetAton (argument argv n) = some ip ∧
    atoi (argument argv (n + 1)) = .ok port

theorem endpoint_eq {argv : List Text} {n : Nat} {ip : InAddr} {port : Int}
    (names : Names argv n ip port) (used : Bool) :
    endpoint argv n used = .ok (ip, port) := by
  obtain ⟨read, read2⟩ := names
  unfold endpoint Session.address
  rw [read2, Option.bind_some, read]
  rfl

end StrManager
