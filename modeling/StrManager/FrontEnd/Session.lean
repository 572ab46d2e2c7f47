import StrManager.FrontEnd.Command
import StrManager.Library.Dotted
import StrManager.Manager.CommandLine
import StrManager.Manager.Interleaving
import StrManager.Manager.Listing

namespace StrManager

open Library Function Text Dotted

/-! The front ends: one manager, and the counter that numbers new sources and
destinations. Lines and requests are carried out while the threads of the
manager and of its workers go on. -/

inductive Program where
  | commandLine
  | webService
  deriving DecidableEq

structure Session where
  flowId : Int
  manager : Manager
  ended : Bool

inductive SessionFault where
  | text (fault : TextFault)
  | manager (fault : Fault)
  /-- The address is one that `inet_aton` did not write. -/
  | address
  /-- `workerId + "\n"` is past the literal. -/
  | listing
  deriving DecidableEq

/-- A call of the web service, with the identifier its client chose. The
address of a new destination is the text that the bytes of a pointer make. -/
inductive Request where
  | addSource (workerType srcId : Int) (ip : Text) (port : Int)
  | removeSource (srcId : Int)
  | addDestination (srcId destId port : Int)
  | removeDestination (srcId destId : Int)

inductive SessionEvent where
  | line (text : Text)
  | request (request : Request)
  /-- A step that is not one of the calling thread. -/
  | background (event : ManagerEvent) (uncalled : event.isCall = false)
  | endOfInput

inductive SessionOutput where
  | answered (event : ManagerEvent) (output : ManagerOutput)
  | logged (text : Text)
  | said (text : Text)
  | quiet

def helpText : Text :=
  "..:: AVAILABLE COMMANDS ::..\n".toList ++
    "\t-addsource [worker type] [source IP] [destination Port]".toList ++
    " :: adds a flow as a source\n".toList ++
    "\t-remsource [flowId] :: deletes a source\n".toList ++
    "\t-adddestination [source flowId] [destination IP]".toList ++
    " [destination Port] :: adds a destination of a source\n".toList ++
    "\t-remdestination [source flowId] [flowId]".toList ++
    " :: deletes a destination\n".toList ++
    "\t-printm :: printManagement\n".toList ++
    "\t-printf :: printForwarding\n".toList ++
    "\t-printp :: printPortFd\n\n\n".toList

namespace Session

def start (kernel : Kernel) : Session := ⟨100, Manager.start kernel, false⟩

def call (os : Os) (maxWorkers : Int) (session : Session)
    (event : ManagerEvent) : Except SessionFault (Session × SessionOutput) :=
  match session.manager.step os maxWorkers event with
  | .error fault => .error (.manager fault)
  | .ok (manager, output) =>
      .ok ({ session with
        flowId := CommandLine.advance session.flowId event
        manager := manager }, .answered event output)

/-- The address in the text. Where nothing reads it, any one will do. -/
def address (text : Option Text) (used : Bool) : Except SessionFault InAddr :=
  match text.bind inetAton with
  | some ip => .ok ip
  | none => if used then .error .address else .ok 0

variable (os : Os) (maxWorkers : Int) (session : Session)

def addSource (workerType srcId : Int) (ip : Text) (port : Int) :
    Except SessionFault (Session × SessionOutput) := do
  let ip ← address (some ip) (WorkerKind.ofType workerType).isSome
  session.call os maxWorkers (.addSource workerType srcId ip port)

def addDestination (srcId destId : Int) (ip : Option Text) (port : Int) :
    Except SessionFault (Session × SessionOutput) := do
  let ip ← address ip (session.manager.srcIdWorker.lookup srcId).isSome
  session.call os maxWorkers (.addDestination srcId destId ip port)

def carryOut (program : Program) (line : Text) :
    Command → Except SessionFault (Session × SessionOutput)
  | .addSource workerType ip port =>
      session.addSource os maxWorkers workerType session.flowId ip port
  | .removeSource srcId => session.call os maxWorkers (.removeSource srcId)
  | .addDestination flow ip port =>
      session.addDestination os maxWorkers flow session.flowId (some ip) port
  | .removeDestination flow flow2 =>
      session.call os maxWorkers (.removeDestination flow flow2)
  | .removeIpAddress => .ok (session, .said ['\n'])
  | .printManagement =>
      .ok (session, .logged (session.manager.printManagement ++ ['\n', '\n']))
  | .printForwarding =>
      .ok (session, .logged (session.manager.printForwarding ++ ['\n', '\n']))
  | .printPortFd =>
      match session.manager.printPortFd with
      | none => .error .listing
      | some text => .ok (session, .logged (text ++ ['\n', '\n']))
  | .help =>
      match program with
      | .commandLine => .ok (session, .said helpText)
      | .webService => .ok (session, .quiet)
  | .exit => .ok ({ session with ended := true }, .quiet)
  | .bad =>
      .ok (session, .said ("Bad command: ".toList ++ line ++
        ['\n', '\n'] ++ helpText))
  | .nothing => .ok (session, .quiet)

def execute (program : Program) (line : Text) :
    Except SessionFault (Session × SessionOutput) :=
  match Command.ofLine line with
  | .error fault => .error (.text fault)
  | .ok command => session.carryOut os maxWorkers program line command

def serve : Request → Except SessionFault (Session × SessionOutput)
  | .addSource workerType srcId ip port =>
      session.addSource os maxWorkers workerType srcId ip port
  | .removeSource srcId => session.call os maxWorkers (.removeSource srcId)
  | .addDestination srcId destId port =>
      session.addDestination os maxWorkers srcId destId none port
  | .removeDestination srcId destId =>
      session.call os maxWorkers (.removeDestination srcId destId)

def step (program : Program) :
    SessionEvent → Except SessionFault (Session × SessionOutput)
  | event =>
      if session.ended then .ok (session, .quiet)
      else match event with
        | .line text => session.execute os maxWorkers program text
        | .request request => session.serve os maxWorkers request
        | .background event _ => session.call os maxWorkers event
        | .endOfInput => .ok ({ session with ended := true }, .quiet)

def observer : Observer SessionEvent SessionOutput Reflector where
  initial := fun _ => none
  update reflector _
    | .answered event output => reflector.record event output
    | .logged _ | .said _ | .quiet => reflector

end Session

def sessionMachine (program : Program) (os : Os) (maxWorkers : Int) :
    Machine Session SessionEvent SessionOutput SessionFault where
  step session event := session.step os maxWorkers program event

inductive SessionEvent.Asks (flowId : Int) : SessionEvent → ManagerEvent → Prop
  | addSource {line ip : Text} {workerType port : Int} {address : InAddr}
      (reads : Command.Reads line (.addSource workerType ip port))
      (read : inetAton ip = some address) :
      Asks flowId (.line line) (.addSource workerType flowId address port)
  | removeSource {line : Text} {srcId : Int}
      (reads : Command.Reads line (.removeSource srcId)) :
      Asks flowId (.line line) (.removeSource srcId)
  | addDestination {line ip : Text} {flow port : Int} {address : InAddr}
      (reads : Command.Reads line (.addDestination flow ip port))
      (read : inetAton ip = some address) :
      Asks flowId (.line line) (.addDestination flow flowId address port)
  | removeDestination {line : Text} {flow flow2 : Int}
      (reads : Command.Reads line (.removeDestination flow flow2)) :
      Asks flowId (.line line) (.removeDestination flow flow2)
  | addRequested {ip : Text} {workerType srcId port : Int} {address : InAddr}
      (read : inetAton ip = some address) :
      Asks flowId (.request (.addSource workerType srcId ip port))
        (.addSource workerType srcId address port)
  | removeRequested {srcId : Int} :
      Asks flowId (.request (.removeSource srcId)) (.removeSource srcId)
  | editRequested {srcId destId : Int} :
      Asks flowId (.request (.removeDestination srcId destId))
        (.removeDestination srcId destId)
  | background {event : ManagerEvent} {uncalled : event.isCall = false} :
      Asks flowId (.background event uncalled) event

/-! How the front ends are used. -/

def ValidAddress (ip : Text) : Prop := (inetAton ip).isSome = true

def ValidSource (workerType srcId : Int) (ip : Text) (port : Int) : Prop :=
  ValidAddress ip ∧ 1 ≤ port ∧ port ≤ 65535 ∧
    (workerType = WorkerKind.rtcp.workerType →
      srcId % 2 = 0 ∧ port % 2 = 0 ∧ port ≤ 65532)

instance (ip : Text) : Decidable (ValidAddress ip) :=
  inferInstanceAs (Decidable (_ = _))

instance (workerType srcId : Int) (ip : Text) (port : Int) :
    Decidable (ValidSource workerType srcId ip port) :=
  inferInstanceAs (Decidable (_ ∧ _ ∧ _ ∧ (_ → _)))

def Manager.Early (manager : Manager) : Prop :=
  ∀ srcId worker, manager.srcIdWorker.lookup srcId = some worker →
    (manager.workers worker).workerId = 0 ∨ (manager.workers worker).workerId = 1

instance (manager : Manager) : Decidable manager.Early :=
  inferInstanceAs (Decidable (∀ srcId worker,
    manager.srcIdWorker.lookup srcId = some worker → _ ∨ _))

def ValidCommand (session : Session) : Command → Prop
  | .addSource workerType ip port =>
      ValidSource workerType session.flowId ip port
  | .addDestination _ ip _ => ValidAddress ip
  | .printPortFd => session.manager.Early
  | _ => True

instance (session : Session) (command : Command) :
    Decidable (ValidCommand session command) :=
  match command with
  | .addSource _ _ _ => inferInstanceAs (Decidable (ValidSource _ _ _ _))
  | .addDestination _ _ _ => inferInstanceAs (Decidable (ValidAddress _))
  | .printPortFd => inferInstanceAs (Decidable (Manager.Early _))
  | .removeSource _ | .removeDestination _ _ | .removeIpAddress
  | .printManagement | .printForwarding | .help | .exit | .bad | .nothing =>
      isTrue trivial

/-- Clients choose unused identifiers that the counter has passed, and add
destinations by commands. -/
def ValidRequest (session : Session) (reflector : Reflector) : Request → Prop
  | .addSource workerType srcId ip port =>
      ValidSource workerType srcId ip port ∧ reflector srcId = none ∧
        srcId ≠ 0 ∧ srcId < session.flowId
  | .addDestination _ _ _ => False
  | .removeSource _ | .removeDestination _ _ => True

instance (session : Session) (reflector : Reflector) (request : Request) :
    Decidable (ValidRequest session reflector request) :=
  match request with
  | .addSource _ _ _ _ => inferInstanceAs (Decidable (_ ∧ _ ∧ _ ∧ _))
  | .addDestination _ _ _ => isFalse id
  | .removeSource _ | .removeDestination _ _ => isTrue trivial

def ValidLine (session : Session) (line : Text) : Prop :=
  match Command.ofLine line with
  | .ok command => ValidCommand session command
  | .error _ => False

instance (session : Session) (line : Text) :
    Decidable (ValidLine session line) := by
  unfold ValidLine
  split <;> infer_instance

def ValidEvent (session : Session) (reflector : Reflector) :
    SessionEvent → Prop
  | .line text => ValidLine session text
  | .request request => ValidRequest session reflector request
  | .background event _ => event.Polled session.manager
  | .endOfInput => True

instance (session : Session) (reflector : Reflector) (event : SessionEvent) :
    Decidable (ValidEvent session reflector event) :=
  match event with
  | .line text => inferInstanceAs (Decidable (ValidLine session text))
  | .request request =>
      inferInstanceAs (Decidable (ValidRequest session reflector request))
  | .background event _ =>
      inferInstanceAs (Decidable (event.Polled session.manager))
  | .endOfInput => isTrue trivial

def SessionUse (session : Session) (reflector : Reflector)
    (event : SessionEvent) : Prop :=
  session.ended = false ∧ ValidEvent session reflector event

instance (session : Session) (reflector : Reflector) (event : SessionEvent) :
    Decidable (SessionUse session reflector event) :=
  inferInstanceAs (Decidable (_ ∧ _))

/-! What a step of a session can do. -/

namespace Session

variable {os : Os} {maxWorkers : Int} {session next : Session}
  {program : Program} {reflector : Reflector} {event : SessionEvent}
  {output : SessionOutput} {call : ManagerEvent}

theorem addSource_eq {workerType srcId port : Int} {ip : Text}
    {address : InAddr} (read : inetAton ip = some address) :
    session.addSource os maxWorkers workerType srcId ip port =
      session.call os maxWorkers (.addSource workerType srcId address port) := by
  unfold addSource Session.address
  rw [Option.bind_some, read]
  rfl

theorem addDestination_eq {srcId destId port : Int} {ip : Text}
    {address : InAddr} (read : inetAton ip = some address) :
    session.addDestination os maxWorkers srcId destId (some ip) port =
      session.call os maxWorkers
        (.addDestination srcId destId address port) := by
  unfold addDestination Session.address
  rw [Option.bind_some, read]
  rfl

theorem valid_of_reads {line : Text} {command : Command}
    (reads : Command.Reads line command) (valid : ValidLine session line) :
    Command.ofLine line = .ok command ∧ ValidCommand session command := by
  unfold ValidLine at valid
  cases read : Command.ofLine line with
  | error fault =>
      rw [read] at valid
      cases valid
  | ok other =>
      rw [read] at valid
      rw [← reads.eq_of_ofLine read]
      exact ⟨rfl, valid⟩

theorem execute_eq {line : Text} {command : Command}
    (reads : Command.Reads line command) (valid : ValidLine session line) :
    session.execute os maxWorkers program line =
      session.carryOut os maxWorkers program line command := by
  unfold execute
  rw [(valid_of_reads reads valid).1]

theorem step_eq_call (used : SessionUse session reflector event)
    (asks : event.Asks session.flowId call) :
    session.step os maxWorkers program event =
      session.call os maxWorkers call := by
  obtain ⟨running, valid⟩ := used
  unfold step
  rw [running]
  cases asks with
  | addSource reads read =>
      exact (execute_eq reads valid).trans (addSource_eq read)
  | removeSource reads => exact execute_eq reads valid
  | addDestination reads read =>
      exact (execute_eq reads valid).trans (addDestination_eq read)
  | removeDestination reads => exact execute_eq reads valid
  | addRequested read => exact addSource_eq read
  | removeRequested => rfl
  | editRequested => rfl
  | background => rfl

theorem call_eq_ok
    (called : session.call os maxWorkers call = .ok (next, output)) :
    ∃ answer, output = .answered call answer ∧
      session.manager.step os maxWorkers call = .ok (next.manager, answer) ∧
      next.flowId = CommandLine.advance session.flowId call := by
  unfold Session.call at called
  cases stepped : session.manager.step os maxWorkers call with
  | error fault =>
      rw [stepped] at called
      cases called
  | ok result =>
      rw [stepped] at called
      cases called
      exact ⟨_, rfl, rfl, rfl⟩

theorem call_ok (present : session.manager.Present) (call : ManagerEvent) :
    ∃ next output, session.call os maxWorkers call = .ok (next, output) := by
  obtain ⟨manager, answer, stepped⟩ := present.step_ok os maxWorkers call
  unfold Session.call
  rw [stepped]
  exact ⟨_, _, rfl⟩

theorem step_ok (present : session.manager.Present)
    (printed : session.manager.Early →
      session.manager.printPortFd.isSome = true)
    (used : SessionUse session reflector event) :
    ∃ next output,
      session.step os maxWorkers program event = .ok (next, output) := by
  have asked {call : ManagerEvent} (asks : event.Asks session.flowId call) :
      ∃ next output,
        session.step os maxWorkers program event = .ok (next, output) := by
    rw [step_eq_call used asks]
    exact call_ok present call
  obtain ⟨running, valid⟩ := used
  cases event with
  | line text =>
      obtain ⟨command, reads⟩ := Command.exists_reads text
      have validCommand := (valid_of_reads reads valid).2
      have carriedOut : session.step os maxWorkers program (.line text) =
          session.carryOut os maxWorkers program text command := by
        unfold step
        rw [running]
        exact execute_eq reads valid
      cases command with
      | addSource workerType ip port =>
          obtain ⟨address, read⟩ := Option.isSome_iff_exists.mp validCommand.1
          exact asked (.addSource reads read)
      | removeSource srcId => exact asked (.removeSource reads)
      | addDestination flow ip port =>
          obtain ⟨address, read⟩ := Option.isSome_iff_exists.mp validCommand
          exact asked (.addDestination reads read)
      | removeDestination flow flow2 => exact asked (.removeDestination reads)
      | printPortFd =>
          obtain ⟨text, listed⟩ :=
            Option.isSome_iff_exists.mp (printed validCommand)
          rw [carriedOut, carryOut, listed]
          exact ⟨_, _, rfl⟩
      | help =>
          rw [carriedOut]
          cases program with
          | commandLine => exact ⟨_, _, rfl⟩
          | webService => exact ⟨_, _, rfl⟩
      | removeIpAddress | printManagement | printForwarding | exit | bad
      | nothing =>
          rw [carriedOut]
          exact ⟨_, _, rfl⟩
  | request request =>
      cases request with
      | addSource workerType srcId ip port =>
          obtain ⟨address, read⟩ := Option.isSome_iff_exists.mp valid.1.1
          exact asked (.addRequested read)
      | removeSource srcId => exact asked .removeRequested
      | addDestination srcId destId port => cases valid
      | removeDestination srcId destId => exact asked .editRequested
  | background call uncalled => exact asked .background
  | endOfInput =>
      unfold step
      rw [running]
      exact ⟨_, _, rfl⟩

end Session

inductive SessionStep (os : Os) (maxWorkers : Int) (session next : Session)
    (event : SessionEvent) : SessionOutput → Prop
  | answered {call : ManagerEvent} {answer : ManagerOutput}
      (asks : event.Asks session.flowId call)
      (stepped : session.manager.step os maxWorkers call =
        .ok (next.manager, answer))
      (counted : next.flowId = CommandLine.advance session.flowId call) :
      SessionStep os maxWorkers session next event (.answered call answer)
  | silent {output : SessionOutput}
      (unanswered : ∀ call answer, output ≠ .answered call answer)
      (manager : next.manager = session.manager)
      (counted : next.flowId = session.flowId) :
      SessionStep os maxWorkers session next event output

namespace SessionStep

variable {os : Os} {maxWorkers : Int} {session next : Session}
  {program : Program} {reflector : Reflector} {event : SessionEvent}
  {output : SessionOutput} {call : ManagerEvent}

theorem of_call (asks : event.Asks session.flowId call)
    (called : session.call os maxWorkers call = .ok (next, output)) :
    SessionStep os maxWorkers session next event output := by
  obtain ⟨answer, rfl, stepped, counted⟩ := Session.call_eq_ok called
  exact .answered asks stepped counted

theorem of_line {line : Text} (valid : ValidLine session line)
    (stepped : session.execute os maxWorkers program line =
      .ok (next, output)) :
    SessionStep os maxWorkers session next (.line line) output := by
  obtain ⟨command, reads⟩ := Command.exists_reads line
  have validCommand := (Session.valid_of_reads reads valid).2
  rw [Session.execute_eq reads valid] at stepped
  cases command with
  | addSource workerType ip port =>
      obtain ⟨address, read⟩ := Option.isSome_iff_exists.mp validCommand.1
      exact .of_call (.addSource reads read)
        ((Session.addSource_eq read).symm.trans stepped)
  | removeSource srcId => exact .of_call (.removeSource reads) stepped
  | addDestination flow ip port =>
      obtain ⟨address, read⟩ := Option.isSome_iff_exists.mp validCommand
      exact .of_call (.addDestination reads read)
        ((Session.addDestination_eq read).symm.trans stepped)
  | removeDestination flow flow2 =>
      exact .of_call (.removeDestination reads) stepped
  | printPortFd =>
      unfold Session.carryOut at stepped
      cases printed : session.manager.printPortFd with
      | none =>
          rw [printed] at stepped
          cases stepped
      | some text =>
          rw [printed] at stepped
          cases stepped
          exact .silent (by simp) rfl rfl
  | help =>
      cases program with
      | commandLine =>
          cases stepped
          exact .silent (by simp) rfl rfl
      | webService =>
          cases stepped
          exact .silent (by simp) rfl rfl
  | removeIpAddress | printManagement | printForwarding | exit | bad
  | nothing =>
      cases stepped
      exact .silent (by simp) rfl rfl

theorem of_step (used : SessionUse session reflector event)
    (stepped : session.step os maxWorkers program event = .ok (next, output)) :
    SessionStep os maxWorkers session next event output := by
  obtain ⟨running, valid⟩ := used
  unfold Session.step at stepped
  rw [running] at stepped
  cases event with
  | line text => exact .of_line valid stepped
  | request request =>
      cases request with
      | addSource workerType srcId ip port =>
          obtain ⟨address, read⟩ := Option.isSome_iff_exists.mp valid.1.1
          exact .of_call (.addRequested read)
            ((Session.addSource_eq read).symm.trans stepped)
      | removeSource srcId => exact .of_call .removeRequested stepped
      | addDestination srcId destId port => cases valid
      | removeDestination srcId destId => exact .of_call .editRequested stepped
  | background event uncalled => exact .of_call .background stepped
  | endOfInput =>
      cases stepped
      exact .silent (by simp) rfl rfl

end SessionStep

structure Session.Numbered (session : Session) (reflector : Reflector) :
    Prop where
  started : 100 ≤ session.flowId
  below : ∀ srcId, (reflector srcId).isSome = true → srcId < session.flowId

theorem Reflector.record_isSome {reflector : Reflector} {event : ManagerEvent}
    {output : ManagerOutput} {srcId : Int}
    (used : (reflector.record event output srcId).isSome = true) :
    (reflector srcId).isSome = true ∨
      ∃ workerType ip port, event = .addSource workerType srcId ip port := by
  cases output with
  | returned code server =>
      change ((if code = 0 then reflector.carryOut event else reflector)
        srcId).isSome = true at used
      split at used
      · rcases eq_or_ne (some srcId) event.changed with same | other
        · cases event with
          | addSource workerType changed ip port =>
              cases same
              exact .inr ⟨workerType, ip, port, rfl⟩
          | removeSource changed =>
              cases same
              change (update reflector srcId none srcId).isSome = true at used
              rw [update_self] at used
              cases used
          | addDestination changed destId ip port =>
              cases same
              change (update reflector srcId _ srcId).isSome = true at used
              rw [update_self, Option.isSome_map] at used
              exact .inl used
          | removeDestination changed destId =>
              cases same
              change (update reflector srcId _ srcId).isSome = true at used
              rw [update_self, Option.isSome_map] at used
              exact .inl used
          | readTimeStamp changed => cases same
          | handleMessage => cases same
          | packet worker fd received => cases same
          | selectTimeout worker => cases same
          | elapse seconds => cases same
        · rw [Reflector.keyed.elsewhere other.symm] at used
          exact .inl used
      · exact .inl used
  | time timeStamp server => exact .inl used
  | sent transmissions => exact .inl used
  | quiet => exact .inl used

namespace SessionUse

variable {session next : Session} {reflector : Reflector}
  {event : SessionEvent} {call : ManagerEvent}

theorem reflectorUse (used : SessionUse session reflector event)
    (numbered : session.Numbered reflector)
    (asks : event.Asks session.flowId call) :
    ReflectorUse session.manager reflector call := by
  obtain ⟨running, valid⟩ := used
  have started := numbered.started
  have unused : reflector session.flowId = none := by
    rw [← Option.not_isSome_iff_eq_none]
    intro used
    exact absurd (numbered.below _ used) (lt_irrefl _)
  cases asks with
  | addSource reads read =>
      obtain ⟨-, low, high, even⟩ := (Session.valid_of_reads reads valid).2
      exact ⟨⟨unused, by omega, low, high, even⟩, trivial⟩
  | removeSource reads => exact ⟨trivial, trivial⟩
  | addDestination reads read => exact ⟨trivial, trivial⟩
  | removeDestination reads => exact ⟨trivial, trivial⟩
  | addRequested read =>
      obtain ⟨⟨-, low, high, even⟩, free, nonzero, -⟩ := valid
      exact ⟨⟨free, nonzero, low, high, even⟩, trivial⟩
  | removeRequested => exact ⟨trivial, trivial⟩
  | editRequested => exact ⟨trivial, trivial⟩
  | @background call uncalled =>
      refine ⟨?_, valid⟩
      cases call with
      | addSource workerType srcId ip port => cases uncalled
      | _ => trivial

theorem asked_le (used : SessionUse session reflector event)
    {workerType srcId : Int} {ip : InAddr} {port : Int}
    (asks : event.Asks session.flowId (.addSource workerType srcId ip port)) :
    srcId ≤ session.flowId := by
  cases asks with
  | addSource reads read => exact le_refl _
  | addRequested read => exact le_of_lt used.2.2.2.2
  | @background event uncalled => cases uncalled

end SessionUse

theorem Session.Numbered.step {os : Os} {maxWorkers : Int}
    {session next : Session} {reflector : Reflector} {event : SessionEvent}
    {output : SessionOutput} (numbered : session.Numbered reflector)
    (used : SessionUse session reflector event)
    (step : SessionStep os maxWorkers session next event output) :
    next.Numbered (Session.observer.update reflector event output) := by
  obtain ⟨started, below⟩ := numbered
  cases step with
  | @answered call answer asks stepped counted =>
      have advances : session.flowId ≤ next.flowId := by
        rw [counted]
        cases call <;> simp [CommandLine.advance]
      refine ⟨by omega, ?_⟩
      intro srcId found
      cases Reflector.record_isSome found with
      | inl known => exact lt_of_lt_of_le (below srcId known) advances
      | inr added =>
          obtain ⟨workerType, ip, port, rfl⟩ := added
          have asked := used.asked_le asks
          rw [counted]
          exact Int.lt_add_one_of_le asked
  | silent unanswered manager counted =>
      have same : Session.observer.update reflector event output =
          reflector := by
        cases output with
        | answered call answer => exact absurd rfl (unanswered call answer)
        | logged text => rfl
        | said text => rfl
        | quiet => rfl
      rw [same]
      exact ⟨by omega, by rw [counted]; exact below⟩

section

variable {program : Program} {os : Os} {maxWorkers : Int} {kernel : Kernel}
  {session : Session} {reflector : Reflector}

theorem sessionMachine_run_numbered
    (run : (sessionMachine program os maxWorkers).Run Session.observer
      SessionUse (Session.start kernel) session reflector) :
    session.Numbered reflector := by
  refine run.invariant (motive := Session.Numbered) ?_ ?_
  · constructor
    · exact le_refl 100
    · intro srcId used
      cases used
  · intro session next reflector event output numbered used stepped
    exact numbered.step used (.of_step used stepped)

/-- What the manager of a session does is a use of it as a reflector. -/
theorem sessionMachine_run_manager
    (run : (sessionMachine program os maxWorkers).Run Session.observer
      SessionUse (Session.start kernel) session reflector) :
    (managerMachine os maxWorkers).Run Reflector.observer ReflectorUse
      (Manager.start kernel) session.manager reflector := by
  refine run.simulated Session.manager id sessionMachine_run_numbered ?_ ?_
  · rfl
  intro session next reflector event output numbered used stepped
  have step : SessionStep os maxWorkers session next event output :=
    .of_step used stepped
  cases step with
  | answered asks called counted =>
      exact .inr ⟨_, _, used.reflectorUse numbered asks, called, rfl⟩
  | silent unanswered manager counted =>
      refine .inl ⟨manager, ?_⟩
      cases output with
      | answered call answer => exact absurd rfl (unanswered call answer)
      | logged text => rfl
      | said text => rfl
      | quiet => rfl

end

end StrManager
