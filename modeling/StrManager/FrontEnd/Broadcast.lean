import StrManager.FrontEnd.Script

namespace StrManager

open Library Text

/-! The broadcast program: one source, and three destinations that receive it. -/

inductive BroadcastStage where
  | starting
  | adding
  | joining (destination : Fin 3)
  | greeting
  | running
  | failing
  | ended (code : Int)
  deriving DecidableEq

namespace Broadcast

def usage : Text :=
  "usage:\nBC_strManager [source IP1] [MCU port1]\n".toList ++
    "              [destination2 IP2] [destination port2]\n".toList ++
    "              [destination3 IP3] [destination port3]\n".toList ++
    "              [destination4 IP4] [destination port4]\n".toList

def announcement (argv : List Text) : Text :=
  "Source:\n".toList ++ pair argv 1 ++ "\n\nDestinations:\n".toList ++
    pair argv 3 ++ '\n' :: pair argv 5 ++ '\n' :: pair argv 7 ++
    "\n\n".toList ++
    "Continuous program. Control^C to interrupt it.\n".toList

def afterDestination (destination : Fin 3) (res : Int) : BroadcastStage :=
  succeeding .joining (if res = 0 then .greeting else .failing) destination

def act (argv : List Text) (manager : Manager) :
    BroadcastStage → Text → Action BroadcastStage
  | .starting, _ =>
      if argv.length = 9 then .say "Broadcast strManager\n\n".toList .adding
      else .say (misuse argv usage) (.ended (-1))
  | .adding, _ =>
      .ofCall (do
        let (ip, port) ← endpoint argv 1 true
        return .addSource 1 0 ip port) fun _ => .joining leading
  | .joining destination, _ =>
      .ofCall (do
        let (ip, port) ← endpoint argv (2 * destination + 3)
          (manager.srcIdWorker.lookup 0).isSome
        return .addDestination 0 (destination + 1) ip port)
        (afterDestination destination)
  | .greeting, _ => .say (announcement argv) .running
  | .running, _ => .say [] .running
  | .failing, _ => .say failure (.ended (-2))
  | .ended code, _ => .say [] (.ended code)

def script (argv : List Text) : Script BroadcastStage where
  first := .starting
  act := act argv
  ended := fun stage =>
    match stage with
    | .ended _ => true
    | _ => false

def joined : BroadcastStage → Nat
  | .joining destination => destination
  | .greeting | .running => 3
  | .starting | .adding | .failing | .ended _ => 0

structure Setup (argv : List Text) where
  ip : InAddr
  port : Int
  destinationIp : Fin 3 → InAddr
  destinationPort : Fin 3 → Int
  count : argv.length = 9
  source : Names argv 1 ip port
  destinations : ∀ destination : Fin 3, Names argv (2 * destination + 3)
    (destinationIp destination) (destinationPort destination)

namespace Setup

variable {argv : List Text} (setup : Setup argv)

def addr : SockAddr := SockAddr.ofPort setup.ip setup.port

def stream (destination : Fin 3) : UdpStream :=
  UdpStream.create (destination + 1) (setup.destinationIp destination)
    (setup.destinationPort destination)

def streams : List UdpStream := List.ofFn setup.stream

theorem addDestination (destination : Fin 3) :
    Registration.addDestination
        ⟨setup.addr, setup.streams.take destination⟩ (setup.stream destination) =
      ⟨setup.addr, setup.streams.take (destination + 1)⟩ := by
  have new : (setup.stream destination).id ∉
      (setup.streams.take destination).map UdpStream.id := by
    have ids : (setup.streams.take destination).map UdpStream.id =
        ([1, 2, 3] : List Int).take destination := by
      rw [List.map_take]
      rfl
    rw [ids]
    change (destination + 1 : Int) ∉ _
    clear ids
    revert destination
    decide
  have entry : setup.streams[(destination : Nat)]? =
      some (setup.stream destination) := by
    rw [streams, List.getElem?_ofFn, dif_pos destination.isLt]
  unfold Registration.addDestination
  rw [if_neg new, List.take_add_one, entry]
  rfl

theorem act_starting (setup : Setup argv) (manager : Manager) (line : Text) :
    act argv manager .starting line =
      .say "Broadcast strManager\n\n".toList .adding :=
  if_pos setup.count

theorem act_adding (manager : Manager) (line : Text) :
    act argv manager .adding line =
      .call (.addSource 1 0 setup.ip setup.port) fun _ => .joining leading := by
  change Action.ofCall (endpoint argv 1 true >>= _) _ = _
  rw [endpoint_eq setup.source]
  rfl

theorem act_joining (manager : Manager) (destination : Fin 3) (line : Text) :
    act argv manager (.joining destination) line =
      .call (.addDestination 0 (destination + 1) (setup.destinationIp destination)
        (setup.destinationPort destination)) (afterDestination destination) := by
  change Action.ofCall (endpoint argv (2 * destination + 3) _ >>= _) _ = _
  rw [endpoint_eq (setup.destinations destination)]
  rfl

theorem act_ne_fail (setup : Setup argv) (manager : Manager)
    (stage : BroadcastStage) (line : Text) (fault : SessionFault) :
    act argv manager stage line ≠ .fail fault := by
  intro fails
  cases stage with
  | starting =>
      rw [setup.act_starting] at fails
      cases fails
  | adding =>
      rw [setup.act_adding] at fails
      cases fails
  | joining destination =>
      rw [setup.act_joining] at fails
      cases fails
  | greeting => cases fails
  | running => cases fails
  | failing => cases fails
  | ended code => cases fails

end Setup

/-- The source has these destinations, and there is no other one. -/
structure Relays (addr : SockAddr) (streams : List UdpStream)
    (manager : Manager) (registry : Registry) : Prop where
  sole : manager.Sole .forward registry
  source : registry.lookup 0 = some ⟨addr, streams⟩
  only : ∀ srcId, (registry.lookup srcId).isSome = true → srcId = 0

namespace Relays

variable {os : Os} {maxWorkers : Int} {addr : SockAddr}
  {streams : List UdpStream} {manager next : Manager} {registry : Registry}
  {event : ManagerEvent} {output : ManagerOutput}

theorem background (relays : Relays addr streams manager registry)
    (uncalled : event.isCall = false) (polled : event.Polled manager)
    (stepped : manager.step os maxWorkers event = .ok (next, output)) :
    Relays addr streams next registry :=
  ⟨relays.sole.background (by decide) uncalled polled stepped, relays.source,
    relays.only⟩

theorem addDestination (relays : Relays addr streams manager registry)
    {destId : Int} {ip : InAddr} {port : Int} {streams2 : List UdpStream}
    (appended : Registration.addDestination ⟨addr, streams⟩
      (UdpStream.create destId ip port) = ⟨addr, streams2⟩)
    (stepped : manager.step os maxWorkers (.addDestination 0 destId ip port) =
      .ok (next, output)) :
    output = .returned 0 (some 0) ∧
      ∃ registry2, Relays addr streams2 next registry2 := by
  have known : (registry.lookup 0).isSome = true := by
    rw [relays.source]
    rfl
  obtain ⟨returned, sole⟩ :=
    relays.sole.edited (by decide) rfl known stepped
  refine ⟨returned, _, sole, ?_, ?_⟩
  · change (registry.change 0 _).lookup 0 = _
    rw [Registry.lookup_change, if_pos rfl, relays.source, Option.map_some,
      appended]
  · intro srcId used
    rw [← relays.only srcId]
    exact (registry.isSome_change 0 srcId _).symm.trans used

theorem process_eq (relays : Relays addr streams manager registry)
    {port fd : Int}
    (hosted : (manager.workers 0).ports.fdPort.lookup fd = some port)
    (sender : SockAddr) {bytes : List UInt8} (content : bytes ≠ []) :
    ((manager.runtime 0).process fd (.datagram sender bytes)).2 =
      deliveries fd bytes streams := by
  obtain ⟨delivered, strayed⟩ :=
    relays.sole.delivers.process_eq hosted sender content
  by_cases same : addr = SockAddr.ofPort sender.sinAddr port
  · exact delivered 0 _ relays.source same
  have unknown : registry.Unknown (SockAddr.ofPort sender.sinAddr port) := by
    intro srcId registration found equal
    have first := relays.only srcId (by rw [found]; rfl)
    rw [first, relays.source] at found
    cases found
    exact same equal
  refine (strayed unknown).trans ?_
  rw [Registry.destinations, relays.source]
  rfl

end Relays

/-- Where the program is, and what its manager has there. -/
inductive Holds {argv : List Text} (setup : Setup argv)
    (caller : Caller BroadcastStage) : Prop
  | starting (stage : caller.stage = .starting ∨ caller.stage = .adding)
      (clean : caller.res = 0) (sole : caller.manager.Sole .forward ∅)
  | joining {destination : Fin 3} {registry : Registry}
      (stage : caller.stage = .joining destination) (clean : caller.res = 0)
      (relays : Relays setup.addr (setup.streams.take destination)
        caller.manager registry)
  | running {registry : Registry}
      (stage : caller.stage = .greeting ∨ caller.stage = .running)
      (clean : caller.res = 0)
      (relays : Relays setup.addr setup.streams caller.manager registry)
  | refused (failed : caller.res < 0) (lacks : caller.manager.Lacks 0)
      (stage : (∃ destination, caller.stage = .joining destination) ∨
        caller.stage = .failing ∨ caller.stage = .ended (-2))

namespace Holds

variable {os : Os} {maxWorkers : Int} {argv : List Text} {setup : Setup argv}
  {caller next : Caller BroadcastStage} {event : CallerEvent}
  {output : SessionOutput}

theorem start (setup : Setup argv) (kernel : Kernel) :
    Holds setup (Caller.start (script argv) kernel) :=
  .starting (.inl rfl) rfl (.start _ kernel)

theorem present (holds : Holds setup caller) : caller.manager.Present := by
  cases holds with
  | starting stage clean sole => exact sole.present
  | joining stage clean relays => exact relays.sole.present
  | running stage clean relays => exact relays.sole.present
  | refused failed lacks stage => exact lacks.present

theorem background (holds : Holds setup caller) {manager : Manager}
    {call : ManagerEvent} {answer : ManagerOutput}
    (uncalled : call.isCall = false) (polled : call.Polled caller.manager)
    (stepped : caller.manager.step os maxWorkers call =
      .ok (manager, answer)) :
    Holds setup { caller with manager := manager } := by
  cases holds with
  | starting stage clean sole =>
      exact .starting stage clean
        (sole.background (by decide) uncalled polled stepped)
  | joining stage clean relays =>
      exact .joining stage clean (relays.background uncalled polled stepped)
  | running stage clean relays =>
      exact .running stage clean (relays.background uncalled polled stepped)
  | refused failed lacks stage =>
      exact .refused failed (lacks.background uncalled stepped) stage

theorem added {manager : Manager} {answer : ManagerOutput}
    (sole : caller.manager.Sole .forward ∅)
    (stepped : caller.manager.step os maxWorkers
      (.addSource 1 0 setup.ip setup.port) = .ok (manager, answer)) :
    Holds setup ⟨manager, answer.code, .joining leading⟩ := by
  have unused : (∅ : Registry).lookup 0 = none := Table.lookup_empty 0
  cases sole.addSource (by decide) unused (Registry.unknown_empty setup.addr)
    stepped with
  | inl taken =>
      have source : ((∅ : Registry).addSource 0 setup.addr).lookup 0 =
          some ⟨setup.addr, setup.streams.take leading⟩ := by
        rw [Registry.lookup_addSource, if_pos rfl]
        rfl
      refine .joining rfl taken.1 ⟨taken.2, source, ?_⟩
      intro srcId used
      rw [Registry.lookup_addSource] at used
      split at used
      · assumption
      · rw [Table.lookup_empty] at used
        cases used
  | inr refused =>
      have failed : answer.code < 0 := by
        rw [refused.1]
        decide
      exact .refused failed refused.2 (.inl ⟨leading, rfl⟩)

theorem called (holds : Holds setup caller) {line : Text} {call : ManagerEvent}
    {after : Int → BroadcastStage} {manager : Manager} {answer : ManagerOutput}
    (acts : act argv caller.manager caller.stage line = .call call after)
    (stepped : caller.manager.step os maxWorkers call =
      .ok (manager, answer)) :
    Holds setup ⟨manager, caller.res + answer.code,
      after (caller.res + answer.code)⟩ := by
  cases holds with
  | starting current clean sole =>
      cases current with
      | inl current =>
          rw [current, setup.act_starting] at acts
          cases acts
      | inr current =>
          rw [current, setup.act_adding] at acts
          cases acts
          rw [clean, zero_add]
          exact added sole stepped
  | @joining destination registry current clean relays =>
      rw [current, setup.act_joining] at acts
      cases acts
      obtain ⟨rfl, registry2, more⟩ :=
        relays.addDestination (setup.addDestination destination) stepped
      rw [clean]
      obtain ⟨next, later, isNext⟩ | ⟨last, later⟩ :=
        succeeding_cases BroadcastStage.joining _ destination
      · rw [← isNext] at more
        exact .joining later rfl more
      · rw [last] at more
        exact .running (.inl later) rfl more
  | running current clean relays =>
      cases current with
      | inl current =>
          rw [current] at acts
          cases acts
      | inr current =>
          rw [current] at acts
          cases acts
  | refused failed lacks current =>
      have less : caller.res + answer.code < 0 := by
        have nonpositive := Manager.step_code stepped
        omega
      rcases current with ⟨destination, current⟩ | current | current
      · rw [current, setup.act_joining] at acts
        cases acts
        refine .refused less (lacks.step (by simp) (by simp) stepped) ?_
        have gives_up : afterDestination destination (caller.res + answer.code) =
            succeeding .joining .failing destination := by
          unfold afterDestination
          rw [if_neg less.ne]
        obtain ⟨next, later, -⟩ | ⟨last, later⟩ :=
          succeeding_cases BroadcastStage.joining .failing destination
        · exact .inl ⟨next, gives_up.trans later⟩
        · exact .inr (.inl (gives_up.trans later))
      · rw [current] at acts
        cases acts
      · rw [current] at acts
        cases acts

theorem told (holds : Holds setup caller) {line text : Text}
    {stage : BroadcastStage}
    (acts : act argv caller.manager caller.stage line = .say text stage) :
    Holds setup { caller with stage := stage } := by
  cases holds with
  | starting current clean sole =>
      cases current with
      | inl current =>
          rw [current, setup.act_starting] at acts
          cases acts
          exact .starting (.inr rfl) clean sole
      | inr current =>
          rw [current, setup.act_adding] at acts
          cases acts
  | joining current clean relays =>
      rw [current, setup.act_joining] at acts
      cases acts
  | running current clean relays =>
      refine .running (.inr ?_) clean relays
      cases current with
      | inl current =>
          rw [current] at acts
          cases acts
          rfl
      | inr current =>
          rw [current] at acts
          cases acts
          rfl
  | refused failed lacks current =>
      refine .refused failed lacks (.inr (.inr ?_))
      rcases current with ⟨destination, current⟩ | current | current
      · rw [current, setup.act_joining] at acts
        cases acts
      · rw [current] at acts
        cases acts
        rfl
      · rw [current] at acts
        cases acts
        rfl

theorem runs (holds : Holds setup caller) (running : caller.stage = .running) :
    caller.res = 0 := by
  cases holds with
  | starting stage clean sole => exact clean
  | joining stage clean relays => exact clean
  | running stage clean relays => exact clean
  | refused failed lacks stage =>
      rw [running] at stage
      simp at stage

theorem gives_up (holds : Holds setup caller) {code : Int}
    (ended : caller.stage = .ended code) :
    code = -2 ∧ caller.manager.srcIdWorker.lookup 0 = none := by
  cases holds with
  | refused failed lacks stage =>
      rw [ended] at stage
      have same : code = -2 := by simpa using stage
      exact ⟨same, lacks.missing⟩
  | starting stage | running stage =>
      rw [ended] at stage
      simp at stage
  | joining stage =>
      rw [ended] at stage
      cases stage

theorem process_eq (holds : Holds setup caller) (clean : caller.res = 0)
    {port fd : Int}
    (hosted : (caller.manager.workers 0).ports.fdPort.lookup fd = some port)
    (sender : SockAddr) {bytes : List UInt8} (content : bytes ≠ []) :
    ((caller.manager.runtime 0).process fd (.datagram sender bytes)).2 =
      deliveries fd bytes (setup.streams.take (joined caller.stage)) := by
  cases holds with
  | starting stage clean sole =>
      have none : joined caller.stage = 0 := by
        cases stage with
        | inl stage => rw [stage]; rfl
        | inr stage => rw [stage]; rfl
      have strayed := (sole.delivers.process_eq hosted sender content).2
        (Registry.unknown_empty _)
      rw [none]
      exact strayed
  | joining stage clean relays =>
      rw [stage]
      exact relays.process_eq hosted sender content
  | running stage clean relays =>
      have all : joined caller.stage = 3 := by
        cases stage with
        | inl stage => rw [stage]; rfl
        | inr stage => rw [stage]; rfl
      rw [all]
      exact relays.process_eq hosted sender content
  | refused failed lacks stage =>
      rw [clean] at failed
      cases failed

end Holds

end Broadcast

section

open Broadcast

variable {os : Os} {maxWorkers : Int} {argv : List Text} {kernel : Kernel}
  {caller : Caller BroadcastStage}

theorem callerMachine_run_broadcast (setup : Setup argv)
    (run : (callerMachine (script argv) os maxWorkers).Run Observer.none
      (fun caller _ event => event.Polled caller)
      (Caller.start (script argv) kernel) caller ()) : Holds setup caller := by
  refine callerMachine_run_invariant (motive := fun caller _ =>
    Holds setup caller) (.start setup kernel) (fun _ _ => rfl) ?_ ?_ ?_ run
  · intro caller record line call after manager answer holds acts stepped
    exact holds.called acts stepped
  · intro caller record line text stage holds acts
    exact holds.told acts
  · intro caller record event uncalled manager answer holds polled stepped
    exact holds.background uncalled polled stepped

/-- Whatever the threads do in between, the program does not fail and gives up
only without its source, and until a call fails every datagram, whoever sent
it, goes once to each destination that has been added, in order. -/
theorem broadcast_reaches (setup : Setup argv)
    (run : (callerMachine (script argv) os maxWorkers).Run Observer.none
      (fun caller _ event => event.Polled caller)
      (Caller.start (script argv) kernel) caller ()) :
    (∀ event, ∃ next output, (callerMachine (script argv) os maxWorkers).step
      caller event = .ok (next, output)) ∧
    (caller.stage = .running → caller.res = 0) ∧
    (∀ code, caller.stage = .ended code →
      code = -2 ∧ caller.manager.srcIdWorker.lookup 0 = none) ∧
    (caller.res = 0 → ∀ port fd sender bytes,
      (caller.manager.workers 0).ports.fdPort.lookup fd = some port →
      bytes ≠ [] →
        ((caller.manager.runtime 0).process fd (.datagram sender bytes)).2 =
          deliveries fd bytes (setup.streams.take (joined caller.stage))) := by
  have holds := callerMachine_run_broadcast setup run
  refine ⟨?_, holds.runs, ?_, ?_⟩
  · intro event
    exact Caller.step_ok holds.present
      (fun line fault => setup.act_ne_fail _ _ line fault) event
  · intro code ended
    exact holds.gives_up ended
  · intro clean port fd sender bytes hosted content
    exact holds.process_eq clean hosted sender content

end

namespace Broadcast

def localArguments : List Text :=
  ["BC_strManager", "127.0.0.1", "1111", "127.0.0.1", "2222", "127.0.0.1",
    "3333", "127.0.0.1", "4444"].map String.toList

def localSetup : Setup localArguments where
  ip := 0x7f000001
  port := 1111
  destinationIp _ := 0x7f000001
  destinationPort destination := 1111 * (destination + 2)
  count := rfl
  source := by
    unfold Names
    decide +kernel
  destinations := by
    unfold Names
    decide +kernel

end Broadcast

open Broadcast in
/-- A datagram from a stranger reaches the three destinations. -/
theorem broadcast_reaches_stranger : ∃ caller,
    (callerMachine (script localArguments) .orderly 10).Run Observer.none
      (fun caller _ event => event.Polled caller)
      (Caller.start (script localArguments) .fresh) caller () ∧
    caller.stage = .running ∧
    ((caller.manager.runtime 0).process 3
      (.datagram ⟨0x0a000005, 40000⟩ [7, 8])).2 =
        deliveries 3 [7, 8] localSetup.streams := by
  obtain ⟨caller, record, run, running, hosted⟩ : ∃ caller record,
      (callerMachine (script localArguments) .orderly 10).Run Observer.none
        (fun caller _ event => event.Polled caller)
        (Caller.start (script localArguments) .fresh) caller record ∧
      caller.stage = .running ∧
      (caller.manager.workers 0).ports.fdPort.lookup 3 = some 1111 :=
    ⟨_, _, .of_replay (List.replicate 6 (CallerEvent.turn []))
      (by decide +kernel), by decide +kernel, by decide +kernel⟩
  obtain ⟨-, runs, -, receives⟩ := broadcast_reaches localSetup run
  refine ⟨caller, run, running, ?_⟩
  rw [receives (runs running) 1111 3 _ [7, 8] hosted (by decide), running]
  rfl

end StrManager
