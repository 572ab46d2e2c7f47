import StrManager.FrontEnd.Script

namespace StrManager

open Library Function Text

/-! The zapping program: three channels of which one destination receives one,
and the next one after every empty line. -/

inductive ZapStage where
  | starting
  | adding (channel : Fin 3)
  | opening
  | greeting
  | waiting (actual : Int)
  | leaving (actual : Int)
  | joining (actual : Int)
  | failing
  | ended (code : Int)
  deriving DecidableEq

namespace Zapping

def usage : Text :=
  "usage:\nZAP_strManager [source1 IP1] [MCU port1]".toList ++
    " [source2 IP2] [MCU port2]\n[source3 IP3] [MCU port3]".toList ++
    " [destination IP4] [destination port4]\n".toList

def announcement (argv : List Text) : Text :=
  "Sources:\n".toList ++ pair argv 1 ++ '\n' :: pair argv 3 ++
    '\n' :: pair argv 5 ++ "\n\nDestination:\n".toList ++ pair argv 7 ++
    "\n\n".toList ++ "Press enter to change channel...\n".toList

def changing : Text := "Changing channel...\n".toList

def afterChannel : Fin 3 → ZapStage := succeeding .adding .opening

def join (argv : List Text) (manager : Manager) (actual : Int)
    (next : ZapStage) : Action ZapStage :=
  .ofCall (do
    let (ip, port) ← endpoint argv 7 (manager.srcIdWorker.lookup actual).isSome
    return .addDestination actual 3 ip port) fun res =>
      if res = 0 then next else .failing

def act (argv : List Text) (manager : Manager) :
    ZapStage → Text → Action ZapStage
  | .starting, _ =>
      if argv.length = 9 then .say "Zapping strManager\n".toList (.adding leading)
      else .say (misuse argv usage) (.ended (-1))
  | .adding channel, _ =>
      .ofCall (do
        let (ip, port) ← endpoint argv (2 * channel + 1) true
        return .addSource 1 channel ip port) fun _ => afterChannel channel
  | .opening, _ => join argv manager 0 .greeting
  | .greeting, _ => .say (announcement argv) (.waiting 0)
  | .waiting actual, line =>
      let prompt := "Actual channel = ".toList ++ decimal actual
      if line = [] then .say (prompt ++ changing) (.leaving actual)
      else .say prompt (.waiting actual)
  | .leaving actual, _ =>
      .call (.removeDestination actual 3) fun _ => .joining ((actual + 1) % 3)
  | .joining actual, _ => join argv manager actual (.waiting actual)
  | .failing, _ => .say failure (.ended (-2))
  | .ended code, _ => .say [] (.ended code)

def script (argv : List Text) : Script ZapStage where
  first := .starting
  act := act argv
  ended := fun stage =>
    match stage with
    | .ended _ => true
    | _ => false

def presses : Observer CallerEvent SessionOutput Nat where
  initial := 0
  update count _
    | .said text => if changing <:+ text then count + 1 else count
    | .answered _ _ | .logged _ | .quiet => count

def receiving : ZapStage → Option Int
  | .greeting => some 0
  | .waiting actual | .leaving actual => some actual
  | _ => none

/-- The channel that an address belongs to; channel 0 for a stranger. -/
def channelOf (addr : Fin 3 → SockAddr) (sender : SockAddr) : Int :=
  match (List.finRange 3).find? fun channel => addr channel = sender with
  | some channel => channel
  | none => 0

theorem channelOf_addr {addr : Fin 3 → SockAddr} (apart : Injective addr)
    (channel : Fin 3) : channelOf addr (addr channel) = channel := by
  unfold channelOf
  simp only [apart.eq_iff]
  revert channel
  decide

theorem channelOf_stranger {addr : Fin 3 → SockAddr} {sender : SockAddr}
    (stranger : ∀ channel, addr channel ≠ sender) : channelOf addr sender = 0 := by
  have none : (List.finRange 3).find? (fun channel => addr channel = sender) =
      none := by
    rw [List.find?_eq_none]
    intro channel _
    simpa using stranger channel
  unfold channelOf
  rw [none]

theorem deliveries_ite (fd : Int) (bytes : List UInt8) (stream : UdpStream)
    (P : Prop) [Decidable P] :
    deliveries fd bytes (if P then [stream] else []) =
      if P then deliveries fd bytes [stream] else [] := by
  split <;> rfl

structure Tuned (addr : Fin 3 → SockAddr) (stream : UdpStream)
    (manager : Manager) (registry : Registry) (count : Nat)
    (actual : Option Int) : Prop where
  sole : manager.Sole .forward registry
  channels : ∀ channel : Fin 3, (channel : Nat) < count →
    registry.lookup channel =
      some ⟨addr channel, if actual = some (channel : Int) then [stream] else []⟩
  only : ∀ srcId registration, registry.lookup srcId = some registration →
    ∃ channel : Fin 3, (channel : Nat) < count ∧ srcId = channel

namespace Tuned

variable {os : Os} {maxWorkers : Int} {addr : Fin 3 → SockAddr}
  {stream : UdpStream} {manager next : Manager} {registry : Registry}
  {count : Nat} {actual : Option Int} {event : ManagerEvent}
  {output : ManagerOutput}

theorem start (kernel : Kernel) :
    Tuned addr stream (Manager.start kernel) ∅ 0 none where
  sole := .start _ kernel
  channels := by
    intro channel below
    exact absurd below (Nat.not_lt_zero _)
  only := by
    intro srcId registration found
    rw [Table.lookup_empty] at found
    cases found

theorem unused (tuned : Tuned addr stream manager registry count actual)
    {channel : Fin 3} (above : count ≤ channel) :
    registry.lookup channel = none := by
  by_contra used
  obtain ⟨registration, found⟩ := Option.ne_none_iff_exists'.mp used
  obtain ⟨other, below, same⟩ := tuned.only _ registration found
  omega

theorem unknown (tuned : Tuned addr stream manager registry count actual)
    (apart : Injective addr) {channel : Fin 3} (above : count ≤ channel) :
    registry.Unknown (addr channel) := by
  intro srcId registration found same
  obtain ⟨other, below, rfl⟩ := tuned.only srcId registration found
  rw [tuned.channels other below] at found
  cases found
  have equal := apart same
  omega

theorem addSource (tuned : Tuned addr stream manager registry count none)
    {channel : Fin 3} (isNext : channel = count)
    (sole : next.Sole .forward (registry.addSource channel (addr channel))) :
    Tuned addr stream next (registry.addSource channel (addr channel))
      (count + 1) none := by
  refine ⟨sole, ?_, ?_⟩
  · intro other below
    rw [Registry.lookup_addSource]
    by_cases same : other = channel
    · subst same
      simp
    · rw [if_neg (by omega), tuned.channels other (by omega)]
  · intro srcId registration found
    rw [Registry.lookup_addSource] at found
    split at found
    · exact ⟨channel, by omega, ‹_›⟩
    · obtain ⟨other, below, same⟩ := tuned.only srcId registration found
      exact ⟨other, by omega, same⟩

theorem background (tuned : Tuned addr stream manager registry count actual)
    (uncalled : event.isCall = false) (polled : event.Polled manager)
    (stepped : manager.step os maxWorkers event = .ok (next, output)) :
    Tuned addr stream next registry count actual :=
  ⟨tuned.sole.background (by decide) uncalled polled stepped, tuned.channels,
    tuned.only⟩

theorem known (tuned : Tuned addr stream manager registry 3 actual)
    (channel : Fin 3) : (registry.lookup channel).isSome = true := by
  rw [tuned.channels channel channel.isLt]
  rfl

theorem edit (tuned : Tuned addr stream manager registry 3 actual)
    {channel : Fin 3} {edit : Registration → Registration}
    {actual2 : Option Int}
    (sole : next.Sole .forward (registry.change channel edit))
    (here : edit ⟨addr channel,
        if actual = some (channel : Int) then [stream] else []⟩ =
      ⟨addr channel, if actual2 = some (channel : Int) then [stream] else []⟩)
    (elsewhere : ∀ other : Fin 3, other ≠ channel →
      (actual = some (other : Int) ↔ actual2 = some (other : Int))) :
    Tuned addr stream next (registry.change channel edit) 3 actual2 := by
  refine ⟨sole, ?_, ?_⟩
  · intro other below
    rw [Registry.lookup_change]
    by_cases same : other = channel
    · subst same
      rw [if_pos rfl, tuned.channels other below, Option.map_some, here]
    · rw [if_neg (by omega), tuned.channels other below]
      simp only [elsewhere other same]
  · intro srcId registration found
    have used := congrArg Option.isSome found
    rw [Registry.isSome_change] at used
    obtain ⟨original, stored⟩ := Option.isSome_iff_exists.mp used
    exact tuned.only srcId original stored

theorem join (tuned : Tuned addr stream manager registry 3 none)
    {channel : Fin 3} {ip : InAddr} {port : Int}
    (isStream : stream = UdpStream.create 3 ip port)
    (stepped : manager.step os maxWorkers (.addDestination channel 3 ip port) =
      .ok (next, output)) :
    output = .returned 0 (some 0) ∧
      ∃ registry2, Tuned addr stream next registry2 3 (some channel) := by
  obtain ⟨returned, sole⟩ :=
    tuned.sole.edited (by decide) rfl (tuned.known channel) stepped
  refine ⟨returned, _, tuned.edit sole ?_ ?_⟩
  · simp [Registration.addDestination, isStream]
  · intro other different
    simp
    omega

theorem leave {channel : Fin 3}
    (tuned : Tuned addr stream manager registry 3 (some channel))
    (isThird : stream.id = 3)
    (stepped : manager.step os maxWorkers (.removeDestination channel 3) =
      .ok (next, output)) :
    output = .returned 0 (some 0) ∧
      ∃ registry2, Tuned addr stream next registry2 3 none := by
  obtain ⟨returned, sole⟩ :=
    tuned.sole.edited (by decide) rfl (tuned.known channel) stepped
  refine ⟨returned, _, tuned.edit sole ?_ ?_⟩
  · simp [Registration.removeDestination, isThird]
  · intro other different
    simp
    omega

theorem process_eq (tuned : Tuned addr stream manager registry count actual)
    (apart : Injective addr)
    (complete : actual.isSome = true → count = 3) {port fd : Int}
    (hosted : (manager.workers 0).ports.fdPort.lookup fd = some port)
    (sender : SockAddr) {bytes : List UInt8} (content : bytes ≠ []) :
    ((manager.runtime 0).process fd (.datagram sender bytes)).2 =
      if actual = some (channelOf addr (SockAddr.ofPort sender.sinAddr port))
      then deliveries fd bytes [stream] else [] := by
  obtain ⟨delivered, strayed⟩ :=
    tuned.sole.delivers.process_eq hosted sender content
  by_cases known : ∃ channel : Fin 3, (channel : Nat) < count ∧
      addr channel = SockAddr.ofPort sender.sinAddr port
  · obtain ⟨channel, below, same⟩ := known
    rw [← same, channelOf_addr apart, ← deliveries_ite]
    exact delivered channel _ (tuned.channels channel below) same
  have unknown : registry.Unknown (SockAddr.ofPort sender.sinAddr port) := by
    intro srcId registration found same
    obtain ⟨channel, below, rfl⟩ := tuned.only srcId registration found
    rw [tuned.channels channel below] at found
    cases found
    exact known ⟨channel, below, same⟩
  have zero : registry.destinations 0 =
      if actual = some 0 then [stream] else [] := by
    unfold Registry.destinations
    rcases Nat.eq_zero_or_pos count with none | some
    · have silent : actual ≠ some 0 := by
        rintro rfl
        have full := complete rfl
        omega
      rw [if_neg silent]
      have unused := tuned.unused (show count ≤ ((0 : Fin 3) : Nat) by omega)
      change registry.lookup 0 = _ at unused
      rw [unused]
      rfl
    · have first := tuned.channels 0 some
      change registry.lookup 0 = _ at first
      rw [first]
      rfl
  refine (strayed unknown).trans ?_
  rw [zero, deliveries_ite]
  cases actual with
  | none => rfl
  | some actual =>
      have full := complete rfl
      have stranger : ∀ channel, addr channel ≠
          SockAddr.ofPort sender.sinAddr port := by
        intro channel same
        exact known ⟨channel, by omega, same⟩
      rw [channelOf_stranger stranger]

end Tuned

structure Setup (argv : List Text) where
  ip : Fin 3 → InAddr
  port : Fin 3 → Int
  destinationIp : InAddr
  destinationPort : Int
  count : argv.length = 9
  channels : ∀ channel : Fin 3,
    Names argv (2 * channel + 1) (ip channel) (port channel)
  destination : Names argv 7 destinationIp destinationPort
  apart : Injective fun channel => SockAddr.ofPort (ip channel) (port channel)

namespace Setup

variable {argv : List Text} (setup : Setup argv)

def addr (channel : Fin 3) : SockAddr :=
  SockAddr.ofPort (setup.ip channel) (setup.port channel)

def stream : UdpStream :=
  UdpStream.create 3 setup.destinationIp setup.destinationPort

theorem act_adding (manager : Manager) (channel : Fin 3) (line : Text) :
    act argv manager (.adding channel) line =
      .call (.addSource 1 channel (setup.ip channel) (setup.port channel))
        fun _ => afterChannel channel := by
  change Action.ofCall (endpoint argv (2 * channel + 1) true >>= _) _ = _
  rw [endpoint_eq (setup.channels channel)]
  rfl

theorem join_eq (manager : Manager) (actual : Int) (next : ZapStage) :
    join argv manager actual next =
      .call (.addDestination actual 3 setup.destinationIp setup.destinationPort)
        fun res => if res = 0 then next else .failing := by
  change Action.ofCall (endpoint argv 7 _ >>= _) _ = _
  rw [endpoint_eq setup.destination]
  rfl

theorem act_starting (setup : Setup argv) (manager : Manager) (line : Text) :
    act argv manager .starting line =
      .say "Zapping strManager\n".toList (.adding leading) :=
  if_pos setup.count

theorem act_opening (manager : Manager) (line : Text) :
    act argv manager .opening line =
      .call (.addDestination 0 3 setup.destinationIp setup.destinationPort)
        fun res => if res = 0 then .greeting else .failing :=
  setup.join_eq manager 0 .greeting

theorem act_joining (manager : Manager) (actual : Int) (line : Text) :
    act argv manager (.joining actual) line =
      .call (.addDestination actual 3 setup.destinationIp setup.destinationPort)
        fun res => if res = 0 then .waiting actual else .failing :=
  setup.join_eq manager actual (.waiting actual)

theorem act_ne_fail (setup : Setup argv) (manager : Manager) (stage : ZapStage)
    (line : Text) (fault : SessionFault) :
    act argv manager stage line ≠ .fail fault := by
  intro fails
  cases stage with
  | starting =>
      rw [setup.act_starting] at fails
      cases fails
  | adding channel =>
      rw [setup.act_adding] at fails
      cases fails
  | opening =>
      rw [setup.act_opening] at fails
      cases fails
  | greeting => cases fails
  | joining actual =>
      rw [setup.act_joining] at fails
      cases fails
  | waiting actual =>
      unfold act at fails
      by_cases empty : line = []
      · simp only [if_pos empty] at fails
        cases fails
      · simp only [if_neg empty] at fails
        cases fails
  | leaving actual => cases fails
  | failing => cases fails
  | ended code => cases fails

end Setup

def Passed (channel : Fin 3) : ZapStage → Prop
  | .adding next => channel < next
  | .opening | .failing => True
  | .ended code => code = -2
  | .starting | .greeting | .waiting _ | .leaving _ | .joining _ => False

theorem passed_afterChannel {channel next : Fin 3} (upTo : channel ≤ next) :
    Passed channel (afterChannel next) := by
  unfold afterChannel
  obtain ⟨further, later, isNext⟩ | ⟨last, later⟩ :=
    succeeding_cases ZapStage.adding .opening next
  · rw [later]
    exact Fin.lt_def.mpr (by omega)
  · rw [later]
    trivial

inductive Holds {argv : List Text} (setup : Setup argv)
    (caller : Caller ZapStage) (pressed : Nat) : Prop
  | starting {registry : Registry} (stage : caller.stage = .starting)
      (clean : caller.res = 0) (unpressed : pressed = 0)
      (tuned : Tuned setup.addr setup.stream caller.manager registry 0 none)
  | adding {channel : Fin 3} {registry : Registry}
      (stage : caller.stage = .adding channel) (clean : caller.res = 0)
      (unpressed : pressed = 0)
      (tuned : Tuned setup.addr setup.stream caller.manager registry channel
        none)
  | opening {registry : Registry} (stage : caller.stage = .opening)
      (clean : caller.res = 0) (unpressed : pressed = 0)
      (tuned : Tuned setup.addr setup.stream caller.manager registry 3 none)
  | greeting {registry : Registry} (stage : caller.stage = .greeting)
      (clean : caller.res = 0) (unpressed : pressed = 0)
      (tuned : Tuned setup.addr setup.stream caller.manager registry 3
        (some ((0 : Fin 3) : Int)))
  | joining {channel : Fin 3} {registry : Registry}
      (stage : caller.stage = .joining channel) (clean : caller.res = 0)
      (counted : (pressed % 3 : Nat) = (channel : Nat))
      (tuned : Tuned setup.addr setup.stream caller.manager registry 3 none)
  | waiting {channel : Fin 3} {registry : Registry}
      (stage : caller.stage = .waiting channel) (clean : caller.res = 0)
      (counted : (pressed % 3 : Nat) = (channel : Nat))
      (tuned : Tuned setup.addr setup.stream caller.manager registry 3
        (some channel))
  | leaving {channel : Fin 3} {registry : Registry}
      (stage : caller.stage = .leaving channel) (clean : caller.res = 0)
      (counted : (pressed % 3 : Nat) = ((channel + 1 : Fin 3) : Nat))
      (tuned : Tuned setup.addr setup.stream caller.manager registry 3
        (some channel))
  | refused {channel : Fin 3} (failed : caller.res < 0)
      (lacks : caller.manager.Lacks channel)
      (stage : Passed channel caller.stage)

namespace Holds

variable {os : Os} {maxWorkers : Int} {argv : List Text} {setup : Setup argv}
  {caller next : Caller ZapStage} {pressed : Nat} {event : CallerEvent}
  {output : SessionOutput}

theorem start (setup : Setup argv) (kernel : Kernel) :
    Holds setup (Caller.start (script argv) kernel) 0 :=
  .starting rfl rfl rfl (.start kernel)

theorem present (holds : Holds setup caller pressed) :
    caller.manager.Present := by
  cases holds with
  | starting stage clean unpressed tuned => exact tuned.sole.present
  | adding stage clean unpressed tuned => exact tuned.sole.present
  | opening stage clean unpressed tuned => exact tuned.sole.present
  | greeting stage clean unpressed tuned => exact tuned.sole.present
  | joining stage clean counted tuned => exact tuned.sole.present
  | waiting stage clean counted tuned => exact tuned.sole.present
  | leaving stage clean counted tuned => exact tuned.sole.present
  | refused failed lacks stage => exact lacks.present

theorem background (holds : Holds setup caller pressed) {manager : Manager}
    {call : ManagerEvent} {answer : ManagerOutput}
    (uncalled : call.isCall = false) (polled : call.Polled caller.manager)
    (stepped : caller.manager.step os maxWorkers call =
      .ok (manager, answer)) :
    Holds setup { caller with manager := manager } pressed := by
  cases holds with
  | starting stage clean unpressed tuned =>
      exact .starting stage clean unpressed
        (tuned.background uncalled polled stepped)
  | adding stage clean unpressed tuned =>
      exact .adding stage clean unpressed
        (tuned.background uncalled polled stepped)
  | opening stage clean unpressed tuned =>
      exact .opening stage clean unpressed
        (tuned.background uncalled polled stepped)
  | greeting stage clean unpressed tuned =>
      exact .greeting stage clean unpressed
        (tuned.background uncalled polled stepped)
  | joining stage clean counted tuned =>
      exact .joining stage clean counted
        (tuned.background uncalled polled stepped)
  | waiting stage clean counted tuned =>
      exact .waiting stage clean counted
        (tuned.background uncalled polled stepped)
  | leaving stage clean counted tuned =>
      exact .leaving stage clean counted
        (tuned.background uncalled polled stepped)
  | refused failed lacks stage =>
      exact .refused failed (lacks.background uncalled stepped) stage

theorem next_channel (channel : Fin 3) :
    ((channel : Int) + 1) % 3 = ((channel + 1 : Fin 3) : Int) := by
  revert channel
  decide

theorem added {channel : Fin 3} {registry : Registry} {manager : Manager}
    {answer : ManagerOutput}
    (tuned : Tuned setup.addr setup.stream caller.manager registry channel none)
    (stepped : caller.manager.step os maxWorkers
      (.addSource 1 channel (setup.ip channel) (setup.port channel)) =
        .ok (manager, answer)) :
    Holds setup ⟨manager, answer.code, afterChannel channel⟩ 0 := by
  cases tuned.sole.addSource (by decide) (tuned.unused (le_refl _))
    (tuned.unknown setup.apart (le_refl _)) stepped with
  | inl taken =>
      have after := tuned.addSource rfl taken.2
      obtain ⟨next, stage, isNext⟩ | ⟨last, stage⟩ :=
        succeeding_cases ZapStage.adding .opening channel
      · rw [← isNext] at after
        exact .adding stage taken.1 rfl after
      · rw [last] at after
        exact .opening stage taken.1 rfl after
  | inr refused =>
      have failed : answer.code < 0 := by
        rw [refused.1]
        decide
      exact .refused failed refused.2 (passed_afterChannel (le_refl _))

theorem called_refused {channel : Fin 3} (failed : caller.res < 0)
    (lacks : caller.manager.Lacks channel) (stage : Passed channel caller.stage)
    {line : Text} {call : ManagerEvent} {after : Int → ZapStage}
    {manager : Manager} {answer : ManagerOutput}
    (acts : act argv caller.manager caller.stage line = .call call after)
    (stepped : caller.manager.step os maxWorkers call =
      .ok (manager, answer)) :
    Holds setup ⟨manager, caller.res + answer.code,
      after (caller.res + answer.code)⟩ pressed := by
  have less : caller.res + answer.code < 0 := by
    have nonpositive := Manager.step_code stepped
    omega
  cases current : caller.stage with
  | starting =>
      rw [current] at stage
      cases stage
  | adding next =>
      rw [current] at stage acts
      rw [setup.act_adding] at acts
      cases acts
      have below : channel < next := stage
      have kept : manager.Lacks channel := by
        refine lacks.step (by simp) ?_ stepped
        intro workerType ip port same
        injection same with _ sameId
        omega
      exact .refused less kept (passed_afterChannel below.le)
  | opening =>
      rw [current, setup.act_opening] at acts
      cases acts
      have kept : manager.Lacks channel := lacks.step (by simp) (by simp) stepped
      refine .refused less kept ?_
      have gone : (if caller.res + answer.code = 0 then ZapStage.greeting
          else .failing) = .failing := if_neg less.ne
      simp only [gone]
      trivial
  | greeting =>
      rw [current] at stage
      cases stage
  | waiting actual =>
      rw [current] at stage
      cases stage
  | leaving actual =>
      rw [current] at stage
      cases stage
  | joining actual =>
      rw [current] at stage
      cases stage
  | failing =>
      rw [current] at acts
      cases acts
  | ended code =>
      rw [current] at acts
      cases acts

theorem called (holds : Holds setup caller pressed) {line : Text}
    {call : ManagerEvent} {after : Int → ZapStage} {manager : Manager}
    {answer : ManagerOutput}
    (acts : act argv caller.manager caller.stage line = .call call after)
    (stepped : caller.manager.step os maxWorkers call =
      .ok (manager, answer)) :
    Holds setup ⟨manager, caller.res + answer.code,
      after (caller.res + answer.code)⟩ pressed := by
  cases holds with
  | starting stage clean unpressed tuned =>
      rw [stage, setup.act_starting] at acts
      cases acts
  | adding stage clean unpressed tuned =>
      rw [stage, setup.act_adding] at acts
      cases acts
      rw [clean, unpressed, zero_add]
      exact added tuned stepped
  | opening stage clean unpressed tuned =>
      rw [stage, setup.act_opening] at acts
      cases acts
      have first : caller.manager.step os maxWorkers (.addDestination
        ((0 : Fin 3) : Int) 3 setup.destinationIp setup.destinationPort) =
          .ok (manager, answer) := stepped
      obtain ⟨rfl, registry2, joined⟩ := tuned.join rfl first
      rw [clean]
      exact .greeting rfl rfl unpressed joined
  | greeting stage clean unpressed tuned =>
      rw [stage] at acts
      cases acts
  | joining stage clean counted tuned =>
      rw [stage, setup.act_joining] at acts
      cases acts
      obtain ⟨rfl, registry2, joined⟩ := tuned.join rfl stepped
      rw [clean]
      exact .waiting rfl rfl counted joined
  | @waiting channel registry stage clean counted tuned =>
      rw [stage] at acts
      by_cases empty : line = []
      · simp only [act, if_pos empty] at acts
        cases acts
      · simp only [act, if_neg empty] at acts
        cases acts
  | leaving stage clean counted tuned =>
      rw [stage] at acts
      cases acts
      obtain ⟨rfl, registry2, left⟩ := tuned.leave rfl stepped
      rw [clean, next_channel]
      exact .joining rfl rfl counted left
  | refused failed lacks stage =>
      exact called_refused failed lacks stage acts stepped

theorem presses_silent {line text : Text} (silent : ¬ changing <:+ text) :
    presses.update pressed (.turn line) (.said text) = pressed :=
  @if_neg _ _ silent _ (pressed + 1) pressed

theorem not_changing {text : Text} (oneLine : '\n' ∉ text) :
    ¬ changing <:+ text := by
  intro suffix
  exact oneLine (suffix.subset (by decide))

theorem announcement_not_changing (argv : List Text) :
    ¬ changing <:+ announcement argv := by
  intro suffix
  have last : "Press enter to change channel...\n".toList <:+ announcement argv :=
    List.suffix_append _ _
  have within := List.suffix_of_suffix_length_le suffix last (by decide)
  exact absurd within (by decide)

theorem told_refused (setup : Setup argv) {channel : Fin 3}
    {line text : Text} {stage : ZapStage}
    (passed : Passed channel caller.stage)
    (acts : act argv caller.manager caller.stage line = .say text stage) :
    Passed channel stage := by
  cases current : caller.stage with
  | starting | greeting | waiting actual | leaving actual | joining actual =>
      rw [current] at passed
      cases passed
  | adding next =>
      rw [current, setup.act_adding] at acts
      cases acts
  | opening =>
      rw [current, setup.act_opening] at acts
      cases acts
  | failing =>
      rw [current] at acts
      cases acts
      rfl
  | ended code =>
      rw [current] at acts passed
      cases acts
      exact passed

theorem told (holds : Holds setup caller pressed) {line text : Text}
    {stage : ZapStage}
    (acts : act argv caller.manager caller.stage line = .say text stage) :
    Holds setup { caller with stage := stage }
      (presses.update pressed (.turn line) (.said text)) := by
  cases holds with
  | starting current clean unpressed tuned =>
      rw [current, setup.act_starting] at acts
      cases acts
      rw [presses_silent (by decide)]
      have first : Tuned setup.addr setup.stream caller.manager _
        (leading : Nat) none := tuned
      exact .adding rfl clean unpressed first
  | adding current clean unpressed tuned =>
      rw [current, setup.act_adding] at acts
      cases acts
  | opening current clean unpressed tuned =>
      rw [current, setup.act_opening] at acts
      cases acts
  | greeting current clean unpressed tuned =>
      rw [current] at acts
      cases acts
      rw [presses_silent (announcement_not_changing argv)]
      exact .waiting rfl clean (by rw [unpressed]; rfl) tuned
  | @waiting channel registry current clean counted tuned =>
      rw [current] at acts
      have prompt : '\n' ∉ "Actual channel = ".toList ++ decimal channel := by
        rw [List.mem_append]
        exact not_or.mpr ⟨by decide, decimal_not_mem rfl (by decide) _⟩
      by_cases empty : line = []
      · simp only [act, if_pos empty] at acts
        cases acts
        have more : presses.update pressed (.turn line)
            (.said ("Actual channel = ".toList ++ decimal channel ++
              changing)) = pressed + 1 := if_pos (List.suffix_append _ _)
        rw [more]
        refine .leaving rfl clean ?_ tuned
        rw [Fin.val_add]
        omega
      · simp only [act, if_neg empty] at acts
        cases acts
        rw [presses_silent (not_changing prompt)]
        exact .waiting rfl clean counted tuned
  | leaving current clean counted tuned =>
      rw [current] at acts
      cases acts
  | joining current clean counted tuned =>
      rw [current, setup.act_joining] at acts
      cases acts
  | refused failed lacks passed =>
      exact .refused failed lacks (told_refused setup passed acts)

theorem tuned (holds : Holds setup caller pressed) (clean : caller.res = 0) :
    ∃ registry count actual,
      Tuned setup.addr setup.stream caller.manager registry count actual ∧
        receiving caller.stage = actual ∧ (actual.isSome = true → count = 3) := by
  cases holds with
  | starting stage clean unpressed tuned =>
      exact ⟨_, _, _, tuned, by rw [stage]; rfl, fun some => by cases some⟩
  | adding stage clean unpressed tuned =>
      exact ⟨_, _, _, tuned, by rw [stage]; rfl, fun some => by cases some⟩
  | opening stage clean unpressed tuned =>
      exact ⟨_, _, _, tuned, by rw [stage]; rfl, fun _ => rfl⟩
  | greeting stage clean unpressed tuned =>
      exact ⟨_, _, _, tuned, by rw [stage]; rfl, fun _ => rfl⟩
  | joining stage clean counted tuned =>
      exact ⟨_, _, _, tuned, by rw [stage]; rfl, fun _ => rfl⟩
  | waiting stage clean counted tuned =>
      exact ⟨_, _, _, tuned, by rw [stage]; rfl, fun _ => rfl⟩
  | leaving stage clean counted tuned =>
      exact ⟨_, _, _, tuned, by rw [stage]; rfl, fun _ => rfl⟩
  | refused failed lacks stage =>
      rw [clean] at failed
      cases failed

theorem waits (holds : Holds setup caller pressed) {actual : Int}
    (waiting : caller.stage = .waiting actual) :
    caller.res = 0 ∧ actual = (pressed % 3 : Nat) := by
  cases holds with
  | waiting stage clean counted tuned =>
      rw [stage] at waiting
      cases waiting
      exact ⟨clean, by rw [counted]⟩
  | refused failed lacks stage =>
      rw [waiting] at stage
      cases stage
  | starting stage | adding stage | opening stage | greeting stage
  | joining stage | leaving stage =>
      rw [stage] at waiting
      cases waiting

theorem gives_up (holds : Holds setup caller pressed) {code : Int}
    (ended : caller.stage = .ended code) :
    code = -2 ∧
      ∃ channel : Fin 3, caller.manager.srcIdWorker.lookup channel = none := by
  cases holds with
  | @refused channel failed lacks stage =>
      rw [ended] at stage
      exact ⟨stage, channel, lacks.missing⟩
  | starting stage | adding stage | opening stage | greeting stage
  | waiting stage | leaving stage | joining stage =>
      rw [stage] at ended
      cases ended

end Holds

end Zapping

section

open Zapping

variable {os : Os} {maxWorkers : Int} {argv : List Text} {kernel : Kernel}
  {caller : Caller ZapStage} {pressed : Nat}

theorem callerMachine_run_zapping (setup : Setup argv)
    (run : (callerMachine (script argv) os maxWorkers).Run presses
      (fun caller _ event => event.Polled caller)
      (Caller.start (script argv) kernel) caller pressed) :
    Holds setup caller pressed := by
  refine callerMachine_run_invariant (motive := Holds setup)
    (.start setup kernel) (fun _ _ => rfl) ?_ ?_ ?_ run
  · intro caller pressed line call after manager answer holds acts stepped
    exact holds.called acts stepped
  · intro caller pressed line text stage holds acts
    exact holds.told acts
  · intro caller pressed event uncalled manager answer holds polled stepped
    exact holds.background uncalled polled stepped

/-- Whatever the threads do in between, the program does not fail; it waits
with the channel that the number of empty lines gives, gives up only without a
channel, and until a call fails the destination receives what comes from its
channel and nothing else. -/
theorem zapping_switches (setup : Setup argv)
    (run : (callerMachine (script argv) os maxWorkers).Run presses
      (fun caller _ event => event.Polled caller)
      (Caller.start (script argv) kernel) caller pressed) :
    (∀ event, ∃ next output, (callerMachine (script argv) os maxWorkers).step
      caller event = .ok (next, output)) ∧
    (∀ actual, caller.stage = .waiting actual →
      caller.res = 0 ∧ actual = (pressed % 3 : Nat)) ∧
    (∀ code, caller.stage = .ended code → code = -2 ∧
      ∃ channel : Fin 3, caller.manager.srcIdWorker.lookup channel = none) ∧
    (caller.res = 0 → ∀ port fd sender bytes,
      (caller.manager.workers 0).ports.fdPort.lookup fd = some port →
      bytes ≠ [] →
        ((caller.manager.runtime 0).process fd (.datagram sender bytes)).2 =
          if receiving caller.stage =
            some (channelOf setup.addr (SockAddr.ofPort sender.sinAddr port))
          then deliveries fd bytes [setup.stream] else []) := by
  have holds := callerMachine_run_zapping setup run
  refine ⟨?_, ?_, ?_, ?_⟩
  · intro event
    exact Caller.step_ok holds.present
      (fun line fault => setup.act_ne_fail _ _ line fault) event
  · intro actual waiting
    exact holds.waits waiting
  · intro code ended
    exact holds.gives_up ended
  · intro clean port fd sender bytes hosted content
    obtain ⟨registry, count, actual, tuned, receives, complete⟩ :=
      holds.tuned clean
    rw [receives]
    exact tuned.process_eq setup.apart complete hosted sender content

end

namespace Zapping

def localArguments : List Text :=
  ["ZAP_strManager", "127.0.0.1", "1111", "127.0.0.1", "2222", "127.0.0.1",
    "3333", "10.0.0.9", "4444"].map String.toList

def localSetup : Setup localArguments where
  ip _ := 0x7f000001
  port channel := 1111 * (channel + 1)
  destinationIp := 0x0a000009
  destinationPort := 4444
  count := rfl
  channels := by
    unfold Names
    decide +kernel
  destination := by
    unfold Names
    decide +kernel
  apart := by
    decide +kernel

end Zapping

open Zapping in
/-- After one empty line the destination receives the second channel, and no
more the first one. -/
theorem zapping_switches_second : ∃ caller pressed,
    (callerMachine (script localArguments) .orderly 10).Run presses
      (fun caller _ event => event.Polled caller)
      (Caller.start (script localArguments) .fresh) caller pressed ∧
    pressed = 1 ∧ caller.stage = .waiting 1 ∧
    ((caller.manager.runtime 0).process 4
      (.datagram ⟨0x7f000001, 40000⟩ [7])).2 =
        deliveries 4 [7] [localSetup.stream] ∧
    ((caller.manager.runtime 0).process 3
      (.datagram ⟨0x7f000001, 40000⟩ [7])).2 = [] := by
  have run : (callerMachine (script localArguments) .orderly 10).Run presses
      (fun caller _ event => event.Polled caller)
      (Caller.start (script localArguments) .fresh) _ _ :=
    .of_replay (List.replicate 9 (CallerEvent.turn [])) (by decide +kernel)
  obtain ⟨-, -, -, receives⟩ := zapping_switches localSetup run
  have clean := receives (by decide +kernel)
  refine ⟨_, _, run, by decide +kernel, by decide +kernel, ?_, ?_⟩
  · rw [clean 2222 4 _ [7] (by decide +kernel) (by decide)]
    exact if_pos (by decide +kernel)
  · rw [clean 1111 3 _ [7] (by decide +kernel) (by decide)]
    exact if_neg (by decide +kernel)

end StrManager
