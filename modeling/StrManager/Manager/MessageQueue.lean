import StrManager.Library.Machine
import StrManager.Library.NamedQueue
import StrManager.Manager.Basic

namespace StrManager

open Library Function

/-! The message queue between the workers and the manager. `messageHandler` and
every `sendMessage` open it by its name, and each of them removes the name when
a call of the queue throws. -/

/-- A message in a queue, and the `sendMessage` call that put it there if it
was one of this process. -/
structure Envelope where
  send : Option Nat
  message : Message
  deriving DecidableEq, Repr

inductive HandlerStage where
  | starting
  | removed
  | receiving (queue : Nat)
  | returned
  deriving DecidableEq, Repr

structure Messaging where
  queues : NamedQueue Envelope
  handler : HandlerStage
  /-- The queue that a thread opened in `sendMessage`, and its message. -/
  senders : Nat → Option (Nat × Message)
  sends : Nat

inductive MessagingEvent where
  | removeQueue
  | openQueue
  | receive
  | leaveHandler
  | openToSend (thread : Nat) (message : Message)
  | send (thread : Nat)
  | throwInSend (thread : Nat)

inductive MessagingOutput where
  | sent (envelope : Envelope)
  | received (envelope : Envelope)
  | quiet

namespace Messaging

/-- The `max_num_msg` both sides pass to `open_or_create`. -/
def maxMessages : Nat := 100

/-- Before the thread of `messageHandler` runs, with what earlier processes
left behind. -/
def start (earlier : NamedQueue Message) : Messaging where
  queues := {
    contents := fun queue => (earlier.contents queue).map (⟨none, ·⟩)
    created := earlier.created
    named := earlier.named
    valid := earlier.valid }
  handler := .starting
  senders := fun _ => none
  sends := 0

/-- One call of a thread; there is no step while the call waits. -/
def step (state : Messaging) :
    MessagingEvent → Except Unit (Messaging × MessagingOutput)
  | .removeQueue =>
      match state.handler with
      | .starting => .ok ({ state with
          queues := state.queues.unlink
          handler := .removed }, .quiet)
      | _ => .error ()
  | .openQueue =>
      match state.handler with
      | .removed => .ok ({ state with
          queues := state.queues.openOrCreate.2
          handler := .receiving state.queues.openOrCreate.1 }, .quiet)
      | _ => .error ()
  | .receive =>
      match state.handler with
      | .receiving queue =>
          match state.queues.pop queue with
          | some (envelope, queues) =>
              .ok ({ state with queues := queues }, .received envelope)
          | none => .error ()
      | _ => .error ()
  -- The loop ends, or a call of the handler throws.
  | .leaveHandler =>
      match state.handler with
      | .removed | .receiving _ => .ok ({ state with
          queues := state.queues.unlink
          handler := .returned }, .quiet)
      | _ => .error ()
  | .openToSend thread message =>
      match state.senders thread with
      | none => .ok ({ state with
          queues := state.queues.openOrCreate.2
          senders := update state.senders thread
            (some (state.queues.openOrCreate.1, message)) }, .quiet)
      | some _ => .error ()
  | .send thread =>
      match state.senders thread with
      | some (queue, message) =>
          if (state.queues.contents queue).length < maxMessages then
            .ok ({ state with
              queues := state.queues.push queue ⟨some state.sends, message⟩
              senders := update state.senders thread none
              sends := state.sends + 1 }, .sent ⟨some state.sends, message⟩)
          else .error ()
      | none => .error ()
  -- Either call of `sendMessage` throws.
  | .throwInSend thread => .ok ({ state with
      queues := state.queues.unlink
      senders := update state.senders thread none }, .quiet)

def unreceived : Observer MessagingEvent MessagingOutput (List Envelope) where
  initial := []
  update record
    | _, .sent envelope => record ++ [envelope]
    | _, .received envelope => record.filter (· ≠ envelope)
    | _, .quiet => record

/-- The queue that `messageHandler` receives from, or the one that it opens
next. -/
def target (state : Messaging) : Option Nat :=
  match state.handler with
  | .removed => state.queues.named
  | .receiving queue => some queue
  | .starting | .returned => none

/-- Every idle message that was sent and not received can still be
received. -/
def Safe (state : Messaging) (record : List Envelope) : Prop :=
  ∀ envelope ∈ record, envelope.message.type = 100 →
    ∃ queue, state.target = some queue ∧
      envelope ∈ state.queues.contents queue

/-- An idle message is sent to the queue of the handler, and while one waits
nothing takes the name away before the handler opened its queue, and the handler
stays. -/
def KeepsIdle (state : Messaging) (record : List Envelope) :
    MessagingEvent → Prop
  | .send thread => ∀ opened ∈ state.senders thread,
      opened.2.type = 100 → state.target = some opened.1
  | .throwInSend _ => state.handler = .removed →
      ∀ envelope ∈ record, envelope.message.type ≠ 100
  | .leaveHandler => ∀ envelope ∈ record, envelope.message.type ≠ 100
  | _ => True

instance (state : Messaging) (record : List Envelope)
    (event : MessagingEvent) : Decidable (state.KeepsIdle record event) :=
  match event with
  | .send thread => inferInstanceAs (Decidable (∀ opened ∈ state.senders thread,
      opened.2.type = 100 → state.target = some opened.1))
  | .throwInSend _ => inferInstanceAs (Decidable (state.handler = .removed →
      ∀ envelope ∈ record, envelope.message.type ≠ 100))
  | .leaveHandler => inferInstanceAs (Decidable
      (∀ envelope ∈ record, envelope.message.type ≠ 100))
  | .removeQueue | .openQueue | .receive | .openToSend _ _ => isTrue trivial

end Messaging

def messagingMachine :
    Machine Messaging MessagingEvent MessagingOutput Unit where
  step := Messaging.step

/-! What one step can do. -/

inductive MessagingStep (state next : Messaging) :
    MessagingEvent → MessagingOutput → Prop
  | removedQueue (starting : state.handler = .starting)
      (same : next = { state with
        queues := state.queues.unlink
        handler := .removed }) :
      MessagingStep state next .removeQueue .quiet
  | openedQueue (removed : state.handler = .removed)
      (same : next = { state with
        queues := state.queues.openOrCreate.2
        handler := .receiving state.queues.openOrCreate.1 }) :
      MessagingStep state next .openQueue .quiet
  | received {queue : Nat} {envelope : Envelope} (rest : List Envelope)
      (receiving : state.handler = .receiving queue)
      (found : state.queues.contents queue = envelope :: rest)
      (same : next = { state with queues := { state.queues with
        contents := update state.queues.contents queue rest } }) :
      MessagingStep state next .receive (.received envelope)
  | leftHandler
      (same : next = { state with
        queues := state.queues.unlink
        handler := .returned }) :
      MessagingStep state next .leaveHandler .quiet
  | openedToSend {thread : Nat} {message : Message}
      (same : next = { state with
        queues := state.queues.openOrCreate.2
        senders := update state.senders thread
          (some (state.queues.openOrCreate.1, message)) }) :
      MessagingStep state next (.openToSend thread message) .quiet
  | sent {thread queue : Nat} {message : Message}
      (opened : state.senders thread = some (queue, message))
      (same : next = { state with
        queues := state.queues.push queue ⟨some state.sends, message⟩
        senders := update state.senders thread none
        sends := state.sends + 1 }) :
      MessagingStep state next (.send thread)
        (.sent ⟨some state.sends, message⟩)
  | threwInSend {thread : Nat}
      (same : next = { state with
        queues := state.queues.unlink
        senders := update state.senders thread none }) :
      MessagingStep state next (.throwInSend thread) .quiet

theorem MessagingStep.of_step {state next : Messaging} {event : MessagingEvent}
    {output : MessagingOutput}
    (stepped : state.step event = .ok (next, output)) :
    MessagingStep state next event output := by
  cases event with
  | removeQueue =>
      simp only [Messaging.step] at stepped
      split at stepped
      · rename_i starting
        cases stepped
        exact .removedQueue starting rfl
      · cases stepped
  | openQueue =>
      simp only [Messaging.step] at stepped
      split at stepped
      · rename_i removed
        cases stepped
        exact .openedQueue removed rfl
      · cases stepped
  | receive =>
      simp only [Messaging.step] at stepped
      split at stepped
      · rename_i queue receiving
        split at stepped
        · rename_i envelope queues popped
          obtain ⟨rest, found, rfl⟩ := NamedQueue.pop_eq_some_iff.mp popped
          cases stepped
          exact .received rest receiving found rfl
        · cases stepped
      · cases stepped
  | leaveHandler =>
      simp only [Messaging.step] at stepped
      split at stepped
      · cases stepped
        exact .leftHandler rfl
      · cases stepped
        exact .leftHandler rfl
      · cases stepped
  | openToSend thread message =>
      simp only [Messaging.step] at stepped
      split at stepped
      · cases stepped
        exact .openedToSend rfl
      · cases stepped
  | send thread =>
      simp only [Messaging.step] at stepped
      split at stepped
      · rename_i queue message opened
        split at stepped
        · cases stepped
          exact .sent opened rfl
        · cases stepped
      · cases stepped
  | throwInSend thread =>
      cases stepped
      exact .threwInSend rfl

namespace Messaging

variable {state next : Messaging} {event : MessagingEvent}
  {output : MessagingOutput} {record : List Envelope}

structure Holds (state : Messaging) : Prop where
  below : ∀ queue, state.handler = .receiving queue →
    queue < state.queues.created
  numbered : ∀ queue, ∀ envelope ∈ state.queues.contents queue,
    ∀ number ∈ envelope.send, number < state.sends

namespace Holds

theorem start (earlier : NamedQueue Message) :
    (Messaging.start earlier).Holds where
  below := by
    intro queue receiving
    cases receiving
  numbered := by
    intro queue envelope member number numbered
    obtain ⟨message, -, rfl⟩ := List.mem_map.mp member
    cases numbered

theorem target_below (holds : state.Holds) {queue : Nat}
    (target : state.target = some queue) : queue < state.queues.created := by
  unfold Messaging.target at target
  split at target
  · exact state.queues.valid queue target
  · rename_i receiving
    cases target
    exact holds.below queue receiving
  · cases target
  · cases target

theorem transfer (holds : state.Holds)
    (handler : ∀ queue, next.handler = .receiving queue →
      queue < next.queues.created)
    (contents : ∀ queue, ∀ envelope ∈ next.queues.contents queue,
      envelope ∈ state.queues.contents queue)
    (sends : next.sends = state.sends) : next.Holds where
  below := handler
  numbered := by
    intro queue envelope member number numbered
    rw [sends]
    exact holds.numbered queue envelope (contents queue envelope member) number
      numbered

end Holds

theorem Safe.none_idle (safe : state.Safe record)
    (missing : state.target = none) :
    ∀ envelope ∈ record, envelope.message.type ≠ 100 := by
  intro envelope member idle
  obtain ⟨queue, target, -⟩ := safe envelope member idle
  rw [missing] at target
  cases target

theorem Safe.of_none_idle
    (none : ∀ envelope ∈ record, envelope.message.type ≠ 100) :
    state.Safe record :=
  fun envelope member idle => absurd idle (none envelope member)

theorem Safe.transfer (safe : state.Safe record)
    (kept : ∀ queue, state.target = some queue →
      next.target = some queue ∧
        ∀ envelope ∈ state.queues.contents queue,
          envelope ∈ next.queues.contents queue) : next.Safe record := by
  intro envelope member idle
  obtain ⟨queue, target, stored⟩ := safe envelope member idle
  obtain ⟨same, keeps⟩ := kept queue target
  exact ⟨queue, same, keeps envelope stored⟩

theorem Safe.opened (safe : state.Safe record) (holds : state.Holds)
    (queues : next.queues = state.queues.openOrCreate.2)
    (handler : next.handler = state.handler) : next.Safe record := by
  apply safe.transfer
  intro queue target
  have below := holds.target_below target
  constructor
  · unfold Messaging.target at target ⊢
    rw [handler, queues]
    split at target
    · rw [NamedQueue.openOrCreate_of_named target]
      exact target
    · exact target
    · cases target
    · cases target
  · rw [queues, NamedQueue.contents_openOrCreate _ below]
    exact fun envelope stored => stored

theorem Safe.received (safe : state.Safe record) {queue : Nat}
    {envelope : Envelope} {rest : List Envelope}
    (receiving : state.handler = .receiving queue)
    (found : state.queues.contents queue = envelope :: rest) :
    Safe { state with queues := { state.queues with
        contents := update state.queues.contents queue rest } }
      (record.filter (· ≠ envelope)) := by
  intro other member idle
  obtain ⟨waits, different⟩ := List.mem_filter.mp member
  obtain ⟨source, target, stored⟩ := safe other waits idle
  refine ⟨source, target, ?_⟩
  unfold Messaging.target at target
  rw [receiving] at target
  cases target
  change other ∈ update state.queues.contents queue rest queue
  rw [found] at stored
  rw [update_self]
  rcases List.mem_cons.mp stored with same | later
  · exact absurd same (of_decide_eq_true different)
  · exact later

theorem Safe.sent_iff (safe : state.Safe record) (holds : state.Holds)
    (queue : Nat) (message : Message)
    (senders : Nat → Option (Nat × Message)) (sends : Nat) :
    Safe { state with
        queues := state.queues.push queue ⟨some state.sends, message⟩
        senders := senders
        sends := sends } (record ++ [⟨some state.sends, message⟩]) ↔
      (message.type = 100 → state.target = some queue) := by
  constructor
  · intro after idle
    obtain ⟨source, target, stored⟩ := after ⟨some state.sends, message⟩
      (List.mem_append_right record (List.mem_singleton_self _)) idle
    rcases eq_or_ne source queue with rfl | elsewhere
    · exact target
    · -- No other queue has a message with the number of this send.
      rw [NamedQueue.contents_push, update_of_ne elsewhere] at stored
      have earlier := holds.numbered source _ stored state.sends rfl
      exact absurd earlier (lt_irrefl _)
  · intro keeps envelope member idle
    rcases List.mem_append.mp member with waits | new
    · obtain ⟨source, target, stored⟩ := safe envelope waits idle
      refine ⟨source, target, ?_⟩
      rw [NamedQueue.contents_push, update_apply]
      split
      · rename_i here
        rw [← here]
        exact List.mem_append_left _ stored
      · exact stored
    · rw [List.mem_singleton] at new
      subst new
      refine ⟨queue, keeps idle, ?_⟩
      rw [NamedQueue.contents_push, update_self]
      exact List.mem_append_right _ (List.mem_singleton_self _)

end Messaging

namespace MessagingStep

variable {state next : Messaging} {event : MessagingEvent}
  {output : MessagingOutput} {record : List Envelope}

theorem holds (step : MessagingStep state next event output)
    (holds : state.Holds) : next.Holds := by
  cases step with
  | removedQueue starting same =>
      subst same
      refine holds.transfer ?_ (fun _ _ member => member) rfl
      intro queue receiving
      cases receiving
  | openedQueue removed same =>
      subst same
      refine holds.transfer ?_ (fun _ _ => NamedQueue.mem_openOrCreate) rfl
      intro queue receiving
      cases receiving
      exact state.queues.openOrCreate.2.valid _ (NamedQueue.named_openOrCreate _)
  | @received queue envelope rest receiving found same =>
      subst same
      refine holds.transfer holds.below ?_ rfl
      intro other stored member
      change stored ∈ update state.queues.contents queue rest other at member
      rw [update_apply] at member
      split at member
      · rename_i here
        rw [here, found]
        exact List.mem_cons_of_mem envelope member
      · exact member
  | leftHandler same =>
      subst same
      refine holds.transfer ?_ (fun _ _ member => member) rfl
      intro queue receiving
      cases receiving
  | openedToSend same =>
      subst same
      refine holds.transfer ?_ (fun _ _ => NamedQueue.mem_openOrCreate) rfl
      intro queue receiving
      exact (holds.below queue receiving).trans_le
        state.queues.created_le_openOrCreate
  | @sent thread queue message opened same =>
      subst same
      refine ⟨holds.below, ?_⟩
      intro other envelope member number numbered
      change number < state.sends + 1
      rw [NamedQueue.contents_push, update_apply] at member
      split at member
      · rcases List.mem_append.mp member with stored | new
        · exact (holds.numbered queue envelope stored number numbered).trans
            (Nat.lt_succ_self _)
        · rw [List.mem_singleton.mp new] at numbered
          cases numbered
          exact Nat.lt_succ_self _
      · exact (holds.numbered other envelope member number numbered).trans
          (Nat.lt_succ_self _)
  | threwInSend same =>
      subst same
      exact holds.transfer holds.below (fun _ _ member => member) rfl

theorem safe_iff (step : MessagingStep state next event output)
    (holds : state.Holds) (safe : state.Safe record) :
    next.Safe (Messaging.unreceived.update record event output) ↔
      state.KeepsIdle record event := by
  cases step with
  | removedQueue starting same =>
      subst same
      refine iff_of_true (.of_none_idle (safe.none_idle ?_)) trivial
      unfold Messaging.target
      rw [starting]
  | openedQueue removed same =>
      subst same
      refine iff_of_true (safe.transfer ?_) trivial
      intro queue target
      unfold Messaging.target at target
      rw [removed] at target
      change some state.queues.openOrCreate.1 = some queue ∧
        ∀ envelope ∈ _, envelope ∈ state.queues.openOrCreate.2.contents queue
      rw [NamedQueue.openOrCreate_of_named target]
      exact ⟨rfl, fun _ stored => stored⟩
  | @received queue envelope rest receiving found same =>
      subst same
      exact iff_of_true (safe.received receiving found) trivial
  | leftHandler same =>
      subst same
      constructor
      · intro after
        exact after.none_idle rfl
      · exact .of_none_idle
  | openedToSend same =>
      subst same
      exact iff_of_true (safe.opened holds rfl rfl) trivial
  | @sent thread queue message opened same =>
      subst same
      refine (safe.sent_iff holds queue message _ _).trans ?_
      simp only [Messaging.KeepsIdle, opened, Option.mem_def,
        Option.some.injEq, forall_eq']
  | @threwInSend thread same =>
      subst same
      by_cases removed : state.handler = .removed
      · constructor
        · intro after _
          apply after.none_idle
          unfold Messaging.target
          simp only [removed, NamedQueue.named_unlink]
        · intro keeps
          exact .of_none_idle (keeps removed)
      · refine iff_of_true (safe.transfer ?_) fun here => absurd here removed
        intro queue target
        refine ⟨?_, fun _ stored => stored⟩
        unfold Messaging.target at target ⊢
        split at target
        · exact absurd ‹_› removed
        · rename_i receiving
          simp only [receiving]
          exact target
        · cases target
        · cases target

end MessagingStep

/-- In a run whose steps meet the condition every idle message that was sent and
not received is in the queue of the handler, and the next step keeps it so
exactly when it meets the condition. -/
theorem notices_kept {earlier : NamedQueue Message} {state : Messaging}
    {record : List Envelope}
    (run : messagingMachine.Run Messaging.unreceived
      (fun state record event => state.KeepsIdle record event)
      (Messaging.start earlier) state record) :
    state.Safe record ∧
      ∀ event next output,
        messagingMachine.step state event = .ok (next, output) →
        (next.Safe (Messaging.unreceived.update record event output) ↔
          state.KeepsIdle record event) := by
  obtain ⟨holds, safe⟩ : state.Holds ∧ state.Safe record := by
    refine run.invariant
      (motive := fun state record => state.Holds ∧ state.Safe record)
      ⟨.start earlier, ?_⟩ ?_
    · intro envelope member
      cases member
    · intro state next record event output both keeps stepped
      have step := MessagingStep.of_step stepped
      exact ⟨step.holds both.1, (step.safe_iff both.1 both.2).mpr keeps⟩
  refine ⟨safe, ?_⟩
  intro event next output stepped
  exact (MessagingStep.of_step stepped).safe_iff holds safe

/-- An idle message is sent while the handler receives, and another send
throws. -/
theorem notices_kept_received :
    ∃ state record,
      messagingMachine.Run Messaging.unreceived
        (fun state record event => state.KeepsIdle record event)
        (Messaging.start .empty) state record ∧
      record ≠ [] ∧ state.Safe record := by
  have run : messagingMachine.Run Messaging.unreceived
      (fun state record event => state.KeepsIdle record event)
      (Messaging.start .empty) _ _ :=
    .of_replay [.removeQueue, .openQueue, .openToSend 0 ⟨100, 3, "IDLE"⟩,
      .send 0, .throwInSend 1] (by decide)
  exact ⟨_, _, run, by decide, (notices_kept run).1⟩

/-- An idle message is sent before the thread of the handler removes the
queue. -/
theorem notices_lost :
    ∃ state record,
      messagingMachine.Run Messaging.unreceived (fun _ _ _ => True)
        (Messaging.start .empty) state record ∧
      ¬ state.Safe record := by
  have run : messagingMachine.Run Messaging.unreceived (fun _ _ _ => True)
      (Messaging.start .empty) _ _ :=
    .of_replay [.openToSend 0 ⟨100, 3, "IDLE"⟩, .send 0, .removeQueue,
      .openQueue] (by decide)
  refine ⟨_, _, run, ?_⟩
  intro safe
  obtain ⟨queue, target, stored⟩ := safe ⟨some 0, ⟨100, 3, "IDLE"⟩⟩
    (by decide) rfl
  cases target
  exact absurd stored (by decide)

/-! What the queue of the handler is to the manager. -/

namespace Messaging

def messages (state : Messaging) (queue : Nat) : List Message :=
  (state.queues.contents queue).map Envelope.message

/-- The manager's queue is the one `messageHandler` receives from. -/
def Backs (state : Messaging) (manager : Manager) : Prop :=
  ∃ queue, state.handler = .receiving queue ∧
    manager.queue = state.messages queue

variable {state next : Messaging} {manager : Manager}

theorem Backs.received {envelope : Envelope} (backs : state.Backs manager)
    (stepped : state.step .receive = .ok (next, .received envelope)) :
    next.Backs manager.handleMessage ∧
      manager.handleMessage.workerIdWorker =
        if envelope.message.type = 100 then
          manager.workerIdWorker.erase envelope.message.sender
        else manager.workerIdWorker := by
  obtain ⟨queue, receiving, same⟩ := backs
  have step : MessagingStep state next .receive (.received envelope) :=
    .of_step stepped
  cases step with
  | @received source _ rest receivingFrom found updated =>
      rw [receiving] at receivingFrom
      cases receivingFrom
      subst updated
      have queued : manager.queue =
          envelope.message :: rest.map Envelope.message := by
        rw [same, messages, found, List.map_cons]
      unfold Manager.handleMessage
      rw [queued]
      refine ⟨⟨queue, receiving, ?_⟩, rfl⟩
      change _ = (update state.queues.contents queue rest queue).map _
      rw [update_self]

theorem Backs.sent {thread queue : Nat} {message : Message}
    (backs : state.Backs manager)
    (opened : state.senders thread = some (queue, message))
    (target : state.target = some queue) {output : MessagingOutput}
    (stepped : state.step (.send thread) = .ok (next, output)) :
    next.Backs { manager with queue := manager.queue ++ [message] } := by
  obtain ⟨reading, receiving, same⟩ := backs
  have step : MessagingStep state next (.send thread) output :=
    .of_step stepped
  cases step with
  | @sent _ source sentMessage openedFrom updated =>
      rw [opened] at openedFrom
      cases openedFrom
      subst updated
      unfold Messaging.target at target
      rw [receiving] at target
      cases target
      refine ⟨queue, receiving, ?_⟩
      change manager.queue ++ [message] =
        (update state.queues.contents queue _ queue).map _
      rw [same, update_self, List.map_append]
      rfl

theorem Backs.same (backs : state.Backs manager)
    (handler : next.handler = state.handler)
    (contents : ∀ queue, state.handler = .receiving queue →
      next.queues.contents queue = state.queues.contents queue) :
    next.Backs manager := by
  obtain ⟨queue, receiving, same⟩ := backs
  refine ⟨queue, handler.trans receiving, ?_⟩
  rw [messages, contents queue receiving]
  exact same

/-- While the handler stays, each step of the threads is to the manager's queue
what a turn of the handler is, or a message that a worker queues, or
nothing. -/
theorem Backs.step {event : MessagingEvent} {output : MessagingOutput}
    (backs : state.Backs manager) (holds : state.Holds)
    (stepped : state.step event = .ok (next, output))
    (stays : event ≠ .leaveHandler) :
    next.Backs manager ∨ next.Backs manager.handleMessage ∨
      ∃ message, next.Backs
        { manager with queue := manager.queue ++ [message] } := by
  have step := MessagingStep.of_step stepped
  have reads := backs
  obtain ⟨reading, receiving, -⟩ := reads
  cases step with
  | removedQueue starting same =>
      rw [receiving] at starting
      cases starting
  | openedQueue removed same =>
      rw [receiving] at removed
      cases removed
  | received rest source found same => exact .inr (.inl (backs.received stepped).1)
  | leftHandler same => exact absurd rfl stays
  | openedToSend same =>
      subst same
      refine .inl (backs.same rfl ?_)
      intro queue here
      exact state.queues.contents_openOrCreate (holds.below queue here)
  | @sent thread queue message opened same =>
      rcases eq_or_ne queue reading with rfl | elsewhere
      · have target : state.target = some queue := by
          unfold Messaging.target
          rw [receiving]
        exact .inr (.inr ⟨message, backs.sent opened target stepped⟩)
      · subst same
        refine .inl (backs.same rfl ?_)
        intro other here
        rw [receiving] at here
        cases here
        exact update_of_ne elsewhere.symm _ _
  | threwInSend same =>
      subst same
      exact .inl (backs.same rfl fun _ _ => rfl)

end Messaging

end StrManager
