import FerroTunnel.Link.RegisterSteps

/-!
# What an endpoint queues

Every frame that an endpoint queues was made by `open_stream`, by a write, by a
shutdown or by `send_frame`.  So a property of what these make is a property of
every frame that is queued, batched or waits to be queued, whatever the callers do.
-/

namespace FerroTunnel.Link

open FerroTunnel.Channel
open FerroTunnel.Stream
open FerroTunnel.Transport
open FerroTunnel.Wire

/-- The frames that are made for the wire channel satisfy the property. -/
structure Makes (Allowed : PrioritizedFrame → Prop) : Prop where
  opens : ∀ streamId protocol priority,
    Allowed (priority, Multiplexer.openFrame streamId protocol priority)
  data : ∀ priority streamId payload, Allowed (priority, .data streamId payload false)
  closes : ∀ priority streamId, Allowed (priority, .closeStream streamId .normal)
  sends : ∀ frame priorities, Allowed (Multiplexer.priorityForFrame frame priorities, frame)

/-- The frames at an endpoint satisfy the property: those in the wire channel and in
the batch, and those of calls that wait for room. -/
structure Holds (Allowed : PrioritizedFrame → Prop) (endpoint : Endpoint) : Prop where
  queued : ∀ item ∈ endpoint.unencoded, Allowed item
  opening : ∀ chan call, endpoint.opening chan = some call → Allowed call.future.item
  handled : ∀ chan handle, endpoint.handles chan = some handle →
    ∀ future ∈ handle.stream.pendingSend, Allowed future.item
  waiting : ∀ stream ∈ endpoint.waiting, stream.pendingSend = none

section Polls

variable {Allowed : PrioritizedFrame → Prop} {outbox : Bounded PrioritizedFrame}

/-- A send that is polled enters its own frame, or keeps it. -/
theorem poll_allowed {future : SendFuture} (item : Allowed future.item)
    (queue : ∀ item ∈ outbox.queue, Allowed item) (now : Nat) :
    (∀ item ∈ (future.poll outbox now).2.2.queue, Allowed item) ∧
      ((future.poll outbox now).1 = .pending → Allowed (future.poll outbox now).2.1.item) := by
  rcases future.poll_cases outbox now with
    ⟨next, polled, queueEq, -⟩ | ⟨failure, polled⟩ | ⟨later, polled, itemEq⟩ <;> rw [polled]
  · refine ⟨?_, nofun⟩
    intro entered member
    rw [queueEq] at member
    rcases List.mem_append.mp member with before | new
    · exact queue entered before
    · rw [List.mem_singleton.mp new]
      exact item
  · exact ⟨queue, nofun⟩
  · exact ⟨queue, fun _ => itemEq ▸ item⟩

variable {stream : VirtualStream}

theorem sendClose_allowed (makes : Makes Allowed) (queue : ∀ item ∈ outbox.queue, Allowed item)
    (now : Nat) :
    (∀ item ∈ (stream.sendClose outbox now).2.2.queue, Allowed item) ∧
      ∀ future ∈ (stream.sendClose outbox now).2.1.pendingSend, Allowed future.item := by
  have close : Allowed stream.closeItem := makes.closes _ _
  obtain ⟨⟨count, queueEq⟩, -, -, closing, -⟩ := stream.sendClose_step outbox now
  constructor
  · intro item member
    rw [queueEq] at member
    rcases List.mem_append.mp member with before | new
    · exact queue item before
    · rw [List.eq_of_mem_replicate new]
      exact close
  · intro future pending
    rw [closing future pending]
    exact close

theorem pollShutdown_allowed (makes : Makes Allowed)
    (pending : ∀ future ∈ stream.pendingSend, Allowed future.item)
    (queue : ∀ item ∈ outbox.queue, Allowed item) (now : Nat) :
    (∀ item ∈ (stream.pollShutdown outbox now).2.2.queue, Allowed item) ∧
      ∀ future ∈ (stream.pollShutdown outbox now).2.1.pendingSend, Allowed future.item := by
  unfold VirtualStream.pollShutdown
  split
  · next future pendingEq =>
    have polled := poll_allowed (pending future pendingEq) queue now
    revert polled
    rcases future.poll outbox now with ⟨_ | _, later, next⟩
    · exact fun polled => sendClose_allowed makes polled.1 now
    · rintro ⟨entered, waits⟩
      refine ⟨entered, ?_⟩
      rintro _ ⟨⟩
      exact waits rfl
  · exact sendClose_allowed makes queue now

theorem pollWrite_allowed (makes : Makes Allowed)
    (pending : ∀ future ∈ stream.pendingSend, Allowed future.item)
    (queue : ∀ item ∈ outbox.queue, Allowed item) (now : Nat) (buf : Bytes) :
    (∀ item ∈ (stream.pollWrite outbox now buf).2.2.queue, Allowed item) ∧
      ∀ future ∈ (stream.pollWrite outbox now buf).2.1.pendingSend, Allowed future.item := by
  have made : Allowed (stream.writeItem buf) := by
    cases pendingEq : stream.pendingSend with
    | some future =>
        rw [VirtualStream.writeItem, pendingEq]
        exact pending future pendingEq
    | none =>
        rw [VirtualStream.writeItem, pendingEq]
        exact makes.data _ _ _
  rcases stream.pollWrite_cases outbox now buf with
    ⟨next, polled, queueEq, -⟩ | ⟨failure, polled⟩ | ⟨later, polled, itemEq⟩ <;> rw [polled]
  · constructor
    · intro item member
      rw [queueEq] at member
      rcases List.mem_append.mp member with before | new
      · exact queue item before
      · rw [List.mem_singleton.mp new]
        exact made
    · rintro _ ⟨⟩
  · exact ⟨queue, by rintro _ ⟨⟩⟩
  · refine ⟨queue, ?_⟩
    rintro _ ⟨⟩
    rw [itemEq]
    exact made

end Polls

namespace Holds

variable {Allowed : PrioritizedFrame → Prop} {bincode : Bincode} {endpoint next : Endpoint}
  (holds : Holds Allowed endpoint)

include holds

theorem outbox : ∀ item ∈ endpoint.outbox.queue, Allowed item :=
  fun item member => holds.queued item (List.mem_append_right _ member)

/-- The frames in the wire channel change, and the batch does not. -/
theorem queued_of_outbox (sender : next.sender = endpoint.sender)
    (outbox : ∀ item ∈ next.outbox.queue, Allowed item) :
    ∀ item ∈ next.unencoded, Allowed item := by
  intro item member
  rcases List.mem_append.mp member with batched | queued
  · rw [sender] at batched
    exact holds.queued item (List.mem_append_left _ batched)
  · exact outbox item queued

/-- One stream changes. -/
theorem handled_update {other : ChanId} {after : Option Handle}
    (pending : ∀ handle ∈ after, ∀ future ∈ handle.stream.pendingSend, Allowed future.item)
    (chan : ChanId) (handle : Handle)
    (found : Function.update endpoint.handles other after chan = some handle) :
    ∀ future ∈ handle.stream.pendingSend, Allowed future.item := by
  by_cases same : chan = other
  · subst same
    rw [Function.update_self] at found
    exact pending handle found
  · rw [Function.update_of_ne same] at found
    exact holds.handled chan handle found

/-- One call of `open_stream` changes. -/
theorem opening_update {other : ChanId} {after : Option Opening}
    (item : ∀ call ∈ after, Allowed call.future.item) (chan : ChanId) (call : Opening)
    (found : Function.update endpoint.opening other after chan = some call) :
    Allowed call.future.item := by
  by_cases same : chan = other
  · subst same
    rw [Function.update_self] at found
    exact item call found
  · rw [Function.update_of_ne same] at found
    exact holds.opening chan call found

theorem collect (stepEq : endpoint.collect bincode = some next) : Holds Allowed next := by
  simp only [Endpoint.collect] at stepEq
  split at stepEq
  · next frames yielded collecting =>
    cases stepEq
    refine ⟨?_, holds.opening, holds.handled, holds.waiting⟩
    have before : ∀ item ∈ frames ++ endpoint.outbox.queue, Allowed item := by
      have queued := holds.queued
      rw [Endpoint.unencoded, collecting] at queued
      exact queued
    rcases collected : Transport.collect .default bincode endpoint.outbox false frames yielded
      with ⟨task, rest⟩
    rcases collect_cases _ _ _ _ collected with ⟨moved, flag, rfl, queueEq⟩ | ⟨rfl, queueEq⟩ |
      ⟨rfl, rfl, queueEq⟩
    · intro item member
      apply before
      rw [← queueEq, ← List.append_assoc]
      exact member
    · intro item member
      rw [Endpoint.unencoded, flushBatch_batch, queueEq] at member
      exact before item (List.mem_append_right _ member)
    · intro item member
      rw [Endpoint.unencoded, queueEq] at member
      exact before item member
  · cases stepEq

/-- Only streams that wait for their owner change, and these have nothing to send. -/
theorem of_waiting (sender : next.sender = endpoint.sender) (outbox : next.outbox = endpoint.outbox)
    (opening : next.opening = endpoint.opening) (handles : next.handles = endpoint.handles)
    (waiting : ∀ stream ∈ next.waiting, stream.pendingSend = none) : Holds Allowed next := by
  refine ⟨?_, opening ▸ holds.opening, handles ▸ holds.handled, waiting⟩
  exact holds.queued_of_outbox sender (outbox ▸ holds.outbox)

/-- Frames from the peer make streams with nothing to send. -/
theorem decode (stepEq : endpoint.decode bincode = some next) : Holds Allowed next := by
  simp only [Endpoint.decode] at stepEq
  split at stepEq
  · have waiting : ∀ stream ∈ endpoint.mux.newStreams.queue ++ [], stream.pendingSend = none := by
      rw [List.append_nil]
      exact fun stream member => holds.waiting stream (List.mem_append_left _ member)
    split at stepEq
    · cases stepEq
    · cases stepEq
      exact holds.of_waiting rfl rfl rfl rfl holds.waiting
    · next frame rest decoded =>
      rcases endpoint.mux.processFrame_cases frame with ⟨openStream, -, -, processed⟩ |
        ⟨streamId, tx, -, ⟨_, _, -, processed⟩ | ⟨_, -, processed⟩⟩ |
        ⟨-, -, streams, priorities, -, processed⟩ <;>
        rw [processed] at stepEq <;> cases stepEq
      · refine holds.of_waiting rfl rfl rfl rfl ?_
        intro stream member
        rcases List.mem_append.mp member with before | new
        · exact waiting stream (List.mem_append_left _ before)
        · rw [List.mem_singleton.mp new]
          rfl
      · exact holds.of_waiting rfl rfl rfl rfl waiting
      · exact holds.of_waiting rfl rfl rfl rfl waiting
      · exact holds.of_waiting rfl rfl rfl rfl waiting
  · cases stepEq

/-- A stream that the read loop hands on was waiting before. -/
theorem resume (stepEq : endpoint.resume = some next) : Holds Allowed next := by
  obtain ⟨mux, resumed, rfl⟩ := Option.map_eq_some_iff.mp stepEq
  have moved (queue : ∀ stream ∈ mux.newStreams.queue, stream ∈ endpoint.waiting) :
      Holds Allowed { endpoint with mux := mux, task := .idle } := by
    refine holds.of_waiting rfl rfl rfl rfl ?_
    intro stream member
    have queued : stream ∈ mux.newStreams.queue ++ [] := member
    rw [List.append_nil] at queued
    exact holds.waiting stream (queue stream queued)
  have kept (queue : mux.newStreams = endpoint.mux.newStreams) :
      Holds Allowed { endpoint with mux := mux, task := .idle } :=
    moved fun stream member => List.mem_append_left _ (queue ▸ member)
  generalize taskEq : endpoint.task = task at resumed
  cases Multiplexer.resumes_of_resume resumed with
  | queued _ queueEq =>
      apply moved
      intro other member
      rw [Endpoint.waiting, taskEq]
      exact queueEq ▸ member
  | _ => exact kept rfl

theorem pollOpen {chan : ChanId} {now : Nat}
    (stepEq : endpoint.pollOpen chan now = some next) : Holds Allowed next := by
  have noCall : ∀ call ∈ (none : Option Opening), Allowed call.future.item := by
    rintro _ ⟨⟩
  simp only [Endpoint.pollOpen] at stepEq
  split at stepEq
  · cases stepEq
  · next call found =>
    have polled := poll_allowed (holds.opening chan call found) holds.outbox now
    split at stepEq <;> rename_i pollEq <;> rw [pollEq] at polled <;> cases stepEq
    · refine ⟨holds.queued_of_outbox rfl polled.1, holds.opening_update ?_, holds.handled,
        holds.waiting⟩
      rintro _ ⟨⟩
      exact polled.2 rfl
    · exact ⟨holds.queued_of_outbox rfl polled.1, holds.opening_update noCall, holds.handled,
        holds.waiting⟩
    · refine ⟨holds.queued_of_outbox rfl polled.1, holds.opening_update noCall,
        holds.handled_update ?_, holds.waiting⟩
      rintro _ ⟨⟩ _ ⟨⟩

/-- A poll of a stream changes the wire channel and the stream. -/
theorem of_polled {chan : ChanId} {handle : Handle} {outbox : Bounded PrioritizedFrame}
    (queue : ∀ item ∈ outbox.queue, Allowed item)
    (pending : ∀ future ∈ handle.stream.pendingSend, Allowed future.item)
    (sender : next.sender = endpoint.sender) (outboxEq : next.outbox = outbox)
    (opening : next.opening = endpoint.opening)
    (handles : next.handles = Function.update endpoint.handles chan (some handle))
    (waiting : next.waiting = endpoint.waiting) : Holds Allowed next := by
  refine ⟨holds.queued_of_outbox sender (outboxEq ▸ queue), opening ▸ holds.opening, ?_,
    waiting ▸ holds.waiting⟩
  rw [handles]
  apply holds.handled_update
  rintro _ ⟨⟩
  exact pending

/-- A stream that is accepted was waiting, with nothing to send. -/
theorem accept (stepEq : endpoint.accept = some next) : Holds Allowed next := by
  simp only [Endpoint.accept] at stepEq
  split at stepEq
  · cases stepEq
  · have received := endpoint.mux.newStreams.recv_queue
    split at stepEq <;> cases stepEq
    next stream newStreams taken =>
    rw [taken] at received
    have before : ∀ other ∈ stream :: newStreams.queue, other ∈ endpoint.waiting :=
      fun other member => List.mem_append_left _ (received ▸ member)
    refine ⟨holds.queued, holds.opening, holds.handled_update ?_, ?_⟩
    · rintro _ ⟨⟩ future pending
      rw [holds.waiting stream (before stream List.mem_cons_self)] at pending
      cases pending
    · intro other member
      apply holds.waiting other
      rcases List.mem_append.mp member with queued | tasked
      · exact before other (List.mem_cons_of_mem _ queued)
      · exact List.mem_append_right _ tasked

/-- The batch is gone, and the wire channel has no frames that it had not before. -/
theorem of_sender (batch : next.sender.batch = [])
    (queue : next.outbox.queue = endpoint.outbox.queue)
    (opening : next.opening = endpoint.opening) (handles : next.handles = endpoint.handles)
    (waiting : next.waiting = endpoint.waiting) : Holds Allowed next := by
  refine ⟨?_, opening ▸ holds.opening, handles ▸ holds.handled, waiting ▸ holds.waiting⟩
  rw [Endpoint.unencoded, batch, queue]
  exact holds.outbox

variable (makes : Makes Allowed)

include makes

theorem openStream {protocol : Protocol} {priority : StreamPriority} {now : Nat}
    (stepEq : endpoint.openStream protocol priority now = some next) : Holds Allowed next := by
  have begins := Endpoint.beginsOpen_of_openStream stepEq
  rw [Endpoint.openStream, Multiplexer.openStream_of_room begins.room] at stepEq
  cases stepEq
  refine ⟨holds.queued, holds.opening_update ?_, holds.handled, holds.waiting⟩
  rintro _ ⟨⟩
  exact makes.opens _ _ _

theorem pollWrite {chan : ChanId} {now : Nat} {buf : Bytes}
    (stepEq : endpoint.pollWrite chan now buf = some next) : Holds Allowed next := by
  simp only [Endpoint.pollWrite] at stepEq
  split at stepEq
  · cases stepEq
  · next handle found =>
    have polled := pollWrite_allowed makes (holds.handled chan handle found) holds.outbox now buf
    split at stepEq <;> rename_i pollEq <;> rw [pollEq] at polled <;> cases stepEq
    all_goals exact holds.of_polled polled.1 polled.2 rfl rfl rfl rfl rfl

theorem sendFrame {frame : Frame} (stepEq : endpoint.sendFrame frame = some next) :
    Holds Allowed next := by
  have sends := makes.sends frame endpoint.mux.streamPriorities
  simp only [Endpoint.sendFrame] at stepEq
  split at stepEq <;> cases stepEq
  refine ⟨holds.queued_of_outbox rfl ?_, holds.opening, holds.handled, holds.waiting⟩
  rcases endpoint.outbox.trySend_cases
      (Multiplexer.priorityForFrame frame endpoint.mux.streamPriorities, frame) with
    ⟨outbox, sent, -, queueEq, -⟩ | full | ⟨closed, -⟩
  · intro item member
    rw [sent, queueEq] at member
    rcases List.mem_append.mp member with before | new
    · exact holds.outbox item before
    · rw [List.mem_singleton.mp new]
      exact sends
  · rw [full]
    exact holds.outbox
  · rw [closed]
    exact holds.outbox

/-- Every step of an endpoint queues only what its senders make. -/
theorem step {action : EndpointAction} (stepEq : endpoint.step bincode action = some next) :
    Holds Allowed next := by
  cases action with
  | openStream protocol priority now => exact holds.openStream makes stepEq
  | pollOpen chan now => exact holds.pollOpen stepEq
  | dropOpen chan =>
      obtain ⟨call, -, rfl⟩ := Option.map_eq_some_iff.mp stepEq
      refine ⟨holds.queued, holds.opening_update ?_, holds.handled, holds.waiting⟩
      rintro _ ⟨⟩
  | pollWrite chan now buf => exact holds.pollWrite makes stepEq
  | pollShutdown chan now =>
      simp only [Endpoint.step, Endpoint.pollShutdown] at stepEq
      split at stepEq <;> cases stepEq
      next handle found =>
      have polled := pollShutdown_allowed makes (holds.handled chan handle found) holds.outbox now
      exact holds.of_polled polled.1 polled.2 rfl rfl rfl rfl rfl
  | sendFrame frame => exact holds.sendFrame makes stepEq
  | collect => exact holds.collect stepEq
  | decode => exact holds.decode stepEq
  | resume => exact holds.resume stepEq
  | accept => exact holds.accept stepEq
  | closeAcceptor =>
      cases stepEq
      exact holds.of_waiting rfl rfl rfl rfl holds.waiting
  | pollRead chan room =>
      simp only [Endpoint.step, Endpoint.pollRead] at stepEq
      split at stepEq <;> cases stepEq
      next handle found =>
      refine ⟨holds.queued, holds.opening, holds.handled_update ?_, holds.waiting⟩
      rintro _ ⟨⟩ future pending
      rw [(handle.stream.pollRead_step _ _ _).writer.pendingSend] at pending
      exact holds.handled chan handle found future pending
  | dropStream chan =>
      simp only [Endpoint.step, Endpoint.dropStream] at stepEq
      split at stepEq <;> cases stepEq
      refine ⟨holds.queued, holds.opening, holds.handled_update ?_, holds.waiting⟩
      rintro _ ⟨⟩

end Holds

theorem holds_initial (Allowed : PrioritizedFrame → Prop) (isClient : Bool) :
    Holds Allowed (.initial isClient) where
  queued := by simp [Endpoint.initial, Endpoint.unencoded, SenderTask.batch, Bounded.empty]
  opening := by simp [Endpoint.initial]
  handled := by simp [Endpoint.initial]
  waiting := by
    simp [Endpoint.initial, Endpoint.waiting, taskStream, Multiplexer.new, Bounded.empty]

/-- Both ends of a connection queue only what their senders make. -/
theorem holds_step {Allowed : PrioritizedFrame → Prop} (makes : Makes Allowed)
    {bincode : Bincode} {connection after : Connection} {action : Action}
    (holds : ∀ side, Holds Allowed (connection.endpoint side))
    (stepEq : connection.step bincode action = some after) (side : Side) :
    Holds Allowed (after.endpoint side) := by
  refine Connection.step_forall (fun there => there.step makes) ?_ ?_ ?_ holds stepEq side
  · intro endpoint sender there empty
    exact there.of_sender empty rfl rfl rfl rfl
  · intro endpoint there
    exact there.of_sender rfl rfl rfl rfl rfl
  · intro endpoint received there
    exact there.of_waiting rfl rfl rfl rfl there.waiting

end FerroTunnel.Link
