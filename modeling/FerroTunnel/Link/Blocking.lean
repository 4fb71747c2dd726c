import FerroTunnel.Link.FrameRules
import FerroTunnel.Link.RegisterSteps

/-!
# A stream that is not read stalls the session

The session loop hands each frame to `process_frame` and waits for it.  When the
channel of one stream is full, the loop waits for the owner of that stream, and
does nothing else meanwhile: it decodes no frame, dispatches no other stream, and
sends no heartbeat.
-/

namespace FerroTunnel.Link

open FerroTunnel.Channel
open FerroTunnel.Stream
open FerroTunnel.Transition
open FerroTunnel.Transport
open FerroTunnel.Wire

variable {bincode : Bincode} {endpoint start next : Endpoint} {chan : ChanId}

/-- The read loop sends to a channel that has a receiver and no room. -/
structure Blocked (chan : ChanId) (endpoint : Endpoint) : Prop where
  target : ∃ streamId, taskTarget endpoint.task = some (streamId, chan)
  present : (endpoint.mux.channels chan).receiverGone = false
  full : (endpoint.mux.channels chan).capacity + (endpoint.mux.channels chan).parked.toNat ≤
    (endpoint.mux.channels chan).queue.length

/-- The actions by which a channel gets room, or loses its receiver. -/
inductive Frees (chan : ChanId) : EndpointAction → Prop
  | pollRead (room : Nat) : Frees chan (.pollRead chan room)
  | dropStream : Frees chan (.dropStream chan)
  | pollOpen (now : Nat) : Frees chan (.pollOpen chan now)
  | dropOpen : Frees chan (.dropOpen chan)

/-- Nothing has come through the read loop since the start: it holds the same frame,
what is received piles up, and no stream channel has got anything. -/
structure Stalled (chan : ChanId) (start endpoint : Endpoint) : Prop where
  task : endpoint.task = start.task
  channel : endpoint.mux.channels chan = start.mux.channels chan
  received : start.received <+: endpoint.received
  queues : ∀ other,
    (endpoint.mux.channels other).queue <:+ (start.mux.channels other).queue

theorem Stalled.refl (chan : ChanId) (endpoint : Endpoint) : Stalled chan endpoint endpoint :=
  ⟨rfl, rfl, List.prefix_rfl, fun _ => List.suffix_rfl⟩

theorem Stalled.trans (first : Stalled chan start endpoint) (second : Stalled chan endpoint next) :
    Stalled chan start next :=
  ⟨second.task.trans first.task, second.channel.trans first.channel,
    first.received.trans second.received,
    fun other => (second.queues other).trans (first.queues other)⟩

theorem Blocked.of_stalled (blocked : Blocked chan start) (stalled : Stalled chan start endpoint) :
    Blocked chan endpoint := by
  constructor
  · rw [stalled.task]
    exact blocked.target
  · rw [stalled.channel]
    exact blocked.present
  · rw [stalled.channel]
    exact blocked.full

theorem Blocked.ne_idle (blocked : Blocked chan endpoint) : endpoint.task ≠ .idle := by
  obtain ⟨streamId, target⟩ := blocked.target
  intro idle
  rw [idle] at target
  cases target

/-- A full channel keeps the read loop waiting. -/
theorem Blocked.resume_eq_none (blocked : Blocked chan endpoint) : endpoint.resume = none := by
  obtain ⟨streamId, target⟩ := blocked.target
  have full (item : StreamItem) : (endpoint.mux.channels chan).trySend item =
      (.full, endpoint.mux.channels chan) := by
    rw [Bounded.trySend, blocked.present]
    exact dif_neg (Nat.not_lt.mpr blocked.full)
  cases taskEq : endpoint.task with
  | sendData id tx frame | sendClose id tx frame =>
      rw [taskEq] at target
      cases target
      simp only [Endpoint.resume, taskEq, Multiplexer.resume, full, Option.map_none]
  | _ =>
      rw [taskEq] at target
      cases target

/-! ## Where channels are used -/

/-- Channels are used once they are made, and a stream is kept under the channel that
it reads. -/
structure Placed (endpoint : Endpoint) : Prop where
  registered : ∀ streamId chan, endpoint.mux.streams.lookup streamId = some chan →
    endpoint.Made chan
  cached : ∀ streamId chan, endpoint.mux.lastSender = some (streamId, chan) → endpoint.Made chan
  sending : ∀ streamId chan, taskTarget endpoint.task = some (streamId, chan) →
    endpoint.Made chan
  handled : ∀ chan handle, endpoint.handles chan = some handle → handle.stream.rx = chan

theorem placed_initial (isClient : Bool) : Placed (.initial isClient) where
  registered := by simp [Endpoint.initial, Multiplexer.new]
  cached := by simp [Endpoint.initial, Multiplexer.new]
  sending := by simp [Endpoint.initial, taskTarget]
  handled := by simp [Endpoint.initial]

namespace Placed

variable {action : EndpointAction} (placed : Placed endpoint)

include placed

/-- A step that uses no new channel. -/
theorem of_kept (kept : NamesKept endpoint next)
    (handled : ∀ chan handle, next.handles chan = some handle → handle.stream.rx = chan) :
    Placed next where
  registered streamId chan registered :=
    (kept.made_iff chan).mpr (placed.registered streamId chan
      (kept.registered streamId chan registered))
  cached streamId chan cached := by
    rw [kept.made_iff]
    rcases kept.cached streamId chan cached with before | registered
    · exact placed.cached streamId chan before
    · exact placed.registered streamId chan registered
  sending streamId chan sending := by
    rw [kept.made_iff]
    rcases kept.sending streamId chan sending with before | cached | registered
    · exact placed.sending streamId chan before
    · exact placed.cached streamId chan cached
    · exact placed.registered streamId chan registered
  handled := handled

/-- A stream that is given to its owner, or was changed by a poll, still reads its
channel. -/
theorem handled_update {other : ChanId} {after : Option Handle}
    (rx : ∀ handle ∈ after, handle.stream.rx = other) (chan : ChanId) (handle : Handle)
    (found : Function.update endpoint.handles other after chan = some handle) :
    handle.stream.rx = chan := by
  by_cases same : chan = other
  · subst same
    rw [Function.update_self] at found
    exact rx handle found
  · rw [Function.update_of_ne same] at found
    exact placed.handled chan handle found

/-- A fresh channel is registered, and the read loop sends to none. -/
theorem of_registers {streamId : UInt32} (nextChan : next.mux.nextChan = endpoint.mux.nextChan + 1)
    (lastSender : next.mux.lastSender = endpoint.mux.lastSender)
    (registered : ∀ id chan, next.mux.streams.lookup id = some chan →
      (id = streamId ∧ chan = endpoint.mux.nextChan) ∨
        endpoint.mux.streams.lookup id = some chan)
    (sending : ∀ streamId chan, taskTarget next.task = some (streamId, chan) →
      taskTarget endpoint.task = some (streamId, chan))
    (handles : next.handles = endpoint.handles) : Placed next := by
  have made {chan : ChanId} (before : endpoint.Made chan) : next.Made chan := by
    rw [Endpoint.Made, nextChan]
    exact Nat.lt_succ_of_lt before
  constructor
  · intro streamId chan found
    rcases registered streamId chan found with ⟨-, rfl⟩ | before
    · rw [Endpoint.Made, nextChan]
      exact Nat.lt_succ_self _
    · exact made (placed.registered streamId chan before)
  · intro streamId chan cached
    rw [lastSender] at cached
    exact made (placed.cached streamId chan cached)
  · intro streamId chan target
    exact made (placed.sending streamId chan (sending streamId chan target))
  · rw [handles]
    exact placed.handled

/-- A frame that is decoded registers a fresh channel, goes to a known one, or ends
with nothing to send. -/
theorem decode (stepEq : endpoint.decode bincode = some next) : Placed next := by
  simp only [Endpoint.decode] at stepEq
  split at stepEq
  · split at stepEq
    · cases stepEq
    · cases stepEq
      exact placed.of_kept (.of_eq rfl rfl rfl rfl) placed.handled
    · rename_i frame rest decoded
      rcases endpoint.mux.processFrame_cases frame with ⟨openStream, -, -, processed⟩ |
        ⟨streamId, tx, known, ⟨_, _, -, processed⟩ | ⟨_, -, processed⟩⟩ |
        ⟨-, -, streams, priorities, erased, processed⟩ <;>
        rw [processed] at stepEq <;> cases stepEq
      · exact placed.of_registers rfl rfl (fun _ _ found => Map.lookup_insert_cases found) nofun rfl
      · exact placed.of_kept (.of_dispatched known rfl) placed.handled
      · exact placed.of_kept (.of_dispatched known rfl) placed.handled
      · refine placed.of_kept ⟨rfl, ?_, fun _ _ cached => .inl cached, nofun⟩ placed.handled
        intro other chan found
        rcases erased with ⟨rfl, -⟩ | ⟨streamId, rfl, -⟩
        · exact found
        · exact Map.lookup_of_lookup_erase found
  · cases stepEq

/-- A send that the read loop finishes may end a stream. -/
theorem resume (stepEq : endpoint.resume = some next) : Placed next := by
  obtain ⟨mux, resumed, rfl⟩ := Option.map_eq_some_iff.mp stepEq
  obtain ⟨streams, -, nextChan, lastSender⟩ := Multiplexer.resume_registrations resumed
  refine placed.of_kept ⟨nextChan, fun _ _ found => ?_,
    fun _ _ cached => .inl (lastSender ▸ cached), nofun⟩ placed.handled
  rcases streams with same | ⟨streamId, erased⟩
  · exact same ▸ found
  · rw [erased] at found
    exact Map.lookup_of_lookup_erase found

/-- Every step of an endpoint keeps channels in their places, whatever its callers
do. -/
theorem step (stepEq : endpoint.step bincode action = some next) : Placed next := by
  cases action with
  | openStream protocol priority now =>
      have begins := Endpoint.beginsOpen_of_openStream stepEq
      rw [Endpoint.step, Endpoint.openStream, Multiplexer.openStream_of_room begins.room] at stepEq
      cases stepEq
      exact placed.of_registers rfl rfl (fun _ _ found => Map.lookup_insert_cases found)
        (fun _ _ target => target) rfl
  | pollOpen other now =>
      simp only [Endpoint.step, Endpoint.pollOpen] at stepEq
      split at stepEq
      · cases stepEq
      · split at stepEq <;> cases stepEq
        · exact placed.of_kept (.of_eq rfl rfl rfl rfl) placed.handled
        · exact placed.of_kept (.of_eq rfl rfl rfl rfl) placed.handled
        · refine placed.of_kept (.of_eq rfl rfl rfl rfl) (placed.handled_update ?_)
          rintro _ ⟨⟩
          rfl
  | dropOpen other =>
      obtain ⟨call, -, rfl⟩ := Option.map_eq_some_iff.mp stepEq
      exact placed.of_kept (.of_eq rfl rfl rfl rfl) placed.handled
  | pollWrite other now buf =>
      simp only [Endpoint.step, Endpoint.pollWrite] at stepEq
      split at stepEq
      · cases stepEq
      · rename_i handle handled
        rcases handle.stream.pollWrite_cases endpoint.outbox now buf with
          ⟨outbox, polled, -⟩ | ⟨failure, polled⟩ | ⟨future, polled, -⟩ <;>
          rw [polled] at stepEq <;> cases stepEq <;>
          refine placed.of_kept (.of_eq rfl rfl rfl rfl) (placed.handled_update ?_) <;>
          rintro _ ⟨⟩ <;> exact placed.handled other handle handled
  | pollShutdown other now =>
      simp only [Endpoint.step, Endpoint.pollShutdown] at stepEq
      split at stepEq <;> cases stepEq
      rename_i handle handled
      refine placed.of_kept (.of_eq rfl rfl rfl rfl) (placed.handled_update ?_)
      rintro _ ⟨⟩
      exact (handle.stream.pollShutdown_rx endpoint.outbox now).trans
        (placed.handled other handle handled)
  | sendFrame frame =>
      simp only [Endpoint.step, Endpoint.sendFrame] at stepEq
      split at stepEq <;> cases stepEq
      exact placed.of_kept (.of_eq rfl rfl rfl rfl) placed.handled
  | collect =>
      simp only [Endpoint.step, Endpoint.collect] at stepEq
      split at stepEq <;> cases stepEq
      exact placed.of_kept (.of_eq rfl rfl rfl rfl) placed.handled
  | decode => exact placed.decode stepEq
  | resume => exact placed.resume stepEq
  | accept =>
      simp only [Endpoint.step, Endpoint.accept] at stepEq
      split at stepEq
      · cases stepEq
      · split at stepEq <;> cases stepEq
        refine placed.of_kept (.of_eq rfl rfl rfl rfl) (placed.handled_update ?_)
        rintro _ ⟨⟩
        rfl
  | closeAcceptor =>
      cases stepEq
      exact placed.of_kept (.of_eq rfl rfl rfl rfl) placed.handled
  | pollRead other room =>
      simp only [Endpoint.step, Endpoint.pollRead] at stepEq
      split at stepEq <;> cases stepEq
      rename_i handle handled
      refine placed.of_kept (.of_eq rfl rfl rfl rfl)
        (placed.handled_update ?_)
      rintro _ ⟨⟩
      exact (handle.stream.pollRead_step _ _ _).writer.rx.trans
        (placed.handled other handle handled)
  | dropStream other =>
      simp only [Endpoint.step, Endpoint.dropStream] at stepEq
      split at stepEq <;> cases stepEq
      refine placed.of_kept (.of_eq rfl rfl rfl rfl)
        (placed.handled_update ?_)
      rintro _ ⟨⟩

end Placed

/-! ## Steps -/

/-- A read takes items from the front of a channel. -/
theorem pollRead_suffix (stream : VirtualStream) (channel : Bounded StreamItem)
    (sendersGone : Bool) (room : Nat) :
    (stream.pollRead channel sendersGone room).2.2.queue <:+ channel.queue := by
  have received : channel.recv.2.queue <:+ channel.queue := ⟨_, channel.recv_queue⟩
  have fromChannel (stream : VirtualStream) :
      (stream.pollChannel channel sendersGone room).2.2.queue <:+ channel.queue := by
    simp only [VirtualStream.pollChannel]
    split <;> rename_i recvEq <;> rw [recvEq] at received
    · split <;> exact received
    · exact received
    · exact received
    · exact received
    · split
      · exact List.suffix_rfl
      · exact received
  have fromBuffer (stream : VirtualStream) :
      (stream.pollReadBuffer channel sendersGone room).2.2.queue <:+ channel.queue := by
    simp only [VirtualStream.pollReadBuffer]
    split
    · split <;> exact List.suffix_rfl
    · exact fromChannel stream
  unfold VirtualStream.pollRead
  split
  · split
    · exact fromBuffer _
    · exact List.suffix_rfl
  · exact fromBuffer _

namespace Stalled

/-- A step that leaves the channels alone. -/
theorem of_channels (task : next.task = endpoint.task)
    (channels : next.mux.channels = endpoint.mux.channels)
    (received : next.received = endpoint.received) : Stalled chan endpoint next := by
  refine ⟨task, by rw [channels], by rw [received], fun other => ?_⟩
  rw [channels]

/-- A step on another channel that adds nothing to it. -/
theorem of_update {other : ChanId} {channel : Bounded StreamItem} (different : other ≠ chan)
    (task : next.task = endpoint.task)
    (channels : next.mux.channels = Function.update endpoint.mux.channels other channel)
    (received : next.received = endpoint.received)
    (queue : channel.queue <:+ (endpoint.mux.channels other).queue) :
    Stalled chan endpoint next := by
  refine ⟨task, ?_, by rw [received], fun changed => ?_⟩
  · rw [channels, Function.update_of_ne different.symm]
  · rw [channels]
    by_cases same : changed = other
    · rw [same, Function.update_self]
      exact queue
    · rw [Function.update_of_ne same]

/-- While the read loop is blocked and nobody frees the channel, a step brings nothing
through the loop. -/
theorem step {action : EndpointAction} (placed : Placed endpoint)
    (blocked : Blocked chan endpoint) (ignored : ¬Frees chan action)
    (stepEq : endpoint.step bincode action = some next) : Stalled chan endpoint next := by
  obtain ⟨streamId, target⟩ := blocked.target
  have made : chan < endpoint.mux.nextChan := placed.sending streamId chan target
  cases action with
  | openStream protocol priority now =>
      have begins := Endpoint.beginsOpen_of_openStream stepEq
      rw [Endpoint.step, Endpoint.openStream, Multiplexer.openStream_of_room begins.room] at stepEq
      cases stepEq
      apply of_update (Nat.ne_of_gt made)
      · rfl
      · rfl
      · rfl
      · exact List.nil_suffix
  | pollOpen other now =>
      have different : other ≠ chan := by
        rintro rfl
        exact ignored (.pollOpen now)
      simp only [Endpoint.step, Endpoint.pollOpen] at stepEq
      split at stepEq
      · cases stepEq
      · split at stepEq <;> cases stepEq
        · exact of_channels rfl rfl rfl
        · exact of_update different rfl rfl rfl List.suffix_rfl
        · exact of_channels rfl rfl rfl
  | dropOpen other =>
      have different : other ≠ chan := by
        rintro rfl
        exact ignored .dropOpen
      obtain ⟨call, -, rfl⟩ := Option.map_eq_some_iff.mp stepEq
      exact of_update different rfl rfl rfl List.suffix_rfl
  | pollWrite other now buf =>
      simp only [Endpoint.step, Endpoint.pollWrite] at stepEq
      split at stepEq
      · cases stepEq
      · split at stepEq <;> cases stepEq <;> exact of_channels rfl rfl rfl
  | pollShutdown other now =>
      simp only [Endpoint.step, Endpoint.pollShutdown] at stepEq
      split at stepEq <;> cases stepEq
      exact of_channels rfl rfl rfl
  | sendFrame frame =>
      simp only [Endpoint.step, Endpoint.sendFrame] at stepEq
      split at stepEq <;> cases stepEq
      exact of_channels rfl rfl rfl
  | collect =>
      simp only [Endpoint.step, Endpoint.collect] at stepEq
      split at stepEq <;> cases stepEq
      exact of_channels rfl rfl rfl
  | decode =>
      simp only [Endpoint.step, Endpoint.decode] at stepEq
      split at stepEq
      · rename_i idle
        exact absurd idle blocked.ne_idle
      · cases stepEq
  | resume =>
      rw [Endpoint.step, blocked.resume_eq_none] at stepEq
      cases stepEq
  | accept =>
      simp only [Endpoint.step, Endpoint.accept] at stepEq
      split at stepEq
      · cases stepEq
      · split at stepEq <;> cases stepEq
        exact of_channels rfl rfl rfl
  | closeAcceptor =>
      cases stepEq
      exact of_channels rfl rfl rfl
  | pollRead other room =>
      have different : other ≠ chan := by
        rintro rfl
        exact ignored (.pollRead room)
      simp only [Endpoint.step, Endpoint.pollRead] at stepEq
      split at stepEq <;> cases stepEq
      exact of_update different rfl rfl rfl (pollRead_suffix ..)
  | dropStream other =>
      have different : other ≠ chan := by
        rintro rfl
        exact ignored .dropStream
      simp only [Endpoint.step, Endpoint.dropStream] at stepEq
      split at stepEq <;> cases stepEq
      rename_i handle handled
      have rxEq := placed.handled other handle handled
      exact of_update (rxEq ▸ different) rfl rfl rfl List.suffix_rfl

end Stalled

/-! ## Runs -/

variable {side : Side} {connection after final : Connection}

/-- A step of two sessions.  The session loop alone calls `send_frame`, for heartbeats
and their answers, and only while it processes no frame. -/
def Connection.sessionStep (bincode : Bincode) : Step Connection Action
  | connection, .endpoint side (.sendFrame frame) =>
      match (connection.endpoint side).task with
      | .idle => connection.step bincode (.endpoint side (.sendFrame frame))
      | _ => none
  | connection, action => connection.step bincode action

/-- A step of the sessions is a step of the connection. -/
theorem Connection.step_of_sessionStep {action : Action}
    (stepEq : connection.sessionStep bincode action = some after) :
    connection.step bincode action = some after := by
  unfold sessionStep at stepEq
  split at stepEq
  · split at stepEq
    · exact stepEq
    · cases stepEq
  · exact stepEq

/-- The action does not free the channel of the given end. -/
def Ignores (side : Side) (chan : ChanId) : Action → Prop
  | .endpoint acting action => acting = side → ¬Frees chan action
  | _ => True

/-- Replacing the other end changes nothing here. -/
theorem stalled_setEndpoint {acting : Side} (here : acting = side →
      Stalled chan (connection.endpoint side) endpoint) :
    Stalled chan (connection.endpoint side)
      ((connection.setEndpoint acting endpoint).endpoint side) := by
  simp only [Connection.setEndpoint]
  by_cases same : side = acting
  · subst same
    rw [Function.update_self]
    exact here rfl
  · rw [Function.update_of_ne same]
    exact .refl ..

/-- Both ends of a connection keep channels in their places. -/
theorem placed_step {action : Action} (placed : ∀ side, Placed (connection.endpoint side))
    (stepEq : connection.step bincode action = some after) (side : Side) :
    Placed (after.endpoint side) := by
  refine Connection.step_forall Placed.step ?_ ?_ ?_ placed stepEq side
  · intro endpoint sender there _
    exact there.of_kept (.of_eq rfl rfl rfl rfl) there.handled
  · intro endpoint there
    exact there.of_kept (.of_eq rfl rfl rfl rfl) there.handled
  · intro endpoint received there
    exact there.of_kept (.of_eq rfl rfl rfl rfl) there.handled

theorem Blocked.step {action : Action} (placed : Placed (connection.endpoint side))
    (blocked : Blocked chan (connection.endpoint side)) (ignored : Ignores side chan action)
    (stepEq : connection.step bincode action = some after) :
    Stalled chan (connection.endpoint side) (after.endpoint side) := by
  cases action with
  | endpoint acting action =>
      obtain ⟨endpoint, endpointStep, rfl⟩ := Option.map_eq_some_iff.mp stepEq
      apply stalled_setEndpoint
      rintro rfl
      exact .step placed blocked (ignored rfl) endpointStep
  | write acting written =>
      simp only [Connection.step, Connection.write] at stepEq
      split at stepEq
      · split at stepEq <;> cases stepEq <;> apply stalled_setEndpoint <;> rintro rfl <;>
          exact .of_channels rfl rfl rfl
      · cases stepEq
  | writeError acting =>
      simp only [Connection.step] at stepEq
      split at stepEq <;> cases stepEq
      apply stalled_setEndpoint
      rintro rfl
      exact .of_channels rfl rfl rfl
  | transfer acting count =>
      cases stepEq
      apply stalled_setEndpoint
      rintro rfl
      exact ⟨rfl, rfl, List.prefix_append _ _, fun _ => List.suffix_rfl⟩

/-- A loop that is blocked sends nothing. -/
theorem Blocked.sessionStep_sendFrame (blocked : Blocked chan (connection.endpoint side))
    (frame : Frame) :
    connection.sessionStep bincode (.endpoint side (.sendFrame frame)) = none := by
  have busy := blocked.ne_idle
  unfold Connection.sessionStep
  split
  · next acting _ actionEq =>
    cases actionEq
    split
    · next idle => exact absurd idle busy
    · rfl
  · next other => exact absurd rfl (other _ _)

/-- By induction on the run: a loop that is blocked stays so as long as the channel is
left alone. -/
theorem Blocked.run {later : List Action} (placed : ∀ side, Placed (connection.endpoint side))
    (blocked : Blocked chan (connection.endpoint side))
    (ignored : ∀ action ∈ later, Ignores side chan action)
    (laterRun : exec (Connection.sessionStep bincode) connection later = some final) :
    Stalled chan (connection.endpoint side) (final.endpoint side) ∧
      ∀ frame, .endpoint side (.sendFrame frame) ∉ later := by
  induction later generalizing connection with
  | nil =>
      cases laterRun
      exact ⟨.refl .., fun _ member => by cases member⟩
  | cons action rest ih =>
      obtain ⟨after, stepEq, restRun⟩ := exec_cons_eq_some_iff.mp laterRun
      have connectionStep := Connection.step_of_sessionStep stepEq
      have stalled := blocked.step (placed side) (ignored action List.mem_cons_self)
        connectionStep
      obtain ⟨restStalled, silent⟩ := ih (placed_step placed connectionStep)
        (blocked.of_stalled stalled)
        (fun other member => ignored other (List.mem_cons_of_mem _ member)) restRun
      refine ⟨stalled.trans restStalled, ?_⟩
      intro frame member
      rcases List.mem_cons.mp member with rfl | later
      · rw [blocked.sessionStep_sendFrame] at stepEq
        cases stepEq
      · exact silent frame later

/-- One stream whose owner does not read stalls the whole session.  Take any reachable
state in which the session loop sends to a full channel.  Until the owner of that
channel reads or drops it, whatever everybody else does, the loop holds the same frame,
no frame is decoded, no stream channel gets anything, and the loop sends no heartbeat
and no answer to one. -/
theorem unread_stream_stalls_session {actions later : List Action}
    {connection final : Connection}
    (run : exec (Connection.sessionStep bincode) .initial actions = some connection)
    (side : Side) (chan : ChanId) (blocked : Blocked chan (connection.endpoint side))
    (laterRun : exec (Connection.sessionStep bincode) connection later = some final)
    (ignored : ∀ action ∈ later, Ignores side chan action) :
    Stalled chan (connection.endpoint side) (final.endpoint side) ∧
      ∀ frame, .endpoint side (.sendFrame frame) ∉ later := by
  have preserved : ∀ {current next : Connection} {action : Action},
      (∀ side, Placed (current.endpoint side)) →
      current.sessionStep bincode action = some next → ∀ side, Placed (next.endpoint side) :=
    fun placed stepEq => placed_step placed (Connection.step_of_sessionStep stepEq)
  have placed : ∀ side, Placed (connection.endpoint side) :=
    exec_invariant preserved (fun side => placed_initial (side = .client)) run
  exact blocked.run placed ignored laterRun

/-- The server opens a stream and writes to it; the client accepts it and never reads,
until its channel is full and the session loop holds one more frame. -/
def neverRead : List Action :=
  [.endpoint .server (.openStream .tcp .normal 0), .endpoint .server (.pollOpen 0 0)] ++
    (List.replicate 129
      [.endpoint .server (.pollWrite 0 0 []), .endpoint .server .collect]).flatten ++
    [.endpoint .server .collect, .endpoint .server .collect, .endpoint .server .collect,
      .write .server 2000, .write .server 0, .transfer .server 2000,
      .endpoint .client .decode, .endpoint .client .resume, .endpoint .client .accept] ++
    (List.replicate 128 [.endpoint .client .decode, .endpoint .client .resume]).flatten ++
    [.endpoint .client .decode]

/-- The server opens another stream, whose frame reaches the client. -/
def secondStream : List Action :=
  [.endpoint .server (.openStream .tcp .normal 0), .endpoint .server (.pollOpen 1 0),
    .endpoint .server .collect, .endpoint .server .collect, .write .server 100,
    .transfer .server 100]

theorem unread_stream_stalls_session_secondStream :
    ∃ connection final,
      exec (Connection.sessionStep (.standard .sorted)) .initial neverRead = some connection ∧
      exec (Connection.sessionStep (.standard .sorted)) connection secondStream = some final ∧
      (final.endpoint .client).received ≠ [] ∧
      Stalled 0 (connection.endpoint .client) (final.endpoint .client) := by
  have values : ((exec (Connection.sessionStep (.standard .sorted)) .initial neverRead).bind
      fun connection => (exec (Connection.sessionStep (.standard .sorted)) connection
        secondStream).map fun final =>
          (taskTarget (connection.endpoint .client).task,
            (connection.endpoint .client).mux.channels 0 |>.receiverGone,
            decide (((connection.endpoint .client).mux.channels 0).capacity +
              ((connection.endpoint .client).mux.channels 0).parked.toNat ≤
                ((connection.endpoint .client).mux.channels 0).queue.length),
            (final.endpoint .client).received.isEmpty)) =
      some (some (2, 0), false, true, false) := by
    decide +kernel
  obtain ⟨connection, run, rest⟩ := Option.bind_eq_some_iff.mp values
  obtain ⟨final, laterRun, shown⟩ := Option.map_eq_some_iff.mp rest
  simp only [Prod.mk.injEq, decide_eq_true_eq] at shown
  obtain ⟨target, present, full, received⟩ := shown
  have ignored : ∀ action ∈ secondStream, Ignores .client 0 action := by
    simp [secondStream, Ignores]
  refine ⟨connection, final, run, laterRun, ?_, ?_⟩
  · intro none
    rw [none] at received
    cases received
  · exact (unread_stream_stalls_session run .client 0 ⟨⟨2, target⟩, present, full⟩ laterRun
      ignored).1

end FerroTunnel.Link
