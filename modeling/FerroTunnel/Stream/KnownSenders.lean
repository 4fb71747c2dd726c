import FerroTunnel.Stream.EndOfStream
import FerroTunnel.Stream.OpenStream

/-!
# The senders and the queue of one channel

A sender of a channel is held by the stream map, by the cache of the last sender, or
by the frame being sent, whose sender is cached.  From there an item enters the queue
of the channel: this module says what every call does to both.
-/

namespace FerroTunnel.Stream

open FerroTunnel.Channel
open FerroTunnel.Transition
open FerroTunnel.Wire

/-- An item sent to a channel. -/
theorem queue_update_sent {channels : ChanId → Bounded StreamItem} {tx : ChanId}
    {channel : Bounded StreamItem} {item : StreamItem}
    (sent : channel.queue = (channels tx).queue ++ [item]) (chan : ChanId) :
    (chan = tx ∧
      (Function.update channels tx channel chan).queue = (channels chan).queue ++ [item]) ∨
      (Function.update channels tx channel chan).queue = (channels chan).queue := by
  by_cases equal : chan = tx
  · subst equal
    rw [Function.update_self]
    exact .inl ⟨rfl, sent⟩
  · rw [Function.update_of_ne equal]
    exact .inr rfl

/-! ## Who knows a channel -/

/-- The map or the cache holds the channel's sender under this id. -/
def Multiplexer.Knows (mux : Multiplexer) (streamId : UInt32) (tx : ChanId) : Prop :=
  mux.streams.lookup streamId = some tx ∨ mux.lastSender = some (streamId, tx)

/-- Across a step nothing is known but what was known before, or a channel just made
and its id. -/
inductive Learns (before after : Multiplexer) : Prop
  | kept (known : ∀ streamId tx, after.Knows streamId tx → before.Knows streamId tx)
      (nextChan : after.nextChan = before.nextChan)
  | made {newId : UInt32} (known : ∀ streamId tx, after.Knows streamId tx →
        before.Knows streamId tx ∨ streamId = newId ∧ tx = before.nextChan)
      (nextChan : after.nextChan = before.nextChan + 1)

/-- What a `process_frame` call in progress sends, and that its sender is cached. -/
def Multiplexer.Caches (mux : Multiplexer) : FrameTask → Prop
  | .sendData streamId tx frame =>
      mux.lastSender = some (streamId, tx) ∧ isCloseStream frame = false
  | .sendClose streamId tx frame =>
      mux.lastSender = some (streamId, tx) ∧ isCloseStream frame = true
  | _ => True

/-- Known channels have been made, each is known under one id, and a frame being sent
goes to the cached one. -/
structure Wired (state : DispatchState) : Prop where
  made : ∀ {streamId tx}, state.mux.Knows streamId tx → tx < state.mux.nextChan
  unique : ∀ {first second tx}, state.mux.Knows first tx → state.mux.Knows second tx →
    first = second
  caches : state.mux.Caches state.task

variable {before after : Multiplexer} {state next : DispatchState} {action : CallAction}

theorem Learns.of_same (streams : after.streams = before.streams)
    (cache : after.lastSender = before.lastSender) (nextChan : after.nextChan = before.nextChan) :
    Learns before after := by
  refine .kept ?_ nextChan
  intro streamId tx known
  rwa [Multiplexer.Knows, streams, cache] at known

theorem Learns.of_erase {erased : UInt32} (streams : after.streams = before.streams.erase erased)
    (cache : after.lastSender = before.lastSender) (nextChan : after.nextChan = before.nextChan) :
    Learns before after := by
  refine .kept ?_ nextChan
  intro streamId tx known
  rw [Multiplexer.Knows, streams, cache] at known
  exact known.imp_left Map.lookup_of_lookup_erase

theorem Learns.of_insert {newId : UInt32}
    (streams : after.streams = before.streams.insert newId before.nextChan)
    (cache : after.lastSender = before.lastSender)
    (nextChan : after.nextChan = before.nextChan + 1) : Learns before after := by
  have known (streamId : UInt32) (tx : ChanId) (knows : after.Knows streamId tx) :
      before.Knows streamId tx ∨ streamId = newId ∧ tx = before.nextChan := by
    rw [Multiplexer.Knows, streams, cache] at knows
    rcases knows with registered | cached
    · rcases Map.lookup_insert_cases registered with new | earlier
      · exact .inr new
      · exact .inl (.inl earlier)
    · exact .inl (.inr cached)
  exact .made known nextChan

theorem processFrame_learns (mux : Multiplexer) (frame : Frame) :
    Learns mux (mux.processFrame frame).1 := by
  rcases mux.processFrame_cases frame with
    ⟨openStream, -, -, processed⟩ | ⟨streamId, tx, known, sends⟩ |
      ⟨-, -, streams, priorities, changed, processed⟩
  · rw [processed]
    exact .of_insert rfl rfl rfl
  · -- the sender that was found is cached
    have cached : Learns mux { mux with lastSender := some (streamId, tx) } := by
      refine .kept ?_ rfl
      rintro other otherTx (registered | same)
      · exact .inl registered
      · cases same
        exact known.symm
    rcases sends with ⟨payload, endOfStream, -, processed⟩ | ⟨reason, -, processed⟩ <;>
      rw [processed] <;> exact cached
  · rw [processed]
    rcases changed with ⟨same, -⟩ | ⟨streamId, erased, -⟩
    · exact .of_same same rfl rfl
    · exact .of_erase erased rfl rfl

theorem callStep_learns (stepEq : callStep state action = some next) :
    Learns state.mux next.mux := by
  cases callStep_move stepEq with
  | @processes frame => exact processFrame_learns state.mux frame
  | resumes resumed =>
      obtain ⟨kept | ⟨streamId, erased⟩, -, nextChan, cache⟩ :=
        Multiplexer.resume_registrations resumed
      · exact .of_same kept cache nextChan
      · exact .of_erase erased cache nextChan
  | opens room => exact .of_insert rfl rfl rfl
  | keeps _ streams _ _ nextChan cache => exact .of_same streams cache nextChan

theorem Wired.made_of_learns (wired : Wired state) (learns : Learns state.mux after)
    {streamId : UInt32} {tx : ChanId} (knows : after.Knows streamId tx) : tx < after.nextChan := by
  cases learns with
  | kept known nextChan =>
      rw [nextChan]
      exact wired.made (known streamId tx knows)
  | made known nextChan =>
      rw [nextChan]
      rcases known streamId tx knows with earlier | ⟨-, rfl⟩
      · exact Nat.lt_succ_of_lt (wired.made earlier)
      · exact Nat.lt_succ_self _

theorem Wired.unique_of_learns (wired : Wired state) (learns : Learns state.mux after)
    {first second : UInt32} {tx : ChanId} (knowsFirst : after.Knows first tx)
    (knowsSecond : after.Knows second tx) : first = second := by
  cases learns with
  | kept known nextChan =>
      exact wired.unique (known first tx knowsFirst) (known second tx knowsSecond)
  | made known nextChan =>
      rcases known first tx knowsFirst with earlierFirst | ⟨firstEq, madeFirst⟩ <;>
        rcases known second tx knowsSecond with earlierSecond | ⟨secondEq, madeSecond⟩
      · exact wired.unique earlierFirst earlierSecond
      · exact absurd madeSecond (Nat.ne_of_lt (wired.made earlierFirst))
      · exact absurd madeFirst (Nat.ne_of_lt (wired.made earlierSecond))
      · exact firstEq.trans secondEq.symm

theorem Multiplexer.Caches.of_lastSender_eq {task : FrameTask} (caches : before.Caches task)
    (cache : after.lastSender = before.lastSender) : after.Caches task := by
  cases task with
  | idle | queueStream stream => trivial
  | sendData streamId tx frame | sendClose streamId tx frame =>
      exact ⟨cache.trans caches.1, caches.2⟩

theorem processFrame_caches (mux : Multiplexer) (frame : Frame) :
    (mux.processFrame frame).1.Caches (mux.processFrame frame).2 := by
  rcases mux.processFrame_cases frame with
    ⟨openStream, -, -, processed⟩ | ⟨streamId, tx, -, sends⟩ |
      ⟨-, -, streams, priorities, -, processed⟩
  · rw [processed]
    trivial
  · rcases sends with ⟨payload, endOfStream, rfl, processed⟩ | ⟨reason, rfl, processed⟩ <;>
      rw [processed] <;> exact ⟨rfl, rfl⟩
  · rw [processed]
    trivial

/-- A call in progress is left as it is, ends, or begins with its sender cached. -/
theorem callStep_caches (stepEq : callStep state action = some next)
    (caches : state.mux.Caches state.task) : next.mux.Caches next.task := by
  cases callStep_move stepEq with
  | @processes frame => exact processFrame_caches state.mux frame
  | resumes resumed => trivial
  | opens room => exact caches.of_lastSender_eq rfl
  | keeps _ _ _ _ _ cache => exact caches.of_lastSender_eq cache

theorem Wired.step (wired : Wired state) (stepEq : callStep state action = some next) :
    Wired next :=
  ⟨wired.made_of_learns (callStep_learns stepEq), wired.unique_of_learns (callStep_learns stepEq),
    callStep_caches stepEq wired.caches⟩

theorem wired_initial (isClient : Bool) : Wired (.initial isClient) := by
  have unknown (streamId : UInt32) (tx : ChanId) :
      ¬(DispatchState.initial isClient).mux.Knows streamId tx := by
    rintro (registered | cached)
    · cases registered
    · cases cached
  constructor
  · intro streamId tx known
    exact absurd known (unknown streamId tx)
  · intro first second tx known
    exact absurd known (unknown first tx)
  · trivial

/-- A receive changes no sender. -/
theorem Wired.of_channels (wired : Wired state) (channels : ChanId → Bounded StreamItem) :
    Wired { state with mux := { state.mux with channels } } :=
  ⟨wired.made, wired.unique, wired.caches⟩

/-- The channel has been made, and the map does not hold its sender. -/
structure Multiplexer.Unregistered (mux : Multiplexer) (chan : ChanId) : Prop where
  made : chan < mux.nextChan
  absent : ∀ streamId, mux.streams.lookup streamId ≠ some chan

/-- No channel is registered a second time. -/
theorem Multiplexer.Unregistered.of_registersFresh {chan : ChanId}
    (unregistered : before.Unregistered chan) (registers : RegistersFresh before after) :
    after.Unregistered chan := by
  constructor
  · exact Nat.lt_of_lt_of_le unregistered.made registers.grows
  · intro streamId registered
    rcases registers.fresh streamId chan registered with earlier | ⟨later, -⟩
    · exact unregistered.absent streamId earlier
    · exact absurd unregistered.made (Nat.not_lt.mpr later)

/-- A close that is delivered takes the channel from the map. -/
theorem Wired.unregistered_of_close {mux : Multiplexer} {closedId : UInt32} {tx : ChanId}
    {frame : Frame} (wired : Wired state) (taskEq : state.task = .sendClose closedId tx frame)
    (streamsEq : mux.streams = state.mux.streams.erase closedId)
    (grows : state.mux.nextChan ≤ mux.nextChan) : mux.Unregistered tx := by
  have caches := wired.caches
  rw [taskEq] at caches
  have known : state.mux.Knows closedId tx := .inr caches.1
  constructor
  · exact Nat.lt_of_lt_of_le (wired.made known) grows
  · intro streamId registered
    rw [streamsEq] at registered
    apply Map.ne_of_lookup_erase registered
    exact wired.unique (.inl (Map.lookup_of_lookup_erase registered)) known

/-- While the sender of a call in progress is cached, the senders of a channel are
gone exactly when neither the map nor the cache knows it. -/
theorem sendersGone_iff {mux : Multiplexer} {task : FrameTask} (caches : mux.Caches task)
    (chan : ChanId) :
    mux.sendersGone task chan = true ↔ ∀ streamId, ¬mux.Knows streamId chan := by
  have registered : (mux.streams.any fun _ tx => tx == chan) = true ↔
      ∃ streamId, mux.streams.lookup streamId = some chan := by
    rw [Map.any_eq_true_iff]
    simp
  have cached : (mux.lastSender.any fun cached => cached.2 == chan) = true ↔
      ∃ streamId, mux.lastSender = some (streamId, chan) := by
    cases mux.lastSender with
    | none => simp
    | some entry => simp [Prod.ext_iff]
  simp only [Multiplexer.sendersGone, Bool.and_eq_true, Bool.not_eq_true', Bool.eq_false_iff, ne_eq,
    registered, cached]
  constructor
  · rintro ⟨⟨unregistered, uncached⟩, -⟩ streamId (known | known)
    · exact unregistered ⟨streamId, known⟩
    · exact uncached ⟨streamId, known⟩
  · intro unknown
    refine ⟨⟨?_, ?_⟩, ?_⟩
    · rintro ⟨streamId, known⟩
      exact unknown streamId (.inl known)
    · rintro ⟨streamId, known⟩
      exact unknown streamId (.inr known)
    · cases task with
      | idle | queueStream stream => rfl
      | sendData streamId tx frame | sendClose streamId tx frame =>
          simp only [bne_iff_ne, ne_eq]
          rintro rfl
          exact unknown streamId (.inr caches.1)

/-! ## The queue of one channel -/

/-- What a call does to the queue of a channel: nothing, or it makes the channel, or
it delivers the frame it was sending there. -/
inductive QueueMove (chan : ChanId) (state next : DispatchState) : Prop
  | kept (queueEq : (next.mux.channels chan).queue = (state.mux.channels chan).queue)
  | made (isNext : chan = state.mux.nextChan) (queueEq : (next.mux.channels chan).queue = [])
  | data {streamId : UInt32} {frame : Frame} (taskEq : state.task = .sendData streamId chan frame)
      (queueEq : (next.mux.channels chan).queue =
        (state.mux.channels chan).queue ++ [.ok frame])
  | close {streamId : UInt32} {frame : Frame} (taskEq : state.task = .sendClose streamId chan frame)
      (streamsEq : next.mux.streams = state.mux.streams.erase streamId)
      (queueEq : (next.mux.channels chan).queue =
        (state.mux.channels chan).queue ++ [.ok frame])

theorem QueueMove.of_update {chan other : ChanId} {channel : Bounded StreamItem}
    (channels : next.mux.channels = Function.update state.mux.channels other channel)
    (same : chan = other → channel.queue = (state.mux.channels other).queue) :
    QueueMove chan state next := by
  apply QueueMove.kept
  rw [channels]
  exact queue_update same

/-- A channel is made empty. -/
theorem QueueMove.of_fresh {chan : ChanId}
    (channels : next.mux.channels =
      Function.update state.mux.channels state.mux.nextChan (.empty STREAM_CHANNEL_CAPACITY)) :
    QueueMove chan state next := by
  by_cases isNext : chan = state.mux.nextChan
  · refine .made isNext ?_
    rw [channels, isNext, Function.update_self]
    rfl
  · apply QueueMove.of_update channels
    exact fun equal => absurd equal isNext

theorem resume_queueMove {mux : Multiplexer} (chan : ChanId)
    (resumed : state.mux.resume state.task = some mux) : QueueMove chan state ⟨mux, .idle⟩ := by
  rcases state with ⟨before, task⟩
  cases Multiplexer.resumes_of_resume resumed with
  | queued | lost => exact .kept rfl
  | refused => exact .of_update rfl fun _ => rfl
  | delivered _ queueEq _ =>
      rcases queue_update_sent queueEq chan with ⟨rfl, sentEq⟩ | keptEq
      · exact .data rfl sentEq
      · exact .kept keptEq
  | closes sent =>
      rcases sent with ⟨queueEq, -⟩ | ⟨same, -⟩
      · rcases queue_update_sent queueEq chan with ⟨rfl, sentEq⟩ | keptEq
        · exact .close rfl rfl sentEq
        · exact .kept keptEq
      · exact .of_update rfl fun _ => congrArg _ same

theorem processFrame_queueMove (chan : ChanId) (state : DispatchState) (frame : Frame) :
    QueueMove chan state
      ⟨(state.mux.processFrame frame).1, (state.mux.processFrame frame).2⟩ := by
  rcases state.mux.processFrame_cases frame with
    ⟨openStream, -, -, processed⟩ | ⟨streamId, tx, -, sends⟩ |
      ⟨-, -, streams, priorities, -, processed⟩
  · rw [processed]
    exact .of_fresh rfl
  · rcases sends with ⟨payload, endOfStream, -, processed⟩ | ⟨reason, -, processed⟩ <;>
      rw [processed] <;> exact .kept rfl
  · rw [processed]
    exact .kept rfl

theorem callStep_queueMove {chan : ChanId} (stepEq : callStep state action = some next)
    (other : action.receivesFrom chan = false) : QueueMove chan state next := by
  cases callStep_move stepEq with
  | @processes frame => exact processFrame_queueMove chan state frame
  | resumes resumed => exact resume_queueMove chan resumed
  | opens room => exact .of_fresh rfl
  | keeps _ _ _ _ _ _ queues => exact .kept (queues chan other)

end FerroTunnel.Stream
