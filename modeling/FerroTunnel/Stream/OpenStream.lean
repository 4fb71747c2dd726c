import FerroTunnel.Stream.BoundedSend
import FerroTunnel.Stream.SenderCache

/-!
# Opening a stream

`open_stream_with_priority` registers a fresh channel under a fresh id and then
sends the frame that announces the stream.  The send can fail, and nothing is
taken back when it does: only a call that fails for want of an id leaves the
maps as they were.
-/

namespace FerroTunnel.Stream

open FerroTunnel.Channel
open FerroTunnel.Transition
open FerroTunnel.Transport
open FerroTunnel.Wire

/-- Why a stream could not be opened. -/
inductive OpenError
  | protocol (message : String)
  | io (failure : SendFailure)
deriving DecidableEq

namespace Multiplexer

/-- Drop the receiver of a stream channel. -/
def dropReceiver (mux : Multiplexer) (rx : ChanId) : Multiplexer :=
  { mux with channels := Function.update mux.channels rx (mux.channels rx).closeReceiver }

/-- The whole call, with the wire channel as each attempt of its send finds it:
the result and the multiplexer it leaves, if it has returned, and its accesses
to the wire channel. -/
def openStreamWithPriority (mux : Multiplexer) (protocol : Protocol) (priority : StreamPriority)
    (attempts : List Attempt) :
    Option (Except OpenError VirtualStream × Multiplexer) × List (Touch PrioritizedFrame) :=
  match mux.openStream priority with
  | .error message => (some (.error (.protocol message), mux), [])
  | .ok (streamId, rx, mux) =>
      match sendPrioritizedFrame (priority, openFrame streamId protocol priority) attempts with
      | (none, touches) => (none, touches)
      | (some (.error failure), touches) =>
          (some (.error (.io failure), mux.dropReceiver rx), touches)
      | (some (.ok ()), touches) =>
          let (stream, mux) := mux.makeStream streamId rx priority protocol
          (some (.ok stream, mux), touches)

end Multiplexer

/-! ## Runs with whole calls -/

/-- What can happen to a multiplexer, with the end of an open whose send
succeeds or fails. -/
inductive CallAction
  | dispatch (action : DispatchAction)
  | openSucceeds
  | openFails (rx : ChanId)

/-- One step.  An open that succeeds makes its stream over a pooled buffer; one
that fails drops its receiver. -/
def callStep : Step DispatchState CallAction
  | state, .dispatch action => dispatchStep state action
  | state, .openSucceeds =>
      some ⟨{ state.mux with bufferPool := state.mux.bufferPool.acquireOrDefault.2 }, state.task⟩
  | state, .openFails rx => some ⟨state.mux.dropReceiver rx, state.task⟩

/-- The action takes an item from the channel. -/
def CallAction.receivesFrom (chan : ChanId) : CallAction → Bool
  | .dispatch (.receive other) => other == chan
  | _ => false

/-- What a step does to the registrations, the senders and the queues: that of a frame or of
a send that finishes, a local open that has an id, or nothing but a receive. -/
inductive CallMove (state : DispatchState) : CallAction → DispatchState → Prop
  | processes {frame : Frame} :
      CallMove state (.dispatch (.process frame))
        ⟨(state.mux.processFrame frame).1, (state.mux.processFrame frame).2⟩
  | resumes {mux : Multiplexer} (resumed : state.mux.resume state.task = some mux) :
      CallMove state (.dispatch .resume) ⟨mux, .idle⟩
  | opens {priority : StreamPriority} (room : state.mux.nextStreamId.toNat + 2 < 2 ^ 32) :
      CallMove state (.dispatch (.openStream priority)) { state with mux := { state.mux with
        streams := state.mux.streams.insert state.mux.nextStreamId state.mux.nextChan
        streamPriorities := state.mux.streamPriorities.insert state.mux.nextStreamId priority
        nextStreamId := state.mux.nextStreamId + 2
        channels := Function.update state.mux.channels state.mux.nextChan
          (.empty STREAM_CHANNEL_CAPACITY)
        nextChan := state.mux.nextChan + 1 } }
  | keeps {action : CallAction} {mux : Multiplexer} (other : action ≠ .dispatch .resume)
      (streams : mux.streams = state.mux.streams)
      (priorities : mux.streamPriorities = state.mux.streamPriorities)
      (nextStreamId : mux.nextStreamId = state.mux.nextStreamId)
      (nextChan : mux.nextChan = state.mux.nextChan)
      (cache : mux.lastSender = state.mux.lastSender)
      (queues : ∀ chan, action.receivesFrom chan = false →
        (mux.channels chan).queue = (state.mux.channels chan).queue) :
      CallMove state action ⟨mux, state.task⟩

/-- A channel replaced by one with the same queue. -/
theorem queue_update {channels : ChanId → Bounded StreamItem} {chan other : ChanId}
    {channel : Bounded StreamItem} (same : chan = other → channel.queue = (channels other).queue) :
    (Function.update channels other channel chan).queue = (channels chan).queue := by
  by_cases equal : chan = other
  · subst equal
    rw [Function.update_self]
    exact same rfl
  · rw [Function.update_of_ne equal]

theorem callStep_move {state next : DispatchState} {action : CallAction}
    (stepEq : callStep state action = some next) : CallMove state action next := by
  cases action with
  | openSucceeds =>
      cases stepEq
      exact .keeps (by simp) rfl rfl rfl rfl rfl fun _ _ => rfl
  | openFails rx =>
      cases stepEq
      exact .keeps (by simp) rfl rfl rfl rfl rfl fun _ _ => queue_update fun _ => rfl
  | dispatch action =>
      cases action with
      | process frame =>
          simp only [callStep, dispatchStep, dispatchStepWith] at stepEq
          split at stepEq <;> cases stepEq
          exact .processes
      | resume =>
          obtain ⟨mux, resumed, rfl⟩ := Option.map_eq_some_iff.mp stepEq
          exact .resumes resumed
      | openStream priority =>
          by_cases room : state.mux.nextStreamId.toNat + 2 < 2 ^ 32
          · simp only [callStep, dispatchStep, dispatchStepWith,
              Multiplexer.openStream_of_room room] at stepEq
            cases stepEq
            exact .opens room
          · simp only [callStep, dispatchStep, dispatchStepWith,
              Multiplexer.openStream_of_exhausted room] at stepEq
            cases stepEq
            exact .keeps (by simp) rfl rfl rfl rfl rfl fun _ _ => rfl
      | receive from_ =>
          cases stepEq
          refine .keeps (by simp) rfl rfl rfl rfl rfl fun chan other => queue_update ?_
          rintro rfl
          simp [CallAction.receivesFrom] at other
      | dropOwner stream =>
          cases stepEq
          exact .keeps (by simp) rfl rfl rfl rfl rfl fun _ _ => queue_update fun _ => rfl
      | accept | closeAcceptor =>
          cases stepEq
          exact .keeps (by simp) rfl rfl rfl rfl rfl fun _ _ => rfl

/-! ## Channels are made before they are registered -/

theorem processFrame_registersFresh_dispatch (mux : Multiplexer) (frame : Frame) :
    RegistersFresh mux (mux.processFrame frame).1 := by
  rcases mux.processFrame_cases frame with
    ⟨openStream, -, -, processed⟩ | ⟨streamId, tx, -, sends⟩ |
      ⟨-, -, streams, priorities, streamsEq, processed⟩
  · rw [processed]
    exact .of_streams_insert rfl rfl
  · rcases sends with ⟨payload, endOfStream, -, processed⟩ | ⟨reason, -, processed⟩ <;>
      rw [processed] <;> exact .of_streams_eq rfl rfl
  · rw [processed]
    rcases streamsEq with ⟨same, -⟩ | ⟨streamId, erased, -⟩
    · exact .of_streams_eq same rfl
    · exact .of_streams_erase erased rfl

theorem CallMove.registersFresh {state next : DispatchState} {action : CallAction}
    (move : CallMove state action next) : RegistersFresh state.mux next.mux := by
  cases move with
  | @processes frame => exact processFrame_registersFresh_dispatch state.mux frame
  | resumes resumed => exact resume_registersFresh resumed
  | opens room => exact .of_streams_insert rfl rfl
  | keeps _ streams _ _ nextChan => exact .of_streams_eq streams nextChan

/-- Every channel registered in a reachable state has been made. -/
theorem made_of_exec {isClient : Bool} {actions : List CallAction} {state : DispatchState}
    (reached : exec callStep (.initial isClient) actions = some state) (streamId : UInt32)
    (tx : ChanId) (registered : state.mux.streams.lookup streamId = some tx) :
    tx < state.mux.nextChan := by
  have initial : ∀ streamId tx,
      (DispatchState.initial isClient).mux.streams.lookup streamId = some tx →
        tx < (DispatchState.initial isClient).mux.nextChan := by
    intro streamId tx registered
    cases registered
  exact @exec_invariant _ _ callStep _
    (fun state => ∀ streamId tx, state.mux.streams.lookup streamId = some tx →
      tx < state.mux.nextChan)
    _ (fun made stepEq => (callStep_move stepEq).registersFresh.made made) _ initial reached
    streamId tx registered

/-! ## Failed calls -/

/-- A call that fails has no id to allocate and changes nothing, or has
registered its channel and leaves it registered. -/
theorem Multiplexer.openStreamWithPriority_error {mux after : Multiplexer}
    {protocol : Protocol} {priority : StreamPriority} {attempts : List Attempt}
    {error : OpenError} {touches : List (Touch PrioritizedFrame)}
    (failed : mux.openStreamWithPriority protocol priority attempts =
      (some (.error error, after), touches)) :
    (2 ^ 32 ≤ mux.nextStreamId.toNat + 2 ∧ after = mux ∧ touches = []) ∨
    (mux.nextStreamId.toNat + 2 < 2 ^ 32 ∧
      after.streams.lookup mux.nextStreamId = some mux.nextChan ∧ Untouched touches) := by
  by_cases room : mux.nextStreamId.toNat + 2 < 2 ^ 32
  · right
    rw [openStreamWithPriority, openStream_of_room room] at failed
    have outcome := sendPrioritizedFrame_outcome
      (priority, openFrame mux.nextStreamId protocol priority) attempts
    simp only at failed
    split at failed <;> cases failed
    rename_i sent
    rw [sent] at outcome
    exact ⟨room, Finmap.lookup_insert _, outcome⟩
  · left
    rw [openStreamWithPriority, openStream_of_exhausted room] at failed
    cases failed
    exact ⟨Nat.not_lt.mp room, rfl, rfl⟩

/-- In every state that calls can reach, a call of `open_stream_with_priority`
that returns an error has queued nothing, and it leaves the stream maps as they
were if and only if the id space was exhausted. -/
theorem failed_open_traceless_iff (isClient : Bool) (actions : List CallAction)
    (state : DispatchState) (reached : exec callStep (.initial isClient) actions = some state)
    (protocol : Protocol) (priority : StreamPriority) (attempts : List Attempt)
    (error : OpenError) (after : Multiplexer) (touches : List (Touch PrioritizedFrame))
    (failed : state.mux.openStreamWithPriority protocol priority attempts =
      (some (.error error, after), touches)) :
    Untouched touches ∧
      ((after.streams = state.mux.streams ∧
          after.streamPriorities = state.mux.streamPriorities) ↔
        2 ^ 32 ≤ state.mux.nextStreamId.toNat + 2) := by
  rcases Multiplexer.openStreamWithPriority_error failed with
    ⟨exhausted, rfl, rfl⟩ | ⟨room, registered, untouched⟩
  · constructor
    · intro touch accessed
      cases accessed
    · exact iff_of_true ⟨rfl, rfl⟩ exhausted
  · constructor
    · exact untouched
    · apply iff_of_false
      · rintro ⟨same, -⟩
        rw [same] at registered
        exact Nat.lt_irrefl _ (made_of_exec reached _ _ registered)
      · exact Nat.not_le.mpr room

/-- A wire channel whose receiver is gone. -/
def closedOutbox : Bounded PrioritizedFrame :=
  (Bounded.empty 1).closeReceiver

theorem failed_open_traceless_iff_closedWire :
    ∃ after touches,
      (Multiplexer.new true).openStreamWithPriority .http .normal [⟨closedOutbox, 0⟩] =
        (some (.error (.io .brokenPipe), after), touches) ∧
      Untouched touches ∧ ¬(after.streams = ∅ ∧ after.streamPriorities = ∅) := by
  have traceless := failed_open_traceless_iff true [] (.initial true) rfl .http .normal
    [⟨closedOutbox, 0⟩] (.io .brokenPipe) _ _ rfl
  refine ⟨_, _, rfl, traceless.1, ?_⟩
  intro same
  exact absurd (traceless.2.mp same) (by decide)

/-- The wire channel is closed, so the open fails; the id and its priority stay
registered. -/
theorem failed_open_leaves_entries :
    ((Multiplexer.new true).openStreamWithPriority .http .normal [⟨closedOutbox, 0⟩]).1.map
        (fun returned => (returned.1.map fun _ => (), returned.2.streams.lookup 1,
          returned.2.streamPriorities.lookup 1)) =
      some (.error (.io .brokenPipe), some 0, some .normal) := by
  decide

end FerroTunnel.Stream
