import FerroTunnel.Stream.OpenStream

/-!
# The two maps of a multiplexer

`streams` and `stream_priorities` gain and lose their entries together, with one
exception.  When `process_frame` finds a channel or the queue of new streams
closed, it removes the stream from `streams` and leaves its priority.  The maps
have the same keys between calls exactly in the runs in which no stream that is
still registered is removed that way.
-/

namespace FerroTunnel.Stream

open FerroTunnel.Channel
open FerroTunnel.Transition
open FerroTunnel.Wire

/-! ## Keys -/

/-- The maps have the same keys. -/
def Multiplexer.SameKeys (mux : Multiplexer) : Prop :=
  mux.streams.keys = mux.streamPriorities.keys

theorem Multiplexer.sameKeys_iff (mux : Multiplexer) :
    mux.SameKeys ↔ ∀ streamId, streamId ∈ mux.streams ↔ streamId ∈ mux.streamPriorities := by
  simp only [SameKeys, Finset.ext_iff, Finmap.mem_keys]

/-- What changes both maps alike: nothing, a registration, or a removal. -/
inductive ChangesBoth (before after : Multiplexer) : Prop
  | kept (streamsEq : after.streams = before.streams)
      (prioritiesEq : after.streamPriorities = before.streamPriorities)
  | registered {streamId : UInt32} {tx : ChanId} {priority : StreamPriority}
      (streamsEq : after.streams = before.streams.insert streamId tx)
      (prioritiesEq : after.streamPriorities = before.streamPriorities.insert streamId priority)
  | removed {streamId : UInt32} (streamsEq : after.streams = before.streams.erase streamId)
      (prioritiesEq : after.streamPriorities = before.streamPriorities.erase streamId)

theorem ChangesBoth.sameKeys {before after : Multiplexer} (changes : ChangesBoth before after)
    (same : before.SameKeys) : after.SameKeys := by
  rw [Multiplexer.sameKeys_iff] at same ⊢
  intro streamId
  cases changes with
  | kept streamsEq prioritiesEq =>
      rw [streamsEq, prioritiesEq]
      exact same streamId
  | registered streamsEq prioritiesEq =>
      rw [streamsEq, prioritiesEq, Finmap.mem_insert, Finmap.mem_insert, same streamId]
  | removed streamsEq prioritiesEq =>
      rw [streamsEq, prioritiesEq, Finmap.mem_erase, Finmap.mem_erase, same streamId]

/-- Without one registered stream in `streams` alone, the keys differ. -/
theorem not_sameKeys_of_removed {before after : Multiplexer} {streamId : UInt32}
    (same : before.SameKeys) (registered : streamId ∈ before.streams)
    (streamsEq : after.streams = before.streams.erase streamId)
    (prioritiesEq : after.streamPriorities = before.streamPriorities) : ¬after.SameKeys := by
  rw [Multiplexer.sameKeys_iff] at same ⊢
  intro sameAfter
  have present : streamId ∈ after.streams := by
    rw [sameAfter streamId, prioritiesEq, ← same streamId]
    exact registered
  rw [streamsEq, Finmap.mem_erase] at present
  exact present.1 rfl

/-! ## Steps -/

/-- The stream that `process_frame` removes from `streams` alone when it goes on:
the one whose channel, or whose hand-over, it then finds closed. -/
def DispatchState.removedAlone (state : DispatchState) : Option UInt32 :=
  match state.task with
  | .queueStream stream =>
      if (state.mux.newStreams.trySend stream).1 = .closed then some stream.streamId else none
  | .sendData streamId tx frame =>
      if ((state.mux.channels tx).trySend (.ok frame)).1 = .closed then some streamId else none
  | _ => none

/-- The action removes no registered stream from `streams` alone. -/
def RemovesNone (state : DispatchState) : CallAction → Prop
  | .dispatch .resume =>
      match state.removedAlone with
      | some streamId => streamId ∉ state.mux.streams
      | none => True
  | _ => True

instance (state : DispatchState) (action : CallAction) : Decidable (RemovesNone state action) := by
  unfold RemovesNone
  split
  · split <;> infer_instance
  · infer_instance

variable {state next : DispatchState}

theorem resume_changes {next : Multiplexer} (resumed : state.mux.resume state.task = some next) :
    (state.removedAlone = none ∧ ChangesBoth state.mux next) ∨
    ∃ streamId, state.removedAlone = some streamId ∧
      next.streams = state.mux.streams.erase streamId ∧
      next.streamPriorities = state.mux.streamPriorities := by
  rcases state with ⟨mux, task⟩
  cases Multiplexer.resumes_of_resume resumed with
  | queued sent | delivered sent =>
      exact .inl ⟨by simp [DispatchState.removedAlone, sent], .kept rfl rfl⟩
  | refused closed | lost closed =>
      exact .inr ⟨_, by simp [DispatchState.removedAlone, closed], rfl, rfl⟩
  | closes => exact .inl ⟨rfl, .removed rfl rfl⟩

theorem processFrame_changesBoth (mux : Multiplexer) (frame : Frame) :
    ChangesBoth mux (mux.processFrame frame).1 := by
  rcases mux.processFrame_cases frame with
    ⟨openStream, -, -, processed⟩ | ⟨streamId, tx, -, sends⟩ |
      ⟨-, -, streams, priorities, changed, processed⟩
  · rw [processed]
    exact .registered rfl rfl
  · rcases sends with ⟨payload, endOfStream, -, processed⟩ | ⟨reason, -, processed⟩ <;>
      rw [processed] <;> exact .kept rfl rfl
  · rw [processed]
    rcases changed with ⟨streamsEq, prioritiesEq⟩ | ⟨streamId, streamsEq, prioritiesEq⟩
    · exact .kept streamsEq prioritiesEq
    · exact .removed streamsEq prioritiesEq

/-- A step changes both maps alike, or `process_frame` goes on and removes a
stream from `streams` alone. -/
theorem CallMove.changes {action : CallAction} (move : CallMove state action next) :
    (RemovesNone state action ∧ ChangesBoth state.mux next.mux) ∨
    ∃ streamId, action = .dispatch .resume ∧ state.removedAlone = some streamId ∧
      next.mux.streams = state.mux.streams.erase streamId ∧
      next.mux.streamPriorities = state.mux.streamPriorities ∧ next.task = .idle := by
  cases move with
  | @processes frame => exact .inl ⟨trivial, processFrame_changesBoth state.mux frame⟩
  | resumes resumed =>
      rcases resume_changes resumed with
        ⟨none, both⟩ | ⟨streamId, alone, streamsEq, prioritiesEq⟩
      · exact .inl ⟨by simp [RemovesNone, none], both⟩
      · exact .inr ⟨streamId, rfl, alone, streamsEq, prioritiesEq, rfl⟩
  | opens room => exact .inl ⟨trivial, .registered rfl rfl⟩
  | keeps other streams priorities =>
      left
      constructor
      · unfold RemovesNone
        split
        · contradiction
        · trivial
      · exact .kept streams priorities

/-- A step that removes no registered stream keeps the keys the same. -/
theorem RemovesNone.sameKeys {action : CallAction} (removes : RemovesNone state action)
    (same : state.mux.SameKeys) (stepEq : callStep state action = some next) :
    next.mux.SameKeys := by
  rcases (callStep_move stepEq).changes with
    ⟨-, both⟩ | ⟨streamId, rfl, alone, streamsEq, prioritiesEq, -⟩
  · exact both.sameKeys same
  · have absent : streamId ∉ state.mux.streams := by
      simpa only [RemovesNone, alone] using removes
    rw [Multiplexer.SameKeys, streamsEq, prioritiesEq, Finmap.keys_erase]
    exact (Finset.erase_eq_of_notMem absent).trans same

/-! ## Runs -/

/-- Whenever no `process_frame` call is in progress, the maps have the same keys. -/
def KeysAgree (state : DispatchState) : Prop :=
  state.task = .idle → state.mux.SameKeys

/-- A step after which the maps agree has removed no registered stream. -/
theorem removesNone_of_keysAgree {action : CallAction} (same : state.mux.SameKeys)
    (stepEq : callStep state action = some next) (agree : KeysAgree next) :
    RemovesNone state action := by
  rcases (callStep_move stepEq).changes with
    ⟨removes, -⟩ | ⟨streamId, rfl, alone, streamsEq, prioritiesEq, idle⟩
  · exact removes
  · simp only [RemovesNone, alone]
    intro registered
    exact not_sameKeys_of_removed same registered streamsEq prioritiesEq (agree idle)

/-- In every run of a multiplexer, the maps have the same keys whenever no call
is in progress if and only if no delivery or hand-over that finds its channel
closed removes a stream that is still registered. -/
theorem bookkeeping_agrees_iff (isClient : Bool) (actions : List CallAction)
    (final : DispatchState) (run : exec callStep (.initial isClient) actions = some final) :
    Meets callStep RemovesNone (.initial isClient) actions ↔
      Always callStep KeysAgree (.initial isClient) actions := by
  have initial : (DispatchState.initial isClient).mux.SameKeys := rfl
  have agree {state : DispatchState} (same : state.mux.SameKeys) : KeysAgree state :=
    fun _ => same
  exact meets_iff_always
    (fun same _ removes stepEq => RemovesNone.sameKeys removes same stepEq)
    agree removesNone_of_keysAgree initial run (.of_forall (fun _ _ => trivial) _ _)

/-- The peer opens stream 2 and closes it again. -/
def openedAndClosed : List CallAction :=
  [.dispatch (.process (Multiplexer.openFrame 2 .tcp .normal)), .dispatch .resume,
    .dispatch (.process (.closeStream 2 .normal)), .dispatch .resume]

theorem bookkeeping_agrees_iff_openedAndClosed :
    (exec callStep (.initial true) openedAndClosed).isSome ∧
      Always callStep KeysAgree (.initial true) openedAndClosed := by
  have returns : (exec callStep (.initial true) openedAndClosed).isSome := by decide
  constructor
  · exact returns
  · obtain ⟨final, run⟩ := Option.isSome_iff_exists.mp returns
    rw [← bookkeeping_agrees_iff true openedAndClosed final run]
    decide

/-- The owner of stream 2 drops it before data for it arrives. -/
def dataAfterDrop : List CallAction :=
  [.dispatch (.process (Multiplexer.openFrame 2 .tcp .normal)), .dispatch .resume,
    .dispatch (.dropOwner (.new 2 0 .normal [] .tcp)),
    .dispatch (.process (.data 2 [7] false)), .dispatch .resume]

/-- The peer opens stream 2 when nobody accepts streams any more. -/
def openAfterClose : List CallAction :=
  [.dispatch .closeAcceptor, .dispatch (.process (Multiplexer.openFrame 2 .tcp .normal)),
    .dispatch .resume]

/-- In both runs the call has returned, and stream 2 has a priority and no sender. -/
theorem priority_left_behind :
    (∃ state, exec callStep (.initial true) dataAfterDrop = some state ∧ state.task = .idle ∧
      2 ∉ state.mux.streams ∧ 2 ∈ state.mux.streamPriorities) ∧
    ∃ state, exec callStep (.initial true) openAfterClose = some state ∧ state.task = .idle ∧
      2 ∉ state.mux.streams ∧ 2 ∈ state.mux.streamPriorities := by
  constructor
  · exact ⟨_, rfl, rfl, by decide, by decide⟩
  · exact ⟨_, rfl, rfl, by decide, by decide⟩

end FerroTunnel.Stream
