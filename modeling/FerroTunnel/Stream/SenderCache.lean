import FerroTunnel.Stream.Multiplexer
import FerroTunnel.Transition.Core

/-!
# The sender cache against the stream map

Frames are dispatched through a cache of the last sender looked up.  The cache
is not told when a stream is closed, dropped or registered again, so a frame
may go to a channel that is no longer the one registered under its id.

The reference dispatches through the stream map alone.  It remembers only the
id it last found there, and whether the registration of that id has changed
since.  The two dispatch alike on exactly those runs in which no frame arrives
for that id after such a change.
-/

namespace FerroTunnel.Stream

open FerroTunnel.Channel
open FerroTunnel.Transition
open FerroTunnel.Wire

/-- A multiplexer and the `process_frame` call in progress. -/
structure DispatchState where
  mux : Multiplexer
  task : FrameTask

/-- What can happen to a multiplexer: frames from the peer, local opens, and the
owners of streams accepting, reading and dropping them. -/
inductive DispatchAction
  | process (frame : Frame)
  | resume
  | openStream (priority : StreamPriority)
  | accept
  | receive (chan : ChanId)
  | dropOwner (stream : VirtualStream)
  | closeAcceptor

/-- The stream whose sender a frame is dispatched to. -/
def dispatchedTo : Frame → Option UInt32
  | .data streamId _ _ => some streamId
  | .closeStream streamId _ => some streamId
  | _ => none

/-- One step, over a way to find the sender of a stream. -/
def dispatchStepWith (dispatch : Multiplexer → UInt32 → Option ChanId × Multiplexer) :
    Step DispatchState DispatchAction
  | state, .process frame =>
      match state.task with
      | .idle =>
          let (mux, task) := Multiplexer.processFrameWith dispatch state.mux frame
          some ⟨mux, task⟩
      | _ => none
  | state, .resume => (state.mux.resume state.task).map fun mux => ⟨mux, .idle⟩
  | state, .openStream priority =>
      match state.mux.openStream priority with
      | .ok (_, _, mux) => some ⟨mux, state.task⟩
      | .error _ => some state
  | state, .accept =>
      some ⟨{ state.mux with newStreams := state.mux.newStreams.recv.2 }, state.task⟩
  | state, .receive chan =>
      some ⟨{ state.mux with
        channels := Function.update state.mux.channels chan (state.mux.channels chan).recv.2 },
        state.task⟩
  | state, .dropOwner stream => some ⟨state.mux.dropStream stream, state.task⟩
  | state, .closeAcceptor =>
      some ⟨{ state.mux with newStreams := state.mux.newStreams.closeReceiver }, state.task⟩

/-- Steps of the multiplexer as it is, through the cache. -/
def dispatchStep : Step DispatchState DispatchAction :=
  dispatchStepWith Multiplexer.dispatch

/-- Dispatch through the stream map alone. -/
def registeredSender (mux : Multiplexer) (streamId : UInt32) : Option ChanId × Multiplexer :=
  (mux.streams.lookup streamId, mux)

/-- The action hands a frame, if any, to exactly the registered channel. -/
def SendsToRegistered (state : DispatchState) : DispatchAction → Prop
  | .process frame => ∀ streamId, dispatchedTo frame = some streamId →
      (state.mux.dispatch streamId).1 = state.mux.streams.lookup streamId
  | _ => True

/-! ## The reference -/

/-- The reference: a state that uses no cache, the id last found in the stream
map, and whether its registration has changed since. -/
structure Reference where
  base : DispatchState
  lastFound : Option (UInt32 × Bool)

/-- The id an action finds in the stream map. -/
def found (base : DispatchState) : DispatchAction → Option UInt32
  | .process frame => (dispatchedTo frame).filter fun streamId =>
      (base.mux.streams.lookup streamId).isSome
  | _ => none

/-- What the reference remembers across a step: the id just found, or the one
found before, and whether the step or an earlier one changed its registration. -/
def remember (lastFound : Option (UInt32 × Bool)) (base next : DispatchState)
    (action : DispatchAction) : Option (UInt32 × Bool) :=
  let last := match found base action with
    | some streamId => some (streamId, false)
    | none => lastFound
  last.map fun (streamId, changed) => (streamId, changed ||
    decide (next.mux.streams.lookup streamId ≠ base.mux.streams.lookup streamId))

/-- One step of the reference. -/
def referenceStep : Step Reference DispatchAction
  | reference, action =>
      (dispatchStepWith registeredSender reference.base action).map fun next =>
        ⟨next, remember reference.lastFound reference.base next action⟩

/-- No frame for the id last found after its registration changed. -/
def FollowsRegistration (reference : Reference) : DispatchAction → Prop
  | .process frame => ∀ streamId, dispatchedTo frame = some streamId →
      reference.lastFound ≠ some (streamId, true)
  | _ => True

/-! ## Agreement -/

/-- The multiplexer with another content of its cache. -/
def Multiplexer.withCache (mux : Multiplexer) (cache : Option (UInt32 × ChanId)) : Multiplexer :=
  { mux with lastSender := cache }

/-- The cache holds the id last found, with the channel registered then. -/
inductive CacheAgrees (mux : Multiplexer) :
    Option (UInt32 × ChanId) → Option (UInt32 × Bool) → Prop
  | empty : CacheAgrees mux none none
  | filled {streamId : UInt32} {tx : ChanId} {changed : Bool} (made : tx < mux.nextChan)
      (current : changed = false ↔ mux.streams.lookup streamId = some tx) :
      CacheAgrees mux (some (streamId, tx)) (some (streamId, changed))

/-- The state and the reference differ in the cache only. -/
structure Agrees (state : DispatchState) (reference : Reference) : Prop where
  mux : state.mux = reference.base.mux.withCache state.mux.lastSender
  task : state.task = reference.base.task
  made : ∀ streamId tx, reference.base.mux.streams.lookup streamId = some tx →
    tx < reference.base.mux.nextChan
  cache : CacheAgrees reference.base.mux state.mux.lastSender reference.lastFound

/-- The registrations of `after` are those of `before`, or of channels made
in between. -/
structure RegistersFresh (before after : Multiplexer) : Prop where
  grows : before.nextChan ≤ after.nextChan
  fresh : ∀ streamId tx, after.streams.lookup streamId = some tx →
    before.streams.lookup streamId = some tx ∨
      before.nextChan ≤ tx ∧ tx < after.nextChan

namespace RegistersFresh

variable {before after : Multiplexer}

/-- If the registered channels have been made before, they have been made after. -/
theorem made (registers : RegistersFresh before after)
    (made : ∀ streamId tx, before.streams.lookup streamId = some tx → tx < before.nextChan)
    (streamId : UInt32) (tx : ChanId) (registered : after.streams.lookup streamId = some tx) :
    tx < after.nextChan := by
  rcases registers.fresh streamId tx registered with earlier | ⟨-, bounded⟩
  · exact Nat.lt_of_lt_of_le (made streamId tx earlier) registers.grows
  · exact bounded

theorem of_streams_eq (streams : after.streams = before.streams)
    (nextChan : after.nextChan = before.nextChan) : RegistersFresh before after := by
  refine ⟨nextChan.ge, fun streamId tx registered => .inl ?_⟩
  rwa [streams] at registered

theorem of_streams_erase {erased : UInt32} (streams : after.streams = before.streams.erase erased)
    (nextChan : after.nextChan = before.nextChan) : RegistersFresh before after := by
  refine ⟨nextChan.ge, fun streamId tx registered => .inl ?_⟩
  rw [streams] at registered
  exact Map.lookup_of_lookup_erase registered

theorem of_streams_insert {inserted : UInt32}
    (streams : after.streams = before.streams.insert inserted before.nextChan)
    (nextChan : after.nextChan = before.nextChan + 1) : RegistersFresh before after := by
  refine ⟨nextChan ▸ Nat.le_succ _, fun streamId tx registered => ?_⟩
  rw [streams] at registered
  rcases Map.lookup_insert_cases registered with ⟨_, rfl⟩ | before
  · exact .inr ⟨Nat.le_refl _, nextChan ▸ Nat.lt_succ_self _⟩
  · exact .inl before

end RegistersFresh

variable {mux : Multiplexer} {action : DispatchAction} {cache : Option (UInt32 × ChanId)}
  {state : DispatchState} {reference : Reference}

theorem resume_registersFresh {next : Multiplexer} {task : FrameTask}
    (resumed : mux.resume task = some next) : RegistersFresh mux next := by
  obtain ⟨kept | ⟨streamId, erased⟩, -, nextChan, -⟩ := Multiplexer.resume_registrations resumed
  · exact .of_streams_eq kept nextChan
  · exact .of_streams_erase erased nextChan

theorem openStream_registersFresh {next : Multiplexer} {priority : StreamPriority}
    {streamId : UInt32} {chan : ChanId}
    (opened : mux.openStream priority = .ok (streamId, chan, next)) : RegistersFresh mux next := by
  by_cases room : mux.nextStreamId.toNat + 2 < 2 ^ 32
  · rw [Multiplexer.openStream_of_room room] at opened
    cases opened
    exact .of_streams_insert rfl rfl
  · rw [Multiplexer.openStream_of_exhausted room] at opened
    cases opened

theorem processFrame_registersFresh (mux : Multiplexer) (frame : Frame) :
    RegistersFresh mux (Multiplexer.processFrameWith registeredSender mux frame).1 := by
  unfold Multiplexer.processFrameWith
  split
  · simp only
    split
    · exact .of_streams_eq rfl rfl
    · exact .of_streams_insert rfl rfl
  · split <;> rename_i mux' dispatched <;> obtain rfl : mux = mux' := congrArg Prod.snd dispatched
    · exact .of_streams_eq rfl rfl
    · exact .of_streams_eq rfl rfl
  · split <;> rename_i mux' dispatched <;> obtain rfl : mux = mux' := congrArg Prod.snd dispatched
    · exact .of_streams_eq rfl rfl
    · exact .of_streams_erase rfl rfl
  · exact .of_streams_eq rfl rfl

/-- Every step registers fresh channels only. -/
theorem step_registersFresh {base next : DispatchState}
    (stepEq : dispatchStepWith registeredSender base action = some next) :
    RegistersFresh base.mux next.mux := by
  cases action with
  | process frame =>
      simp only [dispatchStepWith] at stepEq
      split at stepEq <;> cases stepEq
      exact processFrame_registersFresh base.mux frame
  | resume =>
      obtain ⟨mux, resumed, rfl⟩ := Option.map_eq_some_iff.mp stepEq
      exact resume_registersFresh resumed
  | openStream priority =>
      simp only [dispatchStepWith] at stepEq
      split at stepEq <;> cases stepEq
      · rename_i opened
        exact openStream_registersFresh opened
      · exact .of_streams_eq rfl rfl
  | accept | receive chan | dropOwner stream | closeAcceptor =>
      cases stepEq
      exact .of_streams_eq rfl rfl

/-! ## Dispatching alike -/

/-- The cache after an action that dispatches alike. -/
def cacheAfter (base : DispatchState) (cache : Option (UInt32 × ChanId))
    (action : DispatchAction) : Option (UInt32 × ChanId) :=
  match found base action with
  | some streamId => (base.mux.streams.lookup streamId).map (Prod.mk streamId)
  | none => cache

theorem cacheAfter_process {frame : Frame} {streamId : UInt32}
    (dispatched : dispatchedTo frame = some streamId) (base : DispatchState)
    (cache : Option (UInt32 × ChanId)) :
    cacheAfter base cache (.process frame) =
      match base.mux.streams.lookup streamId with
      | some tx => some (streamId, tx)
      | none => cache := by
  cases registered : base.mux.streams.lookup streamId <;>
    simp [cacheAfter, found, dispatched, Option.filter, registered]

/-- Where the cache gives the registered sender, it ends up holding it. -/
theorem dispatch_of_registered {streamId : UInt32}
    (registered : ((mux.withCache cache).dispatch streamId).1 = mux.streams.lookup streamId) :
    (mux.withCache cache).dispatch streamId =
      (mux.streams.lookup streamId, mux.withCache
        (match mux.streams.lookup streamId with
        | some tx => some (streamId, tx)
        | none => cache)) := by
  have streamsEq : (mux.withCache cache).streams = mux.streams := rfl
  unfold Multiplexer.dispatch at registered ⊢
  cases cached : (mux.withCache cache).cachedSender streamId with
  | some tx =>
      rw [cached] at registered
      simp only [← registered]
      obtain ⟨cachedId, hit⟩ : ∃ cachedId, cache = some (cachedId, tx) ∧ cachedId = streamId := by
        simp only [Multiplexer.cachedSender, Multiplexer.withCache] at cached
        split at cached
        · rename_i id sender
          split at cached <;> cases cached
          exact ⟨id, rfl, by assumption⟩
        · cases cached
      rw [hit.1, hit.2]
  | none =>
      simp only [Multiplexer.lookupAndCacheSender, streamsEq]
      cases mux.streams.lookup streamId <;> rfl

/-- Apart from the cache, a step that dispatches to the registered sender is the
step of the reference. -/
theorem dispatchStep_of_registered (base : DispatchState)
    (registered : SendsToRegistered ⟨base.mux.withCache cache, base.task⟩ action) :
    dispatchStep ⟨base.mux.withCache cache, base.task⟩ action =
      (dispatchStepWith registeredSender base action).map fun next =>
        ⟨next.mux.withCache (cacheAfter base cache action), next.task⟩ := by
  rcases base with ⟨mux, task⟩
  cases action with
  | process frame =>
      cases task <;> try rfl
      simp only [dispatchStep, dispatchStepWith, Option.map_some, Option.some.injEq]
      cases frame with
      | openStream openStream =>
          simp only [Multiplexer.processFrameWith, cacheAfter, found, dispatchedTo,
            Option.filter_none]
          have streamsEq : (mux.withCache cache).streams = mux.streams := rfl
          rw [streamsEq]
          cases mux.streams.lookup openStream.streamId <;> rfl
      | data streamId payload endOfStream | closeStream streamId reason =>
          have dispatched := dispatch_of_registered (registered streamId rfl)
          rw [cacheAfter_process rfl]
          simp only [Multiplexer.processFrameWith, dispatched, registeredSender]
          cases mux.streams.lookup streamId <;> rfl
      | _ => rfl
  | resume =>
      simp only [dispatchStep, dispatchStepWith, Option.map_map]
      cases task with
      | idle => rfl
      | queueStream stream | sendData streamId tx frame | sendClose streamId tx frame =>
          simp only [Multiplexer.resume, Multiplexer.withCache]
          split <;> rfl
  | openStream priority =>
      have nextEq : (mux.withCache cache).nextStreamId = mux.nextStreamId := rfl
      simp only [dispatchStep, dispatchStepWith]
      by_cases room : mux.nextStreamId.toNat + 2 < 2 ^ 32
      · rw [Multiplexer.openStream_of_room room, Multiplexer.openStream_of_room (nextEq ▸ room)]
        rfl
      · rw [Multiplexer.openStream_of_exhausted room,
          Multiplexer.openStream_of_exhausted (nextEq ▸ room)]
        rfl
  | accept | receive chan | dropOwner stream | closeAcceptor => rfl

/-! ## Runs -/

/-- The cache gives the registered sender unless the frame is for the id last
found and its registration has changed. -/
theorem CacheAgrees.dispatch_iff {lastFound : Option (UInt32 × Bool)}
    (agrees : CacheAgrees mux cache lastFound) (streamId : UInt32) :
    ((mux.withCache cache).dispatch streamId).1 = mux.streams.lookup streamId ↔
      lastFound ≠ some (streamId, true) := by
  have missed (miss : (mux.withCache cache).cachedSender streamId = none) :
      ((mux.withCache cache).dispatch streamId).1 = mux.streams.lookup streamId := by
    have streamsEq : (mux.withCache cache).streams = mux.streams := rfl
    simp only [Multiplexer.dispatch, miss, Multiplexer.lookupAndCacheSender, streamsEq]
    cases mux.streams.lookup streamId <;> rfl
  cases agrees with
  | empty =>
      refine iff_of_true (missed rfl) ?_
      rintro ⟨⟩
  | @filled cachedId tx changed made current =>
      by_cases same : cachedId = streamId
      · subst same
        have hit : ((mux.withCache (some (cachedId, tx))).dispatch cachedId).1 = some tx := by
          simp [Multiplexer.dispatch, Multiplexer.cachedSender, Multiplexer.withCache]
        rw [hit, eq_comm, ← current]
        cases changed <;> simp
      · refine iff_of_true (missed ?_) ?_
        · simp [Multiplexer.cachedSender, Multiplexer.withCache, same]
        · simp [same]

/-- Agreement decides alike whether a frame follows its registration. -/
theorem Agrees.sendsToRegistered_iff (agrees : Agrees state reference) (action : DispatchAction) :
    SendsToRegistered state action ↔ FollowsRegistration reference action := by
  cases action with
  | process frame =>
      apply forall_congr'
      intro streamId
      apply imp_congr_right
      intro _
      rw [agrees.mux]
      exact agrees.cache.dispatch_iff streamId
  | _ => exact Iff.rfl

/-- The cache follows the reference across a step that dispatches alike. -/
theorem CacheAgrees.step {base next : DispatchState} {lastFound : Option (UInt32 × Bool)}
    (agrees : CacheAgrees base.mux cache lastFound)
    (made : ∀ streamId tx, base.mux.streams.lookup streamId = some tx → tx < base.mux.nextChan)
    (fresh : RegistersFresh base.mux next.mux) :
    CacheAgrees next.mux (cacheAfter base cache action)
      (remember lastFound base next action) := by
  have filled {streamId : UInt32} {tx : ChanId} {changed : Bool} (old : tx < base.mux.nextChan)
      (current : changed = false ↔ base.mux.streams.lookup streamId = some tx) :
      CacheAgrees next.mux (some (streamId, tx)) (some (streamId,
        changed || decide (next.mux.streams.lookup streamId ≠
          base.mux.streams.lookup streamId))) := by
    refine .filled (Nat.lt_of_lt_of_le old fresh.grows) ?_
    rw [Bool.or_eq_false_iff, current, decide_eq_false_iff_not, not_not]
    constructor
    · rintro ⟨registered, same⟩
      exact same.trans registered
    · intro registered
      rcases fresh.fresh streamId tx registered with before | ⟨later, _⟩
      · exact ⟨before, registered.trans before.symm⟩
      · exact absurd old (Nat.not_lt.mpr later)
  cases lookedUp : found base action with
  | none =>
      simp only [cacheAfter, remember, lookedUp]
      cases agrees with
      | empty => exact .empty
      | filled old current => exact filled old current
  | some streamId =>
      obtain ⟨tx, registered⟩ : ∃ tx, base.mux.streams.lookup streamId = some tx := by
        cases action with
        | process frame =>
            exact Option.isSome_iff_exists.mp (Option.filter_eq_some_iff.mp lookedUp).2
        | _ => cases lookedUp
      simp only [cacheAfter, remember, lookedUp, registered, Option.map_some]
      rw [← registered]
      exact filled (made streamId tx registered) (iff_of_true rfl registered)

/-- A step that dispatches alike keeps the agreement. -/
theorem Agrees.step (action : DispatchAction) (agrees : Agrees state reference)
    (registered : SendsToRegistered state action) :
    (dispatchStep state action = none ∧ referenceStep reference action = none) ∨
    ∃ next referenceNext, dispatchStep state action = some next ∧
      referenceStep reference action = some referenceNext ∧ Agrees next referenceNext := by
  rcases state with ⟨mux, task⟩
  obtain ⟨muxEq, taskEq, made, cache⟩ := agrees
  simp only at muxEq taskEq cache
  generalize mux.lastSender = cached at muxEq cache
  subst muxEq taskEq
  have stepped := dispatchStep_of_registered reference.base registered
  cases baseStep : dispatchStepWith registeredSender reference.base action with
  | none =>
      left
      rw [baseStep] at stepped
      exact ⟨stepped, by simp [referenceStep, baseStep]⟩
  | some next =>
      right
      rw [baseStep] at stepped
      have fresh := step_registersFresh baseStep
      refine ⟨_, ⟨next, remember reference.lastFound reference.base next action⟩, stepped,
        by simp only [referenceStep, baseStep, Option.map_some], rfl, rfl, ?_, ?_⟩
      · exact fresh.made made
      · exact cache.step made fresh

/-- The state of a fresh connection. -/
def DispatchState.initial (isClient : Bool) : DispatchState :=
  ⟨.new isClient, .idle⟩

/-- The reference of a fresh connection. -/
def Reference.initial (isClient : Bool) : Reference :=
  ⟨.initial isClient, none⟩

theorem Agrees.initial (isClient : Bool) :
    Agrees (.initial isClient) (.initial isClient) := by
  refine ⟨rfl, rfl, ?_, .empty⟩
  intro streamId tx registered
  cases registered

/-- From agreeing states, the cache is transparent over a run exactly when the
reference sees no frame for an id whose registration changed since it was last
found. -/
theorem Agrees.meets_iff (agrees : Agrees state reference) (actions : List DispatchAction) :
    Meets dispatchStep SendsToRegistered state actions ↔
      Meets referenceStep FollowsRegistration reference actions := by
  induction actions generalizing state reference with
  | nil => exact Iff.rfl
  | cons action rest ih =>
      simp only [Meets, agrees.sendsToRegistered_iff action]
      apply and_congr_right
      intro follows
      rcases agrees.step action ((agrees.sendsToRegistered_iff action).mpr follows) with
        ⟨stuck, referenceStuck⟩ | ⟨next, referenceNext, stepped, referenceStepped, agreesNext⟩
      · simp [stuck, referenceStuck]
      · simp only [stepped, referenceStepped, Option.some.injEq, forall_eq']
        exact ih agreesNext

/-- On every run of a connection, every data and close frame goes to exactly the
channel registered under its id, or nowhere when there is none, if and only if
no such frame arrives for the id last found after that id was removed or
registered again. -/
theorem dispatch_registered_iff (isClient : Bool) (actions : List DispatchAction) :
    Meets dispatchStep SendsToRegistered (.initial isClient) actions ↔
      Meets referenceStep FollowsRegistration (.initial isClient) actions :=
  (Agrees.initial isClient).meets_iff actions

/-- The server opens stream 2, closes it and opens it again; the close has put
the first channel into the cache. -/
def reopenedStream : List DispatchAction :=
  [.process (Multiplexer.openFrame 2 .tcp .normal), .resume,
    .process (.closeStream 2 .normal), .resume,
    .process (Multiplexer.openFrame 2 .tcp .normal), .resume]

/-- Data for the reopened stream goes to the channel of the closed one. -/
theorem reopenedStream_misrouted :
    (exec dispatchStep (.initial true) reopenedStream).map (fun state =>
        ((state.mux.dispatch 2).1, state.mux.streams.lookup 2)) = some (some 0, some 1) ∧
      ¬Meets dispatchStep SendsToRegistered (.initial true)
        (reopenedStream ++ [.process (.data 2 [7] false)]) := by
  have senders : (exec dispatchStep (.initial true) reopenedStream).map (fun state =>
      ((state.mux.dispatch 2).1, state.mux.streams.lookup 2)) = some (some 0, some 1) := by
    decide
  refine ⟨senders, fun meets => ?_⟩
  obtain ⟨state, run, values⟩ := Option.map_eq_some_iff.mp senders
  have registered := (meets.of_append run).1 2 rfl
  rw [(Prod.mk.inj values).1, (Prod.mk.inj values).2] at registered
  cases registered

end FerroTunnel.Stream
