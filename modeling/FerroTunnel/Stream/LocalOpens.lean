import FerroTunnel.Stream.OpenStream

/-!
# Local opens and the ids of the peer

A local open registers its channel under the next id of its counter and
replaces whatever is registered there.  The ids of the peer come from the wire
unchecked.  A peer that names an id this end has yet to allocate puts a live
stream in the way of a later local open; without such a frame every local open
finds its id free.
-/

namespace FerroTunnel.Stream

open FerroTunnel.Transition
open FerroTunnel.Wire

/-! ## Ids ahead of the counter -/

/-- The id is one that this multiplexer can still come to allocate. -/
def Multiplexer.YetToAllocate (mux : Multiplexer) (streamId : UInt32) : Prop :=
  mux.nextStreamId.toNat ≤ streamId.toNat ∧
    streamId.toNat % 2 = mux.nextStreamId.toNat % 2 ∧ streamId.toNat + 2 < 2 ^ 32

instance (mux : Multiplexer) (streamId : UInt32) : Decidable (mux.YetToAllocate streamId) := by
  unfold Multiplexer.YetToAllocate
  infer_instance

/-- No id that is yet to be allocated is registered. -/
def Multiplexer.LocalIdsFree (mux : Multiplexer) : Prop :=
  ∀ streamId ∈ mux.streams, ¬mux.YetToAllocate streamId

/-- The frame, if it opens a stream, names no id that this end has yet to
allocate. -/
def SparesLocalIds (state : DispatchState) : CallAction → Prop
  | .dispatch (.process (.openStream openStream)) =>
      ¬state.mux.YetToAllocate openStream.streamId
  | _ => True

instance (state : DispatchState) (action : CallAction) :
    Decidable (SparesLocalIds state action) := by
  unfold SparesLocalIds
  split <;> infer_instance

/-- A local open fails, or registers its channel under an id that has no entry. -/
def OpensFree (state : DispatchState) : CallAction → Prop
  | .dispatch (.openStream priority) => ∀ streamId chan mux,
      state.mux.openStream priority = .ok (streamId, chan, mux) → streamId ∉ state.mux.streams
  | _ => True

namespace Multiplexer

theorem toNat_add_two {counter : UInt32} (room : counter.toNat + 2 < 2 ^ 32) :
    (counter + 2).toNat = counter.toNat + 2 := by
  rw [UInt32.toNat_add]
  exact Nat.mod_eq_of_lt room

variable {mux next : Multiplexer}

/-- The next id is ahead of the counter, unless the ids are exhausted. -/
theorem yetToAllocate_next (room : mux.nextStreamId.toNat + 2 < 2 ^ 32) :
    mux.YetToAllocate mux.nextStreamId :=
  ⟨Nat.le_refl _, rfl, room⟩

/-- Allocating leaves fewer ids ahead, and not the one just allocated. -/
theorem YetToAllocate.of_advanced {streamId : UInt32} (room : mux.nextStreamId.toNat + 2 < 2 ^ 32)
    (counter : next.nextStreamId = mux.nextStreamId + 2) (ahead : next.YetToAllocate streamId) :
    mux.YetToAllocate streamId ∧ streamId ≠ mux.nextStreamId := by
  obtain ⟨above, sameParity, below⟩ := ahead
  rw [counter, toNat_add_two room] at above sameParity
  constructor
  · exact ⟨by omega, by omega, below⟩
  · rintro rfl
    omega

variable (free : mux.LocalIdsFree)

include free

theorem LocalIdsFree.of_subset (counter : next.nextStreamId = mux.nextStreamId)
    (subset : ∀ streamId ∈ next.streams, streamId ∈ mux.streams) : next.LocalIdsFree := by
  intro streamId registered ahead
  rw [YetToAllocate, counter] at ahead
  exact free streamId (subset streamId registered) ahead

/-- Registering an id that is not ahead of the counter. -/
theorem LocalIdsFree.of_registered {opened : UInt32} {chan : ChanId}
    (spared : ¬mux.YetToAllocate opened) (counter : next.nextStreamId = mux.nextStreamId)
    (streams : next.streams = mux.streams.insert opened chan) : next.LocalIdsFree := by
  intro streamId registered ahead
  rw [YetToAllocate, counter] at ahead
  rw [streams, Finmap.mem_insert] at registered
  rcases registered with rfl | earlier
  · exact spared ahead
  · exact free streamId earlier ahead

/-- Registering the id just allocated. -/
theorem LocalIdsFree.of_opened {chan : ChanId} (room : mux.nextStreamId.toNat + 2 < 2 ^ 32)
    (counter : next.nextStreamId = mux.nextStreamId + 2)
    (streams : next.streams = mux.streams.insert mux.nextStreamId chan) : next.LocalIdsFree := by
  intro streamId registered ahead
  obtain ⟨aheadBefore, different⟩ := ahead.of_advanced room counter
  rw [streams, Finmap.mem_insert] at registered
  rcases registered with same | earlier
  · exact different same
  · exact free streamId earlier aheadBefore

/-! ## Steps -/

theorem LocalIdsFree.resume {task : FrameTask} (resumed : mux.resume task = some next) :
    next.LocalIdsFree := by
  obtain ⟨kept | ⟨erased, streamsEq⟩, counter, -⟩ := resume_registrations resumed
  · apply free.of_subset counter
    intro streamId registered
    rwa [kept] at registered
  · apply free.of_subset counter
    intro streamId registered
    rw [streamsEq] at registered
    exact (Finmap.mem_erase.mp registered).2

theorem LocalIdsFree.processFrame {frame : Frame}
    (spared : ∀ openStream, frame = .openStream openStream →
      ¬mux.YetToAllocate openStream.streamId) : (mux.processFrame frame).1.LocalIdsFree := by
  rcases mux.processFrame_cases frame with
    ⟨openStream, rfl, -, processed⟩ | ⟨streamId, tx, -, sends⟩ |
      ⟨-, -, streams, priorities, changed, processed⟩
  · rw [processed]
    exact free.of_registered (spared openStream rfl) rfl rfl
  · rcases sends with ⟨payload, endOfStream, -, processed⟩ | ⟨reason, -, processed⟩ <;>
      rw [processed] <;> exact free.of_subset rfl (fun _ registered => registered)
  · rw [processed]
    rcases changed with ⟨rfl, -⟩ | ⟨streamId, rfl, -⟩
    · exact free.of_subset rfl (fun _ registered => registered)
    · exact free.of_subset rfl (fun _ registered => (Finmap.mem_erase.mp registered).2)

omit free

/-- A frame that opens a stream leaves its id registered and the counter alone. -/
theorem mem_streams_processFrame (mux : Multiplexer) (openStream : OpenStreamFrame) :
    openStream.streamId ∈ (mux.processFrame (.openStream openStream)).1.streams ∧
      (mux.processFrame (.openStream openStream)).1.nextStreamId = mux.nextStreamId := by
  cases registered : mux.streams.lookup openStream.streamId with
  | some tx =>
      simp only [Multiplexer.processFrame, processFrameWith, registered]
      exact ⟨Finmap.mem_iff.mpr ⟨tx, registered⟩, trivial⟩
  | none =>
      simp only [Multiplexer.processFrame, processFrameWith, registered, makeStream,
        boundedAsync, register]
      exact ⟨Finmap.mem_insert.mpr (.inl rfl), trivial⟩

end Multiplexer

variable {state : DispatchState}

theorem callStep_openStream_of_room (room : state.mux.nextStreamId.toNat + 2 < 2 ^ 32)
    (priority : StreamPriority) :
    ∃ next, callStep state (.dispatch (.openStream priority)) = some next ∧
      next.mux.nextStreamId = state.mux.nextStreamId + 2 ∧
      next.mux.streams = state.mux.streams.insert state.mux.nextStreamId state.mux.nextChan := by
  simp only [callStep, dispatchStep, dispatchStepWith, Multiplexer.openStream_of_room room]
  exact ⟨_, rfl, rfl, rfl⟩

/-- A step in which the peer spares the local ids keeps them free. -/
theorem SparesLocalIds.localIdsFree {next : DispatchState} {action : CallAction}
    (spares : SparesLocalIds state action) (free : state.mux.LocalIdsFree)
    (stepEq : callStep state action = some next) : next.mux.LocalIdsFree := by
  cases callStep_move stepEq with
  | processes =>
      apply free.processFrame
      rintro openStream rfl
      exact spares
  | resumes resumed => exact free.resume resumed
  | opens room => exact free.of_opened room rfl rfl
  | keeps _ streams _ counter =>
      apply free.of_subset counter
      intro streamId registered
      rwa [streams] at registered

/-- While the local ids are free, a local open finds its id free. -/
theorem Multiplexer.LocalIdsFree.opensFree (free : state.mux.LocalIdsFree) (action : CallAction) :
    OpensFree state action := by
  unfold OpensFree
  split
  · rename_i priority
    intro streamId chan mux opened registered
    by_cases room : state.mux.nextStreamId.toNat + 2 < 2 ^ 32
    · rw [openStream_of_room room] at opened
      cases opened
      exact free _ registered (yetToAllocate_next room)
    · rw [openStream_of_exhausted room] at opened
      cases opened
  · trivial

/-! ## Runs -/

/-- The actions of local opens with these priorities. -/
def localOpens (priorities : List StreamPriority) : List CallAction :=
  priorities.map fun priority => .dispatch (.openStream priority)

/-- However many local opens follow, each fails or finds its id free. -/
def OpensStayFree (state : DispatchState) : Prop :=
  ∀ priorities, Meets callStep OpensFree state (localOpens priorities)

theorem Multiplexer.LocalIdsFree.opensStayFree (free : state.mux.LocalIdsFree) :
    OpensStayFree state := by
  intro priorities
  have spares : Meets callStep SparesLocalIds state (localOpens priorities) := by
    clear free
    induction priorities generalizing state with
    | nil => trivial
    | cons priority rest ih => exact ⟨trivial, fun _ _ => ih⟩
  exact spares.imp_of_invariant
    (fun free spares stepEq => SparesLocalIds.localIdsFree spares free stepEq)
    (fun free _ => free.opensFree _) free

/-- A registered id that is `distance` allocations ahead is overtaken by as many
local opens. -/
theorem not_opensStayFree_of_ahead {distance : Nat} {streamId : UInt32}
    (registered : streamId ∈ state.mux.streams)
    (ahead : streamId.toNat = state.mux.nextStreamId.toNat + 2 * distance)
    (below : streamId.toNat + 2 < 2 ^ 32) : ¬OpensStayFree state := by
  have room : state.mux.nextStreamId.toNat + 2 < 2 ^ 32 := by omega
  induction distance generalizing state with
  | zero =>
      intro stayFree
      have same : streamId = state.mux.nextStreamId := UInt32.toNat_inj.mp ahead
      have free := (stayFree [.normal]).1
      exact free _ _ _ (Multiplexer.openStream_of_room room .normal) (same ▸ registered)
  | succ distance ih =>
      intro stayFree
      obtain ⟨next, stepEq, counter, streams⟩ := callStep_openStream_of_room room .normal
      have counterEq : next.mux.nextStreamId.toNat = state.mux.nextStreamId.toNat + 2 := by
        rw [counter, Multiplexer.toNat_add_two room]
      have stillRegistered : streamId ∈ next.mux.streams := by
        rw [streams, Finmap.mem_insert]
        exact .inr registered
      apply ih stillRegistered (by omega) (by omega)
      intro priorities
      exact (stayFree (.normal :: priorities)).2 next stepEq

/-- After a step that keeps all later opens free, the peer has spared the local
ids. -/
theorem sparesLocalIds_of_opensStayFree {next : DispatchState} {action : CallAction}
    (stepEq : callStep state action = some next) (stayFree : OpensStayFree next) :
    SparesLocalIds state action := by
  unfold SparesLocalIds
  split
  · rename_i openStream
    rintro ⟨above, sameParity, below⟩
    simp only [callStep, dispatchStep, dispatchStepWith] at stepEq
    split at stepEq <;> cases stepEq
    obtain ⟨registered, counter⟩ := state.mux.mem_streams_processFrame openStream
    have ahead : openStream.streamId.toNat =
        (state.mux.processFrame (.openStream openStream)).1.nextStreamId.toNat +
          2 * ((openStream.streamId.toNat - state.mux.nextStreamId.toNat) / 2) := by
      rw [counter]
      omega
    exact not_opensStayFree_of_ahead registered ahead below stayFree
  · trivial

/-- In every run of a multiplexer in which the peer opens no stream under an id
that this end has yet to allocate, every local open fails or finds its id
without an entry.  The condition is sharp: a run meets it if and only if at each
of its states every sequence of local opens would do so. -/
theorem local_opens_displace_none (isClient : Bool) (actions : List CallAction)
    (final : DispatchState) (run : exec callStep (.initial isClient) actions = some final) :
    (Meets callStep SparesLocalIds (.initial isClient) actions →
      Meets callStep OpensFree (.initial isClient) actions) ∧
    (Meets callStep SparesLocalIds (.initial isClient) actions ↔
      Always callStep OpensStayFree (.initial isClient) actions) := by
  have initial : (DispatchState.initial isClient).mux.LocalIdsFree := by
    intro streamId registered
    exact absurd registered (Finmap.notMem_empty)
  constructor
  · intro spares
    exact spares.imp_of_invariant
      (fun free spares stepEq => SparesLocalIds.localIdsFree spares free stepEq)
      (fun free _ => free.opensFree _) initial
  · exact meets_iff_always
      (fun free _ spares stepEq => SparesLocalIds.localIdsFree spares free stepEq)
      Multiplexer.LocalIdsFree.opensStayFree
      (fun _ stepEq stayFree => sparesLocalIds_of_opensStayFree stepEq stayFree)
      initial run (.of_forall (fun _ _ => trivial) _ _)

/-- The peer of a client opens stream 2, and then the client opens stream 1. -/
def bothOpen : List CallAction :=
  [.dispatch (.process (Multiplexer.openFrame 2 .tcp .normal)), .dispatch .resume,
    .dispatch (.openStream .normal)]

theorem local_opens_displace_none_bothOpen :
    Meets callStep SparesLocalIds (.initial true) bothOpen ∧
      Meets callStep OpensFree (.initial true) bothOpen := by
  have spares : Meets callStep SparesLocalIds (.initial true) bothOpen := by decide
  constructor
  · exact spares
  · exact (local_opens_displace_none true bothOpen _ rfl).1 spares

/-- The peer of a client opens stream 1. -/
def peerOpensOne : List CallAction :=
  [.dispatch (.process (Multiplexer.openFrame 1 .tcp .normal)), .dispatch .resume]

/-- The local open that follows replaces the sender of the peer's stream. -/
theorem local_open_displaces_peer :
    (exec callStep (.initial true) peerOpensOne).map (fun state => state.mux.streams.lookup 1) =
      some (some 0) ∧
    (exec callStep (.initial true) (peerOpensOne ++ localOpens [.normal])).map
        (fun state => state.mux.streams.lookup 1) =
      some (some 1) ∧
    ¬Meets callStep OpensFree (.initial true) (peerOpensOne ++ localOpens [.normal]) := by
  constructor
  · decide
  constructor
  · decide
  · intro free
    have own := (free.of_append rfl).1
    exact own 1 1 _ rfl (by decide)

end FerroTunnel.Stream
