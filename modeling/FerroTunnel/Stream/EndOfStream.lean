import FerroTunnel.Stream.Reader

/-!
# False ends of a stream

A read reports the end of a stream by succeeding without a byte.  It does so for a
data frame without payload too.  The frame sequences on which no read reports a
false end are exactly those without such a frame in front of the first close.
-/

namespace FerroTunnel.Stream

open FerroTunnel.Channel
open FerroTunnel.Transition
open FerroTunnel.Wire

/-- A data frame without bytes. -/
def isEmptyData : Frame → Bool
  | .data _ [] _ => true
  | _ => false

/-- No empty data frame comes before the first close. -/
def closesFirst : List Frame → Bool
  | [] => true
  | frame :: rest => isCloseStream frame || !isEmptyData frame && closesFirst rest

/-- The item is a close. -/
def isCloseItem : StreamItem → Bool
  | .ok frame => isCloseStream frame
  | .error _ => false

/-- In an accepted sequence, a close comes before every empty data frame. -/
theorem any_isCloseStream_of_closesFirst {before after : List Frame} {frame : Frame}
    (first : closesFirst (before ++ frame :: after)) (empty : isEmptyData frame) :
    before.any isCloseStream := by
  induction before with
  | nil =>
      cases frame with
      | data streamId bytes endOfStream => simp [closesFirst, isCloseStream, empty] at first
      | _ => cases empty
  | cons earlier rest ih =>
      simp only [List.cons_append, closesFirst, Bool.or_eq_true, Bool.and_eq_true] at first
      rw [List.any_cons, Bool.or_eq_true]
      exact first.imp id fun later => ih later.2

/-- A first part of an accepted sequence is accepted. -/
theorem closesFirst_of_append {before after : List Frame} (first : closesFirst (before ++ after)) :
    closesFirst before := by
  induction before with
  | nil => rfl
  | cons frame rest ih =>
      simp only [List.cons_append, closesFirst, Bool.or_eq_true, Bool.and_eq_true] at first ⊢
      exact first.imp id fun later => ⟨later.1, ih later.2⟩

/-- A sequence that is not accepted has an empty data frame with no close before it. -/
theorem exists_of_not_closesFirst {frames : List Frame} (late : closesFirst frames = false) :
    ∃ before streamId endOfStream after,
      frames = before ++ .data streamId [] endOfStream :: after ∧
        ∀ frame ∈ before, isCloseStream frame = false := by
  induction frames with
  | nil => cases late
  | cons frame rest ih =>
      simp only [closesFirst, Bool.or_eq_false_iff, Bool.and_eq_false_iff] at late
      rcases late with ⟨notClose, empty | later⟩
      · match frame, empty with
        | .data streamId [] endOfStream, _ =>
            exact ⟨[], streamId, endOfStream, rest, rfl, List.forall_mem_nil _⟩
      · obtain ⟨before, streamId, endOfStream, after, rfl, noClose⟩ := ih later
        refine ⟨frame :: before, streamId, endOfStream, after, rfl, ?_⟩
        exact List.forall_mem_cons.mpr ⟨notClose, noClose⟩

namespace Reader

/-- A poll with room that succeeds without a byte has taken a close at last, or finds
the channel closed and drained. -/
def EndJustified (state : Reader) : ReaderAction → Prop
  | .poll remaining =>
      0 < remaining → (state.polled remaining).1 = .ready (.ok []) →
        (state.afterPoll remaining).taken.any isCloseItem ∨
          (state.sendersGone ∧ (state.afterPoll remaining).channel.queue = [])
  | _ => True

instance (state : Reader) (action : ReaderAction) : Decidable (state.EndJustified action) := by
  unfold EndJustified
  split <;> infer_instance

/-- The frames that the actions forward. -/
def forwards (actions : List ReaderAction) : List Frame :=
  actions.filterMap fun
    | .forward frame => some frame
    | _ => none

/-- The items of frames, a close among them exactly when there is one among the
frames. -/
theorem any_isCloseItem_map (frames : List Frame) :
    (frames.map .ok : List StreamItem).any isCloseItem = frames.any isCloseStream := by
  rw [List.any_map]
  rfl

variable {state : Reader}

/-- The poll that takes an item records it. -/
theorem afterPoll_taken {remaining : Nat} {item : StreamItem}
    (queueEq : state.channel.queue = item :: (state.afterPoll remaining).channel.queue) :
    (state.afterPoll remaining).taken = state.taken ++ [item] := by
  change state.taken ++ state.channel.queue.take
    (state.channel.queue.length - (state.afterPoll remaining).channel.queue.length) = _
  rw [queueEq]
  simp

/-- When the frames forwarded so far are accepted, every end is justified. -/
theorem Accounted.endJustified (accounted : state.Accounted) (first : closesFirst state.forwarded)
    (action : ReaderAction) : state.EndJustified action := by
  cases action with
  | forward frame => trivial
  | dropSenders => trivial
  | poll remaining =>
      intro room answered
      have reads := (VirtualStream.pollRead_reads accounted.noBuffer state.channel
        state.sendersGone remaining).1
      rw [show (state.stream.pollRead state.channel state.sendersGone remaining).1 = _
        from answered] at reads
      rcases (reads.end_cases room).2 with
        ⟨streamId, reason, queueEq⟩ | ⟨streamId, endOfStream, queueEq⟩ | ⟨-, drained, gone⟩
      · left
        rw [afterPoll_taken queueEq]
        simp [isCloseItem, isCloseStream]
      · -- the frame is empty, so a close was forwarded before it, and taken before it
        left
        rw [afterPoll_taken queueEq, List.any_append]
        have items := accounted.items
        rw [queueEq, eq_comm, List.map_eq_append_iff] at items
        obtain ⟨before, others, split, takenEq, restEq⟩ := items
        obtain ⟨frame, after, rfl, frameEq, -⟩ := List.map_eq_cons_iff.mp restEq
        cases frameEq
        rw [split] at first
        rw [← takenEq, any_isCloseItem_map, any_isCloseStream_of_closesFirst first rfl]
        rfl
      · exact .inr ⟨gone, drained⟩

/-! ## Accepted sequences -/

theorem step_forwarded {next : Reader} {action : ReaderAction}
    (stepEq : step state action = some next) :
    next.forwarded = state.forwarded ++ forwards [action] := by
  cases action with
  | forward frame =>
      simp only [step] at stepEq
      split at stepEq
      · cases stepEq
      split at stepEq
      · cases stepEq
        rfl
      · cases stepEq
  | dropSenders | poll =>
      cases stepEq
      exact (List.append_nil _).symm

/-- Runs that forward a first part of an accepted sequence report no false end. -/
theorem Accounted.meets_endJustified {frames : List Frame} (first : closesFirst frames)
    {actions : List ReaderAction} (accounted : state.Accounted)
    (part : state.forwarded ++ forwards actions <+: frames) :
    Meets Reader.step EndJustified state actions := by
  induction actions generalizing state with
  | nil => trivial
  | cons action rest ih =>
      obtain ⟨others, split⟩ := part
      constructor
      · apply accounted.endJustified
        rw [← split, List.append_assoc] at first
        exact closesFirst_of_append first
      · intro next stepEq
        apply ih (accounted.step stepEq)
        rw [step_forwarded stepEq]
        refine ⟨others, ?_⟩
        rw [← split, List.append_assoc state.forwarded, forwards, forwards, forwards,
          ← List.filterMap_append]
        rfl

/-! ## Other sequences -/

/-- Nothing is held or queued, more can be forwarded, and no close was taken. -/
structure Idle (state : Reader) : Prop where
  held : state.stream.readBufferBytes = none
  noBuffer : state.stream.readBuffer = []
  queue : state.channel.queue = []
  receives : state.channel.receiverGone = false
  room : 0 < state.channel.capacity
  present : state.sendersGone = false
  noClose : state.taken.any isCloseItem = false

/-- The channel that holds one frame and nothing else. -/
theorem Idle.bounded (idle : state.Idle) (item : StreamItem) :
    [item].length ≤ state.channel.capacity + state.channel.parked.toNat := by
  have room := idle.room
  simp only [List.length_singleton]
  omega

/-- An idle reader takes a data frame whole: it answers with the payload and is idle
again. -/
theorem Idle.forward (idle : state.Idle) (streamId : UInt32) (bytes : Bytes) (endOfStream : Bool) :
    ∃ next, step state (.forward (.data streamId bytes endOfStream)) = some next ∧
      (next.polled (bytes.length + 1)).1 = .ready (.ok bytes) ∧
      (next.afterPoll (bytes.length + 1)).Idle := by
  let next : Reader := { state with
    channel := { state.channel with
      queue := [.ok (.data streamId bytes endOfStream)]
      bounded := idle.bounded _ }
    forwarded := state.forwarded ++ [.data streamId bytes endOfStream] }
  have entered : step state (.forward (.data streamId bytes endOfStream)) = some next := by
    have room : 0 < state.channel.capacity + state.channel.parked.toNat :=
      Nat.add_pos_left idle.room _
    simp [step, idle.present, isForwarded, Bounded.trySend, idle.receives, idle.queue, room, next]
  have polled : next.polled (bytes.length + 1) = (.ready (.ok bytes), state.stream,
      { state.channel with queue := [], parked := false, bounded := Nat.zero_le _ }) := by
    simp [Reader.polled, next, VirtualStream.pollRead, idle.held, VirtualStream.pollReadBuffer,
      idle.noBuffer, VirtualStream.pollChannel, Bounded.recv, Bounded.tryRecv]
  refine ⟨next, entered, by rw [polled], ?_⟩
  rw [afterPoll, polled]
  exact ⟨idle.held, idle.noBuffer, rfl, idle.receives, idle.room, idle.present, by
    simp [next, isCloseItem, isCloseStream, idle.noClose]⟩

/-- An idle reader can take any data frames, one after the other. -/
theorem Idle.forward_all {frames : List Frame} (idle : state.Idle)
    (forwardable : ∀ frame ∈ frames, isForwarded frame)
    (noClose : ∀ frame ∈ frames, isCloseStream frame = false) :
    ∃ actions final, forwards actions = frames ∧ exec step state actions = some final ∧
      final.Idle := by
  induction frames generalizing state with
  | nil => exact ⟨[], state, rfl, rfl, idle⟩
  | cons frame rest ih =>
      rw [List.forall_mem_cons] at forwardable noClose
      cases frame with
      | data streamId bytes endOfStream =>
          obtain ⟨next, entered, -, idleNext⟩ := idle.forward streamId bytes endOfStream
          obtain ⟨actions, final, forwardsEq, run, idleFinal⟩ :=
            ih idleNext forwardable.2 noClose.2
          refine ⟨.forward (.data streamId bytes endOfStream) :: .poll (bytes.length + 1) ::
            actions, final, ?_, ?_, idleFinal⟩
          · rw [← forwardsEq]
            rfl
          · rw [exec_cons_eq_some_iff]
            exact ⟨next, entered, run⟩
      | closeStream streamId reason => cases noClose.1
      | _ => cases forwardable.1

theorem idle_start (pool : ReadBufferPool) (streamId : UInt32) (rx : ChanId)
    (priority : StreamPriority) (protocol : Protocol) :
    (start pool streamId rx priority protocol STREAM_CHANNEL_CAPACITY).Idle := by
  constructor
  · rfl
  · exact pool.acquireOrDefault_fst
  · rfl
  · rfl
  · exact Nat.zero_lt_succ 127
  · rfl
  · rfl

/-- For every sequence of frames: the reader reports no false end, in any run that
forwards a first part of it, exactly when no empty data frame in it comes before a
close. -/
theorem endJustified_iff_closesFirst (pool : ReadBufferPool) (streamId : UInt32) (rx : ChanId)
    (priority : StreamPriority) (protocol : Protocol) (frames : List Frame)
    (forwardable : ∀ frame ∈ frames, isForwarded frame) :
    (∀ actions, forwards actions <+: frames →
      Meets step EndJustified (start pool streamId rx priority protocol STREAM_CHANNEL_CAPACITY)
        actions) ↔ closesFirst frames := by
  constructor
  · intro justified
    by_contra late
    obtain ⟨before, emptyId, endOfStream, after, rfl, noClose⟩ :=
      exists_of_not_closesFirst (Bool.eq_false_iff.mpr late)
    have forwardableBefore : ∀ frame ∈ before, isForwarded frame :=
      fun frame member => forwardable frame (List.mem_append_left _ member)
    obtain ⟨actions, idle, forwardsEq, run, isIdle⟩ :=
      (idle_start pool streamId rx priority protocol).forward_all forwardableBefore noClose
    -- behind these frames, the empty one is read as the end
    obtain ⟨next, entered, answered, idleAfter⟩ := isIdle.forward emptyId [] endOfStream
    have part : forwards (actions ++ [.forward (.data emptyId [] endOfStream), .poll 1]) <+:
        before ++ .data emptyId [] endOfStream :: after := by
      refine ⟨after, ?_⟩
      rw [← forwardsEq, forwards, List.filterMap_append]
      simp [forwards]
    have meets := (justified _ part).of_append run
    rcases (meets.2 next entered).1 Nat.one_pos answered with closed | ⟨gone, -⟩
    · exact Bool.false_ne_true (idleAfter.noClose.symm.trans closed)
    · exact Bool.false_ne_true (idleAfter.present.symm.trans gone)
  · intro first actions part
    exact (accounted_start ..).meets_endJustified first part

/-- A close in front of an empty frame, and a poll after each. -/
def closeBeforeEmpty : List ReaderAction :=
  [.forward (.data 2 [1] false), .poll 1, .forward (.closeStream 2 .normal), .poll 1,
    .forward (.data 2 [] true), .poll 1]

theorem endJustified_of_close_before_empty :
    closesFirst (forwards closeBeforeEmpty) ∧
    Meets step EndJustified (start ⟨[], nofun⟩ 2 0 .normal .tcp STREAM_CHANNEL_CAPACITY)
      closeBeforeEmpty :=
  ⟨by decide, (endJustified_iff_closesFirst ⟨[], nofun⟩ 2 0 .normal .tcp
    (forwards closeBeforeEmpty) (by decide)).mpr (by decide) closeBeforeEmpty
    (List.prefix_refl _)⟩

/-- A write of no bytes at the peer makes a frame without payload, which decodes and
is forwarded; the read that takes it reports an end while the stream is open. -/
theorem empty_frame_is_a_false_end :
    (VirtualStream.new 2 0 .normal [] .tcp).dataFrame [] = .data 2 [] false ∧
    TunnelCodec.default.decode (.standard .sorted) (lengthPrefixed [1, 0, 0, 0, 2, 0]) =
      (.ok (some (.data 2 [] false)), []) ∧
    ¬Meets step EndJustified (start ⟨[], nofun⟩ 2 0 .normal .tcp STREAM_CHANNEL_CAPACITY)
      [.forward (.data 2 [] false), .poll 1] :=
  ⟨rfl, rfl, by decide⟩

end Reader

end FerroTunnel.Stream
