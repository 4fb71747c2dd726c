import FerroTunnel.Stream.KnownSenders

/-!
# The end of a stream is not final

A stream over a multiplexer: frames from the peer and local calls go on while the
stream is polled.  After a close has been taken from the channel, the stream map no
longer holds the channel's sender, but the cache of the last sender may.  As long as
it does, the channel is not closed for the reader: a read after the end waits, or
returns bytes that a late frame brought.
-/

namespace FerroTunnel.Stream

open FerroTunnel.Channel
open FerroTunnel.Transition
open FerroTunnel.Wire

/-- The multiplexer, a stream it creates, whether a close was taken from the stream's
channel, and whether a poll has reported the end since. -/
structure StreamRun where
  base : DispatchState
  stream : VirtualStream
  closed : Bool
  ended : Bool

/-- Any call on the multiplexer and the other streams, or a poll of the stream with
room for some bytes. -/
inductive StreamAction
  | call (action : CallAction)
  | poll (remaining : Nat)

namespace StreamRun

/-- A stream over a channel that the multiplexer will make. -/
def start (isClient : Bool) (pool : ReadBufferPool) (streamId : UInt32) (rx : ChanId)
    (priority : StreamPriority) (protocol : Protocol) : StreamRun :=
  ⟨.initial isClient, .new streamId rx priority pool.acquireOrDefault.1 protocol, false, false⟩

/-- The channel of the stream. -/
def channel (state : StreamRun) : Bounded StreamItem :=
  state.base.mux.channels state.stream.rx

/-- The channel has been made, and the stream has not been dropped. -/
def live (state : StreamRun) : Bool :=
  decide (state.stream.rx < state.base.mux.nextChan) && !state.channel.receiverGone

/-- A poll in this state. -/
def polled (state : StreamRun) (remaining : Nat) :
    Poll (Except IoError Bytes) × VirtualStream × Bounded StreamItem :=
  state.stream.pollRead state.channel
    (state.base.mux.sendersGone state.base.task state.stream.rx) remaining

/-- A close was taken before the poll or by it. -/
def closedAfter (state : StreamRun) (remaining : Nat) : Bool :=
  state.closed || (state.channel.queue.take
    (state.channel.queue.length - (state.polled remaining).2.2.queue.length)).any isCloseItem

/-- The state after a poll. -/
def afterPoll (state : StreamRun) (remaining : Nat) : StreamRun where
  base := { state.base with
    mux := { state.base.mux with
      channels := Function.update state.base.mux.channels state.stream.rx
        (state.polled remaining).2.2 } }
  stream := (state.polled remaining).2.1
  closed := state.closedAfter remaining
  ended := state.ended || (decide (0 < remaining) &&
    decide ((state.polled remaining).1 = .ready (.ok [])) && state.closedAfter remaining)

/-- Only a poll receives from the stream's channel. -/
def step : Step StreamRun StreamAction
  | state, .call action =>
      if action.receivesFrom state.stream.rx then none
      else (callStep state.base action).map fun base => { state with base }
  | state, .poll remaining => if state.live then some (state.afterPoll remaining) else none

/-- A poll with room, after the end, reports the end again. -/
def EndsFinally (state : StreamRun) : StreamAction → Prop
  | .poll remaining =>
      state.live → state.ended → 0 < remaining → (state.polled remaining).1 = .ready (.ok [])
  | _ => True

instance (state : StreamRun) (action : StreamAction) : Decidable (state.EndsFinally action) := by
  unfold EndsFinally
  split <;> infer_instance

/-- The item is a close or a data frame without payload. -/
def isEndItem : StreamItem → Bool
  | .ok frame => isCloseStream frame || isEmptyData frame
  | .error _ => false

/-- Nothing is left to return: no bytes are held, and the channel has an empty frame
or a further close next, or it is empty and its sender is not cached. -/
def Spent (state : StreamRun) : Prop :=
  state.stream.readBufferBytes.getD [] = [] ∧
    match state.channel.queue with
    | [] => ∀ streamId, state.base.mux.lastSender ≠ some (streamId, state.stream.rx)
    | item :: _ => isEndItem item

/-- The stream is spent at every poll with room after the end. -/
def PollsSpent (state : StreamRun) : StreamAction → Prop
  | .poll remaining => state.live → state.ended → 0 < remaining → state.Spent
  | _ => True

/-! ## What holds in every run -/

/-- Once a close is in the channel or has been taken from it, the stream map does not
hold the channel's sender. -/
structure Sound (state : StreamRun) : Prop where
  wired : Wired state.base
  released : state.closed || state.channel.queue.any isCloseItem →
    state.base.mux.Unregistered state.stream.rx
  ended : state.ended → state.closed
  noBuffer : state.stream.readBuffer = []

theorem sound_start (isClient : Bool) (pool : ReadBufferPool) (streamId : UInt32) (rx : ChanId)
    (priority : StreamPriority) (protocol : Protocol) :
    (start isClient pool streamId rx priority protocol).Sound := by
  constructor
  · exact wired_initial isClient
  · nofun
  · nofun
  · exact pool.acquireOrDefault_fst

variable {state : StreamRun} (sound : state.Sound)

include sound

theorem Sound.call {base : DispatchState} {action : CallAction}
    (stepEq : callStep state.base action = some base)
    (other : action.receivesFrom state.stream.rx = false) :
    ({ state with base } : StreamRun).Sound := by
  have fresh := (callStep_move stepEq).registersFresh
  apply Sound.mk
  · exact sound.wired.step stepEq
  · intro released
    change (state.closed || (base.mux.channels state.stream.rx).queue.any isCloseItem) = true
      at released
    cases callStep_queueMove stepEq other with
    | kept queueEq =>
        rw [queueEq] at released
        exact (sound.released released).of_registersFresh fresh
    | made isNext queueEq =>
        -- the channel is new, so no close can have been taken from it
        rw [queueEq, List.any_nil, Bool.or_false] at released
        have made := (sound.released (by rw [released, Bool.true_or])).made
        exact absurd isNext (Nat.ne_of_lt made)
    | data taskEq queueEq =>
        have caches := sound.wired.caches
        rw [taskEq] at caches
        have same : (base.mux.channels state.stream.rx).queue.any isCloseItem =
            state.channel.queue.any isCloseItem := by
          rw [queueEq, List.any_append, List.any_cons, List.any_nil, Bool.or_false]
          exact (congrArg _ caches.2).trans (Bool.or_false _)
        rw [same] at released
        exact (sound.released released).of_registersFresh fresh
    | close taskEq streamsEq queueEq =>
        exact sound.wired.unregistered_of_close taskEq streamsEq fresh.grows
  · exact sound.ended
  · exact sound.noBuffer

/-- A close in the channel is taken by the poll or stays there. -/
theorem Sound.closedAfter (remaining : Nat) :
    (state.closedAfter remaining || (state.polled remaining).2.2.queue.any isCloseItem) =
      (state.closed || state.channel.queue.any isCloseItem) := by
  have reads := (VirtualStream.pollRead_reads sound.noBuffer state.channel
    (state.base.mux.sendersGone state.base.task state.stream.rx) remaining).1
  rw [StreamRun.closedAfter, Bool.or_assoc, ← List.any_append]
  exact congrArg (fun queue => state.closed || queue.any isCloseItem) reads.taken

theorem Sound.afterPoll (remaining : Nat) : (state.afterPoll remaining).Sound := by
  have sameRx : (state.afterPoll remaining).stream.rx = state.stream.rx :=
    (state.stream.pollRead_step state.channel _ remaining).writer.rx
  have channelEq : (state.afterPoll remaining).channel = (state.polled remaining).2.2 := by
    rw [channel, sameRx]
    exact Function.update_self ..
  constructor
  · exact sound.wired.of_channels _
  · intro released
    rw [channelEq] at released
    rw [sameRx]
    have unregistered := sound.released ((sound.closedAfter remaining).symm.trans released)
    exact ⟨unregistered.made, unregistered.absent⟩
  · intro ended
    change (state.ended || _) = true at ended
    rw [Bool.or_eq_true, Bool.and_eq_true] at ended
    rcases ended with earlier | now
    · change (state.closed || _) = true
      rw [sound.ended earlier, Bool.true_or]
    · exact now.2
  · exact (VirtualStream.pollRead_reads sound.noBuffer ..).2

theorem Sound.step {next : StreamRun} {action : StreamAction}
    (stepEq : StreamRun.step state action = some next) : next.Sound := by
  cases action with
  | call action =>
      simp only [StreamRun.step] at stepEq
      split at stepEq
      · cases stepEq
      · next other =>
        obtain ⟨base, called, rfl⟩ := Option.map_eq_some_iff.mp stepEq
        exact sound.call called (Bool.eq_false_iff.mpr other)
  | poll remaining =>
      simp only [StreamRun.step] at stepEq
      split at stepEq <;> cases stepEq
      exact sound.afterPoll remaining

/-! ## The polls after the end -/

/-- After the end only the cache can keep the channel open. -/
theorem Sound.sendersGone_iff (ended : state.ended) :
    state.base.mux.sendersGone state.base.task state.stream.rx = true ↔
      ∀ streamId, state.base.mux.lastSender ≠ some (streamId, state.stream.rx) := by
  have closed : state.closed || state.channel.queue.any isCloseItem := by
    rw [sound.ended ended, Bool.true_or]
  have unregistered := (sound.released closed).absent
  rw [Stream.sendersGone_iff sound.wired.caches]
  constructor
  · intro unknown streamId cached
    exact unknown streamId (.inr cached)
  · rintro uncached streamId (registered | cached)
    · exact unregistered streamId registered
    · exact uncached streamId cached

/-- A poll after the end reports the end again exactly when the stream is spent. -/
theorem Sound.polled_iff (ended : state.ended) {remaining : Nat} (room : 0 < remaining) :
    (state.polled remaining).1 = .ready (.ok []) ↔ state.Spent := by
  have reads := (VirtualStream.pollRead_reads sound.noBuffer state.channel
    (state.base.mux.sendersGone state.base.task state.stream.rx) remaining).1
  have goneIff := sound.sendersGone_iff ended
  change VirtualStream.Reads _ _ _ _ (state.polled remaining).1 (state.polled remaining).2.2.queue
    at reads
  constructor
  · intro answered
    rw [answered] at reads
    obtain ⟨drained, ends⟩ := reads.end_cases room
    refine ⟨drained, ?_⟩
    rcases ends with ⟨streamId, reason, queueEq⟩ | ⟨streamId, endOfStream, queueEq⟩ |
      ⟨queueEq, -, gone⟩
    · rw [queueEq]
      rfl
    · rw [queueEq]
      rfl
    · rw [queueEq]
      exact goneIff.mp gone
  · rintro ⟨drained, next⟩
    generalize (state.polled remaining).1 = answer, (state.polled remaining).2.2.queue = queue
      at reads ⊢
    cases reads with
    | buffered nonempty holds =>
        rw [holds] at drained
        exact absurd drained nonempty
    | @data _ bytes _ _ _ queueEq =>
        rw [queueEq] at next
        cases bytes with
        | nil => rw [List.take_nil]
        | cons byte others => cases next
    | closed _ queueEq => rfl
    | @ignored frame _ _ queueEq other =>
        rw [queueEq] at next
        cases frame with
        | data | closeStream => cases other
        | _ => cases next
    | failed _ queueEq =>
        rw [queueEq] at next
        cases next
    | ended => rfl
    | waiting _ queueEq present =>
        rw [queueEq] at next
        rw [goneIff.mpr next] at present
        cases present

theorem Sound.endsFinally_iff (action : StreamAction) :
    state.EndsFinally action ↔ state.PollsSpent action := by
  cases action with
  | call action => exact Iff.rfl
  | poll remaining =>
      constructor
      · intro finally_ live ended room
        exact (sound.polled_iff ended room).mp (finally_ live ended room)
      · intro spent live ended room
        exact (sound.polled_iff ended room).mpr (spent live ended room)

omit sound

/-- In any run of a multiplexer and one of its streams: every poll with room after the
end reports the end again exactly when the stream is spent at each of them. -/
theorem endsFinally_iff_pollsSpent (isClient : Bool) (pool : ReadBufferPool) (streamId : UInt32)
    (rx : ChanId) (priority : StreamPriority) (protocol : Protocol)
    (actions : List StreamAction) :
    Meets step EndsFinally (start isClient pool streamId rx priority protocol) actions ↔
      Meets step PollsSpent (start isClient pool streamId rx priority protocol) actions := by
  have initial := sound_start isClient pool streamId rx priority protocol
  apply Meets.iff_of_invariant _ _ initial
  · exact fun sound stepEq => sound.step stepEq
  · exact fun sound => sound.endsFinally_iff _

/-- The peer opens a stream and closes it, and the reader sees the end. -/
def openedAndClosed : List StreamAction :=
  [.call (.dispatch (.process (.openStream ⟨1, .tcp, [], none, .normal⟩))),
    .call (.dispatch .resume), .call (.dispatch .accept),
    .call (.dispatch (.process (.closeStream 1 .normal))), .call (.dispatch .resume), .poll 1]

/-- The cache holds the last sender.  The next poll waits; after a late data frame it
returns the frame's bytes. -/
theorem end_is_not_final :
    (exec step (start false ⟨[], nofun⟩ 1 0 .normal .tcp) openedAndClosed).map
        (fun state => (state.ended, (state.polled 1).1)) = some (true, .pending) ∧
    (exec step (start false ⟨[], nofun⟩ 1 0 .normal .tcp)
        (openedAndClosed ++ [.call (.dispatch (.process (.data 1 [7] false))),
          .call (.dispatch .resume)])).map
        (fun state => (state.ended, (state.polled 1).1)) = some (true, .ready (.ok [7])) ∧
    ¬Meets step EndsFinally (start false ⟨[], nofun⟩ 1 0 .normal .tcp)
      (openedAndClosed ++ [.poll 1]) :=
  ⟨by decide, by decide, by decide⟩

end StreamRun

end FerroTunnel.Stream
