import FerroTunnel.Transition.Core
import FerroTunnel.Transport.BatchedSender

/-!
# Runs of the batched sender

The sender with its channel and its writer, over time: frames are queued, the
senders go away at some moment, and the task collects, flushes and writes batch
after batch.  The run records the frames queued, the batches flushed and the bytes
the writer accepted.  Every queued frame is in a flushed batch, in the batch being
collected or in the channel, in queueing order.
-/

namespace FerroTunnel.Transport

open FerroTunnel.Channel
open FerroTunnel.Order
open FerroTunnel.Transition
open FerroTunnel.Wire

/-- The sender task with what it reads from and writes to, and the record of its
run. -/
structure SenderRun where
  channel : Bounded PrioritizedFrame
  sendersGone : Bool
  task : SenderTask
  queued : List PrioritizedFrame
  batches : List (List PrioritizedFrame)
  written : Bytes

/-- A frame is queued, the last sender is dropped, the task goes on by itself, or
the writer answers it. -/
inductive SenderAction
  | send (item : PrioritizedFrame)
  | dropSenders
  | resume
  | write (answer : Except IoError Nat)

/-- The task's own actions. -/
def SenderAction.isTask : SenderAction → Bool
  | .resume => true
  | .write _ => true
  | _ => false

namespace SenderRun

/-- The sender when it is spawned. -/
def start (capacity : Nat) : SenderRun :=
  ⟨.empty capacity, false, .collecting [] false, [], [], []⟩

/-- One receive.  A batch that is collected and no longer held has been flushed. -/
def collected (codec : TunnelCodec) (bincode : Bincode) (state : SenderRun)
    (frames : List PrioritizedFrame) (yielded : Bool) : SenderRun :=
  let next := collect codec bincode state.channel state.sendersGone frames yielded
  { state with
    channel := next.2
    task := next.1
    batches := if next.1.batch.isEmpty then state.batches ++ [frames].filter (!·.isEmpty)
      else state.batches }

/-- A write that failed ends the task, which drops the receiver. -/
def failed (state : SenderRun) : SenderRun :=
  { state with task := .stopped, channel := state.channel.closeReceiver }

/-- One event of the sender. -/
def step (codec : TunnelCodec) (bincode : Bincode) : Step SenderRun SenderAction
  | state, .send item =>
      if state.sendersGone then none
      else
        match state.channel.trySend item with
        | (.sent, next) => some { state with channel := next, queued := state.queued ++ [item] }
        | _ => none
  | state, .dropSenders => some { state with sendersGone := true }
  | state, .resume =>
      match state.task with
      | .collecting frames yielded => some (state.collected codec bincode frames yielded)
      | .writing cursor =>
          -- All segments are written: on to the next batch.
          if cursor.skipEmpty.buffers.isEmpty then
            some { state with task := .collecting [] false }
          else
            none
      | .stopped => none
  | state, .write answer =>
      match state.task, answer with
      | .writing cursor, .ok written =>
          if written ≤ cursor.unwritten.length then
            match cursor.turn written with
            | .writing next => some { state with
                task := .writing next
                written := state.written ++ cursor.unwritten.take written }
            | .failed _ => some state.failed
            | .finished => none
          else
            none
      | .writing cursor, .error _ =>
          if cursor.skipEmpty.buffers.isEmpty then none else some state.failed
      | _, _ => none

/-- Only frames that encode are queued, and every write accepts some bytes. -/
def Succeeds (codec : TunnelCodec) (bincode : Bincode) : SenderRun → SenderAction → Prop
  | _, .send item => isEncodable codec bincode item.2
  | _, .write (.ok written) => 1 ≤ written
  | _, .write (.error _) => False
  | _, _ => True

instance (codec : TunnelCodec) (bincode : Bincode) (state : SenderRun) (action : SenderAction) :
    Decidable (Succeeds codec bincode state action) := by
  unfold Succeeds
  split <;> infer_instance

/-- The frames of the flushed batches, in the order they are sent. -/
def wire (state : SenderRun) : List PrioritizedFrame :=
  (state.batches.map sortByDrainOrder).flatten

/-! ## Nothing is lost -/

/-- Every queued frame encodes and is in a flushed batch, in the current batch or
in the channel; the bytes accepted and the bytes left are those of the flushed
batches in sending order; and the task ends on an empty channel, which it closes. -/
structure Sends (codec : TunnelCodec) (bincode : Bincode) (state : SenderRun) : Prop where
  account : state.batches.flatten ++ state.task.batch ++ state.channel.queue = state.queued
  encodable : ∀ frame ∈ state.queued, isEncodable codec bincode frame.2
  bytes : state.written ++ state.task.unwritten =
    state.wire.flatMap fun frame => wireImage bincode frame.2
  drained : state.task = .stopped → state.channel.queue = [] ∧ state.channel.receiverGone

variable {codec : TunnelCodec} {bincode : Bincode}

theorem sends_start (capacity : Nat) : Sends codec bincode (start capacity) := by
  constructor
  · rfl
  · exact List.forall_mem_nil _
  · rfl
  · exact nofun

variable {state next : SenderRun} {frames : List PrioritizedFrame}

/-- The batch being collected encodes. -/
theorem Sends.encodable_batch (sends : Sends codec bincode state) :
    ∀ frame ∈ state.task.batch, isEncodable codec bincode frame.2 := by
  intro frame member
  apply sends.encodable
  rw [← sends.account]
  exact List.mem_append_left _ (List.mem_append_right _ member)

/-- The bytes of a flushed batch all of whose frames encode. -/
theorem flushBatch_unwritten_of_encodable
    (encodable : ∀ frame ∈ frames, isEncodable codec bincode frame.2) :
    (flushBatch codec bincode frames).unwritten =
      (sortByDrainOrder frames).flatMap fun frame => wireImage bincode frame.2 := by
  have all : ((sortByDrainOrder frames).map Prod.snd).filter (isEncodable codec bincode) =
      (sortByDrainOrder frames).map Prod.snd := by
    apply List.filter_eq_self.mpr
    intro frame member
    obtain ⟨item, itemMem, rfl⟩ := List.mem_map.mp member
    exact encodable item (mem_sortByDrainOrder.mp itemMem)
  rw [flushBatch_unwritten, all, List.flatMap_map]

/-- An empty batch is not flushed, and leaves no trace. -/
theorem flatten_filter_nonempty (frames : List PrioritizedFrame) :
    ([frames].filter (!·.isEmpty)).flatten = frames ∧
      (([frames].filter (!·.isEmpty)).map sortByDrainOrder).flatten = sortByDrainOrder frames := by
  cases frames with
  | nil => exact ⟨rfl, rfl⟩
  | cons frame rest => simp

variable {action : SenderAction} (sends : Sends codec bincode state)

include sends

/-- One receive keeps the account. -/
theorem Sends.collected {yielded : Bool} (taskEq : state.task = .collecting frames yielded) :
    Sends codec bincode (state.collected codec bincode frames yielded) := by
  have account := sends.account
  have bytes := sends.bytes
  have encodable := sends.encodable_batch
  simp only [taskEq, SenderTask.batch, SenderTask.unwritten, List.append_nil]
    at account bytes encodable
  obtain ⟨flushed, flushedWire⟩ := flatten_filter_nonempty frames
  rcases outcome : collect codec bincode state.channel state.sendersGone frames yielded with
    ⟨task, rest⟩
  rcases collect_cases state.channel state.sendersGone frames yielded outcome with
    ⟨moved, flag, rfl, queueEq⟩ | ⟨rfl, queueEq⟩ | ⟨rfl, rfl, queueEq⟩
  · -- frames move from the channel to the batch, which is not flushed
    have next : state.collected codec bincode frames yielded =
        { state with channel := rest, task := .collecting (frames ++ moved) flag } := by
      simp only [SenderRun.collected, outcome, SenderTask.batch]
      split
      · next none =>
        obtain ⟨rfl, -⟩ := List.append_eq_nil_iff.mp (List.isEmpty_iff.mp none)
        simp
      · rfl
    rw [next]
    constructor
    · simp only [SenderTask.batch]
      rw [← account, ← queueEq]
      simp
    · exact sends.encodable
    · simp only [SenderTask.unwritten, List.append_nil]
      exact bytes
    · exact nofun
  · have next : state.collected codec bincode frames yielded =
        { state with
          channel := rest
          task := flushBatch codec bincode frames
          batches := state.batches ++ [frames].filter (!·.isEmpty) } := by
      simp [SenderRun.collected, outcome, flushBatch_batch]
    rw [next]
    constructor
    · simp only [flushBatch_batch, List.flatten_append, flushed, queueEq, List.append_nil]
      exact account
    · exact sends.encodable
    · simp only [wire, List.map_append, List.flatten_append, flushedWire, List.flatMap_append]
      rw [flushBatch_unwritten_of_encodable encodable, bytes, wire]
    · intro stopped
      exact absurd stopped (flushBatch_ne_stopped frames)
  · have next : state.collected codec bincode [] yielded =
        { state with channel := rest, task := .stopped } := by
      simp [SenderRun.collected, outcome]
    obtain ⟨empty, closed⟩ := queue_of_collect_stopped outcome
    rw [next]
    constructor
    · simp only [SenderTask.batch, queueEq]
      exact account
    · exact sends.encodable
    · simp only [SenderTask.unwritten, List.append_nil]
      exact bytes
    · intro _
      exact ⟨queueEq.trans empty, closed⟩

/-- A frame is queued only while the receiver is there. -/
theorem Sends.step_send {item : PrioritizedFrame}
    (succeeds : Succeeds codec bincode state (.send item))
    (stepEq : step codec bincode state (.send item) = some next) : Sends codec bincode next := by
  simp only [SenderRun.step] at stepEq
  split at stepEq
  · cases stepEq
  split at stepEq
  · next channel sent =>
    cases stepEq
    rcases state.channel.trySend_cases item with ⟨after, sentEq, present, queueEq, -⟩ | full |
      ⟨closed, -⟩
    · rw [sentEq] at sent
      cases sent
      constructor
      · simp only [queueEq, ← sends.account, List.append_assoc]
      · intro frame member
        rcases List.mem_append.mp member with before | last
        · exact sends.encodable frame before
        · rw [List.mem_singleton.mp last]
          exact succeeds
      · exact sends.bytes
      · intro stopped
        have gone := (sends.drained stopped).2
        rw [present] at gone
        cases gone
    · rw [full] at sent
      cases sent
    · rw [closed] at sent
      cases sent
  · cases stepEq

theorem Sends.step_resume (stepEq : step codec bincode state .resume = some next) :
    Sends codec bincode next := by
  simp only [SenderRun.step] at stepEq
  split at stepEq
  · next frames yielded taskEq =>
    cases stepEq
    exact sends.collected taskEq
  · next cursor taskEq =>
    split at stepEq
    · next done =>
      cases stepEq
      have written := WriteCursor.unwritten_eq_nil (List.isEmpty_iff.mp done)
      have account := sends.account
      have bytes := sends.bytes
      simp only [taskEq, SenderTask.batch, SenderTask.unwritten, written] at account bytes
      exact ⟨account, sends.encodable, bytes, nofun⟩
    · cases stepEq
  · cases stepEq

theorem Sends.step_write {answer : Except IoError Nat}
    (succeeds : Succeeds codec bincode state (.write answer))
    (stepEq : step codec bincode state (.write answer) = some next) : Sends codec bincode next := by
  cases answer with
  | error error => exact absurd succeeds id
  | ok written =>
      simp only [SenderRun.step] at stepEq
      split at stepEq
      · next cursor _ taskEq answered =>
        cases answered
        split at stepEq
        · have account := sends.account
          have bytes := sends.bytes
          simp only [taskEq, SenderTask.batch, SenderTask.unwritten] at account bytes
          split at stepEq
          · next later turnEq =>
            cases stepEq
            refine ⟨account, sends.encodable, ?_, nofun⟩
            simp only [SenderTask.unwritten]
            rw [WriteCursor.unwritten_of_turn_writing turnEq, List.append_assoc,
              List.take_append_drop]
            exact bytes
          · next error turnEq =>
            have := WriteCursor.written_of_turn_failed turnEq
            have : 1 ≤ written := succeeds
            omega
          · cases stepEq
        · cases stepEq
      · next _ _ _ answered => cases answered
      · cases stepEq

/-- Every successful action keeps the account. -/
theorem Sends.step (succeeds : Succeeds codec bincode state action)
    (stepEq : step codec bincode state action = some next) : Sends codec bincode next := by
  cases action with
  | send item => exact sends.step_send succeeds stepEq
  | dropSenders =>
      cases stepEq
      exact ⟨sends.account, sends.encodable, sends.bytes, sends.drained⟩
  | resume => exact sends.step_resume stepEq
  | write answer => exact sends.step_write succeeds stepEq

/-! ## The task comes to its end -/

omit sends

/-- Without senders a receive takes a frame, yields once, flushes, or ends. -/
theorem collect_without_senders (channel : Bounded PrioritizedFrame)
    (frames : List PrioritizedFrame) (yielded : Bool) :
    (∃ item flag rest, collect codec bincode channel true frames yielded =
        (.collecting (frames ++ [item]) flag, rest) ∧ channel.queue = item :: rest.queue) ∨
    (yielded = false ∧
      collect codec bincode channel true frames yielded = (.collecting frames true, channel)) ∨
    (frames ≠ [] ∧
      collect codec bincode channel true frames yielded =
        (flushBatch codec bincode frames, channel)) ∨
    ∃ rest, collect codec bincode channel true frames yielded = (.stopped, rest) ∧
      rest.queue = channel.queue := by
  rcases channel with ⟨capacity, _ | ⟨item, queue⟩, parked, receiverGone, bounded⟩
  · cases frames with
    | nil =>
        simp only [collect, List.isEmpty_nil, if_true, Bounded.recv, Bounded.tryRecv]
        exact .inr (.inr (.inr ⟨_, rfl, rfl⟩))
    | cons frame others =>
        simp only [collect, List.isEmpty_cons, Bool.false_eq_true, if_false, Bounded.tryRecv]
        split
        · split
          · next waits =>
            simp only [Bool.and_eq_true, Bool.not_eq_true'] at waits
            exact .inr (.inl ⟨waits.2, rfl⟩)
          · exact .inr (.inr (.inl ⟨List.cons_ne_nil _ _, rfl⟩))
        · exact .inr (.inr (.inl ⟨List.cons_ne_nil _ _, rfl⟩))
  · cases frames with
    | nil =>
        simp only [collect, List.isEmpty_nil, if_true, Bounded.recv, Bounded.tryRecv]
        exact .inl ⟨item, false, _, rfl, rfl⟩
    | cons frame others =>
        simp only [collect, List.isEmpty_cons, Bool.false_eq_true, if_false, Bounded.tryRecv]
        split
        · exact .inl ⟨item, yielded, _, rfl, rfl⟩
        · exact .inr (.inr (.inl ⟨List.cons_ne_nil _ _, rfl⟩))

/-- How far a task is from its end when it holds nothing. -/
def rank : SenderTask → Nat
  | .stopped => 0
  | .collecting _ true => 1
  | .collecting _ false => 2
  | .writing _ => 3

theorem rank_le (task : SenderTask) : rank task ≤ 3 := by
  cases task with
  | stopped => decide
  | collecting frames yielded => cases yielded <;> simp [rank]
  | writing cursor => exact Nat.le_refl 3

/-- A bound on the steps left: a frame takes one for each of its bytes, and some for
being collected and flushed. -/
def potential (bincode : Bincode) (channel : Bounded PrioritizedFrame) (task : SenderTask) : Nat :=
  (channel.queue.map fun frame => (wireImage bincode frame.2).length + 7).sum +
    (task.batch.map fun frame => (wireImage bincode frame.2).length + 5).sum +
    task.unwritten.length + rank task

/-- Flushing a batch leaves fewer steps. -/
theorem potential_flushBatch {yielded : Bool}
    (encodable : ∀ frame ∈ frames, isEncodable codec bincode frame.2) (some : frames ≠ [])
    (channel : Bounded PrioritizedFrame) :
    potential bincode channel (flushBatch codec bincode frames) <
      potential bincode channel (.collecting frames yielded) := by
  have bytes : (flushBatch codec bincode frames).unwritten.length =
      (frames.map fun frame => (wireImage bincode frame.2).length).sum := by
    rw [flushBatch_unwritten_of_encodable encodable, List.length_flatMap]
    exact ((List.perm_insertionSort _ frames).map _).sum_eq
  have weights : (frames.map fun frame => (wireImage bincode frame.2).length + 5).sum =
      (frames.map fun frame => (wireImage bincode frame.2).length).sum + 5 * frames.length := by
    rw [List.sum_map_add]
    simp [Nat.mul_comm]
  have count := List.length_pos_iff.mpr some
  have after : potential bincode channel (flushBatch codec bincode frames) ≤
      (channel.queue.map fun frame => (wireImage bincode frame.2).length + 7).sum +
        (flushBatch codec bincode frames).unwritten.length + 3 := by
    have last := rank_le (flushBatch codec bincode frames)
    simp only [potential, flushBatch_batch, List.map_nil, List.sum_nil]
    omega
  have before : (channel.queue.map fun frame => (wireImage bincode frame.2).length + 7).sum +
      (frames.map fun frame => (wireImage bincode frame.2).length + 5).sum ≤
        potential bincode channel (.collecting frames yielded) := by
    simp only [potential, SenderTask.batch]
    omega
  omega

/-- Without senders, a task that has not ended can take a step of its own, and has
fewer left. -/
theorem Sends.progress (sends : Sends codec bincode state) (gone : state.sendersGone)
    (running : state.task ≠ .stopped) :
    ∃ action next, SenderAction.isTask action ∧ Succeeds codec bincode state action ∧
      SenderRun.step codec bincode state action = some next ∧ next.sendersGone ∧
      potential bincode next.channel next.task < potential bincode state.channel state.task := by
  rcases state with ⟨channel, _, task, queued, batches, written⟩
  cases gone
  cases task with
  | stopped => exact absurd rfl running
  | collecting frames yielded =>
      refine ⟨.resume, _, rfl, trivial, rfl, rfl, ?_⟩
      simp only [SenderRun.collected]
      rcases collect_without_senders channel frames yielded with
        ⟨item, flag, rest, outcome, queueEq⟩ | ⟨rfl, outcome⟩ | ⟨some, outcome⟩ |
          ⟨rest, outcome, queueEq⟩
      · rw [outcome]
        simp only [potential, SenderTask.batch, SenderTask.unwritten, queueEq, List.map_cons,
          List.sum_cons, List.map_append, List.sum_append, List.map_nil, List.sum_nil]
        have first : rank (.collecting (frames ++ [item]) flag) ≤
            rank (.collecting frames yielded) + 1 := by
          cases flag <;> cases yielded <;> simp [rank]
        omega
      · rw [outcome]
        simp [potential, SenderTask.batch, SenderTask.unwritten, rank]
      · rw [outcome]
        exact potential_flushBatch sends.encodable_batch some channel
      · rw [outcome]
        have last : 0 < rank (.collecting frames yielded) := by cases yielded <;> simp [rank]
        have ended : rank .stopped = 0 := rfl
        simp only [potential, SenderTask.batch, SenderTask.unwritten, queueEq, List.map_nil,
          List.sum_nil, ended]
        omega
  | writing cursor =>
      by_cases done : cursor.skipEmpty.buffers.isEmpty
      · refine ⟨.resume, _, rfl, trivial, if_pos done, rfl, ?_⟩
        simp only [potential, SenderTask.batch, SenderTask.unwritten, List.length_nil, rank]
        omega
      · have left := WriteCursor.unwritten_ne_nil fun none => done (List.isEmpty_iff.mpr none)
        have positive := List.length_pos_iff.mpr left
        have turnEq : cursor.turn 1 = .writing (cursor.skipEmpty.advance 1) := by
          simp [WriteCursor.turn, done]
        refine ⟨.write (.ok 1), ⟨channel, true, .writing (cursor.skipEmpty.advance 1), queued,
          batches, written ++ cursor.unwritten.take 1⟩, rfl, Nat.le_refl 1, ?_, rfl, ?_⟩
        · simp [SenderRun.step, turnEq, Nat.succ_le_of_lt positive]
        · have dropped := WriteCursor.unwritten_of_turn_writing turnEq
          simp only [potential, SenderTask.batch, SenderTask.unwritten, dropped, List.length_drop,
            rank]
          omega

/-- Without senders, the task can run to its end. -/
theorem Sends.ends (sends : Sends codec bincode state) (gone : state.sendersGone) :
    ∃ later final, (∀ action ∈ later, SenderAction.isTask action) ∧
      Meets (SenderRun.step codec bincode) (Succeeds codec bincode) state later ∧
      exec (SenderRun.step codec bincode) state later = some final ∧ final.task = .stopped := by
  induction size : potential bincode state.channel state.task using Nat.strong_induction_on
    generalizing state with
  | _ size ih =>
      by_cases stopped : state.task = .stopped
      · exact ⟨[], state, List.forall_mem_nil _, trivial, rfl, stopped⟩
      · obtain ⟨action, next, own, succeeds, stepEq, goneNext, fewer⟩ :=
          sends.progress gone stopped
        obtain ⟨later, final, ownLater, meets, run, ended⟩ :=
          ih _ (size ▸ fewer) (sends.step succeeds stepEq) goneNext rfl
        refine ⟨action :: later, final, ?_, ⟨succeeds, ?_⟩, ?_, ended⟩
        · exact List.forall_mem_cons.mpr ⟨own, ownLater⟩
        · intro other otherEq
          rw [stepEq] at otherEq
          cases otherEq
          exact meets
        · exact exec_cons_eq_some_iff.mpr ⟨next, stepEq, run⟩

/-! ## The frames on the wire -/

/-- For frames that encode and writes that succeed: without senders the task can
always run to its end; and at its end the wire carries the queued frames, batch
after batch, each batch by drain order, and frames of one priority (all frames of a
stream, in particular) in the order they were queued. -/
theorem sender_keeps_order (codec : TunnelCodec) (bincode : Bincode) (capacity : Nat)
    (actions : List SenderAction) {state : SenderRun}
    (succeed : Meets (step codec bincode) (Succeeds codec bincode) (start capacity) actions)
    (run : exec (step codec bincode) (start capacity) actions = some state) :
    (state.sendersGone → ∃ later final, (∀ action ∈ later, SenderAction.isTask action) ∧
      Meets (step codec bincode) (Succeeds codec bincode) state later ∧
      exec (step codec bincode) state later = some final ∧ final.task = .stopped) ∧
    (state.task = .stopped →
      state.written = state.wire.flatMap (fun frame => wireImage bincode frame.2) ∧
      state.wire.Perm state.queued ∧
      state.wire = (state.batches.map sortByDrainOrder).flatten ∧
      state.batches.flatten = state.queued ∧
      (∀ batch ∈ state.batches, (sortByDrainOrder batch).Pairwise fun first second =>
        first.1.drainOrder ≤ second.1.drainOrder) ∧
      (∀ priority, state.wire.filter (·.1 = priority) = state.queued.filter (·.1 = priority)) ∧
      ∀ select : PrioritizedFrame → Bool,
        (∀ first ∈ state.queued, ∀ second ∈ state.queued,
          select first → select second → first.1 = second.1) →
        state.wire.filter select = state.queued.filter select) := by
  have sends : Sends codec bincode state :=
    exec_invariant_of_meets Sends.step (sends_start capacity) succeed run
  refine ⟨sends.ends, ?_⟩
  intro stopped
  have account : state.batches.flatten = state.queued := by
    have parts := sends.account
    rw [stopped, (sends.drained stopped).1] at parts
    simpa [SenderTask.batch] using parts
  have bytes := sends.bytes
  simp only [stopped, SenderTask.unwritten, List.append_nil] at bytes
  have selected (select : PrioritizedFrame → Bool)
      (samePriority : ∀ first ∈ state.queued, ∀ second ∈ state.queued,
        select first → select second → first.1 = second.1) :
      state.wire.filter select = state.queued.filter select := by
    rw [← account] at samePriority ⊢
    apply filter_flatten_map_insertionSort
    intro first firstMem second secondMem firstSelected secondSelected
    rw [samePriority first firstMem second secondMem firstSelected secondSelected]
  refine ⟨bytes, ?_, rfl, account, ?_, ?_, selected⟩
  · rw [← account]
    exact perm_flatten_map_insertionSort _ state.batches
  · intro batch _
    exact List.pairwise_insertionSort _ batch
  · intro priority
    apply selected
    intro first _ second _ firstIs secondIs
    exact (of_decide_eq_true firstIs).trans (of_decide_eq_true secondIs).symm

/-- A data frame and a heartbeat of the highest priority, in one batch, and one more
frame behind the close of the channel. -/
def mixedBatch : List SenderAction :=
  [.send (.normal, .data 2 [7] false), .send (.critical, .heartbeat 7), .resume,
    .send (.normal, .data 2 [8] true), .dropSenders, .resume, .resume, .resume, .resume,
    .write (.ok 8), .write (.ok 21), .resume, .resume]

theorem mixedBatch_keeps_order : ∃ state,
    exec (step .default (.standard .sorted)) (start 4) mixedBatch = some state ∧
    state.task = .stopped ∧
    state.wire = [(.critical, .heartbeat 7), (.normal, .data 2 [7] false),
      (.normal, .data 2 [8] true)] ∧
    state.wire.Perm state.queued :=
  ⟨_, rfl, rfl, rfl, ((sender_keeps_order .default (.standard .sorted) 4 mixedBatch
    (by decide) rfl).2 rfl).2.1⟩

end SenderRun

end FerroTunnel.Transport
