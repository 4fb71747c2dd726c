import FerroTunnel.Channel.Bounded
import FerroTunnel.Ingress.RequestBody
import FerroTunnel.Transition.Core

/-!
# The request body of the HTTP/3 ingress

A task reads the body from the stream and sends it through a bounded channel to the
body that the request is forwarded with.  The task counts what it reads and stops at
the cap; the body counts again what it receives.

What is still to be forwarded is determined by the state: by the items on their way and
by what the task has yet to read.  No step of the task or of the body changes it while
the body is polled.
-/

namespace FerroTunnel.Ingress

open FerroTunnel.Channel
open FerroTunnel.Transition
open FerroTunnel.Wire

/-! ## The pipeline -/

/-- What the body channel carries. -/
abbrev BodyItem := Except RequestBodyError Bytes

/-- What a poll of the channel answers. -/
inductive ReceivePoll
  | item (item : BodyItem)
  | closed
  | pending

/-- The counts of the reader. -/
structure Http3RequestBody where
  bytesRead : Nat
  maxSize : Nat

/-- The error past the limit. -/
def bodyTooLarge : RequestBodyError :=
  .invalidData "body too large"

/-- The error of a failed receive. -/
def recvError (message : String) : RequestBodyError :=
  .other s!"h3 recv error: {message}"

/-- Addition of sizes that stops at the largest one. -/
def saturatingAdd (first second : Nat) : Nat :=
  min (first + second) (2 ^ 64 - 1)

/-- Answer a poll with what the channel answers. -/
def Http3RequestBody.pollFrame (this : Http3RequestBody) :
    ReceivePoll → FramePoll × Http3RequestBody
  | .item (.ok bytes) =>
      let bytesRead := (this.bytesRead + bytes.length) % 2 ^ 64
      if bytesRead > this.maxSize then
        (.error bodyTooLarge, { this with bytesRead := bytesRead })
      else
        (.frame (.data bytes), { this with bytesRead := bytesRead })
  | .item (.error error) => (.error error, this)
  | .closed => (.ended, this)
  | .pending => (.pending, this)

/-- Where the task that reads the body is. -/
inductive BodyReader
  | receiving
  | sending (item : BodyItem)
  /-- Out of the loop, with the sending half not yet dropped. -/
  | leaving
  | finished

/-- The task that reads a body, and its consumer. -/
structure BodyPipeline where
  /-- What the stream still delivers, before its end. -/
  incoming : List (Except String Bytes)
  reader : BodyReader
  bytesRead : Nat
  maxSize : Nat
  channel : Bounded BodyItem
  body : Http3RequestBody
  /-- What the body was asked for and delivered. -/
  forwarded : Bytes
  result : Option BodyEnd

/-- What the task and its consumer do. -/
inductive PipelineAction
  | receive
  | send
  | finish
  | poll
  | dropBody

namespace BodyPipeline

/-- A fresh reader and body on a stream. -/
def spawn (incoming : List (Except String Bytes)) (maxSize : Nat) : BodyPipeline where
  incoming := incoming
  reader := .receiving
  bytesRead := 0
  maxSize := maxSize
  channel := .empty 8
  body := ⟨0, maxSize⟩
  forwarded := []
  result := none

/-- The task receives from the stream. -/
def receive (state : BodyPipeline) : BodyPipeline :=
  match state.incoming with
  | [] => { state with reader := .leaving }
  | .ok chunk :: rest =>
      if chunk.length = 0 then
        { state with incoming := rest }
      else if saturatingAdd state.bytesRead chunk.length > state.maxSize then
        { state with incoming := rest, reader := .sending (.error bodyTooLarge) }
      else
        { state with
          incoming := rest
          bytesRead := (state.bytesRead + chunk.length) % 2 ^ 64
          reader := .sending (.ok chunk) }
  | .error message :: rest =>
      { state with incoming := rest, reader := .sending (.error (recvError message)) }

/-- The task sends; it waits while the channel is full. -/
def send (state : BodyPipeline) (item : BodyItem) : Option BodyPipeline :=
  match state.channel.trySend item with
  | (.sent, channel) =>
      let reader := match item with
        | .ok _ => .receiving
        | .error _ => .leaving
      some { state with channel := channel, reader := reader }
  | (.full, _) => none
  | (.closed, _) => some { state with reader := .leaving }

/-- What the channel answers to a poll, and the channel after it. -/
def pollRecv (state : BodyPipeline) : ReceivePoll × Bounded BodyItem :=
  match state.channel.tryRecv with
  | (some item, channel) => (.item item, channel)
  | (none, channel) =>
      match state.reader with
      | .finished => (.closed, channel)
      | _ => (.pending, channel)

/-- The body is polled for a frame. -/
def pollBody (state : BodyPipeline) : BodyPipeline :=
  let (received, channel) := state.pollRecv
  let (polled, body) := state.body.pollFrame received
  let polledState := { state with channel := channel, body := body }
  match polled with
  | .frame (.data bytes) => { polledState with forwarded := state.forwarded ++ bytes }
  | .frame .trailers => polledState
  | .error error => { polledState with result := some (.error error) }
  | .ended => { polledState with result := some .ended }
  | .pending => polledState

/-- One event of the pipeline. -/
def step : Step BodyPipeline PipelineAction
  | state, .receive =>
      match state.reader with
      | .receiving => some state.receive
      | _ => none
  | state, .send =>
      match state.reader with
      | .sending item => state.send item
      | _ => none
  | state, .finish =>
      match state.reader with
      | .leaving => some { state with reader := .finished }
      | _ => none
  | state, .poll =>
      -- A body is not polled after its first error or its end.
      if state.channel.receiverGone = false ∧ state.result = none then
        some state.pollBody
      else
        none
  | state, .dropBody =>
      if state.channel.receiverGone then
        none
      else
        some { state with channel := state.channel.closeReceiver }

/-! ## What is still to be forwarded -/

/-- What is forwarded of items, and of what comes after them. -/
def deliver : List BodyItem → Bytes × BodyEnd → Bytes × BodyEnd
  | [], later => later
  | .ok bytes :: rest, later => (bytes ++ (deliver rest later).1, (deliver rest later).2)
  | .error error :: _, _ => ([], .error error)

theorem deliver_append (items others : List BodyItem) (later : Bytes × BodyEnd) :
    deliver (items ++ others) later = deliver items (deliver others later) := by
  induction items with
  | nil => rfl
  | cons item rest ih =>
      cases item with
      | ok bytes => simp only [List.cons_append, deliver, ih]
      | error error => rfl

/-- The bytes of an item. -/
def itemBytes : BodyItem → Bytes
  | .ok bytes => bytes
  | .error _ => []

/-- The item that the task waits to send. -/
def held : BodyReader → List BodyItem
  | .sending item => [item]
  | _ => []

/-- The task goes on to read. -/
def reads : BodyReader → Bool
  | .receiving => true
  | .sending (.ok _) => true
  | _ => false

/-- The items between the stream and the body. -/
def inFlight (state : BodyPipeline) : List BodyItem :=
  state.channel.queue ++ held state.reader

/-- What is forwarded after the items in flight. -/
def unread (state : BodyPipeline) : Bytes × BodyEnd :=
  if reads state.reader then
    capped bodyTooLarge recvError (state.maxSize - state.bytesRead) state.incoming
  else
    ([], .ended)

/-- All that is forwarded of the body, and how it ends. -/
def outcome (state : BodyPipeline) : Bytes × BodyEnd :=
  match state.result with
  | some result => (state.forwarded, result)
  | none =>
      (state.forwarded ++ (deliver state.inFlight state.unread).1,
        (deliver state.inFlight state.unread).2)

/-- The bytes that the stream still delivers. -/
def incomingBytes (incoming : List (Except String Bytes)) : Nat :=
  (incoming.flatMap fun reception => reception.toOption.getD []).length

/-- While it is polled, the body is on the way to `total`. -/
structure Flows (total : Bytes × BodyEnd) (state : BodyPipeline) : Prop where
  outcome_eq : state.outcome = total
  bytesRead_le : state.bytesRead ≤ state.maxSize
  bytesRead_eq : state.result = none →
    state.body.bytesRead + (state.inFlight.flatMap itemBytes).length = state.bytesRead
  maxSize_eq : state.body.maxSize = state.maxSize
  capacity_eq : state.channel.capacity = 8
  fits : state.bytesRead + incomingBytes state.incoming < 2 ^ 64

variable {total : Bytes × BodyEnd} {state next : BodyPipeline}

theorem outcome_of_none (running : state.result = none) : state.outcome =
    (state.forwarded ++ (deliver state.inFlight state.unread).1,
      (deliver state.inFlight state.unread).2) := by
  rw [outcome, running]

theorem flows_spawn {incoming : List (Except String Bytes)} (maxSize : Nat)
    (fits : incomingBytes incoming < 2 ^ 64) :
    Flows (capped bodyTooLarge recvError maxSize incoming) (spawn incoming maxSize) where
  outcome_eq := rfl
  bytesRead_le := Nat.zero_le _
  bytesRead_eq := fun _ => rfl
  maxSize_eq := rfl
  capacity_eq := rfl
  fits := by
    rw [spawn, Nat.zero_add]
    exact fits

/-- Nothing changes on the side of the body. -/
def SameBody (state next : BodyPipeline) : Prop :=
  next.forwarded = state.forwarded ∧ next.result = state.result ∧ next.body = state.body ∧
    next.maxSize = state.maxSize ∧ next.channel.capacity = state.channel.capacity

/-- A step of the task that keeps what is still to be forwarded, and the counts, keeps the
flow. -/
theorem Flows.of_sameBody (flows : Flows total state) (kept : SameBody state next)
    (bytesRead : next.bytesRead ≤ next.maxSize)
    (moved : next.bytesRead + incomingBytes next.incoming ≤
      state.bytesRead + incomingBytes state.incoming)
    (counted : next.bytesRead + (state.inFlight.flatMap itemBytes).length =
      state.bytesRead + (next.inFlight.flatMap itemBytes).length)
    (same : deliver next.inFlight next.unread = deliver state.inFlight state.unread) :
    Flows total next := by
  obtain ⟨forwarded, result, body, maxSize, capacity⟩ := kept
  constructor
  · rw [← flows.outcome_eq, outcome, outcome, result, forwarded, same]
  · exact bytesRead
  · intro running
    have before := flows.bytesRead_eq (result ▸ running)
    rw [body]
    omega
  · rw [body, maxSize, flows.maxSize_eq]
  · rw [capacity, flows.capacity_eq]
  · exact Nat.lt_of_le_of_lt moved flows.fits

theorem incomingBytes_cons (reception : Except String Bytes) (rest : List (Except String Bytes)) :
    incomingBytes (reception :: rest) =
      (reception.toOption.getD []).length + incomingBytes rest := by
  rw [incomingBytes, List.flatMap_cons, List.length_append, incomingBytes]

/-- What the task receives goes from the stream into flight. -/
theorem Flows.receive (flows : Flows total state) (receiving : state.reader = .receiving) :
    Flows total state.receive := by
  have queued : state.inFlight = state.channel.queue := by
    rw [inFlight, receiving]
    exact List.append_nil _
  have reading : state.unread =
      capped bodyTooLarge recvError (state.maxSize - state.bytesRead) state.incoming := by
    rw [unread, receiving]
    rfl
  have below := flows.bytesRead_le
  have fits := flows.fits
  rw [BodyPipeline.receive]
  cases incoming : state.incoming with
  | nil =>
      apply flows.of_sameBody
      · exact ⟨rfl, rfl, rfl, rfl, rfl⟩
      · exact below
      · rw [incoming]
      · rw [queued]
        simp [inFlight, held]
      · rw [queued, reading, incoming]
        simp [inFlight, held, unread, reads, capped]
  | cons reception rest =>
      rw [incoming, incomingBytes_cons] at fits
      have moved : state.bytesRead + incomingBytes rest ≤
          state.bytesRead + incomingBytes state.incoming := by
        rw [incoming, incomingBytes_cons]
        omega
      cases reception with
      | error message =>
          apply flows.of_sameBody
          · exact ⟨rfl, rfl, rfl, rfl, rfl⟩
          · exact below
          · exact moved
          · rw [queued]
            simp [inFlight, held, itemBytes]
          · rw [queued, reading, incoming, inFlight, deliver_append]
            rfl
      | ok chunk =>
          change state.bytesRead + (chunk.length + _) < _ at fits
          simp only
          split
          · next empty =>
            -- An empty chunk is skipped by the task and forwarded as nothing.
            apply flows.of_sameBody
            · exact ⟨rfl, rfl, rfl, rfl, rfl⟩
            · exact below
            · exact moved
            · rfl
            · have nothing : chunk = [] := List.eq_nil_of_length_eq_zero empty
              rw [reading, incoming, nothing, capped_cons_ok_of_le _ _ (Nat.zero_le _)]
              simp [inFlight, unread, receiving, reads]
          · split
            · next passes =>
              rw [saturatingAdd, gt_iff_lt, lt_min_iff] at passes
              apply flows.of_sameBody
              · exact ⟨rfl, rfl, rfl, rfl, rfl⟩
              · exact below
              · exact moved
              · rw [queued]
                simp [inFlight, held, itemBytes]
              · have more : state.maxSize - state.bytesRead < chunk.length := by omega
                rw [queued, reading, incoming, capped_cons_ok_of_lt _ _ more, inFlight,
                  deliver_append]
                rfl
            · next within =>
              rw [saturatingAdd, gt_iff_lt, not_lt, min_le_iff] at within
              have counted : (state.bytesRead + chunk.length) % 2 ^ 64 =
                  state.bytesRead + chunk.length := Nat.mod_eq_of_lt (by omega)
              have room : state.bytesRead + chunk.length ≤ state.maxSize := by omega
              rw [counted]
              apply flows.of_sameBody
              · exact ⟨rfl, rfl, rfl, rfl, rfl⟩
              · exact room
              · rw [incoming, incomingBytes_cons]
                change _ ≤ state.bytesRead + (chunk.length + _)
                exact Nat.le_of_eq (Nat.add_assoc _ _ _)
              · rw [queued]
                simp [inFlight, held, itemBytes]
                omega
              · have fitting : chunk.length ≤ state.maxSize - state.bytesRead := by omega
                rw [queued, reading, incoming, capped_cons_ok_of_le _ _ fitting, inFlight,
                  deliver_append, Nat.sub_sub]
                rfl

/-- What the task sends stays in flight. -/
theorem Flows.send {item : BodyItem} (flows : Flows total state)
    (listening : state.channel.receiverGone = false) (sending : state.reader = .sending item)
    (sent : state.send item = some next) :
    Flows total next ∧ next.channel.receiverGone = false := by
  simp only [BodyPipeline.send] at sent
  rcases state.channel.trySend_cases item with ⟨channel, verdict, -, queue, gone⟩ | full |
    ⟨closed, gone⟩
  · rw [verdict] at sent
    cases sent
    have capacity := state.channel.trySend_capacity item
    rw [verdict] at capacity
    refine ⟨?_, gone⟩
    apply flows.of_sameBody
    · exact ⟨rfl, rfl, rfl, rfl, capacity⟩
    · exact flows.bytesRead_le
    · exact Nat.le_refl _
    · cases item <;> simp [inFlight, held, queue, sending]
    · cases item <;> simp [inFlight, held, queue, sending, unread, reads]
  · rw [full] at sent
    cases sent
  · rw [listening] at gone
    cases gone

theorem Flows.finish (flows : Flows total state) (leaving : state.reader = .leaving) :
    Flows total { state with reader := .finished } := by
  apply flows.of_sameBody
  · exact ⟨rfl, rfl, rfl, rfl, rfl⟩
  · exact flows.bytesRead_le
  · exact Nat.le_refl _
  · simp [inFlight, leaving, held]
  · simp [inFlight, leaving, held, unread, reads]

variable {rest : List BodyItem} {action : PipelineAction}

/-- What is received is forwarded: the second check never fires. -/
theorem Flows.pollFrame_ok {bytes : Bytes} (flows : Flows total state)
    (running : state.result = none) (queue : state.channel.queue = .ok bytes :: rest) :
    state.body.pollFrame (.item (.ok bytes)) =
      (.frame (.data bytes), { state.body with
        bytesRead := state.body.bytesRead + bytes.length }) := by
  have counted := flows.bytesRead_eq running
  rw [inFlight, queue, List.cons_append, List.flatMap_cons, List.length_append, itemBytes]
    at counted
  have below := flows.bytesRead_le
  have fits := flows.fits
  have small : (state.body.bytesRead + bytes.length) % 2 ^ 64 =
      state.body.bytesRead + bytes.length := Nat.mod_eq_of_lt (by omega)
  have within : ¬ state.body.bytesRead + bytes.length > state.body.maxSize := by
    rw [flows.maxSize_eq]
    omega
  simp only [Http3RequestBody.pollFrame, small, if_neg within]

/-- A poll takes the first item. -/
theorem pollRecv_of_queue {item : BodyItem} (queue : state.channel.queue = item :: rest) :
    ∃ channel, state.pollRecv = (.item item, channel) ∧ channel.queue = rest ∧
      channel.capacity = state.channel.capacity ∧
      channel.receiverGone = state.channel.receiverGone := by
  have capacity := state.channel.tryRecv_capacity
  rcases state.channel.tryRecv_cases with ⟨empty, -⟩ | ⟨first, others, whole, taken, left, gone⟩
  · rw [queue] at empty
    cases empty
  · cases whole.symm.trans queue
    have received : state.channel.tryRecv = (some item, state.channel.tryRecv.2) :=
      Prod.ext taken rfl
    refine ⟨state.channel.tryRecv.2, ?_, left, capacity, gone⟩
    rw [pollRecv, received]

/-- Without an item, a poll waits for the task until it has finished. -/
theorem pollRecv_of_empty (empty : state.channel.queue = []) :
    (state.reader = .finished ∧ state.pollRecv = (.closed, state.channel)) ∨
      (state.reader ≠ .finished ∧ state.pollRecv = (.pending, state.channel)) := by
  have received : state.channel.tryRecv = (none, state.channel) := by
    rcases state.channel.tryRecv_cases with ⟨-, received⟩ | ⟨first, others, whole, -⟩
    · exact received
    · rw [empty] at whole
      cases whole
  simp only [pollRecv, received]
  cases state.reader <;> simp

/-- The body forwards the first chunk in flight. -/
theorem Flows.poll_ok {bytes : Bytes} (flows : Flows total state) (running : state.result = none)
    (queue : state.channel.queue = .ok bytes :: rest) :
    Flows total state.pollBody ∧ state.pollBody.channel.queue = rest ∧
      state.pollBody.channel.receiverGone = state.channel.receiverGone := by
  obtain ⟨channel, received, left, capacity, gone⟩ := pollRecv_of_queue queue
  have flight : state.inFlight = .ok bytes :: (rest ++ held state.reader) := by
    rw [inFlight, queue, List.cons_append]
  have counted := flows.bytesRead_eq running
  rw [flight, List.flatMap_cons, List.length_append, itemBytes, ← Nat.add_assoc] at counted
  simp only [pollBody, received, flows.pollFrame_ok running queue]
  refine ⟨?_, left, gone⟩
  constructor
  · rw [← flows.outcome_eq, outcome_of_none running, flight, deliver]
    simp only [outcome, running, inFlight, left, unread, List.append_assoc]
  · exact flows.bytesRead_le
  · intro _
    simp only [inFlight, left]
    exact counted
  · exact flows.maxSize_eq
  · exact capacity.trans flows.capacity_eq
  · exact flows.fits

/-- The body ends with the first error in flight. -/
theorem Flows.poll_error {error : RequestBodyError} (flows : Flows total state)
    (running : state.result = none) (queue : state.channel.queue = .error error :: rest) :
    Flows total state.pollBody ∧ state.pollBody.result.isSome = true ∧
      state.pollBody.channel.receiverGone = state.channel.receiverGone := by
  obtain ⟨channel, received, left, capacity, gone⟩ := pollRecv_of_queue queue
  have flight : state.inFlight = .error error :: (rest ++ held state.reader) := by
    rw [inFlight, queue, List.cons_append]
  simp only [pollBody, received, Http3RequestBody.pollFrame]
  refine ⟨?_, rfl, gone⟩
  constructor
  · rw [← flows.outcome_eq, outcome_of_none running, flight, deliver, outcome, List.append_nil]
  · exact flows.bytesRead_le
  · exact fun none => nomatch none
  · exact flows.maxSize_eq
  · exact capacity.trans flows.capacity_eq
  · exact flows.fits

/-- The body ends when the task has finished and nothing is in flight. -/
theorem Flows.poll_closed (flows : Flows total state) (running : state.result = none)
    (empty : state.channel.queue = []) (finished : state.reader = .finished) :
    Flows total state.pollBody ∧ state.pollBody.result.isSome = true ∧
      state.pollBody.channel.receiverGone = state.channel.receiverGone := by
  have received : state.pollRecv = (.closed, state.channel) := by
    rcases pollRecv_of_empty empty with ⟨-, closed⟩ | ⟨working, -⟩
    · exact closed
    · exact absurd finished working
  have flight : state.inFlight = [] := by
    rw [inFlight, empty, finished]
    rfl
  have nothing : state.unread = ([], .ended) := by
    rw [unread, finished]
    rfl
  simp only [pollBody, received, Http3RequestBody.pollFrame]
  refine ⟨?_, rfl, trivial⟩
  constructor
  · rw [← flows.outcome_eq, outcome_of_none running, flight, nothing, deliver, outcome,
      List.append_nil]
  · exact flows.bytesRead_le
  · exact fun none => nomatch none
  · exact flows.maxSize_eq
  · exact flows.capacity_eq
  · exact flows.fits

theorem pollBody_of_pending (empty : state.channel.queue = [])
    (working : state.reader ≠ .finished) : state.pollBody = state := by
  have received : state.pollRecv = (.pending, state.channel) := by
    rcases pollRecv_of_empty empty with ⟨finished, -⟩ | ⟨-, pending⟩
    · exact absurd finished working
    · exact pending
  simp only [pollBody, received, Http3RequestBody.pollFrame]

/-- A poll forwards what is first in flight. -/
theorem Flows.poll (flows : Flows total state) (running : state.result = none) :
    Flows total state.pollBody ∧
      state.pollBody.channel.receiverGone = state.channel.receiverGone := by
  cases queue : state.channel.queue with
  | nil =>
      by_cases finished : state.reader = .finished
      · obtain ⟨kept, -, gone⟩ := flows.poll_closed running queue finished
        exact ⟨kept, gone⟩
      · rw [pollBody_of_pending queue finished]
        exact ⟨flows, rfl⟩
  | cons item rest =>
      cases item with
      | ok bytes =>
          obtain ⟨kept, -, gone⟩ := flows.poll_ok running queue
          exact ⟨kept, gone⟩
      | error error =>
          obtain ⟨kept, -, gone⟩ := flows.poll_error running queue
          exact ⟨kept, gone⟩

/-! ## Runs -/

/-- The task has no hand in what the body does with what it received. -/
theorem receive_same (state : BodyPipeline) : state.receive.channel = state.channel ∧
    state.receive.forwarded = state.forwarded ∧ state.receive.result = state.result := by
  simp only [receive]
  split
  · exact ⟨rfl, rfl, rfl⟩
  · split
    · exact ⟨rfl, rfl, rfl⟩
    · split <;> exact ⟨rfl, rfl, rfl⟩
  · exact ⟨rfl, rfl, rfl⟩

/-- A step goes on with the flow, or drops the body as it is. -/
theorem Flows.step (flows : Flows total state) (listening : state.channel.receiverGone = false)
    (stepEq : BodyPipeline.step state action = some next) :
    (Flows total next ∧ next.channel.receiverGone = false) ∨
      (next.forwarded = state.forwarded ∧ next.result = state.result ∧
        next.channel.receiverGone = true) := by
  cases action with
  | receive =>
      simp only [BodyPipeline.step] at stepEq
      split at stepEq
      · next receiving =>
        cases stepEq
        obtain ⟨channel, -, -⟩ := state.receive_same
        exact .inl ⟨flows.receive receiving, (congrArg _ channel).trans listening⟩
      · cases stepEq
  | send =>
      simp only [BodyPipeline.step] at stepEq
      split at stepEq
      · next item sending => exact .inl (flows.send listening sending stepEq)
      · cases stepEq
  | finish =>
      simp only [BodyPipeline.step] at stepEq
      split at stepEq
      · next leaving =>
        cases stepEq
        exact .inl ⟨flows.finish leaving, listening⟩
      · cases stepEq
  | poll =>
      simp only [BodyPipeline.step] at stepEq
      split at stepEq
      · next ready =>
        cases stepEq
        obtain ⟨kept, gone⟩ := flows.poll ready.2
        exact .inl ⟨kept, gone.trans listening⟩
      · cases stepEq
  | dropBody =>
      simp only [BodyPipeline.step, listening, Bool.false_eq_true, if_false] at stepEq
      cases stepEq
      exact .inr ⟨rfl, rfl, rfl⟩

/-- After the body is dropped nothing more is forwarded. -/
theorem step_of_dropped (dropped : state.channel.receiverGone = true)
    (stepEq : step state action = some next) :
    next.forwarded = state.forwarded ∧ next.result = state.result ∧
      next.channel.receiverGone = true := by
  cases action with
  | receive =>
      simp only [step] at stepEq
      split at stepEq
      · cases stepEq
        obtain ⟨channel, forwarded, result⟩ := state.receive_same
        exact ⟨forwarded, result, (congrArg _ channel).trans dropped⟩
      · cases stepEq
  | send =>
      simp only [step] at stepEq
      split at stepEq
      · next item sending =>
        have closed : state.channel.trySend item = (.closed, state.channel) := if_pos dropped
        simp only [BodyPipeline.send, closed, Option.some.injEq] at stepEq
        subst stepEq
        exact ⟨rfl, rfl, dropped⟩
      · cases stepEq
  | finish =>
      simp only [step] at stepEq
      split at stepEq
      · cases stepEq
        exact ⟨rfl, rfl, dropped⟩
      · cases stepEq
  | poll | dropBody => simp [step, dropped] at stepEq

/-- What was forwarded is part of `total`, and all of it at the end. -/
def Settles (total : Bytes × BodyEnd) (state : BodyPipeline) : Prop :=
  state.forwarded <+: total.1 ∧ ∀ result ∈ state.result, (state.forwarded, result) = total

theorem Flows.settles (flows : Flows total state) : Settles total state := by
  have outcome := flows.outcome_eq
  cases ended : state.result with
  | none =>
      rw [outcome_of_none ended] at outcome
      rw [Settles, ended, ← outcome]
      exact ⟨List.prefix_append _ _, fun _ none => nomatch none⟩
  | some result =>
      rw [BodyPipeline.outcome, ended] at outcome
      rw [Settles, ended, ← outcome]
      refine ⟨List.prefix_refl _, ?_⟩
      rintro other ⟨⟩
      rfl

/-- The pipeline flows to `total`, or its body was dropped on the way. -/
def Heads (total : Bytes × BodyEnd) (state : BodyPipeline) : Prop :=
  (Flows total state ∧ state.channel.receiverGone = false) ∨
    (Settles total state ∧ state.channel.receiverGone = true)

theorem Heads.step (heads : Heads total state)
    (stepEq : BodyPipeline.step state action = some next) : Heads total next := by
  rcases heads with ⟨flows, listening⟩ | ⟨settles, dropped⟩
  · rcases flows.step listening stepEq with kept | ⟨forwarded, result, gone⟩
    · exact .inl kept
    · have settles := flows.settles
      rw [Settles, ← forwarded, ← result] at settles
      exact .inr ⟨settles, gone⟩
  · obtain ⟨forwarded, result, gone⟩ := step_of_dropped dropped stepEq
    rw [Settles, ← forwarded, ← result] at settles
    exact .inr ⟨settles, gone⟩

theorem Heads.settles (heads : Heads total state) : Settles total state := by
  rcases heads with ⟨flows, -⟩ | ⟨settles, -⟩
  · exact flows.settles
  · exact settles

/-- A poll that takes a chunk from the channel forwards it. -/
def ForwardsReceived (state : BodyPipeline) (action : PipelineAction) : Prop :=
  ∀ next, step state action = some next → action = .poll →
    ∀ bytes, state.pollRecv.1 = .item (.ok bytes) →
      (state.body.pollFrame (.item (.ok bytes))).1 = .frame (.data bytes)

theorem Heads.forwardsReceived (heads : Heads total state) : ForwardsReceived state action := by
  rintro next stepEq rfl bytes taken
  simp only [BodyPipeline.step] at stepEq
  split at stepEq
  · next ready =>
    rcases heads with ⟨flows, -⟩ | ⟨-, dropped⟩
    · cases queue : state.channel.queue with
      | nil => rcases pollRecv_of_empty queue with ⟨-, none⟩ | ⟨-, none⟩ <;> simp [none] at taken
      | cons item rest =>
          obtain ⟨channel, received, -⟩ := pollRecv_of_queue queue
          rw [received] at taken
          cases taken
          rw [flows.pollFrame_ok ready.2 queue]
    · rw [ready.1] at dropped
      cases dropped
  · cases stepEq

/-! ## Progress -/

/-- The steps that the task can still take at one place. -/
def readerWork : BodyReader → Nat
  | .receiving => 2
  | .sending _ => 4
  | .leaving => 1
  | .finished => 0

/-- The work that is left in the pipeline. -/
def work (state : BodyPipeline) : Nat :=
  3 * state.incoming.length + readerWork state.reader + state.channel.queue.length

theorem work_receive_lt (receiving : state.reader = .receiving) :
    state.receive.work < state.work := by
  rw [work, work, state.receive_same.1, receiving]
  simp only [receive]
  cases incoming : state.incoming with
  | nil => simp [readerWork]
  | cons reception rest =>
      cases reception with
      | error message =>
          simp only [readerWork, List.length_cons]
          omega
      | ok chunk =>
          simp only
          split
          · simp only [receiving, readerWork, List.length_cons]
            omega
          · split <;> simp only [readerWork, List.length_cons] <;> omega

theorem pollBody_same (state : BodyPipeline) :
    state.pollBody.incoming = state.incoming ∧ state.pollBody.reader = state.reader := by
  simp only [pollBody]
  split <;> exact ⟨rfl, rfl⟩

/-- A task that waits to send is not stopped by an empty channel. -/
theorem Flows.exists_send {item : BodyItem} (flows : Flows total state)
    (listening : state.channel.receiverGone = false) (empty : state.channel.queue = [])
    (sending : state.reader = .sending item) :
    ∃ next, state.send item = some next ∧ next.work < state.work := by
  have room : 0 < state.channel.capacity := by
    rw [flows.capacity_eq]
    exact Nat.succ_pos 7
  simp only [BodyPipeline.send]
  rcases state.channel.trySend_cases item with ⟨channel, sent, -, queue, -⟩ | full | ⟨-, gone⟩
  · rw [sent]
    refine ⟨_, rfl, ?_⟩
    rw [work, work, queue, empty, sending]
    cases item with
    | ok bytes | error error => simp [readerWork, Nat.add_assoc]
  · exact absurd (congrArg Prod.fst full) (Bounded.trySend_ne_full empty room item)
  · rw [listening] at gone
    cases gone

/-- A body that is polled on ends, or some step leaves less work. -/
theorem Flows.progress (flows : Flows total state)
    (listening : state.channel.receiverGone = false) (running : state.result = none) :
    ∃ action next, BodyPipeline.step state action = some next ∧ Flows total next ∧
      next.channel.receiverGone = false ∧ (next.result.isSome = true ∨ next.work < state.work) := by
  have polls : BodyPipeline.step state .poll = some state.pollBody :=
    if_pos ⟨listening, running⟩
  cases queue : state.channel.queue with
  | cons item rest =>
      cases item with
      | ok bytes =>
          obtain ⟨kept, left, gone⟩ := flows.poll_ok running queue
          refine ⟨.poll, state.pollBody, polls, kept, gone.trans listening, .inr ?_⟩
          obtain ⟨incoming, reader⟩ := state.pollBody_same
          rw [work, work, incoming, reader, left, queue]
          exact Nat.lt_succ_self _
      | error error =>
          obtain ⟨kept, ended, gone⟩ := flows.poll_error running queue
          exact ⟨.poll, state.pollBody, polls, kept, gone.trans listening, .inl ended⟩
  | nil =>
      cases reader : state.reader with
      | receiving =>
          have received : BodyPipeline.step state .receive = some state.receive := by
            simp only [BodyPipeline.step, reader]
          refine ⟨.receive, state.receive, received, flows.receive reader, ?_,
            .inr (work_receive_lt reader)⟩
          rw [state.receive_same.1, listening]
      | sending item =>
          obtain ⟨next, sent, less⟩ := flows.exists_send listening queue reader
          obtain ⟨kept, gone⟩ := flows.send listening reader sent
          have stepEq : BodyPipeline.step state .send = some next := by
            simp only [BodyPipeline.step, reader, sent]
          exact ⟨.send, next, stepEq, kept, gone, .inr less⟩
      | leaving =>
          have left : BodyPipeline.step state .finish =
              some { state with reader := .finished } := by
            simp only [BodyPipeline.step, reader]
          refine ⟨.finish, _, left, flows.finish reader, listening, .inr ?_⟩
          simp [work, reader, readerWork]
      | finished =>
          obtain ⟨kept, ended, gone⟩ := flows.poll_closed running queue reader
          exact ⟨.poll, state.pollBody, polls, kept, gone.trans listening, .inl ended⟩

/-- The body can always be carried to its end. -/
theorem Flows.completes (flows : Flows total state)
    (listening : state.channel.receiverGone = false) :
    ∃ actions final, exec BodyPipeline.step state actions = some final ∧
      final.result.isSome = true := by
  -- By induction on the work that is left.
  induction size : state.work using Nat.strong_induction_on generalizing state with
  | h size ih =>
      cases running : state.result with
      | some result =>
          refine ⟨[], state, rfl, ?_⟩
          rw [running]
          rfl
      | none =>
          obtain ⟨action, next, stepEq, kept, gone, ended | less⟩ :=
            flows.progress listening running
          · exact ⟨[action], next, exec_cons_eq_some_iff.mpr ⟨next, stepEq, rfl⟩, ended⟩
          · obtain ⟨actions, final, run, ended⟩ := ih next.work (size ▸ less) kept gone rfl
            exact ⟨action :: actions, final, exec_cons_eq_some_iff.mpr ⟨next, stepEq, run⟩, ended⟩

end BodyPipeline

/-! ## Both ingresses -/

theorem incomingBytes_map_ok (chunks : List Bytes) :
    BodyPipeline.incomingBytes (chunks.map .ok) = chunks.flatten.length := by
  induction chunks with
  | nil => rfl
  | cons chunk rest ih =>
      rw [List.map_cons, BodyPipeline.incomingBytes_cons, ih, List.flatten_cons,
        List.length_append]
      rfl

/-- The cap is exact on both ingresses.  However the polls of the body below fall and
however the task and the body take turns, both forward the same bytes before their first
error or their end. -/
theorem requestBody_cap_exact (maxSize : Nat) (chunks : List Bytes) (inner : List FramePoll)
    (delivers : Delivers inner chunks) (fits : chunks.flatten.length < 2 ^ 64) :
    ∃ bytes result body,
      (LimitedBody.new inner maxSize).drain (inner.length + 1) = some (bytes, result, body) ∧
      CappedForward maxSize chunks .requestBodyTooLarge bytes result ∧
      bytes.length ≤ maxSize ∧
      (body.exceeded = true ↔ result = .error .requestBodyTooLarge) ∧
      ∀ actions final,
        exec BodyPipeline.step (.spawn (chunks.map .ok) maxSize) actions = some final →
          Meets BodyPipeline.step BodyPipeline.ForwardsReceived
            (.spawn (chunks.map .ok) maxSize) actions ∧
          final.forwarded <+: bytes ∧
          (∀ http3Result ∈ final.result, final.forwarded = bytes ∧
            CappedForward maxSize chunks bodyTooLarge final.forwarded http3Result) ∧
          (final.channel.receiverGone = false → ∃ later ended,
            exec BodyPipeline.step final later = some ended ∧ ended.result.isSome = true) := by
  obtain ⟨body, drained, flag⟩ := LimitedBody.drain_delivers delivers recvError maxSize
  have sameBytes := capped_fst_eq bodyTooLarge recvError .requestBodyTooLarge recvError maxSize
    (chunks.map .ok)
  have start : BodyPipeline.Heads (capped bodyTooLarge recvError maxSize (chunks.map .ok))
      (.spawn (chunks.map .ok) maxSize) :=
    .inl ⟨BodyPipeline.flows_spawn maxSize (by rw [incomingBytes_map_ok]; exact fits), rfl⟩
  refine ⟨_, _, body, drained, cappedForward_capped _ _ maxSize chunks,
    length_capped_le _ _ maxSize _, flag, ?_⟩
  intro actions final run
  have heads := exec_invariant (fun heads stepEq => heads.step stepEq) start run
  obtain ⟨part, whole⟩ := heads.settles
  constructor
  · apply Meets.of_invariant _ _ start
    · exact fun heads stepEq => heads.step stepEq
    · exact fun heads => heads.forwardsReceived
  constructor
  · rw [← sameBytes]
    exact part
  constructor
  · intro http3Result ended
    have total := whole http3Result ended
    have forward := cappedForward_capped bodyTooLarge recvError maxSize chunks
    rw [← total] at forward
    rw [← sameBytes, ← total]
    exact ⟨rfl, forward⟩
  · intro listening
    rcases heads with ⟨flows, -⟩ | ⟨-, dropped⟩
    · exact flows.completes listening
    · rw [listening] at dropped
      cases dropped

/-- A chunk that fills the cap exactly, an empty one, and one that passes it. -/
theorem requestBody_cap_exact_boundary :
    Delivers [.pending, .frame (.data [1, 2]), .frame (.data []), .frame (.data [3])]
      [[1, 2], [], [3]] ∧
    ∃ bytes result body,
      (LimitedBody.new [.pending, .frame (.data [1, 2]), .frame (.data []), .frame (.data [3])]
        2).drain 5 = some (bytes, result, body) ∧
      CappedForward 2 [[1, 2], [], [3]] .requestBodyTooLarge bytes result :=
  ⟨by decide,
    let ⟨bytes, result, body, drained, forward, _⟩ := requestBody_cap_exact 2 [[1, 2], [], [3]]
      [.pending, .frame (.data [1, 2]), .frame (.data []), .frame (.data [3])]
      (by decide) (by decide)
    ⟨bytes, result, body, drained, forward⟩⟩

end FerroTunnel.Ingress
