import FerroTunnel.Link.Endpoint
import FerroTunnel.Link.InFlight
import FerroTunnel.Link.Outgoing
import FerroTunnel.Tunnel.Server

/-!
# The reply to a handshake

Over TCP the server registers a session and then queues the acknowledgement of
the handshake.  From the registration on, an ingress task that looks the tunnel
up can open streams on the session's multiplexer, and the batched sender cuts
its batches wherever it finds the wire channel empty.  The acknowledgement is
written first if it is in the first batch, where its priority puts it in front.

A connection is followed here from the accepted handshake on; the frames the
sender has written out of its batches are recorded in order.
-/

namespace FerroTunnel.Tunnel

open FerroTunnel.Link (EndpointAction Side flushed)
open FerroTunnel.Order
open FerroTunnel.Stream
open FerroTunnel.Transition
open FerroTunnel.Transport
open FerroTunnel.Wire

/-- Where `handle_connection` stands after an accepted handshake. -/
inductive AdmissionPhase
  | authenticated
  | adding (call : Nat)
  | replying (accepted : Bool) (future : SendFuture)
  | established
  | ended
deriving DecidableEq

/-- A connection between its handshake and its message loop, with the session
store and the frames written to the client so far. -/
structure Admission where
  pool : StorePool Unit
  connection : Link.Connection
  sent : List Frame
  phase : AdmissionPhase

/-- What can happen to the connection: a call on the store, a step of
`handle_connection`, or a step of the ingress, the sender or the network. -/
inductive AdmissionAction
  | store (action : StoreAction Unit)
  | register
  | added (now : Nat)
  | pollReply (now : Nat)
  | connection (action : Link.Action)

/-- The reply to a handshake. -/
def isHandshakeAck : Frame → Bool
  | .handshakeAck _ _ _ _ => true
  | _ => false

namespace Admission

/-- A connection that is authenticated. -/
def initial : Admission where
  pool := .initial
  connection := .initial
  sent := []
  phase := .authenticated

/-- An ingress task has found the session in the store. -/
def found (state : Admission) (session : Session Unit) : Bool :=
  state.pool.calls.any fun call =>
    match call with
    | .getByTunnelIdReturned _ (some found) => found.id = session.id
    | _ => false

/-- Streams are opened and used by ingress tasks that have found the session, and
frames are received and answered by the message loop.  The sender, and the task
that drops streams opened by the client, run from the start. -/
def permits (state : Admission) (session : Session Unit) : Link.Action → Bool
  | .endpoint .client _ => false
  | .endpoint .server action =>
      match action with
      | .openStream _ _ _ => state.found session
      | .pollOpen _ _ => state.found session
      | .dropOpen _ => state.found session
      | .pollWrite _ _ _ => state.found session
      | .pollShutdown _ _ => state.found session
      | .pollRead _ _ => state.found session
      | .sendFrame _ => state.phase = .established
      | .decode => state.phase = .established
      | .resume => state.phase = .established
      | .collect => true
      | .accept => true
      | .closeAcceptor => true
      | .dropStream _ => true
  | .write side _ | .writeError side | .transfer side _ => side = .server

/-- The batch that the sender's next receive flushes. -/
def flushing (bincode : Bincode) (state : Admission) : List PrioritizedFrame :=
  let endpoint := state.connection.endpoint .server
  match endpoint.sender with
  | .collecting frames yielded =>
      if (collect .default bincode endpoint.outbox false frames yielded).1.batch.isEmpty then
        frames
      else
        []
  | _ => []

/-- The frames that an action writes out of a batch. -/
def writes (bincode : Bincode) (state : Admission) : Link.Action → List Frame
  | .endpoint .server .collect => flushed .default bincode (state.flushing bincode)
  | _ => []

/-- The frames that a step writes out of a batch. -/
def wrote (bincode : Bincode) (state : Admission) : AdmissionAction → List Frame
  | .connection action => state.writes bincode action
  | _ => []

/-- Begin to send the reply with `send_frame`. -/
def reply (state : Admission) (accepted : Bool) (frame : Frame) (now : Nat) : Admission :=
  let priorities := (state.connection.endpoint .server).mux.streamPriorities
  { state with
    phase := .replying accepted
      (boundedSendFuture (Multiplexer.priorityForFrame frame priorities, frame) now) }

/-- Poll the send of the reply. -/
def pollReply (state : Admission) (accepted : Bool) (future : SendFuture) (now : Nat) :
    Admission :=
  let endpoint := state.connection.endpoint .server
  match future.poll endpoint.outbox now with
  | (.pending, later, outbox) =>
      { state with
        connection := state.connection.setEndpoint .server { endpoint with outbox := outbox }
        phase := .replying accepted later }
  | (.ready (.ok ()), _, outbox) =>
      { state with
        connection := state.connection.setEndpoint .server { endpoint with outbox := outbox }
        phase := if accepted then .established else .ended }
  | (.ready (.error _), _, outbox) =>
      { state with
        connection := state.connection.setEndpoint .server { endpoint with outbox := outbox }
        phase := .ended }

/-- One event of the admission. -/
def step (bincode : Bincode) (session : Session Unit) (version : UInt8) :
    Step Admission AdmissionAction
  | state, .store action => (state.pool.step action).map fun pool => { state with pool := pool }
  | state, .register =>
      match state.phase with
      | .authenticated =>
          some { state with
            pool := state.pool.begin (.add session)
            phase := .adding state.pool.calls.length }
      | _ => none
  | state, .added now =>
      match state.phase with
      | .adding call =>
          match state.pool.calls[call]? with
          | some (.addReturned _ (.ok ())) =>
              some (state.reply true (.handshakeAck session.id .success version ["basic"]) now)
          | some (.addReturned _ (.error _)) =>
              some (state.reply false (.handshakeAck session.id .tunnelIdTaken 0 []) now)
          | _ => none
      | _ => none
  | state, .pollReply now =>
      match state.phase with
      | .replying accepted future => some (state.pollReply accepted future now)
      | _ => none
  | state, .connection action =>
      if state.permits session action then
        (state.connection.step bincode action).map fun connection =>
          { state with
            connection := connection
            sent := state.sent ++ state.writes bincode action }
      else
        none

end Admission

/-! ## The client -/

/-- A handshake status as it is printed for debugging. -/
def debugStatus : HandshakeStatus → String
  | .success => "Success"
  | .invalidToken => "InvalidToken"
  | .unsupportedVersion => "UnsupportedVersion"
  | .versionMismatch => "VersionMismatch"
  | .rateLimited => "RateLimited"
  | .tunnelIdTaken => "TunnelIdTaken"

/-- What the client makes of the first frame it receives. -/
def handshakeResult : Frame → Except TunnelError Uuid
  | .handshakeAck sessionId status _ _ =>
      match status with
      | .success => .ok sessionId
      | .versionMismatch => .error (.protocol "No compatible protocol version found")
      | status => .error (.authentication s!"Handshake rejected: {debugStatus status}")
  | _ => .error (.protocol "Expected HandshakeAck")

/-- Only a frame that is no acknowledgement is unexpected. -/
theorem handshakeResult_ne_expected {frame : Frame} (ack : isHandshakeAck frame = true) :
    handshakeResult frame ≠ .error (.protocol "Expected HandshakeAck") := by
  cases frame with
  | handshakeAck sessionId status version capabilities =>
      cases status <;> simp [handshakeResult]
  | _ => cases ack

/-! ## The first frame of a batch -/

/-- The item is written first of its batch: no frame that can be encoded has a
more urgent priority, or the same and stands before it. -/
def LeadsBatch (bincode : Bincode) (batch : List PrioritizedFrame) (item : PrioritizedFrame) :
    Prop :=
  LeadsByKey (fun item => item.1.drainOrder) (fun item => isEncodable .default bincode item.2)
    batch item

variable {batch : List PrioritizedFrame}

theorem head?_flushed_eq_some_iff {bincode : Bincode} {frame : Frame} :
    (flushed .default bincode batch).head? = some frame ↔
      ∃ item, LeadsBatch bincode batch item ∧ item.2 = frame := by
  rw [flushed, List.head?_filter, List.find?_map, Option.map_eq_some_iff]
  apply exists_congr
  intro item
  exact and_congr_left fun _ => find?_insertionSort_eq_some_iff _ _ batch item

/-- A reply to a handshake is sent with the most urgent priority. -/
def RankedReply (item : PrioritizedFrame) : Prop :=
  isHandshakeAck item.2 = true → item.1 = .critical

/-- The priority of the reply is that of `priority_for_frame`; nothing else that is
queued is such a reply. -/
theorem makes_rankedReply : Link.Makes RankedReply where
  opens _ _ _ := nofun
  data _ _ _ := nofun
  closes _ _ := nofun
  sends frame _ := by
    intro ack
    cases frame with
    | handshakeAck sessionId status version capabilities => rfl
    | _ => cases ack

/-- Unless nothing of the batch can be encoded: the first Critical frame of the batch
that can be encoded is the reply to the handshake. -/
def CarriesReply (bincode : Bincode) (batch : List PrioritizedFrame) : Prop :=
  (∃ item ∈ batch, isEncodable .default bincode item.2 = true) →
    ∃ reply ∈ batch.find? fun item => isEncodable .default bincode item.2 && item.1 = .critical,
      isHandshakeAck reply.2 = true

instance (bincode : Bincode) (batch : List PrioritizedFrame) :
    Decidable (CarriesReply bincode batch) :=
  inferInstanceAs (Decidable (_ → _))

/-- No priority is more urgent than Critical, and no other is as urgent. -/
theorem drainOrder_critical_lt {priority : StreamPriority} (other : priority ≠ .critical) :
    StreamPriority.drainOrder .critical < priority.drainOrder := by
  cases priority with
  | critical => exact absurd rfl other
  | _ => decide

/-- The first Critical frame that can be encoded leads its batch. -/
theorem leadsBatch_of_find? {bincode : Bincode} {reply : PrioritizedFrame}
    (found : (batch.find? fun item =>
      isEncodable .default bincode item.2 && item.1 = .critical) = some reply) :
    LeadsBatch bincode batch reply := by
  obtain ⟨selected, before, after, rfl, none⟩ := List.find?_eq_some_iff_append.mp found
  rw [Bool.and_eq_true, decide_eq_true_eq] at selected
  refine ⟨before, after, rfl, selected.1, ?_, ?_⟩
  · intro item member encodable
    change isEncodable .default bincode item.2 = true at encodable
    have unselected := none item member
    rw [encodable, Bool.true_and, Bool.not_eq_true', decide_eq_false_iff_not] at unselected
    change reply.1.drainOrder < item.1.drainOrder
    rw [selected.2]
    exact drainOrder_critical_lt unselected
  · intro item member encodable
    change reply.1.drainOrder ≤ item.1.drainOrder
    rw [selected.2]
    exact Nat.zero_le _

/-- A batch whose replies are Critical is led by a reply exactly when it carries one
in front of its other Critical frames. -/
theorem carriesReply_iff {bincode : Bincode} (ranked : ∀ item ∈ batch, RankedReply item) :
    CarriesReply bincode batch ↔
      ∀ item, LeadsBatch bincode batch item → isHandshakeAck item.2 = true := by
  have head (item : PrioritizedFrame) := find?_insertionSort_eq_some_iff
    (fun item : PrioritizedFrame => item.1.drainOrder)
    (fun item => isEncodable .default bincode item.2) batch item
  constructor
  · intro carries item leads
    have encodable : isEncodable .default bincode item.2 = true := by
      obtain ⟨_, _, _, selected, _⟩ := leads
      exact selected
    obtain ⟨reply, found, ack⟩ := carries ⟨item, leads.mem, encodable⟩
    have first := (head reply).mpr (leadsBatch_of_find? found)
    rw [(head item).mpr leads] at first
    cases first
    exact ack
  · rintro leads ⟨item, member, encodable⟩
    -- the sorted batch has a first frame that can be encoded, and it is a reply
    cases found : (batch.insertionSort
        fun a b => a.1.drainOrder ≤ b.1.drainOrder).find?
          fun item => isEncodable .default bincode item.2 with
    | none =>
        have sorted := List.find?_eq_none.mp found item ((List.mem_insertionSort _).mpr member)
        exact absurd encodable sorted
    | some reply =>
        have leading : LeadsBatch bincode batch reply := (head reply).mp found
        have ack := leads reply leading
        have critical := ranked reply leading.mem ack
        refine ⟨reply, ?_, ack⟩
        obtain ⟨before, after, rfl, selected, below, -⟩ := leading
        apply List.find?_eq_some_iff_append.mpr
        refine ⟨by simp [selected, critical], before, after, rfl, ?_⟩
        intro other earlier
        by_cases urgent : other.1 = .critical
        · have unselected : isEncodable .default bincode other.2 = false := by
            by_contra selected
            have less : reply.1.drainOrder < other.1.drainOrder :=
              below other earlier (by simpa using selected)
            rw [urgent, critical] at less
            exact absurd less (Nat.lt_irrefl _)
          simp [unselected]
        · simp [urgent]

/-! ## What has been written -/

namespace Admission

/-- What the client has received, and what it will receive unless the connection
fails, are the frames written, in order. -/
structure Delivers (bincode : Bincode) (state : Admission) : Prop where
  bytes : ∃ ahead, (state.connection.endpoint .client).received ++
      (state.connection.wire .server ++ ahead) = state.sent.flatMap (wireImage bincode) ∧
    ((state.connection.endpoint .server).sender ≠ .stopped →
      ahead = (state.connection.endpoint .server).sender.unwritten)
  encodable : ∀ frame ∈ state.sent, isEncodable .default bincode frame = true

theorem delivers_initial (bincode : Bincode) : initial.Delivers bincode where
  bytes := ⟨[], rfl, fun _ => rfl⟩
  encodable := nofun

/-- Only the sender's own receive moves the sender. -/
theorem sender_step {bincode : Bincode} {endpoint next : Link.Endpoint} {action : EndpointAction}
    (other : action ≠ .collect) (stepEq : endpoint.step bincode action = some next) :
    next.sender = endpoint.sender := by
  cases action with
  | collect => exact absurd rfl other
  | dropOpen chan =>
      obtain ⟨call, -, rfl⟩ := Option.map_eq_some_iff.mp stepEq
      rfl
  | resume =>
      obtain ⟨mux, -, rfl⟩ := Option.map_eq_some_iff.mp stepEq
      rfl
  | _ =>
      simp only [Link.Endpoint.step, Link.Endpoint.openStream, Link.Endpoint.pollOpen,
        Link.Endpoint.pollWrite, Link.Endpoint.pollShutdown, Link.Endpoint.sendFrame,
        Link.Endpoint.decode, Link.Endpoint.accept, Link.Endpoint.pollRead,
        Link.Endpoint.dropStream] at stepEq
      repeat' split at stepEq
      all_goals cases stepEq
      all_goals rfl

/-- The bytes the sender holds after a receive are those of the batch it
flushed. -/
theorem unwritten_collect {bincode : Bincode} {state : Admission}
    {frames : List PrioritizedFrame} {yielded : Bool}
    (collecting : (state.connection.endpoint .server).sender = .collecting frames yielded) :
    (collect .default bincode (state.connection.endpoint .server).outbox false frames
        yielded).1.unwritten =
      (flushed .default bincode (state.flushing bincode)).flatMap (wireImage bincode) := by
  rcases collected : collect .default bincode (state.connection.endpoint .server).outbox false
    frames yielded with ⟨task, rest⟩
  simp only [flushing, collecting, collected]
  rcases collect_cases _ _ _ _ collected with ⟨moved, flag, rfl, -⟩ | ⟨rfl, -⟩ | ⟨rfl, rfl, -⟩
  · split
    · rename_i empty
      have nothing : frames ++ moved = [] := List.isEmpty_iff.mp empty
      rw [(List.append_eq_nil_iff.mp nothing).1]
      rfl
    · rfl
  · rw [flushBatch_batch, flushBatch_unwritten]
    rfl
  · rfl

section Steps

variable {bincode : Bincode} {state next : Admission}

/-- The bytes on their way and the sender are the same, and nothing was written. -/
structure SendsNothing (state next : Admission) : Prop where
  received : (next.connection.endpoint .client).received =
    (state.connection.endpoint .client).received
  wire : next.connection.wire .server = state.connection.wire .server
  sender : (next.connection.endpoint .server).sender = (state.connection.endpoint .server).sender
  sent : next.sent = state.sent

variable {session : Session Unit} {action : AdmissionAction}

/-- A step of `handle_connection` itself queues at most its reply. -/
theorem sendsNothing_step {version : UInt8} (own : ∀ inner, action ≠ .connection inner)
    (stepEq : state.step bincode session version action = some next) : state.SendsNothing next := by
  cases action with
  | connection inner => exact absurd rfl (own inner)
  | store action =>
      obtain ⟨pool, -, rfl⟩ := Option.map_eq_some_iff.mp stepEq
      exact ⟨rfl, rfl, rfl, rfl⟩
  | _ =>
      simp only [step, Admission.pollReply] at stepEq
      repeat' split at stepEq
      all_goals cases stepEq
      all_goals exact ⟨rfl, rfl, rfl, rfl⟩

theorem Delivers.of_sendsNothing (delivers : state.Delivers bincode)
    (same : state.SendsNothing next) : next.Delivers bincode := by
  obtain ⟨⟨ahead, bytes, unwritten⟩, encodable⟩ := delivers
  refine ⟨⟨ahead, ?_, ?_⟩, ?_⟩
  · rw [same.received, same.wire, same.sent]
    exact bytes
  · rw [same.sender]
    exact unwritten
  · rw [same.sent]
    exact encodable

/-- A receive of the sender writes out what it flushes. -/
theorem Delivers.collect (delivers : state.Delivers bincode) {endpoint : Link.Endpoint}
    (collected : (state.connection.endpoint .server).collect bincode = some endpoint)
    (nextEq : next = { state with
      connection := state.connection.setEndpoint .server endpoint
      sent := state.sent ++ flushed .default bincode (state.flushing bincode) }) :
    next.Delivers bincode := by
  obtain ⟨⟨ahead, bytes, unwritten⟩, encodable⟩ := delivers
  subst nextEq
  simp only [Link.Endpoint.collect] at collected
  split at collected
  · rename_i frames yielded collecting
    cases collected
    have running : (state.connection.endpoint .server).sender ≠ .stopped := by
      rw [collecting]
      rintro ⟨⟩
    obtain rfl : ahead = [] := by
      rw [unwritten running, collecting]
      rfl
    refine ⟨⟨(flushed .default bincode (state.flushing bincode)).flatMap (wireImage bincode),
      ?_, fun _ => (unwritten_collect collecting).symm⟩, ?_⟩
    · rw [List.append_nil] at bytes
      rw [List.flatMap_append, ← bytes, List.append_assoc]
      rfl
    · intro frame member
      rcases List.mem_append.mp member with before | new
      · exact encodable frame before
      · exact Link.isEncodable_of_mem_flushed new
  · cases collected

/-- A write moves bytes from the sender to the wire. -/
theorem Delivers.write (delivers : state.Delivers bincode) {written : Nat}
    {connection : Link.Connection}
    (stepEq : state.connection.write .server written = some connection)
    (nextEq : next = { state with connection := connection }) : next.Delivers bincode := by
  obtain ⟨⟨ahead, bytes, unwritten⟩, encodable⟩ := delivers
  subst nextEq
  simp only [Link.Connection.write] at stepEq
  split at stepEq
  · rename_i cursor writing
    have running : (state.connection.endpoint .server).sender ≠ .stopped := by
      rw [writing]
      rintro ⟨⟩
    obtain rfl : ahead = cursor.unwritten := by
      rw [unwritten running, writing]
      rfl
    rcases cursor.turn_cases written with ⟨turnEq, done⟩ | ⟨after, turnEq, left⟩ | ⟨error, turnEq⟩
    · rw [turnEq] at stepEq
      cases stepEq
      exact ⟨⟨cursor.unwritten, bytes, fun _ => done⟩, encodable⟩
    · rw [turnEq] at stepEq
      cases stepEq
      refine ⟨⟨after.unwritten, ?_, fun _ => rfl⟩, encodable⟩
      have wireEq : Function.update state.connection.wire .server
          (state.connection.wire .server ++ cursor.unwritten.take written) .server =
          state.connection.wire .server ++ cursor.unwritten.take written :=
        Function.update_self ..
      rw [← bytes]
      simp only [wireEq, left, List.append_assoc, List.take_append_drop]
      rfl
    · rw [turnEq] at stepEq
      cases stepEq
      exact ⟨⟨cursor.unwritten, bytes, fun running => absurd rfl running⟩, encodable⟩
  · cases stepEq

/-- Bytes arrive at the client in order. -/
theorem Delivers.transfer (delivers : state.Delivers bincode) {count : Nat}
    {connection : Link.Connection}
    (stepEq : state.connection.step bincode (.transfer .server count) = some connection)
    (nextEq : next = { state with connection := connection }) : next.Delivers bincode := by
  obtain ⟨⟨ahead, bytes, unwritten⟩, encodable⟩ := delivers
  subst nextEq
  cases stepEq
  refine ⟨⟨ahead, ?_, unwritten⟩, encodable⟩
  let wire := state.connection.wire .server
  let received := (state.connection.endpoint .client).received
  change (received ++ wire.take count) ++ (wire.drop count ++ ahead) =
    state.sent.flatMap (wireImage bincode)
  calc
    (received ++ wire.take count) ++ (wire.drop count ++ ahead) =
        received ++ (wire.take count ++ wire.drop count ++ ahead) := by
      simp only [List.append_assoc]
    _ = received ++ (wire ++ ahead) := by rw [List.take_append_drop]
    _ = state.sent.flatMap (wireImage bincode) := bytes

theorem Delivers.connection (delivers : state.Delivers bincode) {session : Session Unit}
    {action : Link.Action} {connection : Link.Connection}
    (permitted : state.permits session action = true)
    (stepEq : state.connection.step bincode action = some connection)
    (nextEq : next = { state with
      connection := connection
      sent := state.sent ++ state.writes bincode action }) : next.Delivers bincode := by
  have quiet : state.writes bincode action = [] →
      next = { state with connection := connection } := by
    intro nothing
    rw [nextEq, nothing, List.append_nil]
  cases action with
  | endpoint side action =>
      cases side with
      | client => cases permitted
      | server =>
          obtain ⟨endpoint, endpointEq, rfl⟩ := Option.map_eq_some_iff.mp stepEq
          by_cases collects : action = .collect
          · subst collects
            exact delivers.collect endpointEq nextEq
          · have nothing : state.writes bincode (.endpoint .server action) = [] := by
              cases action <;> first | rfl | exact absurd rfl collects
            rw [quiet nothing]
            exact delivers.of_sendsNothing ⟨rfl, rfl, sender_step collects endpointEq, rfl⟩
  | write side written =>
      obtain rfl : side = .server := of_decide_eq_true permitted
      exact delivers.write stepEq (quiet rfl)
  | writeError side =>
      obtain rfl : side = .server := of_decide_eq_true permitted
      rw [quiet rfl]
      obtain ⟨⟨ahead, bytes, -⟩, encodable⟩ := delivers
      simp only [Link.Connection.step] at stepEq
      split at stepEq <;> cases stepEq
      exact ⟨⟨ahead, bytes, fun running => absurd rfl running⟩, encodable⟩
  | transfer side count =>
      obtain rfl : side = .server := of_decide_eq_true permitted
      exact delivers.transfer stepEq (quiet rfl)

/-- What a step writes is added to what was written. -/
theorem step_sent {version : UInt8}
    (stepEq : state.step bincode session version action = some next) :
    next.sent = state.sent ++ state.wrote bincode action := by
  cases action with
  | connection action =>
      simp only [step] at stepEq
      split at stepEq
      · obtain ⟨connection, -, rfl⟩ := Option.map_eq_some_iff.mp stepEq
        rfl
      · cases stepEq
  | _ => exact (sendsNothing_step (by simp) stepEq).sent.trans (List.append_nil _).symm

theorem Delivers.step {version : UInt8} (delivers : state.Delivers bincode)
    (stepEq : state.step bincode session version action = some next) : next.Delivers bincode := by
  cases action with
  | connection action =>
      simp only [Admission.step] at stepEq
      split at stepEq
      · rename_i permitted
        obtain ⟨connection, connectionEq, rfl⟩ := Option.map_eq_some_iff.mp stepEq
        exact delivers.connection permitted connectionEq rfl
      · cases stepEq
  | _ => exact delivers.of_sendsNothing (sendsNothing_step (by simp) stepEq)

end Steps

/-! ## The priority of the reply -/

/-- Every reply to a handshake that is queued, or waits to be, is Critical. -/
structure Ranked (state : Admission) : Prop where
  frames : ∀ side, Link.Holds RankedReply (state.connection.endpoint side)
  reply : ∀ accepted future, state.phase = .replying accepted future → RankedReply future.item

theorem ranked_initial : initial.Ranked where
  frames side := Link.holds_initial RankedReply (side = .client)
  reply := by rintro _ _ ⟨⟩

section Ranks

variable {bincode : Bincode} {state next : Admission}

theorem Ranked.pollReply (ranked : state.Ranked) {accepted : Bool} {future : SendFuture}
    (replying : state.phase = .replying accepted future) (now : Nat) :
    (state.pollReply accepted future now).Ranked := by
  have holds := ranked.frames .server
  have polled := Link.poll_allowed (ranked.reply accepted future replying) holds.outbox now
  have entered {outbox : Channel.Bounded PrioritizedFrame}
      (queue : ∀ item ∈ outbox.queue, RankedReply item) (side : Side) :
      Link.Holds RankedReply ((state.connection.setEndpoint .server
        { state.connection.endpoint .server with outbox := outbox }).endpoint side) := by
    apply Link.Connection.setEndpoint_forall ranked.frames
    exact ⟨holds.queued_of_outbox rfl queue, holds.opening, holds.handled, holds.waiting⟩
  simp only [Admission.pollReply]
  split <;> rename_i pollEq <;> rw [pollEq] at polled
  · refine ⟨entered polled.1, ?_⟩
    rintro _ _ ⟨⟩
    exact polled.2 rfl
  · refine ⟨entered polled.1, ?_⟩
    cases accepted <;> rintro _ _ ⟨⟩
  · refine ⟨entered polled.1, ?_⟩
    rintro _ _ ⟨⟩

theorem Ranked.step {session : Session Unit} {version : UInt8} {action : AdmissionAction}
    (ranked : state.Ranked) (stepEq : state.step bincode session version action = some next) :
    next.Ranked := by
  cases action with
  | store action =>
      obtain ⟨pool, -, rfl⟩ := Option.map_eq_some_iff.mp stepEq
      exact ⟨ranked.frames, ranked.reply⟩
  | register =>
      simp only [Admission.step] at stepEq
      split at stepEq <;> cases stepEq
      exact ⟨ranked.frames, by rintro _ _ ⟨⟩⟩
  | added now =>
      simp only [Admission.step] at stepEq
      split at stepEq
      · split at stepEq <;> cases stepEq
        · refine ⟨ranked.frames, ?_⟩
          rintro _ _ ⟨⟩ _
          rfl
        · refine ⟨ranked.frames, ?_⟩
          rintro _ _ ⟨⟩ _
          rfl
      · cases stepEq
  | pollReply now =>
      simp only [Admission.step] at stepEq
      split at stepEq <;> cases stepEq
      next replying => exact ranked.pollReply replying now
  | connection action =>
      simp only [Admission.step] at stepEq
      split at stepEq
      · obtain ⟨connection, connectionEq, rfl⟩ := Option.map_eq_some_iff.mp stepEq
        exact ⟨Link.holds_step makes_rankedReply ranked.frames connectionEq, ranked.reply⟩
      · cases stepEq

end Ranks

/-! ## The first frame of the connection -/

/-- The first frame written to the client is the reply to its handshake. -/
def RepliesFirst (state : Admission) : Prop :=
  ∀ frame ∈ state.sent.head?, isHandshakeAck frame = true

/-- The client, which reads one frame from the bytes that have arrived, does not
miss the reply to its handshake. -/
def ClientExpects (bincode : Bincode) (state : Admission) : Prop :=
  ∀ frame rest, TunnelCodec.default.decode bincode
      (state.connection.endpoint .client).received = (.ok (some frame), rest) →
    handshakeResult frame ≠ .error (.protocol "Expected HandshakeAck")

/-- The sender flushes the batch with its next receive: the batch is full, or the wire
channel is empty and the sender has yielded, or does not yield for a single frame. -/
def FlushesNow (batch : List PrioritizedFrame) (yielded : Bool) (queue : List PrioritizedFrame) :
    Prop :=
  batch ≠ [] ∧ (MAX_BATCH_SIZE ≤ batch.length ∨
    queue = [] ∧ (batch.length < MIN_FRAMES_FOR_BATCHING ∨ yielded = true))

instance (batch : List PrioritizedFrame) (yielded : Bool) (queue : List PrioritizedFrame) :
    Decidable (FlushesNow batch yielded queue) :=
  inferInstanceAs (Decidable (_ ∧ _))

/-- If the step flushes a batch before anything was written, the batch carries the
reply to the handshake. -/
def ReplyInBatch (bincode : Bincode) (state : Admission) : AdmissionAction → Prop
  | .connection (.endpoint .server .collect) =>
      match (state.connection.endpoint .server).sender with
      | .collecting batch yielded =>
          state.sent = [] →
            FlushesNow batch yielded (state.connection.endpoint .server).outbox.queue →
              CarriesReply bincode batch
      | _ => True
  | _ => True

instance (bincode : Bincode) (state : Admission) (action : AdmissionAction) :
    Decidable (state.ReplyInBatch bincode action) := by
  unfold ReplyInBatch
  split
  · split <;> infer_instance
  · infer_instance

/-- A receive leaves no batch exactly when it flushes the one there is. -/
theorem isEmpty_collect_iff (bincode : Bincode) {batch : List PrioritizedFrame}
    (some : batch ≠ []) (channel : Channel.Bounded PrioritizedFrame) (yielded : Bool) :
    (collect .default bincode channel false batch yielded).1.batch.isEmpty = true ↔
      FlushesNow batch yielded channel.queue := by
  rw [collect, if_neg (by simpa using some), FlushesNow]
  simp only [some, ne_eq, not_false_eq_true, true_and]
  split
  · next room =>
    have notFull : ¬ MAX_BATCH_SIZE ≤ batch.length := by omega
    simp only [notFull, false_or]
    rcases channel.tryRecv_cases with ⟨none, nothing⟩ | ⟨frame, left, queueEq, taken, -⟩
    · rw [nothing]
      simp only [none, true_and]
      split
      · next waits =>
        simp only [Bool.and_eq_true, decide_eq_true_eq, Bool.not_eq_true'] at waits
        have many : ¬ batch.length < MIN_FRAMES_FOR_BATCHING := not_lt.mpr waits.1
        simp [SenderTask.batch, some, waits.2, many]
      · next flushes =>
        simp only [Bool.and_eq_true, decide_eq_true_eq, Bool.not_eq_true', not_and,
          Bool.not_eq_false] at flushes
        rw [flushBatch_batch]
        simp only [List.isEmpty_nil, true_iff]
        by_cases many : MIN_FRAMES_FOR_BATCHING ≤ batch.length
        · exact .inr (flushes many)
        · exact .inl (Nat.lt_of_not_le many)
    · rcases received : channel.tryRecv with ⟨item, remaining⟩
      rw [received] at taken
      cases taken
      simp [SenderTask.batch, queueEq]
  · next full =>
    rw [flushBatch_batch]
    simp only [List.isEmpty_nil, true_iff]
    exact .inl (Nat.le_of_not_lt full)

/-- What is flushed is the batch, when it is flushed now. -/
theorem flushing_eq (bincode : Bincode) {state : Admission} {batch : List PrioritizedFrame}
    {yielded : Bool}
    (collecting : (state.connection.endpoint .server).sender = .collecting batch yielded) :
    state.flushing bincode =
      if FlushesNow batch yielded (state.connection.endpoint .server).outbox.queue then batch
      else [] := by
  simp only [flushing, collecting]
  by_cases some : batch = []
  · subst some
    simp
  · exact if_congr (isEmpty_collect_iff bincode some _ _) rfl rfl

section Runs

variable {bincode : Bincode} {session : Session Unit} {version : UInt8} {state next : Admission}
  {action : AdmissionAction}

/-- While nothing is written: the step meets the condition exactly when what it writes
begins with a reply, because replies are Critical. -/
theorem replyInBatch_iff (ranked : state.Ranked) (nothing : state.sent = []) :
    state.ReplyInBatch bincode action ↔
      ∀ frame ∈ (state.wrote bincode action).head?, isHandshakeAck frame = true := by
  unfold ReplyInBatch
  split
  · split
    · next batch yielded collecting =>
      have batched : ∀ item ∈ batch, RankedReply item := by
        intro item member
        apply (ranked.frames .server).queued item
        rw [Link.Endpoint.unencoded, collecting]
        exact List.mem_append_left _ member
      rw [wrote, writes, flushing_eq bincode collecting]
      split
      · next flushes =>
        simp only [nothing, flushes, true_imp_iff, carriesReply_iff batched]
        constructor
        · intro leads frame head
          obtain ⟨item, leadsBatch, rfl⟩ := head?_flushed_eq_some_iff.mp head
          exact leads item leadsBatch
        · intro first item leadsBatch
          exact first item.2 (head?_flushed_eq_some_iff.mpr ⟨item, leadsBatch, rfl⟩)
      · next keeps => exact ⟨by rintro - _ ⟨⟩, fun _ _ flushes => absurd flushes keeps⟩
    · next other =>
      have quiet : state.flushing bincode = [] := by
        cases sender : (state.connection.endpoint .server).sender with
        | collecting batch yielded => exact (other batch yielded sender).elim
        | _ => simp only [flushing, sender]
      rw [wrote, writes, quiet]
      exact ⟨by rintro - _ ⟨⟩, fun _ => trivial⟩
  · next others =>
    have quiet : state.wrote bincode action = [] := by
      unfold wrote writes
      split
      · split
        · exact absurd rfl others
        · rfl
      · rfl
    rw [quiet]
    exact ⟨by rintro - _ ⟨⟩, fun _ => trivial⟩

theorem RepliesFirst.step (ranked : state.Ranked) (first : state.RepliesFirst)
    (carries : state.ReplyInBatch bincode action)
    (stepEq : state.step bincode session version action = some next) : next.RepliesFirst := by
  rw [RepliesFirst, step_sent stepEq]
  cases sentEq : state.sent with
  | nil => exact (replyInBatch_iff ranked sentEq).mp carries
  | cons frame rest =>
      rw [RepliesFirst, sentEq] at first
      exact first

/-- If the first frame written is the reply, the first batch carries it. -/
theorem RepliesFirst.replyInBatch (ranked : state.Ranked) (first : next.RepliesFirst)
    (stepEq : state.step bincode session version action = some next) :
    state.ReplyInBatch bincode action := by
  rw [RepliesFirst, step_sent stepEq] at first
  cases sentEq : state.sent with
  | nil =>
      rw [sentEq] at first
      exact (replyInBatch_iff ranked sentEq).mpr first
  | cons frame rest =>
      have written : state.sent ≠ [] := by
        rw [sentEq]
        exact List.cons_ne_nil _ _
      unfold ReplyInBatch
      split
      · split
        · exact fun nothing => absurd nothing written
        · trivial
      · trivial

/-- The client decodes the first frame that was written. -/
theorem RepliesFirst.clientExpects (first : state.RepliesFirst)
    (delivers : state.Delivers bincode) (inverts : bincode.Inverts) :
    state.ClientExpects bincode := by
  intro frame rest decoded
  obtain ⟨⟨ahead, bytes, -⟩, encodable⟩ := delivers
  obtain ⟨later, sentEq, -⟩ := Link.decode_wireImages inverts encodable bytes decoded
  rw [RepliesFirst, sentEq] at first
  exact handshakeResult_ne_expected (first frame rfl)

end Runs

/-- In every interleaving of the registration of a session, ingress tasks that
find it and open streams, and the sender with any batches: in every state, the
first frame written to the client is the reply to its handshake, and the client
finds no other frame in its place, if and only if every batch that is flushed before
anything was written carries the reply in front of its other Critical frames. -/
theorem handshake_reply_first_iff (bincode : Bincode) (inverts : bincode.Inverts)
    (session : Session Unit) (version : UInt8) (actions : List AdmissionAction)
    (state : Admission) (run : exec (step bincode session version) initial actions = some state) :
    Always (step bincode session version)
        (fun state => state.RepliesFirst ∧ state.ClientExpects bincode) initial actions ↔
      Meets (step bincode session version) (ReplyInBatch bincode) initial actions := by
  have preserved : ∀ {current : Admission} {action next},
      current.Delivers bincode ∧ current.Ranked ∧ current.RepliesFirst → True →
      current.ReplyInBatch bincode action →
      current.step bincode session version action = some next →
      next.Delivers bincode ∧ next.Ranked ∧ next.RepliesFirst := by
    rintro current action next ⟨delivers, ranked, first⟩ - carries stepEq
    exact ⟨delivers.step stepEq, ranked.step stepEq, first.step ranked carries stepEq⟩
  refine (meets_iff_always preserved ?_ ?_ ⟨delivers_initial bincode, ranked_initial, nofun⟩ run
    (.of_forall (fun _ _ => trivial) _ _)).symm
  · rintro current ⟨delivers, -, first⟩
    exact ⟨first, first.clientExpects delivers inverts⟩
  · rintro current action next ⟨-, ranked, -⟩ stepEq ⟨first, -⟩
    exact first.replyInBatch ranked stepEq

/-- The session of the runs below. -/
def appSession : Session Unit :=
  ⟨1, "app", 0, [], some ()⟩

/-- The session is registered, and an ingress task finds it and opens a stream. -/
def openedByIngress : List AdmissionAction :=
  [.register, .store (.advance 0 none), .store (.advance 0 none),
   .store (.start (.getByTunnelId "app")), .store (.advance 1 none), .store (.advance 1 none),
   .connection (.endpoint .server (.openStream .tcp .normal 0)),
   .connection (.endpoint .server (.pollOpen 0 0))]

/-- The reply is queued behind the stream's opening, and both are in one batch. -/
def replyInFirstBatch : List AdmissionAction :=
  openedByIngress ++ [.added 0, .pollReply 0] ++
    List.replicate 4 (.connection (.endpoint .server .collect))

theorem handshake_reply_first_iff_firstBatch :
    (exec (step (.standard .sorted) appSession 1) initial replyInFirstBatch).map
        (fun state => (state.sent.map isHandshakeAck, state.phase)) =
      some ([true, false], .established) ∧
    Always (step (.standard .sorted) appSession 1)
      (fun state => state.RepliesFirst ∧ state.ClientExpects (.standard .sorted))
      initial replyInFirstBatch := by
  have values : (exec (step (.standard .sorted) appSession 1) initial replyInFirstBatch).map
      (fun state => (state.sent.map isHandshakeAck, state.phase)) =
      some ([true, false], .established) := by
    decide +kernel
  have carries : Meets (step (.standard .sorted) appSession 1)
      (ReplyInBatch (.standard .sorted)) initial replyInFirstBatch := by
    decide +kernel
  obtain ⟨state, run, _⟩ := Option.map_eq_some_iff.mp values
  exact ⟨values, (handshake_reply_first_iff _ Bincode.standard_inverts appSession 1 _
    state run).mpr carries⟩

/-- The sender flushes the opening of the stream before the reply is queued. -/
def openedBeforeReply : List AdmissionAction :=
  openedByIngress ++ List.replicate 2 (.connection (.endpoint .server .collect)) ++
    [.added 0, .pollReply 0, .connection (.write .server 1000),
     .connection (.transfer .server 1000)]

/-- The server then considers the session established, while the client's
handshake fails on the first frame it receives. -/
theorem openedBeforeReply_rejected :
    (exec (step (.standard .sorted) appSession 1) initial openedBeforeReply).map
      (fun state => (state.sent, state.phase,
        match TunnelCodec.default.decode (.standard .sorted)
          (state.connection.endpoint .client).received with
        | (.ok (some frame), _) => some (handshakeResult frame)
        | _ => none)) =
      some ([Multiplexer.openFrame 2 .tcp .normal], .established,
        some (.error (.protocol "Expected HandshakeAck"))) := by
  decide +kernel

end Admission

end FerroTunnel.Tunnel
