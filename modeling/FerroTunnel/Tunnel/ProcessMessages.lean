import FerroTunnel.RateLimit.SessionRateLimiter
import FerroTunnel.Tunnel.Server
import FerroTunnel.Wire.ContentLimits

/-!
# The message loop of a session

`process_messages` takes the decoded frames of a TCP connection one by one.  It
answers heartbeats itself, denies stream opens over the session's limit, makes
data over the byte budget wait, and hands everything else to the multiplexer.
The model records what the loop hands over and what it sends; what it charges is
the record of governor.  What the store, the clock and the wire channel answer in
a turn is given with the turn.
-/

namespace FerroTunnel.Tunnel

open FerroTunnel.RateLimit
open FerroTunnel.Wire

universe u

/-- Milliseconds as the wire format has them. -/
def clampU128ToU64 (i : Nat) : UInt64 :=
  UInt64.ofNat (min i (2 ^ 64 - 1))

/-- One turn of the loop: the frame; whether the session is in the store, at the
start of the turn and while data waits; the time; and the result of a send on the
wire channel. -/
structure MessageTurn where
  frame : Frame
  stored : Bool
  storedMeanwhile : Bool
  now : Nat
  sendResult : Except TunnelError Unit

/-- What the loop has done: the frames handed to `process_frame`, the frames sent,
the state of governor, how often the heartbeat was refreshed, and whether the
session was removed. -/
structure MessageLoop (γ : Type u) where
  handed : List Frame
  sent : List Frame
  governor : γ
  refreshed : Nat
  removed : Bool

namespace MessageLoop

variable {γ : Type u}

/-- Before the first frame. -/
def start (governor : γ) : MessageLoop γ := ⟨[], [], governor, 0, false⟩

/-- Send a frame on the wire channel. -/
def sendFrame (loop : MessageLoop γ) (result : Except TunnelError Unit) (frame : Frame) :
    Except TunnelError Unit × MessageLoop γ :=
  match result with
  | .ok () => (.ok (), { loop with sent := loop.sent ++ [frame] })
  | .error error => (.error error, loop)

/-- Enforce the rate limits of the session: whether the frame goes on. -/
def enforce (limiter : SessionRateLimiter γ) (loop : MessageLoop γ) (turn : MessageTurn) :
    Bool × MessageLoop γ :=
  match turn.frame with
  | .openStream openStream =>
      match limiter.checkStreamOpen loop.governor with
      | (.error _, governor) =>
          -- The result of the send is ignored.
          (false, (sendFrame { loop with governor := governor } turn.sendResult
            (.closeStream openStream.streamId (.error "rate limited"))).2)
      | (.ok (), governor) => (true, { loop with governor := governor })
  | .data _ data _ =>
      match limiter.checkData data.length loop.governor with
      | (.error _, governor) =>
          -- Touch the heartbeat so a long throttle is not evicted as stale.
          let touch := fun refreshed => if turn.storedMeanwhile then refreshed + 1 else refreshed
          let throttled := limiter.throttleData touch data.length governor loop.refreshed
          (true, { loop with
            governor := throttled.governor
            refreshed := throttled.progress })
      | (.ok (), governor) => (true, { loop with governor := governor })
  | _ => (true, loop)

/-- Answer a heartbeat, or hand the frame to the multiplexer. -/
def dispatch (loop : MessageLoop γ) (turn : MessageTurn) :
    Except TunnelError Unit × MessageLoop γ :=
  match turn.frame with
  | .heartbeat _ => loop.sendFrame turn.sendResult (.heartbeatAck (clampU128ToU64 turn.now))
  | frame => (.ok (), { loop with handed := loop.handed ++ [frame] })

/-- Handle one decoded frame. -/
def handle (rateLimiter : Option (SessionRateLimiter γ)) (loop : MessageLoop γ)
    (turn : MessageTurn) : Except TunnelError Unit × MessageLoop γ :=
  if turn.stored then
    let touched := { loop with refreshed := loop.refreshed + 1 }
    match rateLimiter with
    | none => touched.dispatch turn
    | some limiter =>
        match touched.enforce limiter turn with
        | (false, next) => (.ok (), next)
        | (true, next) => next.dispatch turn
  else
    -- Session removed (shutdown/timeout)
    (.error (.protocol "Session not found"), loop)

/-- `process_messages`: until the connection ends, a frame does not decode, or a
turn fails. -/
def processMessages (rateLimiter : Option (SessionRateLimiter γ)) (loop : MessageLoop γ) :
    List (Except TunnelError MessageTurn) → Except TunnelError Unit × MessageLoop γ
  | [] => (.ok (), { loop with removed := true })
  | .error error :: _ => (.error error, loop)
  | .ok turn :: rest =>
      match loop.handle rateLimiter turn with
      | (.ok (), next) => next.processMessages rateLimiter rest
      | (.error error, next) => (.error error, next)

end MessageLoop

/-! ## What a turn leaves -/

/-- The length of the payload of a data frame. -/
def MessageTurn.payloadBytes (turn : MessageTurn) : Nat :=
  match turn.frame with
  | .data _ data _ => data.length
  | _ => 0

/-- A turn with the answer of the check that its stream open got; other turns get no
check. -/
structure JudgedTurn extends MessageTurn where
  verdict : Except NotUntil Unit

namespace JudgedTurn

/-- The check of the turn, when there is one. -/
def verdict? (turn : JudgedTurn) : Option (Except NotUntil Unit) :=
  match turn.frame with
  | .openStream _ => some turn.verdict
  | _ => none

/-- The turn is a stream open that the limiter refuses. -/
def denied (turn : JudgedTurn) : Bool :=
  match turn.verdict? with
  | some (.error _) => true
  | _ => false

/-- The frame that answers the turn: the close of a denied stream, or the
acknowledgement of a heartbeat. -/
def reply (turn : JudgedTurn) : Option Frame :=
  match turn.frame with
  | .openStream openStream =>
      if turn.denied then
        some (.closeStream openStream.streamId (.error "rate limited"))
      else
        none
  | .heartbeat _ => some (.heartbeatAck (clampU128ToU64 turn.now))
  | _ => none

/-- The frame goes to the multiplexer. -/
def handsOver (turn : JudgedTurn) : Bool :=
  !Phase.isHeartbeat turn.frame && !turn.denied

end JudgedTurn

/-- The turns hand over, send and charge exactly what their frames call for, and the
verdicts are those that governor has given. -/
structure Handled {γ : Type u} (turns : List JudgedTurn)
    (before after : MessageLoop (Metered γ)) : Prop where
  verdicts : after.governor.verdicts =
    before.governor.verdicts ++ turns.filterMap JudgedTurn.verdict?
  handed : after.handed = before.handed ++ (turns.filter (·.handsOver)).map (·.frame)
  sent : after.sent = before.sent ++ turns.filterMap JudgedTurn.reply
  charged : after.governor.charged =
    before.governor.charged + (turns.map (·.payloadBytes)).sum

section Turns

variable {γ : Type u}

theorem Handled.nil (loop : MessageLoop (Metered γ)) : Handled [] loop loop := by
  constructor <;> simp

theorem Handled.cons {turn : JudgedTurn} {turns : List JudgedTurn}
    {before middle after : MessageLoop (Metered γ)} (first : Handled [turn] before middle)
    (rest : Handled turns middle after) : Handled (turn :: turns) before after := by
  constructor
  · rw [rest.verdicts, first.verdicts, List.append_assoc, ← List.filterMap_append]
    rfl
  · rw [rest.handed, first.handed, List.append_assoc, ← List.map_append, ← List.filter_append]
    rfl
  · rw [rest.sent, first.sent, List.append_assoc, ← List.filterMap_append]
    rfl
  · rw [rest.charged, first.charged, Nat.add_assoc, List.map_cons, List.sum_cons]
    simp

/-- A turn that asks the limiter nothing. -/
theorem Handled.unchecked {turn : JudgedTurn} {before after : MessageLoop (Metered γ)}
    (same : after.governor = before.governor) (none : turn.verdict? = none)
    (handed : after.handed = before.handed ++ ([turn].filter (·.handsOver)).map (·.frame))
    (sent : after.sent = before.sent ++ [turn].filterMap JudgedTurn.reply)
    (free : turn.payloadBytes = 0) : Handled [turn] before after := by
  constructor
  · simp [same, none]
  · exact handed
  · exact sent
  · simp [same, free]

namespace MessageLoop

variable (limiter : SessionRateLimiter γ)

/-- One turn with a stored session and a working wire channel. -/
theorem handle_handled (grants : limiter.bytesLimiter.Grants limiter.bytesBurst)
    (loop : MessageLoop (Metered γ)) {turn : MessageTurn} (stored : turn.stored)
    (sends : turn.sendResult = .ok ()) (small : turn.payloadBytes < 2 ^ 32) :
    ∃ verdict next, loop.handle (some limiter.metered) turn = (.ok (), next) ∧
      Handled [⟨turn, verdict⟩] loop next := by
  rcases turn with ⟨frame, _, storedMeanwhile, now, _⟩
  cases stored
  cases sends
  cases frame with
  | openStream openStream =>
      -- the verdict is the answer of the stream quota, which is recorded
      simp only [handle, enforce, if_true, SessionRateLimiter.checkStreamOpen,
        SessionRateLimiter.metered, RateLimiter.metered]
      rcases limiter.streamLimiter.check loop.governor.governor with ⟨refused | ⟨⟨⟩⟩, _⟩
      · refine ⟨.error refused, _, rfl, ?_, (List.append_nil _).symm, rfl, ?_⟩
        · simp [sendFrame, Metered.verdicts, LimiterCall.verdict?, JudgedTurn.verdict?]
        · simp [sendFrame, Metered.charged, LimiterCall.charged, MessageTurn.payloadBytes]
      · refine ⟨.ok (), _, rfl, ?_, rfl, (List.append_nil _).symm, ?_⟩
        · simp [Metered.verdicts, LimiterCall.verdict?, JudgedTurn.verdict?]
        · simp [Metered.charged, LimiterCall.charged, MessageTurn.payloadBytes]
  | heartbeat timestamp =>
      exact ⟨.ok (), _, rfl, .unchecked rfl rfl (List.append_nil _).symm rfl rfl⟩
  | data streamId data endOfStream =>
      -- the payload is charged by the check or by the throttle
      have short : data.length < 2 ^ 32 := small
      obtain ⟨answer, checked, checks, verdicts, charged⟩ :=
        limiter.checkData_metered short loop.governor
      simp only [handle, enforce, if_true, checks]
      rcases answer with error | ⟨⟨⟩⟩
      · obtain ⟨paid, kept⟩ := limiter.throttleData_charged grants
          (fun refreshed => if storedMeanwhile then refreshed + 1 else refreshed) data.length
          checked (loop.refreshed + 1)
        refine ⟨.ok (), _, rfl, ?_, rfl, (List.append_nil _).symm, ?_⟩
        · exact (kept.trans verdicts).trans (List.append_nil _).symm
        · exact paid.trans (congrArg (· + _) charged)
      · refine ⟨.ok (), _, rfl, ?_, rfl, (List.append_nil _).symm, charged⟩
        exact verdicts.trans (List.append_nil _).symm
  | _ => exact ⟨.ok (), _, rfl, .unchecked rfl rfl rfl (List.append_nil _).symm rfl⟩

/-- Any number of such turns: the loop goes on with what is left of its input. -/
theorem processMessages_handled (grants : limiter.bytesLimiter.Grants limiter.bytesBurst)
    (loop : MessageLoop (Metered γ)) {turns : List MessageTurn}
    (stored : ∀ turn ∈ turns, turn.stored) (sends : ∀ turn ∈ turns, turn.sendResult = .ok ())
    (small : ∀ turn ∈ turns, turn.payloadBytes < 2 ^ 32) :
    ∃ (judged : List JudgedTurn) (next : MessageLoop (Metered γ)),
      judged.map (·.toMessageTurn) = turns ∧ Handled judged loop next ∧
      ∀ later, loop.processMessages (some limiter.metered) (turns.map .ok ++ later) =
        next.processMessages (some limiter.metered) later := by
  induction turns generalizing loop with
  | nil => exact ⟨[], loop, rfl, .nil loop, fun _ => rfl⟩
  | cons turn rest ih =>
      rw [List.forall_mem_cons] at stored sends small
      obtain ⟨verdict, middle, handled, first⟩ :=
        loop.handle_handled limiter grants stored.1 sends.1 small.1
      obtain ⟨judged, next, same, others, goesOn⟩ := ih middle stored.2 sends.2 small.2
      refine ⟨⟨turn, verdict⟩ :: judged, next, ?_, .cons first others, ?_⟩
      · rw [List.map_cons, same]
      intro later
      rw [List.map_cons, List.cons_append, processMessages, handled]
      exact goesOn later

end MessageLoop

end Turns

/-- A payload that a codec built from limits decodes fits `u32`. -/
theorem payloadBytes_lt_of_decode {limits : LimitsConfig} {codec : TunnelCodec}
    (built : TunnelCodec.fromLimits limits = .ok codec) {bincode : Bincode} {turn : MessageTurn}
    {src rest : Bytes} (decoded : codec.decode bincode src = (.ok (some turn.frame), rest)) :
    turn.payloadBytes < 2 ^ 32 := by
  have valid := TunnelCodec.valid_of_decode (TunnelCodec.room_of_fromLimits built) decoded
  obtain ⟨sizeEq, validationEq⟩ := TunnelCodec.eq_of_fromLimits built
  have ceiling := codec.maxFrameSize_le
  rw [validationEq] at valid
  rw [sizeEq, MAX_FRAME_SIZE] at ceiling
  rw [MessageTurn.payloadBytes]
  split
  · next _ payload _ frameEq =>
    rw [frameEq] at valid
    have bounded : payload.length ≤ limits.maxFrameBytes.toNat :=
      validatePayload_eq_ok_iff.mp valid
    omega
  · decide

/-- For decoded frames, as long as the session is stored and sends succeed: the
stream opens are checked in order and the loop ends well; the multiplexer gets the
frames without the heartbeats and the denied opens, in order; each denied open and
each heartbeat is answered once; and governor charges the payloads once.  Whatever
comes `later` finds the loop with this record. -/
theorem processMessages_delays_data {γ : Type u} {limits : LimitsConfig} {codec : TunnelCodec}
    (built : TunnelCodec.fromLimits limits = .ok codec) (bincode : Bincode)
    (limiter : SessionRateLimiter γ) (grants : limiter.bytesLimiter.Grants limiter.bytesBurst)
    (governor : γ) (turns : List MessageTurn)
    (decoded : ∀ turn ∈ turns, ∃ src rest,
      codec.decode bincode src = (.ok (some turn.frame), rest))
    (stored : ∀ turn ∈ turns, turn.stored)
    (sends : ∀ turn ∈ turns, turn.sendResult = .ok ()) :
    ∃ (judged : List JudgedTurn) (loop : MessageLoop (Metered γ)),
      judged.map (·.toMessageTurn) = turns ∧
      loop.governor.verdicts = judged.filterMap JudgedTurn.verdict? ∧
      loop.handed = (judged.filter fun turn =>
        !Phase.isHeartbeat turn.frame && !turn.denied).map (·.frame) ∧
      loop.sent = judged.filterMap JudgedTurn.reply ∧
      loop.governor.charged = (turns.map (·.payloadBytes)).sum ∧
      (MessageLoop.start ⟨governor, []⟩).processMessages (some limiter.metered) (turns.map .ok) =
        (.ok (), { loop with removed := true }) ∧
      ∀ later, (MessageLoop.start ⟨governor, []⟩).processMessages (some limiter.metered)
          (turns.map .ok ++ later) = loop.processMessages (some limiter.metered) later := by
  have small : ∀ turn ∈ turns, turn.payloadBytes < 2 ^ 32 := by
    intro turn member
    obtain ⟨src, rest, frame⟩ := decoded turn member
    exact payloadBytes_lt_of_decode built frame
  obtain ⟨judged, loop, same, handled, goesOn⟩ :=
    (MessageLoop.start ⟨governor, []⟩).processMessages_handled limiter grants stored sends small
  refine ⟨judged, loop, same, handled.verdicts, handled.handed, handled.sent, ?_, ?_, goesOn⟩
  · have payloads : turns.map (·.payloadBytes) = judged.map (·.payloadBytes) := by
      rw [← same, List.map_map]
      rfl
    rw [payloads, handled.charged]
    exact Nat.zero_add _
  · have ends := goesOn []
    rw [List.append_nil] at ends
    exact ends

/-- A heartbeat, an open and a payload. -/
def busyTurns : List MessageTurn :=
  [⟨.heartbeat 7, true, true, 9, .ok ()⟩,
    ⟨.openStream ⟨2, .tcp, [], none, .normal⟩, true, true, 10, .ok ()⟩,
    ⟨.data 2 [7] true, true, true, 11, .ok ()⟩]

/-- A limiter that has no cells at once. -/
def busyGovernor (_ : Quota) : RateLimiter Unit where
  check _ := (.error {}, ())
  checkN _ _ := (.ok (.error {}), ())
  untilNReady _ _ := (.ok (), ())
  pollNReady _ _ := (none, ())

/-- One cell a second, for streams and for bytes. -/
def busyLimiter : SessionRateLimiter Unit :=
  .new busyGovernor ⟨.min, .min, .min⟩

/-- The open is denied, and the payload waits. -/
theorem processMessages_delays_busyTurns : ∃ loop : MessageLoop (Metered Unit),
    loop.handed = [.data 2 [7] true] ∧
    loop.sent = [.heartbeatAck 9, .closeStream 2 (.error "rate limited")] ∧
    loop.governor.charged = 1 ∧
      (MessageLoop.start ⟨(), []⟩).processMessages (some busyLimiter.metered)
          (busyTurns.map .ok) =
        (.ok (), { loop with removed := true }) := by
  have heartbeat : TunnelCodec.default.decode (.standard .sorted) (lengthPrefixed [0, 8, 7]) =
      (.ok (some (.heartbeat 7)), []) := by decide +kernel
  have opened : TunnelCodec.default.decode (.standard .sorted)
      (lengthPrefixed [0, 4, 2, 5, 0, 0, 0]) =
      (.ok (some (.openStream ⟨2, .tcp, [], none, .normal⟩)), []) := by decide +kernel
  have data : TunnelCodec.default.decode (.standard .sorted)
      (lengthPrefixed [1, 0, 0, 0, 2, 3, 7]) =
      (.ok (some (.data 2 [7] true)), []) := rfl
  have decoded : ∀ turn ∈ busyTurns, ∃ src rest,
      TunnelCodec.default.decode (.standard .sorted) src = (.ok (some turn.frame), rest) := by
    simp only [busyTurns, List.forall_mem_cons, List.not_mem_nil, false_implies, implies_true,
      and_true]
    exact ⟨⟨_, _, heartbeat⟩, ⟨_, _, opened⟩, ⟨_, _, data⟩⟩
  have stored : ∀ turn ∈ busyTurns, turn.stored := by decide
  have sends : ∀ turn ∈ busyTurns, turn.sendResult = .ok () := by simp [busyTurns]
  have built : TunnelCodec.fromLimits .default = .ok .default := rfl
  have grants : busyLimiter.bytesLimiter.Grants busyLimiter.bytesBurst :=
    ⟨fun _ _ _ => rfl, nofun⟩
  obtain ⟨judged, loop, same, verdicts, handed, sent, charged, ends, -⟩ :=
    processMessages_delays_data built (.standard .sorted) busyLimiter grants () busyTurns
      decoded stored sends
  have refused : (((MessageLoop.start ⟨(), []⟩).processMessages (some busyLimiter.metered)
      (busyTurns.map .ok)).2.governor.verdicts.map Except.isOk) = [false] := by
    decide +kernel
  rw [ends] at refused
  rcases judged with _ | ⟨⟨first, _⟩, _ | ⟨⟨second, verdict⟩, _ | ⟨⟨third, _⟩, _ | _⟩⟩⟩ <;>
    simp only [List.map_nil, List.map_cons, busyTurns, List.cons.injEq, reduceCtorEq, and_false,
      and_true] at same
  obtain ⟨rfl, rfl, rfl⟩ := same
  cases verdict with
  | ok _ =>
      rw [verdicts] at refused
      cases refused
  | error _ => exact ⟨loop, handed, sent, charged, ends⟩

end FerroTunnel.Tunnel
