import FerroTunnel.Link.SendSteps

/-!
# Receiving keeps the invariant

The read loop decodes frames and hands them to the channels of their streams;
owners take streams, read them and drop them; streams are opened on both sides.
-/

namespace FerroTunnel.Link

open FerroTunnel.Channel
open FerroTunnel.Stream
open FerroTunnel.Transport
open FerroTunnel.Wire

variable {bincode : Bincode} {side : Side} {ledger peerLedger : Ledger}
  {endpoint next peer : Endpoint} {outward inward : Bytes}
  (pair : PairInvariant bincode side ledger peerLedger endpoint peer outward inward)

/-- Nothing is queued, sent or received, and no stream id is allocated. -/
structure SameWire (endpoint next : Endpoint) : Prop where
  outbox : next.outbox = endpoint.outbox
  sender : next.sender = endpoint.sender
  written : next.written = endpoint.written
  received : next.received = endpoint.received
  reading : next.reading = endpoint.reading
  nextStreamId : next.mux.nextStreamId = endpoint.mux.nextStreamId

theorem SameWire.unencoded_eq (same : SameWire endpoint next) :
    next.unencoded = endpoint.unencoded := by
  rw [Endpoint.unencoded, Endpoint.unencoded, same.outbox, same.sender]

include pair in
/-- A step that queues no frame and decodes none. -/
theorem PairInvariant.of_receiver (same : SameWire endpoint next)
    (isOpening : ∀ streamId, next.IsOpening streamId → endpoint.IsOpening streamId)
    (naming : Naming ledger.owner next)
    (sending : Sending bincode ledger.owner ledger.priority next)
    (receives : Receives side.peer ledger.owner peerLedger.sent peer next) :
    PairInvariant bincode side ledger peerLedger next peer outward inward := by
  have framesEq : ledger.sent.frames next = ledger.sent.frames endpoint := by
    rw [Traffic.frames, Traffic.frames, same.unencoded_eq]
  refine ⟨⟨naming, sending, pair.here.allocating.of_eq same.nextStreamId isOpening,
    pair.here.accounts.of_eq (by rw [same.unencoded_eq]) same.written same.nextStreamId
      isOpening⟩, pair.there, pair.carriesOut.of_eq same.sender rfl rfl,
    pair.carriesIn.of_eq rfl same.received same.reading, ?_, receives⟩
  refine pair.receivesThere.of_sender rfl fun streamId expected => ?_
  refine expected.of_sender same.nextStreamId (isOpening streamId) ?_
  rw [framesEq]
  exact fun frame member _ => .inr member

/-! ## Owners -/

/-- Reading leaves pending writes as they are. -/
theorem PendingWrite.of_sameWriter {before after : Handle} (pendingWrite : PendingWrite before)
    (retry : after.retry = before.retry)
    (same : VirtualStream.SameWriter before.stream after.stream) : PendingWrite after := by
  obtain ⟨idEq, _, priorityEq, sendEq, lenEq⟩ := same
  constructor
  · rw [sendEq, lenEq]
    exact pendingWrite.idle
  · rw [sendEq, lenEq, retry]
    intro future pending
    rcases pendingWrite.pending future pending with ⟨closing, len⟩ | ⟨buf, retryEq, data, len⟩
    · left
      rw [VirtualStream.closeItem, priorityEq, idEq]
      exact ⟨closing, len⟩
    · refine .inr ⟨buf, retryEq, ?_, len⟩
      rw [priorityEq, VirtualStream.dataFrame, idEq]
      exact data

/-! ## Handing over a stream -/

/-- The owner of a stream gets it, from the queue of new streams or from an
`open_stream` call that returns. -/
structure HandsOver (endpoint next : Endpoint) (stream : VirtualStream) : Prop where
  nextChan : next.mux.nextChan = endpoint.mux.nextChan
  nextStreamId : next.mux.nextStreamId = endpoint.mux.nextStreamId
  streams : next.mux.streams = endpoint.mux.streams
  lastSender : next.mux.lastSender = endpoint.mux.lastSender
  channels : next.mux.channels = endpoint.mux.channels
  task : next.task = endpoint.task
  delivered : next.delivered = endpoint.delivered
  handles : next.handles = Function.update endpoint.handles stream.rx (some ⟨stream, none⟩)
  opening : ∀ chan call, next.opening chan = some call →
    chan ≠ stream.rx ∧ endpoint.opening chan = some call
  waiting : next.waiting.Sublist endpoint.waiting
  untaken : ∀ other ∈ next.waiting, other.rx ≠ stream.rx

namespace HandsOver

variable {stream : VirtualStream} {owner : ChanId → UInt32} (hands : HandsOver endpoint next stream)

include hands

theorem kept : NamesKept endpoint next :=
  .of_eq hands.nextChan hands.streams hands.lastSender hands.task

theorem present_eq : next.Present = endpoint.Present := by
  funext chan
  rw [Endpoint.Present, Endpoint.Present, Endpoint.Made, Endpoint.Made, hands.nextChan,
    hands.channels]

/-- A stream with an owner is the one handed over, or had its owner before. -/
theorem handled {chan : ChanId} {handle : Handle} (handled : next.handles chan = some handle) :
    (chan = stream.rx ∧ handle = ⟨stream, none⟩) ∨ endpoint.handles chan = some handle := by
  by_cases same : chan = stream.rx
  · left
    rw [hands.handles, same, Function.update_self] at handled
    cases handled
    exact ⟨same, rfl⟩
  · right
    rwa [hands.handles, Function.update_of_ne same] at handled

theorem naming (naming : Naming owner endpoint) (present : endpoint.Present stream.rx)
    (idEq : stream.streamId = owner stream.rx) : Naming owner next := by
  apply hands.kept.naming naming
  · intro chan handle handled
    rw [hands.present_eq]
    rcases hands.handled handled with ⟨rfl, rfl⟩ | before
    · exact ⟨present, rfl, idEq⟩
    · exact naming.handled chan handle before
  · intro chan call callEq
    obtain ⟨different, before⟩ := hands.opening chan call callEq
    rw [hands.present_eq, hands.handles, Function.update_of_ne different]
    exact naming.opening chan call before
  · intro other member
    obtain ⟨otherPresent, otherId, otherNone, otherCall⟩ :=
      naming.waiting other (hands.waiting.subset member)
    have unopened : next.opening other.rx = none := by
      cases callEq : next.opening other.rx with
      | none => rfl
      | some call =>
          rw [(hands.opening other.rx call callEq).2] at otherCall
          cases otherCall
    rw [hands.present_eq, hands.handles, Function.update_of_ne (hands.untaken other member)]
    exact ⟨otherPresent, otherId, otherNone, unopened⟩
  · exact naming.distinct.sublist (hands.waiting.map _)

/-- A stream is handed over without a pending send. -/
theorem sending_handled {priority : UInt32 → StreamPriority}
    (sending : Sending bincode owner priority endpoint)
    (priorityEq : stream.priority = priority stream.streamId) (noSend : stream.pendingSend = none)
    (noLen : stream.pendingSendLen = 0) (chan : ChanId) (handle : Handle)
    (handled : next.handles chan = some handle) :
    handle.stream.priority = priority handle.stream.streamId ∧ PendingWrite handle := by
  rcases hands.handled handled with ⟨-, rfl⟩ | before
  · exact ⟨priorityEq, fun _ => noLen, by simp [noSend]⟩
  · exact sending.handled chan handle before

/-- A stream is handed over with nothing read ahead. -/
theorem receives {traffic : Traffic} (noHandle : endpoint.handles stream.rx = none)
    (noUnread : stream.unread = []) (receives : Receives side owner traffic peer endpoint) :
    Receives side owner traffic peer next := by
  apply receives.of_same_bytes hands.nextChan hands.nextStreamId hands.delivered
  · intro chan _
    refine buffered_congr (by rw [hands.channels]) (by rw [hands.task]) ?_
    by_cases same : chan = stream.rx
    · rw [hands.handles, same, Function.update_self, noHandle]
      exact noUnread
    · rw [hands.handles, Function.update_of_ne same]
  · intro chan _ reaches
    rwa [Reaches, hands.channels, hands.streams, hands.lastSender] at reaches

end HandsOver

include pair in
theorem PairInvariant.accept (stepEq : endpoint.accept = some next) :
    PairInvariant bincode side ledger peerLedger next peer outward inward := by
  unfold Endpoint.accept at stepEq
  split at stepEq
  · cases stepEq
  split at stepEq
  · cases stepEq
  · rename_i stream newStreams received
    have queueEq : stream :: newStreams.queue = endpoint.mux.newStreams.queue := by
      have := endpoint.mux.newStreams.recv_queue
      rw [received] at this
      exact this
    have waitingEq : endpoint.waiting = stream :: next.waiting := by
      cases stepEq
      rw [Endpoint.waiting, ← queueEq]
      rfl
    obtain ⟨present, idEq, noHandle, noCall⟩ :=
      pair.here.naming.waiting stream (by simp [waitingEq])
    obtain ⟨priorityEq, noSend, noLen, noUnread⟩ :=
      pair.here.sending.waiting stream (by simp [waitingEq])
    have distinct := pair.here.naming.distinct
    rw [waitingEq, List.map_cons, List.nodup_cons] at distinct
    have same : SameWire endpoint next := by
      cases stepEq
      exact ⟨rfl, rfl, rfl, rfl, rfl, rfl⟩
    have openingEq : next.opening = endpoint.opening := by
      cases stepEq
      rfl
    have opened (chan : ChanId) (call : Opening) (callEq : next.opening chan = some call) :
        chan ≠ stream.rx ∧ endpoint.opening chan = some call := by
      rw [openingEq] at callEq
      refine ⟨?_, callEq⟩
      rintro rfl
      cases noCall.symm.trans callEq
    have sublist : next.waiting.Sublist endpoint.waiting := by
      rw [waitingEq]
      exact List.sublist_cons_self _ _
    have untaken (other : VirtualStream) (member : other ∈ next.waiting) :
        other.rx ≠ stream.rx :=
      fun same => distinct.1 (same ▸ List.mem_map_of_mem member)
    have hands : HandsOver endpoint next stream := by
      cases stepEq
      exact ⟨rfl, rfl, rfl, rfl, rfl, rfl, rfl, rfl, opened, sublist, untaken⟩
    apply pair.of_receiver same
    · rintro streamId ⟨chan, call, callEq, callId⟩
      exact ⟨chan, call, (hands.opening chan call callEq).2, callId⟩
    · exact hands.naming pair.here.naming present idEq
    · apply pair.here.sending.of_eq hands.nextChan
        (hands.sending_handled pair.here.sending priorityEq noSend noLen)
        (fun chan call callEq => (hands.opening chan call callEq).2)
        (fun _ member => hands.waiting.subset member) ?_ same.written
      rw [same.unencoded_eq]
      exact fun _ member => member
    · exact hands.receives noHandle noUnread pair.receivesHere

/-! ## Reading -/

/-- The owner of a stream reads: bytes go from where they are buffered to what it has. -/
structure Reads (owner : ChanId → UInt32) (endpoint next : Endpoint) (chan : ChanId) : Prop where
  made : endpoint.Made chan
  same : SameWire endpoint next
  nextChan : next.mux.nextChan = endpoint.mux.nextChan
  task : next.task = endpoint.task
  streams : next.mux.streams = endpoint.mux.streams
  lastSender : next.mux.lastSender = endpoint.mux.lastSender
  opening : next.opening = endpoint.opening
  waiting : next.waiting = endpoint.waiting
  gone : ∀ other, (next.mux.channels other).receiverGone =
    (endpoint.mux.channels other).receiverGone
  handled : ∀ other after, next.handles other = some after → ∃ before,
    endpoint.handles other = some before ∧ after.retry = before.retry ∧
      VirtualStream.SameWriter before.stream after.stream
  delivered : ∀ streamId, streamId ≠ owner chan →
    next.delivered streamId = endpoint.delivered streamId
  bytes : ∀ other, endpoint.Made other →
    next.delivered (owner other) ++ next.buffered other =
      endpoint.delivered (owner other) ++ endpoint.buffered other

variable {owner : ChanId → UInt32} {chan : ChanId}

/-- The bytes of one stream are moved, and no other stream has its id. -/
theorem bytes_of_moved {moved : Bytes} (naming : Naming owner endpoint) (made : endpoint.Made chan)
    (delivered : next.delivered = Function.update endpoint.delivered (owner chan)
      (endpoint.delivered (owner chan) ++ moved))
    (here : moved ++ next.buffered chan = endpoint.buffered chan)
    (elsewhere : ∀ other, other ≠ chan → next.buffered other = endpoint.buffered other)
    (other : ChanId) (otherMade : endpoint.Made other) :
    next.delivered (owner other) ++ next.buffered other =
      endpoint.delivered (owner other) ++ endpoint.buffered other := by
  by_cases same : other = chan
  · rw [same, delivered, Function.update_self, List.append_assoc, here]
  · have notOwned : owner other ≠ owner chan := fun ownerEq =>
      same (naming.unique other chan otherMade made ownerEq)
    rw [delivered, Function.update_of_ne notOwned, elsewhere other same]

theorem Endpoint.reads_of_pollRead {room : Nat} (naming : Naming owner endpoint)
    (stepEq : endpoint.pollRead chan room = some next) : Reads owner endpoint next chan := by
  unfold Endpoint.pollRead at stepEq
  cases handled : endpoint.handles chan with
  | none =>
      rw [handled] at stepEq
      cases stepEq
  | some handle =>
      have read := handle.stream.pollRead_step (endpoint.mux.channels chan)
        (endpoint.mux.sendersGone endpoint.task chan) room
      simp only [handled, Option.some.injEq] at stepEq
      revert read stepEq
      generalize handle.stream.pollRead (endpoint.mux.channels chan)
        (endpoint.mux.sendersGone endpoint.task chan) room = result
      rcases result with ⟨poll, stream, channel⟩
      rintro ⟨bytes, writer, gone⟩ stepEq
      simp only at bytes writer gone stepEq
      obtain ⟨present, -, idEq⟩ := naming.handled chan handle handled
      have handlesEq : next.handles =
          Function.update endpoint.handles chan (some { handle with stream := stream }) := by
        rw [← stepEq]
        rfl
      have channelsEq : next.mux.channels =
          Function.update endpoint.mux.channels chan channel := by
        rw [← stepEq]
        rfl
      have taskEq : next.task = endpoint.task := by
        rw [← stepEq]
        rfl
      have deliveredEq : next.delivered = Function.update endpoint.delivered (owner chan)
          (endpoint.delivered (owner chan) ++ VirtualStream.readBytes poll) := by
        rw [← stepEq, ← idEq, ← writer.streamId]
        rfl
      have goneEq (other : ChanId) : (next.mux.channels other).receiverGone =
          (endpoint.mux.channels other).receiverGone := by
        by_cases same : other = chan
        · rw [channelsEq, same, Function.update_self, gone]
        · rw [channelsEq, Function.update_of_ne same]
      have here : VirtualStream.readBytes poll ++ next.buffered chan =
          endpoint.buffered chan := by
        rw [Endpoint.buffered, Endpoint.buffered, goneEq, present.2, channelsEq,
          Function.update_self, handlesEq, Function.update_self, handled, taskEq]
        simp only [Bool.false_eq_true, if_false, Option.elim_some]
        simp only [← List.append_assoc] at bytes ⊢
        rw [bytes]
      have elsewhere (other : ChanId) (different : other ≠ chan) :
          next.buffered other = endpoint.buffered other := by
        refine buffered_congr ?_ (by rw [taskEq]) ?_
        · rw [channelsEq, Function.update_of_ne different]
        · rw [handlesEq, Function.update_of_ne different]
      have wire : SameWire endpoint next := by
        subst stepEq
        exact ⟨rfl, rfl, rfl, rfl, rfl, rfl⟩
      refine ⟨present.1, wire, by rw [← stepEq]; rfl, taskEq, by rw [← stepEq]; rfl,
        by rw [← stepEq]; rfl, by rw [← stepEq]; rfl, by rw [← stepEq]; rfl, goneEq, ?_, ?_,
        bytes_of_moved naming present.1 deliveredEq here elsewhere⟩
      · intro other after afterEq
        by_cases same : other = chan
        · rw [handlesEq, same, Function.update_self] at afterEq
          cases afterEq
          exact ⟨handle, same ▸ handled, rfl, writer⟩
        · rw [handlesEq, Function.update_of_ne same] at afterEq
          exact ⟨after, afterEq, rfl, rfl, rfl, rfl, rfl, rfl⟩
      · intro streamId different
        rw [deliveredEq, Function.update_of_ne different]

namespace Reads

variable {chan : ChanId} {owner : ChanId → UInt32} (reads : Reads owner endpoint next chan)

include reads

theorem kept : NamesKept endpoint next :=
  .of_eq reads.nextChan reads.streams reads.lastSender reads.task

theorem naming (naming : Naming owner endpoint) : Naming owner next := by
  refine naming.of_halves reads.kept (fun other _ => reads.gone other) ?_ ?_ ?_
  · intro other after afterEq
    obtain ⟨before, beforeEq, _, same⟩ := reads.handled other after afterEq
    exact ⟨before, beforeEq, same.rx, same.streamId⟩
  · rw [reads.opening]
    exact fun _ call callEq => ⟨call, callEq, rfl⟩
  · rw [reads.waiting]

theorem sending {priority : UInt32 → StreamPriority}
    (sending : Sending bincode owner priority endpoint) : Sending bincode owner priority next := by
  refine sending.of_eq reads.nextChan ?_ ?_ ?_ ?_ reads.same.written
  · intro other after afterEq
    obtain ⟨before, beforeEq, retryEq, same⟩ := reads.handled other after afterEq
    obtain ⟨beforePriority, beforeWrite⟩ := sending.handled other before beforeEq
    exact ⟨by rw [same.priority, same.streamId, beforePriority],
      beforeWrite.of_sameWriter retryEq same⟩
  · rw [reads.opening]
    exact fun _ _ call => call
  · rw [reads.waiting]
    exact fun _ member => member
  · rw [reads.same.unencoded_eq]
    exact fun _ member => member

theorem receives {traffic : Traffic} (receives : Receives side owner traffic peer endpoint) :
    Receives side owner traffic peer next := by
  refine receives.of_receiver reads.nextChan reads.same.nextStreamId ?_ ?_ ?_
  · intro streamId unmade
    exact reads.delivered streamId (unmade chan reads.made).symm
  · intro other otherMade
    rw [reads.bytes other otherMade]
  · intro other otherMade reaches
    refine ⟨?_, reads.bytes other otherMade⟩
    rwa [Reaches, reads.gone, reads.streams, reads.lastSender] at reaches

end Reads

include pair in
theorem PairInvariant.pollRead {room : Nat} (stepEq : endpoint.pollRead chan room = some next) :
    PairInvariant bincode side ledger peerLedger next peer outward inward := by
  have reads := Endpoint.reads_of_pollRead pair.here.naming stepEq
  refine pair.of_receiver reads.same ?_ (reads.naming pair.here.naming)
    (reads.sending pair.here.sending) (reads.receives pair.receivesHere)
  intro streamId isOpening
  rwa [Endpoint.IsOpening, reads.opening] at isOpening

/-! ## Dropped receivers -/

/-- The receiving half of one channel goes, and all that is buffered for it. -/
structure Closes (endpoint next : Endpoint) (chan : ChanId) : Prop where
  same : SameWire endpoint next
  kept : NamesKept endpoint next
  lastSender : next.mux.lastSender = endpoint.mux.lastSender
  delivered : next.delivered = endpoint.delivered
  gone : (next.mux.channels chan).receiverGone = true
  channels : ∀ other, other ≠ chan → next.mux.channels other = endpoint.mux.channels other
  task : ∀ other, taskBytes next.task other = taskBytes endpoint.task other
  handles : ∀ other, other ≠ chan → next.handles other = endpoint.handles other
  opening : ∀ other, other ≠ chan → next.opening other = endpoint.opening other
  unhandled : next.handles chan = none
  unopened : next.opening chan = none
  waiting : next.waiting.Sublist endpoint.waiting
  untaken : ∀ stream ∈ next.waiting, stream.rx ≠ chan

namespace Closes

variable {chan : ChanId} {owner : ChanId → UInt32} (closes : Closes endpoint next chan)

include closes

theorem ne_of_handled {other : ChanId} {handle : Handle}
    (handled : next.handles other = some handle) : other ≠ chan := by
  rintro rfl
  rw [closes.unhandled] at handled
  cases handled

theorem ne_of_opening {other : ChanId} {call : Opening} (callEq : next.opening other = some call) :
    other ≠ chan := by
  rintro rfl
  rw [closes.unopened] at callEq
  cases callEq

theorem handled {other : ChanId} {handle : Handle} (handled : next.handles other = some handle) :
    endpoint.handles other = some handle := by
  rwa [closes.handles other (closes.ne_of_handled handled)] at handled

theorem opened {other : ChanId} {call : Opening} (callEq : next.opening other = some call) :
    endpoint.opening other = some call := by
  rwa [closes.opening other (closes.ne_of_opening callEq)] at callEq

theorem naming (naming : Naming owner endpoint) : Naming owner next := by
  refine naming.of_halves closes.kept ?_ ?_ ?_ closes.waiting
  · intro other held
    have different : other ≠ chan := by
      rcases held with ⟨handle, handled⟩ | ⟨call, callEq⟩ | ⟨stream, member, rfl⟩
      · exact closes.ne_of_handled handled
      · exact closes.ne_of_opening callEq
      · exact closes.untaken stream member
    rw [closes.channels other different]
  · intro other after afterEq
    exact ⟨after, closes.handled afterEq, rfl, rfl⟩
  · intro other call callEq
    exact ⟨call, closes.opened callEq, rfl⟩

theorem receives {traffic : Traffic} (receives : Receives side owner traffic peer endpoint) :
    Receives side owner traffic peer next := by
  have elsewhere {other : ChanId} (different : other ≠ chan) :
      next.buffered other = endpoint.buffered other :=
    buffered_congr (closes.channels other different) (closes.task other)
      (by rw [closes.handles other different])
  refine receives.of_receiver closes.kept.nextChan closes.same.nextStreamId
    (by simp [closes.delivered]) ?_ ?_
  · intro other made
    rw [closes.delivered]
    by_cases same : other = chan
    · rw [same, Endpoint.buffered, if_pos closes.gone, List.append_nil]
      exact List.prefix_append _ _
    · rw [elsewhere same]
  · intro other made reaches
    have different : other ≠ chan := by
      rintro rfl
      rw [Reaches, closes.gone] at reaches
      exact Bool.noConfusion reaches.1
    refine ⟨⟨?_, ?_⟩, by rw [closes.delivered, elsewhere different]⟩
    · rw [← closes.channels other different]
      exact reaches.1
    · rw [← closes.lastSender]
      exact reaches.2.imp (closes.kept.registered _ _) id

omit closes

include pair in
/-- Dropping a receiver keeps the invariant. -/
theorem pairInvariant (closes : Closes endpoint next chan) :
    PairInvariant bincode side ledger peerLedger next peer outward inward := by
  refine pair.of_receiver closes.same ?_ (closes.naming pair.here.naming) ?_
    (closes.receives pair.receivesHere)
  · rintro streamId ⟨other, call, callEq, idEq⟩
    exact ⟨other, call, closes.opened callEq, idEq⟩
  · refine pair.here.sending.of_eq closes.kept.nextChan ?_ ?_ ?_ ?_ closes.same.written
    · exact fun other handle handled =>
        pair.here.sending.handled other handle (closes.handled handled)
    · exact fun _ _ callEq => closes.opened callEq
    · exact fun _ member => closes.waiting.subset member
    · rw [closes.same.unencoded_eq]
      exact fun _ member => member

end Closes

include pair in
theorem PairInvariant.dropStream (stepEq : endpoint.dropStream chan = some next) :
    PairInvariant bincode side ledger peerLedger next peer outward inward := by
  unfold Endpoint.dropStream at stepEq
  cases handled : endpoint.handles chan with
  | none =>
      rw [handled] at stepEq
      cases stepEq
  | some handle =>
      simp only [handled, Option.some.injEq] at stepEq
      subst stepEq
      obtain ⟨_, rxEq, _⟩ := pair.here.naming.handled chan handle handled
      have closes : Closes endpoint ({ endpoint with
          mux := endpoint.mux.dropStream handle.stream }.setHandle chan none) chan := by
        refine ⟨⟨rfl, rfl, rfl, rfl, rfl, rfl⟩, .of_eq rfl rfl rfl rfl, rfl, rfl, ?_, ?_,
          fun _ => rfl, ?_, fun _ _ => rfl, ?_, ?_, List.Sublist.refl _, ?_⟩
        · simp [Endpoint.setHandle, Multiplexer.dropStream, rxEq]
        · intro other different
          simp [Endpoint.setHandle, Multiplexer.dropStream, rxEq, different]
        · intro other different
          simp [Endpoint.setHandle, different]
        · simp [Endpoint.setHandle]
        · cases callEq : endpoint.opening chan with
          | none => exact callEq
          | some call =>
              rw [(pair.here.naming.opening chan call callEq).2.2] at handled
              cases handled
        · rintro stream member rfl
          rw [(pair.here.naming.waiting stream member).2.2.1] at handled
          cases handled
      exact closes.pairInvariant pair

include pair in
theorem PairInvariant.abandonOpen {call : Opening} (callEq : endpoint.opening chan = some call) :
    PairInvariant bincode side ledger peerLedger (endpoint.abandonOpen chan) peer outward
      inward := by
  have closes : Closes endpoint (endpoint.abandonOpen chan) chan := by
    refine ⟨⟨rfl, rfl, rfl, rfl, rfl, rfl⟩, .of_eq rfl rfl rfl rfl, rfl, rfl, ?_, ?_,
      fun _ => rfl, fun _ _ => rfl, ?_, (pair.here.naming.opening chan call callEq).2.2, ?_,
      List.Sublist.refl _, ?_⟩
    · simp [Endpoint.abandonOpen]
    · intro other different
      simp [Endpoint.abandonOpen, different]
    · intro other different
      simp [Endpoint.abandonOpen, different]
    · simp [Endpoint.abandonOpen]
    · rintro stream member rfl
      rw [(pair.here.naming.waiting stream member).2.2.2] at callEq
      cases callEq
  exact closes.pairInvariant pair

/-! ## Finishing a frame -/

include pair in
/-- A step that moves received bytes, or nothing, within one endpoint. -/
theorem PairInvariant.of_moved (same : SameWire endpoint next) (kept : NamesKept endpoint next)
    (lastSender : next.mux.lastSender = endpoint.mux.lastSender)
    (opening : next.opening = endpoint.opening) (handles : next.handles = endpoint.handles)
    (delivered : next.delivered = endpoint.delivered) (waiting : next.waiting = endpoint.waiting)
    (moved : (∀ chan, (next.mux.channels chan).receiverGone =
        (endpoint.mux.channels chan).receiverGone) ∧
      ∀ chan, next.buffered chan = endpoint.buffered chan) :
    PairInvariant bincode side ledger peerLedger next peer outward inward := by
  refine pair.of_receiver same ?_ ?_ ?_ ?_
  · intro streamId isOpening
    rwa [Endpoint.IsOpening, opening] at isOpening
  · refine pair.here.naming.of_halves kept (fun chan _ => moved.1 chan) ?_ ?_ ?_
    · rw [handles]
      exact fun _ handle handled => ⟨handle, handled, rfl, rfl⟩
    · rw [opening]
      exact fun _ call callEq => ⟨call, callEq, rfl⟩
    · rw [waiting]
  · refine pair.here.sending.of_eq kept.nextChan ?_ ?_ ?_ ?_ same.written
    · rw [handles]
      exact pair.here.sending.handled
    · rw [opening]
      exact fun _ _ call => call
    · rw [waiting]
      exact fun _ member => member
    · rw [same.unencoded_eq]
      exact fun _ member => member
  · refine pair.receivesHere.of_same_bytes kept.nextChan same.nextStreamId delivered
      (fun chan _ => moved.2 chan) ?_
    intro chan _ reaches
    rw [Reaches, moved.1, lastSender] at reaches
    exact ⟨reaches.1, reaches.2.imp (kept.registered _ _) id⟩

include pair in
theorem PairInvariant.closeAcceptor :
    PairInvariant bincode side ledger peerLedger endpoint.closeAcceptor peer outward inward :=
  pair.of_moved ⟨rfl, rfl, rfl, rfl, rfl, rfl⟩ (.of_eq rfl rfl rfl rfl) rfl rfl rfl rfl rfl
    ⟨fun _ => rfl, fun _ => rfl⟩

/-- A frame sent to a channel is queued there, or refused by a channel whose
receiver is gone; either way the owner can read what it could. -/
theorem buffered_of_sent {tx : ChanId} {frame : Frame} {channel : Bounded StreamItem}
    (taskEq : ∀ chan, taskBytes endpoint.task chan =
      if tx = chan then VirtualStream.payload (.ok frame) else [])
    (handles : next.handles = endpoint.handles) (idle : next.task = .idle)
    (channels : next.mux.channels = Function.update endpoint.mux.channels tx channel)
    (sent : (channel.queue = (endpoint.mux.channels tx).queue ++ [.ok frame] ∧
        channel.receiverGone = (endpoint.mux.channels tx).receiverGone) ∨
      (channel = endpoint.mux.channels tx ∧ channel.receiverGone = true)) :
    (∀ chan, (next.mux.channels chan).receiverGone =
      (endpoint.mux.channels chan).receiverGone) ∧
    ∀ chan, next.buffered chan = endpoint.buffered chan := by
  have noTask (chan : ChanId) : taskBytes next.task chan = [] := by rw [idle]; rfl
  have goneEq (chan : ChanId) : (next.mux.channels chan).receiverGone =
      (endpoint.mux.channels chan).receiverGone := by
    by_cases same : chan = tx
    · subst same
      rw [channels, Function.update_self]
      rcases sent with ⟨_, gone⟩ | ⟨channelEq, _⟩
      · exact gone
      · rw [channelEq]
    · rw [channels, Function.update_of_ne same]
  refine ⟨goneEq, fun chan => ?_⟩
  by_cases same : chan = tx
  · subst same
    rw [Endpoint.buffered, Endpoint.buffered, goneEq, noTask, taskEq, if_pos rfl, handles,
      channels, Function.update_self]
    rcases sent with ⟨queueEq, _⟩ | ⟨channelEq, gone⟩
    · simp [VirtualStream.queuedBytes, queueEq]
    · rw [← channelEq, if_pos gone, if_pos gone]
  · refine buffered_congr ?_ ?_ (by rw [handles])
    · rw [channels, Function.update_of_ne same]
    · rw [noTask, taskEq, if_neg (Ne.symm same)]

include pair in
/-- The read loop has sent a frame to a channel, and may have removed its stream. -/
theorem PairInvariant.of_sent {streamId : UInt32} {tx : ChanId} {frame : Frame}
    {channel : Bounded StreamItem} (streams : Finmap fun _ : UInt32 => ChanId)
    (priorities : Finmap fun _ : UInt32 => StreamPriority)
    (taskEq : endpoint.task = .sendData streamId tx frame ∨
      endpoint.task = .sendClose streamId tx frame)
    (sent : (channel.queue = (endpoint.mux.channels tx).queue ++ [.ok frame] ∧
        channel.receiverGone = (endpoint.mux.channels tx).receiverGone) ∨
      (channel = endpoint.mux.channels tx ∧ channel.receiverGone = true))
    (registered : ∀ streamId chan, streams.lookup streamId = some chan →
      endpoint.mux.streams.lookup streamId = some chan) :
    PairInvariant bincode side ledger peerLedger { endpoint with
      mux := { endpoint.mux with
        streams := streams
        streamPriorities := priorities
        channels := Function.update endpoint.mux.channels tx channel }
      task := .idle } peer outward inward := by
  have bytesEq (chan : ChanId) : taskBytes endpoint.task chan =
      if tx = chan then VirtualStream.payload (.ok frame) else [] := by
    rcases taskEq with taskEq | taskEq <;> rw [taskEq] <;> rfl
  have noStream : taskStream endpoint.task = none := by
    rcases taskEq with taskEq | taskEq <;> rw [taskEq] <;> rfl
  refine pair.of_moved ⟨rfl, rfl, rfl, rfl, rfl, rfl⟩
    ⟨rfl, registered, fun _ _ cached => .inl cached, by simp [taskTarget]⟩ rfl rfl rfl rfl ?_
    (buffered_of_sent bytesEq rfl rfl rfl sent)
  rw [Endpoint.waiting, Endpoint.waiting, noStream]
  rfl

include pair in
/-- A stream of the peer that no one accepts any more is dropped. -/
theorem PairInvariant.refuseStream {stream : VirtualStream}
    (taskEq : endpoint.task = .queueStream stream) :
    PairInvariant bincode side ledger peerLedger { endpoint with
      mux := { endpoint.mux with
        streams := endpoint.mux.streams.erase stream.streamId }.dropStream stream
      task := .idle } peer outward inward := by
  have waitingEq : endpoint.waiting = endpoint.mux.newStreams.queue ++ [stream] := by
    rw [Endpoint.waiting, taskEq]
    rfl
  obtain ⟨-, -, noHandle, noCall⟩ := pair.here.naming.waiting stream (by simp [waitingEq])
  have distinct := pair.here.naming.distinct
  rw [waitingEq, List.map_append, List.nodup_append] at distinct
  have closes : Closes endpoint { endpoint with
      mux := { endpoint.mux with
        streams := endpoint.mux.streams.erase stream.streamId }.dropStream stream
      task := .idle } stream.rx := by
    refine ⟨⟨rfl, rfl, rfl, rfl, rfl, rfl⟩,
      ⟨rfl, fun _ _ registered => Map.lookup_of_lookup_erase registered,
        fun _ _ cached => .inl cached, by simp [taskTarget]⟩,
      rfl, rfl, ?_, ?_, ?_, fun _ _ => rfl, fun _ _ => rfl, noHandle, noCall, ?_, ?_⟩
    · simp [Multiplexer.dropStream]
    · intro other different
      simp [Multiplexer.dropStream, different]
    · intro other
      rw [taskEq]
      rfl
    · rw [waitingEq, Endpoint.waiting]
      simp [taskStream, Multiplexer.dropStream]
    · intro other member same
      have queued : other ∈ endpoint.mux.newStreams.queue := by
        simpa [Endpoint.waiting, taskStream, Multiplexer.dropStream] using member
      exact distinct.2.2 _ (List.mem_map_of_mem queued) stream.rx (by simp) same
  exact closes.pairInvariant pair

include pair in
theorem PairInvariant.resume (stepEq : endpoint.resume = some next) :
    PairInvariant bincode side ledger peerLedger next peer outward inward := by
  obtain ⟨mux, resumed, rfl⟩ := Option.map_eq_some_iff.mp stepEq
  generalize taskEq : endpoint.task = task at resumed
  cases Multiplexer.resumes_of_resume resumed with
  | @queued stream newStreams _ queueEq =>
      refine pair.of_moved ⟨rfl, rfl, rfl, rfl, rfl, rfl⟩
        ⟨rfl, fun _ _ registered => registered, fun _ _ cached => .inl cached,
          by simp [taskTarget]⟩ rfl rfl rfl rfl ?_ ⟨fun _ => rfl, fun chan => ?_⟩
      · rw [Endpoint.waiting, Endpoint.waiting, taskEq, queueEq]
        exact List.append_nil _
      · exact buffered_congr rfl (by rw [taskEq]; rfl) rfl
  | refused => exact pair.refuseStream taskEq
  | delivered _ queueEq goneEq =>
      exact pair.of_sent _ _ (.inl taskEq) (.inl ⟨queueEq, goneEq⟩)
        fun _ _ registered => registered
  | @lost streamId tx frame _ gone =>
      have dropped := pair.of_sent (endpoint.mux.streams.erase streamId)
        endpoint.mux.streamPriorities (.inl taskEq) (.inr ⟨rfl, gone⟩)
        fun _ _ registered => Map.lookup_of_lookup_erase registered
      rwa [Function.update_eq_self] at dropped
  | closes sent =>
      exact pair.of_sent _ _ (.inr taskEq) sent
        fun _ _ registered => Map.lookup_of_lookup_erase registered

/-! ## Opening streams -/

include pair in
/-- An `open_stream` call that waits on keeps its frame. -/
theorem PairInvariant.waitOpen {call : Opening} {future : SendFuture}
    (callEq : endpoint.opening chan = some call) (itemEq : future.item = call.future.item) :
    PairInvariant bincode side ledger peerLedger { endpoint with
      opening := Function.update endpoint.opening chan (some { call with future := future }) }
      peer outward inward := by
  have openingNext (other : ChanId) (after : Opening)
      (afterEq : Function.update endpoint.opening chan (some { call with future := future }) other =
        some after) :
      ∃ before, endpoint.opening other = some before ∧ after.streamId = before.streamId ∧
        after.priority = before.priority ∧ after.protocol = before.protocol ∧
        after.future.item = before.future.item := by
    by_cases same : other = chan
    · rw [same, Function.update_self] at afterEq
      cases afterEq
      exact ⟨call, same ▸ callEq, rfl, rfl, rfl, itemEq⟩
    · rw [Function.update_of_ne same] at afterEq
      exact ⟨after, afterEq, rfl, rfl, rfl, rfl⟩
  refine pair.of_receiver ⟨rfl, rfl, rfl, rfl, rfl, rfl⟩ ?_ ?_ ?_ ?_
  · rintro streamId ⟨other, after, afterEq, idEq⟩
    obtain ⟨before, beforeEq, sameId, _⟩ := openingNext other after afterEq
    exact ⟨other, before, beforeEq, sameId.symm.trans idEq⟩
  · refine pair.here.naming.of_halves (.of_eq rfl rfl rfl rfl) (fun _ _ => rfl)
      (fun _ handle handled => ⟨handle, handled, rfl, rfl⟩) ?_ (List.Sublist.refl _)
    intro other after afterEq
    obtain ⟨before, beforeEq, sameId, _⟩ := openingNext other after afterEq
    exact ⟨before, beforeEq, sameId⟩
  · refine pair.here.sending.step (fun _ made => made) pair.here.sending.handled ?_
      (fun _ member => member) (fun _ member => .inl member) (fun _ nonempty => .inl nonempty)
    intro other after afterEq
    obtain ⟨before, beforeEq, sameId, samePriority, sameProtocol, sameItem⟩ :=
      openingNext other after afterEq
    exact ⟨before, beforeEq, sameId, samePriority, sameProtocol, sameItem, rfl⟩
  · exact pair.receivesHere.of_same_bytes rfl rfl rfl (fun _ _ => rfl) fun _ _ reaches => reaches

theorem opens_openFrame {streamId opened : UInt32} {protocol : Protocol}
    {priority : StreamPriority}
    (isOpen : opens streamId (Multiplexer.openFrame opened protocol priority) = true) :
    opened = streamId :=
  of_decide_eq_true isOpen

theorem concerns_openFrame {streamId opened : UInt32} {protocol : Protocol}
    {priority : StreamPriority}
    (concerned : concerns streamId (Multiplexer.openFrame opened protocol priority) = true) :
    opened = streamId :=
  of_decide_eq_true concerned

/-- Two `open_stream` calls that wait are for different streams. -/
theorem Naming.opening_unique (naming : Naming owner endpoint) {first second : ChanId}
    {firstCall secondCall : Opening} (firstEq : endpoint.opening first = some firstCall)
    (secondEq : endpoint.opening second = some secondCall)
    (same : firstCall.streamId = secondCall.streamId) : first = second := by
  obtain ⟨firstPresent, firstId, -⟩ := naming.opening first firstCall firstEq
  obtain ⟨secondPresent, secondId, -⟩ := naming.opening second secondCall secondEq
  exact naming.unique first second firstPresent.1 secondPresent.1
    (firstId.symm.trans (same.trans secondId))

/-- The frame of an `open_stream` call may be queued behind the others: nothing
has been written to its stream yet, and no other frame opens it. -/
theorem Accounts.queueOpen {traffic : Traffic} {call : Opening}
    (accounts : Accounts side traffic endpoint) (allocating : Allocating side endpoint)
    (callEq : endpoint.opening chan = some call) (noneWritten : endpoint.written call.streamId = [])
    (unencodedEq : next.unencoded.map Prod.snd = endpoint.unencoded.map Prod.snd ++
      [Multiplexer.openFrame call.streamId call.protocol call.priority])
    (written : next.written = endpoint.written)
    (nextStreamId : next.mux.nextStreamId = endpoint.mux.nextStreamId)
    (isOpening : ∀ streamId, next.IsOpening streamId →
      endpoint.IsOpening streamId ∧ streamId ≠ call.streamId) : Accounts side traffic next := by
  have opening : endpoint.IsOpening call.streamId := ⟨chan, call, callEq, rfl⟩
  apply accounts.enqueue _ unencodedEq
  · intro streamId
    rw [written, dataIn_cons, dataIn_nil]
    exact (List.append_nil _).symm
  · exact nextStreamId
  · exact fun streamId now => (isOpening streamId now).1
  · intro streamId
    apply (accounts.ordered streamId).concat
    intro isOpen earlier member
    obtain rfl := opens_openFrame isOpen
    have nothing : dataIn call.streamId (traffic.frames endpoint) = [] := by
      have accounted := accounts.accounted call.streamId
      rw [noneWritten] at accounted
      exact (List.append_eq_nil_iff.mp accounted).2
    refine ⟨?_, List.flatMap_eq_nil_iff.mp nothing earlier member⟩
    by_contra earlierOpens
    exact (accounts.openers call.streamId ⟨earlier, member,
      Bool.not_eq_false _ ▸ earlierOpens⟩).2.2 opening
  · rintro streamId ⟨frame, member, isOpen⟩
    rw [List.mem_singleton.mp member] at isOpen
    obtain rfl := opens_openFrame isOpen
    obtain ⟨isLocal, bounded⟩ := allocating.opening call.streamId opening
    refine ⟨isLocal, by rw [nextStreamId]; exact bounded, fun now => ?_⟩
    exact (isOpening call.streamId now).2 rfl

include pair in
/-- An `open_stream` call has queued its frame: it comes before all data of the
stream, which its owner can send from now on. -/
theorem PairInvariant.finishOpen {chan : ChanId} {call : Opening}
    {outbox : Bounded PrioritizedFrame} (pool : ReadBufferPool)
    (callEq : endpoint.opening chan = some call)
    (queueEq : outbox.queue = endpoint.outbox.queue ++ [call.future.item])
    (nextEq : next = { endpoint with
      mux := { endpoint.mux with bufferPool := pool }
      outbox := outbox
      opening := Function.update endpoint.opening chan none
      handles := Function.update endpoint.handles chan
        (some ⟨.new call.streamId chan call.priority [] call.protocol, none⟩) }) :
    PairInvariant bincode side ledger peerLedger next peer outward inward := by
  have naming := pair.here.naming
  obtain ⟨present, idEq, noHandle⟩ := naming.opening chan call callEq
  obtain ⟨priorityEq, itemEq, noneWritten⟩ := pair.here.sending.opening chan call callEq
  have writtenEq : next.written = endpoint.written := by rw [nextEq]
  have waitingEq : next.waiting = endpoint.waiting := by
    rw [Endpoint.waiting, Endpoint.waiting, nextEq]
  have unencodedEq : next.unencoded = endpoint.unencoded ++ [call.future.item] := by
    rw [Endpoint.unencoded, nextEq, Endpoint.unencoded, List.append_assoc, ← queueEq]
  have hands : HandsOver endpoint next
      (.new call.streamId chan call.priority [] call.protocol) := by
    subst nextEq
    refine ⟨rfl, rfl, rfl, rfl, rfl, rfl, rfl, rfl, ?_, List.Sublist.refl _, ?_⟩
    · intro other after afterEq
      have different : other ≠ chan := by
        rintro rfl
        simp at afterEq
      exact ⟨different, (Function.update_of_ne different _ _).symm.trans afterEq⟩
    · intro stream member same
      have unopened := (naming.waiting stream member).2.2.2
      rw [same] at unopened
      cases unopened.symm.trans callEq
  have isOpening (streamId : UInt32) (now : next.IsOpening streamId) :
      endpoint.IsOpening streamId ∧ streamId ≠ call.streamId := by
    obtain ⟨other, after, afterEq, rfl⟩ := now
    obtain ⟨different, beforeEq⟩ := hands.opening other after afterEq
    exact ⟨⟨other, after, beforeEq, rfl⟩,
      fun same => different (naming.opening_unique beforeEq callEq same)⟩
  refine ⟨⟨hands.naming naming present idEq, ?_, ?_, ?_⟩, pair.there, ?_, ?_, ?_, ?_⟩
  · apply pair.here.sending.step
    · exact fun other made => (hands.kept.made_iff other).mpr made
    · exact hands.sending_handled pair.here.sending priorityEq rfl rfl
    · intro other after afterEq
      exact ⟨after, (hands.opening other after afterEq).2, rfl, rfl, rfl, rfl, by rw [writtenEq]⟩
    · rw [waitingEq]
      exact fun _ member => member
    · intro item member
      rw [unencodedEq] at member
      rcases List.mem_append.mp member with before | new
      · exact .inl before
      · rw [List.mem_singleton.mp new, itemEq]
        refine .inr ⟨?_, fun isData => absurd isData Bool.false_ne_true⟩
        intro streamId concerned
        obtain rfl := concerns_openFrame concerned
        exact ⟨priorityEq, chan, (hands.kept.made_iff chan).mpr present.1, idEq.symm⟩
    · rw [writtenEq]
      exact fun _ nonempty => .inl nonempty
  · exact pair.here.allocating.of_eq hands.nextStreamId fun streamId now =>
      (isOpening streamId now).1
  · apply pair.here.accounts.queueOpen pair.here.allocating callEq noneWritten ?_ writtenEq
      hands.nextStreamId isOpening
    rw [unencodedEq, List.map_append, itemEq]
    rfl
  · exact pair.carriesOut.of_eq (by rw [nextEq]) rfl rfl
  · exact pair.carriesIn.of_eq rfl (by rw [nextEq]) (by rw [nextEq])
  · refine pair.receivesThere.of_sender rfl fun streamId expected => ?_
    refine expected.of_sender hands.nextStreamId (fun now => (isOpening streamId now).1) ?_
    intro frame member opened
    rw [Traffic.frames, unencodedEq, List.map_append, ← List.append_assoc, itemEq] at member
    rcases List.mem_append.mp member with before | new
    · exact .inr before
    · rw [List.mem_singleton.mp new] at opened
      obtain rfl := opens_openFrame opened
      exact .inl ⟨chan, call, callEq, rfl⟩
  · exact hands.receives noHandle rfl pair.receivesHere

include pair in
theorem PairInvariant.pollOpen {now : Nat} (stepEq : endpoint.pollOpen chan now = some next) :
    PairInvariant bincode side ledger peerLedger next peer outward inward := by
  unfold Endpoint.pollOpen at stepEq
  cases callEq : endpoint.opening chan with
  | none =>
      rw [callEq] at stepEq
      cases stepEq
  | some call =>
      simp only [callEq] at stepEq
      rcases call.future.poll_cases endpoint.outbox now with
        ⟨outbox, polled, queueEq, _⟩ | ⟨failure, polled⟩ | ⟨later, polled, itemEq⟩ <;>
        simp only [polled, Option.some.injEq] at stepEq <;> subst stepEq
      · refine pair.finishOpen endpoint.mux.bufferPool.acquireOrDefault.2 callEq queueEq ?_
        simp only [Multiplexer.makeStream, ReadBufferPool.acquireOrDefault_fst]
      · exact pair.abandonOpen callEq
      · exact pair.waitOpen callEq itemEq

end FerroTunnel.Link
