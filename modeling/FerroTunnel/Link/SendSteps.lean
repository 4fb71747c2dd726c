import FerroTunnel.Link.FrameRules
import FerroTunnel.Stream.WriteLimit

/-!
# Sending keeps the invariant

Writes, shutdowns and other frames enter the wire channel at its end; the
sender moves frames from the channel to its batch, encodes the batch and hands
its bytes to the writer.
-/

namespace FerroTunnel.Link

open FerroTunnel.Channel
open FerroTunnel.Stream
open FerroTunnel.Transport
open FerroTunnel.Wire

variable {bincode : Bincode} {side : Side} {ledger peerLedger : Ledger}
  {endpoint next peer : Endpoint} {outward inward : Bytes}
  (pair : PairInvariant bincode side ledger peerLedger endpoint peer outward inward)
  {chan : ChanId} {handle : Handle}

/-- The bytes of a channel's owner, by where they are. -/
theorem buffered_congr (channels : next.mux.channels chan = endpoint.mux.channels chan)
    (task : taskBytes next.task chan = taskBytes endpoint.task chan)
    (unread : (next.handles chan).elim [] (fun handle => handle.stream.unread) =
      (endpoint.handles chan).elim [] (fun handle => handle.stream.unread)) :
    next.buffered chan = endpoint.buffered chan := by
  rw [Endpoint.buffered, Endpoint.buffered, channels, task, unread]

/-- A step that only queues frames: it keeps the reading half of every stream and
all that is received, and each frame is one its endpoint may send. -/
structure Queues (bincode : Bincode) (ledger : Ledger) (endpoint next : Endpoint)
    (items : List PrioritizedFrame) : Prop where
  mux : next.mux = endpoint.mux
  task : next.task = endpoint.task
  sender : next.sender = endpoint.sender
  received : next.received = endpoint.received
  reading : next.reading = endpoint.reading
  opening : next.opening = endpoint.opening
  delivered : next.delivered = endpoint.delivered
  handled : ∀ chan after, next.handles chan = some after → ∃ before,
    endpoint.handles chan = some before ∧ after.stream.rx = before.stream.rx ∧
      after.stream.streamId = before.stream.streamId ∧
      after.stream.priority = before.stream.priority ∧
      after.stream.unread = before.stream.unread ∧ PendingWrite after
  unhandled : ∀ chan, next.handles chan = none → endpoint.handles chan = none
  queue : next.outbox.queue = endpoint.outbox.queue ++ items
  opensNone : ∀ item ∈ items, ∀ streamId, opens streamId item.2 = false
  own : ∀ item ∈ items, ∀ streamId, concerns streamId item.2 = true →
    item.1 = ledger.priority streamId ∧
      ∃ chan, endpoint.Made chan ∧ ledger.owner chan = streamId
  encodable : ∀ item ∈ items, item.2.isData = true → isEncodable .default bincode item.2 = true
  written : ∀ streamId, next.written streamId =
    endpoint.written streamId ++ dataIn streamId (items.map Prod.snd)
  silent : ∀ streamId, endpoint.IsOpening streamId → dataIn streamId (items.map Prod.snd) = []

theorem dataIn_ne_nil {streamId : UInt32} {frames : List Frame}
    (nonempty : dataIn streamId frames ≠ []) :
    ∃ frame ∈ frames, concerns streamId frame = true := by
  by_contra none
  apply nonempty
  apply List.flatMap_eq_nil_iff.mpr
  intro frame member
  apply dataOf_of_not_concerns
  by_contra concerned
  exact none ⟨frame, member, Bool.not_eq_false _ ▸ concerned⟩

namespace Queues

variable {items : List PrioritizedFrame} (queues : Queues bincode ledger endpoint next items)

include queues

theorem made_eq : next.Made = endpoint.Made := by
  funext chan
  rw [Endpoint.Made, Endpoint.Made, queues.mux]

theorem isOpening_eq : next.IsOpening = endpoint.IsOpening := by
  funext streamId
  rw [Endpoint.IsOpening, Endpoint.IsOpening, queues.opening]

theorem waiting_eq : next.waiting = endpoint.waiting := by
  rw [Endpoint.waiting, Endpoint.waiting, queues.mux, queues.task]

theorem unencoded_eq : next.unencoded = endpoint.unencoded ++ items := by
  rw [Endpoint.unencoded, queues.sender, queues.queue, ← List.append_assoc]
  rfl

theorem not_opens {frame : Frame} (member : frame ∈ items.map Prod.snd) (streamId : UInt32) :
    ¬ opens streamId frame = true := by
  obtain ⟨item, itemMem, rfl⟩ := List.mem_map.mp member
  rw [queues.opensNone item itemMem]
  exact Bool.false_ne_true

theorem naming (before : Naming ledger.owner endpoint) : Naming ledger.owner next := by
  have kept : NamesKept endpoint next :=
    .of_eq (by rw [queues.mux]) (by rw [queues.mux]) (by rw [queues.mux]) queues.task
  refine before.of_halves kept ?_ ?_ ?_ ?_
  · simp [queues.mux]
  · intro chan after afterEq
    obtain ⟨handle, beforeEq, rxEq, idEq, _⟩ := queues.handled chan after afterEq
    exact ⟨handle, beforeEq, rxEq, idEq⟩
  · intro chan call callEq
    rw [queues.opening] at callEq
    exact ⟨call, callEq, rfl⟩
  · rw [queues.waiting_eq]

theorem sending (before : Sending bincode ledger.owner ledger.priority endpoint) :
    Sending bincode ledger.owner ledger.priority next := by
  apply before.step
  · rw [queues.made_eq]
    exact fun _ made => made
  · intro chan after afterEq
    obtain ⟨handle, beforeEq, _, idEq, priorityEq, _, pendingWrite⟩ :=
      queues.handled chan after afterEq
    rw [priorityEq, idEq]
    exact ⟨(before.handled chan handle beforeEq).1, pendingWrite⟩
  · intro chan call callEq
    rw [queues.opening] at callEq
    refine ⟨call, callEq, rfl, rfl, rfl, rfl, ?_⟩
    rw [queues.written, queues.silent _ ⟨chan, call, callEq, rfl⟩, List.append_nil]
  · rw [queues.waiting_eq]
    exact fun _ member => member
  · intro item member
    rw [queues.unencoded_eq] at member
    rcases List.mem_append.mp member with old | new
    · exact .inl old
    · rw [queues.made_eq]
      exact .inr ⟨queues.own item new, queues.encodable item new⟩
  · intro streamId nonempty
    rw [queues.written] at nonempty
    by_cases silent : endpoint.written streamId = []
    · rw [silent, List.nil_append] at nonempty
      obtain ⟨frame, member, concerned⟩ := dataIn_ne_nil nonempty
      obtain ⟨item, itemMem, rfl⟩ := List.mem_map.mp member
      rw [queues.made_eq]
      exact .inr (queues.own item itemMem streamId concerned).2
    · exact .inl silent

/-- No frame that is queued opens a stream, so each is still opened before all else. -/
theorem accounts (before : Accounts side ledger.sent endpoint) :
    Accounts side ledger.sent next := by
  refine before.enqueue (items.map Prod.snd) ?_ queues.written (by rw [queues.mux]) ?_ ?_ ?_
  · rw [queues.unencoded_eq, List.map_append]
  · rw [queues.isOpening_eq]
    exact fun _ isOpening => isOpening
  · intro streamId
    rw [OpensFirst, List.pairwise_append]
    refine ⟨before.ordered streamId, ?_, ?_⟩
    · apply List.pairwise_of_forall_mem_list
      intro earlier _ later member opened
      exact absurd opened (queues.not_opens member streamId)
    · intro earlier _ later member opened
      exact absurd opened (queues.not_opens member streamId)
  · rintro streamId ⟨frame, member, opened⟩
    exact absurd opened (queues.not_opens member streamId)

theorem receivesThere (before : Receives side peerLedger.owner ledger.sent endpoint peer) :
    Receives side peerLedger.owner ledger.sent next peer := by
  have framesEq : ledger.sent.frames next =
      ledger.sent.frames endpoint ++ items.map Prod.snd := by
    rw [Traffic.frames, queues.unencoded_eq, List.map_append, ← List.append_assoc]
    rfl
  refine before.of_sender rfl ?_
  intro streamId expected
  refine expected.of_sender (by rw [queues.mux]) (by rw [queues.isOpening_eq]; exact id) ?_
  intro frame member opened
  rw [framesEq] at member
  rcases List.mem_append.mp member with old | new
  · exact .inr old
  · exact absurd opened (queues.not_opens new streamId)

theorem receivesHere (before : Receives side.peer ledger.owner peerLedger.sent peer endpoint) :
    Receives side.peer ledger.owner peerLedger.sent peer next := by
  refine before.of_same_bytes (by rw [queues.mux]) (by rw [queues.mux]) queues.delivered ?_ ?_
  · intro chan _
    refine buffered_congr (by rw [queues.mux]) (by rw [queues.task]) ?_
    cases after : next.handles chan with
    | none => rw [queues.unhandled chan after]
    | some handle =>
        obtain ⟨earlier, beforeEq, _, _, _, unreadEq, _⟩ := queues.handled chan handle after
        rw [beforeEq]
        exact unreadEq
  · intro chan _ reaches
    rw [Reaches, queues.mux] at reaches
    exact reaches

include pair in
theorem pairInvariant :
    PairInvariant bincode side ledger peerLedger next peer outward inward := by
  refine ⟨⟨queues.naming pair.here.naming, queues.sending pair.here.sending, ?_,
    queues.accounts pair.here.accounts⟩, pair.there, ?_, ?_,
    queues.receivesThere pair.receivesThere, queues.receivesHere pair.receivesHere⟩
  · refine pair.here.allocating.of_eq (by rw [queues.mux]) ?_
    rw [queues.isOpening_eq]
    exact fun _ isOpening => isOpening
  · exact pair.carriesOut.of_eq queues.sender rfl rfl
  · exact pair.carriesIn.of_eq rfl queues.received queues.reading

end Queues

/-! ## Writes -/

/-- A stream in the hands of its owner is not being opened. -/
theorem Naming.not_isOpening {owner : ChanId → UInt32} (naming : Naming owner endpoint)
    (handled : endpoint.handles chan = some handle) :
    ¬endpoint.IsOpening handle.stream.streamId := by
  rintro ⟨other, call, callEq, idEq⟩
  obtain ⟨⟨made, _⟩, _, handleId⟩ := naming.handled chan handle handled
  obtain ⟨⟨otherMade, _⟩, callId, noHandle⟩ := naming.opening other call callEq
  have same : other = chan :=
    naming.unique other chan otherMade made (callId.symm.trans (idEq.trans handleId))
  rw [same, handled] at noHandle
  cases noHandle

theorem dataOf_dataFrame (stream : VirtualStream) (buf : Bytes) (streamId : UInt32) :
    dataOf streamId (stream.dataFrame buf) =
      if stream.streamId = streamId then buf.take (min buf.length MAX_DATA_FRAME_PAYLOAD)
      else [] :=
  rfl

theorem isEncodable_dataFrame (stream : VirtualStream) (buf : Bytes) :
    isEncodable .default bincode (stream.dataFrame buf) = true := by
  rw [VirtualStream.dataFrame, isEncodable_data_iff, List.length_take]
  have small : min (min buf.length MAX_DATA_FRAME_PAYLOAD) buf.length ≤ MAX_DATA_FRAME_PAYLOAD :=
    Nat.le_trans (Nat.min_le_left _ _) (Nat.min_le_right _ _)
  exact Nat.le_trans (Nat.add_le_add_right small 6) (by decide)

/-- A caller that retries its writes is told the length of what it sends. -/
theorem PendingWrite.writeItem_cases (pendingWrite : PendingWrite handle) {buf : Bytes}
    (retries : ∀ waiting, handle.retry = some waiting → waiting = buf) :
    (handle.stream.writeItem buf = handle.stream.closeItem ∧ handle.stream.writeLen buf = 0) ∨
    (handle.stream.writeItem buf = (handle.stream.priority, handle.stream.dataFrame buf) ∧
      handle.stream.writeLen buf = min buf.length MAX_DATA_FRAME_PAYLOAD) := by
  cases pendingEq : handle.stream.pendingSend with
  | none => exact .inr ⟨by simp [VirtualStream.writeItem, pendingEq],
      by simp [VirtualStream.writeLen, pendingEq]⟩
  | some future =>
      have itemEq : handle.stream.writeItem buf = future.item := by
        simp [VirtualStream.writeItem, pendingEq]
      have lenEq : handle.stream.writeLen buf = handle.stream.pendingSendLen := by
        simp [VirtualStream.writeLen, pendingEq]
      rw [itemEq, lenEq]
      rcases pendingWrite.pending future pendingEq with closing | ⟨waiting, retryEq, data, len⟩
      · exact .inl closing
      · rw [retries waiting retryEq] at data len
        exact .inr ⟨data, len⟩

/-- A poll of one stream that queues its own frames. -/
theorem queues_of_handle {items : List PrioritizedFrame}
    (here : EndpointInvariant bincode side ledger endpoint)
    (handled : endpoint.handles chan = some handle) (after : Handle)
    (outbox : Bounded PrioritizedFrame) (written : UInt32 → Bytes)
    (rx : after.stream.rx = handle.stream.rx)
    (streamId : after.stream.streamId = handle.stream.streamId)
    (priority : after.stream.priority = handle.stream.priority)
    (unread : after.stream.unread = handle.stream.unread) (pendingWrite : PendingWrite after)
    (queue : outbox.queue = endpoint.outbox.queue ++ items)
    (own : ∀ item ∈ items, item = handle.stream.closeItem ∨
      ∃ buf, item = (handle.stream.priority, handle.stream.dataFrame buf))
    (writtenEq : ∀ streamId, written streamId =
      endpoint.written streamId ++ dataIn streamId (items.map Prod.snd)) :
    Queues bincode ledger endpoint
      ({ endpoint with outbox := outbox, written := written }.setHandle chan (some after))
      items := by
  obtain ⟨⟨made, _⟩, _, idEq⟩ := here.naming.handled chan handle handled
  have concernsOwn {item : PrioritizedFrame} (member : item ∈ items) {id : UInt32}
      (concerned : concerns id item.2 = true) :
      item.1 = handle.stream.priority ∧ handle.stream.streamId = id := by
    rcases own item member with rfl | ⟨buf, rfl⟩
    · cases concerned
    · exact ⟨rfl, of_decide_eq_true concerned⟩
  refine ⟨rfl, rfl, rfl, rfl, rfl, rfl, rfl, ?_, ?_, queue, ?_, ?_, ?_, writtenEq, ?_⟩
  · intro other afterOther afterEq
    by_cases same : other = chan
    · subst same
      have : some after = some afterOther := by simpa [Endpoint.setHandle] using afterEq
      cases this
      exact ⟨handle, handled, rx, streamId, priority, unread, pendingWrite⟩
    · have before : endpoint.handles other = some afterOther := by
        simpa [Endpoint.setHandle, same] using afterEq
      exact ⟨afterOther, before, rfl, rfl, rfl, rfl,
        (here.sending.handled other afterOther before).2⟩
  · intro other noneEq
    by_cases same : other = chan
    · simp [Endpoint.setHandle, same] at noneEq
    · simpa [Endpoint.setHandle, same] using noneEq
  · intro item member id
    rcases own item member with rfl | ⟨buf, rfl⟩ <;> rfl
  · intro item member id concerned
    obtain ⟨priorityEq, rfl⟩ := concernsOwn member concerned
    rw [priorityEq, (here.sending.handled chan handle handled).1]
    exact ⟨rfl, chan, made, idEq.symm⟩
  · intro item member isData
    rcases own item member with rfl | ⟨buf, rfl⟩
    · cases isData
    · exact isEncodable_dataFrame _ _
  · intro id isOpening
    by_contra nonempty
    obtain ⟨frame, member, concerned⟩ := dataIn_ne_nil nonempty
    obtain ⟨item, itemMem, rfl⟩ := List.mem_map.mp member
    obtain ⟨_, rfl⟩ := concernsOwn itemMem concerned
    exact here.naming.not_isOpening handled isOpening

/-- A write that succeeds records what its frame carries. -/
theorem PendingWrite.written_eq (pendingWrite : PendingWrite handle) {buf : Bytes}
    (retries : ∀ waiting, handle.retry = some waiting → waiting = buf) (written : UInt32 → Bytes)
    (streamId : UInt32) :
    Function.update written handle.stream.streamId
        (written handle.stream.streamId ++ buf.take (handle.stream.writeLen buf)) streamId =
      written streamId ++ dataOf streamId (handle.stream.writeItem buf).2 := by
  by_cases same : streamId = handle.stream.streamId
  · subst same
    rw [Function.update_self]
    rcases pendingWrite.writeItem_cases retries with ⟨itemEq, lenEq⟩ | ⟨itemEq, lenEq⟩
    · rw [itemEq, lenEq]
      rfl
    · rw [itemEq, lenEq, dataOf_dataFrame, if_pos rfl]
  · rw [Function.update_of_ne same]
    rcases pendingWrite.writeItem_cases retries with ⟨itemEq, _⟩ | ⟨itemEq, _⟩
    · rw [itemEq]
      exact (List.append_nil _).symm
    · rw [itemEq, dataOf_dataFrame, if_neg (Ne.symm same), List.append_nil]

include pair in
theorem PairInvariant.pollWrite {now : Nat} {buf : Bytes}
    (retries : ∀ handle, endpoint.handles chan = some handle →
      ∀ waiting, handle.retry = some waiting → waiting = buf)
    (stepEq : endpoint.pollWrite chan now buf = some next) :
    PairInvariant bincode side ledger peerLedger next peer outward inward := by
  unfold Endpoint.pollWrite at stepEq
  cases handled : endpoint.handles chan with
  | none =>
      rw [handled] at stepEq
      cases stepEq
  | some handle =>
      have pendingWrite := (pair.here.sending.handled chan handle handled).2
      have itemCases := pendingWrite.writeItem_cases (retries handle handled)
      simp only [handled] at stepEq
      rcases handle.stream.pollWrite_cases endpoint.outbox now buf with
        ⟨outbox, polled, queueEq, _⟩ | ⟨failure, polled⟩ | ⟨future, polled, itemEq⟩ <;>
        rw [polled] at stepEq <;> cases stepEq
      · refine (queues_of_handle pair.here handled
          ⟨{ handle.stream with pendingSend := none, pendingSendLen := 0 }, none⟩ outbox _
          rfl rfl rfl rfl ⟨fun _ => rfl, by simp⟩ queueEq ?_ ?_).pairInvariant pair
        · intro item member
          rw [List.mem_singleton.mp member]
          exact itemCases.imp And.left fun data => ⟨buf, data.1⟩
        · intro streamId
          rw [List.map_singleton, dataIn_cons, dataIn_nil, List.append_nil]
          exact pendingWrite.written_eq (retries handle handled) endpoint.written streamId
      · exact (queues_of_handle pair.here handled
          ⟨{ handle.stream with pendingSend := none, pendingSendLen := 0 }, none⟩
          endpoint.outbox endpoint.written rfl rfl rfl rfl ⟨fun _ => rfl, by simp⟩
          (List.append_nil _).symm (by simp) (by simp)).pairInvariant pair
      · refine (queues_of_handle pair.here handled
          ⟨{ handle.stream with
            pendingSend := some future
            pendingSendLen := handle.stream.writeLen buf }, some buf⟩
          endpoint.outbox endpoint.written rfl rfl rfl rfl ⟨by simp, ?_⟩
          (List.append_nil _).symm (by simp) (by simp)).pairInvariant pair
        rintro other ⟨⟩
        rcases itemCases with ⟨closing, len⟩ | ⟨data, len⟩
        · exact .inl ⟨itemEq.trans closing, len⟩
        · exact .inr ⟨buf, rfl, itemEq.trans data, len⟩

include pair in
theorem PairInvariant.pollShutdown {now : Nat}
    (retries : ∀ handle, endpoint.handles chan = some handle → handle.retry = none)
    (stepEq : endpoint.pollShutdown chan now = some next) :
    PairInvariant bincode side ledger peerLedger next peer outward inward := by
  unfold Endpoint.pollShutdown at stepEq
  cases handled : endpoint.handles chan with
  | none =>
      rw [handled] at stepEq
      cases stepEq
  | some handle =>
      have pendingWrite := (pair.here.sending.handled chan handle handled).2
      have closing (future : SendFuture) (pendingEq : handle.stream.pendingSend = some future) :
          future.item = handle.stream.closeItem ∧ handle.stream.pendingSendLen = 0 := by
        rcases pendingWrite.pending future pendingEq with closing | ⟨waiting, retryEq, _⟩
        · exact closing
        · rw [retries handle handled] at retryEq
          cases retryEq
      have idleLen : handle.stream.pendingSendLen = 0 := by
        cases pendingEq : handle.stream.pendingSend with
        | none => exact pendingWrite.idle pendingEq
        | some future => exact (closing future pendingEq).2
      obtain ⟨⟨count, queueEq⟩, _, same, stillClosing, length⟩ :=
        handle.stream.pollShutdown_step endpoint.outbox now fun future pendingEq =>
          (closing future pendingEq).1
      simp only [handled, Option.some.injEq] at stepEq
      subst stepEq
      have lenZero : (handle.stream.pollShutdown endpoint.outbox now).2.1.pendingSendLen = 0 :=
        length.elim (fun kept => kept.trans idleLen) id
      refine (queues_of_handle pair.here handled
        { handle with stream := (handle.stream.pollShutdown endpoint.outbox now).2.1 } _
        endpoint.written (by rw [same]) (by rw [same]) (by rw [same])
        (by rw [same]; rfl) ⟨fun _ => lenZero, ?_⟩ queueEq ?_ ?_).pairInvariant pair
      · intro future pendingEq
        left
        refine ⟨?_, lenZero⟩
        rw [stillClosing future pendingEq, same]
        rfl
      · intro item member
        exact .inl (List.eq_of_mem_replicate member)
      · intro streamId
        have nothing : dataIn streamId ((List.replicate count handle.stream.closeItem).map
            Prod.snd) = [] := by
          rw [List.map_replicate]
          apply List.flatMap_eq_nil_iff.mpr
          intro frame member
          rw [List.eq_of_mem_replicate member]
          rfl
        rw [nothing, List.append_nil]

include pair in
theorem PairInvariant.sendFrame {frame : Frame} (stepEq : endpoint.sendFrame frame = some next) :
    PairInvariant bincode side ledger peerLedger next peer outward inward := by
  have silent : (∀ streamId, concerns streamId frame = false) ∧ frame.isData = false := by
    cases frame <;> first | exact ⟨fun _ => rfl, rfl⟩ | cases stepEq
  obtain ⟨outbox, items, rfl, queueEq, itemsEq⟩ :
      ∃ outbox, ∃ items : List PrioritizedFrame, next = { endpoint with outbox := outbox } ∧
        outbox.queue = endpoint.outbox.queue ++ items ∧ ∀ item ∈ items, item.2 = frame := by
    have nextEq : next = { endpoint with outbox := (endpoint.outbox.trySend
        (Multiplexer.priorityForFrame frame endpoint.mux.streamPriorities, frame)).2 } := by
      cases frame <;> cases stepEq <;> rfl
    rcases endpoint.outbox.trySend_cases
        (Multiplexer.priorityForFrame frame endpoint.mux.streamPriorities, frame) with
      ⟨after, sent, _, queueEq, _⟩ | full | ⟨closed, _⟩
    · exact ⟨_, _, nextEq, by rw [sent, queueEq], by simp⟩
    · exact ⟨_, [], nextEq, by rw [full, List.append_nil], by simp⟩
    · exact ⟨_, [], nextEq, by rw [closed, List.append_nil], by simp⟩
  have nothing (streamId : UInt32) : dataIn streamId (items.map Prod.snd) = [] := by
    apply List.flatMap_eq_nil_iff.mpr
    intro other member
    obtain ⟨item, itemMem, rfl⟩ := List.mem_map.mp member
    rw [itemsEq item itemMem]
    exact dataOf_of_not_concerns (silent.1 streamId)
  have queues : Queues bincode ledger endpoint { endpoint with outbox := outbox } items := by
    refine ⟨rfl, rfl, rfl, rfl, rfl, rfl, rfl, ?_, fun _ => id, queueEq, ?_, ?_, ?_, ?_,
      fun streamId _ => nothing streamId⟩
    · intro chan after afterEq
      exact ⟨after, afterEq, rfl, rfl, rfl, rfl, (pair.here.sending.handled chan after afterEq).2⟩
    · intro item member streamId
      rw [itemsEq item member]
      exact opens_of_not_concerns (silent.1 streamId)
    · intro item member streamId concerned
      rw [itemsEq item member, silent.1 streamId] at concerned
      cases concerned
    · intro item member isData
      rw [itemsEq item member, silent.2] at isData
      cases isData
    · intro streamId
      rw [nothing, List.append_nil]
  exact queues.pairInvariant pair

/-! ## The batched sender -/

include pair in
/-- A step of the sender moves frames and bytes towards the peer. -/
theorem PairInvariant.of_sender {task : SenderTask} {outbox : Bounded PrioritizedFrame}
    {after : Bytes}
    (nextEq : next = { endpoint with sender := task, outbox := outbox }) (traffic : Traffic)
    (arrived : traffic.arrived = ledger.sent.arrived)
    (unencoded : ∀ item ∈ next.unencoded, item ∈ endpoint.unencoded)
    (frames : ∀ frame ∈ traffic.frames next, frame ∈ ledger.sent.frames endpoint)
    (data : ∀ streamId, dataIn streamId (traffic.frames next) =
      dataIn streamId (ledger.sent.frames endpoint))
    (ordered : ∀ streamId, OpensFirst streamId (traffic.frames next))
    (carries : Carries bincode traffic next peer after) :
    PairInvariant bincode side { ledger with sent := traffic } peerLedger next peer after
      inward := by
  subst nextEq
  refine ⟨⟨?_, ?_, ?_, ?_⟩, pair.there, carries, ?_, ?_, ?_⟩
  · exact pair.here.naming.of_halves (.of_eq rfl rfl rfl rfl) (fun _ _ => rfl)
      (fun _ handle handled => ⟨handle, handled, rfl, rfl⟩)
      (fun _ call callEq => ⟨call, callEq, rfl⟩) (List.Sublist.refl _)
  · exact pair.here.sending.of_eq rfl pair.here.sending.handled (fun _ _ call => call)
      (fun _ member => member) unencoded rfl
  · exact pair.here.allocating.of_eq rfl fun _ isOpening => isOpening
  · refine ⟨?_, ordered, ?_⟩
    · intro streamId
      rw [arrived, data]
      exact pair.here.accounts.accounted streamId
    · rintro streamId ⟨frame, member, opened⟩
      exact pair.here.accounts.openers streamId ⟨frame, frames frame member, opened⟩
  · exact pair.carriesIn.of_eq rfl rfl rfl
  · refine pair.receivesThere.of_sender arrived fun streamId expected => ?_
    exact expected.of_sender rfl id fun frame member _ => .inr (frames frame member)
  · exact pair.receivesHere.of_same_bytes rfl rfl rfl (fun _ _ => rfl) fun _ _ reaches => reaches

/-- The bytes the sender has given away, while it has a batch and nothing to write. -/
theorem Carries.bytes_of_collecting {traffic : Traffic} {frames : List PrioritizedFrame}
    {yielded : Bool} (carries : Carries bincode traffic endpoint peer outward)
    (senderEq : endpoint.sender = .collecting frames yielded) (reading : peer.reading = true) :
    peer.received ++ outward = traffic.inFlight.flatMap (wireImage bincode) := by
  have bytes := carries.bytes reading
  have noneLost : traffic.lost = [] := carries.lost (by rw [senderEq]; simp)
  rw [senderEq, noneLost] at bytes
  simpa only [SenderTask.unwritten, List.append_nil] using bytes

include pair in
/-- The sender encodes its batch: the frames that can be encoded are on their way, in the
order of their priorities. -/
theorem PairInvariant.of_flushed {frames : List PrioritizedFrame} {yielded : Bool}
    {outbox : Bounded PrioritizedFrame}
    (senderEq : endpoint.sender = .collecting frames yielded)
    (queueEq : outbox.queue = endpoint.outbox.queue)
    (nextEq : next =
      { endpoint with sender := flushBatch .default bincode frames, outbox := outbox }) :
    PairInvariant bincode side { ledger with sent := { ledger.sent with
        inFlight := ledger.sent.inFlight ++ flushed .default bincode frames } }
      peerLedger next peer outward inward := by
  have batchEq : endpoint.sender.batch = frames := by rw [senderEq]; rfl
  have noneLost : ledger.sent.lost = [] := pair.carriesOut.lost (by rw [senderEq]; simp)
  have priorityOf (streamId : UInt32) (item : PrioritizedFrame) (member : item ∈ frames)
      (concerned : concerns streamId item.2 = true) : item.1 = ledger.priority streamId :=
    (pair.here.sending.queued item (by simp [Endpoint.unencoded, batchEq, member]) streamId
      concerned).1
  have encodable (item : PrioritizedFrame) (member : item ∈ frames)
      (isData : item.2.isData = true) : isEncodable .default bincode item.2 = true :=
    pair.here.sending.encodable item (by simp [Endpoint.unencoded, batchEq, member]) isData
  have unencodedEq : next.unencoded = endpoint.outbox.queue := by
    rw [Endpoint.unencoded, nextEq, flushBatch_batch, queueEq, List.nil_append]
  have before : ledger.sent.frames endpoint = ledger.sent.inFlight ++
      (frames.map Prod.snd ++ endpoint.outbox.queue.map Prod.snd) := by
    rw [Traffic.frames, Endpoint.unencoded, batchEq, List.map_append]
  have after : Traffic.frames { ledger.sent with
        inFlight := ledger.sent.inFlight ++ flushed .default bincode frames } next =
      ledger.sent.inFlight ++
        (flushed .default bincode frames ++ endpoint.outbox.queue.map Prod.snd) := by
    rw [Traffic.frames, unencodedEq, List.append_assoc]
  refine pair.of_sender nextEq _ rfl ?_ ?_ ?_ ?_ ⟨?_, ?_, ?_⟩
  · rw [unencodedEq]
    exact fun item member => List.mem_append_right _ member
  · rw [after, before]
    intro frame member
    rcases List.mem_append.mp member with inFlight | member
    · exact List.mem_append_left _ inFlight
    rcases List.mem_append.mp member with fromBatch | queued
    · refine List.mem_append_right _ (List.mem_append_left _ ?_)
      obtain ⟨item, itemMem, rfl⟩ := List.mem_map.mp (List.mem_filter.mp fromBatch).1
      exact List.mem_map_of_mem (mem_sortByDrainOrder.mp itemMem)
    · exact List.mem_append_right _ (List.mem_append_right _ queued)
  · intro streamId
    rw [after, before]
    simp only [dataIn_append, dataIn_flushed (priorityOf streamId) encodable]
  · intro streamId
    have ordered := pair.here.accounts.ordered streamId
    rw [before] at ordered
    rw [after]
    exact ordered.flushed (priorityOf streamId)
  · intro reading
    rw [nextEq, flushBatch_unwritten, noneLost, List.append_nil, List.flatMap_append,
      ← pair.carriesOut.bytes_of_collecting senderEq reading]
    simp [flushed]
  · exact fun _ => noneLost
  · intro frame member
    rcases List.mem_append.mp member with inFlight | new
    · exact pair.carriesOut.encodable frame inFlight
    · exact isEncodable_of_mem_flushed new

include pair in
/-- A step of the sender that moves no frame out of reach of the accounts. -/
theorem PairInvariant.of_sender_same_frames {task : SenderTask}
    {outbox : Bounded PrioritizedFrame} {after : Bytes}
    (nextEq : next = { endpoint with sender := task, outbox := outbox }) (lost : Bytes)
    (unencoded : next.unencoded = endpoint.unencoded)
    (carries : Carries bincode { ledger.sent with lost := lost } next peer after) :
    PairInvariant bincode side { ledger with sent := { ledger.sent with lost := lost } }
      peerLedger next peer after inward := by
  have framesEq : { ledger.sent with lost := lost }.frames next = ledger.sent.frames endpoint := by
    rw [Traffic.frames, unencoded]
    rfl
  refine pair.of_sender nextEq _ rfl ?_ ?_ ?_ ?_ carries
  · rw [unencoded]
    exact fun _ member => member
  · rw [framesEq]
    exact fun _ member => member
  · rw [framesEq]
    exact fun _ => rfl
  · rw [framesEq]
    exact pair.here.accounts.ordered

include pair in
theorem PairInvariant.collect (stepEq : endpoint.collect bincode = some next) :
    ∃ sent, PairInvariant bincode side { ledger with sent := sent } peerLedger next peer outward
      inward := by
  unfold Endpoint.collect at stepEq
  split at stepEq
  · rename_i frames yielded senderEq
    rcases collected : Transport.collect .default bincode endpoint.outbox false frames yielded with
      ⟨task, outbox⟩
    rw [collected] at stepEq
    have nextEq : next = { endpoint with sender := task, outbox := outbox } := by
      cases stepEq
      rfl
    have batchEq : endpoint.sender.batch = frames := by rw [senderEq]; rfl
    have unmoved (unwritten : task.unwritten = [])
        (unencodedEq : next.unencoded = endpoint.unencoded) :
        ∃ sent, PairInvariant bincode side { ledger with sent := sent } peerLedger next peer
          outward inward := by
      refine ⟨_, pair.of_sender_same_frames nextEq [] unencodedEq
        ⟨?_, fun _ => rfl, pair.carriesOut.encodable⟩⟩
      intro reading
      rw [nextEq, unwritten, List.append_nil, List.append_nil]
      exact pair.carriesOut.bytes_of_collecting senderEq reading
    rcases collect_cases endpoint.outbox false frames yielded collected with
      ⟨moved, flag, taskEq, queueEq⟩ | ⟨taskEq, queueEq⟩ | ⟨taskEq, noFrames, queueEq⟩
    · apply unmoved
      · rw [taskEq]
        rfl
      · rw [Endpoint.unencoded, Endpoint.unencoded, nextEq, batchEq, taskEq, ← queueEq,
          ← List.append_assoc]
        rfl
    · rw [taskEq] at nextEq
      exact ⟨_, pair.of_flushed senderEq queueEq nextEq⟩
    · apply unmoved
      · rw [taskEq]
        rfl
      · rw [Endpoint.unencoded, Endpoint.unencoded, nextEq, batchEq, taskEq, queueEq, noFrames]
        rfl
  · cases stepEq

include pair in
/-- The writer fails: what it did not accept is lost, and so is all that follows. -/
theorem PairInvariant.stopSender {cursor : WriteCursor}
    (writing : endpoint.sender = .writing cursor) :
    ∃ sent, PairInvariant bincode side { ledger with sent := sent } peerLedger
      (Connection.stopSender endpoint) peer outward inward := by
  have carries := pair.carriesOut
  have unencodedEq : (Connection.stopSender endpoint).unencoded = endpoint.unencoded := by
    rw [Endpoint.unencoded, Endpoint.unencoded, writing]
    rfl
  refine ⟨_, pair.of_sender_same_frames rfl cursor.unwritten unencodedEq
    ⟨?_, fun running => absurd rfl running, carries.encodable⟩⟩
  have bytes := carries.bytes
  rw [writing, carries.lost (by rw [writing]; simp), List.append_nil] at bytes
  exact bytes

include pair in
/-- One turn of the write loop hands the accepted bytes to the wire. -/
theorem PairInvariant.writeTurn {cursor : WriteCursor} (task : SenderTask) (accepted : Bytes)
    (writing : endpoint.sender = .writing cursor) (batch : task.batch = [])
    (bytes : accepted ++ task.unwritten = cursor.unwritten) :
    PairInvariant bincode side ledger peerLedger { endpoint with sender := task } peer
      (outward ++ accepted) inward := by
  have carries := pair.carriesOut
  have noneLost : ledger.sent.lost = [] := carries.lost (by rw [writing]; simp)
  have unencodedEq : { endpoint with sender := task }.unencoded = endpoint.unencoded := by
    rw [Endpoint.unencoded, Endpoint.unencoded, writing, batch]
    rfl
  have carriesNext : Carries bincode { ledger.sent with lost := [] }
      { endpoint with sender := task } peer (outward ++ accepted) := by
    refine ⟨fun reading => ?_, fun _ => rfl, carries.encodable⟩
    have before := carries.bytes reading
    rw [writing, noneLost] at before
    simp only [← before, SenderTask.unwritten, ← bytes, List.append_assoc]
  have after : PairInvariant bincode side { ledger with sent := { ledger.sent with lost := [] } }
      peerLedger { endpoint with sender := task } peer (outward ++ accepted) inward :=
    pair.of_sender_same_frames rfl [] unencodedEq carriesNext
  rwa [← noneLost] at after

/-! ## Bytes received -/

include pair in
/-- Only the accounts of the bytes on the wire read what was received. -/
theorem PairInvariant.of_received {received after : Bytes} {reading : Bool}
    (nextEq : next = { endpoint with received := received, reading := reading })
    (carries : Carries bincode peerLedger.sent peer next after) :
    PairInvariant bincode side ledger peerLedger next peer outward after := by
  subst nextEq
  obtain ⟨naming, sending, allocating, accounts⟩ := pair.here
  have there := pair.receivesThere
  have here := pair.receivesHere
  refine ⟨⟨?_, ?_, ⟨allocating.next, allocating.opening⟩,
    ⟨accounts.accounted, accounts.ordered, accounts.openers⟩⟩, pair.there,
    pair.carriesOut.of_eq rfl rfl rfl, carries, ?_, ?_⟩
  · exact ⟨naming.unique, naming.registered, naming.cached, naming.sending, naming.handled,
      naming.opening, naming.waiting, naming.distinct⟩
  · exact ⟨sending.handled, sending.opening, sending.waiting, sending.queued, sending.encodable,
      sending.written⟩
  · exact ⟨there.expected, there.unmade, there.holds, there.reached⟩
  · exact ⟨here.expected, here.unmade, here.holds, here.reached⟩

include pair in
/-- Bytes of the wire arrive in order. -/
theorem PairInvariant.transfer (count : Nat) :
    PairInvariant bincode side ledger peerLedger
      { endpoint with received := endpoint.received ++ inward.take count } peer outward
      (inward.drop count) := by
  refine pair.of_received rfl ⟨fun reading => ?_, pair.carriesIn.lost, pair.carriesIn.encodable⟩
  rw [← pair.carriesIn.bytes reading]
  simp only [List.append_assoc]
  rw [← List.append_assoc (inward.take count), List.take_append_drop]

end FerroTunnel.Link
