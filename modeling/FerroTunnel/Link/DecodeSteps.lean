import FerroTunnel.Link.RegisterSteps

/-!
# Decoding keeps the invariant

The frame decoded is the first in flight.  Its data has then arrived: it goes to
the channel of its stream if that is reached, and is dropped only when the
channel can never be reached again.
-/

namespace FerroTunnel.Link

open FerroTunnel.Channel
open FerroTunnel.Stream
open FerroTunnel.Transport
open FerroTunnel.Wire

variable {bincode : Bincode} {side : Side} {ledger peerLedger : Ledger}
  {endpoint next peer : Endpoint} {outward inward : Bytes} {frame : Frame} {later : List Frame}
  (pair : PairInvariant bincode side ledger peerLedger endpoint peer outward inward)

/-- The direction after its first frame was decoded. -/
def Traffic.arrive (traffic : Traffic) (frame : Frame) (later : List Frame) : Traffic where
  inFlight := later
  lost := traffic.lost
  arrived := fun streamId => traffic.arrived streamId ++ dataOf streamId frame

variable {traffic : Traffic}

theorem Traffic.frames_arrive (inFlight : traffic.inFlight = frame :: later) (sender : Endpoint) :
    traffic.frames sender = frame :: (traffic.arrive frame later).frames sender := by
  rw [frames, inFlight]
  rfl

/-- Decoding the first frame keeps the accounts of its sender. -/
theorem Accounts.arrive {sender : Endpoint} (accounts : Accounts side traffic sender)
    (inFlight : traffic.inFlight = frame :: later) :
    Accounts side (traffic.arrive frame later) sender := by
  have framesEq := Traffic.frames_arrive inFlight sender
  constructor
  · intro streamId
    have accounted := accounts.accounted streamId
    rw [framesEq, dataIn_cons, ← List.append_assoc] at accounted
    exact accounted
  · intro streamId
    have ordered := accounts.ordered streamId
    rw [framesEq] at ordered
    exact (List.pairwise_cons.mp ordered).2
  · rintro streamId ⟨other, member, opened⟩
    exact accounts.openers streamId ⟨other, by rw [framesEq]; exact List.mem_cons_of_mem _ member,
      opened⟩

/-- No stream becomes expected by decoding. -/
theorem Expected.of_arrive {sender receiver receiver' : Endpoint} {streamId : UInt32}
    (inFlight : traffic.inFlight = frame :: later)
    (nextStreamId : receiver'.mux.nextStreamId = receiver.mux.nextStreamId)
    (expected : Expected side (traffic.arrive frame later) sender receiver' streamId) :
    Expected side traffic sender receiver streamId := by
  rcases expected with ⟨isLocal, later⟩ | fromSender | opening | ⟨other, member, opened⟩
  · rw [nextStreamId] at later
    exact .inl ⟨isLocal, later⟩
  · exact .inr (.inl fromSender)
  · exact .inr (.inr (.inl opening))
  · refine .inr (.inr (.inr ⟨other, ?_, opened⟩))
    rw [Traffic.frames_arrive inFlight]
    exact List.mem_cons_of_mem _ member

include pair in
/-- While a stream is expected, no data of it is decoded. -/
theorem PairInvariant.no_data_of_expected
    (inFlight : peerLedger.sent.inFlight = frame :: later) {streamId : UInt32}
    (expected : Expected side.peer peerLedger.sent peer endpoint streamId) :
    dataOf streamId frame = [] := by
  have framesEq := Traffic.frames_arrive inFlight peer
  by_contra nonempty
  have written : peer.written streamId ≠ [] := by
    intro nothing
    have accounted := pair.there.accounts.accounted streamId
    rw [framesEq, dataIn_cons, nothing] at accounted
    exact nonempty (List.append_eq_nil_iff.mp (List.append_eq_nil_iff.mp accounted).2).1
  obtain ⟨chan, made, ownerEq⟩ := pair.there.sending.written streamId written
  rcases expected with ⟨isLocal, later⟩ | ⟨isPeers, later⟩ | ⟨other, call, callEq, rfl⟩ |
    ⟨opener, member, opened⟩
  · rw [Side.peer_peer] at isLocal
    exact (pair.receivesThere.expected streamId (.inr (.inl ⟨isLocal, later⟩))).2 chan made ownerEq
  · exact (pair.receivesThere.expected streamId (.inl ⟨isPeers, later⟩)).2 chan made ownerEq
  · exact written (pair.there.sending.opening other call callEq).2.2
  · rw [framesEq] at member
    rcases List.mem_cons.mp member with rfl | behind
    · cases opener <;> first | exact nonempty rfl | cases opened
    · have ordered := pair.there.accounts.ordered streamId
      rw [framesEq] at ordered
      exact nonempty ((List.pairwise_cons.mp ordered).1 opener behind opened).2

/-- Data arrives: it is on its way into a channel that is reached, and dropped only
for channels that are not. -/
theorem Receives.arrive {owner : ChanId → UInt32} {sender : Endpoint}
    (receives : Receives side owner traffic sender endpoint)
    (inFlight : traffic.inFlight = frame :: later)
    (noData : ∀ streamId, Expected side traffic sender endpoint streamId →
      dataOf streamId frame = [])
    (nextChan : next.mux.nextChan = endpoint.mux.nextChan)
    (nextStreamId : next.mux.nextStreamId = endpoint.mux.nextStreamId)
    (delivered : next.delivered = endpoint.delivered) (handles : next.handles = endpoint.handles)
    (channels : next.mux.channels = endpoint.mux.channels)
    (idle : ∀ chan, taskBytes endpoint.task chan = [])
    (sent : ∀ chan, endpoint.Made chan → taskBytes next.task chan = [] ∨
      (taskBytes next.task chan = dataOf (owner chan) frame ∧
        ((endpoint.mux.channels chan).receiverGone = false → Reaches owner endpoint chan)))
    (reached : ∀ chan, endpoint.Made chan → Reaches owner next chan →
      Reaches owner endpoint chan ∧ taskBytes next.task chan = dataOf (owner chan) frame) :
    Receives side owner (traffic.arrive frame later) sender next := by
  have madeEq : next.Made = endpoint.Made := by
    funext chan
    rw [Endpoint.Made, Endpoint.Made, nextChan]
  have bufferedGone {chan : ChanId}
      (gone : (endpoint.mux.channels chan).receiverGone = true) : next.buffered chan = [] := by
    rw [Endpoint.buffered, channels, if_pos gone]
  have bufferedPresent {chan : ChanId}
      (present : (endpoint.mux.channels chan).receiverGone = false) :
      next.buffered chan = endpoint.buffered chan ++ taskBytes next.task chan := by
    rw [Endpoint.buffered, Endpoint.buffered, channels, handles, present, idle chan]
    simp
  constructor
  · intro streamId now
    have before := now.of_arrive inFlight nextStreamId
    obtain ⟨noneArrived, unmade⟩ := receives.expected streamId before
    rw [madeEq]
    refine ⟨?_, unmade⟩
    change traffic.arrived streamId ++ dataOf streamId frame = []
    rw [noneArrived, noData streamId before]
    rfl
  · intro streamId unmade
    rw [madeEq] at unmade
    rw [delivered]
    exact receives.unmade streamId unmade
  · intro chan made
    rw [madeEq] at made
    rw [delivered]
    change _ <+: traffic.arrived (owner chan) ++ dataOf (owner chan) frame
    have before := receives.holds chan made
    cases present : (endpoint.mux.channels chan).receiverGone with
    | true =>
        rw [bufferedGone present, List.append_nil]
        exact ((List.prefix_append _ _).trans before).trans (List.prefix_append _ _)
    | false =>
        rw [bufferedPresent present]
        rcases sent chan made with nothing | ⟨data, reaches⟩
        · rw [nothing, List.append_nil]
          exact before.trans (List.prefix_append _ _)
        · rw [data, ← List.append_assoc, receives.reached chan made (reaches present)]
  · intro chan made reaches
    rw [madeEq] at made
    obtain ⟨before, data⟩ := reached chan made reaches
    rw [delivered, bufferedPresent before.1, data, ← List.append_assoc,
      receives.reached chan made before]
    rfl

/-! ## The read loop -/

section ReadLoop

variable {rest : Bytes} (inFlight : peerLedger.sent.inFlight = frame :: later)
  (bytes : rest ++ (inward ++ (peer.sender.unwritten ++ peerLedger.sent.lost)) =
    later.flatMap (wireImage bincode))

include pair bytes

include inFlight in
/-- The rest of the invariant after a frame was decoded and begun to be
processed. -/
theorem PairInvariant.of_decoded {after : Ledger}
    (outbox : next.outbox = endpoint.outbox) (sender : next.sender = endpoint.sender)
    (written : next.written = endpoint.written) (received : next.received = rest)
    (nextStreamId : next.mux.nextStreamId = endpoint.mux.nextStreamId)
    (opening : next.opening = endpoint.opening) (sent : after.sent = ledger.sent)
    (naming : Naming after.owner next)
    (sending : Sending bincode after.owner after.priority next)
    (receives : Receives side.peer after.owner (peerLedger.sent.arrive frame later) peer next) :
    PairInvariant bincode side after
      { peerLedger with sent := peerLedger.sent.arrive frame later } next peer outward inward := by
  have isOpening (streamId : UInt32) (now : next.IsOpening streamId) :
      endpoint.IsOpening streamId := by
    rwa [Endpoint.IsOpening, opening] at now
  have unencodedEq : next.unencoded = endpoint.unencoded := by
    rw [Endpoint.unencoded, Endpoint.unencoded, outbox, sender]
  have framesEq : ledger.sent.frames next = ledger.sent.frames endpoint := by
    rw [Traffic.frames, Traffic.frames, unencodedEq]
  refine ⟨⟨naming, sending, pair.here.allocating.of_eq nextStreamId isOpening, ?_⟩,
    ⟨pair.there.naming, pair.there.sending, pair.there.allocating,
      pair.there.accounts.arrive inFlight⟩, ?_, ⟨?_, pair.carriesIn.lost, ?_⟩, ?_, receives⟩
  · rw [sent]
    exact pair.here.accounts.of_eq (by rw [unencodedEq]) written nextStreamId isOpening
  · rw [sent]
    exact pair.carriesOut.of_eq sender rfl rfl
  · intro _
    rw [received]
    exact bytes
  · intro other member
    exact pair.carriesIn.encodable other (by rw [inFlight]; exact List.mem_cons_of_mem _ member)
  · rw [sent]
    refine pair.receivesThere.of_sender rfl fun streamId expected => ?_
    refine expected.of_sender nextStreamId (isOpening streamId) ?_
    rw [framesEq]
    exact fun other member _ => .inr member

/-- A stream just opened by the peer is registered. -/
theorem PairInvariant.of_opened {openStream : OpenStreamFrame}
    (inFlight : peerLedger.sent.inFlight = .openStream openStream :: later)
    (idle : endpoint.task = .idle)
    (nextEq : next = { endpoint with
      mux := { endpoint.mux with
        streams := endpoint.mux.streams.insert openStream.streamId endpoint.mux.nextChan
        streamPriorities :=
          endpoint.mux.streamPriorities.insert openStream.streamId openStream.priority
        bufferPool := endpoint.mux.bufferPool.acquireOrDefault.2
        channels := Function.update endpoint.mux.channels endpoint.mux.nextChan
          (.empty STREAM_CHANNEL_CAPACITY)
        nextChan := endpoint.mux.nextChan + 1 }
      task := .queueStream (.new openStream.streamId endpoint.mux.nextChan openStream.priority []
        openStream.protocol)
      received := rest }) :
    ∃ after peerAfter,
      PairInvariant bincode side after peerAfter next peer outward inward := by
  have framesEq := Traffic.frames_arrive inFlight peer
  have opensHead : opens openStream.streamId (.openStream openStream) = true :=
    decide_eq_true rfl
  have openedHere : ∃ frame ∈ peerLedger.sent.frames peer,
      opens openStream.streamId frame = true :=
    ⟨_, by rw [framesEq]; exact List.mem_cons_self .., opensHead⟩
  obtain ⟨isPeers, bounded, notOpening⟩ :=
    pair.there.accounts.openers openStream.streamId openedHere
  have awaited : Expected side.peer peerLedger.sent peer endpoint openStream.streamId :=
    .inr (.inr (.inr openedHere))
  have fresh := (pair.receivesHere.expected _ awaited).2
  have noCall : endpoint.opening endpoint.mux.nextChan = none := by
    cases callEq : endpoint.opening endpoint.mux.nextChan with
    | none => rfl
    | some call =>
        exact absurd rfl (Registers.ne_of_made (pair.here.naming.opening _ call callEq).1.1)
  have waitingEq : next.waiting = endpoint.waiting ++ [.new openStream.streamId
      endpoint.mux.nextChan openStream.priority [] openStream.protocol] := by
    rw [Endpoint.waiting, Endpoint.waiting, nextEq, idle]
    simp [taskStream]
  have registers : Registers endpoint next openStream.streamId := by
    subst nextEq
    refine ⟨rfl, rfl, fun _ _ registered => Map.lookup_insert_cases registered, rfl,
      by simp [taskTarget], ?_, rfl, rfl, fun _ _ call => .inr call,
      .inr ⟨_, waitingEq, rfl, rfl, noCall⟩⟩
    intro chan
    rw [idle]
    rfl
  refine ⟨⟨Function.update ledger.owner endpoint.mux.nextChan openStream.streamId,
    Function.update ledger.priority openStream.streamId openStream.priority, ledger.sent⟩, _,
    pair.of_decoded inFlight bytes (by rw [nextEq]) (by rw [nextEq]) (by rw [nextEq])
      (by rw [nextEq]) (by rw [nextEq]) (by rw [nextEq]) rfl
      (registers.naming pair.here.naming fresh) ?_ ?_⟩
  · refine registers.sending pair.here.naming pair.here.sending fresh (by rw [nextEq]; rfl)
      (by rw [nextEq]) ?_ ?_
    · intro call callEq
      rw [nextEq, noCall] at callEq
      cases callEq
    · intro stream member
      rw [waitingEq] at member
      rcases List.mem_append.mp member with before | new
      · exact .inl before
      · rw [List.mem_singleton.mp new]
        exact .inr ⟨rfl, rfl, rfl, rfl, rfl⟩
  · refine registers.receives pair.here.naming pair.receivesHere awaited ?_ fun id expected => ?_
    · funext id
      exact List.append_nil _
    · refine ⟨expected.of_arrive inFlight (by rw [nextEq]), ?_⟩
      rintro rfl
      rcases expected with ⟨isLocal, _⟩ | ⟨_, later⟩ | opening | ⟨opener, member, opened⟩
      · exact isPeers.not_peer isLocal
      · exact absurd bounded (Nat.not_lt.mpr later)
      · exact notOpening opening
      · have ordered := pair.there.accounts.ordered openStream.streamId
        rw [framesEq] at ordered
        have head := ((List.pairwise_cons.mp ordered).1 opener member opened).1
        rw [opensHead] at head
        cases head

include inFlight in
/-- A frame that makes no channel leaves the ledger as it is: what is left to show
is where its data goes. -/
theorem PairInvariant.of_routed {mux : Multiplexer} {task : FrameTask}
    (nextEq : next = { endpoint with mux := mux, task := task, received := rest })
    (nextStreamId : mux.nextStreamId = endpoint.mux.nextStreamId)
    (channels : mux.channels = endpoint.mux.channels)
    (kept : NamesKept endpoint next) (waitingEq : next.waiting = endpoint.waiting)
    (idle : ∀ chan, taskBytes endpoint.task chan = [])
    (sent : ∀ chan, endpoint.Made chan → taskBytes next.task chan = [] ∨
      (taskBytes next.task chan = dataOf (ledger.owner chan) frame ∧
        ((endpoint.mux.channels chan).receiverGone = false →
          Reaches ledger.owner endpoint chan)))
    (reached : ∀ chan, endpoint.Made chan → Reaches ledger.owner next chan →
      Reaches ledger.owner endpoint chan ∧
        taskBytes next.task chan = dataOf (ledger.owner chan) frame) :
    ∃ after peerAfter,
      PairInvariant bincode side after peerAfter next peer outward inward := by
  subst nextEq
  have naming := pair.here.naming.of_halves kept
    (fun chan _ => congrArg (fun channels => (channels chan).receiverGone) channels)
    (fun _ handle handled => ⟨handle, handled, rfl, rfl⟩)
    (fun _ call callEq => ⟨call, callEq, rfl⟩) (by rw [waitingEq])
  have sending := pair.here.sending.of_eq kept.nextChan pair.here.sending.handled
    (fun _ _ call => call) (by rw [waitingEq]; exact fun _ member => member)
    (fun _ member => member) rfl
  have receives := pair.receivesHere.arrive inFlight
    (fun _ expected => pair.no_data_of_expected inFlight expected) kept.nextChan nextStreamId
    rfl rfl channels idle sent reached
  exact ⟨ledger, _, pair.of_decoded inFlight bytes rfl rfl rfl rfl nextStreamId rfl rfl naming
    sending receives⟩

include inFlight in
/-- A data or close frame is on its way to the channel of its stream. -/
theorem PairInvariant.of_dispatched {streamId : UInt32} {tx : ChanId} {task : FrameTask}
    (idle : endpoint.task = .idle)
    (known : endpoint.mux.lastSender = some (streamId, tx) ∨
      endpoint.mux.streams.lookup streamId = some tx)
    (target : taskTarget task = some (streamId, tx)) (noStream : taskStream task = none)
    (taskBytesEq : ∀ chan, taskBytes task chan =
      if tx = chan then dataOf streamId frame else [])
    (others : ∀ id, id ≠ streamId → dataOf id frame = [])
    (nextEq : next = { endpoint with
      mux := { endpoint.mux with lastSender := some (streamId, tx) }
      task := task
      received := rest }) :
    ∃ after peerAfter,
      PairInvariant bincode side after peerAfter next peer outward inward := by
  have naming := pair.here.naming
  obtain ⟨made, ownerEq⟩ : endpoint.Made tx ∧ ledger.owner tx = streamId := by
    rcases known with cached | registered
    · exact naming.cached streamId tx cached
    · exact naming.registered streamId tx registered
  have waitingEq : next.waiting = endpoint.waiting := by
    rw [Endpoint.waiting, Endpoint.waiting, nextEq, idle, noStream]
    rfl
  have taskEq : next.task = task := by rw [nextEq]
  have kept : NamesKept endpoint next := nextEq ▸ .of_dispatched known target
  have reachesBefore (present : (endpoint.mux.channels tx).receiverGone = false) :
      Reaches ledger.owner endpoint tx := by
    rw [Reaches, ownerEq]
    exact ⟨present, known.symm⟩
  have notOwned {chan : ChanId} (chanMade : endpoint.Made chan) (different : chan ≠ tx) :
      dataOf (ledger.owner chan) frame = [] :=
    others _ fun same =>
      different (naming.unique chan tx chanMade made (same.trans ownerEq.symm))
  have taskData (chan : ChanId) (chanMade : endpoint.Made chan) :
      taskBytes task chan = dataOf (ledger.owner chan) frame := by
    rw [taskBytesEq]
    by_cases same : tx = chan
    · rw [if_pos same, ← same, ownerEq]
    · rw [if_neg same, notOwned chanMade (Ne.symm same)]
  apply pair.of_routed inFlight bytes nextEq rfl rfl kept waitingEq
  · rw [idle]
    exact fun _ => rfl
  · intro chan chanMade
    rw [taskEq]
    by_cases same : tx = chan
    · subst same
      exact .inr ⟨taskData tx chanMade, reachesBefore⟩
    · left
      rw [taskBytesEq, if_neg same]
  · intro chan chanMade reaches
    rw [taskEq]
    refine ⟨?_, taskData chan chanMade⟩
    rw [Reaches, nextEq] at reaches
    rcases reaches with ⟨present, registered | cached⟩
    · exact ⟨present, .inl registered⟩
    · cases cached
      exact reachesBefore present

include inFlight in
/-- A frame that goes nowhere: its stream has no channel that is reached. -/
theorem PairInvariant.of_unhandled {streams : Finmap fun _ : UInt32 => ChanId}
    {priorities : Finmap fun _ : UInt32 => StreamPriority}
    (idle : endpoint.task = .idle)
    (unknown : ∀ streamId payload endOfStream, frame = .data streamId payload endOfStream →
      endpoint.mux.streams.lookup streamId = none ∧
        ∀ tx, endpoint.mux.lastSender ≠ some (streamId, tx))
    (registered : ∀ streamId chan, streams.lookup streamId = some chan →
      endpoint.mux.streams.lookup streamId = some chan)
    (nextEq : next = { endpoint with
      mux := { endpoint.mux with streams := streams, streamPriorities := priorities }
      task := .idle
      received := rest }) :
    ∃ after peerAfter,
      PairInvariant bincode side after peerAfter next peer outward inward := by
  have waitingEq : next.waiting = endpoint.waiting := by
    rw [Endpoint.waiting, Endpoint.waiting, nextEq, idle]
  have kept : NamesKept endpoint next := by
    rw [nextEq]
    exact ⟨rfl, registered, fun _ _ cached => .inl cached, by simp [taskTarget]⟩
  have reachesBefore {chan : ChanId} (reaches : Reaches ledger.owner next chan) :
      Reaches ledger.owner endpoint chan := by
    rw [nextEq] at reaches
    exact ⟨reaches.1, reaches.2.imp (registered _ _) id⟩
  have noTask (chan : ChanId) : taskBytes next.task chan = [] := by
    rw [nextEq]
    rfl
  apply pair.of_routed inFlight bytes nextEq rfl rfl kept waitingEq
  · rw [idle]
    exact fun _ => rfl
  · exact fun chan _ => .inl (noTask chan)
  · intro chan _ reaches
    refine ⟨reachesBefore reaches, ?_⟩
    rw [noTask]
    cases frame with
    | data streamId payload endOfStream =>
        obtain ⟨unregistered, uncached⟩ := unknown streamId payload endOfStream rfl
        have different : streamId ≠ ledger.owner chan := by
          rintro rfl
          rcases (reachesBefore reaches).2 with lookupEq | cachedEq
          · rw [unregistered] at lookupEq
            cases lookupEq
          · exact uncached chan cachedEq
        exact (if_neg different).symm
    | _ => rfl

end ReadLoop

include pair in
theorem PairInvariant.decode (inverts : bincode.Inverts)
    (stepEq : endpoint.decode bincode = some next) :
    ∃ after peerAfter,
      PairInvariant bincode side after peerAfter next peer outward inward := by
  unfold Endpoint.decode at stepEq
  split at stepEq
  case h_2 => cases stepEq
  rename_i reading idle
  split at stepEq
  · cases stepEq
  · rename_i rest _
    cases stepEq
    refine ⟨ledger, peerLedger, pair.of_received rfl ⟨fun reading => ?_, pair.carriesIn.lost,
      pair.carriesIn.encodable⟩⟩
    cases reading
  · rename_i frame rest decoded
    obtain ⟨later, inFlight, bytes⟩ := decode_wireImages inverts pair.carriesIn.encodable
      (pair.carriesIn.bytes reading) decoded
    rcases endpoint.mux.processFrame_cases frame with
      ⟨openStream, rfl, _, processed⟩ |
      ⟨streamId, tx, known, ⟨payload, endOfStream, rfl, processed⟩ | ⟨reason, rfl, processed⟩⟩ |
      ⟨unknown, _, streams, priorities, smaller, processed⟩ <;>
      rw [processed] at stepEq <;> cases stepEq
    · exact pair.of_opened bytes inFlight idle rfl
    · refine pair.of_dispatched inFlight bytes idle known rfl rfl ?_ ?_ rfl
      · intro chan
        rw [dataOf, if_pos rfl]
        rfl
      · intro id different
        exact if_neg (Ne.symm different)
    · refine pair.of_dispatched inFlight bytes idle known rfl rfl ?_ (fun _ _ => rfl) rfl
      intro chan
      rfl
    · refine pair.of_unhandled inFlight bytes idle unknown ?_ rfl
      rcases smaller with ⟨rfl, -⟩ | ⟨erased, rfl, -⟩
      · exact fun _ _ registered => registered
      · exact fun _ _ registered => Map.lookup_of_lookup_erase registered

end FerroTunnel.Link
