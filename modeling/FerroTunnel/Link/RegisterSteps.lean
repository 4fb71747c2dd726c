import FerroTunnel.Link.ReceiveSteps

/-!
# Registering streams keeps the invariant

A stream is registered at one end when it is opened there, and at the other
when the frame that opens it is decoded.  Its id is new to that end: no channel
was made for it, nothing was written to it, and nothing arrived for it.
-/

namespace FerroTunnel.Link

open FerroTunnel.Channel
open FerroTunnel.Stream
open FerroTunnel.Transport
open FerroTunnel.Wire

variable {bincode : Bincode} {side : Side} {ledger peerLedger : Ledger}
  {endpoint next peer : Endpoint} {outward inward : Bytes} {streamId : UInt32}
  (pair : PairInvariant bincode side ledger peerLedger endpoint peer outward inward)

/-- A step that makes a channel for a stream and gives its receiving half to an
`open_stream` call or to the queue of new streams. -/
structure Registers (endpoint next : Endpoint) (streamId : UInt32) : Prop where
  nextChan : next.mux.nextChan = endpoint.mux.nextChan + 1
  channels : next.mux.channels = Function.update endpoint.mux.channels endpoint.mux.nextChan
    (.empty STREAM_CHANNEL_CAPACITY)
  registered : ∀ id chan, next.mux.streams.lookup id = some chan →
    (id = streamId ∧ chan = endpoint.mux.nextChan) ∨
      endpoint.mux.streams.lookup id = some chan
  lastSender : next.mux.lastSender = endpoint.mux.lastSender
  target : ∀ id chan, taskTarget next.task = some (id, chan) →
    taskTarget endpoint.task = some (id, chan)
  taskBytes : ∀ chan, taskBytes next.task chan = taskBytes endpoint.task chan
  handles : next.handles = endpoint.handles
  delivered : next.delivered = endpoint.delivered
  opening : ∀ chan call, next.opening chan = some call →
    (chan = endpoint.mux.nextChan ∧ call.streamId = streamId) ∨
      endpoint.opening chan = some call
  waiting : next.waiting = endpoint.waiting ∨ ∃ stream,
    next.waiting = endpoint.waiting ++ [stream] ∧ stream.rx = endpoint.mux.nextChan ∧
      stream.streamId = streamId ∧ next.opening endpoint.mux.nextChan = none

namespace Registers

theorem ne_of_made {chan : ChanId} (made : endpoint.Made chan) : chan ≠ endpoint.mux.nextChan :=
  Nat.ne_of_lt made

theorem unhandled {owner : ChanId → UInt32} (naming : Naming owner endpoint) :
    endpoint.handles endpoint.mux.nextChan = none := by
  cases handled : endpoint.handles endpoint.mux.nextChan with
  | none => rfl
  | some handle => exact absurd rfl (ne_of_made (naming.handled _ handle handled).1.1)

variable {owner : ChanId → UInt32} (registers : Registers endpoint next streamId)

include registers

theorem made_iff (chan : ChanId) :
    next.Made chan ↔ endpoint.Made chan ∨ chan = endpoint.mux.nextChan := by
  rw [Endpoint.Made, Endpoint.Made, registers.nextChan]
  exact Nat.lt_succ_iff_lt_or_eq

/-- A channel that was made before is as it was. -/
theorem present {chan : ChanId} (present : endpoint.Present chan) : next.Present chan := by
  refine ⟨(registers.made_iff chan).mpr (.inl present.1), ?_⟩
  rw [registers.channels, Function.update_of_ne (ne_of_made present.1)]
  exact present.2

theorem present_new : next.Present endpoint.mux.nextChan := by
  refine ⟨(registers.made_iff _).mpr (.inr rfl), ?_⟩
  rw [registers.channels, Function.update_self]
  rfl

theorem naming (naming : Naming owner endpoint)
    (fresh : ∀ chan, endpoint.Made chan → owner chan ≠ streamId) :
    Naming (Function.update owner endpoint.mux.nextChan streamId) next := by
  have old {chan : ChanId} (made : endpoint.Made chan) :
      Function.update owner endpoint.mux.nextChan streamId chan = owner chan :=
    Function.update_of_ne (ne_of_made made) _ _
  have lift {id : UInt32} {chan : ChanId} (named : endpoint.Made chan ∧ owner chan = id) :
      next.Made chan ∧ Function.update owner endpoint.mux.nextChan streamId chan = id :=
    ⟨(registers.made_iff chan).mpr (.inl named.1), (old named.1).trans named.2⟩
  have noHandle : next.handles endpoint.mux.nextChan = none := by
    rw [registers.handles]
    exact unhandled naming
  have unopened {chan : ChanId} (made : endpoint.Made chan)
      (before : endpoint.opening chan = none) : next.opening chan = none := by
    cases callEq : next.opening chan with
    | none => rfl
    | some call =>
        rcases registers.opening chan call callEq with ⟨same, _⟩ | beforeEq
        · exact absurd same (ne_of_made made)
        · rw [before] at beforeEq
          cases beforeEq
  constructor
  · intro first second firstMade secondMade same
    rcases (registers.made_iff first).mp firstMade with firstOld | rfl <;>
      rcases (registers.made_iff second).mp secondMade with secondOld | rfl
    · rw [old firstOld, old secondOld] at same
      exact naming.unique first second firstOld secondOld same
    · rw [old firstOld, Function.update_self] at same
      exact absurd same (fresh first firstOld)
    · rw [old secondOld, Function.update_self] at same
      exact absurd same.symm (fresh second secondOld)
    · rfl
  · intro id chan registered
    rcases registers.registered id chan registered with ⟨rfl, rfl⟩ | before
    · exact ⟨registers.present_new.1, Function.update_self _ _ _⟩
    · exact lift (naming.registered id chan before)
  · intro id chan cached
    rw [registers.lastSender] at cached
    exact lift (naming.cached id chan cached)
  · intro id chan sending
    exact lift (naming.sending id chan (registers.target id chan sending))
  · intro chan handle handled
    rw [registers.handles] at handled
    obtain ⟨present, rxEq, idEq⟩ := naming.handled chan handle handled
    exact ⟨registers.present present, rxEq, idEq.trans (old present.1).symm⟩
  · intro chan call callEq
    rcases registers.opening chan call callEq with ⟨rfl, idEq⟩ | before
    · refine ⟨registers.present_new, ?_, noHandle⟩
      rw [Function.update_self]
      exact idEq
    · obtain ⟨present, idEq, none⟩ := naming.opening chan call before
      rw [registers.handles]
      exact ⟨registers.present present, idEq.trans (old present.1).symm, none⟩
  · intro stream member
    have before (member : stream ∈ endpoint.waiting) : next.Present stream.rx ∧
        stream.streamId = Function.update owner endpoint.mux.nextChan streamId stream.rx ∧
        next.handles stream.rx = none ∧ next.opening stream.rx = none := by
      obtain ⟨present, idEq, noHandle, noCall⟩ := naming.waiting stream member
      rw [registers.handles]
      exact ⟨registers.present present, idEq.trans (old present.1).symm, noHandle,
        unopened present.1 noCall⟩
    rcases registers.waiting with same | ⟨new, added, rxEq, idEq, noCall⟩
    · exact before (same ▸ member)
    · rw [added] at member
      rcases List.mem_append.mp member with old | last
      · exact before old
      · rw [List.mem_singleton.mp last, rxEq, Function.update_self]
        exact ⟨registers.present_new, idEq, noHandle, noCall⟩
  · rcases registers.waiting with same | ⟨new, added, rxEq, _, _⟩
    · rw [same]
      exact naming.distinct
    · rw [added, List.map_append, List.nodup_append]
      refine ⟨naming.distinct, List.nodup_singleton _, ?_⟩
      intro chan member last lastMem
      obtain ⟨stream, streamMem, rfl⟩ := List.mem_map.mp member
      rw [List.mem_singleton.mp lastMem, rxEq]
      exact ne_of_made (naming.waiting stream streamMem).1.1

/-- The sending half: a stream just registered has sent nothing. -/
theorem sending {priority : UInt32 → StreamPriority} {streamPriority : StreamPriority}
    (naming : Naming owner endpoint) (sending : Sending bincode owner priority endpoint)
    (fresh : ∀ chan, endpoint.Made chan → owner chan ≠ streamId)
    (unencoded : next.unencoded = endpoint.unencoded) (written : next.written = endpoint.written)
    (call : ∀ call, next.opening endpoint.mux.nextChan = some call →
      call.priority = streamPriority ∧ call.future.item = (call.priority,
        Multiplexer.openFrame call.streamId call.protocol call.priority))
    (stream : ∀ stream ∈ next.waiting, stream ∈ endpoint.waiting ∨
      (stream.streamId = streamId ∧ stream.priority = streamPriority ∧
        stream.pendingSend = none ∧ stream.pendingSendLen = 0 ∧ stream.unread = [])) :
    Sending bincode (Function.update owner endpoint.mux.nextChan streamId)
      (Function.update priority streamId streamPriority) next := by
  have old {id : UInt32} {chan : ChanId} (made : endpoint.Made chan) (ownerEq : owner chan = id) :
      Function.update priority streamId streamPriority id = priority id :=
    Function.update_of_ne (fun same => fresh chan made (ownerEq.trans same)) _ _
  have lift {id : UInt32} (named : ∃ chan, endpoint.Made chan ∧ owner chan = id) :
      ∃ chan, next.Made chan ∧
        Function.update owner endpoint.mux.nextChan streamId chan = id := by
    obtain ⟨chan, made, ownerEq⟩ := named
    exact ⟨chan, (registers.made_iff chan).mpr (.inl made),
      (Function.update_of_ne (ne_of_made made) _ _).trans ownerEq⟩
  constructor
  · intro chan handle handled
    rw [registers.handles] at handled
    obtain ⟨present, _, idEq⟩ := naming.handled chan handle handled
    rw [old present.1 idEq.symm]
    exact sending.handled chan handle handled
  · intro chan after afterEq
    rw [written]
    rcases registers.opening chan after afterEq with ⟨rfl, idEq⟩ | before
    · obtain ⟨priorityEq, itemEq⟩ := call after afterEq
      refine ⟨by rw [idEq, Function.update_self, priorityEq], itemEq, ?_⟩
      by_contra nonempty
      obtain ⟨other, made, ownerEq⟩ := sending.written _ nonempty
      exact fresh other made (ownerEq.trans idEq)
    · obtain ⟨present, idEq, _⟩ := naming.opening chan after before
      rw [old present.1 idEq.symm]
      exact sending.opening chan after before
  · intro other member
    rcases stream other member with before | ⟨idEq, priorityEq, rest⟩
    · obtain ⟨present, idEq, _⟩ := naming.waiting other before
      rw [old present.1 idEq.symm]
      exact sending.waiting other before
    · exact ⟨by rw [idEq, Function.update_self, priorityEq], rest⟩
  · intro item member id concerned
    rw [unencoded] at member
    obtain ⟨priorityEq, chan, made, ownerEq⟩ := sending.queued item member id concerned
    rw [old made ownerEq]
    exact ⟨priorityEq, lift ⟨chan, made, ownerEq⟩⟩
  · rw [unencoded]
    exact sending.encodable
  · intro id nonempty
    rw [written] at nonempty
    exact lift (sending.written id nonempty)

/-- The receiving half: nothing has arrived for a stream just registered. -/
theorem receives {traffic traffic' : Traffic} {direction : Side} {sender : Endpoint}
    (naming : Naming owner endpoint)
    (receives : Receives direction owner traffic sender endpoint)
    (awaited : Expected direction traffic sender endpoint streamId)
    (arrived : traffic'.arrived = traffic.arrived)
    (expected : ∀ id, Expected direction traffic' sender next id →
      Expected direction traffic sender endpoint id ∧ id ≠ streamId) :
    Receives direction (Function.update owner endpoint.mux.nextChan streamId) traffic' sender
      next := by
  have old {chan : ChanId} (made : endpoint.Made chan) :
      Function.update owner endpoint.mux.nextChan streamId chan = owner chan :=
    Function.update_of_ne (ne_of_made made) _ _
  obtain ⟨noneArrived, fresh⟩ := receives.expected streamId awaited
  have bufferedOld {chan : ChanId} (made : endpoint.Made chan) :
      next.buffered chan = endpoint.buffered chan := by
    refine buffered_congr ?_ (registers.taskBytes chan) (by rw [registers.handles])
    rw [registers.channels, Function.update_of_ne (ne_of_made made)]
  have bufferedNew : next.buffered endpoint.mux.nextChan = [] := by
    have noTask : Link.taskBytes endpoint.task endpoint.mux.nextChan = [] := by
      cases taskEq : endpoint.task with
      | idle | queueStream stream => rfl
      | sendData id tx frame | sendClose id tx frame =>
          have made := (naming.sending id tx (by rw [taskEq]; rfl)).1
          exact if_neg (ne_of_made made)
    rw [Endpoint.buffered, registers.channels, Function.update_self, registers.taskBytes, noTask,
      registers.handles, unhandled naming]
    rfl
  constructor
  · intro id now
    obtain ⟨before, different⟩ := expected id now
    obtain ⟨noneThere, unmade⟩ := receives.expected id before
    refine ⟨by rw [arrived, noneThere], fun chan made => ?_⟩
    rcases (registers.made_iff chan).mp made with madeBefore | rfl
    · rw [old madeBefore]
      exact unmade chan madeBefore
    · rw [Function.update_self]
      exact different.symm
  · intro id unmade
    rw [registers.delivered]
    apply receives.unmade
    intro chan made
    have := unmade chan ((registers.made_iff chan).mpr (.inl made))
    rwa [old made] at this
  · intro chan made
    rw [registers.delivered, arrived]
    rcases (registers.made_iff chan).mp made with madeBefore | rfl
    · rw [old madeBefore, bufferedOld madeBefore]
      exact receives.holds chan madeBefore
    · rw [Function.update_self, bufferedNew, receives.unmade streamId fresh]
      exact List.nil_prefix
  · intro chan made reaches
    rw [registers.delivered, arrived]
    rcases (registers.made_iff chan).mp made with madeBefore | rfl
    · rw [old madeBefore, bufferedOld madeBefore]
      apply receives.reached chan madeBefore
      rw [Reaches, old madeBefore, registers.lastSender, registers.channels,
        Function.update_of_ne (ne_of_made madeBefore)] at reaches
      refine ⟨reaches.1, reaches.2.imp (fun registered => ?_) id⟩
      rcases registers.registered _ chan registered with ⟨same, _⟩ | before
      · exact absurd same (fresh chan madeBefore)
      · exact before
    · rw [Function.update_self, bufferedNew, receives.unmade streamId fresh, noneArrived]
      rfl

end Registers

/-! ## Opening a stream -/

/-- Ids allocated by one end are not the other's. -/
theorem IsLocal.ne {first second : UInt32} (isLocal : IsLocal side first)
    (isPeers : IsLocal side.peer second) : second ≠ first := by
  rintro rfl
  exact isLocal.not_peer isPeers

theorem IsLocal.add_two (isLocal : IsLocal side streamId)
    (room : streamId.toNat + 2 < 2 ^ 32) :
    (streamId + 2).toNat = streamId.toNat + 2 ∧ IsLocal side (streamId + 2) := by
  have sumEq : (streamId + 2).toNat = streamId.toNat + 2 := by
    rw [UInt32.toNat_add]
    exact Nat.mod_eq_of_lt room
  refine ⟨sumEq, ?_⟩
  rw [IsLocal, sumEq, Nat.add_mod_right]
  exact isLocal

/-- An `open_stream` call begins: it takes the next id and makes the stream's channel, and
its frame is not queued yet. -/
structure BeginsOpen (endpoint next : Endpoint) (priority : StreamPriority) : Prop where
  room : endpoint.mux.nextStreamId.toNat + 2 < 2 ^ 32
  nextStreamId : next.mux.nextStreamId = endpoint.mux.nextStreamId + 2
  registers : Registers endpoint next endpoint.mux.nextStreamId
  call : ∀ call, next.opening endpoint.mux.nextChan = some call →
    call.priority = priority ∧ call.future.item = (call.priority,
      Multiplexer.openFrame call.streamId call.protocol call.priority)
  waiting : next.waiting = endpoint.waiting
  unencoded : next.unencoded = endpoint.unencoded
  written : next.written = endpoint.written
  sender : next.sender = endpoint.sender
  received : next.received = endpoint.received
  reading : next.reading = endpoint.reading

theorem Endpoint.beginsOpen_of_openStream {protocol : Protocol} {priority : StreamPriority}
    {now : Nat} (stepEq : endpoint.openStream protocol priority now = some next) :
    BeginsOpen endpoint next priority := by
  by_cases room : endpoint.mux.nextStreamId.toNat + 2 < 2 ^ 32
  case neg =>
    rw [Endpoint.openStream, Multiplexer.openStream_of_exhausted room] at stepEq
    cases stepEq
  rw [Endpoint.openStream, Multiplexer.openStream_of_room room] at stepEq
  simp only [Option.some.injEq] at stepEq
  subst stepEq
  refine ⟨room, rfl, ?_, ?_, rfl, rfl, rfl, rfl, rfl, rfl⟩
  · refine ⟨rfl, rfl, fun _ _ registered => Map.lookup_insert_cases registered, rfl,
      fun _ _ target => target, fun _ => rfl, rfl, rfl, ?_, .inl rfl⟩
    intro chan call callEq
    by_cases same : chan = endpoint.mux.nextChan
    · simp only [same, Function.update_self] at callEq
      cases callEq
      exact .inl ⟨same, rfl⟩
    · simp only [Function.update_of_ne same] at callEq
      exact .inr callEq
  · intro call callEq
    simp only [Function.update_self] at callEq
    cases callEq
    exact ⟨rfl, rfl⟩

namespace BeginsOpen

variable {priority : StreamPriority} (begins : BeginsOpen endpoint next priority)

include begins

theorem frames_eq (traffic : Traffic) :
    traffic.frames next = traffic.frames endpoint := by
  rw [Traffic.frames, Traffic.frames, begins.unencoded]

theorem toNat_next (allocating : Allocating side endpoint) :
    next.mux.nextStreamId.toNat = endpoint.mux.nextStreamId.toNat + 2 := by
  rw [begins.nextStreamId]
  exact (allocating.next.add_two begins.room).1

theorem isOpening {id : UInt32} (opening : next.IsOpening id) :
    id = endpoint.mux.nextStreamId ∨ endpoint.IsOpening id := by
  obtain ⟨chan, call, callEq, idEq⟩ := opening
  rcases begins.registers.opening chan call callEq with ⟨_, same⟩ | before
  · exact .inl (idEq.symm.trans same)
  · exact .inr ⟨chan, call, before, idEq⟩

theorem allocating (allocating : Allocating side endpoint) : Allocating side next := by
  have nextEq := begins.toNat_next allocating
  constructor
  · rw [begins.nextStreamId]
    exact (allocating.next.add_two begins.room).2
  · intro id opening
    rcases begins.isOpening opening with rfl | before
    · exact ⟨allocating.next, by omega⟩
    · obtain ⟨idLocal, bounded⟩ := allocating.opening id before
      exact ⟨idLocal, by omega⟩

theorem accounts {traffic : Traffic} (allocating : Allocating side endpoint)
    (accounts : Accounts side traffic endpoint) : Accounts side traffic next := by
  have nextEq := begins.toNat_next allocating
  constructor
  · intro id
    rw [begins.frames_eq, begins.written]
    exact accounts.accounted id
  · intro id
    rw [begins.frames_eq]
    exact accounts.ordered id
  · intro id opened
    rw [begins.frames_eq] at opened
    obtain ⟨idLocal, bounded, notOpening⟩ := accounts.openers id opened
    refine ⟨idLocal, by omega, fun opening => ?_⟩
    rcases begins.isOpening opening with rfl | before
    · exact absurd bounded (Nat.lt_irrefl _)
    · exact notOpening before

/-- The peer still awaits the id: it was to be allocated, and is being opened now. -/
theorem receivesThere {owner : ChanId → UInt32} {traffic : Traffic}
    (allocating : Allocating side endpoint)
    (receives : Receives side owner traffic endpoint peer) :
    Receives side owner traffic next peer := by
  have nextEq := begins.toNat_next allocating
  refine receives.of_sender rfl fun id expected => ?_
  rcases expected with inwardNew | ⟨idLocal, later⟩ | opening | opened
  · exact .inl inwardNew
  · exact .inr (.inl ⟨idLocal, by omega⟩)
  · rcases begins.isOpening opening with rfl | before
    · exact .inr (.inl ⟨allocating.next, Nat.le_refl _⟩)
    · exact .inr (.inr (.inl before))
  · rw [begins.frames_eq] at opened
    exact .inr (.inr (.inr opened))

include pair in
/-- Nothing is expected from the peer for the id any more, as it has its channel. -/
theorem expected_ne {id : UInt32} (expected : Expected side.peer peerLedger.sent peer next id) :
    Expected side.peer peerLedger.sent peer endpoint id ∧ id ≠ endpoint.mux.nextStreamId := by
  have isLocal := pair.here.allocating.next
  have nextEq := begins.toNat_next pair.here.allocating
  rcases expected with ⟨idLocal, later⟩ | ⟨idPeers, later⟩ | opening | opened
  · refine ⟨.inl ⟨idLocal, by omega⟩, ?_⟩
    rintro rfl
    omega
  · exact ⟨.inr (.inl ⟨idPeers, later⟩), isLocal.ne idPeers⟩
  · exact ⟨.inr (.inr (.inl opening)), isLocal.ne (pair.there.allocating.opening id opening).1⟩
  · exact ⟨.inr (.inr (.inr opened)), isLocal.ne (pair.there.accounts.openers id opened).1⟩

end BeginsOpen

include pair in
theorem PairInvariant.openStream {protocol : Protocol} {priority : StreamPriority} {now : Nat}
    (stepEq : endpoint.openStream protocol priority now = some next) :
    ∃ after, PairInvariant bincode side after peerLedger next peer outward inward := by
  have begins := Endpoint.beginsOpen_of_openStream stepEq
  have awaited : Expected side.peer peerLedger.sent peer endpoint endpoint.mux.nextStreamId := by
    left
    rw [Side.peer_peer]
    exact ⟨pair.here.allocating.next, Nat.le_refl _⟩
  have fresh := (pair.receivesHere.expected _ awaited).2
  refine ⟨⟨Function.update ledger.owner endpoint.mux.nextChan endpoint.mux.nextStreamId,
    Function.update ledger.priority endpoint.mux.nextStreamId priority, ledger.sent⟩,
    ⟨begins.registers.naming pair.here.naming fresh, ?_,
      begins.allocating pair.here.allocating,
      begins.accounts pair.here.allocating pair.here.accounts⟩, pair.there,
    pair.carriesOut.of_eq begins.sender rfl rfl,
    pair.carriesIn.of_eq rfl begins.received begins.reading,
    begins.receivesThere pair.here.allocating pair.receivesThere, ?_⟩
  · refine begins.registers.sending pair.here.naming pair.here.sending fresh begins.unencoded
      begins.written begins.call ?_
    intro stream member
    rw [begins.waiting] at member
    exact .inl member
  · exact begins.registers.receives pair.here.naming pair.receivesHere awaited rfl
      fun _ expected => begins.expected_ne pair expected

end FerroTunnel.Link
