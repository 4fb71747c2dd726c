import FerroTunnel.Link.Invariant

/-!
# Frame rules

What part of a connection each clause of the invariant reads, as rules that
carry a clause over to a state in which that part is unchanged or has changed
harmlessly.
-/

namespace FerroTunnel.Link

open FerroTunnel.Channel
open FerroTunnel.Stream
open FerroTunnel.Transport
open FerroTunnel.Wire

variable {bincode : Bincode} {side : Side} {owner : ChanId → UInt32}
  {priority : UInt32 → StreamPriority} {traffic : Traffic} {wire : Bytes}
  {endpoint next sender receiver : Endpoint}

/-! ## Naming -/

/-- The uses of channels in `next` are uses in `endpoint`, apart from where the
receiving halves are kept. -/
structure NamesKept (endpoint next : Endpoint) : Prop where
  nextChan : next.mux.nextChan = endpoint.mux.nextChan
  registered : ∀ streamId chan, next.mux.streams.lookup streamId = some chan →
    endpoint.mux.streams.lookup streamId = some chan
  cached : ∀ streamId chan, next.mux.lastSender = some (streamId, chan) →
    endpoint.mux.lastSender = some (streamId, chan) ∨
      endpoint.mux.streams.lookup streamId = some chan
  sending : ∀ streamId chan, taskTarget next.task = some (streamId, chan) →
    taskTarget endpoint.task = some (streamId, chan) ∨
      endpoint.mux.lastSender = some (streamId, chan) ∨
      endpoint.mux.streams.lookup streamId = some chan

/-- Nothing about names has changed. -/
theorem NamesKept.of_eq (nextChan : next.mux.nextChan = endpoint.mux.nextChan)
    (streams : next.mux.streams = endpoint.mux.streams)
    (lastSender : next.mux.lastSender = endpoint.mux.lastSender)
    (task : next.task = endpoint.task) : NamesKept endpoint next := by
  refine ⟨nextChan, ?_, ?_, ?_⟩
  · rw [streams]
    exact fun _ _ registered => registered
  · rw [lastSender]
    exact fun _ _ cached => .inl cached
  · rw [task]
    exact fun _ _ sending => .inl sending

/-- The read loop sends a frame to a known channel, which it keeps as its last one. -/
theorem NamesKept.of_dispatched {streamId : UInt32} {tx : ChanId} {task : FrameTask}
    {rest : Bytes} (known : endpoint.mux.lastSender = some (streamId, tx) ∨
      endpoint.mux.streams.lookup streamId = some tx)
    (target : taskTarget task = some (streamId, tx)) : NamesKept endpoint { endpoint with
      mux := { endpoint.mux with lastSender := some (streamId, tx) }
      task := task
      received := rest } := by
  refine ⟨rfl, fun _ _ registered => registered, ?_, ?_⟩
  · rintro _ _ ⟨⟩
    exact known
  · rw [target]
    rintro _ _ ⟨⟩
    exact .inr known

namespace NamesKept

theorem made_iff (kept : NamesKept endpoint next) (chan : ChanId) :
    next.Made chan ↔ endpoint.Made chan := by
  rw [Endpoint.Made, Endpoint.Made, kept.nextChan]

/-- Names kept, a step may move the receiving halves of channels: each of those in
use afterwards is present and belongs to the stream it is used for. -/
theorem naming (kept : NamesKept endpoint next) (naming : Naming owner endpoint)
    (handled : ∀ chan handle, next.handles chan = some handle →
      next.Present chan ∧ handle.stream.rx = chan ∧ handle.stream.streamId = owner chan)
    (opening : ∀ chan call, next.opening chan = some call →
      next.Present chan ∧ call.streamId = owner chan ∧ next.handles chan = none)
    (waiting : ∀ stream ∈ next.waiting, next.Present stream.rx ∧
      stream.streamId = owner stream.rx ∧ next.handles stream.rx = none ∧
        next.opening stream.rx = none)
    (distinct : (next.waiting.map VirtualStream.rx).Nodup) : Naming owner next where
  unique := by
    intro first second firstMade secondMade
    exact naming.unique first second ((kept.made_iff _).mp firstMade)
      ((kept.made_iff _).mp secondMade)
  registered := by
    intro streamId chan registered
    rw [kept.made_iff]
    exact naming.registered streamId chan (kept.registered streamId chan registered)
  cached := by
    intro streamId chan cached
    rw [kept.made_iff]
    rcases kept.cached streamId chan cached with before | registered
    · exact naming.cached streamId chan before
    · exact naming.registered streamId chan registered
  sending := by
    intro streamId chan sending
    rw [kept.made_iff]
    rcases kept.sending streamId chan sending with before | cached | registered
    · exact naming.sending streamId chan before
    · exact naming.cached streamId chan cached
    · exact naming.registered streamId chan registered
  handled := handled
  opening := opening
  waiting := waiting
  distinct := distinct

end NamesKept

/-- Names kept, a step that leaves receiving halves where they were, or drops them. -/
theorem Naming.of_halves (naming : Naming owner endpoint) (kept : NamesKept endpoint next)
    (gone : ∀ chan, ((∃ handle, next.handles chan = some handle) ∨
        (∃ call, next.opening chan = some call) ∨ ∃ stream ∈ next.waiting, stream.rx = chan) →
      (next.mux.channels chan).receiverGone = (endpoint.mux.channels chan).receiverGone)
    (handled : ∀ chan after, next.handles chan = some after → ∃ before,
      endpoint.handles chan = some before ∧ after.stream.rx = before.stream.rx ∧
        after.stream.streamId = before.stream.streamId)
    (opening : ∀ chan after, next.opening chan = some after → ∃ before,
      endpoint.opening chan = some before ∧ after.streamId = before.streamId)
    (waiting : next.waiting.Sublist endpoint.waiting) : Naming owner next := by
  have present {chan : ChanId} (held : (∃ handle, next.handles chan = some handle) ∨
      (∃ call, next.opening chan = some call) ∨ ∃ stream ∈ next.waiting, stream.rx = chan)
      (before : endpoint.Present chan) : next.Present chan :=
    ⟨(kept.made_iff chan).mpr before.1, (gone chan held).trans before.2⟩
  have unhandled {chan : ChanId} (before : endpoint.handles chan = none) :
      next.handles chan = none := by
    cases after : next.handles chan with
    | none => rfl
    | some handle =>
        obtain ⟨old, oldEq, _⟩ := handled chan handle after
        rw [before] at oldEq
        cases oldEq
  have unopened {chan : ChanId} (before : endpoint.opening chan = none) :
      next.opening chan = none := by
    cases after : next.opening chan with
    | none => rfl
    | some call =>
        obtain ⟨old, oldEq, _⟩ := opening chan call after
        rw [before] at oldEq
        cases oldEq
  refine kept.naming naming ?_ ?_ ?_ ?_
  · intro chan handle after
    obtain ⟨old, oldEq, rxEq, idEq⟩ := handled chan handle after
    obtain ⟨held, oldRx, oldId⟩ := naming.handled chan old oldEq
    exact ⟨present (.inl ⟨handle, after⟩) held, rxEq.trans oldRx, idEq.trans oldId⟩
  · intro chan call after
    obtain ⟨old, oldEq, idEq⟩ := opening chan call after
    obtain ⟨held, oldId, none⟩ := naming.opening chan old oldEq
    exact ⟨present (.inr (.inl ⟨call, after⟩)) held, idEq.trans oldId, unhandled none⟩
  · intro stream member
    obtain ⟨held, idEq, noHandle, noCall⟩ := naming.waiting stream (waiting.subset member)
    exact ⟨present (.inr (.inr ⟨stream, member, rfl⟩)) held, idEq, unhandled noHandle,
      unopened noCall⟩
  · exact naming.distinct.sublist (waiting.map _)

/-! ## Sending -/

/-- What a step adds to what an endpoint sends has to be the stream's own. -/
theorem Sending.step (sending : Sending bincode owner priority endpoint)
    (made : ∀ chan, endpoint.Made chan → next.Made chan)
    (handled : ∀ chan handle, next.handles chan = some handle →
      handle.stream.priority = priority handle.stream.streamId ∧ PendingWrite handle)
    (opening : ∀ chan after, next.opening chan = some after → ∃ before,
      endpoint.opening chan = some before ∧ after.streamId = before.streamId ∧
        after.priority = before.priority ∧ after.protocol = before.protocol ∧
        after.future.item = before.future.item ∧
        next.written before.streamId = endpoint.written before.streamId)
    (waiting : ∀ stream ∈ next.waiting, stream ∈ endpoint.waiting)
    (queued : ∀ item ∈ next.unencoded, item ∈ endpoint.unencoded ∨
      (∀ streamId, concerns streamId item.2 = true →
        item.1 = priority streamId ∧ ∃ chan, next.Made chan ∧ owner chan = streamId) ∧
      (item.2.isData = true → isEncodable .default bincode item.2 = true))
    (written : ∀ streamId, next.written streamId ≠ [] → endpoint.written streamId ≠ [] ∨
      ∃ chan, next.Made chan ∧ owner chan = streamId) :
    Sending bincode owner priority next where
  handled := handled
  opening := by
    intro chan after afterEq
    obtain ⟨before, beforeEq, idEq, priorityEq, protocolEq, itemEq, writtenEq⟩ :=
      opening chan after afterEq
    rw [idEq, priorityEq, protocolEq, itemEq, writtenEq]
    exact sending.opening chan before beforeEq
  waiting := fun stream member => sending.waiting stream (waiting stream member)
  queued := by
    intro item member streamId concerned
    rcases queued item member with before | ⟨new, _⟩
    · obtain ⟨priorityEq, chan, chanMade, ownerEq⟩ :=
        sending.queued item before streamId concerned
      exact ⟨priorityEq, chan, made chan chanMade, ownerEq⟩
    · exact new streamId concerned
  encodable := by
    intro item member isData
    rcases queued item member with before | ⟨_, new⟩
    · exact sending.encodable item before isData
    · exact new isData
  written := by
    intro streamId nonempty
    rcases written streamId nonempty with before | new
    · obtain ⟨chan, chanMade, ownerEq⟩ := sending.written streamId before
      exact ⟨chan, made chan chanMade, ownerEq⟩
    · exact new

/-- A step that sends nothing and adds no stream. -/
theorem Sending.of_eq (sending : Sending bincode owner priority endpoint)
    (nextChan : next.mux.nextChan = endpoint.mux.nextChan)
    (handled : ∀ chan handle, next.handles chan = some handle →
      handle.stream.priority = priority handle.stream.streamId ∧ PendingWrite handle)
    (opening : ∀ chan call, next.opening chan = some call → endpoint.opening chan = some call)
    (waiting : ∀ stream ∈ next.waiting, stream ∈ endpoint.waiting)
    (unencoded : ∀ item ∈ next.unencoded, item ∈ endpoint.unencoded)
    (written : next.written = endpoint.written) : Sending bincode owner priority next := by
  refine sending.step ?_ handled ?_ waiting ?_ ?_
  · intro chan made
    rwa [Endpoint.Made, nextChan]
  · intro chan call afterEq
    exact ⟨call, opening chan call afterEq, rfl, rfl, rfl, rfl, by rw [written]⟩
  · exact fun item member => .inl (unencoded item member)
  · intro streamId nonempty
    rw [written] at nonempty
    exact .inl nonempty

/-! ## Allocating and accounting -/

theorem Allocating.of_eq (allocating : Allocating side endpoint)
    (nextStreamId : next.mux.nextStreamId = endpoint.mux.nextStreamId)
    (opening : ∀ streamId, next.IsOpening streamId → endpoint.IsOpening streamId) :
    Allocating side next where
  next := by
    rw [nextStreamId]
    exact allocating.next
  opening := by
    intro streamId isOpening
    rw [nextStreamId]
    exact allocating.opening streamId (opening streamId isOpening)

/-- Frames may be queued behind those that are there, provided that their data is
recorded as written and that they open streams in order. -/
theorem Accounts.enqueue (accounts : Accounts side traffic endpoint) (items : List Frame)
    (queued : next.unencoded.map Prod.snd = endpoint.unencoded.map Prod.snd ++ items)
    (written : ∀ streamId, next.written streamId =
      endpoint.written streamId ++ dataIn streamId items)
    (nextStreamId : next.mux.nextStreamId = endpoint.mux.nextStreamId)
    (opening : ∀ streamId, next.IsOpening streamId → endpoint.IsOpening streamId)
    (ordered : ∀ streamId, OpensFirst streamId (traffic.frames endpoint ++ items))
    (openers : ∀ streamId, (∃ frame ∈ items, opens streamId frame = true) →
      IsLocal side streamId ∧ streamId.toNat < next.mux.nextStreamId.toNat ∧
        ¬next.IsOpening streamId) : Accounts side traffic next := by
  have framesEq : traffic.frames next = traffic.frames endpoint ++ items := by
    rw [Traffic.frames, queued, ← List.append_assoc, Traffic.frames]
  constructor
  · intro streamId
    rw [framesEq, dataIn_append, ← List.append_assoc, accounts.accounted, written]
  · intro streamId
    rw [framesEq]
    exact ordered streamId
  · rintro streamId ⟨frame, member, opened⟩
    rw [framesEq] at member
    rcases List.mem_append.mp member with before | new
    · obtain ⟨isLocal, bounded, notOpening⟩ := accounts.openers streamId ⟨frame, before, opened⟩
      rw [nextStreamId]
      exact ⟨isLocal, bounded, fun isOpening => notOpening (opening streamId isOpening)⟩
    · exact openers streamId ⟨frame, new, opened⟩

theorem Accounts.of_eq (accounts : Accounts side traffic endpoint)
    (queued : next.unencoded.map Prod.snd = endpoint.unencoded.map Prod.snd)
    (written : next.written = endpoint.written)
    (nextStreamId : next.mux.nextStreamId = endpoint.mux.nextStreamId)
    (opening : ∀ streamId, next.IsOpening streamId → endpoint.IsOpening streamId) :
    Accounts side traffic next := by
  refine accounts.enqueue [] (by simp [queued]) (by simp [written]) nextStreamId opening ?_
    (by simp)
  intro streamId
  simpa using accounts.ordered streamId

/-! ## Carrying -/

theorem Carries.of_eq {sender' receiver' : Endpoint}
    (carries : Carries bincode traffic sender receiver wire)
    (senderEq : sender'.sender = sender.sender)
    (received : receiver'.received = receiver.received)
    (reading : receiver'.reading = receiver.reading) :
    Carries bincode traffic sender' receiver' wire where
  bytes := by
    rw [senderEq, received, reading]
    exact carries.bytes
  lost := by
    rw [senderEq]
    exact carries.lost
  encodable := carries.encodable

/-! ## Receiving -/

theorem Expected.of_sender {traffic' : Traffic} {sender' : Endpoint} {streamId : UInt32}
    (expected : Expected side traffic' sender' receiver streamId)
    (nextStreamId : sender'.mux.nextStreamId = sender.mux.nextStreamId)
    (opening : sender'.IsOpening streamId → sender.IsOpening streamId)
    (frames : ∀ frame ∈ traffic'.frames sender', opens streamId frame = true →
      sender.IsOpening streamId ∨ frame ∈ traffic.frames sender) :
    Expected side traffic sender receiver streamId := by
  rcases expected with inward | ⟨isLocal, later⟩ | isOpening | ⟨frame, member, opened⟩
  · exact .inl inward
  · rw [nextStreamId] at later
    exact .inr (.inl ⟨isLocal, later⟩)
  · exact .inr (.inr (.inl (opening isOpening)))
  · rcases frames frame member opened with isOpening | before
    · exact .inr (.inr (.inl isOpening))
    · exact .inr (.inr (.inr ⟨frame, before, opened⟩))

variable (receives : Receives side owner traffic sender receiver)

include receives

/-- The receiver is not concerned by what the sender does, as long as no stream
becomes expected. -/
theorem Receives.of_sender {traffic' : Traffic} {sender' : Endpoint}
    (arrived : traffic'.arrived = traffic.arrived)
    (expected : ∀ streamId, Expected side traffic' sender' receiver streamId →
      Expected side traffic sender receiver streamId) :
    Receives side owner traffic' sender' receiver where
  expected := by
    intro streamId now
    rw [arrived]
    exact receives.expected streamId (expected streamId now)
  unmade := receives.unmade
  holds := by
    rw [arrived]
    exact receives.holds
  reached := by
    rw [arrived]
    exact receives.reached

/-- What the receiver does to the bytes it has: it may lose the last ones of a
channel that is not reached any more. -/
theorem Receives.of_receiver {receiver' : Endpoint}
    (nextChan : receiver'.mux.nextChan = receiver.mux.nextChan)
    (nextStreamId : receiver'.mux.nextStreamId = receiver.mux.nextStreamId)
    (unmade : ∀ streamId, (∀ chan, receiver.Made chan → owner chan ≠ streamId) →
      receiver'.delivered streamId = receiver.delivered streamId)
    (holds : ∀ chan, receiver.Made chan →
      receiver'.delivered (owner chan) ++ receiver'.buffered chan <+:
        receiver.delivered (owner chan) ++ receiver.buffered chan)
    (reached : ∀ chan, receiver.Made chan → Reaches owner receiver' chan →
      Reaches owner receiver chan ∧
        receiver'.delivered (owner chan) ++ receiver'.buffered chan =
          receiver.delivered (owner chan) ++ receiver.buffered chan) :
    Receives side owner traffic sender receiver' := by
  have madeEq : receiver'.Made = receiver.Made := by
    funext chan
    rw [Endpoint.Made, Endpoint.Made, nextChan]
  constructor
  · intro streamId expected
    rw [madeEq]
    apply receives.expected
    unfold Expected at expected ⊢
    rwa [nextStreamId] at expected
  · intro streamId none
    rw [madeEq] at none
    rw [unmade streamId none]
    exact receives.unmade streamId none
  · intro chan made
    rw [madeEq] at made
    exact (holds chan made).trans (receives.holds chan made)
  · intro chan made reaches
    rw [madeEq] at made
    obtain ⟨before, same⟩ := reached chan made reaches
    rw [same]
    exact receives.reached chan made before

/-- The receiver has the same bytes, in the same or other places. -/
theorem Receives.of_same_bytes {receiver' : Endpoint}
    (nextChan : receiver'.mux.nextChan = receiver.mux.nextChan)
    (nextStreamId : receiver'.mux.nextStreamId = receiver.mux.nextStreamId)
    (delivered : receiver'.delivered = receiver.delivered)
    (buffered : ∀ chan, receiver.Made chan → receiver'.buffered chan = receiver.buffered chan)
    (reaches : ∀ chan, receiver.Made chan → Reaches owner receiver' chan →
      Reaches owner receiver chan) : Receives side owner traffic sender receiver' := by
  refine receives.of_receiver nextChan nextStreamId (by simp [delivered]) ?_ ?_
  · intro chan made
    rw [delivered, buffered chan made]
  · intro chan made reached
    exact ⟨reaches chan made reached, by rw [delivered, buffered chan made]⟩

end FerroTunnel.Link
