import FerroTunnel.Link.DecodeSteps

/-!
# End-to-end fidelity of streams

Whatever two connected endpoints do, and however batches and wire bytes are
cut, the bytes a stream's reader gets are a prefix of those its writer was told
were written.
-/

namespace FerroTunnel.Link

open FerroTunnel.Channel
open FerroTunnel.Stream
open FerroTunnel.Transition
open FerroTunnel.Transport
open FerroTunnel.Wire

variable {bincode : Bincode}

/-- The invariant of a connection, seen from the client. -/
def Invariant (bincode : Bincode) (connection : Connection) : Prop :=
  ∃ ledger peerLedger, PairInvariant bincode .client ledger peerLedger
    (connection.endpoint .client) (connection.endpoint .server)
    (connection.wire .client) (connection.wire .server)

/-- The invariant can be seen from either end. -/
theorem invariant_iff_seen {connection : Connection} (side : Side) :
    Invariant bincode connection ↔ ∃ ledger peerLedger,
      PairInvariant bincode side ledger peerLedger (connection.endpoint side)
        (connection.endpoint side.peer) (connection.wire side) (connection.wire side.peer) := by
  cases side with
  | client => exact Iff.rfl
  | server =>
      constructor
      · rintro ⟨ledger, peerLedger, pair⟩
        exact ⟨peerLedger, ledger, pair.swap⟩
      · rintro ⟨ledger, peerLedger, pair⟩
        exact ⟨peerLedger, ledger, pair.swap⟩

/-! ## Steps -/

theorem PairInvariant.step {side : Side} {ledger peerLedger : Ledger}
    {endpoint next peer : Endpoint} {outward inward : Bytes} {action : EndpointAction}
    (inverts : bincode.Inverts)
    (pair : PairInvariant bincode side ledger peerLedger endpoint peer outward inward)
    (retries : endpoint.RetriesWrites action)
    (stepEq : endpoint.step bincode action = some next) :
    ∃ after peerAfter,
      PairInvariant bincode side after peerAfter next peer outward inward := by
  cases action with
  | openStream protocol priority now =>
      obtain ⟨after, result⟩ := pair.openStream stepEq
      exact ⟨after, peerLedger, result⟩
  | pollOpen chan now => exact ⟨ledger, peerLedger, pair.pollOpen stepEq⟩
  | dropOpen chan =>
      obtain ⟨call, callEq, rfl⟩ := Option.map_eq_some_iff.mp stepEq
      exact ⟨ledger, peerLedger, pair.abandonOpen callEq⟩
  | pollWrite chan now buf =>
      refine ⟨ledger, peerLedger, pair.pollWrite ?_ stepEq⟩
      intro handle handled waiting retryEq
      rcases retries _ rfl handle handled with none | same
      · rw [none] at retryEq
        cases retryEq
      · exact Option.some.inj (retryEq.symm.trans same)
  | pollShutdown chan now =>
      refine ⟨ledger, peerLedger, pair.pollShutdown ?_ stepEq⟩
      intro handle handled
      exact (retries _ rfl handle handled).elim id id
  | sendFrame frame => exact ⟨ledger, peerLedger, pair.sendFrame stepEq⟩
  | collect =>
      obtain ⟨sent, result⟩ := pair.collect stepEq
      exact ⟨_, peerLedger, result⟩
  | decode => exact pair.decode inverts stepEq
  | resume => exact ⟨ledger, peerLedger, pair.resume stepEq⟩
  | accept => exact ⟨ledger, peerLedger, pair.accept stepEq⟩
  | closeAcceptor =>
      cases stepEq
      exact ⟨ledger, peerLedger, pair.closeAcceptor⟩
  | pollRead chan room => exact ⟨ledger, peerLedger, pair.pollRead stepEq⟩
  | dropStream chan => exact ⟨ledger, peerLedger, pair.dropStream stepEq⟩

/-- Every step of a connection keeps the invariant. -/
theorem Invariant.step {connection next : Connection} {action : Action}
    (inverts : bincode.Inverts) (invariant : Invariant bincode connection)
    (retries : RetriesWrites connection action)
    (stepEq : connection.step bincode action = some next) : Invariant bincode next := by
  have replaced (side : Side) (endpoint : Endpoint) :
      (connection.setEndpoint side endpoint).endpoint side = endpoint ∧
        (connection.setEndpoint side endpoint).endpoint side.peer =
          connection.endpoint side.peer :=
    ⟨Function.update_self .., Function.update_of_ne side.peer_ne ..⟩
  cases action with
  | endpoint side action =>
      obtain ⟨endpoint, endpointStep, rfl⟩ := Option.map_eq_some_iff.mp stepEq
      obtain ⟨ledger, peerLedger, pair⟩ := (invariant_iff_seen side).mp invariant
      rw [invariant_iff_seen side, (replaced side endpoint).1, (replaced side endpoint).2]
      exact pair.step inverts retries endpointStep
  | write side written =>
      obtain ⟨ledger, peerLedger, pair⟩ := (invariant_iff_seen side).mp invariant
      simp only [Connection.step, Connection.write] at stepEq
      split at stepEq
      · rename_i cursor writing
        rw [invariant_iff_seen side]
        rcases cursor.turn_cases written with ⟨turnEq, nothing⟩ | ⟨later, turnEq, bytes⟩ |
          ⟨error, turnEq⟩ <;> simp only [turnEq, Option.some.injEq] at stepEq <;> subst stepEq
        · rw [(replaced side _).1, (replaced side _).2]
          have after := pair.writeTurn (.collecting [] false) [] writing rfl nothing.symm
          rw [List.append_nil] at after
          exact ⟨ledger, peerLedger, after⟩
        · refine ⟨ledger, peerLedger, ?_⟩
          have after := pair.writeTurn (.writing later) (cursor.unwritten.take written) writing rfl
            (by rw [SenderTask.unwritten, bytes, List.take_append_drop])
          simpa [Connection.setEndpoint, side.peer_ne] using after
        · rw [(replaced side _).1, (replaced side _).2]
          obtain ⟨sent, after⟩ := pair.stopSender writing
          exact ⟨_, peerLedger, after⟩
      · cases stepEq
  | writeError side =>
      obtain ⟨ledger, peerLedger, pair⟩ := (invariant_iff_seen side).mp invariant
      simp only [Connection.step] at stepEq
      split at stepEq
      · rename_i cursor writing
        cases stepEq
        obtain ⟨sent, after⟩ := pair.stopSender writing
        rw [invariant_iff_seen side, (replaced side _).1, (replaced side _).2]
        exact ⟨_, peerLedger, after⟩
      · cases stepEq
  | transfer side count =>
      obtain ⟨ledger, peerLedger, pair⟩ := (invariant_iff_seen side.peer).mp invariant
      cases stepEq
      rw [invariant_iff_seen side.peer]
      refine ⟨ledger, peerLedger, ?_⟩
      have after := pair.transfer count
      simp only [Side.peer_peer] at after ⊢
      simpa [Connection.setEndpoint, side.peer_ne, side.peer_ne.symm] using after

/-! ## Runs -/

/-- The empty ledger. -/
def Ledger.initial : Ledger where
  owner := fun _ => 0
  priority := fun _ => .normal
  sent := ⟨[], [], fun _ => []⟩

theorem EndpointInvariant.initial (side : Side) :
    EndpointInvariant bincode side .initial (.initial (side = .client)) := by
  have noChannel (chan : ChanId) : ¬Endpoint.Made (.initial (side = .client)) chan :=
    Nat.not_lt_zero chan
  have notOpening (streamId : UInt32) :
      ¬Endpoint.IsOpening (.initial (side = .client)) streamId := by
    rintro ⟨chan, call, callEq, _⟩
    cases callEq
  refine ⟨⟨?_, ?_, ?_, ?_, ?_, ?_, ?_, ?_⟩, ⟨?_, ?_, ?_, ?_, ?_, ?_⟩, ⟨?_, ?_⟩, ⟨?_, ?_, ?_⟩⟩
  · exact fun first _ made => absurd made (noChannel first)
  · rintro streamId chan ⟨⟩
  · rintro streamId chan ⟨⟩
  · rintro streamId chan ⟨⟩
  · rintro chan handle ⟨⟩
  · rintro chan call ⟨⟩
  · rintro stream ⟨⟩
  · exact List.nodup_nil
  · rintro chan handle ⟨⟩
  · rintro chan call ⟨⟩
  · rintro stream ⟨⟩
  · rintro item ⟨⟩
  · rintro item ⟨⟩
  · exact fun streamId nonempty => absurd rfl nonempty
  · cases side <;> rfl
  · exact fun streamId opening => absurd opening (notOpening streamId)
  · exact fun streamId => rfl
  · exact fun streamId => List.Pairwise.nil
  · rintro streamId ⟨frame, ⟨⟩, _⟩

theorem Receives.initial (side : Side) :
    Receives side Ledger.initial.owner Ledger.initial.sent (.initial (side = .client))
      (.initial (side.peer = .client)) := by
  have noChannel (chan : ChanId) : ¬Endpoint.Made (.initial (side.peer = .client)) chan :=
    Nat.not_lt_zero chan
  refine ⟨?_, fun _ _ => rfl, ?_, ?_⟩
  · exact fun _ _ => ⟨rfl, fun chan made => absurd made (noChannel chan)⟩
  · exact fun chan made => absurd made (noChannel chan)
  · exact fun chan made => absurd made (noChannel chan)

theorem Invariant.initial : Invariant bincode .initial :=
  ⟨.initial, .initial, .initial .client, .initial .server,
    ⟨fun _ => rfl, fun _ => rfl, fun _ member => nomatch member⟩,
    ⟨fun _ => rfl, fun _ => rfl, fun _ member => nomatch member⟩,
    .initial .client, .initial .server⟩

/-- What an end has read from a stream is a prefix of what the other has written
to it. -/
theorem Invariant.delivered_prefix {connection : Connection}
    (invariant : Invariant bincode connection) (side : Side) (streamId : UInt32) :
    (connection.endpoint side.peer).delivered streamId <+:
      (connection.endpoint side).written streamId := by
  obtain ⟨ledger, peerLedger, pair⟩ := (invariant_iff_seen side).mp invariant
  have arrived : ledger.sent.arrived streamId <+: (connection.endpoint side).written streamId := by
    rw [← pair.here.accounts.accounted streamId]
    exact List.prefix_append _ _
  by_cases named : ∃ chan, (connection.endpoint side.peer).Made chan ∧
      peerLedger.owner chan = streamId
  · obtain ⟨chan, made, rfl⟩ := named
    exact ((List.prefix_append _ _).trans (pair.receivesThere.holds chan made)).trans arrived
  · rw [pair.receivesThere.unmade streamId fun chan made ownerEq => named ⟨chan, made, ownerEq⟩]
    exact List.nil_prefix

/-- In every run of two connected endpoints whose callers retry the writes they
are told to wait for, and for every stream in both directions, the bytes
returned by reads at one end are a prefix of the bytes reported as written at
the other. -/
theorem stream_fidelity (inverts : bincode.Inverts) {actions : List Action}
    {connection : Connection}
    (run : exec (Connection.step bincode) .initial actions = some connection)
    (retries : Meets (Connection.step bincode) RetriesWrites .initial actions) (side : Side)
    (streamId : UInt32) :
    (connection.endpoint side.peer).delivered streamId <+:
      (connection.endpoint side).written streamId := by
  have invariant : Invariant bincode connection :=
    exec_invariant_of_meets (fun invariant retries stepEq => invariant.step inverts retries stepEq)
      Invariant.initial retries run
  exact invariant.delivered_prefix side streamId

/-- The client opens stream 1 and writes two bytes; batches and wire bytes are cut
unevenly, and the server accepts the stream and reads one byte of it. -/
def oneByteRead : List Action :=
  [.endpoint .client (.openStream .tcp .normal 0), .endpoint .client (.pollOpen 0 0),
    .endpoint .client (.pollWrite 0 0 [7, 8]), .endpoint .client .collect,
    .endpoint .client .collect, .endpoint .client .collect, .endpoint .client .collect,
    .write .client 3, .write .client 100, .write .client 0, .transfer .client 5,
    .transfer .client 100, .endpoint .server .decode, .endpoint .server .resume,
    .endpoint .server .accept, .endpoint .server .decode, .endpoint .server .resume,
    .endpoint .server (.pollRead 0 1)]

/-- The run takes place, its callers retry, and the byte read is the first one
written. -/
theorem stream_fidelity_oneByteRead :
    (exec (Connection.step (.standard .sorted)) .initial oneByteRead).map (fun connection =>
        ((connection.endpoint .server).delivered 1, (connection.endpoint .client).written 1)) =
      some ([7], [7, 8]) ∧
    ∃ connection, exec (Connection.step (.standard .sorted)) .initial oneByteRead =
        some connection ∧
      (connection.endpoint .server).delivered 1 <+: (connection.endpoint .client).written 1 := by
  have values : (exec (Connection.step (.standard .sorted)) .initial oneByteRead).map
      (fun connection =>
        ((connection.endpoint .server).delivered 1, (connection.endpoint .client).written 1)) =
      some ([7], [7, 8]) := by
    decide +kernel
  have retries : Meets (Connection.step (.standard .sorted)) RetriesWrites .initial
      oneByteRead := by
    decide +kernel
  obtain ⟨connection, run, _⟩ := Option.map_eq_some_iff.mp values
  exact ⟨values, connection, run,
    stream_fidelity Bincode.standard_inverts run retries .client 1⟩

end FerroTunnel.Link
