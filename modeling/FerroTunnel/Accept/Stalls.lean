import FerroTunnel.Accept.Loop

/-!
# Who can keep an accept loop from accepting

A loop that completes the handshake of a connection before it accepts the next one
waits until that handshake succeeds or fails, and sets no time limit of its own.  The
tunnel server does so over TLS and over QUIC; over QUIC the idle timeout of the
connection fails the handshake of a silent peer, over TLS nothing does.

The HTTP/3 ingress selects on its shutdown channel first.  When it is started without
a shutdown channel of its own, the sender of the channel is gone from the beginning,
which the loop takes for a shutdown.
-/

namespace FerroTunnel.Accept

open FerroTunnel.Channel
open FerroTunnel.Time
open FerroTunnel.Transition
open FerroTunnel.Tunnel

variable {config : LoopConfig} {loop next final : AcceptLoop}

/-- A handshake comes to an end, with success or not. -/
def LoopAction.isHandshake : LoopAction → Bool
  | .handshake _ _ _ => true
  | _ => false

namespace AcceptLoop

/-- Until a handshake ends, the loop accepts nothing and does not end: what arrives stays
in the backlog. -/
def Stalled (config : LoopConfig) (loop : AcceptLoop) : Prop :=
  ∀ later final, (∀ action ∈ later, action.isHandshake = false) →
    exec (step config) loop later = some final →
    final.isOver = false ∧ ∃ arrived, final.backlog = loop.backlog ++ arrived ∧
      final.arrivals = loop.arrivals + arrived.length

/-! ## A peer that is silent -/

/-- While the loop shakes hands with a peer, nothing else moves it on. -/
theorem shakingHands_step {peer : Peer} {action : LoopAction}
    (waits : loop.phase = .shakingHands peer) (silent : action.isHandshake = false)
    (stepEq : step config loop action = some next) :
    next.phase = .shakingHands peer ∧ ∃ arrived, next.backlog = loop.backlog ++ arrived ∧
      next.arrivals = loop.arrivals + arrived.length := by
  have elsewhere {phase : LoopPhase} (other : loop.phase = phase) :
      phase = .shakingHands peer := other.symm.trans waits
  cases steps_of_step stepEq with
  | connect => exact ⟨waits, [loop.arrivals], rfl, rfl⟩
  | shutDown accepting | take accepting | grant accepting | fail accepting =>
      cases elsewhere accepting
  | shaken | unshaken => cases silent
  | wake sleeping => cases elsewhere sleeping
  | finish | sendShutdown | dropShutdown => exact ⟨waits, [], (List.append_nil _).symm, rfl⟩

theorem isOver_of_shakingHands {peer : Peer} (waits : loop.phase = .shakingHands peer) :
    loop.isOver = false := by
  rw [isOver, waits]

/-- By induction on what happens before the peer does anything. -/
theorem stalled_of_shakingHands {peer : Peer} (waits : loop.phase = .shakingHands peer) :
    loop.Stalled config := by
  intro later final silent run
  induction later generalizing loop with
  | nil =>
      cases run
      exact ⟨isOver_of_shakingHands waits, [], (List.append_nil _).symm, rfl⟩
  | cons action rest ih =>
      obtain ⟨next, stepEq, restRun⟩ := exec_cons_eq_some_iff.mp run
      obtain ⟨waitsNext, arrived, backlogEq, arrivalsEq⟩ :=
        shakingHands_step waits (silent action List.mem_cons_self) stepEq
      obtain ⟨goesOn, more, moreBacklog, moreArrivals⟩ :=
        ih waitsNext (fun other member => silent other (List.mem_cons_of_mem _ member)) restRun
      refine ⟨goesOn, arrived ++ more, ?_, ?_⟩
      · rw [moreBacklog, backlogEq, List.append_assoc]
      · rw [moreArrivals, arrivalsEq, List.length_append, Nat.add_assoc]

/-! ## A loop that leaves the handshake to others -/

/-- The loop holds no connection itself and watches no shutdown channel. -/
structure Free (loop : AcceptLoop) : Prop where
  phase : ∀ peer, loop.phase ≠ .shakingHands peer
  shutdown : loop.shutdown = none

/-- Apart from the permits and the connection itself, the loop only goes on to its next
accept. -/
theorem grant_rest (config : LoopConfig) (loop : AcceptLoop) (peer : Peer) (found : Bool) :
    (loop.grant config peer found).phase = .accepting ∧
      (loop.grant config peer found).shutdown = loop.shutdown ∧
      (loop.grant config peer found).backlog = loop.backlog ∧
      (loop.grant config peer found).arrivals = loop.arrivals := by
  unfold AcceptLoop.grant
  split
  · exact ⟨rfl, rfl, rfl, rfl⟩
  split
  · exact ⟨rfl, rfl, rfl, rfl⟩
  · exact ⟨rfl, rfl, rfl, rfl⟩

theorem Free.grant {peer : Peer} {found : Bool} (shutdown : loop.shutdown = none) :
    (loop.grant config peer found).Free := by
  obtain ⟨accepting, same, -⟩ := grant_rest config loop peer found
  constructor
  · intro other
    rw [accepting]
    exact LoopPhase.noConfusion
  · rw [same, shutdown]

theorem Free.failed {failure : AcceptFailure} {draw : Draw} (shutdown : loop.shutdown = none) :
    (loop.failed config failure draw).Free := by
  unfold AcceptLoop.failed
  split
  · exact ⟨fun _ => LoopPhase.noConfusion, shutdown⟩
  split
  · exact ⟨fun _ => LoopPhase.noConfusion, shutdown⟩
  · exact ⟨fun _ => LoopPhase.noConfusion, shutdown⟩

theorem Free.step {action : LoopAction} (leaves : config.shakesHands = false) (free : loop.Free)
    (stepEq : AcceptLoop.step config loop action = some next) : next.Free := by
  cases steps_of_step stepEq with
  | connect | finish => exact ⟨free.phase, free.shutdown⟩
  | shutDown | wake => exact ⟨fun _ => LoopPhase.noConfusion, free.shutdown⟩
  | take _ _ _ shakes => cases leaves.symm.trans shakes
  | grant => exact Free.grant free.shutdown
  | fail => exact Free.failed free.shutdown
  | shaken shaking | unshaken shaking => exact absurd shaking (free.phase _)
  | sendShutdown watched | dropShutdown watched => cases free.shutdown.symm.trans watched

/-- A poll takes a connection that is there. -/
theorem Free.poll (leaves : config.shakesHands = false) (free : loop.Free)
    (accepting : loop.phase = .accepting) (waiting : loop.backlog ≠ []) (found : Bool) :
    ∃ next, AcceptLoop.step config loop (.poll found) = some next ∧
      next.backlog.length + 1 = loop.backlog.length ∧ next.arrivals = loop.arrivals := by
  obtain ⟨peer, rest, backlogEq⟩ := List.exists_cons_of_ne_nil waiting
  have quiet : loop.isShutDown = false := by rw [isShutDown, free.shutdown]
  let taken : AcceptLoop := { loop with backlog := rest, backoff := loop.backoff.reset }
  obtain ⟨-, -, backlogAfter, arrivalsAfter⟩ := grant_rest config taken peer found
  refine ⟨taken.grant config peer found, ?_, ?_, ?_⟩
  · simp [AcceptLoop.step, AcceptLoop.accept, accepting, quiet, backlogEq, leaves, taken]
  · rw [backlogAfter, backlogEq, List.length_cons]
  · rw [arrivalsAfter]

/-- A connection that arrives while the loop accepts is taken with the next polls. -/
theorem Free.not_stalled_of_accepting (leaves : config.shakesHands = false) (free : loop.Free)
    (accepting : loop.phase = .accepting) : ¬loop.Stalled config := by
  intro stalled
  let after : AcceptLoop :=
    { loop with backlog := loop.backlog ++ [loop.arrivals], arrivals := loop.arrivals + 1 }
  have connects : AcceptLoop.step config loop .connect = some after := by
    simp [AcceptLoop.step, isOver, accepting, after]
  have waiting : after.backlog ≠ [] := List.append_ne_nil_of_right_ne_nil _ (List.cons_ne_nil _ _)
  have freeAfter : after.Free := ⟨free.phase, free.shutdown⟩
  obtain ⟨final, polls, backlogEq, arrivalsEq⟩ := freeAfter.poll leaves accepting waiting true
  have run : exec (AcceptLoop.step config) loop [.connect, .poll true] = some final :=
    exec_cons_eq_some_iff.mpr ⟨after, connects, exec_cons_eq_some_iff.mpr ⟨final, polls, rfl⟩⟩
  have silent : ∀ action ∈ [LoopAction.connect, .poll true], action.isHandshake = false := by
    decide
  -- One connection has arrived, and the backlog is as long as before.
  obtain ⟨-, arrived, kept, counted⟩ := stalled _ final silent run
  have sameLength : final.backlog.length = loop.backlog.length := by
    apply Nat.succ.inj
    rw [← Nat.add_one, backlogEq]
    exact List.length_append
  rw [kept, List.length_append, Nat.add_eq_left] at sameLength
  rw [arrivalsEq, sameLength] at counted
  exact absurd counted (Nat.succ_ne_self loop.arrivals)

/-- The end of a delay changes nothing for those who wait. -/
theorem Stalled.wake (stalled : loop.Stalled config) {delay : Duration}
    (sleeping : loop.phase = .sleeping delay) :
    AcceptLoop.Stalled config { loop with phase := .accepting } := by
  intro later final silent run
  apply stalled (.wake :: later) final
  · intro action member
    cases member with
    | head => rfl
    | tail _ member => exact silent action member
  · apply exec_cons_eq_some_iff.mpr
    refine ⟨_, ?_, run⟩
    simp [AcceptLoop.step, sleeping]

theorem Free.not_stalled (leaves : config.shakesHands = false) (free : loop.Free) :
    ¬loop.Stalled config := by
  intro stalled
  have goesOn := (stalled [] loop (List.forall_mem_nil _) rfl).1
  cases phase : loop.phase with
  | accepting => exact free.not_stalled_of_accepting leaves phase stalled
  | shakingHands peer => exact free.phase peer phase
  | sleeping delay =>
      apply Free.not_stalled_of_accepting leaves ?_ rfl (stalled.wake phase)
      exact ⟨fun _ => LoopPhase.noConfusion, free.shutdown⟩
  | ended result | panicked =>
      rw [isOver, phase] at goesOn
      cases goesOn

theorem start_free (config : LoopConfig) : (start config none).Free :=
  ⟨fun _ => LoopPhase.noConfusion, rfl⟩

end AcceptLoop

open AcceptLoop

/-- The first connection is enough. -/
theorem exists_shakingHands (shakes : config.shakesHands = true) :
    ∃ actions loop, exec (step config) (start config none) actions = some loop ∧
      loop.phase = .shakingHands 0 := by
  refine ⟨[.connect, .poll true], { start config none with
    phase := .shakingHands 0, arrivals := 1 }, ?_, rfl⟩
  simp [exec, step, start, isOver, isShutDown, AcceptLoop.accept, shakes]

/-- Some run leaves the loop waiting for one peer. -/
def CanStall (config : LoopConfig) : Prop :=
  ∃ actions loop, exec (step config) (start config none) actions = some loop ∧
    loop.Stalled config

/-- A loop can be stalled exactly when it completes handshakes itself. -/
theorem canStall_iff (config : LoopConfig) : CanStall config ↔ config.shakesHands = true := by
  constructor
  · rintro ⟨actions, loop, run, stalled⟩
    cases shakes : config.shakesHands with
    | true => rfl
    | false =>
        have free : loop.Free :=
          exec_invariant (fun free stepEq => Free.step shakes free stepEq) (start_free config) run
        exact absurd stalled (free.not_stalled shakes)
  · intro shakes
    obtain ⟨actions, loop, run, waits⟩ := exists_shakingHands shakes
    exact ⟨actions, loop, run, stalled_of_shakingHands waits⟩

/-- One peer in its handshake can keep the tunnel server from accepting any other connection
over TLS and over QUIC, and only over these; it cannot do so at the HTTP and TCP ingresses. -/
theorem tunnel_server_stalls_iff (maxConnections : Nat) :
    (∀ transport, CanStall (TunnelServer.run transport maxConnections) ↔ transport ≠ .tcp) ∧
      ¬CanStall (HttpIngress.start maxConnections) ∧
      ¬CanStall (TcpIngress.start maxConnections) := by
  refine ⟨fun transport => ?_, ?_, ?_⟩
  · rw [canStall_iff]
    exact decide_eq_true_iff
  · rw [canStall_iff]
    exact Bool.false_ne_true
  · rw [canStall_iff]
    exact Bool.false_ne_true

/-! ## A shutdown channel without a sender -/

/-- The loop has served nobody, and its shutdown channel is closed. -/
structure Unserved (loop : AcceptLoop) : Prop where
  phase : loop.phase = .accepting ∨ loop.phase = .ended (.ok ())
  shutdown : ∃ watch seen, loop.shutdown = some (watch, seen) ∧ watch.senderGone = true
  running : loop.running = []
  parted : loop.parted = []

theorem Unserved.isShutDown (unserved : Unserved loop) : loop.isShutDown = true := by
  obtain ⟨watch, seen, shutdownEq, gone⟩ := unserved.shutdown
  rw [AcceptLoop.isShutDown, shutdownEq]
  exact Option.isSome_iff_ne_none.mpr (Watch.changed_ne_none_of_gone gone seen)

/-- The select finds the closed channel before it asks the endpoint. -/
theorem Unserved.step {action : LoopAction} (unserved : Unserved loop)
    (stepEq : AcceptLoop.step config loop action = some next) : Unserved next := by
  obtain ⟨phase, ⟨watch, seen, shutdownEq, gone⟩, running, parted⟩ := unserved
  have shut := Unserved.isShutDown ⟨phase, ⟨watch, seen, shutdownEq, gone⟩, running, parted⟩
  have shutdown : ∃ watch seen, loop.shutdown = some (watch, seen) ∧ watch.senderGone = true :=
    ⟨watch, seen, shutdownEq, gone⟩
  cases steps_of_step stepEq with
  | connect => exact ⟨phase, shutdown, running, parted⟩
  | shutDown => exact ⟨.inr rfl, shutdown, running, parted⟩
  | take _ quiet | grant _ quiet | fail _ quiet => cases shut.symm.trans quiet
  | shaken shaking | unshaken shaking => simp [shaking] at phase
  | wake sleeping => simp [sleeping] at phase
  | finish served =>
      rw [running] at served
      cases served
  | sendShutdown watched there =>
      cases shutdownEq.symm.trans watched
      cases gone.symm.trans there
  | dropShutdown watched => exact ⟨phase, ⟨_, _, rfl, rfl⟩, running, parted⟩

theorem http3Ingress_start_unserved (maxConnections : Nat) :
    Unserved (Http3Ingress.start maxConnections) :=
  ⟨.inl rfl, ⟨_, _, rfl, rfl⟩, rfl, rfl⟩

/-- What makes the HTTP/3 loop return: its shutdown channel, or the end of the endpoint. -/
def LoopAction.stops : LoopAction → Bool
  | .sendShutdown => true
  | .dropShutdown => true
  | .fail _ _ => true
  | _ => false

/-- The loop goes on, and its shutdown channel has not changed. -/
structure Serving (loop : AcceptLoop) : Prop where
  phase : loop.phase = .accepting
  isShutDown : loop.isShutDown = false

theorem Serving.grant {peer : Peer} {found : Bool} (quiet : loop.isShutDown = false) :
    Serving (loop.grant config peer found) := by
  obtain ⟨accepting, same, -⟩ := grant_rest config loop peer found
  constructor
  · exact accepting
  · rw [AcceptLoop.isShutDown, same]
    exact quiet

theorem Serving.step {action : LoopAction} (leaves : config.shakesHands = false)
    (serving : Serving loop) (goesOn : action.stops = false)
    (stepEq : AcceptLoop.step config loop action = some next) : Serving next := by
  have elsewhere {phase : LoopPhase} (other : loop.phase = phase) : phase = .accepting :=
    other.symm.trans serving.phase
  cases steps_of_step stepEq with
  | connect | finish => exact ⟨serving.phase, serving.isShutDown⟩
  | shutDown _ shut => cases serving.isShutDown.symm.trans shut
  | take _ _ _ shakes => cases leaves.symm.trans shakes
  | grant => exact Serving.grant serving.isShutDown
  | fail | sendShutdown | dropShutdown => cases goesOn
  | shaken shaking | unshaken shaking => cases elsewhere shaking
  | wake sleeping => cases elsewhere sleeping

theorem start_serving (config : LoopConfig) :
    Serving (start config (some (Watch.new false, 0))) := by
  refine ⟨rfl, ?_⟩
  have waits : (Watch.new false).changed 0 = none := Watch.changed_eq_none_iff.mpr ⟨rfl, rfl⟩
  simp only [AcceptLoop.isShutDown, start, waits]
  rfl

/-- The HTTP/3 ingress that is started without a shutdown channel never takes a connection; it
can be polled until it has ended, and its first poll ends it.  With a channel that has its
sender, it goes on for as long as nothing is sent and the endpoint is open. -/
theorem http3_start_serves_nobody (maxConnections : Nat) (actions : List LoopAction) :
    (∀ loop, exec (step (Http3Ingress.startWithShutdown maxConnections))
        (Http3Ingress.start maxConnections) actions = some loop →
      loop.running = [] ∧ loop.parted = [] ∧
        (∀ found next,
          step (Http3Ingress.startWithShutdown maxConnections) loop (.poll found) = some next →
          next.phase = .ended (.ok ())) ∧
        (loop.isOver = false → ∀ found, ∃ next,
          step (Http3Ingress.startWithShutdown maxConnections) loop (.poll found) = some next)) ∧
    (∀ loop, exec (step (Http3Ingress.startWithShutdown maxConnections))
        (start (Http3Ingress.startWithShutdown maxConnections) (some (Watch.new false, 0)))
        actions = some loop →
      (∀ action ∈ actions, action.stops = false) → loop.isOver = false) := by
  constructor
  · intro loop run
    have unserved : Unserved loop :=
      exec_invariant (fun unserved stepEq => unserved.step stepEq)
        (http3Ingress_start_unserved maxConnections) run
    refine ⟨unserved.running, unserved.parted, fun found next stepEq => ?_, fun going found => ?_⟩
    · simp only [step, unserved.isShutDown, if_true] at stepEq
      split at stepEq <;> cases stepEq
      rfl
    · rcases unserved.phase with accepting | ended
      · simp only [step, accepting, unserved.isShutDown, if_true]
        exact ⟨_, rfl⟩
      · rw [isOver, ended] at going
        cases going
  · intro loop run goesOn
    have meets : Meets (step (Http3Ingress.startWithShutdown maxConnections))
        (fun _ action => action.stops = false)
        (start (Http3Ingress.startWithShutdown maxConnections) (some (Watch.new false, 0)))
        actions :=
      Meets.of_mem goesOn _
    have serving : Serving loop :=
      exec_invariant_of_meets (fun serving goesOn stepEq => serving.step rfl goesOn stepEq)
        (start_serving _) meets run
    rw [isOver, serving.phase]

end FerroTunnel.Accept
