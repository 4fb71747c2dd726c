import FerroTunnel.Accept.Loop

/-!
# Every connection is served, refused or kept waiting

For every accept loop and every order of arrivals, failures, handshakes, ends of
connections and shutdown signals: the permits that are left and the connections that
are served make up the limit, a connection that arrived is in exactly one place, and
one is refused only while as many as allowed are served.
-/

namespace FerroTunnel.Accept

open FerroTunnel.Channel
open FerroTunnel.Transition
open FerroTunnel.Tunnel

variable {config : LoopConfig} {loop next : AcceptLoop}

/-- The connection that the loop itself holds. -/
def LoopPhase.inHand : LoopPhase → List Peer
  | .shakingHands peer => [peer]
  | _ => []

namespace AcceptLoop

/-- All connections that arrived, by where they are: waiting to be accepted, in the hands
of the loop, served, or parted with. -/
def everywhere (loop : AcceptLoop) (inHand : List Peer) : List Peer :=
  loop.backlog ++ inHand ++ loop.running ++ loop.parted.map Prod.fst

/-- The account of a loop that has the given connections in its hands. -/
structure Holds (config : LoopConfig) (loop : AcceptLoop) (inHand : List Peer) : Prop where
  permits : loop.permits + loop.running.length = config.maxConnections
  placed : (loop.everywhere inHand).Perm (List.range loop.arrivals)
  refused : ∀ peer serving, (peer, .refused serving) ∈ loop.parted →
    serving = config.maxConnections

/-- The account of a loop. -/
def Accounted (config : LoopConfig) (loop : AcceptLoop) : Prop :=
  loop.Holds config loop.phase.inHand

theorem accounted_start (shutdown : Option (Watch Bool × Nat)) :
    (start config shutdown).Accounted config where
  permits := rfl
  placed := List.Perm.refl []
  refused := fun _ _ member => by cases member

namespace Holds

variable {inHand : List Peer} {peer : Peer}

/-- What the loop waits for is no part of the account. -/
theorem of_eq (holds : loop.Holds config inHand) (permits : next.permits = loop.permits)
    (arrivals : next.arrivals = loop.arrivals) (backlog : next.backlog = loop.backlog)
    (running : next.running = loop.running) (parted : next.parted = loop.parted) :
    next.Holds config inHand := by
  constructor
  · rw [permits, running]
    exact holds.permits
  · rw [everywhere, arrivals, backlog, running, parted]
    exact holds.placed
  · rw [parted]
    exact holds.refused

/-- A connection is parted with. -/
theorem part (holds : loop.Holds config [peer]) (parting : Parting)
    (reason : ∀ serving, parting = .refused serving → serving = config.maxConnections) :
    Holds config { loop with parted := loop.parted ++ [(peer, parting)] } [] := by
  constructor
  · exact holds.permits
  · apply List.Perm.trans _ holds.placed
    rw [List.perm_iff_count]
    intro other
    simp only [everywhere, List.map_append, List.count_append, List.map_cons, List.map_nil,
      List.count_nil]
    omega
  · intro other serving member
    rcases List.mem_append.mp member with before | last
    · exact holds.refused other serving before
    · cases List.mem_singleton.mp last
      exact reason serving rfl

/-- A connection that was accepted is served, or parted with. -/
theorem grant (holds : loop.Holds config [peer]) (found : Bool) :
    (loop.grant config peer found).Accounted config := by
  unfold AcceptLoop.grant
  split
  · rename_i none
    have parted := holds.part (.refused loop.running.length) fun serving same => by
      cases same
      rw [← holds.permits, none, Nat.zero_add]
    exact parted.of_eq rfl rfl rfl rfl rfl
  split
  · have parted := holds.part .unroutable fun serving same => by cases same
    exact parted.of_eq rfl rfl rfl rfl rfl
  · rename_i some _
    constructor
    · have total := holds.permits
      simp only [List.length_append, List.length_singleton]
      omega
    · apply List.Perm.trans _ holds.placed
      rw [List.perm_iff_count]
      intro other
      simp only [everywhere, LoopPhase.inHand, List.count_append, List.count_nil]
      omega
    · exact holds.refused

theorem failed {failure : AcceptFailure} (holds : loop.Holds config []) (draw : Draw) :
    (loop.failed config failure draw).Accounted config := by
  unfold AcceptLoop.failed
  split
  · exact holds.of_eq rfl rfl rfl rfl rfl
  · split
    · exact holds.of_eq rfl rfl rfl rfl rfl
    · exact holds.of_eq rfl rfl rfl rfl rfl

end Holds

/-- The loop takes a connection from its listener. -/
theorem Holds.take {peer : Peer} {rest : List Peer} (holds : loop.Holds config [])
    (waiting : loop.backlog = peer :: rest) (permits : next.permits = loop.permits)
    (arrivals : next.arrivals = loop.arrivals) (backlog : next.backlog = rest)
    (running : next.running = loop.running) (parted : next.parted = loop.parted) :
    next.Holds config [peer] := by
  constructor
  · rw [permits, running]
    exact holds.permits
  · rw [arrivals]
    apply List.Perm.trans _ holds.placed
    rw [List.perm_iff_count]
    intro other
    simp only [everywhere, backlog, running, parted, waiting, List.count_append, List.count_cons,
      List.count_nil]
    omega
  · rw [parted]
    exact holds.refused

/-- A connection that was served has ended. -/
theorem Accounted.finish {peer : Peer} (accounted : loop.Accounted config)
    (served : peer ∈ loop.running) :
    Accounted config { loop with
      running := loop.running.erase peer
      permits := loop.permits + 1
      parted := loop.parted ++ [(peer, .finished)] } := by
  have positive := List.length_pos_of_mem served
  constructor
  · have total := accounted.permits
    simp only [List.length_erase_of_mem served]
    omega
  · apply List.Perm.trans _ accounted.placed
    rw [List.perm_iff_count]
    intro other
    have moved := (List.perm_cons_erase served).count_eq other
    simp only [everywhere, List.map_append, List.map_cons, List.map_nil, List.count_append,
      List.count_cons, List.count_nil] at moved ⊢
    omega
  · intro other serving known
    rcases List.mem_append.mp known with before | last
    · exact accounted.refused other serving before
    · cases List.mem_singleton.mp last

/-- Every step of a loop keeps its account. -/
theorem Accounted.step {action : LoopAction} (accounted : loop.Accounted config)
    (stepEq : AcceptLoop.step config loop action = some next) : next.Accounted config := by
  have inHand {phase : LoopPhase} (phaseEq : loop.phase = phase) :
      loop.Holds config phase.inHand := by
    rw [← phaseEq]
    exact accounted
  cases steps_of_step stepEq with
  | connect =>
      constructor
      · exact accounted.permits
      · rw [List.range_succ]
        apply List.Perm.trans _ (accounted.placed.append_right [loop.arrivals])
        rw [List.perm_iff_count]
        intro other
        simp only [everywhere, List.count_append]
        omega
      · exact accounted.refused
  | shutDown accepting => exact (inHand accepting).of_eq rfl rfl rfl rfl rfl
  | take accepting _ backlog => exact (inHand accepting).take backlog rfl rfl rfl rfl rfl
  | grant accepting _ backlog =>
      apply Holds.grant
      exact (inHand accepting).take backlog rfl rfl rfl rfl rfl
  | fail accepting => exact (inHand accepting).failed _
  | shaken shaking =>
      apply Holds.grant
      exact (inHand shaking).of_eq rfl rfl rfl rfl rfl
  | unshaken shaking =>
      apply Holds.failed
      exact (inHand shaking).part .handshakeFailed fun serving same => by cases same
  | wake sleeping => exact (inHand sleeping).of_eq rfl rfl rfl rfl rfl
  | finish served => exact accounted.finish served
  | sendShutdown | dropShutdown => exact Holds.of_eq accounted rfl rfl rfl rfl rfl

end AcceptLoop

open AcceptLoop in
/-- In every run of an accept loop, whatever its configuration: permits and connections
served make up the limit, every connection that arrived is in exactly one place, and a
connection is refused only while as many as allowed are served. -/
theorem connections_accounted (config : LoopConfig) (shutdown : Option (Watch Bool × Nat))
    {actions : List LoopAction} {loop : AcceptLoop}
    (run : exec (AcceptLoop.step config) (.start config shutdown) actions = some loop) :
    loop.Accounted config :=
  exec_invariant Accounted.step (accounted_start shutdown) run

/-- Five connections at a TCP ingress that serves two at a time: one finds no tunnel, one is
refused, and the last is served after the first has ended. -/
def busyIngress : List LoopAction :=
  [.connect, .poll true, .connect, .poll false, .connect, .poll true, .connect, .poll true,
    .finish 0, .connect, .poll true]

theorem connections_accounted_busyIngress :
    ∃ loop, exec (AcceptLoop.step (TcpIngress.start 2)) (.start (TcpIngress.start 2) none)
        busyIngress = some loop ∧
      loop.running = [2, 4] ∧ loop.parted = [(1, .unroutable), (3, .refused 2), (0, .finished)] ∧
      loop.Accounted (TcpIngress.start 2) := by
  have run : exec (AcceptLoop.step (TcpIngress.start 2)) (.start (TcpIngress.start 2) none)
      busyIngress = some _ := rfl
  exact ⟨_, run, rfl, rfl, connections_accounted (TcpIngress.start 2) none run⟩

end FerroTunnel.Accept
