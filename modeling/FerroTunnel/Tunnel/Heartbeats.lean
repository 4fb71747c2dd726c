import FerroTunnel.Tunnel.StaleCleanup

/-!
# Heartbeats against cleanups

A client sends a heartbeat every thirty seconds, from `run_session_loop` over TCP
and from `quic_heartbeat_loop` over QUIC.  The server notes the time whenever it
handles a frame of the session, and a cleanup removes the sessions of which it has
noted nothing for ninety seconds.

A heartbeat may be late: the client's loop may be busy, the connection slow, or the
server throttling the data in front of it.  As long as every heartbeat is handled
within sixty seconds of the time it was due, the session stays in the store, however
the cleanups and the calls of other sessions are interleaved with it.

Times are in milliseconds.
-/

namespace FerroTunnel.Tunnel

open FerroTunnel.Transition
open FerroTunnel.Wire

/-- The interval of the client's heartbeats. -/
def HEARTBEAT_INTERVAL : Nat := 30000

/-- The age at which the server takes a session for stale. -/
def SESSION_TIMEOUT : Nat := 90000

variable {μ : Type}

/-- A store with its calls, and the heartbeats of one session. -/
structure Heartbeats (μ : Type) where
  clock : Nat
  pool : StorePool μ
  /-- When the next heartbeat is due. -/
  nextTick : Nat
  /-- When the heartbeats were due that are on their way, oldest first. -/
  inFlight : List Nat
  /-- The server did not find the session any more. -/
  lost : Bool

/-- Time passes, a heartbeat is sent, the server handles the oldest heartbeat or another frame
of the session, or something happens to the store. -/
inductive HeartbeatAction (μ : Type)
  | wait (duration : Nat)
  | beat
  | handle
  | handleOther
  | store (action : StoreAction μ)

namespace Heartbeats

/-- A session that has just been registered, whose client sends its first heartbeat at
`first`. -/
def registered (store : SessionStore μ) (session : Session μ) (first : Nat) : Heartbeats μ where
  clock := session.lastHeartbeat
  pool := ⟨store.insertSession session, []⟩
  nextTick := session.lastHeartbeat + first
  inFlight := []
  lost := false

/-- Update the heartbeat of the session to the time of the clock. -/
def updateHeartbeat (id : Uuid) (session : Session μ) (state : Heartbeats μ) : Heartbeats μ :=
  { state with
    pool := { state.pool with
      shared := { state.pool.shared with
        sessions := state.pool.shared.sessions.insert id
          (session.updateHeartbeat state.clock) } } }

/-- The server looks the session up and notes its activity. -/
def touch (id : Uuid) (state : Heartbeats μ) : Heartbeats μ :=
  match state.pool.shared.sessions.lookup id with
  | some session => state.updateHeartbeat id session
  | none => { state with lost := true }

/-- One event of the heartbeats. -/
def step (id : Uuid) : Step (Heartbeats μ) (HeartbeatAction μ)
  | state, .wait duration => some { state with clock := state.clock + duration }
  | state, .beat =>
      if state.nextTick ≤ state.clock then
        some { state with
          inFlight := state.inFlight ++ [state.nextTick]
          nextTick := state.nextTick + HEARTBEAT_INTERVAL }
      else none
  | state, .handle =>
      match state.inFlight with
      | [] => none
      | _ :: rest => some (touch id { state with inFlight := rest })
  | state, .handleOther => some (state.touch id)
  | state, .store action => (state.pool.step action).map fun pool => { state with pool := pool }

/-! ## Assumptions -/

/-- The client sends its heartbeats when they are due, and each is handled within `delay`. -/
def Timely (delay : Nat) (state : Heartbeats μ) : HeartbeatAction μ → Prop
  | .wait duration =>
      state.clock + duration ≤ state.nextTick ∧
        ∀ due ∈ state.inFlight, state.clock + duration ≤ due + delay
  | _ => True

/-- Calls on the store are made for other sessions, and cleanups read the clock.  The server
never calls `add_or_replace`. -/
def Foreign (id : Uuid) (state : Heartbeats μ) : HeartbeatAction μ → Prop
  | .store (.start (.add session)) => session.id ≠ id
  | .store (.start (.addOrReplace _)) => False
  | .store (.start (.updateHeartbeat other _)) => other ≠ id
  | .store (.start (.remove other)) => other ≠ id
  | .store (.start (.cleanupStaleSessions now timeout)) =>
      now = state.clock ∧ timeout = SESSION_TIMEOUT
  | _ => True

end Heartbeats

/-! ## Calls that leave the session alone -/

/-- The call leaves the session alone, if it is not stale at the given time. -/
def Call.Harmless (id : Uuid) (clock : Nat) : Call μ → Prop
  | .add session | .addInsert session => session.id ≠ id
  | .addOrReplace _ | .addOrReplaceRemoveOld _ _ | .addOrReplaceIndex _
  | .addOrReplaceInsert _ => False
  | .updateHeartbeat other _ | .remove other => other ≠ id
  | .cleanupScan now timeout toRemove =>
      now ≤ clock ∧ timeout = SESSION_TIMEOUT ∧ id ∉ toRemove
  | .cleanupRemove _ toRemove | .cleanupRemoveIndex _ _ toRemove => id ∉ toRemove
  | _ => True

namespace Call

variable {id : Uuid} {clock : Nat} {call call' : Call μ} {store store' : SessionStore μ}

theorem Harmless.later {later : Nat} (harmless : call.Harmless id clock) (le : clock ≤ later) :
    call.Harmless id later := by
  cases call with
  | cleanupScan now timeout toRemove =>
      exact ⟨Nat.le_trans harmless.1 le, harmless.2⟩
  | _ => exact harmless

theorem Harmless.unwritten (harmless : call.Harmless id clock) : id ∉ call.writes store := by
  have differs {other : Uuid} {found : Option (Session μ)} (ne : other ≠ id) :
      id ∉ found.map fun _ => other := by
    simp [ne]
  cases call with
  | addInsert session => exact fun written => harmless (Option.some.inj written)
  | addOrReplaceRemoveOld | addOrReplaceInsert => exact harmless.elim
  | updateHeartbeat other now | remove other => exact differs harmless
  | cleanupRemove count toRemove =>
      cases toRemove with
      | nil => simp [writes]
      | cons other rest => exact differs fun same => harmless (same ▸ List.mem_cons_self)
  | _ => simp [writes]

/-- A scan that meets the session does not list it. -/
theorem Harmless.scan {now timeout : Nat} {toRemove : List Uuid} {visited : Option Uuid}
    {session : Session μ} (harmless : (cleanupScan now timeout toRemove : Call μ).Harmless id clock)
    (found : store.sessions.lookup id = some session)
    (recent : clock ≤ session.lastHeartbeat + SESSION_TIMEOUT)
    (nextEq : (cleanupScan now timeout toRemove).next store visited = some (store', call')) :
    call'.Harmless id clock := by
  obtain ⟨began, rfl, unlisted⟩ := harmless
  cases visited with
  | none =>
      cases nextEq
      exact unlisted
  | some other =>
      simp only [next] at nextEq
      cases met : store.sessions.lookup other with
      | none =>
          rw [met] at nextEq
          cases nextEq
      | some seen =>
          simp only [met] at nextEq
          split at nextEq
          · rename_i stale
            cases nextEq
            refine ⟨began, rfl, ?_⟩
            simp only [List.mem_append, List.mem_singleton, not_or]
            refine ⟨unlisted, ?_⟩
            rintro rfl
            rw [found] at met
            cases met
            omega
          · cases nextEq
            exact ⟨began, rfl, unlisted⟩

/-- A call that leaves the session alone goes on to leave it alone, while it is not stale. -/
theorem Harmless.next {visited : Option Uuid} {session : Session μ}
    (harmless : call.Harmless id clock) (found : store.sessions.lookup id = some session)
    (recent : clock ≤ session.lastHeartbeat + SESSION_TIMEOUT)
    (nextEq : call.next store visited = some (store', call')) : call'.Harmless id clock := by
  cases call with
  | cleanupScan now timeout toRemove => exact harmless.scan found recent nextEq
  | cleanupRemove count toRemove =>
      cases toRemove with
      | nil =>
          cases nextEq
          trivial
      | cons other rest =>
          have unlisted : id ∉ rest := fun member => harmless (List.mem_cons_of_mem _ member)
          simp only [Call.next] at nextEq
          split at nextEq <;>
          · cases nextEq
            exact unlisted
  | cleanupRemoveIndex session count toRemove =>
      cases nextEq
      exact harmless
  | add session =>
      simp only [Call.next] at nextEq
      split at nextEq
      · cases nextEq
        trivial
      · cases nextEq
        exact harmless
  | addOrReplace | addOrReplaceRemoveOld | addOrReplaceIndex | addOrReplaceInsert =>
      exact harmless.elim
  | _ =>
      simp only [Call.next] at nextEq
      repeat' split at nextEq
      all_goals cases nextEq
      all_goals trivial

end Call

theorem Request.harmless_start {id : Uuid} {state : Heartbeats μ} {request : Request μ}
    (foreign : state.Foreign id (.store (.start request))) :
    request.start.Harmless id state.clock := by
  cases request with
  | add session | addOrReplace session | updateHeartbeat other now | remove other => exact foreign
  | getByTunnelId tunnelId => trivial
  | cleanupStaleSessions now timeout =>
      exact ⟨Nat.le_of_eq foreign.1, foreign.2, List.not_mem_nil⟩

/-! ## Runs -/

namespace Heartbeats

variable {id : Uuid} {delay : Nat} {state next : Heartbeats μ}

/-- The heartbeats that are on their way or will be sent next, by when they are due. -/
def dues (state : Heartbeats μ) : List Nat :=
  state.inFlight ++ [state.nextTick]

/-- The session is in the store, no call is about to remove it, and its heartbeats are due at
equal intervals. -/
structure Present (id : Uuid) (session : Session μ) (state : Heartbeats μ) : Prop where
  found : state.pool.shared.sessions.lookup id = some session
  harmless : ∀ call ∈ state.pool.calls, call.Harmless id state.clock
  unlost : state.lost = false
  past : session.lastHeartbeat ≤ state.clock
  sent : ∀ due ∈ state.inFlight, due ≤ state.clock
  spaced : state.dues.IsChain fun first second => second = first + HEARTBEAT_INTERVAL

/-- The session is not stale, and the heartbeat to be handled next is due soon enough after its
last activity. -/
structure Attended (id : Uuid) (session : Session μ) (state : Heartbeats μ) : Prop
    extends state.Present id session where
  recent : state.clock ≤ session.lastHeartbeat + SESSION_TIMEOUT
  dueSoon : ∀ due ∈ state.dues.head?, due ≤ session.lastHeartbeat + HEARTBEAT_INTERVAL

variable {session : Session μ}

theorem attended_registered {store : SessionStore μ} {first : Nat}
    (soon : first ≤ HEARTBEAT_INTERVAL) :
    (registered store session first).Attended session.id session where
  found := Finmap.lookup_insert _
  harmless call member := by cases member
  unlost := rfl
  past := Nat.le_refl _
  recent := Nat.le_add_right _ _
  sent due member := by cases member
  spaced := List.isChain_singleton _
  dueSoon due head := by
    cases head
    exact Nat.add_le_add_left soon _

/-- The session goes on with its last activity at the time of the clock. -/
theorem Present.touch (present : state.Present id session)
    (dueSoon : ∀ due ∈ state.dues.head?, due ≤ state.clock + HEARTBEAT_INTERVAL) :
    (state.touch id).Attended id (session.updateHeartbeat state.clock) := by
  have touched : state.touch id = state.updateHeartbeat id session := by
    rw [Heartbeats.touch, present.found]
  rw [touched]
  constructor
  · constructor
    · exact Finmap.lookup_insert _
    · exact present.harmless
    · exact present.unlost
    · exact Nat.le_refl _
    · exact present.sent
    · exact present.spaced
  · exact Nat.le_add_right _ _
  · exact dueSoon

variable (attended : state.Attended id session)

include attended

theorem Attended.wait {duration : Nat} (fits : HEARTBEAT_INTERVAL + delay ≤ SESSION_TIMEOUT)
    (timely : state.Timely delay (.wait duration)) :
    Attended id session { state with clock := state.clock + duration } where
  found := attended.found
  harmless call member := (attended.harmless call member).later (Nat.le_add_right _ _)
  unlost := attended.unlost
  past := Nat.le_trans attended.past (Nat.le_add_right _ _)
  recent := by
    obtain ⟨beforeTick, handled⟩ := timely
    -- the heartbeat to be handled next is due soon and late by no more than the delay
    cases flying : state.inFlight with
    | nil =>
        have soon := attended.dueSoon state.nextTick (by simp [dues, flying])
        simp only
        omega
    | cons due rest =>
        have soon := attended.dueSoon due (by simp [dues, flying])
        have late := handled due (by simp [flying])
        simp only
        omega
  sent due member := Nat.le_trans (attended.sent due member) (Nat.le_add_right _ _)
  spaced := attended.spaced
  dueSoon := attended.dueSoon

theorem Attended.beat (due : state.nextTick ≤ state.clock) :
    Attended id session { state with
      inFlight := state.inFlight ++ [state.nextTick]
      nextTick := state.nextTick + HEARTBEAT_INTERVAL } where
  found := attended.found
  harmless := attended.harmless
  unlost := attended.unlost
  past := attended.past
  recent := attended.recent
  sent due' member := by
    rcases List.mem_append.mp member with old | new
    · exact attended.sent due' old
    · rw [List.mem_singleton.mp new]
      exact due
  spaced := by
    apply List.IsChain.append attended.spaced (List.isChain_singleton _)
    simp [dues]
  dueSoon due' head := by
    apply attended.dueSoon due'
    cases flying : state.inFlight <;> simpa [dues, flying] using head

/-- The heartbeat after the one that is handled is due an interval after it. -/
theorem Attended.handle {due : Nat} {rest : List Nat} (flying : state.inFlight = due :: rest) :
    (Heartbeats.touch id { state with inFlight := rest }).Attended id
      (session.updateHeartbeat state.clock) := by
  have spaced := attended.spaced
  have arrived : due ≤ state.clock := attended.sent due (by simp [flying])
  rw [dues, flying, List.cons_append] at spaced
  have remaining : Present id session { state with inFlight := rest } := by
    constructor
    · exact attended.found
    · exact attended.harmless
    · exact attended.unlost
    · exact attended.past
    · exact fun later member => attended.sent later (by simp [flying, member])
    · exact spaced.tail
  apply remaining.touch
  intro later head
  have follows : later = due + HEARTBEAT_INTERVAL :=
    (List.isChain_cons.mp spaced).1 later head
  rw [follows]
  exact Nat.add_le_add_right arrived _

theorem Attended.store {action : StoreAction μ} {pool : StorePool μ}
    (foreign : state.Foreign id (.store action)) (stepEq : state.pool.step action = some pool) :
    Attended id session { state with pool := pool } := by
  cases action with
  | start request =>
      cases stepEq
      exact { attended with
        harmless := by
          intro call member
          rcases List.mem_append.mp member with old | new
          · exact attended.harmless call old
          · rw [List.mem_singleton.mp new]
            exact Request.harmless_start foreign }
  | advance k visited =>
      obtain ⟨call, shared, call', callAt, nextEq, rfl⟩ := Pool.step_advance stepEq
      have harmless := attended.harmless call (List.mem_of_getElem? callAt)
      exact { attended with
        found := by
          rw [← attended.found]
          exact Call.lookup_of_next nextEq harmless.unwritten
        harmless := by
          intro other member
          rcases List.mem_or_eq_of_mem_set member with old | rfl
          · exact attended.harmless other old
          · exact harmless.next attended.found attended.recent nextEq }

omit attended

theorem Attended.step {action : HeartbeatAction μ}
    (fits : HEARTBEAT_INTERVAL + delay ≤ SESSION_TIMEOUT) (attended : state.Attended id session)
    (timely : state.Timely delay action) (foreign : state.Foreign id action)
    (stepEq : state.step id action = some next) : ∃ session', next.Attended id session' := by
  cases action with
  | wait duration =>
      cases stepEq
      exact ⟨session, attended.wait fits timely⟩
  | beat =>
      simp only [Heartbeats.step] at stepEq
      split at stepEq
      · cases stepEq
        exact ⟨session, attended.beat ‹_›⟩
      · cases stepEq
  | handle =>
      simp only [Heartbeats.step] at stepEq
      split at stepEq
      · cases stepEq
      · rename_i flying
        cases stepEq
        exact ⟨_, attended.handle flying⟩
  | handleOther =>
      cases stepEq
      refine ⟨_, attended.toPresent.touch ?_⟩
      intro due head
      exact Nat.le_trans (attended.dueSoon due head) (Nat.add_le_add_right attended.past _)
  | store action =>
      obtain ⟨pool, stepped, rfl⟩ := Option.map_eq_some_iff.mp stepEq
      exact ⟨session, attended.store foreign stepped⟩

/-- The session is in the store and not stale, the server has always found it, and no cleanup
has listed it. -/
def Keeps (id : Uuid) (state : Heartbeats μ) : Prop :=
  (∃ session, state.pool.shared.sessions.lookup id = some session ∧
    state.clock ≤ session.lastHeartbeat + SESSION_TIMEOUT) ∧
  state.lost = false ∧
  ∀ count toRemove, .cleanupRemove count toRemove ∈ state.pool.calls → id ∉ toRemove

theorem Attended.keeps (attended : state.Attended id session) : state.Keeps id :=
  ⟨⟨session, attended.found, attended.recent⟩, attended.unlost,
    fun _ _ running => attended.harmless _ running⟩

theorem attended_run {actions : List (HeartbeatAction μ)}
    (fits : HEARTBEAT_INTERVAL + delay ≤ SESSION_TIMEOUT) (attended : state.Attended id session)
    (timely : Meets (step id) (Timely delay) state actions)
    (foreign : Meets (step id) (Foreign id) state actions)
    (run : exec (step id) state actions = some next) : ∃ session', next.Attended id session' := by
  have preserved {before after : Heartbeats μ} {action : HeartbeatAction μ}
      (held : ∃ session', before.Attended id session')
      (guarded : before.Timely delay action ∧ before.Foreign id action)
      (stepEq : step id before action = some after) : ∃ session', after.Attended id session' := by
    obtain ⟨session', attended⟩ := held
    exact attended.step fits guarded.1 guarded.2 stepEq
  exact exec_invariant_of_meets preserved ⟨session, attended⟩ (timely.and foreign) run

/-! ## Heartbeats that are too late -/

/-- Three heartbeats are sent and none is handled, and a cleanup starts just after the session
has become stale. -/
def expiring (session : Session μ) : List (HeartbeatAction μ) :=
  [.wait HEARTBEAT_INTERVAL, .beat, .wait HEARTBEAT_INTERVAL, .beat, .wait HEARTBEAT_INTERVAL,
    .beat, .wait 1,
    .store (.start (.cleanupStaleSessions (session.lastHeartbeat + SESSION_TIMEOUT + 1)
      SESSION_TIMEOUT)),
    .store (.advance 0 (some session.id)), .store (.advance 0 none), .store (.advance 0 none)]

/-- The cleanup removes the session. -/
theorem exec_expiring (store : SessionStore μ) (session : Session μ) :
    ∃ state, exec (step session.id) (registered store session HEARTBEAT_INTERVAL)
        (expiring session) = some state ∧
      state.pool.shared.sessions.lookup session.id = none := by
  have stale : SESSION_TIMEOUT <
      session.lastHeartbeat + SESSION_TIMEOUT + 1 - session.lastHeartbeat := by
    omega
  simp [expiring, exec, step, registered, StorePool.step, Pool.step, Request.start, Call.next,
    SessionStore.insertSession, SessionStore.removeSession, stale]

theorem expiring_timely {store : SessionStore μ}
    (late : SESSION_TIMEOUT < HEARTBEAT_INTERVAL + delay) :
    Meets (step session.id) (Timely delay) (registered store session HEARTBEAT_INTERVAL)
      (expiring session) := by
  simp [expiring, Meets, step, registered, Timely, HEARTBEAT_INTERVAL, SESSION_TIMEOUT] at late ⊢
  refine ⟨by omega, by omega, ?_⟩
  rintro due ((rfl | rfl) | rfl) <;> omega

theorem expiring_foreign {store : SessionStore μ} :
    Meets (step session.id) (Foreign session.id) (registered store session HEARTBEAT_INTERVAL)
      (expiring session) := by
  simp [expiring, Meets, step, registered, Foreign, HEARTBEAT_INTERVAL, SESSION_TIMEOUT]

end Heartbeats

open Heartbeats in
/-- Every session whose heartbeats are each handled within the delay is kept, whatever else
happens to the store, exactly when the delay and the interval together are no longer than the
timeout: sixty seconds of delay are the most that a session can take. -/
theorem sessions_kept_iff (delay : Nat) :
    (∀ (store : SessionStore μ) (session : Session μ) (first : Nat)
      (actions : List (HeartbeatAction μ)) (state : Heartbeats μ),
      first ≤ HEARTBEAT_INTERVAL →
      exec (step session.id) (registered store session first) actions = some state →
      Meets (step session.id) (Timely delay) (registered store session first) actions →
      Meets (step session.id) (Foreign session.id) (registered store session first) actions →
      state.Keeps session.id) ↔
    HEARTBEAT_INTERVAL + delay ≤ SESSION_TIMEOUT := by
  constructor
  · intro kept
    by_contra late
    let session : Session μ := ⟨0, "", 0, [], none⟩
    obtain ⟨state, run, removed⟩ := exec_expiring ⟨∅, ∅⟩ session
    have keeps := kept ⟨∅, ∅⟩ session HEARTBEAT_INTERVAL (expiring session) state
      (Nat.le_refl _) run (expiring_timely (Nat.lt_of_not_le late)) expiring_foreign
    obtain ⟨⟨found, lookupEq, _⟩, _⟩ := keeps
    rw [removed] at lookupEq
    cases lookupEq
  · intro fits store session first actions state soon run timely foreign
    obtain ⟨session', attended⟩ :=
      attended_run fits (attended_registered soon) timely foreign run
    exact attended.keeps

end FerroTunnel.Tunnel
