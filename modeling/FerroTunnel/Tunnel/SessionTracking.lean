import FerroTunnel.Tunnel.Server

/-!
# What the store knows of the task of a connection

The task of a connection moves with each event it observes, and between its own
moves the store goes on under the calls of the others.  `Tracks` says what the
store holds of the task's session in each phase; it is kept by every step of the
store and by every move of the task.
-/

namespace FerroTunnel.Tunnel

open FerroTunnel.Transition
open FerroTunnel.Wire

variable {μ : Type}

namespace Phase

/-- The session of a task that has registered it and still serves it. -/
def established? : Phase μ → Option (Session μ)
  | .acknowledging session | .receiving session | .touching session _ _ | .replying session
  | .processing session _ => some session
  | _ => none

/-- The session that a task leaves in the store when it returns at this event. -/
def abandons (transport : Transport) : Phase μ → Event μ → Option (Session μ)
  | .acknowledging session, .sent (.error _) => some session
  | .receiving session, .received (some (.error _)) _ =>
      if transport = .tcp then some session else none
  | .replying session, .sent (.error _) => if transport = .tcp then some session else none
  | _, _ => none

theorem on_of_abandons {transport : Transport} (pool : StorePool μ) {phase : Phase μ}
    {event : Event μ} {session : Session μ}
    (abandoned : phase.abandons transport event = some session) :
    ∃ result, phase.on transport pool event = some (pool, .returned (some session) result) := by
  cases phase with
  | acknowledging own =>
      cases event with
      | sent result =>
          cases result with
          | ok => cases abandoned
          | error error =>
              cases abandoned
              exact ⟨_, rfl⟩
      | _ => cases abandoned
  | receiving own =>
      cases event with
      | received item now =>
          rcases item with _ | error | frame
          · cases abandoned
          · cases transport with
            | tcp =>
                cases abandoned
                exact ⟨_, rfl⟩
            | quic => cases abandoned
          · cases abandoned
      | _ => cases abandoned
  | replying own =>
      cases event with
      | sent result =>
          cases result with
          | ok => cases abandoned
          | error error =>
              cases transport with
              | tcp =>
                  cases abandoned
                  exact ⟨_, rfl⟩
              | quic => cases abandoned
      | _ => cases abandoned
  | _ => cases event <;> cases abandoned

/-- What a task can do at one event. -/
inductive Goes (transport : Transport) (pool : StorePool μ) (event : Event μ) :
    Phase μ → StorePool μ → Phase μ → Prop
  | ends {phase result} (unregistered : phase.session? = none)
      (running : phase.isReturned = false) :
      Goes transport pool event phase pool (.returned none result)
  | rejects {status} : Goes transport pool event .handshake pool (.rejecting status)
  | authenticates {session} (eventEq : event = .handshake (.authenticated session)) :
      Goes transport pool event .handshake (pool.begin (.add session))
        (.adding session pool.calls.length)
  | registers {session added call}
      (returned : pool.calls[call]? = some (.addReturned added (.ok ()))) :
      Goes transport pool event (.adding session call) pool (.acknowledging session)
  | denied {session added call error}
      (returned : pool.calls[call]? = some (.addReturned added (.error error))) :
      Goes transport pool event (.adding session call) pool (.denying session)
  | refused {session result} :
      Goes transport pool event (.denying session) pool (.returned (some session) result)
  | abandons {phase session result} (established : phase.established? = some session)
      (abandoned : phase.abandons transport event = some session) :
      Goes transport pool event phase pool (.returned (some session) result)
  | serves {phase phase' session} (established : phase.established? = some session)
      (established' : phase'.established? = some session)
      (untouched : ∀ call frame, phase' ≠ .touching session call frame) :
      Goes transport pool event phase pool phase'
  | touches {session frame now} :
      Goes transport pool event (.receiving session) (pool.begin (.updateHeartbeat session.id now))
        (.touching session pool.calls.length frame)
  | throttles {session frame now} :
      Goes transport pool event (.processing session frame)
        (pool.begin (.updateHeartbeat session.id now)) (.processing session frame)
  | misses {session call frame result}
      (returned : pool.calls[call]? = some (.updateHeartbeatReturned false)) :
      Goes transport pool event (.touching session call frame) pool
        (.returned (some session) result)
  | removes {phase session result} (established : phase.established? = some session) :
      Goes transport pool event phase (pool.begin (.remove session.id))
        (.removing session pool.calls.length result)
  | removed {session call found result}
      (returned : pool.calls[call]? = some (.removeReturned found)) :
      Goes transport pool event (.removing session call result) pool
        (.returned (some session) result)

section Goes

variable {transport : Transport} {pool pool' : StorePool μ} {phase phase' : Phase μ}
  {event : Event μ} {session : Session μ}

/-- An error ends the task, which removes the session over QUIC only. -/
theorem Goes.of_fail {error : TunnelError} (established : phase.established? = some session)
    (abandoned : transport = .tcp → phase.abandons transport event = some session)
    (failEq : some (fail transport pool session error) = some (pool', phase')) :
    Goes transport pool event phase pool' phase' := by
  cases transport with
  | tcp =>
      cases failEq
      exact .abandons established (abandoned rfl)
  | quic =>
      cases failEq
      exact .removes established

theorem outcome_goes {outcome : Handshake μ}
    (onEq : Phase.handshake.on transport pool (.handshake outcome) = some (pool', phase')) :
    Goes transport pool (.handshake outcome) .handshake pool' phase' := by
  cases outcome with
  | failed error | unexpected =>
      cases onEq
      exact .ends rfl rfl
  | rejected status =>
      cases onEq
      exact .rejects
  | authenticated session =>
      cases onEq
      exact .authenticates rfl

theorem received_goes {item : Option (Except TunnelError Frame)} {now : Nat}
    (onEq : (Phase.receiving session).on transport pool (.received item now) =
      some (pool', phase')) :
    Goes transport pool (.received item now) (.receiving session) pool' phase' := by
  cases item with
  | none => cases transport <;> cases onEq <;> exact .removes rfl
  | some item =>
      cases item with
      | error error => exact .of_fail rfl (fun tcp => by rw [tcp]; rfl) onEq
      | ok frame =>
          cases onEq
          exact .touches

theorem touched_goes {call : Nat} {frame : Frame}
    (onEq : (Phase.touching session call frame).on transport pool .touched =
      some (pool', phase')) :
    Goes transport pool .touched (.touching session call frame) pool' phase' := by
  simp only [on] at onEq
  split at onEq
  · rename_i returned
    cases transport with
    | tcp =>
        cases onEq
        exact .misses returned
    | quic =>
        cases onEq
        exact .removes rfl
  · split at onEq
    · cases onEq
      exact .serves rfl rfl (by simp)
    · cases transport <;> cases onEq <;> exact .serves rfl rfl (by simp)
  · cases onEq

/-- `add` has returned, or is waited for. -/
theorem adding_goes {call : Nat}
    (onEq : (Phase.adding session call).on transport pool event = some (pool', phase')) :
    Goes transport pool event (.adding session call) pool' phase' := by
  cases event with
  | added =>
      simp only [on] at onEq
      split at onEq
      · rename_i returned
        cases onEq
        exact .registers returned
      · rename_i returned
        cases onEq
        exact .denied returned
      · cases onEq
  | _ => cases onEq

/-- The acknowledgement is sent, or the session is left in the store. -/
theorem acknowledging_goes
    (onEq : (Phase.acknowledging session).on transport pool event = some (pool', phase')) :
    Goes transport pool event (.acknowledging session) pool' phase' := by
  cases event with
  | sent result =>
      cases result with
      | ok =>
          cases onEq
          exact .serves rfl rfl (by simp)
      | error error =>
          cases onEq
          exact .abandons rfl rfl
  | _ => cases onEq

/-- A frame or the end of the connection. -/
theorem receiving_goes
    (onEq : (Phase.receiving session).on transport pool event = some (pool', phase')) :
    Goes transport pool event (.receiving session) pool' phase' := by
  cases event with
  | received item now => exact received_goes onEq
  | closed result =>
      cases transport with
      | tcp => cases onEq
      | quic =>
          cases onEq
          exact .removes rfl
  | _ => cases onEq

/-- A reply to a heartbeat. -/
theorem replying_goes
    (onEq : (Phase.replying session).on transport pool event = some (pool', phase')) :
    Goes transport pool event (.replying session) pool' phase' := by
  cases event with
  | sent result =>
      cases result with
      | ok =>
          cases onEq
          exact .serves rfl rfl (by simp)
      | error error => exact .of_fail rfl (fun tcp => by rw [tcp]; rfl) onEq
  | closed result =>
      cases transport with
      | tcp => cases onEq
      | quic =>
          cases onEq
          exact .removes rfl
  | _ => cases onEq

/-- A frame that is processed, or throttled. -/
theorem processing_goes {frame : Frame}
    (onEq : (Phase.processing session frame).on transport pool event = some (pool', phase')) :
    Goes transport pool event (.processing session frame) pool' phase' := by
  cases event with
  | throttled now =>
      cases onEq
      exact .throttles
  | processed =>
      cases onEq
      exact .serves rfl rfl (by simp)
  | _ => cases onEq

/-- `remove` has returned, or is waited for. -/
theorem removing_goes {call : Nat} {result : Except TunnelError Unit}
    (onEq : (Phase.removing session call result).on transport pool event = some (pool', phase')) :
    Goes transport pool event (.removing session call result) pool' phase' := by
  cases event with
  | removed =>
      simp only [on] at onEq
      split at onEq
      · rename_i returned
        cases onEq
        exact .removed returned
      · cases onEq
  | _ => cases onEq

end Goes

/-- Every step of a task is one of these. -/
theorem on_goes {transport : Transport} {pool pool' : StorePool μ} {phase phase' : Phase μ}
    {event : Event μ} (onEq : phase.on transport pool event = some (pool', phase')) :
    Goes transport pool event phase pool' phase' := by
  cases phase with
  | handshake =>
      cases event with
      | handshake outcome => exact outcome_goes onEq
      | _ => cases onEq
  | rejecting status =>
      cases event with
      | sent result =>
          cases onEq
          exact .ends rfl rfl
      | _ => cases onEq
  | adding session call => exact adding_goes onEq
  | denying session =>
      cases event with
      | sent result =>
          cases result <;> cases onEq <;> exact .refused
      | _ => cases onEq
  | acknowledging session => exact acknowledging_goes onEq
  | receiving session => exact receiving_goes onEq
  | touching session call frame =>
      cases event with
      | touched => exact touched_goes onEq
      | _ => cases onEq
  | replying session => exact replying_goes onEq
  | processing session frame => exact processing_goes onEq
  | removing session call result => exact removing_goes onEq
  | returned session result => cases event <;> cases onEq

end Phase

/-! ## What the store knows of a task -/

namespace StorePool

/-- The call at `k` notes activity of the session with the id, and reports it
missing only if it is not stored. -/
def Touches (pool : StorePool μ) (id : Uuid) (k : Nat) : Prop :=
  (∃ now, pool.calls[k]? = some (.updateHeartbeat id now)) ∨
  (∃ found, pool.calls[k]? = some (.updateHeartbeatReturned found) ∧
    (found = false → pool.shared.sessions.lookup id = none))

/-- The call at `k` removes the session with the id, which is not stored once
its first map operation is done. -/
def Removes (pool : StorePool μ) (id : Uuid) (k : Nat) : Prop :=
  pool.calls[k]? = some (.remove id) ∨
  (pool.shared.sessions.lookup id = none ∧
    ∃ call, pool.calls[k]? = some call ∧
      ((∃ session, call = .removeIndex session) ∨ ∃ result, call = .removeReturned result))

theorem roles_begin (pool : StorePool μ) (request : Request μ) :
    (pool.begin request).roles = pool.roles ++ [request.start.role] := by
  simp only [roles, begin, List.map_append, List.map_singleton]

/-- A finished call has presented the session, or was refused. -/
def Finished (pool : StorePool μ) (session : Session μ) : Prop :=
  .presented session ∈ pool.roles ∨ .refused session ∈ pool.roles

section Step

variable {pool after : StorePool μ} {action : StoreAction μ}

/-- A role that has no next step stays. -/
theorem mem_roles_step {role : Role μ} (stepEq : pool.step action = some after)
    (member : role ∈ pool.roles)
    (final : ∀ store store' role', ¬ RoleStep store role store' role') :
    role ∈ after.roles := by
  rcases step_roles stepEq with ⟨request, -, -, rolesEq⟩ |
    ⟨k, visited, advancing, role', -, roleAt, stepped, rolesEq⟩
  · rw [rolesEq]
    exact List.mem_append_left _ member
  · rw [rolesEq]
    refine mem_set_of_ne roleAt member ?_
    rintro rfl
    exact final _ _ _ stepped

variable {session : Session μ}

theorem presented_step (stepEq : pool.step action = some after)
    (presented : .presented session ∈ pool.roles) : .presented session ∈ after.roles :=
  mem_roles_step stepEq presented (fun _ _ _ stepped => stepped.not_presented session rfl)

theorem refused_step (stepEq : pool.step action = some after)
    (refused : .refused session ∈ pool.roles) : .refused session ∈ after.roles :=
  mem_roles_step stepEq refused (fun _ _ _ stepped => by cases stepped)

theorem Finished.step (finished : pool.Finished session) (stepEq : pool.step action = some after) :
    after.Finished session := by
  rcases finished with presented | refused
  · exact .inl (presented_step stepEq presented)
  · exact .inr (refused_step stepEq refused)

/-- A session whose call has finished is not stored again. -/
theorem Finished.absent_step (finished : pool.Finished session)
    (known : Identified pool.shared pool.roles) (stepEq : pool.step action = some after)
    (absent : pool.shared.sessions.lookup session.id = none) :
    after.shared.sessions.lookup session.id = none := by
  rcases step_roles stepEq with ⟨request, -, sharedEq, -⟩ |
    ⟨k, visited, role, role', -, roleAt, stepped, -⟩
  · rw [sharedEq]
    exact absent
  · by_contra present
    obtain ⟨found, stored⟩ := Option.ne_none_iff_exists'.mp present
    rcases stepped.stored_cases stored with ⟨before, storedBefore, -⟩ | ⟨rfl, -, sameId⟩
    · rw [absent] at storedBefore
      cases storedBefore
    · have inserting := List.mem_of_getElem? roleAt
      rcases finished with presented | refused
      · cases known.role_eq inserting presented rfl rfl sameId
      · cases known.role_eq inserting refused rfl rfl sameId

/-- A call elsewhere stays where it stands. -/
theorem calls_step (stepEq : pool.step action = some after) {k : Nat} {call : Call μ}
    (callAt : pool.calls[k]? = some call) :
    after.calls[k]? = some call ∨
    ∃ visited store' call', call.next pool.shared visited = some (store', call') ∧
      after.shared = store' ∧ after.calls[k]? = some call' := by
  have inside : k < pool.calls.length := (List.getElem?_eq_some_iff.mp callAt).1
  cases action with
  | start request =>
      obtain rfl := Pool.step_start stepEq
      exact .inl ((List.getElem?_append_left inside).trans callAt)
  | advance j visited =>
      obtain ⟨advancing, store', call', advancingAt, nextEq, rfl⟩ := Pool.step_advance stepEq
      by_cases here : j = k
      · subst here
        obtain rfl : advancing = call := Option.some.inj (advancingAt.symm.trans callAt)
        exact .inr ⟨visited, store', call', nextEq, rfl, List.getElem?_set_self inside⟩
      · exact .inl ((List.getElem?_set_ne here).trans callAt)

theorem Touches.step {k : Nat} (touches : pool.Touches session.id k)
    (finished : pool.Finished session) (known : Identified pool.shared pool.roles)
    (stepEq : pool.step action = some after) : after.Touches session.id k := by
  rcases touches with ⟨now, callAt⟩ | ⟨found, callAt, missing⟩
  · rcases calls_step stepEq callAt with same | ⟨visited, store', call', nextEq, sharedEq, callAt'⟩
    · exact .inl ⟨now, same⟩
    · simp only [Call.next] at nextEq
      split at nextEq
      · rename_i absent
        cases nextEq
        exact .inr ⟨false, callAt', fun _ => sharedEq ▸ absent⟩
      · cases nextEq
        exact .inr ⟨true, callAt', fun lost => Bool.noConfusion lost⟩
  · rcases calls_step stepEq callAt with same | ⟨_, _, _, nextEq, _⟩
    · exact .inr ⟨found, same, fun lost =>
        finished.absent_step known stepEq (missing lost)⟩
    · cases nextEq

theorem Removes.step {k : Nat} (removes : pool.Removes session.id k)
    (finished : pool.Finished session) (known : Identified pool.shared pool.roles)
    (stepEq : pool.step action = some after) : after.Removes session.id k := by
  rcases removes with callAt | ⟨absent, call, callAt, stands⟩
  · rcases calls_step stepEq callAt with same | ⟨visited, store', call', nextEq, sharedEq, callAt'⟩
    · exact .inl same
    · simp only [Call.next] at nextEq
      split at nextEq
      · rename_i absent
        cases nextEq
        exact .inr ⟨sharedEq ▸ absent, _, callAt', .inr ⟨none, rfl⟩⟩
      · rename_i found stored
        cases nextEq
        refine .inr ⟨?_, _, callAt', .inl ⟨found, rfl⟩⟩
        rw [sharedEq]
        exact Finmap.lookup_erase _ _
  · have absentAfter := finished.absent_step known stepEq absent
    rcases calls_step stepEq callAt with same | ⟨visited, store', call', nextEq, sharedEq, callAt'⟩
    · exact .inr ⟨absentAfter, call, same, stands⟩
    · rcases stands with ⟨removed, rfl⟩ | ⟨result, rfl⟩
      · cases nextEq
        exact .inr ⟨absentAfter, _, callAt', .inr ⟨_, rfl⟩⟩
      · cases nextEq

end Step

end StorePool

/-- What the store knows of the session of a task. -/
def Tracks (pool : StorePool μ) : Phase μ → Prop
  | .handshake | .rejecting _ => True
  | .adding session call => ∃ role, pool.roles[call]? = some role ∧ role.session? = some session
  | .denying session => .refused session ∈ pool.roles
  | .acknowledging session | .receiving session => .presented session ∈ pool.roles
  | .touching session call _ =>
      .presented session ∈ pool.roles ∧ pool.Touches session.id call
  | .replying session | .processing session _ => .presented session ∈ pool.roles
  | .removing session call _ => .presented session ∈ pool.roles ∧ pool.Removes session.id call
  | .returned none _ => True
  | .returned (some session) _ =>
      pool.Finished session ∧ pool.shared.sessions.lookup session.id = none

namespace Tracks

variable {pool after : StorePool μ} {phase phase' : Phase μ}

/-- What the calls of the store do leaves the tasks tracked. -/
theorem step {action : StoreAction μ} (tracks : Tracks pool phase)
    (known : Identified pool.shared pool.roles) (stepEq : pool.step action = some after) :
    Tracks after phase := by
  cases phase with
  | handshake | rejecting => trivial
  | adding session call =>
      obtain ⟨role, roleAt, presents⟩ := tracks
      rcases StorePool.step_roles stepEq with ⟨request, -, -, rolesEq⟩ |
        ⟨k, visited, advancing, role', -, advancingAt, stepped, rolesEq⟩
      · have inside : call < pool.roles.length := (List.getElem?_eq_some_iff.mp roleAt).1
        rw [Tracks, rolesEq, List.getElem?_append_left inside]
        exact ⟨role, roleAt, presents⟩
      · rw [Tracks, rolesEq]
        by_cases here : k = call
        · subst here
          obtain rfl : advancing = role := Option.some.inj (advancingAt.symm.trans roleAt)
          exact ⟨role', List.getElem?_set_self (List.getElem?_eq_some_iff.mp roleAt).1,
            stepped.session?_eq.trans presents⟩
        · exact ⟨role, (List.getElem?_set_ne here).trans roleAt, presents⟩
  | denying session => exact StorePool.refused_step stepEq tracks
  | acknowledging session | receiving session | replying session | processing session frame =>
      exact StorePool.presented_step stepEq tracks
  | touching session call frame | removing session call result =>
      exact ⟨StorePool.presented_step stepEq tracks.1,
        tracks.2.step (.inl tracks.1) known stepEq⟩
  | returned session result =>
      cases session with
      | none => trivial
      | some session =>
          exact ⟨tracks.1.step stepEq, tracks.1.absent_step known stepEq tracks.2⟩

theorem presented_of_established {session : Session μ} (tracks : Tracks pool phase)
    (established : phase.established? = some session) : .presented session ∈ pool.roles := by
  cases phase with
  | touching => cases established; exact tracks.1
  | acknowledging | receiving | replying | processing => cases established; exact tracks
  | _ => cases established

theorem of_established {session : Session μ} (presented : .presented session ∈ pool.roles)
    (established : phase.established? = some session)
    (untouched : ∀ call frame, phase ≠ .touching session call frame) : Tracks pool phase := by
  cases phase with
  | touching _ call frame =>
      cases established
      exact absurd rfl (untouched call frame)
  | acknowledging | receiving | replying | processing => cases established; exact presented
  | _ => cases established

/-- A task goes on and is still tracked, if it does not leave its session in the
store. -/
theorem goes {transport : Transport} {event : Event μ} (tracks : Tracks pool phase)
    (known : Identified pool.shared pool.roles)
    (goes : Phase.Goes transport pool event phase after phase')
    (removesFirst : ∀ session, phase.abandons transport event = some session →
      pool.shared.sessions.lookup session.id = none) : Tracks after phase' := by
  have begins : ∀ request, pool.step (.start request) = some (pool.begin request) :=
    fun _ => rfl
  have started : ∀ request : Request μ,
      (pool.begin request).calls[pool.calls.length]? = some request.start :=
    fun request => List.getElem?_concat_length
  cases goes with
  | ends | rejects => trivial
  | @authenticates session =>
      exact ⟨.adding session, StorePool.roles_getElem?_eq_some.mpr
        ⟨_, started (.add session), rfl⟩, rfl⟩
  | registers returned | denied returned =>
      obtain ⟨role, roleAt, presents⟩ := tracks
      obtain ⟨call, callAt, rfl⟩ := StorePool.roles_getElem?_eq_some.mp roleAt
      obtain rfl := Option.some.inj (callAt.symm.trans returned)
      cases presents
      exact List.mem_of_getElem? roleAt
  | @refused session result =>
      refine ⟨.inr tracks, ?_⟩
      by_contra present
      obtain ⟨found, stored⟩ := Option.ne_none_iff_exists'.mp present
      obtain ⟨-, other, presented, sameId, -⟩ := known.stored stored
      cases known.role_eq tracks presented rfl rfl sameId.symm
  | abandons established abandoned =>
      exact ⟨.inl (tracks.presented_of_established established), removesFirst _ abandoned⟩
  | serves established established' untouched =>
      exact .of_established (tracks.presented_of_established established) established' untouched
  | @touches session frame now =>
      exact ⟨StorePool.presented_step (begins _) tracks, .inl ⟨now, started _⟩⟩
  | throttles => exact StorePool.presented_step (begins _) tracks
  | misses returned =>
      obtain ⟨presented, ⟨now, callAt⟩ | ⟨found, callAt, missing⟩⟩ := tracks
      · cases callAt.symm.trans returned
      · cases callAt.symm.trans returned
        exact ⟨.inl presented, missing rfl⟩
  | @removes phase session result established =>
      exact ⟨StorePool.presented_step (begins _) (tracks.presented_of_established established),
        .inl (started _)⟩
  | removed returned =>
      obtain ⟨presented, callAt | ⟨absent, -⟩⟩ := tracks
      · cases callAt.symm.trans returned
      · exact ⟨.inl presented, absent⟩

end Tracks

namespace Phase.Goes

variable {transport : Transport} {pool pool' : StorePool μ} {event : Event μ}
  {phase phase' : Phase μ} (goes : Goes transport pool event phase pool' phase')

include goes

theorem running : phase.isReturned = false := by
  cases goes with
  | ends _ running => exact running
  | abandons established | serves established | removes established =>
      cases phase <;> first | rfl | cases established
  | _ => rfl

/-- A task keeps its session. -/
theorem session?_eq {session : Session μ} (has : phase.session? = some session) :
    phase'.session? = some session := by
  have kept : ∀ {phase : Phase μ} {established},
      phase.established? = some established → phase.session? = some established := by
    intro phase established eq
    cases phase <;> first | exact eq | cases eq
  cases goes with
  | ends unregistered =>
      rw [unregistered] at has
      cases has
  | rejects | authenticates => cases has
  | abandons established | removes established => exact (kept established).symm.trans has
  | serves established established' =>
      rw [kept established']
      exact (kept established).symm.trans has
  | _ => exact has

/-- A task makes at most one call on the store, and presents a session only
after the handshake. -/
theorem pool_cases :
    pool' = pool ∨ (∃ request : Request μ, pool' = pool.begin request ∧
      request.start.role = .idle) ∨
    (∃ session, event = .handshake (.authenticated session) ∧
      pool' = pool.begin (.add session) ∧ phase'.session? = some session) := by
  cases goes with
  | authenticates eventEq => exact .inr (.inr ⟨_, eventEq, rfl, rfl⟩)
  | touches | throttles | removes => exact .inr (.inl ⟨_, rfl, rfl⟩)
  | _ => exact .inl rfl

end Phase.Goes

end FerroTunnel.Tunnel
