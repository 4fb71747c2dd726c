import FerroTunnel.Tunnel.Ownership

/-!
# Where multiplexers come from

A session is stored with the multiplexer that it was added with, and a lookup
finds it with this multiplexer.  So a multiplexer that is met under the name of
a tunnel was brought by a call that added a session under this name.
-/

namespace FerroTunnel.Tunnel

open FerroTunnel.Transition
open FerroTunnel.Wire

variable {μ : Type}

/-- A call that has added a session for the tunnel brought this multiplexer. -/
def Registered (roles : List (Role μ)) (tunnelId : String) (multiplexer : Option μ) : Prop :=
  ∃ session : Session μ, .presented session ∈ roles ∧ session.tunnelId = tunnelId ∧
    session.multiplexer = multiplexer

/-- The multiplexers of the sessions that are stored, and of those that lookups have found, were
registered with their tunnels. -/
structure Sourced (store : SessionStore μ) (roles : List (Role μ)) : Prop where
  stored : ∀ {id session}, store.sessions.lookup id = some session →
    Registered roles session.tunnelId session.multiplexer
  answered : ∀ {tunnelId session}, .answered tunnelId (some session) ∈ roles →
    Registered roles session.tunnelId session.multiplexer

section Advance

variable {store store' : SessionStore μ} {roles : List (Role μ)} {k : Nat} {role role' : Role μ}
  {tunnelId : String} {multiplexer : Option μ}

theorem Registered.advance (registered : Registered roles tunnelId multiplexer)
    (roleAt : roles[k]? = some role) (stepped : RoleStep store role store' role') :
    Registered (roles.set k role') tunnelId multiplexer := by
  obtain ⟨session, member, names⟩ := registered
  exact ⟨session, mem_set_of_ne roleAt member (stepped.not_presented session).symm, names⟩

theorem Registered.append (registered : Registered roles tunnelId multiplexer)
    (later : List (Role μ)) : Registered (roles ++ later) tunnelId multiplexer := by
  obtain ⟨session, member, names⟩ := registered
  exact ⟨session, List.mem_append_left _ member, names⟩

/-- A stored session was stored with its multiplexer before, or is the one that the call
inserts. -/
theorem RoleStep.stored_source (stepped : RoleStep store role store' role') {id : Uuid}
    {session : Session μ} (stored : store'.sessions.lookup id = some session) :
    (∃ before, store.sessions.lookup id = some before ∧ session.tunnelId = before.tunnelId ∧
      session.multiplexer = before.multiplexer) ∨ role' = .presented session := by
  cases stepped with
  | insert =>
      rcases Map.lookup_insert_cases stored with ⟨rfl, rfl⟩ | before
      · exact .inr rfl
      · exact .inl ⟨session, before, rfl, rfl⟩
  | removeOld | take => exact .inl ⟨session, Map.lookup_of_lookup_erase stored, rfl, rfl⟩
  | @touch _ touched _ storedBefore =>
      rcases Map.lookup_insert_cases stored with ⟨rfl, rfl⟩ | before
      · exact .inl ⟨touched, storedBefore, rfl, rfl⟩
      · exact .inl ⟨session, before, rfl, rfl⟩
  | _ => exact .inl ⟨session, stored, rfl, rfl⟩

/-- A lookup finds a session that is stored. -/
theorem RoleStep.answered_source {session : Session μ}
    (stepped : RoleStep store role store' role')
    (found : role' = .answered tunnelId (some session)) :
    ∃ id, store.sessions.lookup id = some session := by
  cases stepped with
  | @answer _ id => exact ⟨id, (Role.answered.inj found).2⟩
  | _ => cases found

theorem Sourced.advance (sourced : Sourced store roles) (roleAt : roles[k]? = some role)
    (stepped : RoleStep store role store' role') : Sourced store' (roles.set k role') where
  stored {id session} stored := by
    have inside : k < roles.length := (List.getElem?_eq_some_iff.mp roleAt).1
    rcases stepped.stored_source stored with ⟨before, storedBefore, tunnelEq, muxEq⟩ | rfl
    · rw [tunnelEq, muxEq]
      exact (sourced.stored storedBefore).advance roleAt stepped
    · exact ⟨session, List.mem_set inside _, rfl, rfl⟩
  answered {tunnelId session} member := by
    rcases List.mem_or_eq_of_mem_set member with old | found
    · exact (sourced.answered old).advance roleAt stepped
    · obtain ⟨id, stored⟩ := stepped.answered_source found.symm
      exact (sourced.stored stored).advance roleAt stepped

end Advance

namespace StorePool

variable {pool after : StorePool μ} {action : StoreAction μ} {tunnelId : String}
  {multiplexer : Option μ}

theorem sourced_initial : Sourced (initial : StorePool μ).shared initial.roles where
  stored found := by simp [initial, SessionStore.new] at found
  answered member := by simp [initial, roles] at member

/-- A new call has found nothing. -/
theorem sourced_start (sourced : Sourced pool.shared pool.roles) (request : Request μ) :
    Sourced pool.shared (pool.roles ++ [request.start.role]) where
  stored stored := (sourced.stored stored).append _
  answered member := by
    rcases List.mem_append.mp member with old | new
    · exact (sourced.answered old).append _
    · cases request <;> cases List.mem_singleton.mp new

theorem sourced_step (sourced : Sourced pool.shared pool.roles)
    (stepEq : pool.step action = some after) : Sourced after.shared after.roles := by
  rcases step_roles stepEq with ⟨request, rfl, sharedEq, rolesEq⟩ |
    ⟨k, visited, role, role', -, roleAt, stepped, rolesEq⟩
  · rw [sharedEq, rolesEq]
    exact sourced_start sourced request
  · rw [rolesEq]
    exact sourced.advance roleAt stepped

/-- What was registered stays so. -/
theorem registered_step (registered : Registered pool.roles tunnelId multiplexer)
    (stepEq : pool.step action = some after) : Registered after.roles tunnelId multiplexer := by
  rcases step_roles stepEq with ⟨request, rfl, sharedEq, rolesEq⟩ |
    ⟨k, visited, role, role', -, roleAt, stepped, rolesEq⟩
  · rw [rolesEq]
    exact registered.append _
  · rw [rolesEq]
    exact registered.advance roleAt stepped

end StorePool

end FerroTunnel.Tunnel
