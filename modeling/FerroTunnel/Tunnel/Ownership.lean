import FerroTunnel.Tunnel.SessionStore

/-!
# Who owns a tunnel

For the ownership of tunnel ids only part of where a call stands matters: the
session it presents and how far it has come with it, the session whose index
entry it is about to delete, or the tunnel it looks up.  This part is the
call's role.  Every map operation of a call is one of a few steps on roles, and
all facts about the store are derived from these steps.

With ids presented once, every id met anywhere goes back to the one call that
presented it.
-/

namespace FerroTunnel.Tunnel

open FerroTunnel.Transition
open FerroTunnel.Wire

variable {μ : Type}

/-- What a call does for the ownership of a tunnel. -/
inductive Role (μ : Type)
  | idle
  | adding (session : Session μ)
  | replacing (session : Session μ)
  | evicting (session : Session μ) (old : Uuid)
  | indexing (session : Session μ)
  | inserting (session : Session μ)
  | presented (session : Session μ)
  | refused (session : Session μ)
  | unindexing (session : Session μ)
  | reading (tunnelId : String) (id : Uuid)
  | answered (tunnelId : String) (result : Option (Session μ))

/-- The role of a call. -/
def Call.role : Call μ → Role μ
  | .add session => .adding session
  | .addInsert session => .inserting session
  | .addReturned session (.ok ()) => .presented session
  | .addReturned session (.error _) => .refused session
  | .addOrReplace session => .replacing session
  | .addOrReplaceRemoveOld session oldSessionId => .evicting session oldSessionId
  | .addOrReplaceIndex session => .indexing session
  | .addOrReplaceInsert session => .inserting session
  | .addOrReplaceReturned session => .presented session
  | .getByTunnelIdSession tunnelId id => .reading tunnelId id
  | .getByTunnelIdReturned tunnelId result => .answered tunnelId result
  | .removeIndex session | .cleanupRemoveIndex session _ _ => .unindexing session
  | _ => .idle

/-- The session a call in this role presents. -/
def Role.session? : Role μ → Option (Session μ)
  | .adding session | .replacing session | .evicting session _ | .indexing session
  | .inserting session | .presented session | .refused session => some session
  | _ => none

/-- A call in this role presents the id. -/
def Role.Presents (id : Uuid) (role : Role μ) : Prop :=
  ∃ session, role.session? = some session ∧ session.id = id

/-- One map operation, as a step of the role of the call that performs it. -/
inductive RoleStep (store : SessionStore μ) :
    Role μ → SessionStore μ → Role μ → Prop
  | quiet : RoleStep store .idle store .idle
  | refuse {session owner} (taken : store.tunnelIndex.lookup session.tunnelId = some owner)
      (other : owner ≠ session.id) : RoleStep store (.adding session) store (.refused session)
  | claim {session} (vacant : store.tunnelIndex.lookup session.tunnelId = none) :
      RoleStep store (.adding session) (store.insertIndex session) (.inserting session)
  | claimAgain {session}
      (own : store.tunnelIndex.lookup session.tunnelId = some session.id) :
      RoleStep store (.adding session) store (.inserting session)
  | insert {session} :
      RoleStep store (.inserting session) (store.insertSession session) (.presented session)
  | evict {session old} (taken : store.tunnelIndex.lookup session.tunnelId = some old)
      (other : old ≠ session.id) :
      RoleStep store (.replacing session) (store.removeIndex session.tunnelId)
        (.evicting session old)
  | evictNone {session} (vacant : store.tunnelIndex.lookup session.tunnelId = none) :
      RoleStep store (.replacing session) store (.indexing session)
  | evictSelf {session}
      (own : store.tunnelIndex.lookup session.tunnelId = some session.id) :
      RoleStep store (.replacing session) (store.removeIndex session.tunnelId)
        (.indexing session)
  | removeOld {session old} :
      RoleStep store (.evicting session old) (store.removeSession old) (.indexing session)
  | index {session} :
      RoleStep store (.indexing session) (store.insertIndex session) (.inserting session)
  | take {id session} (stored : store.sessions.lookup id = some session) :
      RoleStep store .idle (store.removeSession id) (.unindexing session)
  | unindex {session} :
      RoleStep store (.unindexing session) (store.removeIndex session.tunnelId) .idle
  | touch {id session now} (stored : store.sessions.lookup id = some session) :
      RoleStep store .idle
        { store with sessions := store.sessions.insert id (session.updateHeartbeat now) } .idle
  | look {tunnelId id} (indexed : store.tunnelIndex.lookup tunnelId = some id) :
      RoleStep store .idle store (.reading tunnelId id)
  | miss {tunnelId} : RoleStep store .idle store (.answered tunnelId none)
  | answer {tunnelId id} :
      RoleStep store (.reading tunnelId id) store
        (.answered tunnelId (store.sessions.lookup id))

section Roles

variable {store store' : SessionStore μ} {call' : Call μ} {visited : Option Uuid}

namespace Call

/-- The first operation of `add` takes the index entry, keeps it or is refused. -/
theorem next_role_add {session : Session μ}
    (nextEq : (Call.add session).next store visited = some (store', call')) :
    RoleStep store (.adding session) store' call'.role := by
  simp only [Call.next, SessionStore.claimEntry] at nextEq
  cases entry : store.tunnelIndex.lookup session.tunnelId with
  | none =>
      simp only [entry] at nextEq
      cases nextEq
      exact .claim entry
  | some owner =>
      simp only [entry] at nextEq
      by_cases own : owner = session.id
      · subst own
        simp only [ne_eq, not_true_eq_false, ↓reduceIte] at nextEq
        cases nextEq
        exact .claimAgain entry
      · simp only [ne_eq, own, not_false_eq_true, ↓reduceIte] at nextEq
        cases nextEq
        exact .refuse entry own

/-- The first operation of `add_or_replace` deletes the index entry, if there is one. -/
theorem next_role_addOrReplace {session : Session μ}
    (nextEq : (Call.addOrReplace session).next store visited = some (store', call')) :
    RoleStep store (.replacing session) store' call'.role := by
  simp only [Call.next] at nextEq
  split at nextEq
  · next old entry =>
    split at nextEq <;> cases nextEq
    · next other => exact .evict entry other
    · next own => exact .evictSelf (not_not.mp own ▸ entry)
  · next entry =>
    cases nextEq
    exact .evictNone entry

/-- A sweep deletes the next session of its list, if it is still there. -/
theorem next_role_cleanupRemove {count : Nat} {toRemove : List Uuid}
    (nextEq : (Call.cleanupRemove count toRemove).next store visited = some (store', call')) :
    RoleStep store .idle store' call'.role := by
  cases toRemove with
  | nil =>
      cases nextEq
      exact .quiet
  | cons id rest =>
      simp only [Call.next] at nextEq
      split at nextEq <;> cases nextEq
      · exact .quiet
      · next entry => exact .take entry

/-- Every map operation of a call is a step of its role. -/
theorem next_role {call : Call μ} (nextEq : call.next store visited = some (store', call')) :
    RoleStep store call.role store' call'.role := by
  cases call with
  | add session => exact next_role_add nextEq
  | addOrReplace session => exact next_role_addOrReplace nextEq
  | cleanupRemove count toRemove => exact next_role_cleanupRemove nextEq
  | addInsert session | addOrReplaceInsert session =>
      cases nextEq
      exact .insert
  | addOrReplaceRemoveOld session old =>
      cases nextEq
      exact .removeOld
  | addOrReplaceIndex session =>
      cases nextEq
      exact .index
  | getByTunnelId tunnelId =>
      simp only [Call.next] at nextEq
      split at nextEq <;> cases nextEq
      · exact .miss
      · next entry => exact .look entry
  | getByTunnelIdSession tunnelId id =>
      cases nextEq
      exact .answer
  | updateHeartbeat id now =>
      simp only [Call.next] at nextEq
      split at nextEq <;> cases nextEq
      · exact .quiet
      · next entry => exact .touch entry
  | remove id =>
      simp only [Call.next] at nextEq
      split at nextEq <;> cases nextEq
      · exact .quiet
      · next entry => exact .take entry
  | cleanupScan now timeout toRemove =>
      simp only [Call.next] at nextEq
      repeat' split at nextEq
      all_goals cases nextEq
      all_goals exact .quiet
  | removeIndex session | cleanupRemoveIndex session count toRemove =>
      cases nextEq
      exact .unindex
  | _ => cases nextEq

end Call

end Roles

/-! ## What a step can do -/

namespace RoleStep

variable {store store' : SessionStore μ} {role role' : Role μ}

/-- A call presents the same session all along. -/
theorem session?_eq (stepped : RoleStep store role store' role') :
    role'.session? = role.session? := by
  cases stepped <;> rfl

variable {session : Session μ}

/-- A stored session was stored before, up to its heartbeat, or is the one the
call inserts. -/
theorem stored_cases (stepped : RoleStep store role store' role') {id : Uuid}
    (stored : store'.sessions.lookup id = some session) :
    (∃ before, store.sessions.lookup id = some before ∧ session.id = before.id ∧
      session.tunnelId = before.tunnelId) ∨
    (role = .inserting session ∧ role' = .presented session ∧ session.id = id) := by
  cases stepped with
  | insert =>
      rcases Map.lookup_insert_cases stored with ⟨rfl, rfl⟩ | before
      · exact .inr ⟨rfl, rfl, rfl⟩
      · exact .inl ⟨session, before, rfl, rfl⟩
  | removeOld | take => exact .inl ⟨session, Map.lookup_of_lookup_erase stored, rfl, rfl⟩
  | @touch _ touched _ storedBefore =>
      rcases Map.lookup_insert_cases stored with ⟨rfl, rfl⟩ | before
      · exact .inl ⟨touched, storedBefore, rfl, rfl⟩
      · exact .inl ⟨session, before, rfl, rfl⟩
  | _ => exact .inl ⟨session, stored, rfl, rfl⟩

/-- An index entry was there before, or is the one the call claims. -/
theorem indexed_cases (stepped : RoleStep store role store' role') {tunnelId : String}
    {id : Uuid} (indexed : store'.tunnelIndex.lookup tunnelId = some id) :
    store.tunnelIndex.lookup tunnelId = some id ∨
    ∃ session, role' = .inserting session ∧ session.id = id ∧ session.tunnelId = tunnelId := by
  cases stepped with
  | @claim session | @index session =>
      rcases Map.lookup_insert_cases indexed with ⟨rfl, rfl⟩ | before
      · exact .inr ⟨session, rfl, rfl, rfl⟩
      · exact .inl before
  | evict | evictSelf | unindex => exact .inl (Map.lookup_of_lookup_erase indexed)
  | _ => exact .inl indexed

/-- A call that presented its session is finished. -/
theorem not_presented (stepped : RoleStep store role store' role') (session : Session μ) :
    role ≠ .presented session := by
  cases stepped <;> exact nofun

/-- A call that inserts its session finishes. -/
theorem presented_of_inserting (stepped : RoleStep store (.inserting session) store' role') :
    role' = .presented session := by
  cases stepped
  rfl

theorem taken_of_evicting {old : Uuid}
    (stepped : RoleStep store role store' (.evicting session old)) :
    store.tunnelIndex.lookup session.tunnelId = some old := by
  cases stepped
  assumption

theorem stored_of_unindexing (stepped : RoleStep store role store' (.unindexing session)) :
    ∃ id, store.sessions.lookup id = some session ∧ store' = store.removeSession id := by
  cases stepped with
  | take stored => exact ⟨_, stored, rfl⟩

theorem indexed_of_reading {tunnelId : String} {id : Uuid}
    (stepped : RoleStep store role store' (.reading tunnelId id)) :
    store.tunnelIndex.lookup tunnelId = some id := by
  cases stepped
  assumption

end RoleStep

/-! ## Where ids come from -/

/-- A finished call presented the id for the tunnel. -/
def Presented (roles : List (Role μ)) (id : Uuid) (tunnelId : String) : Prop :=
  ∃ session : Session μ, .presented session ∈ roles ∧ session.id = id ∧
    session.tunnelId = tunnelId

/-- A call that has taken the index entry of the tunnel presents the id for it. -/
def Claimed (roles : List (Role μ)) (id : Uuid) (tunnelId : String) : Prop :=
  ∃ session : Session μ, (.inserting session ∈ roles ∨ .presented session ∈ roles) ∧
    session.id = id ∧ session.tunnelId = tunnelId

/-- Every id met in the store or in a call goes back to the call that presented
it. -/
structure Identified (store : SessionStore μ) (roles : List (Role μ)) : Prop where
  once : ∀ id, AtMostOne roles (Role.Presents id)
  stored : ∀ {id session}, store.sessions.lookup id = some session →
    session.id = id ∧ Presented roles id session.tunnelId
  indexed : ∀ {tunnelId id}, store.tunnelIndex.lookup tunnelId = some id →
    Claimed roles id tunnelId
  evicting : ∀ {session old}, .evicting session old ∈ roles → ∃ tunnelId, Claimed roles old tunnelId
  unindexing : ∀ {session}, .unindexing session ∈ roles →
    Presented roles session.id session.tunnelId ∧ store.sessions.lookup session.id = none
  reading : ∀ {tunnelId id}, .reading tunnelId id ∈ roles → Claimed roles id tunnelId
  answered : ∀ {tunnelId session}, .answered tunnelId (some session) ∈ roles →
    session.tunnelId = tunnelId

/-- A role other than the one that advances is still there. -/
theorem mem_set_of_ne {roles : List (Role μ)} {k : Nat} {role role' other : Role μ}
    (roleAt : roles[k]? = some role) (member : other ∈ roles) (differs : other ≠ role) :
    other ∈ roles.set k role' := by
  obtain ⟨kept, inside, rfl⟩ := exists_mem_set roleAt (fun same => absurd same differs)
    ⟨other, member, rfl⟩
  exact inside

/-- A role other than the one that results was there before. -/
theorem mem_of_mem_set {roles : List (Role μ)} {k : Nat} {role' other : Role μ}
    (member : other ∈ roles.set k role') (differs : other ≠ role') : other ∈ roles :=
  (List.mem_or_eq_of_mem_set member).resolve_right differs

section Advance

variable {store store' : SessionStore μ} {roles : List (Role μ)} {k : Nat} {role role' : Role μ}

theorem Presented.advance {id : Uuid} {tunnelId : String}
    (presented : Presented roles id tunnelId) (roleAt : roles[k]? = some role)
    (stepped : RoleStep store role store' role') :
    Presented (roles.set k role') id tunnelId := by
  obtain ⟨session, member, names⟩ := presented
  exact ⟨session, mem_set_of_ne roleAt member (stepped.not_presented session).symm, names⟩

theorem Claimed.advance {id : Uuid} {tunnelId : String}
    (claimed : Claimed roles id tunnelId) (roleAt : roles[k]? = some role)
    (stepped : RoleStep store role store' role') :
    Claimed (roles.set k role') id tunnelId := by
  obtain ⟨session, inserting | presented, names⟩ := claimed
  · by_cases same : .inserting session = role
    · subst same
      have inside : k < roles.length := (List.getElem?_eq_some_iff.mp roleAt).1
      rw [stepped.presented_of_inserting]
      exact ⟨session, .inr (List.mem_set inside _), names⟩
    · exact ⟨session, .inl (mem_set_of_ne roleAt inserting same), names⟩
  · exact ⟨session,
      .inr (mem_set_of_ne roleAt presented (stepped.not_presented session).symm), names⟩

theorem Presented.claimed {id : Uuid} {tunnelId : String}
    (presented : Presented roles id tunnelId) : Claimed roles id tunnelId := by
  obtain ⟨session, member, names⟩ := presented
  exact ⟨session, .inr member, names⟩

/-- A claimed session is presented by some call. -/
private theorem exists_role {session : Session μ}
    (place : .inserting session ∈ roles ∨ .presented session ∈ roles) :
    ∃ role ∈ roles, role.session? = some session := by
  rcases place with member | member
  · exact ⟨_, member, rfl⟩
  · exact ⟨_, member, rfl⟩

namespace Identified

variable (known : Identified store roles)

include known

/-- Two calls that present one id are the same call. -/
theorem role_eq {first second : Role μ} {session other : Session μ} (firstMem : first ∈ roles)
    (secondMem : second ∈ roles) (presentsFirst : first.session? = some session)
    (presentsSecond : second.session? = some other) (sameId : session.id = other.id) :
    first = second :=
  (known.once other.id).eq firstMem secondMem ⟨session, presentsFirst, sameId⟩
    ⟨other, presentsSecond, rfl⟩

/-- An id is claimed for one tunnel only. -/
theorem tunnel_eq {id : Uuid} {first second : String} (claimedFirst : Claimed roles id first)
    (claimedSecond : Claimed roles id second) : first = second := by
  obtain ⟨session, place, idEq, rfl⟩ := claimedFirst
  obtain ⟨other, otherPlace, otherId, rfl⟩ := claimedSecond
  obtain ⟨role, member, presents⟩ := exists_role place
  obtain ⟨otherRole, otherMember, otherPresents⟩ := exists_role otherPlace
  obtain rfl := known.role_eq member otherMember presents otherPresents (idEq.trans otherId.symm)
  rw [Option.some.inj (presents.symm.trans otherPresents)]

/-- The id of a call that has not taken an index entry is met nowhere. -/
theorem not_claimed {session : Session μ} (member : role ∈ roles)
    (presents : role.session? = some session) (notInserting : role ≠ .inserting session)
    (notPresented : role ≠ .presented session) (tunnelId : String) :
    ¬ Claimed roles session.id tunnelId := by
  rintro ⟨other, inserting | presented, sameId, -⟩
  · have same := known.role_eq member inserting presents rfl sameId.symm
    subst same
    cases presents
    exact notInserting rfl
  · have same := known.role_eq member presented presents rfl sameId.symm
    subst same
    cases presents
    exact notPresented rfl

/-- The id of a call that inserts its session was not presented by a finished
call. -/
theorem not_presented {session : Session μ} (inserting : .inserting session ∈ roles)
    (tunnelId : String) : ¬ Presented roles session.id tunnelId := by
  rintro ⟨other, presented, sameId, -⟩
  cases known.role_eq inserting presented rfl rfl sameId.symm

/-- A map operation of a call keeps the origin of ids. -/
theorem advance (roleAt : roles[k]? = some role) (stepped : RoleStep store role store' role') :
    Identified store' (roles.set k role') := by
  have inside : k < roles.length := (List.getElem?_eq_some_iff.mp roleAt).1
  have roleMem : role ∈ roles := List.mem_of_getElem? roleAt
  refine ⟨fun id => (known.once id).set roleAt fun presents => .inl ?_, ?_, ?_, ?_, ?_, ?_, ?_⟩
  · rwa [Role.Presents, stepped.session?_eq] at presents
  · intro id session stored
    rcases stepped.stored_cases stored with ⟨before, storedBefore, sameId, sameTunnel⟩ |
      ⟨-, presented, sameId⟩
    · obtain ⟨idEq, presented⟩ := known.stored storedBefore
      exact ⟨sameId.trans idEq, sameTunnel ▸ presented.advance roleAt stepped⟩
    · exact ⟨sameId, session, presented ▸ List.mem_set inside _, sameId, rfl⟩
  · intro tunnelId id indexed
    rcases stepped.indexed_cases indexed with before | ⟨session, inserting, names⟩
    · exact (known.indexed before).advance roleAt stepped
    · exact ⟨session, .inl (inserting ▸ List.mem_set inside _), names⟩
  · intro session old member
    rcases List.mem_or_eq_of_mem_set member with before | new
    · obtain ⟨tunnelId, claimed⟩ := known.evicting before
      exact ⟨tunnelId, claimed.advance roleAt stepped⟩
    · subst new
      exact ⟨_, (known.indexed stepped.taken_of_evicting).advance roleAt stepped⟩
  · intro session member
    rcases List.mem_or_eq_of_mem_set member with before | new
    · obtain ⟨presented, absent⟩ := known.unindexing before
      refine ⟨presented.advance roleAt stepped, ?_⟩
      by_contra present
      obtain ⟨found, stored⟩ := Option.ne_none_iff_exists'.mp present
      rcases stepped.stored_cases stored with ⟨_, storedBefore, -⟩ | ⟨inserting, -, sameId⟩
      · rw [absent] at storedBefore
        cases storedBefore
      · subst inserting
        exact known.not_presented roleMem _ (sameId ▸ presented)
    · subst new
      obtain ⟨id, stored, rfl⟩ := stepped.stored_of_unindexing
      obtain ⟨rfl, presented⟩ := known.stored stored
      exact ⟨presented.advance roleAt stepped, Finmap.lookup_erase _ _⟩
  · intro tunnelId id member
    rcases List.mem_or_eq_of_mem_set member with before | new
    · exact (known.reading before).advance roleAt stepped
    · subst new
      exact (known.indexed stepped.indexed_of_reading).advance roleAt stepped
  · intro tunnelId session member
    rcases List.mem_or_eq_of_mem_set member with before | new
    · exact known.answered before
    · generalize result : some session = found at new
      subst new
      cases stepped with
      | miss => cases result
      | answer =>
          obtain ⟨-, presented⟩ := known.stored result.symm
          exact known.tunnel_eq presented.claimed (known.reading roleMem)

/-- A call that presents nothing, or an id not presented before, may begin. -/
theorem start (request : Request μ)
    (fresh : ∀ session, request.start.role.session? = some session →
      ∀ other ∈ roles, ¬ other.Presents session.id) :
    Identified store (roles ++ [request.start.role]) := by
  have presented : ∀ {id tunnelId}, Presented roles id tunnelId →
      Presented (roles ++ [request.start.role]) id tunnelId := by
    rintro id tunnelId ⟨session, member, names⟩
    exact ⟨session, List.mem_append_left _ member, names⟩
  have claimed : ∀ {id tunnelId}, Claimed roles id tunnelId →
      Claimed (roles ++ [request.start.role]) id tunnelId := by
    rintro id tunnelId ⟨session, member | member, names⟩
    · exact ⟨session, .inl (List.mem_append_left _ member), names⟩
    · exact ⟨session, .inr (List.mem_append_left _ member), names⟩
  have old : ∀ {other : Role μ}, other ∈ roles ++ [request.start.role] →
      other ≠ request.start.role → other ∈ roles := by
    intro other member differs
    rcases List.mem_append.mp member with before | new
    · exact before
    · exact absurd (List.mem_singleton.mp new) differs
  refine ⟨fun id => (known.once id).concat ?_, ?_, ?_, ?_, ?_, ?_, ?_⟩
  · rintro ⟨session, presents, rfl⟩
    exact fresh session presents
  · intro id session stored
    exact ⟨(known.stored stored).1, presented (known.stored stored).2⟩
  · intro tunnelId id indexed
    exact claimed (known.indexed indexed)
  · intro session evicted member
    obtain ⟨tunnelId, before⟩ := known.evicting (old member (by cases request <;> exact nofun))
    exact ⟨tunnelId, claimed before⟩
  · intro session member
    obtain ⟨before, absent⟩ := known.unindexing (old member (by cases request <;> exact nofun))
    exact ⟨presented before, absent⟩
  · intro tunnelId id member
    exact claimed (known.reading (old member (by cases request <;> exact nofun)))
  · intro tunnelId session member
    exact known.answered (old member (by cases request <;> exact nofun))

end Identified

end Advance

/-! ## Runs of the store -/

/-- The session a call presents to the store. -/
def Call.session? (call : Call μ) : Option (Session μ) :=
  call.role.session?

namespace StorePool

/-- The roles of the calls. -/
def roles (pool : StorePool μ) : List (Role μ) :=
  pool.calls.map Call.role

/-- A session presented to the store has an id that no call has presented yet. -/
def FreshIds (pool : StorePool μ) : StoreAction μ → Prop
  | .start request =>
      ∀ session ∈ request.start.session?, ∀ call ∈ pool.calls,
        ∀ other ∈ call.session?, other.id ≠ session.id
  | .advance _ _ => True

instance (pool : StorePool μ) : (action : StoreAction μ) → Decidable (pool.FreshIds action)
  | .start request =>
      inferInstanceAs (Decidable (∀ session ∈ request.start.session?, ∀ call ∈ pool.calls,
        ∀ other ∈ call.session?, _))
  | .advance _ _ => isTrue trivial

/-- A step makes a new call or performs a step of the role of one call. -/
theorem step_roles {pool after : StorePool μ} {action : StoreAction μ}
    (stepEq : pool.step action = some after) :
    (∃ request, action = .start request ∧ after.shared = pool.shared ∧
      after.roles = pool.roles ++ [request.start.role]) ∨
    (∃ k visited role role', action = .advance k visited ∧ pool.roles[k]? = some role ∧
      RoleStep pool.shared role after.shared role' ∧ after.roles = pool.roles.set k role') := by
  cases action with
  | start request =>
      obtain rfl := Pool.step_start stepEq
      exact .inl ⟨request, rfl, rfl, by simp only [roles, List.map_append, List.map_singleton]⟩
  | advance k visited =>
      obtain ⟨call, store, call', callAt, nextEq, rfl⟩ := Pool.step_advance stepEq
      refine .inr ⟨k, visited, call.role, call'.role, rfl, ?_, Call.next_role nextEq, ?_⟩
      · rw [roles, List.getElem?_map, callAt, Option.map_some]
      · simp only [roles, List.map_set]

/-- A fresh id is presented by no role. -/
theorem FreshIds.not_presents {pool : StorePool μ} {request : Request μ}
    (fresh : pool.FreshIds (.start request)) (session : Session μ)
    (presents : request.start.role.session? = some session) :
    ∀ role ∈ pool.roles, ¬ role.Presents session.id := by
  rintro role member ⟨other, otherPresents, sameId⟩
  obtain ⟨call, callMem, rfl⟩ := List.mem_map.mp member
  exact fresh session presents call callMem other otherPresents sameId

theorem identified_initial : Identified (initial : StorePool μ).shared initial.roles where
  once id := AtMostOne.nil _
  stored found := by simp [initial, SessionStore.new] at found
  indexed found := by simp [initial, SessionStore.new] at found
  evicting member := by simp [initial, roles] at member
  unindexing member := by simp [initial, roles] at member
  reading member := by simp [initial, roles] at member
  answered member := by simp [initial, roles] at member

theorem identified_step {pool after : StorePool μ} {action : StoreAction μ}
    (known : Identified pool.shared pool.roles) (fresh : pool.FreshIds action)
    (stepEq : pool.step action = some after) : Identified after.shared after.roles := by
  rcases step_roles stepEq with ⟨request, rfl, sharedEq, rolesEq⟩ |
    ⟨k, visited, role, role', -, roleAt, stepped, rolesEq⟩
  · rw [sharedEq, rolesEq]
    exact known.start request fresh.not_presents
  · rw [rolesEq]
    exact known.advance roleAt stepped

end StorePool

end FerroTunnel.Tunnel
