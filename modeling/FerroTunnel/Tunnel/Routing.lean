import FerroTunnel.Tunnel.Ownership

/-!
# Sessions and index entries that belong together

A stored session is routed by the index, unless a replacement is about to
delete it; an index entry leads to a stored session, or to one a call is about
to insert or has just deleted.  A map operation keeps this if it leaves alone
the index entry of a session that another call is at work on.
-/

namespace FerroTunnel.Tunnel

open FerroTunnel.Transition
open FerroTunnel.Wire

variable {μ : Type}

/-- Sessions and index entries belong together, up to calls in progress. -/
structure Routed (store : SessionStore μ) (roles : List (Role μ)) : Prop where
  stored : ∀ {id session}, store.sessions.lookup id = some session →
    store.tunnelIndex.lookup session.tunnelId = some id ∨ ∃ other, .evicting other id ∈ roles
  indexed : ∀ {tunnelId id}, store.tunnelIndex.lookup tunnelId = some id →
    (∃ session, store.sessions.lookup id = some session ∧ session.tunnelId = tunnelId) ∨
    (∃ session : Session μ, (.inserting session ∈ roles ∨ .unindexing session ∈ roles) ∧
      session.id = id ∧ session.tunnelId = tunnelId)
  inserting : ∀ {session}, .inserting session ∈ roles →
    store.tunnelIndex.lookup session.tunnelId = some session.id
  evicting : ∀ {session old}, .evicting session old ∈ roles →
    ∀ tunnelId, store.tunnelIndex.lookup tunnelId ≠ some old

/-- The session a call in this role is about to insert. -/
def Role.inserting? : Role μ → Option (Session μ)
  | .inserting session => some session
  | _ => none

/-- The next operation in this role leaves alone the index entry of a session
that another call is at work on:

* the index entry deleted with a removed session is not that of another session;
* a replacement writes its index entry where there is none;
* a replacement does not delete the index entry of a session still to be
  inserted. -/
def Undisturbed (store : SessionStore μ) (roles : List (Role μ)) : Role μ → Prop
  | .unindexing session =>
      store.tunnelIndex.lookup session.tunnelId = none ∨
        store.tunnelIndex.lookup session.tunnelId = some session.id
  | .indexing session => store.tunnelIndex.lookup session.tunnelId = none
  | .replacing session =>
      ∀ role ∈ roles, ∀ other ∈ role.inserting?,
        store.tunnelIndex.lookup session.tunnelId ≠ some other.id
  | _ => True

instance (store : SessionStore μ) (roles : List (Role μ)) :
    (role : Role μ) → Decidable (Undisturbed store roles role)
  | .unindexing _ => inferInstanceAs (Decidable (_ ∨ _))
  | .indexing session =>
      inferInstanceAs (Decidable (store.tunnelIndex.lookup session.tunnelId = none))
  | .replacing _ => inferInstanceAs (Decidable (∀ role ∈ roles, ∀ other ∈ role.inserting?, _))
  | .idle | .adding _ | .evicting _ _ | .inserting _ | .presented _ | .refused _ | .reading _ _
  | .answered _ _ => isTrue trivial

/-- A call in this role is at work on a session or an index entry. -/
def Role.atWork : Role μ → Bool
  | .inserting _ | .unindexing _ | .evicting _ _ => true
  | _ => false

section Roles

variable {roles : List (Role μ)} {k : Nat} {role role' other : Role μ}

theorem mem_set_of_inert (roleAt : roles[k]? = some role) (inert : role.atWork = false)
    (member : other ∈ roles) (busy : other.atWork = true) : other ∈ roles.set k role' := by
  refine mem_set_of_ne roleAt member ?_
  rintro rfl
  rw [inert] at busy
  cases busy

theorem mem_of_set_inert (inert : role'.atWork = false) (member : other ∈ roles.set k role')
    (busy : other.atWork = true) : other ∈ roles := by
  refine mem_of_mem_set member ?_
  rintro rfl
  rw [inert] at busy
  cases busy

end Roles

namespace Routed

variable {store : SessionStore μ} {roles : List (Role μ)} {k : Nat} {role role' : Role μ}

/-- A call that is not at work on anything may go on. -/
theorem of_inert (routed : Routed store roles) (roleAt : roles[k]? = some role)
    (inert : role.atWork = false) (inert' : role'.atWork = false) :
    Routed store (roles.set k role') where
  stored found := by
    rcases routed.stored found with own | ⟨other, member⟩
    · exact .inl own
    · exact .inr ⟨other, mem_set_of_inert roleAt inert member rfl⟩
  indexed found := by
    rcases routed.indexed found with stored | ⟨session, inserting | unindexing, names⟩
    · exact .inl stored
    · exact .inr ⟨session, .inl (mem_set_of_inert roleAt inert inserting rfl), names⟩
    · exact .inr ⟨session, .inr (mem_set_of_inert roleAt inert unindexing rfl), names⟩
  inserting member := routed.inserting (mem_of_set_inert inert' member rfl)
  evicting member := routed.evicting (mem_of_set_inert inert' member rfl)

variable {session : Session μ} (routed : Routed store roles)

include routed

/-- A call takes the index entry of a tunnel that has none. -/
theorem claim (known : Identified store roles) (roleAt : roles[k]? = some role)
    (inert : role.atWork = false) (unclaimed : ∀ tunnelId, ¬ Claimed roles session.id tunnelId)
    (vacant : store.tunnelIndex.lookup session.tunnelId = none) :
    Routed (store.insertIndex session) (roles.set k (.inserting session)) := by
  have inside : k < roles.length := (List.getElem?_eq_some_iff.mp roleAt).1
  have kept : ∀ {tunnelId id}, store.tunnelIndex.lookup tunnelId = some id →
      (store.insertIndex session).tunnelIndex.lookup tunnelId = some id := by
    intro tunnelId id found
    have differs : tunnelId ≠ session.tunnelId := by
      rintro rfl
      rw [vacant] at found
      cases found
    rw [SessionStore.insertIndex, Finmap.lookup_insert_of_ne _ differs, found]
  constructor
  · intro id found stored
    rcases routed.stored stored with own | ⟨other, member⟩
    · exact .inl (kept own)
    · exact .inr ⟨other, mem_set_of_inert roleAt inert member rfl⟩
  · intro tunnelId id indexed
    rcases Map.lookup_insert_cases indexed with ⟨rfl, rfl⟩ | before
    · exact .inr ⟨session, .inl (List.mem_set inside _), rfl, rfl⟩
    · rcases routed.indexed before with stored | ⟨other, inserting | unindexing, names⟩
      · exact .inl stored
      · exact .inr ⟨other, .inl (mem_set_of_inert roleAt inert inserting rfl), names⟩
      · exact .inr ⟨other, .inr (mem_set_of_inert roleAt inert unindexing rfl), names⟩
  · intro other member
    rcases List.mem_or_eq_of_mem_set member with before | new
    · exact kept (routed.inserting before)
    · cases new
      exact Finmap.lookup_insert _
  · intro other old member tunnelId indexed
    have before := mem_of_mem_set member nofun
    rcases Map.lookup_insert_cases indexed with ⟨-, rfl⟩ | indexedBefore
    · obtain ⟨claimedFor, claimed⟩ := known.evicting before
      exact unclaimed claimedFor claimed
    · exact routed.evicting before tunnelId indexedBefore

/-- A call inserts the session whose index entry it took. -/
theorem insert (known : Identified store roles) (roleAt : roles[k]? = some (.inserting session)) :
    Routed (store.insertSession session) (roles.set k (.presented session)) := by
  have member : .inserting session ∈ roles := List.mem_of_getElem? roleAt
  constructor
  · intro id found stored
    rcases Map.lookup_insert_cases stored with ⟨rfl, rfl⟩ | before
    · exact .inl (routed.inserting member)
    · rcases routed.stored before with own | ⟨other, evicting⟩
      · exact .inl own
      · exact .inr ⟨other, mem_set_of_ne roleAt evicting nofun⟩
  · intro tunnelId id indexed
    by_cases own : id = session.id
    · subst own
      refine .inl ⟨session, Finmap.lookup_insert _, ?_⟩
      exact known.tunnel_eq ⟨session, .inl member, rfl, rfl⟩ (known.indexed indexed)
    · rcases routed.indexed indexed with ⟨found, stored, tunnelEq⟩ |
        ⟨other, inserting | unindexing, idEq, tunnelEq⟩
      · exact .inl ⟨found, (Finmap.lookup_insert_of_ne _ own).trans stored, tunnelEq⟩
      · refine .inr ⟨other, .inl (mem_set_of_ne roleAt inserting ?_), idEq, tunnelEq⟩
        rintro same
        cases same
        exact own idEq.symm
      · exact .inr ⟨other, .inr (mem_set_of_ne roleAt unindexing nofun), idEq, tunnelEq⟩
  · intro other inserting
    exact routed.inserting (mem_of_mem_set inserting nofun)
  · intro other old evicting
    exact routed.evicting (mem_of_mem_set evicting nofun)

/-- A replacement deletes the index entry of a session that is stored or gone. -/
theorem evict (known : Identified store roles) {old : Uuid}
    (roleAt : roles[k]? = some (.replacing session))
    (taken : store.tunnelIndex.lookup session.tunnelId = some old)
    (settled : ∀ other, .inserting other ∈ roles → other.id ≠ old) :
    Routed (store.removeIndex session.tunnelId) (roles.set k (.evicting session old)) := by
  have inside : k < roles.length := (List.getElem?_eq_some_iff.mp roleAt).1
  constructor
  · intro id found stored
    rcases routed.stored stored with own | ⟨other, evicting⟩
    · by_cases same : found.tunnelId = session.tunnelId
      · rw [same, taken] at own
        cases own
        exact .inr ⟨session, List.mem_set inside _⟩
      · exact .inl ((Finmap.lookup_erase_ne same).trans own)
    · exact .inr ⟨other, mem_set_of_ne roleAt evicting nofun⟩
  · intro tunnelId id indexed
    rcases routed.indexed (Map.lookup_of_lookup_erase indexed) with stored |
      ⟨other, inserting | unindexing, names⟩
    · exact .inl stored
    · exact .inr ⟨other, .inl (mem_set_of_ne roleAt inserting nofun), names⟩
    · exact .inr ⟨other, .inr (mem_set_of_ne roleAt unindexing nofun), names⟩
  · intro other member
    have inserting := mem_of_mem_set member nofun
    have own := routed.inserting inserting
    refine (Finmap.lookup_erase_ne ?_).trans own
    intro same
    rw [same, taken] at own
    exact settled other inserting (Option.some.inj own).symm
  · intro other evicted member tunnelId indexed
    rcases List.mem_or_eq_of_mem_set member with before | new
    · exact routed.evicting before tunnelId (Map.lookup_of_lookup_erase indexed)
    · cases new
      refine Map.ne_of_lookup_erase indexed ?_
      exact known.tunnel_eq (known.indexed (Map.lookup_of_lookup_erase indexed))
        (known.indexed taken)

/-- A replacement deletes the session whose index entry it deleted. -/
theorem removeOld {old : Uuid} (roleAt : roles[k]? = some (.evicting session old)) :
    Routed (store.removeSession old) (roles.set k (.indexing session)) := by
  have member : .evicting session old ∈ roles := List.mem_of_getElem? roleAt
  constructor
  · intro id found stored
    have differs : id ≠ old := Map.ne_of_lookup_erase stored
    rcases routed.stored (Map.lookup_of_lookup_erase stored) with own | ⟨other, evicting⟩
    · exact .inl own
    · refine .inr ⟨other, mem_set_of_ne roleAt evicting ?_⟩
      intro same
      cases same
      exact differs rfl
  · intro tunnelId id indexed
    have differs : id ≠ old := by
      rintro rfl
      exact routed.evicting member tunnelId indexed
    rcases routed.indexed indexed with ⟨found, stored, tunnelEq⟩ |
      ⟨other, inserting | unindexing, names⟩
    · exact .inl ⟨found, (Finmap.lookup_erase_ne differs).trans stored, tunnelEq⟩
    · exact .inr ⟨other, .inl (mem_set_of_ne roleAt inserting nofun), names⟩
    · exact .inr ⟨other, .inr (mem_set_of_ne roleAt unindexing nofun), names⟩
  · intro other inserting
    exact routed.inserting (mem_of_mem_set inserting nofun)
  · intro other evicted evicting
    exact routed.evicting (mem_of_mem_set evicting nofun)

/-- A session is deleted; its index entry is next. -/
theorem take (known : Identified store roles) {id : Uuid} (roleAt : roles[k]? = some .idle)
    (stored : store.sessions.lookup id = some session) :
    Routed (store.removeSession id) (roles.set k (.unindexing session)) := by
  have inside : k < roles.length := (List.getElem?_eq_some_iff.mp roleAt).1
  constructor
  · intro other found storedAfter
    rcases routed.stored (Map.lookup_of_lookup_erase storedAfter) with own | ⟨_, evicting⟩
    · exact .inl own
    · exact .inr ⟨_, mem_set_of_ne roleAt evicting nofun⟩
  · intro tunnelId owner indexed
    rcases routed.indexed indexed with ⟨found, foundStored, tunnelEq⟩ |
      ⟨other, inserting | unindexing, names⟩
    · by_cases same : owner = id
      · subst same
        rw [stored] at foundStored
        cases foundStored
        exact .inr ⟨session, .inr (List.mem_set inside _), (known.stored stored).1, tunnelEq⟩
      · exact .inl ⟨found, (Finmap.lookup_erase_ne same).trans foundStored, tunnelEq⟩
    · exact .inr ⟨other, .inl (mem_set_of_ne roleAt inserting nofun), names⟩
    · exact .inr ⟨other, .inr (mem_set_of_ne roleAt unindexing nofun), names⟩
  · intro other inserting
    exact routed.inserting (mem_of_mem_set inserting nofun)
  · intro other evicted evicting
    exact routed.evicting (mem_of_mem_set evicting nofun)

/-- The index entry of a deleted session is deleted. -/
theorem unindex (known : Identified store roles) (roleAt : roles[k]? = some (.unindexing session))
    (own : store.tunnelIndex.lookup session.tunnelId = none ∨
      store.tunnelIndex.lookup session.tunnelId = some session.id) :
    Routed (store.removeIndex session.tunnelId) (roles.set k .idle) := by
  obtain ⟨presented, absent⟩ := known.unindexing (List.mem_of_getElem? roleAt)
  have owner_eq : ∀ {owner}, store.tunnelIndex.lookup session.tunnelId = some owner →
      owner = session.id := by
    intro owner indexed
    rcases own with vacant | owned
    · rw [vacant] at indexed
      cases indexed
    · exact Option.some.inj (indexed.symm.trans owned)
  constructor
  · intro id found stored
    rcases routed.stored stored with indexed | ⟨other, evicting⟩
    · refine .inl ((Finmap.lookup_erase_ne ?_).trans indexed)
      intro same
      rw [same] at indexed
      rw [owner_eq indexed] at stored
      cases absent.symm.trans stored
    · exact .inr ⟨other, mem_set_of_ne roleAt evicting nofun⟩
  · intro tunnelId id indexed
    rcases routed.indexed (Map.lookup_of_lookup_erase indexed) with stored |
      ⟨other, inserting | unindexing, idEq, tunnelEq⟩
    · exact .inl stored
    · exact .inr ⟨other, .inl (mem_set_of_ne roleAt inserting nofun), idEq, tunnelEq⟩
    · refine .inr ⟨other, .inr (mem_set_of_ne roleAt unindexing ?_), idEq, tunnelEq⟩
      intro same
      cases same
      exact Map.ne_of_lookup_erase indexed tunnelEq.symm
  · intro other member
    have inserting := mem_of_mem_set member nofun
    have indexed := routed.inserting inserting
    refine (Finmap.lookup_erase_ne ?_).trans indexed
    intro same
    rw [same] at indexed
    exact known.not_presented inserting _ (owner_eq indexed ▸ presented)
  · intro other evicted evicting tunnelId indexed
    exact routed.evicting (mem_of_mem_set evicting nofun) tunnelId
      (Map.lookup_of_lookup_erase indexed)

/-- A heartbeat changes neither the id nor the tunnel of a session. -/
theorem touch {id : Uuid} {now : Nat} (roleAt : roles[k]? = some .idle)
    (stored : store.sessions.lookup id = some session) :
    Routed { store with sessions := store.sessions.insert id (session.updateHeartbeat now) }
      (roles.set k .idle) := by
  have quiet : Routed store (roles.set k .idle) := routed.of_inert roleAt rfl rfl
  constructor
  · intro other found storedAfter
    rcases Map.lookup_insert_cases storedAfter with ⟨rfl, rfl⟩ | before
    · have kept := quiet.stored stored
      exact kept
    · exact quiet.stored before
  · intro tunnelId owner indexed
    rcases quiet.indexed indexed with ⟨found, foundStored, tunnelEq⟩ | atWork
    · by_cases same : owner = id
      · subst same
        rw [stored] at foundStored
        cases foundStored
        exact .inl ⟨_, Finmap.lookup_insert _, tunnelEq⟩
      · exact .inl ⟨found, (Finmap.lookup_insert_of_ne _ same).trans foundStored, tunnelEq⟩
    · exact .inr atWork
  · exact quiet.inserting
  · exact quiet.evicting

/-- An undisturbed map operation keeps sessions and index entries together. -/
theorem advance {store' : SessionStore μ} (known : Identified store roles)
    (roleAt : roles[k]? = some role) (undisturbed : Undisturbed store roles role)
    (stepped : RoleStep store role store' role') : Routed store' (roles.set k role') := by
  have member : role ∈ roles := List.mem_of_getElem? roleAt
  cases stepped with
  | quiet | refuse | evictNone | look | miss | answer => exact routed.of_inert roleAt rfl rfl
  | claim vacant =>
      exact routed.claim known roleAt rfl (known.not_claimed member rfl nofun nofun) vacant
  | claimAgain own | evictSelf own =>
      exact absurd (known.indexed own) (known.not_claimed member rfl nofun nofun _)
  | insert => exact routed.insert known roleAt
  | evict taken =>
      refine routed.evict known roleAt taken ?_
      rintro other inserting rfl
      exact undisturbed _ inserting other rfl taken
  | removeOld => exact routed.removeOld roleAt
  | index =>
      exact routed.claim known roleAt rfl (known.not_claimed member rfl nofun nofun) undisturbed
  | take stored => exact routed.take known roleAt stored
  | unindex => exact routed.unindex known roleAt undisturbed
  | touch stored => exact routed.touch roleAt stored

/-- A call that begins is not at work on anything. -/
theorem start (request : Request μ) : Routed store (roles ++ [request.start.role]) := by
  have inert : request.start.role.atWork = false := by cases request <;> rfl
  have old : ∀ {other : Role μ}, other ∈ roles ++ [request.start.role] →
      other.atWork = true → other ∈ roles := by
    intro other member busy
    rcases List.mem_append.mp member with before | new
    · exact before
    · rw [List.mem_singleton.mp new, inert] at busy
      cases busy
  constructor
  · intro id session stored
    rcases routed.stored stored with own | ⟨other, member⟩
    · exact .inl own
    · exact .inr ⟨other, List.mem_append_left _ member⟩
  · intro tunnelId id indexed
    rcases routed.indexed indexed with stored | ⟨session, inserting | unindexing, names⟩
    · exact .inl stored
    · exact .inr ⟨session, .inl (List.mem_append_left _ inserting), names⟩
    · exact .inr ⟨session, .inr (List.mem_append_left _ unindexing), names⟩
  · intro session member
    exact routed.inserting (old member rfl)
  · intro session evicted member
    exact routed.evicting (old member rfl)

end Routed

/-- The two maps are inverse to each other: each session is the one its tunnel
leads to, and each index entry leads to a session of its tunnel. -/
def SessionStore.MutuallyInverse (store : SessionStore μ) : Prop :=
  ∀ tunnelId id, store.tunnelIndex.lookup tunnelId = some id ↔
    ∃ session, store.sessions.lookup id = some session ∧ session.tunnelId = tunnelId

namespace StorePool

/-- A step of the store is undisturbed when its map operation is. -/
def Undisturbed (pool : StorePool μ) : StoreAction μ → Prop
  | .start _ => True
  | .advance k _ => ∀ role ∈ pool.roles[k]?, Tunnel.Undisturbed pool.shared pool.roles role

instance (pool : StorePool μ) : (action : StoreAction μ) → Decidable (pool.Undisturbed action)
  | .start _ => isTrue trivial
  | .advance k _ =>
      inferInstanceAs (Decidable (∀ role ∈ pool.roles[k]?, _))

theorem routed_initial : Routed (initial : StorePool μ).shared initial.roles where
  stored found := by simp [initial, SessionStore.new] at found
  indexed found := by simp [initial, SessionStore.new] at found
  inserting member := by simp [initial, roles] at member
  evicting member := by simp [initial, roles] at member

theorem routed_step {pool after : StorePool μ} {action : StoreAction μ}
    (routed : Routed pool.shared pool.roles) (known : Identified pool.shared pool.roles)
    (undisturbed : pool.Undisturbed action) (stepEq : pool.step action = some after) :
    Routed after.shared after.roles := by
  rcases step_roles stepEq with ⟨request, rfl, sharedEq, rolesEq⟩ |
    ⟨k, visited, role, role', rfl, roleAt, stepped, rolesEq⟩
  · rw [sharedEq, rolesEq]
    exact routed.start request
  · rw [rolesEq]
    exact routed.advance known roleAt (undisturbed role roleAt) stepped

/-- When no call is at work the maps are inverse to each other. -/
theorem mutuallyInverse_of_quiescent {pool : StorePool μ}
    (routed : Routed pool.shared pool.roles) (quiescent : pool.Quiescent) :
    pool.shared.MutuallyInverse := by
  have idle : ∀ role ∈ pool.roles, role.atWork = false := by
    intro role member
    obtain ⟨call, callMem, rfl⟩ := List.mem_map.mp member
    have returned := quiescent call callMem
    cases call with
    | addReturned session result => cases result <;> rfl
    | _ => first | rfl | cases returned
  intro tunnelId id
  constructor
  · intro indexed
    rcases routed.indexed indexed with stored | ⟨session, inserting | unindexing, -⟩
    · exact stored
    · cases idle _ inserting
    · cases idle _ unindexing
  · rintro ⟨session, stored, rfl⟩
    rcases routed.stored stored with own | ⟨other, evicting⟩
    · exact own
    · cases idle _ evicting

end StorePool

end FerroTunnel.Tunnel
