import FerroTunnel.Tunnel.Routing

/-!
# One owner per tunnel

Without replacements, a call that deletes an index entry always deletes that of
the session it removed, so no map operation disturbs another call, whatever the
interleaving.  Every stored session is then the one its tunnel leads to, and of
the calls that add a session for a free tunnel one succeeds.
-/

namespace FerroTunnel.Tunnel

open FerroTunnel.Transition
open FerroTunnel.Wire

variable {μ : Type}

/-- A call of `add_or_replace`. -/
def Call.isReplacement : Call μ → Bool
  | .addOrReplace _ | .addOrReplaceRemoveOld _ _ | .addOrReplaceIndex _ | .addOrReplaceInsert _
  | .addOrReplaceReturned _ => true
  | _ => false

/-- A call does not turn into a replacement. -/
theorem Call.next_isReplacement {store store' : SessionStore μ} {call call' : Call μ}
    {visited : Option Uuid} (nextEq : call.next store visited = some (store', call')) :
    call'.isReplacement = call.isReplacement := by
  cases call with
  | cleanupRemove count toRemove =>
      cases toRemove with
      | nil =>
          cases nextEq
          rfl
      | cons id rest =>
          simp only [Call.next] at nextEq
          split at nextEq <;> cases nextEq <;> rfl
  | _ =>
      simp only [Call.next] at nextEq
      repeat' split at nextEq
      all_goals cases nextEq
      all_goals rfl

/-- Only the first map operation of `add` can make it fail. -/
theorem Call.next_failed {store store' : SessionStore μ} {call : Call μ} {visited : Option Uuid}
    {session : Session μ} {error : SessionStoreError}
    (nextEq : call.next store visited = some (store', .addReturned session (.error error))) :
    call = .add session ∧ store' = store := by
  cases call with
  | add added =>
      simp only [Call.next] at nextEq
      split at nextEq
      · cases nextEq
        exact ⟨rfl, rfl⟩
      · cases nextEq
  | cleanupRemove count toRemove =>
      cases toRemove with
      | nil => cases nextEq
      | cons id rest =>
          simp only [Call.next] at nextEq
          split at nextEq <;> cases nextEq
  | _ =>
      simp only [Call.next] at nextEq
      repeat' split at nextEq
      all_goals cases nextEq

/-- A call in this role deletes the index entry of a session with the id. -/
def Role.Unindexes (id : Uuid) (role : Role μ) : Prop :=
  ∃ session, role = .unindexing session ∧ session.id = id

/-- A call in this role replaces a session. -/
def Role.replaces : Role μ → Bool
  | .replacing _ | .evicting _ _ | .indexing _ => true
  | _ => false

namespace RoleStep

variable {store store' : SessionStore μ} {role role' : Role μ}

theorem replaces_eq_false (stepped : RoleStep store role store' role')
    (keeps : role.replaces = false) : role'.replaces = false := by
  cases stepped with
  | evict | evictNone | evictSelf | removeOld => cases keeps
  | _ => rfl

/-- Without replacements, only the call that removed a session deletes an index
entry. -/
theorem indexed_kept (stepped : RoleStep store role store' role')
    (keeps : role.replaces = false) {tunnelId : String} {id : Uuid}
    (indexed : store.tunnelIndex.lookup tunnelId = some id) :
    store'.tunnelIndex.lookup tunnelId = some id ∨
    ∃ session, role = .unindexing session ∧ session.tunnelId = tunnelId := by
  cases stepped with
  | @claim session vacant =>
      have differs : tunnelId ≠ session.tunnelId := by
        rintro rfl
        rw [vacant] at indexed
        cases indexed
      exact .inl ((Finmap.lookup_insert_of_ne _ differs).trans indexed)
  | @unindex session =>
      by_cases same : tunnelId = session.tunnelId
      · exact .inr ⟨session, rfl, same.symm⟩
      · exact .inl ((Finmap.lookup_erase_ne same).trans indexed)
  | evict | evictSelf | index => cases keeps
  | _ => exact .inl indexed

end RoleStep

/-- Every call that deletes an index entry deletes that of the session it
removed, and no call replaces a session. -/
structure Owned (store : SessionStore μ) (roles : List (Role μ)) : Prop where
  unindexing : ∀ {session}, .unindexing session ∈ roles →
    store.tunnelIndex.lookup session.tunnelId = some session.id
  once : ∀ id, AtMostOne roles (Role.Unindexes id)
  keeps : ∀ role ∈ roles, role.replaces = false

namespace Owned

variable {store store' : SessionStore μ} {roles : List (Role μ)} {k : Nat} {role role' : Role μ}

/-- No operation disturbs another call. -/
theorem undisturbed (owned : Owned store roles) (member : role ∈ roles) :
    Undisturbed store roles role := by
  cases role with
  | unindexing session => exact .inr (owned.unindexing member)
  | indexing session | replacing session => cases owned.keeps _ member
  | _ => trivial

/-- A stored session is the one its tunnel leads to. -/
theorem indexed_of_stored (owned : Owned store roles) (routed : Routed store roles) {id : Uuid}
    {session : Session μ} (stored : store.sessions.lookup id = some session) :
    store.tunnelIndex.lookup session.tunnelId = some id := by
  rcases routed.stored stored with own | ⟨other, evicting⟩
  · exact own
  · cases owned.keeps _ evicting

theorem advance (owned : Owned store roles) (known : Identified store roles)
    (routed : Routed store roles) (roleAt : roles[k]? = some role)
    (stepped : RoleStep store role store' role') : Owned store' (roles.set k role') := by
  have keeps : role.replaces = false := owned.keeps role (List.mem_of_getElem? roleAt)
  constructor
  · intro session member
    obtain ⟨i, sessionAt⟩ := List.mem_iff_getElem?.mp member
    by_cases here : k = i
    · subst here
      rw [List.getElem?_set_self (List.getElem?_eq_some_iff.mp roleAt).1] at sessionAt
      cases sessionAt
      obtain ⟨id, stored, rfl⟩ := stepped.stored_of_unindexing
      have own := owned.indexed_of_stored routed stored
      rw [← (known.stored stored).1] at own
      exact own
    · rw [List.getElem?_set_ne here] at sessionAt
      have indexed := owned.unindexing (List.mem_of_getElem? sessionAt)
      rcases stepped.indexed_kept keeps indexed with kept | ⟨other, rfl, sameTunnel⟩
      · exact kept
      · have otherIndexed := owned.unindexing (List.mem_of_getElem? roleAt)
        rw [sameTunnel, indexed] at otherIndexed
        exact absurd (owned.once session.id roleAt sessionAt
          ⟨other, rfl, (Option.some.inj otherIndexed).symm⟩ ⟨session, rfl, rfl⟩) here
  · intro id
    refine (owned.once id).set roleAt ?_
    rintro ⟨session, rfl, rfl⟩
    obtain ⟨storedId, stored, -⟩ := stepped.stored_of_unindexing
    refine .inr ?_
    rintro other member ⟨removed, rfl, sameId⟩
    have absent := (known.unindexing member).2
    rw [sameId, (known.stored stored).1, stored] at absent
    cases absent
  · intro other member
    rcases List.mem_or_eq_of_mem_set member with before | rfl
    · exact owned.keeps other before
    · exact stepped.replaces_eq_false keeps

theorem start (owned : Owned store roles) {request : Request μ}
    (keeps : request.start.role.replaces = false) :
    Owned store (roles ++ [request.start.role]) := by
  have notUnindexing : ∀ session, request.start.role ≠ .unindexing session := by
    cases request <;> exact nofun
  constructor
  · intro session member
    rcases List.mem_append.mp member with before | new
    · exact owned.unindexing before
    · exact absurd (List.mem_singleton.mp new).symm (notUnindexing session)
  · intro id
    refine (owned.once id).concat ?_
    rintro ⟨session, unindexing, -⟩
    exact absurd unindexing (notUnindexing session)
  · intro other member
    rcases List.mem_append.mp member with before | new
    · exact owned.keeps other before
    · rw [List.mem_singleton.mp new]
      exact keeps

end Owned

/-! ## Runs without replacements -/

namespace StorePool

/-- The run makes no call of `add_or_replace`, and presents fresh ids. -/
def AddsFresh (pool : StorePool μ) : StoreAction μ → Prop
  | .start request => request.start.isReplacement = false ∧ pool.FreshIds (.start request)
  | .advance _ _ => True

instance (pool : StorePool μ) : (action : StoreAction μ) → Decidable (pool.AddsFresh action)
  | .start _ => inferInstanceAs (Decidable (_ ∧ _))
  | .advance _ _ => isTrue trivial

/-- What holds of the store and its calls in every run without replacements. -/
structure Settled (pool : StorePool μ) : Prop where
  known : Identified pool.shared pool.roles
  routed : Routed pool.shared pool.roles
  owned : Owned pool.shared pool.roles
  adds : ∀ call ∈ pool.calls, call.isReplacement = false

theorem settled_initial : (initial : StorePool μ).Settled where
  known := identified_initial
  routed := routed_initial
  owned :=
    { unindexing := fun member => by simp [initial, roles] at member
      once := fun _ => AtMostOne.nil _
      keeps := fun _ member => by simp [initial, roles] at member }
  adds := fun _ member => by simp [initial] at member

theorem role_replaces_of_isReplacement {call : Call μ} (adds : call.isReplacement = false) :
    call.role.replaces = false := by
  cases call with
  | addReturned session result => cases result <;> rfl
  | _ => first | rfl | cases adds

theorem Settled.step {pool after : StorePool μ} {action : StoreAction μ}
    (settled : pool.Settled) (fresh : pool.AddsFresh action)
    (stepEq : pool.step action = some after) : after.Settled := by
  cases action with
  | start request =>
      have undisturbed : pool.Undisturbed (.start request) := trivial
      refine ⟨identified_step settled.known fresh.2 stepEq,
        routed_step settled.routed settled.known undisturbed stepEq, ?_, ?_⟩
      · rcases step_roles stepEq with ⟨_, sameRequest, sharedEq, rolesEq⟩ | ⟨_, _, _, _, no, _⟩
        · cases sameRequest
          rw [sharedEq, rolesEq]
          exact settled.owned.start (role_replaces_of_isReplacement fresh.1)
        · cases no
      · obtain rfl := Pool.step_start stepEq
        intro call member
        rcases List.mem_append.mp member with before | new
        · exact settled.adds call before
        · rw [List.mem_singleton.mp new]
          exact fresh.1
  | advance k visited =>
      have undisturbed : pool.Undisturbed (.advance k visited) := fun role roleAt =>
        settled.owned.undisturbed (List.mem_of_getElem? roleAt)
      have noId : pool.FreshIds (.advance k visited) := trivial
      refine ⟨identified_step settled.known noId stepEq,
        routed_step settled.routed settled.known undisturbed stepEq, ?_, ?_⟩
      · rcases step_roles stepEq with ⟨_, no, _⟩ | ⟨_, _, _, _, _, roleAt, stepped, rolesEq⟩
        · cases no
        · rw [rolesEq]
          exact settled.owned.advance settled.known settled.routed roleAt stepped
      · obtain ⟨call, store, call', callAt, nextEq, rfl⟩ := Pool.step_advance stepEq
        intro other member
        rcases List.mem_or_eq_of_mem_set member with before | rfl
        · exact settled.adds other before
        · rw [Call.next_isReplacement nextEq]
          exact settled.adds call (List.mem_of_getElem? callAt)

/-- In every run without replacements. -/
theorem settled_run {pool : StorePool μ} {actions : List (StoreAction μ)}
    (run : exec step initial actions = some pool)
    (fresh : Meets step AddsFresh initial actions) : pool.Settled :=
  exec_invariant_of_meets Settled.step settled_initial fresh run

end StorePool

/-! ## Contending for a free tunnel -/

/-- A call in this role deletes the index entry of the tunnel. -/
def Role.unindexes (tunnelId : String) : Role μ → Bool
  | .unindexing session => session.tunnelId == tunnelId
  | _ => false

/-- The step leaves the index entry of the tunnel in place. -/
def StorePool.KeepsTunnel (tunnelId : String) (pool : StorePool μ) : StoreAction μ → Prop
  | .start _ => True
  | .advance k _ => ∀ role ∈ pool.roles[k]?, role.unindexes tunnelId = false

instance (tunnelId : String) (pool : StorePool μ) :
    (action : StoreAction μ) → Decidable (pool.KeepsTunnel tunnelId action)
  | .start _ => isTrue trivial
  | .advance k _ => inferInstanceAs (Decidable (∀ role ∈ pool.roles[k]?, _))

/-- A call in this role has taken the index entry for the session. -/
def Role.Claims (session : Session μ) (role : Role μ) : Prop :=
  role = .inserting session ∨ role = .presented session

/-- The call at `k` has taken the index entry of the tunnel since the roles were
`base`. -/
def NewClaim (base roles : List (Role μ)) (tunnelId : String) (k : Nat) : Prop :=
  ∃ role session, roles[k]? = some role ∧ role.Claims session ∧ session.tunnelId = tunnelId ∧
    base[k]? ≠ some (.presented session)

/-- The state of a contest for a tunnel that was free when the roles were `base`:
one call has taken its index entry, or none has and none was refused. -/
structure Contest (base : List (Role μ)) (tunnelId : String) (store : SessionStore μ)
    (roles : List (Role μ)) : Prop where
  vacant : store.tunnelIndex.lookup tunnelId = none → ∀ k, ¬ NewClaim base roles tunnelId k
  taken : store.tunnelIndex.lookup tunnelId ≠ none → ∃! k, NewClaim base roles tunnelId k
  refused : ∀ {k : Nat} {session : Session μ}, roles[k]? = some (.refused session) →
    session.tunnelId = tunnelId → base[k]? = some (.refused session) ∨
      store.tunnelIndex.lookup tunnelId ≠ none
  presented : ∀ {k : Nat} {session : Session μ}, base[k]? = some (.presented session) →
    roles[k]? = some (.presented session)

section Contest

variable {base roles : List (Role μ)} {tunnelId : String} {store store' : SessionStore μ}
  {j : Nat} {role role' : Role μ}

theorem newClaim_set_of_ne {k : Nat} (elsewhere : j ≠ k) :
    NewClaim base (roles.set j role') tunnelId k ↔ NewClaim base roles tunnelId k := by
  simp only [NewClaim, List.getElem?_set_ne elsewhere]

/-- A call that does not take the index entry of the tunnel leaves the new claims
as they are. -/
theorem newClaim_set_iff (roleAt : roles[j]? = some role)
    (same : ∀ session : Session μ, session.tunnelId = tunnelId →
      (role'.Claims session ↔ role.Claims session)) (k : Nat) :
    NewClaim base (roles.set j role') tunnelId k ↔ NewClaim base roles tunnelId k := by
  by_cases here : j = k
  · subst here
    have inside : j < roles.length := (List.getElem?_eq_some_iff.mp roleAt).1
    constructor
    · rintro ⟨found, session, foundAt, claims, sameTunnel, new⟩
      rw [List.getElem?_set_self inside] at foundAt
      cases foundAt
      exact ⟨role, session, roleAt, (same session sameTunnel).mp claims, sameTunnel, new⟩
    · rintro ⟨found, session, foundAt, claims, sameTunnel, new⟩
      rw [roleAt] at foundAt
      cases foundAt
      exact ⟨role', session, List.getElem?_set_self inside,
        (same session sameTunnel).mpr claims, sameTunnel, new⟩
  · exact newClaim_set_of_ne here

namespace Contest

/-- A tunnel that is free has no new claim. -/
theorem begins (routed : Routed store roles)
    (free : store.tunnelIndex.lookup tunnelId = none) : Contest roles tunnelId store roles where
  vacant _ := by
    rintro k ⟨role, session, roleAt, rfl | rfl, rfl, new⟩
    · have indexed := routed.inserting (List.mem_of_getElem? roleAt)
      rw [free] at indexed
      cases indexed
    · exact new roleAt
  taken occupied := absurd free occupied
  refused before _ := .inl before
  presented before := before

variable (contest : Contest base tunnelId store roles)

include contest

/-- What was presented before is so still. -/
theorem presented_set (roleAt : roles[j]? = some role)
    (notPresented : ∀ session, role ≠ .presented session) {k : Nat} {session : Session μ}
    (presentedAt : base[k]? = some (.presented session)) :
    (roles.set j role')[k]? = some (.presented session) := by
  have before := contest.presented presentedAt
  have differs : j ≠ k := by
    rintro rfl
    exact notPresented session (Option.some.inj (roleAt.symm.trans before))
  rw [List.getElem?_set_ne differs]
  exact before

/-- A step that neither takes nor deletes the index entry of the tunnel. -/
theorem of_same_claims (roleAt : roles[j]? = some role)
    (same : ∀ session : Session μ, session.tunnelId = tunnelId →
      (role'.Claims session ↔ role.Claims session))
    (notRefused : ∀ session, role' = .refused session → session.tunnelId = tunnelId →
      store.tunnelIndex.lookup tunnelId ≠ none)
    (kept : store'.tunnelIndex.lookup tunnelId = store.tunnelIndex.lookup tunnelId)
    (notPresented : ∀ session, role ≠ .presented session) :
    Contest base tunnelId store' (roles.set j role') where
  vacant free k := by
    rw [newClaim_set_iff roleAt same]
    exact contest.vacant (kept ▸ free) k
  taken occupied := by
    simp only [newClaim_set_iff roleAt same]
    exact contest.taken (kept ▸ occupied)
  refused {k session} refusedAt sameTunnel := by
    rw [kept]
    by_cases here : j = k
    · subst here
      rw [List.getElem?_set_self (List.getElem?_eq_some_iff.mp roleAt).1] at refusedAt
      exact .inr (notRefused session (Option.some.inj refusedAt) sameTunnel)
    · rw [List.getElem?_set_ne here] at refusedAt
      exact contest.refused refusedAt sameTunnel
  presented presentedAt := contest.presented_set roleAt notPresented presentedAt

/-- A call takes the index entry of the tunnel: it is the first to do so. -/
theorem claim {session : Session μ} (roleAt : roles[j]? = some (.adding session))
    (sameTunnel : session.tunnelId = tunnelId) (free : store.tunnelIndex.lookup tunnelId = none) :
    Contest base tunnelId (store.insertIndex session) (roles.set j (.inserting session)) := by
  have inside : j < roles.length := (List.getElem?_eq_some_iff.mp roleAt).1
  have occupied : (store.insertIndex session).tunnelIndex.lookup tunnelId ≠ none := by
    rw [← sameTunnel, SessionStore.insertIndex, Finmap.lookup_insert]
    exact Option.some_ne_none session.id
  have notPresented (other : Session μ) : Role.adding session ≠ .presented other := by
    intro same
    cases same
  refine ⟨fun vacant => absurd vacant occupied, fun _ => ⟨j, ?_, ?_⟩, fun _ _ => .inr occupied,
    fun presentedAt => contest.presented_set roleAt notPresented presentedAt⟩
  · refine ⟨_, session, List.getElem?_set_self inside, .inl rfl, sameTunnel, ?_⟩
    intro presentedAt
    cases roleAt.symm.trans (contest.presented presentedAt)
  · intro k claimed
    by_contra elsewhere
    exact contest.vacant free k ((newClaim_set_of_ne (Ne.symm elsewhere)).mp claimed)

theorem advance (known : Identified store roles) (roleAt : roles[j]? = some role)
    (keeps : role.replaces = false) (keepsTunnel : role.unindexes tunnelId = false)
    (stepped : RoleStep store role store' role') :
    Contest base tunnelId store' (roles.set j role') := by
  have notPresented := stepped.not_presented
  cases stepped with
  | @claim session vacant =>
      by_cases same : session.tunnelId = tunnelId
      · exact contest.claim roleAt same (same ▸ vacant)
      · refine contest.of_same_claims roleAt ?_ nofun
          (Finmap.lookup_insert_of_ne _ (Ne.symm same)) notPresented
        rintro other rfl
        have differs : session ≠ other := by
          rintro rfl
          exact same rfl
        simp [Role.Claims, differs]
  | claimAgain own =>
      exact absurd (known.indexed own)
        (known.not_claimed (List.mem_of_getElem? roleAt) rfl nofun nofun _)
  | insert =>
      exact contest.of_same_claims roleAt (by simp [Role.Claims]) nofun rfl notPresented
  | @unindex session =>
      have differs : session.tunnelId ≠ tunnelId := beq_eq_false_iff_ne.mp keepsTunnel
      exact contest.of_same_claims roleAt (by simp [Role.Claims]) nofun
        (Finmap.lookup_erase_ne differs.symm) notPresented
  | @refuse session owner taken other =>
      refine contest.of_same_claims roleAt (by simp [Role.Claims]) ?_ rfl notPresented
      rintro refused same rfl
      cases same
      rw [taken]
      exact nofun
  | evict | evictNone | evictSelf | removeOld | index => cases keeps
  | _ => exact contest.of_same_claims roleAt (by simp [Role.Claims]) nofun rfl notPresented

/-- A call that begins has taken no index entry. -/
theorem start (request : Request μ) :
    Contest base tunnelId store (roles ++ [request.start.role]) := by
  have old : ∀ {k : Nat} {found : Role μ}, found ≠ request.start.role →
      ((roles ++ [request.start.role])[k]? = some found ↔ roles[k]? = some found) := by
    intro k found differs
    rw [List.getElem?_append]
    split
    · rfl
    · rename_i outside
      rw [List.getElem?_eq_none (not_lt.mp outside)]
      constructor
      · intro foundAt
        exact absurd (List.mem_singleton.mp (List.mem_of_getElem? foundAt)) differs
      · exact nofun
  have claims : ∀ k, NewClaim base (roles ++ [request.start.role]) tunnelId k ↔
      NewClaim base roles tunnelId k := by
    intro k
    constructor
    · rintro ⟨found, session, foundAt, claims, rest⟩
      refine ⟨found, session, (old ?_).mp foundAt, claims, rest⟩
      rcases claims with rfl | rfl <;> cases request <;> exact nofun
    · rintro ⟨found, session, foundAt, claims, rest⟩
      refine ⟨found, session, (old ?_).mpr foundAt, claims, rest⟩
      rcases claims with rfl | rfl <;> cases request <;> exact nofun
  constructor
  · simp only [claims]
    exact contest.vacant
  · simp only [claims]
    exact contest.taken
  · intro k session refusedAt
    exact contest.refused ((old (by cases request <;> exact nofun)).mp refusedAt)
  · intro k session presentedAt
    exact (old (by cases request <;> exact nofun)).mpr (contest.presented presentedAt)

end Contest

end Contest

/-! ## The store as its callers see it -/

namespace StorePool

/-- The call at `k` has added its session for the tunnel. -/
def AddSucceeded (pool : StorePool μ) (tunnelId : String) (k : Nat) : Prop :=
  ∃ session, pool.calls[k]? = some (.addReturned session (.ok ())) ∧
    session.tunnelId = tunnelId

/-- The call at `k` was to add a session for the tunnel and has returned. -/
def AddReturned (pool : StorePool μ) (tunnelId : String) (k : Nat) : Prop :=
  ∃ session result, pool.calls[k]? = some (.addReturned session result) ∧
    session.tunnelId = tunnelId

/-- Some call that is to add a session for the tunnel has not returned. -/
def Adding (pool : StorePool μ) (tunnelId : String) : Prop :=
  ∃ session, (.add session ∈ pool.calls ∨ .addInsert session ∈ pool.calls) ∧
    session.tunnelId = tunnelId

theorem Quiescent.not_adding {pool : StorePool μ} (quiescent : pool.Quiescent)
    (tunnelId : String) : ¬ pool.Adding tunnelId := by
  rintro ⟨session, adding | inserting, -⟩
  · cases quiescent _ adding
  · cases quiescent _ inserting

/-- The contest for a tunnel goes on while its index entry is left in place. -/
theorem contest_run {pool after : StorePool μ} {actions : List (StoreAction μ)}
    {tunnelId : String} (settled : pool.Settled)
    (free : pool.shared.tunnelIndex.lookup tunnelId = none)
    (run : exec step pool actions = some after)
    (fresh : Meets step AddsFresh pool actions)
    (keeps : Meets step (KeepsTunnel tunnelId) pool actions) :
    after.Settled ∧ Contest pool.roles tunnelId after.shared after.roles := by
  have preserved : ∀ {current : StorePool μ} {action next},
      (current.Settled ∧ Contest pool.roles tunnelId current.shared current.roles) →
      (current.AddsFresh action ∧ current.KeepsTunnel tunnelId action) →
      current.step action = some next →
      next.Settled ∧ Contest pool.roles tunnelId next.shared next.roles := by
    rintro current action next ⟨settledNow, contest⟩ ⟨freshNow, keepsNow⟩ stepEq
    refine ⟨settledNow.step freshNow stepEq, ?_⟩
    rcases step_roles stepEq with ⟨request, rfl, sharedEq, rolesEq⟩ |
      ⟨k, visited, role, role', rfl, roleAt, stepped, rolesEq⟩
    · rw [sharedEq, rolesEq]
      exact contest.start request
    · rw [rolesEq]
      exact contest.advance settledNow.known roleAt
        (settledNow.owned.keeps role (List.mem_of_getElem? roleAt)) (keepsNow role roleAt) stepped
  exact exec_invariant_of_meets preserved ⟨settled, Contest.begins settled.routed free⟩
    (fresh.and keeps) run

theorem roles_getElem?_eq_some {pool : StorePool μ} {k : Nat} {role : Role μ} :
    pool.roles[k]? = some role ↔ ∃ call, pool.calls[k]? = some call ∧ call.role = role := by
  rw [roles, List.getElem?_map, Option.map_eq_some_iff]

namespace Settled

variable {pool : StorePool μ} {k : Nat} {session : Session μ}

theorem addInsert_of_inserting (settled : pool.Settled)
    (roleAt : pool.roles[k]? = some (.inserting session)) :
    pool.calls[k]? = some (.addInsert session) := by
  obtain ⟨call, callAt, roleEq⟩ := roles_getElem?_eq_some.mp roleAt
  have adds := settled.adds call (List.mem_of_getElem? callAt)
  cases call with
  | addInsert added =>
      cases roleEq
      exact callAt
  | addReturned added result => cases result <;> cases roleEq
  | addOrReplaceInsert added => cases adds
  | _ => cases roleEq

theorem addReturned_of_presented (settled : pool.Settled)
    (roleAt : pool.roles[k]? = some (.presented session)) :
    pool.calls[k]? = some (.addReturned session (.ok ())) := by
  obtain ⟨call, callAt, roleEq⟩ := roles_getElem?_eq_some.mp roleAt
  have adds := settled.adds call (List.mem_of_getElem? callAt)
  cases call with
  | addReturned added result =>
      cases result with
      | error => cases roleEq
      | ok =>
          cases roleEq
          exact callAt
  | addOrReplaceReturned added => cases adds
  | _ => cases roleEq

theorem addReturned_of_refused (roleAt : pool.roles[k]? = some (.refused session)) :
    ∃ error, pool.calls[k]? = some (.addReturned session (.error error)) := by
  obtain ⟨call, callAt, roleEq⟩ := roles_getElem?_eq_some.mp roleAt
  cases call with
  | addReturned added result =>
      cases result with
      | error error =>
          cases roleEq
          exact ⟨error, callAt⟩
      | ok => cases roleEq
  | _ => cases roleEq

/-- The new claims of a contest whose calls have returned are its successes. -/
theorem newClaim_iff {after : StorePool μ} {tunnelId : String} (settled : pool.Settled)
    (settledAfter : after.Settled)
    (contest : Contest pool.roles tunnelId after.shared after.roles)
    (done : ¬ after.Adding tunnelId) (k : Nat) :
    NewClaim pool.roles after.roles tunnelId k ↔
      after.AddSucceeded tunnelId k ∧ ¬ pool.AddSucceeded tunnelId k := by
  constructor
  · rintro ⟨role, session, roleAt, rfl | rfl, sameTunnel, new⟩
    · have callAt := settledAfter.addInsert_of_inserting roleAt
      exact absurd ⟨session, .inr (List.mem_of_getElem? callAt), sameTunnel⟩ done
    · refine ⟨⟨session, settledAfter.addReturned_of_presented roleAt, sameTunnel⟩, ?_⟩
      rintro ⟨before, callAt, -⟩
      have presentedBefore : pool.roles[k]? = some (.presented before) :=
        roles_getElem?_eq_some.mpr ⟨_, callAt, rfl⟩
      have still := contest.presented presentedBefore
      rw [roleAt] at still
      cases still
      exact new presentedBefore
  · rintro ⟨⟨session, callAt, sameTunnel⟩, new⟩
    refine ⟨.presented session, session, roles_getElem?_eq_some.mpr ⟨_, callAt, rfl⟩, .inr rfl,
      sameTunnel, ?_⟩
    intro presentedBefore
    exact new ⟨session, settled.addReturned_of_presented presentedBefore, sameTunnel⟩

end Settled

/-- Of the calls that add a session for a free tunnel one succeeds, while its
index entry is left in place. -/
theorem one_add_succeeds {pool after : StorePool μ} {actions : List (StoreAction μ)}
    {tunnelId : String} (settled : pool.Settled)
    (free : pool.shared.tunnelIndex.lookup tunnelId = none)
    (run : exec step pool actions = some after)
    (fresh : Meets step AddsFresh pool actions)
    (keeps : Meets step (KeepsTunnel tunnelId) pool actions)
    (returned : ∃ k, after.AddReturned tunnelId k ∧ ¬ pool.AddReturned tunnelId k)
    (done : ¬ after.Adding tunnelId) :
    ∃! k, after.AddSucceeded tunnelId k ∧ ¬ pool.AddSucceeded tunnelId k := by
  obtain ⟨settledAfter, contest⟩ := contest_run settled free run fresh keeps
  have claims := settled.newClaim_iff settledAfter contest done
  have taken : after.shared.tunnelIndex.lookup tunnelId ≠ none := by
    obtain ⟨k, ⟨session, result, callAt, sameTunnel⟩, new⟩ := returned
    cases result with
    | ok =>
        intro vacant
        refine contest.vacant vacant k ((claims k).mpr ⟨⟨session, callAt, sameTunnel⟩, ?_⟩)
        rintro ⟨before, beforeAt, tunnelEq⟩
        exact new ⟨before, _, beforeAt, tunnelEq⟩
    | error error =>
        have refusedAt : after.roles[k]? = some (.refused session) :=
          roles_getElem?_eq_some.mpr ⟨_, callAt, rfl⟩
        rcases contest.refused refusedAt sameTunnel with before | occupied
        · obtain ⟨_, beforeAt⟩ := Settled.addReturned_of_refused before
          exact absurd ⟨session, _, beforeAt, sameTunnel⟩ new
        · exact occupied
  exact (existsUnique_congr claims).mp (contest.taken taken)

/-- A call of `add` fails at its first map operation, which then changes
nothing. -/
theorem failed_add {pool after : StorePool μ} {action : StoreAction μ}
    (stepEq : pool.step action = some after) {k : Nat} {session : Session μ}
    {error : SessionStoreError}
    (failed : after.calls[k]? = some (.addReturned session (.error error)))
    (new : pool.calls[k]? ≠ some (.addReturned session (.error error))) :
    pool.calls[k]? = some (.add session) ∧ after.shared = pool.shared := by
  cases action with
  | start request =>
      obtain rfl := Pool.step_start stepEq
      refine absurd ?_ new
      rw [List.getElem?_append] at failed
      split at failed
      · exact failed
      · have started := List.mem_singleton.mp (List.mem_of_getElem? failed)
        cases request <;> cases started
  | advance j visited =>
      obtain ⟨call, store, call', callAt, nextEq, rfl⟩ := Pool.step_advance stepEq
      by_cases here : j = k
      · subst here
        rw [List.getElem?_set_self (List.getElem?_eq_some_iff.mp callAt).1] at failed
        cases failed
        obtain ⟨rfl, rfl⟩ := Call.next_failed nextEq
        exact ⟨callAt, rfl⟩
      · rw [List.getElem?_set_ne here] at failed
        exact absurd failed new

/-- Tunnel ownership.  In every run of `add`, `remove`, `cleanup_stale_sessions`,
lookups and heartbeats with fresh ids, in the state reached:

* each stored session is the one its tunnel leads to, so no two share a tunnel;
* a lookup by tunnel never yields a session of another tunnel;
* if a tunnel is free, then of the calls that add a session for it from here on,
  once they have returned, exactly one has succeeded, unless its index entry was
  deleted in the meantime;
* a call of `add` that fails changes neither map;
* when no call is in progress the two maps are inverse to each other. -/
theorem tunnel_ownership (pool : StorePool μ) (actions : List (StoreAction μ))
    (run : exec step initial actions = some pool)
    (fresh : Meets step AddsFresh initial actions) :
    (∀ id session, pool.shared.sessions.lookup id = some session →
      session.id = id ∧ pool.shared.tunnelIndex.lookup session.tunnelId = some id) ∧
    (∀ first second session other, pool.shared.sessions.lookup first = some session →
      pool.shared.sessions.lookup second = some other →
      session.tunnelId = other.tunnelId → first = second) ∧
    (∀ tunnelId session, .getByTunnelIdReturned tunnelId (some session) ∈ pool.calls →
      session.tunnelId = tunnelId) ∧
    (∀ tunnelId later after, pool.shared.tunnelIndex.lookup tunnelId = none →
      exec step pool later = some after → Meets step AddsFresh pool later →
      Meets step (KeepsTunnel tunnelId) pool later →
      (∃ k, after.AddReturned tunnelId k ∧ ¬ pool.AddReturned tunnelId k) →
      ¬ after.Adding tunnelId →
      ∃! k, after.AddSucceeded tunnelId k ∧ ¬ pool.AddSucceeded tunnelId k) ∧
    (∀ action after (k : Nat) session error, pool.step action = some after →
      after.calls[k]? = some (.addReturned session (.error error)) →
      pool.calls[k]? ≠ some (.addReturned session (.error error)) →
      pool.calls[k]? = some (.add session) ∧ after.shared = pool.shared) ∧
    (pool.Quiescent → pool.shared.MutuallyInverse) := by
  have settled := settled_run run fresh
  have owner : ∀ {id session}, pool.shared.sessions.lookup id = some session →
      pool.shared.tunnelIndex.lookup session.tunnelId = some id :=
    fun stored => settled.owned.indexed_of_stored settled.routed stored
  refine ⟨?_, ?_, ?_, ?_, ?_, ?_⟩
  · intro id session stored
    exact ⟨(settled.known.stored stored).1, owner stored⟩
  · intro first second session other firstStored secondStored sameTunnel
    have firstOwner := owner firstStored
    rw [sameTunnel, owner secondStored] at firstOwner
    exact (Option.some.inj firstOwner).symm
  · intro tunnelId session member
    exact settled.known.answered (List.mem_map.mpr ⟨_, member, rfl⟩)
  · intro tunnelId later after free laterRun laterFresh keeps returned done
    exact one_add_succeeds settled free laterRun laterFresh keeps returned done
  · intro action after k session error stepEq failed new
    exact failed_add stepEq failed new
  · exact mutuallyInverse_of_quiescent settled.routed

/-- Two clients that present the same tunnel, each with an id of its own. -/
def contenders : List (StoreAction Unit) :=
  [.start (.add ⟨1, "app", 0, [], none⟩), .start (.add ⟨2, "app", 0, [], none⟩),
   .advance 0 none, .advance 1 none, .advance 0 none]

theorem tunnel_ownership_contenders :
    ∃ after, exec step initial contenders = some after ∧ after.shared.MutuallyInverse ∧
      ∃! k, after.AddSucceeded "app" k ∧ ¬ (initial : StorePool Unit).AddSucceeded "app" k := by
  have fresh : Meets step AddsFresh initial contenders := by decide
  refine ⟨_, rfl, ?_, ?_⟩
  · obtain ⟨-, -, -, -, -, inverse⟩ := tunnel_ownership _ contenders rfl fresh
    exact inverse (by decide)
  · obtain ⟨-, -, -, oneSucceeds, -, -⟩ :=
      tunnel_ownership (initial : StorePool Unit) [] rfl trivial
    refine oneSucceeds "app" contenders _ rfl rfl fresh (by decide) ⟨0, ?_, ?_⟩ ?_
    · exact ⟨⟨1, "app", 0, [], none⟩, .ok (), rfl, rfl⟩
    · rintro ⟨_, _, absent, -⟩
      cases absent
    · exact Quiescent.not_adding (by decide) "app"

/-- The calls replace nothing, and an id that is presented again is presented for the
same tunnel. -/
def AddsForOneTunnel (pool : StorePool μ) : StoreAction μ → Prop
  | .start request => request.start.isReplacement = false ∧
      ∀ session ∈ request.start.session?, ∀ call ∈ pool.calls,
        ∀ other ∈ call.session?, other.id = session.id → other.tunnelId = session.tunnelId
  | .advance _ _ => True

instance (pool : StorePool μ) :
    (action : StoreAction μ) → Decidable (pool.AddsForOneTunnel action)
  | .start request =>
      inferInstanceAs (Decidable (_ ∧ ∀ session ∈ request.start.session?, ∀ call ∈ pool.calls,
        ∀ other ∈ call.session?, _ → _))
  | .advance _ _ => isTrue trivial

/-- A session is added again while it is removed: the second `add` keeps the index
entry that it finds, which is its own, and `remove` deletes that entry before the
session is stored. -/
def readds : List (StoreAction Unit) :=
  [.start (.add ⟨1, "app", 0, [], none⟩), .advance 0 none, .advance 0 none,
   .start (.remove 1), .advance 1 none,
   .start (.add ⟨1, "app", 0, [], none⟩), .advance 2 none,
   .advance 1 none, .advance 2 none]

/-- All calls have returned, and the tunnel of the stored session leads nowhere. -/
theorem readded_session_unreachable :
    Meets step AddsForOneTunnel initial readds ∧
    ∃ after, exec step initial readds = some after ∧ after.Quiescent ∧
      after.shared.sessions.lookup 1 = some ⟨1, "app", 0, [], none⟩ ∧
      after.shared.tunnelIndex.lookup "app" = none ∧ ¬ after.shared.MutuallyInverse := by
  refine ⟨by decide, _, rfl, by decide, rfl, rfl, ?_⟩
  intro inverse
  have indexed := (inverse "app" 1).mpr ⟨⟨1, "app", 0, [], none⟩, rfl, rfl⟩
  cases indexed

end StorePool

end FerroTunnel.Tunnel
