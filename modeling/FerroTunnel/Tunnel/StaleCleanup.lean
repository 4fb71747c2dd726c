import FerroTunnel.Tunnel.CleanupRuns
import FerroTunnel.Tunnel.Ownership
import FerroTunnel.Tunnel.ShardedCalls

/-!
# Only stale sessions are removed

`cleanup_stale_sessions` tests the heartbeat of a session in its first pass and
removes the session in its second, without testing again.  A heartbeat in
between is lost, and a session that is removed by somebody else in between is
counted although the cleanup does not remove it.  Where no other call changes a
session that a cleanup has listed, both stores remove stale sessions only and
count them right.
-/

namespace FerroTunnel.Tunnel

open FerroTunnel.Map
open FerroTunnel.Transition
open FerroTunnel.Wire

variable {μ : Type}

/-! ## The plain store -/

namespace Call

/-- What a call does as a cleanup. -/
def sweep : Call μ → Sweep Uuid
  | .cleanupScan _ _ toRemove => .scanning toRemove
  | .cleanupRemove count toRemove | .cleanupRemoveIndex _ count toRemove => .removing count toRemove
  | .cleanupReturned count => .returned count
  | _ => .bystander

/-- The time and the timeout of a scan. -/
def bounds : Call μ → Option (Nat × Nat)
  | .cleanupScan now timeout _ => some (now, timeout)
  | _ => none

/-- The id whose session the next operation inserts, updates or removes. -/
def writes (store : SessionStore μ) : Call μ → Option Uuid
  | .addInsert session => some session.id
  | .addOrReplaceRemoveOld _ oldSessionId => some oldSessionId
  | .addOrReplaceInsert session => some session.id
  | .updateHeartbeat id _ | .remove id | .cleanupRemove _ (id :: _) =>
      (store.sessions.lookup id).map fun _ => id
  | _ => none

/-- The session that the next operation of a cleanup removes. -/
def evicts (store : SessionStore μ) : Call μ → Option (Session μ)
  | .cleanupRemove _ (id :: _) => store.sessions.lookup id
  | _ => none

/-- The time that the next operation writes as a heartbeat. -/
def stamps (store : SessionStore μ) : Call μ → Option Nat
  | .updateHeartbeat id now => (store.sessions.lookup id).map fun _ => now
  | _ => none

end Call

/-- The plain store. -/
def SessionStore.model (μ : Type) : StoreModel (SessionStore μ) (Call μ) μ where
  initial := .new
  start := Request.start
  next store call visited := call.next store visited
  entry store id := store.sessions.lookup id
  view := Call.sweep
  bounds := Call.bounds
  writes := Call.writes
  evicts := Call.evicts
  stamps := Call.stamps

theorem SessionStore.lookup_erase (store : SessionStore μ) (id : Uuid) :
    (fun other => (store.removeSession id).sessions.lookup other) =
      Function.update (fun other => store.sessions.lookup other) id none := by
  funext other
  by_cases same : other = id
  · subst same
    rw [Function.update_self]
    exact Finmap.lookup_erase other store.sessions
  · rw [Function.update_of_ne same]
    exact Finmap.lookup_erase_ne same

variable {store store' : SessionStore μ} {visited : Option Uuid}

/-- The operations of a cleanup are those of a sweep. -/
theorem Call.sweepStep {call call' : Call μ}
    (nextEq : call.next store visited = some (store', call'))
    (once : ∀ id ∈ visited, call.bounds ≠ none → id ∉ call.sweep.listed) :
    SweepStep (fun session => ∃ now timeout, call.bounds = some (now, timeout) ∧
        Stale now timeout session)
      (fun id => store.sessions.lookup id) (fun id => store'.sessions.lookup id)
      call.sweep call'.sweep (call.evicts store) := by
  cases call with
  | cleanupScan now timeout toRemove =>
      cases visited with
      | none =>
          cases nextEq
          exact .turn rfl
      | some id =>
          simp only [Call.next] at nextEq
          split at nextEq
          · cases nextEq
          · next session found =>
            split at nextEq <;> cases nextEq
            · next stale =>
              exact .list rfl found ⟨now, timeout, rfl, stale⟩ (once id rfl (by simp [bounds]))
            · exact .stay rfl
  | cleanupRemove count toRemove =>
      cases toRemove with
      | nil =>
          cases nextEq
          exact .finish rfl
      | cons id rest =>
          simp only [Call.next] at nextEq
          split at nextEq <;> cases nextEq
          · next found =>
            simp only [evicts, found]
            exact .miss rfl found
          · next session found =>
            simp only [evicts, found]
            exact .take found (store.lookup_erase id)
  | cleanupRemoveIndex session count toRemove =>
      cases nextEq
      exact .stay rfl
  | _ =>
      simp only [Call.next] at nextEq
      repeat' split at nextEq
      all_goals cases nextEq
      all_goals exact .bystander

/-- The other sessions stay as they are. -/
theorem Call.lookup_of_next {call call' : Call μ}
    (nextEq : call.next store visited = some (store', call')) {id : Uuid}
    (unwritten : id ∉ call.writes store) :
    store'.sessions.lookup id = store.sessions.lookup id := by
  have differs {other : Uuid} (written : call.writes store = some other) : id ≠ other := by
    intro same
    exact unwritten (by rw [written, same]; rfl)
  cases call with
  | addInsert session | addOrReplaceInsert session =>
      cases nextEq
      exact Finmap.lookup_insert_of_ne _ (differs rfl)
  | addOrReplaceRemoveOld session oldSessionId =>
      cases nextEq
      exact Finmap.lookup_erase_ne (differs rfl)
  | add session =>
      simp only [Call.next, SessionStore.claimEntry] at nextEq
      split at nextEq
      · cases nextEq
        rfl
      · rename_i claimed claim
        cases nextEq
        repeat' split at claim
        all_goals cases claim
        all_goals rfl
  | updateHeartbeat other now =>
      simp only [Call.next] at nextEq
      split at nextEq <;> cases nextEq
      · rfl
      · next session found =>
        exact Finmap.lookup_insert_of_ne _ (differs (by simp only [writes, found, Option.map_some]))
  | remove other =>
      simp only [Call.next] at nextEq
      split at nextEq <;> cases nextEq
      · rfl
      · next session found =>
        exact Finmap.lookup_erase_ne (differs (by simp only [writes, found, Option.map_some]))
  | cleanupRemove count toRemove =>
      cases toRemove with
      | nil =>
          cases nextEq
          rfl
      | cons other rest =>
          simp only [Call.next] at nextEq
          split at nextEq <;> cases nextEq
          · rfl
          · next session found =>
            exact Finmap.lookup_erase_ne (differs (by simp only [writes, found, Option.map_some]))
  | _ =>
      simp only [Call.next] at nextEq
      repeat' split at nextEq
      all_goals cases nextEq
      all_goals rfl

/-- A scan goes on with its bounds. -/
theorem Call.bounds_of_next {call call' : Call μ} {scan : Nat × Nat}
    (nextEq : call.next store visited = some (store', call')) (scans : call'.bounds = some scan) :
    call.bounds = some scan := by
  revert nextEq
  fun_cases Call.next store visited call
  all_goals rintro ⟨⟩
  all_goals first | exact scans | cases scans

theorem SessionStore.lawful (μ : Type) :
    (SessionStore.model μ).Lawful (fun _ => True) (fun _ => True) fun _ => True where
  initial := trivial
  start _ := trivial
  fresh request := by
    cases request with
    | cleanupStaleSessions => exact .inr rfl
    | _ => exact .inl rfl
  bounds_start {request} _ _ scans := by
    cases request with
    | cleanupStaleSessions =>
        cases scans
        rfl
    | _ => cases scans
  bounds_next nextEq _ scans := Call.bounds_of_next nextEq scans
  keeps _ _ _ := ⟨trivial, trivial⟩
  unwritten nextEq _ unwritten := Call.lookup_of_next nextEq unwritten
  sweeps _ _ nextEq once := Call.sweepStep nextEq once

/-! ## The sharded store -/

namespace ShardedCall

variable {n : Nat}

/-- What a call does as a cleanup, where `place` gives the shard of an id.  An id that
was not found in its shard is not looked for any more. -/
def sweep (place : Uuid → Fin n) : ShardedCall μ n → Sweep Uuid
  | .cleanupScan _ _ _ toRemove => .scanning toRemove
  | .cleanupRemove count [] _ => .removing count []
  | .cleanupRemove count (id :: toRemove) shard =>
      if shard ≤ place id then .removing count (id :: toRemove) else .removing count toRemove
  | .cleanupRemoveIndex _ _ count toRemove => .removing count toRemove
  | .cleanupReturned count => .returned count
  | _ => .bystander

/-- The time and the timeout of a scan. -/
def bounds : ShardedCall μ n → Option (Nat × Nat)
  | .cleanupScan now timeout _ _ => some (now, timeout)
  | _ => none

/-- The id whose session the next operation inserts, updates or removes. -/
def writes (store : ShardedSessionStore μ n) : ShardedCall μ n → Option Uuid
  | .inShard i call => call.writes (store.shards i)
  | .updateHeartbeat id _ shard | .remove id shard | .cleanupRemove _ (id :: _) shard =>
      if inside : shard < n then ((store.shards ⟨shard, inside⟩).get id).map fun _ => id
      else none
  | _ => none

/-- The session that the next operation of a cleanup removes. -/
def evicts (store : ShardedSessionStore μ n) : ShardedCall μ n → Option (Session μ)
  | .cleanupRemove _ (id :: _) shard =>
      if inside : shard < n then (store.shards ⟨shard, inside⟩).get id else none
  | _ => none

/-- The time that the next operation writes as a heartbeat. -/
def stamps (store : ShardedSessionStore μ n) : ShardedCall μ n → Option Nat
  | .updateHeartbeat id now shard =>
      if inside : shard < n then ((store.shards ⟨shard, inside⟩).get id).map fun _ => now
      else none
  | _ => none

/-- Sessions are in the shard of their id. -/
def Placed (place : Uuid → Fin n) (store : ShardedSessionStore μ n) : Prop :=
  ∀ ⦃i id session⦄, (store.shards i).get id = some session → place id = i

/-- The session that a call presents goes into the shard of its id. -/
def Places (place : Uuid → Fin n) : ShardedCall μ n → Prop
  | .inShard i call => ∀ session ∈ call.session?, place session.id = i
  | _ => True

variable {place : Uuid → Fin n} {store store' : ShardedSessionStore μ n}
  {call call' : ShardedCall μ n} {visited : Option Uuid}

theorem sweep_cleanupRemove (place : Uuid → Fin n) (count : Nat) (toRemove : List Uuid) :
    (cleanupRemove count toRemove 0 : ShardedCall μ n).sweep place = .removing count toRemove := by
  cases toRemove with
  | nil => rfl
  | cons id rest => rw [sweep, if_pos (Nat.zero_le _)]

theorem Placed.entry (placed : Placed place store) {i : Fin n} {id : Uuid} {session : Session μ}
    (found : (store.shards i).get id = some session) :
    (store.shards (place id)).get id = some session := by
  rw [placed found]
  exact found

/-- A session in its shard, or what is left of it, is put there. -/
theorem Placed.set (placed : Placed place store) {i : Fin n} {shard : SessionShard μ}
    (inPlace : ∀ {id session}, shard.get id = some session → place id = i) :
    Placed place (store.set i shard) := by
  intro j id session found
  by_cases here : j = i
  · subst here
    rw [ShardedSessionStore.shards_set] at found
    exact inPlace found
  · have kept : (store.set i shard).shards j = store.shards j := Function.update_of_ne here _ _
    rw [kept] at found
    exact placed found

/-- A shard that has the same session under the id leaves its entries as they are. -/
theorem get_set {i j : Fin n} {shard : SessionShard μ} {id : Uuid}
    (same : shard.get id = (store.shards i).get id) :
    ((store.set i shard).shards j).get id = (store.shards j).get id := by
  by_cases here : j = i
  · rw [here, ShardedSessionStore.shards_set, same]
  · have kept : (store.set i shard).shards j = store.shards j := Function.update_of_ne here _ _
    rw [kept]

/-- The removal of a session takes its entry away. -/
theorem entry_removeSession {id : Uuid} :
    (fun other => ((store.set (place id)
        ((store.shards (place id)).removeSession id)).shards (place other)).get other) =
      Function.update (fun other => (store.shards (place other)).get other) id none := by
  funext other
  by_cases same : other = id
  · subst same
    rw [Function.update_self, ShardedSessionStore.shards_set]
    exact Finmap.lookup_erase ..
  · rw [Function.update_of_ne same]
    by_cases here : place other = place id
    · rw [here, ShardedSessionStore.shards_set]
      exact Finmap.lookup_erase_ne same
    · have kept : (store.set (place id) ((store.shards (place id)).removeSession id)).shards
          (place other) = store.shards (place other) := Function.update_of_ne here _ _
      rw [kept]

/-- The second pass, at one id in one shard. -/
theorem sweepStep_cleanupRemove (placed : Placed place store) {count : Nat} {id : Uuid}
    {toRemove : List Uuid} {shard : Nat} {old : Session μ → Prop}
    (nextEq : (cleanupRemove count (id :: toRemove) shard).next store visited =
      some (store', call')) :
    SweepStep old (fun id => (store.shards (place id)).get id)
      (fun id => (store'.shards (place id)).get id)
      ((cleanupRemove count (id :: toRemove) shard : ShardedCall μ n).sweep place)
      (call'.sweep place) ((cleanupRemove count (id :: toRemove) shard).evicts store) := by
  simp only [next] at nextEq
  by_cases inside : shard < n
  · simp only [inside, dif_pos, evicts] at nextEq ⊢
    cases found : (store.shards ⟨shard, inside⟩).get id with
    | none =>
        simp only [found] at nextEq
        cases nextEq
        rcases Nat.lt_trichotomy shard (place id) with before | here | behind
        · rw [sweep, sweep, if_pos (Nat.le_of_lt before), if_pos (Nat.succ_le_of_lt before)]
          exact .stay rfl
        · have absent : (store.shards (place id)).get id = none := by
            rw [← found]
            exact congrArg (fun i => (store.shards i).get id) (Fin.ext here.symm)
          rw [sweep, sweep, if_pos (Nat.le_of_eq here), if_neg (by omega)]
          exact .miss rfl absent
        · rw [sweep, sweep, if_neg (by omega), if_neg (by omega)]
          exact .stay rfl
    | some session =>
        simp only [found] at nextEq
        cases nextEq
        have here : place id = ⟨shard, inside⟩ := placed found
        have found' := placed.entry found
        rw [sweep, sweep, if_pos (by rw [here]), ← here]
        exact .take found' entry_removeSession
  · simp only [inside, dif_neg, not_false_eq_true, evicts] at nextEq ⊢
    cases nextEq
    have behind : ¬ shard ≤ place id := by
      have := (place id).isLt
      omega
    rw [sweep_cleanupRemove, sweep, if_neg behind]
    exact .stay rfl

/-- The operations of a cleanup are those of a sweep. -/
theorem sweepStep (placed : Placed place store)
    (nextEq : call.next store visited = some (store', call'))
    (once : ∀ id ∈ visited, call.bounds ≠ none → id ∉ (call.sweep place).listed) :
    SweepStep (fun session => ∃ now timeout, call.bounds = some (now, timeout) ∧
        Stale now timeout session)
      (fun id => (store.shards (place id)).get id) (fun id => (store'.shards (place id)).get id)
      (call.sweep place) (call'.sweep place) (call.evicts store) := by
  cases call with
  | inShard i call =>
      obtain ⟨result, -, same⟩ := Option.map_eq_some_iff.mp nextEq
      cases same
      exact .bystander
  | updateHeartbeat id now shard | remove id shard =>
      simp only [next] at nextEq
      repeat' split at nextEq
      all_goals cases nextEq
      all_goals exact .bystander
  | removeIndex i session =>
      cases nextEq
      exact .bystander
  | cleanupScan now timeout shard toRemove =>
      simp only [next] at nextEq
      split at nextEq
      · split at nextEq
        · cases nextEq
          exact .stay rfl
        · next id =>
          split at nextEq
          · cases nextEq
          · next session found =>
            split at nextEq <;> cases nextEq
            · next stale =>
              exact .list rfl (placed.entry found) ⟨now, timeout, rfl, stale⟩
                (once id rfl (by simp [bounds]))
            · exact .stay rfl
      · cases nextEq
        rw [sweep_cleanupRemove]
        exact .turn rfl
  | cleanupRemove count toRemove shard =>
      cases toRemove with
      | nil =>
          cases nextEq
          exact .finish rfl
      | cons id rest => exact sweepStep_cleanupRemove placed nextEq
  | cleanupRemoveIndex i session count toRemove =>
      cases nextEq
      rw [sweep_cleanupRemove]
      exact .stay (funext fun id => get_set rfl)
  | updateHeartbeatReturned _ | removeReturned _ | cleanupReturned _ => cases nextEq

/-- A scan goes on with its bounds. -/
theorem bounds_of_next {scan : Nat × Nat}
    (nextEq : call.next store visited = some (store', call'))
    (scans : call'.bounds = some scan) : call.bounds = some scan := by
  revert nextEq
  fun_cases next store visited call
  case case1 i call =>
    intro nextEq
    obtain ⟨result, -, same⟩ := Option.map_eq_some_iff.mp nextEq
    cases same
    cases scans
  all_goals rintro ⟨⟩
  all_goals first | exact scans | cases scans

/-- What an operation does to the shards. -/
inductive ShardMove (store : ShardedSessionStore μ n) (call : ShardedCall μ n) :
    ShardedSessionStore μ n → Prop
  | idle : ShardMove store call store
  | within {i inner visited shard after} (callEq : call = .inShard i inner)
      (nextEq : inner.next (store.shards i) visited = some (shard, after)) :
      ShardMove store call (store.set i shard)
  | touch {i id session now} (found : (store.shards i).get id = some session)
      (writes : call.writes store = some id) :
      ShardMove store call (store.set i { store.shards i with
        sessions := (store.shards i).sessions.insert id (session.updateHeartbeat now) })
  | remove {i id session} (found : (store.shards i).get id = some session)
      (writes : call.writes store = some id) :
      ShardMove store call (store.set i ((store.shards i).removeSession id))
  | unindex (i : Fin n) (tunnelId : String) :
      ShardMove store call (store.set i ((store.shards i).removeIndex tunnelId))

theorem next_move (nextEq : call.next store visited = some (store', call')) :
    ShardMove store call store' := by
  cases call with
  | inShard i inner =>
      obtain ⟨⟨shard, after⟩, innerEq, same⟩ := Option.map_eq_some_iff.mp nextEq
      cases same
      exact .within rfl innerEq
  | updateHeartbeat id now shard =>
      simp only [next] at nextEq
      split at nextEq
      · next inside =>
        simp only [SessionStore.updateHeartbeat] at nextEq
        cases found : (store.shards ⟨shard, inside⟩).get id with
        | none =>
            simp only [found] at nextEq
            cases nextEq
            exact .idle
        | some session =>
            simp only [found] at nextEq
            cases nextEq
            exact .touch found (by simp only [writes, inside, dif_pos, found, Option.map_some])
      · cases nextEq
        exact .idle
  | remove id shard =>
      simp only [next] at nextEq
      split at nextEq
      · next inside =>
        split at nextEq <;> cases nextEq
        · exact .idle
        · next session found =>
          exact .remove found (by simp only [writes, inside, dif_pos, found, Option.map_some])
      · cases nextEq
        exact .idle
  | removeIndex i session | cleanupRemoveIndex i session count toRemove =>
      cases nextEq
      exact .unindex i session.tunnelId
  | cleanupScan now timeout shard toRemove =>
      simp only [next] at nextEq
      repeat' split at nextEq
      all_goals cases nextEq
      all_goals exact .idle
  | cleanupRemove count toRemove shard =>
      cases toRemove with
      | nil =>
          cases nextEq
          exact .idle
      | cons id rest =>
          simp only [next] at nextEq
          split at nextEq
          · next inside =>
            split at nextEq <;> cases nextEq
            · exact .idle
            · next session found =>
              exact .remove found (by simp only [writes, inside, dif_pos, found, Option.map_some])
          · cases nextEq
            exact .idle
  | updateHeartbeatReturned _ | removeReturned _ | cleanupReturned _ => cases nextEq

/-- The other sessions stay as they are. -/
theorem ShardMove.get_eq (move : ShardMove store call store') {id : Uuid}
    (unwritten : id ∉ call.writes store) (i : Fin n) :
    (store'.shards i).get id = (store.shards i).get id := by
  have differs {other : Uuid} (written : call.writes store = some other) : id ≠ other := by
    intro same
    exact unwritten (by rw [written, same]; rfl)
  cases move with
  | idle => rfl
  | within callEq nextEq =>
      subst callEq
      exact get_set (Call.lookup_of_next nextEq unwritten)
  | touch found writes => exact get_set (Finmap.lookup_insert_of_ne _ (differs writes))
  | remove found writes => exact get_set (Finmap.lookup_erase_ne (differs writes))
  | unindex i tunnelId => exact get_set rfl

/-- The operations keep every session in the shard of its id. -/
theorem ShardMove.placed (move : ShardMove store call store') (placed : Placed place store)
    (places : call.Places place) : Placed place store' := by
  cases move with
  | idle => exact placed
  | within callEq nextEq =>
      subst callEq
      apply placed.set
      intro id session found
      rcases (Call.next_role nextEq).stored_cases found with
        ⟨before, stored, -⟩ | ⟨inserting, -, rfl⟩
      · exact placed stored
      · exact places session (by rw [Call.session?, inserting]; rfl)
  | touch found _ =>
      apply placed.set
      intro other session stored
      rcases Map.lookup_insert_cases stored with ⟨rfl, -⟩ | before
      · exact placed found
      · exact placed before
  | remove _ _ =>
      apply placed.set
      intro other session stored
      exact placed (Map.lookup_of_lookup_erase stored)
  | unindex i tunnelId =>
      apply placed.set
      intro id session stored
      exact placed stored

/-- A call goes on presenting its session to the same shard. -/
theorem places_next (places : call.Places place)
    (nextEq : call.next store visited = some (store', call')) : call'.Places place := by
  revert nextEq
  fun_cases next store visited call
  case case1 i inner =>
    intro nextEq
    obtain ⟨⟨shard, after⟩, innerEq, same⟩ := Option.map_eq_some_iff.mp nextEq
    cases same
    intro session presented
    rw [Call.session?, (Call.next_role innerEq).session?_eq] at presented
    exact places session presented
  all_goals rintro ⟨⟩
  all_goals trivial

end ShardedCall

/-- The sharded store, where `name` gives the tunnel id of a session id. -/
def ShardedSessionStore.model (μ : Type) (n : Nat) [NeZero n] (hash : String → Nat)
    (name : Uuid → String) : StoreModel (ShardedSessionStore μ n) (ShardedCall μ n) μ where
  initial := .withShards n
  start := ShardedCall.start hash
  next store call visited := call.next store visited
  entry store id := (store.shards (shardIndex hash n (name id))).get id
  view := ShardedCall.sweep fun id => shardIndex hash n (name id)
  bounds := ShardedCall.bounds
  writes := ShardedCall.writes
  evicts := ShardedCall.evicts
  stamps := ShardedCall.stamps

/-- A session is presented with the tunnel id that its id stands for. -/
def Request.Names (name : Uuid → String) (request : Request μ) : Prop :=
  ∀ session ∈ request.start.session?, session.tunnelId = name session.id

instance (name : Uuid → String) (request : Request μ) : Decidable (request.Names name) :=
  inferInstanceAs (Decidable (∀ session ∈ request.start.session?, _))

theorem ShardedSessionStore.lawful (μ : Type) (n : Nat) [NeZero n] (hash : String → Nat)
    (name : Uuid → String) :
    (ShardedSessionStore.model μ n hash name).Lawful (Request.Names name)
      (ShardedCall.Placed fun id => shardIndex hash n (name id))
      (ShardedCall.Places fun id => shardIndex hash n (name id)) where
  initial _ _ _ found := by simp [ShardedSessionStore.model, withShards, SessionStore.get,
    SessionStore.new] at found
  start {request} names := by
    cases request with
    | add session | addOrReplace session =>
        intro presented same
        cases same
        exact congrArg (shardIndex hash n) (names session rfl).symm
    | getByTunnelId tunnelId =>
        intro presented same
        cases same
    | _ => trivial
  fresh request := by
    cases request with
    | cleanupStaleSessions => exact .inr rfl
    | _ => exact .inl rfl
  bounds_start {request} _ _ scans := by
    cases request with
    | cleanupStaleSessions =>
        cases scans
        rfl
    | _ => cases scans
  bounds_next nextEq _ scans := ShardedCall.bounds_of_next nextEq scans
  unwritten nextEq _ unwritten := (ShardedCall.next_move nextEq).get_eq unwritten _
  keeps placed places nextEq :=
    ⟨(ShardedCall.next_move nextEq).placed placed places, ShardedCall.places_next places nextEq⟩
  sweeps placed _ nextEq once := ShardedCall.sweepStep placed nextEq once

/-! ## Runs of both stores -/

/-- In every run of the plain store, and in every run of the sharded store in which no
session id is presented with two tunnel ids, whose steps change no session that a
running cleanup has listed for removal: every session that a cleanup has removed was
stale when it was removed, and every cleanup has returned the number of sessions it
removed. -/
theorem only_stale_removed (μ : Type) :
    (∀ (actions : List (WatchedAction μ)) (state : Watched (SessionStore μ) (Call μ) μ),
      let model := SessionStore.model μ
      exec model.step model.watch actions = some state →
      Meets model.step model.IteratesOnce model.watch actions →
      Meets model.step model.Spares model.watch actions →
      state.OnlyStale ∧ state.CountsRemoved model) ∧
    ∀ (n : Nat) [NeZero n] (hash : String → Nat) (name : Uuid → String)
      (actions : List (WatchedAction μ))
      (state : Watched (ShardedSessionStore μ n) (ShardedCall μ n) μ),
      let model := ShardedSessionStore.model μ n hash name
      exec model.step model.watch actions = some state →
      Meets model.step (StoreModel.Admits (Request.Names name)) model.watch actions →
      Meets model.step model.IteratesOnce model.watch actions →
      Meets model.step model.Spares model.watch actions →
      state.OnlyStale ∧ state.CountsRemoved model := by
  constructor
  · intro actions state model run once spares
    have admitted : Meets model.step (StoreModel.Admits fun _ => True) model.watch actions := by
      apply Meets.of_forall
      intro current action
      cases action <;> trivial
    exact Watched.onlyStale_run (SessionStore.lawful μ) run admitted once spares
  · intro n _ hash name actions state model run admitted once spares
    exact Watched.onlyStale_run (ShardedSessionStore.lawful μ n hash name) run admitted once spares

/-- Two sessions are added; one falls silent, and a cleanup finds it stale. -/
def silentSession : List (WatchedAction Unit) :=
  [.start (.add ⟨1, "app", 0, [], none⟩), .advance 0 none, .advance 0 none,
   .start (.add ⟨2, "web", 0, [], none⟩), .advance 1 none, .advance 1 none,
   .wait 100, .start (.updateHeartbeat 2 100)]

/-- A cleanup of the plain store, while the other session sends a heartbeat. -/
def orderlyCleanup : List (WatchedAction Unit) :=
  silentSession ++ [.start (.cleanupStaleSessions 100 30), .advance 3 (some 1),
    .advance 2 none, .advance 3 (some 2), .advance 3 none, .advance 3 none, .advance 3 none,
    .advance 3 none]

/-- The tunnels of the two sessions. -/
def tunnelOf (id : Uuid) : String :=
  if id = 1 then "app" else "web"

/-- The two sessions in two shards. -/
def twoShards : StoreModel (ShardedSessionStore Unit 2) (ShardedCall Unit 2) Unit :=
  ShardedSessionStore.model Unit 2 (fun tunnelId => if tunnelId = "app" then 0 else 1) tunnelOf

/-- The same cleanup of the sharded store. -/
def orderlyShardedCleanup : List (WatchedAction Unit) :=
  silentSession ++ [.start (.cleanupStaleSessions 100 30), .advance 3 (some 1),
    .advance 2 none, .advance 2 none, .advance 3 none, .advance 3 (some 2), .advance 3 none,
    .advance 3 none, .advance 3 none, .advance 3 none, .advance 3 none]

theorem only_stale_removed_orderly :
    (∃ state, exec (SessionStore.model Unit).step (SessionStore.model Unit).watch orderlyCleanup =
        some state ∧ state.evictions.length = 1 ∧
      state.OnlyStale ∧ state.CountsRemoved (SessionStore.model Unit)) ∧
    ∃ state, exec twoShards.step twoShards.watch orderlyShardedCleanup = some state ∧
      state.evictions.length = 1 ∧ state.OnlyStale ∧ state.CountsRemoved twoShards := by
  constructor
  · have values : (exec (SessionStore.model Unit).step (SessionStore.model Unit).watch
        orderlyCleanup).map (fun state => state.evictions.length) = some 1 := by decide +kernel
    obtain ⟨state, run, evicted⟩ := Option.map_eq_some_iff.mp values
    exact ⟨state, run, evicted, (only_stale_removed Unit).1 orderlyCleanup state run
      (by decide +kernel) (by decide +kernel)⟩
  · have values : (exec twoShards.step twoShards.watch orderlyShardedCleanup).map
        (fun state => state.evictions.length) = some 1 := by decide +kernel
    obtain ⟨state, run, evicted⟩ := Option.map_eq_some_iff.mp values
    exact ⟨state, run, evicted, (only_stale_removed Unit).2 2 _ tunnelOf orderlyShardedCleanup
      state run (by decide +kernel) (by decide +kernel) (by decide +kernel)⟩

/-- A session is added and falls silent, a cleanup lists it, and something happens to the
session before the cleanup goes on. -/
def overtakenCleanup (request : Request Unit) : List (WatchedAction Unit) :=
  [.start (.add ⟨1, "app", 0, [], none⟩), .advance 0 none, .advance 0 none, .wait 100,
   .start (.cleanupStaleSessions 100 30), .advance 1 (some 1), .start request, .advance 2 none,
   .advance 1 none, .advance 1 none]

/-- The session sends a heartbeat and is removed all the same; or the session is removed by
its connection, and the cleanup counts it although it removes nothing. -/
theorem live_session_removed :
    let model := SessionStore.model Unit
    (∃ state, exec model.step model.watch (overtakenCleanup (.updateHeartbeat 1 100)) =
        some state ∧
      Meets model.step model.IteratesOnce model.watch (overtakenCleanup (.updateHeartbeat 1 100)) ∧
      ¬ state.OnlyStale) ∧
    ∃ state, exec model.step model.watch (overtakenCleanup (.remove 1) ++ [.advance 1 none]) =
        some state ∧
      Meets model.step model.IteratesOnce model.watch
        (overtakenCleanup (.remove 1) ++ [.advance 1 none]) ∧
      ¬ state.CountsRemoved model := by
  intro model
  constructor
  · have values : (exec model.step model.watch (overtakenCleanup (.updateHeartbeat 1 100))).map
        (fun state => (state.evictions.map fun eviction => (eviction.call, eviction.time,
          eviction.session.lastHeartbeat), state.requests[1]?)) =
        some ([(1, 100, 100)], some (.cleanupStaleSessions 100 30)) := by decide +kernel
    obtain ⟨state, run, result⟩ := Option.map_eq_some_iff.mp values
    obtain ⟨evicted, requested⟩ := Prod.mk.inj result
    refine ⟨state, run, by decide +kernel, ?_⟩
    intro onlyStale
    have member : (1, 100, 100) ∈ state.evictions.map fun eviction =>
        (eviction.call, eviction.time, eviction.session.lastHeartbeat) := by simp [evicted]
    obtain ⟨eviction, evictionIn, fields⟩ := List.mem_map.mp member
    simp only [Prod.mk.injEq] at fields
    obtain ⟨call, time, heartbeat⟩ := fields
    have stale := onlyStale eviction evictionIn 100 30 (by rw [call, requested])
    rw [Stale, time, heartbeat] at stale
    omega
  · have values : (exec model.step model.watch
        (overtakenCleanup (.remove 1) ++ [.advance 1 none])).map
        (fun state => (state.evictions.length, state.pool.calls[1]?.map model.view)) =
        some (0, some (.returned 1)) := by decide +kernel
    obtain ⟨state, run, result⟩ := Option.map_eq_some_iff.mp values
    obtain ⟨evicted, returned⟩ := Prod.mk.inj result
    refine ⟨state, run, by decide +kernel, ?_⟩
    intro counts
    obtain ⟨call, callAt, viewEq⟩ := Option.map_eq_some_iff.mp returned
    have counted := counts 1 call 1 callAt viewEq
    rw [List.length_eq_zero_iff.mp evicted] at counted
    cases counted

end FerroTunnel.Tunnel
