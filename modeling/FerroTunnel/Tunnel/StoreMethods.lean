import FerroTunnel.Tunnel.SessionStore

/-!
# The methods of the session store, one after another

A method that runs alone performs all its map operations on one store.  Here
each method is the function it then computes.

An iteration over the sessions meets each of them once, in an order of its own.
-/

namespace FerroTunnel.Tunnel

open FerroTunnel.Transition
open FerroTunnel.Wire

variable {μ : Type}

/-- The order in which one iteration over the sessions of a store meets them. -/
structure Iteration (μ : Type) where
  visits : (Finmap fun _ : Uuid => Session μ) → List Uuid
  nodup : ∀ sessions, (visits sessions).Nodup
  mem_visits : ∀ {sessions id}, id ∈ visits sessions ↔ id ∈ sessions

namespace SessionStore

/-- Adds a session for a free tunnel. -/
def add (store : SessionStore μ) (session : Session μ) :
    SessionStore μ × Except SessionStoreError Unit :=
  match store.claimEntry session with
  | .error error => (store, .error error)
  | .ok claimed => (claimed.insertSession session, .ok ())

/-- Adds a session in place of its tunnel's. -/
def addOrReplace (store : SessionStore μ) (session : Session μ) : SessionStore μ :=
  let cleared :=
    match store.tunnelIndex.lookup session.tunnelId with
    | some oldSessionId =>
        if oldSessionId ≠ session.id then
          (store.removeIndex session.tunnelId).removeSession oldSessionId
        else
          store.removeIndex session.tunnelId
    | none => store
  (cleared.insertIndex session).insertSession session

/-- The session with the id. -/
def get (store : SessionStore μ) (id : Uuid) : Option (Session μ) :=
  store.sessions.lookup id

/-- The session that a tunnel leads to. -/
def getByTunnelId (store : SessionStore μ) (tunnelId : String) : Option (Session μ) :=
  match store.tunnelIndex.lookup tunnelId with
  | none => none
  | some id => store.get id

/-- `get_mut`, with the heartbeat of the session it finds updated. -/
def updateHeartbeat (store : SessionStore μ) (id : Uuid) (now : Nat) :
    SessionStore μ × Option (Session μ) :=
  match store.get id with
  | none => (store, none)
  | some session =>
      let updated := session.updateHeartbeat now
      ({ store with sessions := store.sessions.insert id updated }, some updated)

/-- Removes a session and its index entry. -/
def remove (store : SessionStore μ) (id : Uuid) : SessionStore μ × Option (Session μ) :=
  match store.get id with
  | none => (store, none)
  | some session => ((store.removeSession id).removeIndex session.tunnelId, some session)

/-- The session has not sent a heartbeat within the timeout. -/
def isStale (store : SessionStore μ) (now timeout : Nat) (id : Uuid) : Bool :=
  match store.get id with
  | none => false
  | some session => now - session.lastHeartbeat > timeout

/-- The stale sessions, in the order an iteration meets them. -/
def staleSessions (store : SessionStore μ) (iteration : Iteration μ) (now timeout : Nat) :
    List Uuid :=
  (iteration.visits store.sessions).filter (store.isStale now timeout)

/-- Remove sessions one after another. -/
def removeAll (store : SessionStore μ) (ids : List Uuid) : SessionStore μ :=
  ids.foldl (fun store id => (store.remove id).1) store

/-- Removes the stale sessions. -/
def cleanupStaleSessions (store : SessionStore μ) (iteration : Iteration μ)
    (now timeout : Nat) : SessionStore μ × Nat :=
  let toRemove := store.staleSessions iteration now timeout
  (store.removeAll toRemove, toRemove.length)

/-- The multiplexer of a session that has the capability. -/
def multiplexerWith (store : SessionStore μ) (capability : String) (id : Uuid) : Option μ :=
  (store.get id).bind fun session =>
    if capability ∈ session.capabilities then session.multiplexer else none

/-- A multiplexer with the capability. -/
def findMultiplexerWithCapability (store : SessionStore μ) (iteration : Iteration μ)
    (capability : String) : Option μ :=
  (iteration.visits store.sessions).findSome? (store.multiplexerWith capability)

/-! ## The order of an iteration -/

variable {store : SessionStore μ} {iteration : Iteration μ} {now timeout : Nat}

theorem mem_visits_iff {id : Uuid} :
    id ∈ iteration.visits store.sessions ↔ (store.get id).isSome = true := by
  rw [iteration.mem_visits, get, Finmap.lookup_isSome]

theorem nodup_staleSessions : (store.staleSessions iteration now timeout).Nodup :=
  (iteration.nodup store.sessions).filter _

/-- Every stale session is listed, whatever the order. -/
theorem mem_staleSessions {id : Uuid} :
    id ∈ store.staleSessions iteration now timeout ↔ store.isStale now timeout id = true := by
  rw [staleSessions, List.mem_filter, mem_visits_iff]
  constructor
  · exact fun listed => listed.2
  · intro stale
    refine ⟨?_, stale⟩
    cases found : store.get id with
    | none => simp [isStale, found] at stale
    | some session => rfl

/-- Whether a multiplexer is found does not depend on the order. -/
theorem isSome_findMultiplexerWithCapability {capability : String} :
    (store.findMultiplexerWithCapability iteration capability).isSome = true ↔
      ∃ id, (store.multiplexerWith capability id).isSome = true := by
  rw [findMultiplexerWithCapability, List.findSome?_isSome_iff]
  constructor
  · rintro ⟨id, -, found⟩
    exact ⟨id, found⟩
  · rintro ⟨id, found⟩
    refine ⟨id, mem_visits_iff.mpr ?_, found⟩
    cases stored : store.get id with
    | none => simp [multiplexerWith, stored] at found
    | some session => rfl

theorem remove_of_get_none {id : Uuid} (absent : store.get id = none) :
    (store.remove id).1 = store := by
  rw [remove, absent]

theorem remove_of_get {id : Uuid} {session : Session μ} (found : store.get id = some session) :
    (store.remove id).1 = (store.removeSession id).removeIndex session.tunnelId := by
  rw [remove, found]

theorem get_remove_of_ne {id other : Uuid} (differs : other ≠ id) :
    (store.remove id).1.get other = store.get other := by
  rw [remove]
  cases store.get id with
  | none => rfl
  | some session => exact Finmap.lookup_erase_ne differs

/-- Two sessions may be removed in any order. -/
theorem remove_comm (store : SessionStore μ) (first second : Uuid) :
    ((store.remove first).1.remove second).1 = ((store.remove second).1.remove first).1 := by
  by_cases same : first = second
  · rw [same]
  · cases foundFirst : store.get first with
    | none =>
        have absent : (store.remove second).1.get first = none := by
          rw [get_remove_of_ne same, foundFirst]
        rw [remove_of_get_none foundFirst, remove_of_get_none absent]
    | some session =>
        cases foundSecond : store.get second with
        | none =>
            have absent : (store.remove first).1.get second = none := by
              rw [get_remove_of_ne (Ne.symm same), foundSecond]
            rw [remove_of_get_none foundSecond, remove_of_get_none absent]
        | some other =>
            have keptFirst : (store.remove second).1.get first = some session := by
              rw [get_remove_of_ne same, foundFirst]
            have keptSecond : (store.remove first).1.get second = some other := by
              rw [get_remove_of_ne (Ne.symm same), foundSecond]
            rw [remove_of_get keptFirst, remove_of_get keptSecond, remove_of_get foundFirst,
              remove_of_get foundSecond]
            simp only [removeSession, removeIndex]
            rw [Finmap.erase_erase, Finmap.erase_erase (a := session.tunnelId)]

/-- Sessions may be removed in any order. -/
theorem removeAll_perm {ids others : List Uuid} (perm : ids.Perm others) :
    store.removeAll ids = store.removeAll others := by
  have : RightCommutative fun (store : SessionStore μ) id => (store.remove id).1 :=
    ⟨fun store first second => remove_comm store first second⟩
  exact perm.foldl_eq store

end SessionStore

end FerroTunnel.Tunnel
