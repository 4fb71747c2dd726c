import FerroTunnel.Tunnel.SessionTracking

/-!
# Sessions and the connections they belong to

A session should be gone from the store when the task of its connection has
returned.  The task returns without removing it when the acknowledgement of the
handshake cannot be sent, and over TCP also when a frame cannot be decoded and
when the answer to a heartbeat cannot be sent.
-/

namespace FerroTunnel.Tunnel

open FerroTunnel.Transition
open FerroTunnel.Wire

variable {μ : Type}

namespace Server

/-- The id drawn for a session has not been presented before. -/
def FreshIds (server : Server μ) : ServerAction μ → Prop
  | .event _ (.handshake (.authenticated session)) =>
      server.pool.FreshIds (.start (.add session))
  | _ => True

instance (server : Server μ) : (action : ServerAction μ) → Decidable (server.FreshIds action)
  | .event _ (.handshake (.authenticated session)) =>
      inferInstanceAs (Decidable (server.pool.FreshIds (.start (.add session))))
  | .event _ (.handshake (.failed _)) | .event _ (.handshake .unexpected)
  | .event _ (.handshake (.rejected _)) | .event _ .added | .event _ (.sent _)
  | .event _ (.received _ _) | .event _ .touched | .event _ (.throttled _) | .event _ .processed
  | .event _ (.closed _) | .event _ .removed | .accept _ | .advance _ _ | .cleanupStaleSessions _ _
  | .getByTunnelId _ => isTrue trivial

/-- A task that returns without removing its session does so when the session is
no longer stored. -/
def RemovesFirst (server : Server μ) : ServerAction μ → Prop
  | .event c event =>
      ∀ connection ∈ server.connections[c]?,
        ∀ session ∈ connection.phase.abandons connection.transport event,
          server.pool.shared.sessions.lookup session.id = none
  | _ => True

instance (server : Server μ) : (action : ServerAction μ) → Decidable (server.RemovesFirst action)
  | .event c event =>
      inferInstanceAs (Decidable (∀ connection ∈ server.connections[c]?,
        ∀ session ∈ connection.phase.abandons connection.transport event, _))
  | .accept _ | .advance _ _ | .cleanupStaleSessions _ _ | .getByTunnelId _ => isTrue trivial

/-- No session outlives its connection. -/
def NoneOutlives (server : Server μ) : Prop :=
  ∀ connection ∈ server.connections, connection.phase.isReturned = true →
    ∀ session, connection.phase.session? = some session →
      server.pool.shared.sessions.lookup session.id = none

/-- The connections that hold a permit. -/
def holders (server : Server μ) : List (Connection μ) :=
  server.connections.filter fun connection => !connection.phase.isReturned

/-- The store knows the sessions of the connections and no others, and every
connection that has not returned holds a permit. -/
structure Valid (server : Server μ) : Prop where
  settled : server.pool.Settled
  tracks : ∀ connection ∈ server.connections, Tracks server.pool connection.phase
  owners : ∀ role ∈ server.pool.roles, ∀ session, role.session? = some session →
    ∃ connection ∈ server.connections, connection.phase.session? = some session
  permits : server.availableSessions + server.holders.length = server.maxSessions

namespace Valid

theorem initial (maxSessions : Nat) : (new maxSessions : Server μ).Valid where
  settled := StorePool.settled_initial
  tracks connection member := by simp [new] at member
  owners role member := by simp [new, StorePool.initial, StorePool.roles] at member
  permits := rfl

variable {server : Server μ} (valid : server.Valid)

include valid

/-- A session is gone when its task has returned. -/
theorem noneOutlives : server.NoneOutlives := by
  intro connection member returned session has
  have tracks := valid.tracks connection member
  cases phaseEq : connection.phase with
  | returned found result =>
      rw [phaseEq] at has tracks
      cases has
      exact tracks.2
  | _ =>
      rw [phaseEq] at returned
      cases returned

/-- Every stored session belongs to a connection that holds a permit. -/
theorem exists_holder {id : Uuid} {session : Session μ}
    (stored : server.pool.shared.sessions.lookup id = some session) :
    ∃ connection ∈ server.holders, ∃ own, connection.phase.session? = some own ∧ own.id = id := by
  obtain ⟨-, own, presented, rfl, -⟩ := valid.settled.known.stored stored
  obtain ⟨connection, member, has⟩ := valid.owners _ presented own rfl
  refine ⟨connection, List.mem_filter.mpr ⟨member, ?_⟩, own, has, rfl⟩
  rw [Bool.not_eq_true']
  by_contra returned
  have absent := valid.noneOutlives connection member (eq_true_of_ne_false returned) own has
  rw [absent] at stored
  cases stored

/-- There are at most as many stored sessions as permits. -/
theorem sessionCount_le : server.sessionCount ≤ server.maxSessions := by
  let ids := server.holders.filterMap fun connection =>
    connection.phase.session?.map fun session => session.id
  have listed : server.pool.shared.sessions.keys ⊆ ids.toFinset := by
    intro id member
    obtain ⟨session, stored⟩ := Finmap.mem_iff.mp (Finmap.mem_keys.mp member)
    obtain ⟨connection, holds, own, has, sameId⟩ := valid.exists_holder stored
    refine List.mem_toFinset.mpr (List.mem_filterMap.mpr ⟨connection, holds, ?_⟩)
    rw [has, Option.map_some, sameId]
  calc
    server.sessionCount ≤ ids.toFinset.card := Finset.card_le_card listed
    _ ≤ ids.length := List.toFinset_card_le ids
    _ ≤ server.holders.length := List.length_filterMap_le _ _
    _ ≤ server.maxSessions := by
      rw [← valid.permits]
      exact Nat.le_add_left _ _

/-- A call of the store that presents no session leaves the sessions their
owners. -/
theorem owners_step {action : StoreAction μ} {after : StorePool μ}
    (stepEq : server.pool.step action = some after)
    (quiet : ∀ request, action = .start request → request.start.role = .idle) :
    ∀ role ∈ after.roles, ∀ session, role.session? = some session →
      ∃ connection ∈ server.connections, connection.phase.session? = some session := by
  intro role member session presents
  rcases StorePool.step_roles stepEq with ⟨request, actionEq, -, rolesEq⟩ |
    ⟨k, visited, before, role', -, beforeAt, stepped, rolesEq⟩
  · rw [rolesEq] at member
    rcases List.mem_append.mp member with old | new
    · exact valid.owners role old session presents
    · rw [List.mem_singleton.mp new, quiet request actionEq] at presents
      cases presents
  · rw [rolesEq] at member
    rcases List.mem_or_eq_of_mem_set member with old | rfl
    · exact valid.owners role old session presents
    · exact valid.owners before (List.mem_of_getElem? beforeAt) session
        (stepped.session?_eq.symm.trans presents)

/-- The store is settled after a call that presents no session. -/
theorem settled_step {action : StoreAction μ} {after : StorePool μ}
    (stepEq : server.pool.step action = some after)
    (quiet : ∀ request, action = .start request → request.start.role = .idle) : after.Settled := by
  refine valid.settled.step ?_ stepEq
  cases action with
  | advance => trivial
  | start request =>
      have idle := quiet request rfl
      constructor
      · cases request <;> first | rfl | cases idle
      · intro session presents
        rw [Call.session?, idle] at presents
        cases presents

/-- The store goes on by itself, or is called by the cleanup task or the ingress. -/
theorem store {action : StoreAction μ} {after : StorePool μ}
    (stepEq : server.pool.step action = some after)
    (quiet : ∀ request, action = .start request → request.start.role = .idle) :
    ({ server with pool := after } : Server μ).Valid where
  settled := valid.settled_step stepEq quiet
  tracks connection member :=
    (valid.tracks connection member).step valid.settled.known stepEq
  owners := valid.owners_step stepEq quiet
  permits := valid.permits

theorem accept (transport : Transport) : (server.accept transport).Valid := by
  cases availableEq : server.availableSessions with
  | zero =>
      simp only [Server.accept, availableEq]
      exact valid
  | succ available =>
      simp only [Server.accept, availableEq]
      refine ⟨valid.settled, ?_, ?_, ?_⟩
      · intro connection member
        rcases List.mem_append.mp member with old | new
        · exact valid.tracks connection old
        · rw [List.mem_singleton.mp new]
          trivial
      · intro role member session presents
        exact exists_mem_concat _ (valid.owners role member session presents)
      · have permits := valid.permits
        simp only [holders, availableEq, List.filter_append, List.length_append] at permits ⊢
        rw [← permits]
        simp [Phase.isReturned]
        omega

/-- A connection gives its permit back exactly when its task returns. -/
theorem permits_set {c : Nat} {connection : Connection μ} (phase : Phase μ)
    (connectionAt : server.connections[c]? = some connection)
    (running : connection.phase.isReturned = false) :
    (if phase.isReturned then server.availableSessions + 1 else server.availableSessions) +
      ((server.connections.set c { connection with phase := phase }).filter
        fun connection => !connection.phase.isReturned).length = server.maxSessions := by
  obtain ⟨inside, rfl⟩ := List.getElem?_eq_some_iff.mp connectionAt
  have permits := valid.permits
  have held : 0 < server.holders.length :=
    List.length_pos_of_mem (List.mem_filter.mpr ⟨List.getElem_mem inside, by rw [running]; rfl⟩)
  simp only [holders, ← List.countP_eq_length_filter] at permits held ⊢
  rw [List.countP_set inside]
  simp only [running, Bool.not_false, ↓reduceIte]
  cases phase.isReturned <;> simp only [Bool.not_true, Bool.not_false, Bool.false_eq_true,
    ↓reduceIte] <;> omega

/-- A task goes on, and does not leave its session in the store. -/
theorem event {c : Nat} {event : Event μ} {after : Server μ}
    (fresh : server.FreshIds (.event c event)) (removesFirst : server.RemovesFirst (.event c event))
    (stepEq : server.event c event = some after) : after.Valid := by
  obtain ⟨connection, connectionAt, mapped⟩ := Option.bind_eq_some_iff.mp stepEq
  obtain ⟨⟨pool, phase⟩, onEq, rfl⟩ := Option.map_eq_some_iff.mp mapped
  have goes := Phase.on_goes onEq
  have inside : c < server.connections.length := (List.getElem?_eq_some_iff.mp connectionAt).1
  have tracked := (valid.tracks connection (List.mem_of_getElem? connectionAt)).goes
    valid.settled.known goes (removesFirst connection connectionAt)
  have keepsSession : ∀ {session}, (∃ owner ∈ server.connections,
      owner.phase.session? = some session) →
      ∃ owner ∈ server.connections.set c { connection with phase := phase },
        owner.phase.session? = some session :=
    fun owned => exists_mem_set connectionAt (fun has => goes.session?_eq has) owned
  have tracksAll : (∀ other ∈ server.connections, Tracks pool other.phase) →
      ∀ other ∈ server.connections.set c { connection with phase := phase },
        Tracks pool other.phase := by
    intro others other member
    rcases List.mem_or_eq_of_mem_set member with old | rfl
    · exact others other old
    · exact tracked
  have permits := valid.permits_set phase connectionAt goes.running
  rcases goes.pool_cases with rfl | ⟨request, rfl, idle⟩ | ⟨session, rfl, rfl, has⟩
  · refine ⟨valid.settled, tracksAll valid.tracks, ?_, permits⟩
    intro role member session presents
    exact keepsSession (valid.owners role member session presents)
  · have stepped : server.pool.step (.start request) = some (server.pool.begin request) := rfl
    have quiet : ∀ other : Request μ, (.start request : StoreAction μ) = .start other →
        other.start.role = .idle := by
      rintro other ⟨⟩
      exact idle
    refine ⟨valid.settled_step stepped quiet, tracksAll ?_, ?_, permits⟩
    · intro other member
      exact (valid.tracks other member).step valid.settled.known stepped
    · intro role member session presents
      exact keepsSession (valid.owners_step stepped quiet role member session presents)
  · have stepped : server.pool.step (.start (.add session)) =
        some (server.pool.begin (.add session)) := rfl
    have addsFresh : server.pool.AddsFresh (.start (.add session)) := ⟨rfl, fresh⟩
    refine ⟨valid.settled.step addsFresh stepped, tracksAll ?_, ?_, permits⟩
    · intro other member
      exact (valid.tracks other member).step valid.settled.known stepped
    · intro role member presented presents
      rw [StorePool.roles_begin] at member
      rcases List.mem_append.mp member with old | new
      · exact keepsSession (valid.owners role old presented presents)
      · rw [List.mem_singleton.mp new] at presents
        cases presents
        exact ⟨_, List.mem_set inside _, has⟩

theorem step {action : ServerAction μ} {after : Server μ} (fresh : server.FreshIds action)
    (removesFirst : server.RemovesFirst action) (stepEq : server.step action = some after) :
    after.Valid := by
  cases action with
  | accept transport =>
      cases stepEq
      exact valid.accept transport
  | event c event => exact valid.event fresh removesFirst stepEq
  | advance k visited =>
      obtain ⟨pool, poolEq, rfl⟩ := Option.map_eq_some_iff.mp stepEq
      exact valid.store poolEq nofun
  | cleanupStaleSessions now timeout =>
      cases stepEq
      have began : server.pool.step (.start (.cleanupStaleSessions now timeout)) =
          some (server.pool.begin (.cleanupStaleSessions now timeout)) := rfl
      refine valid.store began ?_
      rintro request ⟨⟩
      rfl
  | getByTunnelId tunnelId =>
      cases stepEq
      have began : server.pool.step (.start (.getByTunnelId tunnelId)) =
          some (server.pool.begin (.getByTunnelId tunnelId)) := rfl
      refine valid.store began ?_
      rintro request ⟨⟩
      rfl

end Valid

/-- A task that leaves its session in the store lets it outlive its connection. -/
theorem NoneOutlives.removesFirst {server after : Server μ} {action : ServerAction μ}
    (stepEq : server.step action = some after) (none : after.NoneOutlives) :
    server.RemovesFirst action := by
  cases action with
  | event c event =>
      intro connection connectionAt session abandoned
      obtain ⟨result, onEq⟩ := Phase.on_of_abandons server.pool abandoned
      have inside : c < server.connections.length :=
        (List.getElem?_eq_some_iff.mp connectionAt).1
      rw [Option.mem_def] at connectionAt
      simp only [step, Server.event, connectionAt, Option.bind_some, onEq, Option.map_some,
        Option.some.injEq] at stepEq
      subst stepEq
      exact none _ (List.mem_set inside _) rfl session rfl
  | _ => trivial

theorem step_maxSessions {server after : Server μ} {action : ServerAction μ}
    (stepEq : server.step action = some after) : after.maxSessions = server.maxSessions := by
  cases action with
  | accept transport =>
      cases stepEq
      simp only [accept]
      split <;> rfl
  | event c event =>
      obtain ⟨connection, -, mapped⟩ := Option.bind_eq_some_iff.mp stepEq
      obtain ⟨result, -, rfl⟩ := Option.map_eq_some_iff.mp mapped
      rfl
  | advance k visited =>
      obtain ⟨pool, -, rfl⟩ := Option.map_eq_some_iff.mp stepEq
      rfl
  | cleanupStaleSessions now timeout | getByTunnelId tunnelId =>
      cases stepEq
      rfl

/-- In every run with fresh ids: in every state, the session of a connection whose
task has returned is not stored, and there are at most `maxSessions` stored
sessions, if and only if no task returns at a failed acknowledgement, or over TCP
at a frame that cannot be decoded or a failed answer to a heartbeat, while its
session is stored. -/
theorem session_lifetime_iff (maxSessions : Nat) (actions : List (ServerAction μ))
    (server : Server μ) (run : exec step (new maxSessions) actions = some server)
    (fresh : Meets step FreshIds (new maxSessions) actions) :
    Always step (fun server => server.NoneOutlives ∧ server.sessionCount ≤ maxSessions)
        (new maxSessions) actions ↔
      Meets step RemovesFirst (new maxSessions) actions := by
  have preserved : ∀ {current : Server μ} {action next},
      current.Valid ∧ current.maxSessions = maxSessions → current.FreshIds action →
      current.RemovesFirst action → current.step action = some next →
      next.Valid ∧ next.maxSessions = maxSessions := by
    rintro current action next ⟨valid, sameMax⟩ freshNow removesFirst stepEq
    exact ⟨valid.step freshNow removesFirst stepEq, (step_maxSessions stepEq).trans sameMax⟩
  refine (meets_iff_always preserved ?_ ?_ ⟨Valid.initial maxSessions, rfl⟩ run fresh).symm
  · rintro current ⟨valid, rfl⟩
    exact ⟨valid.noneOutlives, valid.sessionCount_le⟩
  · rintro current action next - stepEq ⟨noneOutlives, -⟩
    exact noneOutlives.removesFirst stepEq

/-- A client connects over TCP, is acknowledged and disconnects. -/
def orderlyConnection : List (ServerAction Unit) :=
  [.accept .tcp, .event 0 (.handshake (.authenticated ⟨1, "app", 0, [], none⟩)),
   .advance 0 none, .advance 0 none, .event 0 .added, .event 0 (.sent (.ok ())),
   .event 0 (.received none 1), .advance 1 none, .advance 1 none, .event 0 .removed]

theorem session_lifetime_iff_orderlyConnection :
    ∃ server, exec step (new 1) orderlyConnection = some server ∧
      Always step (fun server => server.NoneOutlives ∧ server.sessionCount ≤ 1)
        (new 1) orderlyConnection := by
  refine ⟨_, rfl, (session_lifetime_iff 1 orderlyConnection _ rfl ?_).mpr ?_⟩
  · decide +kernel
  · decide +kernel

/-- A client connects over TCP and sends a frame that cannot be decoded; another
client then takes the only permit. -/
def undecodableFrame : List (ServerAction Unit) :=
  [.accept .tcp, .event 0 (.handshake (.authenticated ⟨1, "app", 0, [], none⟩)),
   .advance 0 none, .advance 0 none, .event 0 .added, .event 0 (.sent (.ok ())),
   .event 0 (.received (some (.error .io)) 1),
   .accept .tcp, .event 1 (.handshake (.authenticated ⟨2, "web", 1, [], none⟩)),
   .advance 1 none, .advance 1 none]

/-- The first client's session is still stored, so that a server of one session
stores two. -/
theorem undecodableFrame_outlived :
    ∃ server, exec step (new 1) undecodableFrame = some server ∧
      Meets step FreshIds (new 1) undecodableFrame ∧
      server.connections[0]? = some ⟨.tcp, .returned (some ⟨1, "app", 0, [], none⟩) (.error .io)⟩ ∧
      server.pool.shared.sessions.lookup 1 = some ⟨1, "app", 0, [], none⟩ ∧
      server.sessionCount = 2 :=
  ⟨_, rfl, by decide +kernel, rfl, rfl, rfl⟩

end Server

end FerroTunnel.Tunnel
