import FerroTunnel.Map.Sweep
import FerroTunnel.Tunnel.SessionStore

/-!
# Cleanups among other calls

A store removes stale sessions in two passes, while other calls go on.  To say
what a cleanup does, the pool of calls is watched: a clock runs, the requests
are remembered, and every session that a cleanup removes is noted with the call
that removed it and the time.

The plain and the sharded store differ in their state and in their calls.  What
the argument needs of them is stated as a property of the model of a store, and
every run is then treated once.
-/

namespace FerroTunnel.Tunnel

open FerroTunnel.Map
open FerroTunnel.Transition
open FerroTunnel.Wire

variable {σ γ μ : Type}

/-- A store with calls that perform one map operation at a time.  `entry` is the
stored session of an id, `view` is what a call does as a cleanup, `bounds` are the
time and the timeout with which a cleanup scans, `writes` is the id whose session the
next operation of a call inserts, updates or removes, `evicts` is the session that
the next operation of a cleanup removes, and `stamps` is the time that the next
operation writes as a heartbeat. -/
structure StoreModel (σ γ μ : Type) where
  initial : σ
  start : Request μ → γ
  next : σ → γ → Option Uuid → Option (σ × γ)
  entry : σ → Uuid → Option (Session μ)
  view : γ → Sweep Uuid
  bounds : γ → Option (Nat × Nat)
  writes : σ → γ → Option Uuid
  evicts : σ → γ → Option (Session μ)
  stamps : σ → γ → Option Nat

/-- A session that a cleanup has removed. -/
structure Eviction (μ : Type) where
  call : Nat
  session : Session μ
  time : Nat

/-- A watched pool. -/
structure Watched (σ γ μ : Type) where
  clock : Nat
  requests : List (Request μ)
  pool : Pool σ γ
  evictions : List (Eviction μ)

/-- What happens to a watched store. -/
inductive WatchedAction (μ : Type)
  | wait (duration : Nat)
  | start (request : Request μ)
  | advance (call : Nat) (visited : Option Uuid)

/-- A cleanup begins by reading the clock. -/
def Request.ReadsClock (clock : Nat) : Request μ → Prop
  | .cleanupStaleSessions now _ => now = clock
  | _ => True

instance (clock : Nat) : (request : Request μ) → Decidable (request.ReadsClock clock)
  | .cleanupStaleSessions now _ => inferInstanceAs (Decidable (now = clock))
  | .add _ | .addOrReplace _ | .getByTunnelId _ | .updateHeartbeat _ _ | .remove _ =>
      isTrue trivial

/-- The session has not sent a heartbeat within the timeout. -/
def Stale (now timeout : Nat) (session : Session μ) : Prop :=
  now - session.lastHeartbeat > timeout

namespace StoreModel

variable (model : StoreModel σ γ μ)

/-- A store without calls. -/
def watch : Watched σ γ μ where
  clock := 0
  requests := []
  pool := ⟨model.initial, []⟩
  evictions := []

/-- What the operation of the call at `k` makes of the pool. -/
def advance (state : Watched σ γ μ) (k : Nat) (visited : Option Uuid) (call : γ) :
    Option (Watched σ γ μ) :=
  if ∀ now ∈ model.stamps state.pool.shared call, now = state.clock then
    (model.next state.pool.shared call visited).map fun result =>
      { state with
        pool := ⟨result.1, state.pool.calls.set k result.2⟩
        evictions := state.evictions ++ (model.evicts state.pool.shared call).toList.map
          fun session => ⟨k, session, state.clock⟩ }
  else none

/-- One event of the watched store. -/
def step : Step (Watched σ γ μ) (WatchedAction μ)
  | state, .wait duration => some { state with clock := state.clock + duration }
  | state, .start request =>
      if request.ReadsClock state.clock then
        some { state with
          requests := state.requests ++ [request]
          pool := { state.pool with calls := state.pool.calls ++ [model.start request] } }
      else none
  | state, .advance k visited =>
      (state.pool.calls[k]?).bind (model.advance state k visited)

/-! ## Conditions on steps -/

/-- An iteration over a map meets no session again that it has met as a stale one. -/
def IteratesOnce (state : Watched σ γ μ) : WatchedAction μ → Prop
  | .advance k (some id) =>
      ∀ call ∈ state.pool.calls[k]?, model.bounds call ≠ none → id ∉ (model.view call).listed
  | _ => True

/-- The call that goes on inserts, updates and removes no session that another call has
listed for removal. -/
def Spares (state : Watched σ γ μ) : WatchedAction μ → Prop
  | .advance k _ =>
      ∀ call ∈ state.pool.calls[k]?, ∀ id ∈ model.writes state.pool.shared call,
        ∀ other ∈ state.pool.calls.eraseIdx k, id ∉ (model.view other).listed
  | _ => True

instance (state : Watched σ γ μ) :
    (action : WatchedAction μ) → Decidable (model.IteratesOnce state action)
  | .advance k (some _) => inferInstanceAs (Decidable (∀ call ∈ state.pool.calls[k]?, _ → _))
  | .advance _ none | .wait _ | .start _ => isTrue trivial

instance (state : Watched σ γ μ) :
    (action : WatchedAction μ) → Decidable (model.Spares state action)
  | .advance k _ =>
      have (call : γ) : Decidable (∀ id ∈ model.writes state.pool.shared call,
          ∀ other ∈ state.pool.calls.eraseIdx k, id ∉ (model.view other).listed) :=
        Option.decidableForallMem _
      inferInstanceAs (Decidable (∀ call ∈ state.pool.calls[k]?,
        ∀ id ∈ model.writes state.pool.shared call, ∀ other ∈ state.pool.calls.eraseIdx k, _))
  | .wait _ | .start _ => isTrue trivial

/-- A request that is made is admitted. -/
def Admits (admits : Request μ → Prop) (_state : Watched σ γ μ) : WatchedAction μ → Prop
  | .start request => admits request
  | _ => True

instance (admits : Request μ → Prop) [DecidablePred admits] (state : Watched σ γ μ) :
    (action : WatchedAction μ) → Decidable (Admits admits state action)
  | .start request => inferInstanceAs (Decidable (admits request))
  | .wait _ | .advance _ _ => isTrue trivial

end StoreModel

namespace Watched

/-- Every session that a cleanup has removed was stale at that moment. -/
def OnlyStale (state : Watched σ γ μ) : Prop :=
  ∀ eviction ∈ state.evictions, ∀ now timeout,
    state.requests[eviction.call]? = some (.cleanupStaleSessions now timeout) →
      Stale eviction.time timeout eviction.session

/-- Every cleanup that has returned has returned the number of sessions it removed. -/
def CountsRemoved (model : StoreModel σ γ μ) (state : Watched σ γ μ) : Prop :=
  ∀ (k : Nat) (call : γ) (count : Nat), state.pool.calls[k]? = some call →
    model.view call = .returned count →
      count = state.evictions.countP fun eviction => eviction.call = k

end Watched

/-! ## Lawful models -/

/-- The calls of the model are sweeps over its entries: for admitted requests, every
operation is a step of a sweep, and a cleanup scans with the bounds of its
request. -/
structure StoreModel.Lawful (model : StoreModel σ γ μ) (admits : Request μ → Prop)
    (okStore : σ → Prop) (okCall : γ → Prop) : Prop where
  initial : okStore model.initial
  start : ∀ {request}, admits request → okCall (model.start request)
  fresh : ∀ request, model.view (model.start request) = .bystander ∨
    model.view (model.start request) = .scanning []
  bounds_start : ∀ {request now timeout},
    model.bounds (model.start request) = some (now, timeout) →
      request = .cleanupStaleSessions now timeout
  bounds_next : ∀ {shared shared' call call' visited},
    model.next shared call visited = some (shared', call') →
      ∀ bounds, model.bounds call' = some bounds → model.bounds call = some bounds
  keeps : ∀ {shared shared' call call' visited}, okStore shared → okCall call →
    model.next shared call visited = some (shared', call') → okStore shared' ∧ okCall call'
  unwritten : ∀ {shared shared' call call' visited},
    model.next shared call visited = some (shared', call') →
      ∀ id, id ∉ model.writes shared call → model.entry shared' id = model.entry shared id
  sweeps : ∀ {shared shared' call call' visited}, okStore shared → okCall call →
    model.next shared call visited = some (shared', call') →
    (∀ id ∈ visited, model.bounds call ≠ none → id ∉ (model.view call).listed) →
    SweepStep (fun session => ∃ now timeout, model.bounds call = some (now, timeout) ∧
        Stale now timeout session)
      (model.entry shared) (model.entry shared') (model.view call) (model.view call')
      (model.evicts shared call)

/-- What the cleanup at `k` takes for stale. -/
def StaleFor (requests : List (Request μ)) (k : Nat) (session : Session μ) : Prop :=
  ∀ now timeout, requests[k]? = some (.cleanupStaleSessions now timeout) →
    Stale now timeout session

namespace Watched

/-- The invariant of watched runs. -/
structure Invariant (model : StoreModel σ γ μ) (okStore : σ → Prop) (okCall : γ → Prop)
    (state : Watched σ γ μ) : Prop where
  store : okStore state.pool.shared
  calls : ∀ call ∈ state.pool.calls, okCall call
  length : state.requests.length = state.pool.calls.length
  bounds : ∀ {k : Nat} {call : γ} {now timeout}, state.pool.calls[k]? = some call →
    model.bounds call = some (now, timeout) →
      state.requests[k]? = some (.cleanupStaleSessions now timeout)
  sound : Sound (StaleFor state.requests) (model.entry state.pool.shared)
    (state.pool.calls.map model.view)
    (state.evictions.map fun eviction => (eviction.call, eviction.session))
  began : ∀ {k : Nat} {now timeout},
    state.requests[k]? = some (.cleanupStaleSessions now timeout) → now ≤ state.clock
  later : ∀ eviction ∈ state.evictions, ∀ now timeout,
    state.requests[eviction.call]? = some (.cleanupStaleSessions now timeout) →
      now ≤ eviction.time

variable {model : StoreModel σ γ μ} {admits : Request μ → Prop} {okStore : σ → Prop}
  {okCall : γ → Prop} {state next : Watched σ γ μ}

theorem Invariant.initial (lawful : model.Lawful admits okStore okCall) :
    Invariant model okStore okCall model.watch where
  store := lawful.initial
  calls := by simp [StoreModel.watch]
  length := rfl
  bounds callAt := by simp [StoreModel.watch] at callAt
  sound := .initial _ _
  began requested := by simp [StoreModel.watch] at requested
  later := by simp [StoreModel.watch]

variable (invariant : Invariant model okStore okCall state)

include invariant

theorem Invariant.wait (duration : Nat) :
    Invariant model okStore okCall { state with clock := state.clock + duration } where
  store := invariant.store
  calls := invariant.calls
  length := invariant.length
  bounds := invariant.bounds
  sound := invariant.sound
  began requested := Nat.le_add_right_of_le (invariant.began requested)
  later := invariant.later

theorem Invariant.start (lawful : model.Lawful admits okStore okCall) {request : Request μ}
    (admitted : admits request) (readsClock : request.ReadsClock state.clock) :
    Invariant model okStore okCall
      { state with
        requests := state.requests ++ [request]
        pool := { state.pool with calls := state.pool.calls ++ [model.start request] } } where
  store := invariant.store
  calls call member := by
    rcases List.mem_append.mp member with old | new
    · exact invariant.calls call old
    · rw [List.mem_singleton.mp new]
      exact lawful.start admitted
  length := by simp [invariant.length]
  bounds callAt scans := by
    rcases getElem?_concat_cases callAt with ⟨inside, old⟩ | ⟨rfl, rfl⟩
    · rw [List.getElem?_append_left (invariant.length ▸ inside)]
      exact invariant.bounds old scans
    · rw [← invariant.length, List.getElem?_concat_length, lawful.bounds_start scans]
  sound := by
    rw [List.map_append, List.map_singleton]
    apply invariant.sound.start (lawful.fresh request)
    intro k inside
    rw [List.length_map, ← invariant.length] at inside
    funext session
    rw [StaleFor, StaleFor, List.getElem?_append_left inside]
  began requested := by
    rcases getElem?_concat_cases requested with ⟨-, old⟩ | ⟨-, rfl⟩
    · exact invariant.began old
    · exact Nat.le_of_eq readsClock
  later eviction member now timeout requested := by
    have inside : eviction.call < state.requests.length := by
      rw [invariant.length, ← List.length_map model.view]
      exact (invariant.sound.aged (List.mem_map_of_mem member)).1
    rw [List.getElem?_append_left inside] at requested
    exact invariant.later eviction member now timeout requested

theorem Invariant.advance (lawful : model.Lawful admits okStore okCall) {k : Nat}
    {visited : Option Uuid} {call call' : γ} {shared' : σ}
    (callAt : state.pool.calls[k]? = some call)
    (nextEq : model.next state.pool.shared call visited = some (shared', call'))
    (once : ∀ id ∈ visited, model.bounds call ≠ none → id ∉ (model.view call).listed)
    (spares : ∀ id ∈ model.writes state.pool.shared call,
      ∀ other ∈ state.pool.calls.eraseIdx k, id ∉ (model.view other).listed) :
    Invariant model okStore okCall
      { state with
        pool := ⟨shared', state.pool.calls.set k call'⟩
        evictions := state.evictions ++ (model.evicts state.pool.shared call).toList.map
          fun session => ⟨k, session, state.clock⟩ } := by
  have callOk := invariant.calls call (List.mem_of_getElem? callAt)
  obtain ⟨storeKept, callKept⟩ := lawful.keeps invariant.store callOk nextEq
  constructor
  · exact storeKept
  · intro other member
    rcases List.mem_or_eq_of_mem_set member with old | rfl
    · exact invariant.calls other old
    · exact callKept
  · rw [List.length_set]
    exact invariant.length
  · intro j other now timeout otherAt scans
    rcases getElem?_set_cases otherAt with ⟨rfl, rfl⟩ | ⟨-, old⟩
    · exact invariant.bounds callAt (lawful.bounds_next nextEq _ scans)
    · exact invariant.bounds old scans
  · have viewAt : (state.pool.calls.map model.view)[k]? = some (model.view call) := by
      rw [List.getElem?_map, callAt, Option.map_some]
    have stepped : SweepStep (StaleFor state.requests k) _ _ _ _ _ :=
      (lawful.sweeps invariant.store callOk nextEq once).mono (by
        rintro session ⟨now, timeout, scans, stale⟩ now' timeout' requested
        rw [invariant.bounds callAt scans] at requested
        cases requested
        exact stale)
    have advanced := invariant.sound.advance viewAt stepped (by
      intro j other differs otherAt
      rw [List.getElem?_map] at otherAt
      obtain ⟨otherCall, otherCallAt, rfl⟩ := Option.map_eq_some_iff.mp otherAt
      intro id member
      apply lawful.unwritten nextEq
      intro written
      exact spares id written otherCall
        (List.mem_eraseIdx_iff_getElem?.mpr ⟨j, differs, otherCallAt⟩) member)
    simpa [List.map_set, Function.comp_def] using advanced
  · exact invariant.began
  · intro eviction member now timeout requested
    rcases List.mem_append.mp member with old | new
    · exact invariant.later eviction old now timeout requested
    · obtain ⟨session, -, rfl⟩ := List.mem_map.mp new
      exact invariant.began requested

omit invariant

theorem Invariant.step (lawful : model.Lawful admits okStore okCall) {action : WatchedAction μ}
    (invariant : Invariant model okStore okCall state)
    (guarded : StoreModel.Admits admits state action ∧ model.IteratesOnce state action ∧
      model.Spares state action)
    (stepEq : model.step state action = some next) : Invariant model okStore okCall next := by
  obtain ⟨admitted, once, spares⟩ := guarded
  cases action with
  | wait duration =>
      cases stepEq
      exact invariant.wait duration
  | start request =>
      simp only [StoreModel.step] at stepEq
      split at stepEq
      · cases stepEq
        exact invariant.start lawful admitted ‹_›
      · cases stepEq
  | advance k visited =>
      simp only [StoreModel.step] at stepEq
      obtain ⟨call, callAt, advanced⟩ := Option.bind_eq_some_iff.mp stepEq
      rw [StoreModel.advance] at advanced
      split at advanced
      · obtain ⟨⟨shared', call'⟩, nextEq, rfl⟩ := Option.map_eq_some_iff.mp advanced
        apply invariant.advance lawful callAt nextEq ?_ (spares call callAt)
        intro id visits scans
        cases visits
        exact once call callAt scans
      · cases advanced

/-- In every run that spares listed sessions, only stale sessions have been removed and
every count is the number of removed sessions. -/
theorem onlyStale_run (lawful : model.Lawful admits okStore okCall)
    {actions : List (WatchedAction μ)} (run : exec model.step model.watch actions = some state)
    (admitted : Meets model.step (StoreModel.Admits admits) model.watch actions)
    (once : Meets model.step model.IteratesOnce model.watch actions)
    (spares : Meets model.step model.Spares model.watch actions) :
    state.OnlyStale ∧ state.CountsRemoved model := by
  have invariant : Invariant model okStore okCall state :=
    exec_invariant_of_meets (fun inv guarded stepEq => inv.step lawful guarded stepEq)
      (.initial lawful) (admitted.and (once.and spares)) run
  constructor
  · intro eviction member now timeout requested
    have stale := (invariant.sound.aged (List.mem_map_of_mem member)).2 now timeout requested
    have after := invariant.later eviction member now timeout requested
    exact Nat.lt_of_lt_of_le stale (Nat.sub_le_sub_right after _)
  · intro k call count callAt returned
    have viewAt : (state.pool.calls.map model.view)[k]? = some (.returned count) := by
      rw [List.getElem?_map, callAt, Option.map_some, returned]
    have counted := invariant.sound.counted viewAt
    simpa [Sweep.Counts, List.countP_map, Function.comp_def] using counted

end Watched

end FerroTunnel.Tunnel
