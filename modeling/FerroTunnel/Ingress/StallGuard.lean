import FerroTunnel.Transition.Core

/-!
# The stall guard of a streamed response

The HTTP ingress streams an upstream body through a guard with one deadline, which is
set when the guard is made and again when a frame is delivered.  The HTTP/3 ingress
starts a timeout whenever it begins to wait for a frame.

Time is a number of ticks.  The upstream makes items ready and the consumer polls at
any time.  The guard also counts the time in which the consumer does not ask for the
next frame, so after a pause it may fire at once.
-/

namespace FerroTunnel.Ingress

open FerroTunnel.Transition

/-! ## The guards -/

/-- What the upstream has ready. -/
inductive UpstreamItem
  | frame
  | error
  | ended
deriving DecidableEq

/-- What a poll for the next frame answers. -/
inductive GuardedPoll
  | pending
  | ready (item : UpstreamItem)
  | timedOut
deriving DecidableEq

/-- The guard of the HTTP ingress; `sleep` is its deadline. -/
structure TimeoutBody where
  timeout : Nat
  sleep : Nat
deriving DecidableEq

namespace TimeoutBody

/-- A body whose deadline is set. -/
def new (now timeout : Nat) : TimeoutBody :=
  ⟨timeout, now + timeout⟩

/-- Poll the guard when the body below has this item ready, or none. -/
def pollFrame (this : TimeoutBody) (now : Nat) : Option UpstreamItem → GuardedPoll × TimeoutBody
  | some .frame => (.ready .frame, { this with sleep := now + this.timeout })
  | some .error => (.ready .error, this)
  | some .ended => (.ready .ended, this)
  | none => if this.sleep ≤ now then (.timedOut, this) else (.pending, this)

end TimeoutBody

/-- The wait of the HTTP/3 ingress for one frame; it has a deadline once it has begun. -/
structure FrameTimeout where
  timeout : Nat
  deadline : Option Nat
deriving DecidableEq

/-- Poll the wait for a frame, which begins with its first poll. -/
def FrameTimeout.pollFrame (this : FrameTimeout) (now : Nat) :
    Option UpstreamItem → GuardedPoll × FrameTimeout
  | some item => (.ready item, { this with deadline := none })
  | none =>
      let deadline := this.deadline.getD (now + this.timeout)
      (if deadline ≤ now then .timedOut else .pending, { this with deadline := some deadline })

/-! ## Streaming -/

/-- A response that is streamed, under both guards. -/
structure Streaming where
  now : Nat
  upstream : List UpstreamItem
  body : TimeoutBody
  http3 : FrameTimeout
  finished : Bool
  /-- When the last frame was delivered, or the guard was made. -/
  deliveredAt : Nat
  /-- When the consumer began to wait for the next frame. -/
  askedAt : Option Nat
  /-- For how long the consumer has waited with nothing ready. -/
  stalled : Nat
deriving DecidableEq

/-- What happens to a response body. -/
inductive StreamingAction
  | tick
  | arrive (item : UpstreamItem)
  | poll
deriving DecidableEq

namespace Streaming

/-- A body that is not yet polled. -/
def start (timeout : Nat) : Streaming where
  now := 0
  upstream := []
  body := .new 0 timeout
  http3 := ⟨timeout, none⟩
  finished := false
  deliveredAt := 0
  askedAt := none
  stalled := 0

/-- What the guard of the HTTP ingress answers to a poll. -/
def verdict (state : Streaming) : GuardedPoll :=
  (state.body.pollFrame state.now state.upstream.head?).1

/-- What the HTTP/3 ingress would be answered at the same time. -/
def http3Verdict (state : Streaming) : GuardedPoll :=
  (state.http3.pollFrame state.now state.upstream.head?).1

/-- When the consumer that polls now began to wait. -/
def waitsFrom (state : Streaming) : Nat :=
  state.askedAt.getD state.now

/-- Both guards are polled. -/
def poll (state : Streaming) : Streaming :=
  let polled := { state with
    upstream := state.upstream.tail
    body := (state.body.pollFrame state.now state.upstream.head?).2
    http3 := (state.http3.pollFrame state.now state.upstream.head?).2 }
  match state.verdict with
  | .ready .frame => { polled with deliveredAt := state.now, askedAt := none, stalled := 0 }
  | .pending => { polled with askedAt := some state.waitsFrom }
  | _ => { polled with finished := true }

/-- One event of the body. -/
def step : Step Streaming StreamingAction
  | state, .tick => some { state with
      now := state.now + 1
      stalled :=
        if state.askedAt.isSome ∧ state.upstream = [] then state.stalled + 1 else state.stalled }
  | state, .arrive item => some { state with upstream := state.upstream ++ [item] }
  | state, .poll => if state.finished then none else some state.poll

/-- The guard fires only after a stall of the upstream for which the consumer waited, and
only where the HTTP/3 ingress would time out. -/
def FiresOnStalls (state : Streaming) (action : StreamingAction) : Prop :=
  action = .poll → state.finished = false → state.verdict = .timedOut →
    state.body.timeout ≤ state.stalled ∧ state.http3Verdict = .timedOut

/-- A poll that finds nothing ready comes before the timeout after the last delivery, or
after the timeout since the consumer began to wait. -/
def PauseUncounted (state : Streaming) (action : StreamingAction) : Prop :=
  action = .poll → state.finished = false → state.upstream = [] →
    state.now < state.deliveredAt + state.body.timeout ∨
      state.waitsFrom + state.body.timeout ≤ state.now

/-- The consumer asks for a frame at the time the one before it was delivered. -/
def Prompt (state : Streaming) (action : StreamingAction) : Prop :=
  action = .poll → state.finished = false → state.waitsFrom = state.deliveredAt

instance (state : Streaming) (action : StreamingAction) : Decidable (FiresOnStalls state action) :=
  inferInstanceAs (Decidable (_ → _ → _ → _))

instance (state : Streaming) (action : StreamingAction) : Decidable (PauseUncounted state action) :=
  inferInstanceAs (Decidable (_ → _ → _ → _))

instance (state : Streaming) (action : StreamingAction) : Decidable (Prompt state action) :=
  inferInstanceAs (Decidable (_ → _ → _))

/-- The deadlines are those of the last delivery and of the present wait. -/
structure Timed (state : Streaming) : Prop where
  timeout : state.http3.timeout = state.body.timeout
  sleep : state.finished = false → state.body.sleep = state.deliveredAt + state.body.timeout
  deadline : state.finished = false →
    state.http3.deadline = state.askedAt.map (· + state.body.timeout)
  idle : state.askedAt = none → state.stalled = 0
  stalled : state.finished = false → state.upstream = [] →
    state.waitsFrom + state.stalled = state.now

theorem timed_start (timeout : Nat) : (start timeout).Timed where
  timeout := rfl
  sleep := fun _ => rfl
  deadline := fun _ => rfl
  idle := fun _ => rfl
  stalled := fun _ _ => rfl

variable {state next : Streaming}

/-- The deadline of the HTTP/3 ingress counts from when the consumer began to wait. -/
theorem Timed.deadline_getD (timed : state.Timed) (running : state.finished = false) :
    state.http3.deadline.getD (state.now + state.http3.timeout) =
      state.waitsFrom + state.body.timeout := by
  rw [timed.deadline running, timed.timeout, waitsFrom]
  cases state.askedAt <;> rfl

theorem Timed.tick (timed : state.Timed) (stepEq : step state .tick = some next) :
    next.Timed := by
  cases stepEq
  constructor
  · exact timed.timeout
  · exact timed.sleep
  · exact timed.deadline
  · intro unasked
    change state.askedAt = none at unasked
    simp [unasked, timed.idle unasked]
  · intro running empty
    have before := timed.stalled running empty
    simp only [waitsFrom] at before ⊢
    cases asked : state.askedAt with
    | none =>
        rw [timed.idle asked]
        rfl
    | some time =>
        rw [asked] at before
        rw [if_pos ⟨rfl, empty⟩, ← Nat.add_assoc]
        exact congrArg (· + 1) before

theorem Timed.arrive {item : UpstreamItem} (timed : state.Timed)
    (stepEq : step state (.arrive item) = some next) : next.Timed := by
  cases stepEq
  constructor
  · exact timed.timeout
  · exact timed.sleep
  · exact timed.deadline
  · exact timed.idle
  · exact fun _ empty => absurd empty (List.append_ne_nil_of_right_ne_nil _ (List.cons_ne_nil _ _))

/-- A poll that finds nothing ready asks both guards for the time. -/
theorem verdict_of_empty (empty : state.upstream = []) :
    state.verdict = if state.body.sleep ≤ state.now then .timedOut else .pending := by
  rw [verdict, empty]
  simp only [List.head?_nil, TimeoutBody.pollFrame]
  split <;> rfl

theorem http3Verdict_of_empty (timed : state.Timed) (running : state.finished = false)
    (empty : state.upstream = []) :
    state.http3Verdict =
      if state.waitsFrom + state.body.timeout ≤ state.now then .timedOut else .pending := by
  rw [http3Verdict, empty, List.head?_nil]
  simp only [FrameTimeout.pollFrame, timed.deadline_getD running]

/-- Nothing is asked of a guard after its last answer. -/
theorem Timed.of_finished (timed : state.Timed) (isFinished : next.finished = true)
    (timeout : next.http3.timeout = state.http3.timeout ∧ next.body.timeout = state.body.timeout)
    (asked : next.askedAt = state.askedAt ∧ next.stalled = state.stalled) : next.Timed := by
  constructor
  · rw [timeout.1, timeout.2, timed.timeout]
  · exact fun running => absurd isFinished (running ▸ Bool.false_ne_true)
  · exact fun running => absurd isFinished (running ▸ Bool.false_ne_true)
  · rw [asked.1, asked.2]
    exact timed.idle
  · exact fun running => absurd isFinished (running ▸ Bool.false_ne_true)

/-- A poll of a guard that is not over delivers a frame, waits, or is the last one. -/
theorem Timed.poll (timed : state.Timed) (running : state.finished = false) : state.poll.Timed := by
  cases upstream : state.upstream with
  | nil =>
      have verdict := verdict_of_empty upstream
      split at verdict
      · next due =>
        apply timed.of_finished <;> simp [Streaming.poll, verdict, upstream, TimeoutBody.pollFrame,
          FrameTimeout.pollFrame, due]
      · next early =>
        have stalled := timed.stalled running upstream
        simp only [Streaming.poll, verdict, upstream, List.head?_nil, TimeoutBody.pollFrame,
          if_neg early, FrameTimeout.pollFrame]
        constructor
        · exact timed.timeout
        · exact timed.sleep
        · intro _
          exact congrArg some (timed.deadline_getD running)
        · exact fun none => nomatch none
        · exact fun _ _ => stalled
  | cons item rest =>
      cases item with
      | frame =>
          have verdict : state.verdict = .ready .frame := by rw [Streaming.verdict, upstream]; rfl
          simp only [Streaming.poll, verdict, upstream, List.head?_cons, TimeoutBody.pollFrame,
            FrameTimeout.pollFrame]
          constructor
          · exact timed.timeout
          · exact fun _ => rfl
          · exact fun _ => rfl
          · exact fun _ => rfl
          · exact fun _ _ => rfl
      | error =>
          have verdict : state.verdict = .ready .error := by rw [Streaming.verdict, upstream]; rfl
          apply timed.of_finished <;> simp [Streaming.poll, verdict, upstream,
            TimeoutBody.pollFrame, FrameTimeout.pollFrame]
      | ended =>
          have verdict : state.verdict = .ready .ended := by rw [Streaming.verdict, upstream]; rfl
          apply timed.of_finished <;> simp [Streaming.poll, verdict, upstream,
            TimeoutBody.pollFrame, FrameTimeout.pollFrame]

theorem Timed.step {action : StreamingAction} (timed : state.Timed)
    (stepEq : Streaming.step state action = some next) : next.Timed := by
  cases action with
  | tick => exact timed.tick stepEq
  | arrive item => exact timed.arrive stepEq
  | poll =>
      rw [Streaming.step] at stepEq
      split at stepEq
      · cases stepEq
      · next running =>
        cases stepEq
        exact timed.poll (Bool.eq_false_iff.mpr running)

/-! ## When the guard fires -/

/-- A guard fires only where nothing is ready. -/
theorem empty_of_timedOut (fired : state.verdict = .timedOut) : state.upstream = [] := by
  cases upstream : state.upstream with
  | nil => rfl
  | cons item rest =>
      rw [verdict, upstream] at fired
      cases item <;> cases fired

/-- With these deadlines the guard fires early exactly after a counted pause. -/
theorem Timed.firesOnStalls_iff {action : StreamingAction} (timed : state.Timed) :
    FiresOnStalls state action ↔ PauseUncounted state action := by
  constructor
  · intro fires polls running empty
    by_cases early : state.now < state.deliveredAt + state.body.timeout
    · exact .inl early
    · have due : state.verdict = .timedOut := by
        rw [verdict_of_empty empty, timed.sleep running, if_pos (Nat.not_lt.mp early)]
      have late := (fires polls running due).2
      rw [http3Verdict_of_empty timed running empty] at late
      split at late
      · next waited => exact .inr waited
      · cases late
  · intro uncounted polls running fired
    have empty := empty_of_timedOut fired
    have stalled := timed.stalled running empty
    rw [verdict_of_empty empty, timed.sleep running] at fired
    split at fired
    · next due =>
      have waited : state.waitsFrom + state.body.timeout ≤ state.now :=
        (uncounted polls running empty).resolve_left (Nat.not_lt.mpr due)
      rw [http3Verdict_of_empty timed running empty, if_pos waited]
      exact ⟨by omega, rfl⟩
    · cases fired

/-- A consumer without pauses is counted no pause. -/
theorem Prompt.pauseUncounted {action : StreamingAction} (prompt : Prompt state action) :
    PauseUncounted state action := by
  intro polls running _
  rw [prompt polls running]
  exact Nat.lt_or_ge _ _

/-- Over all schedules of the upstream and the consumer, the guard fires only on stalls of
the upstream exactly when no pause of the consumer is counted against it, as for a
consumer that never pauses. -/
theorem firesOnStalls_iff_pauseUncounted (timeout : Nat) (actions : List StreamingAction) :
    (Meets step FiresOnStalls (start timeout) actions ↔
      Meets step PauseUncounted (start timeout) actions) ∧
    (Meets step Prompt (start timeout) actions →
      Meets step FiresOnStalls (start timeout) actions) := by
  have initial := timed_start timeout
  constructor
  · apply Meets.iff_of_invariant _ _ initial
    · exact fun timed stepEq => timed.step stepEq
    · exact fun timed => timed.firesOnStalls_iff
  · apply Meets.imp_of_invariant _ _ initial
    · exact fun timed _ stepEq => timed.step stepEq
    · exact fun timed prompt => timed.firesOnStalls_iff.mpr prompt.pauseUncounted

/-- A consumer that waits from the delivery on sees the upstream stall. -/
theorem firesOnStalls_prompt_consumer :
    Meets step Prompt (start 2) [.arrive .frame, .poll, .poll, .tick, .tick, .poll] ∧
    Meets step FiresOnStalls (start 2) [.arrive .frame, .poll, .poll, .tick, .tick, .poll] :=
  ⟨by decide, (firesOnStalls_iff_pauseUncounted 2
    [.arrive .frame, .poll, .poll, .tick, .tick, .poll]).2 (by decide)⟩

/-- A consumer that pauses after a frame is told of a timeout when it asks for the next
one, for which it has not waited at all. -/
theorem fires_after_pause :
    (exec step (start 2) [.arrive .frame, .poll, .tick, .tick, .poll]).isSome = true ∧
    ¬ Meets step FiresOnStalls (start 2) [.arrive .frame, .poll, .tick, .tick, .poll] := by
  decide

end Streaming

end FerroTunnel.Ingress
