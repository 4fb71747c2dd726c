import FerroTunnel.RateLimit.SessionRateLimiter
import FerroTunnel.Stream.VirtualStream
import FerroTunnel.Transition.Core

/-!
# Reads under a byte budget

`RateLimitedStream` reads from another stream into a buffer of its own and keeps
the bytes there until the session has paid for them.  The other stream and
governor are parameters, and each keeps a record of what it answers.  One poll
conserves the bytes and the debt: what was withheld and what the inner stream
answers is what is released and what stays withheld, and what governor charges
lowers the debt.  From this follow the facts about any sequence of reads.
-/

namespace FerroTunnel.Stream

open FerroTunnel.RateLimit
open FerroTunnel.Stream.VirtualStream (readBytes)
open FerroTunnel.Transition
open FerroTunnel.Wire

universe u v

/-- The answer of a poll for bytes. -/
abbrev ReadAnswer := Poll (Except IoError Bytes)

/-- A stream metered by a session's limiter.  The throttle is the future of
`throttle_data`, known by the bytes it still waits for.  The release cursor never
passes the end of the pending bytes. -/
structure RateLimitedStream (γ : Type u) (ι : Type v) where
  inner : ι
  limiter : SessionRateLimiter γ
  throttle : Option Nat
  pending : Bytes
  released : Nat
  released_le : released ≤ pending.length

/-- What a call returns, and what it leaves of the stream and of governor. -/
structure ReadOutcome (γ : Type u) (ι : Type v) where
  answer : ReadAnswer
  stream : RateLimitedStream γ ι
  governor : γ

namespace RateLimitedStream

variable {γ : Type u} {ι : Type v}

/-- Meter a stream against a limiter. -/
def new (inner : ι) (limiter : SessionRateLimiter γ) : RateLimitedStream γ ι :=
  ⟨inner, limiter, none, [], 0, Nat.le_refl _⟩

/-- Bytes read and not released yet. -/
def withheld (stream : RateLimitedStream γ ι) : Bytes :=
  stream.pending.drop stream.released

/-- Bytes the session has not paid for yet. -/
def owed (stream : RateLimitedStream γ ι) : Nat :=
  stream.throttle.getD 0

theorem zero_le_length (pending : Bytes) : 0 ≤ pending.length :=
  Nat.zero_le _

/-- The stream after a poll of the inner one, with other pending bytes, none of them
released. -/
def stage (stream : RateLimitedStream γ ι) (inner : ι) (pending : Bytes) :
    RateLimitedStream γ ι :=
  { stream with
    inner := inner
    pending := pending
    released := 0
    released_le := zero_le_length pending }

/-- The stream with another throttle. -/
def withThrottle (stream : RateLimitedStream γ ι) (throttle : Option Nat) :
    RateLimitedStream γ ι :=
  { stream with throttle := throttle }

theorem released_add_le (stream : RateLimitedStream γ ι) (room : Nat) :
    stream.released + min stream.withheld.length room ≤ stream.pending.length := by
  have cursor := stream.released_le
  rw [withheld, List.length_drop]
  omega

/-- The stream with its cursor moved over the bytes that fit the caller's room. -/
def advance (stream : RateLimitedStream γ ι) (room : Nat) : RateLimitedStream γ ι :=
  { stream with
    released := stream.released + min stream.withheld.length room
    released_le := stream.released_add_le room }

/-- Hand buffered bytes to the caller: whether any were released, and which. -/
def drainPending (stream : RateLimitedStream γ ι) (room : Nat) :
    Bool × Bytes × RateLimitedStream γ ι :=
  let available := stream.withheld
  if available = [] then
    (false, [], stream)
  else
    let take := min available.length room
    let advanced := stream.advance room
    if advanced.released = advanced.pending.length then
      (decide (take > 0), available.take take, advanced.stage advanced.inner [])
    else
      (decide (take > 0), available.take take, advanced)

/-- Read from the inner stream into the stream's own buffer, and release the bytes
once they are paid for. -/
def readInner (pollInner : Nat → ι → ReadAnswer × ι) (stream : RateLimitedStream γ ι) (room : Nat)
    (governor : γ) : ReadOutcome γ ι :=
  match pollInner room stream.inner with
  | (.pending, inner) => ⟨.pending, stream.stage inner [], governor⟩
  | (.ready (.error error), inner) => ⟨.ready (.error error), stream.stage inner [], governor⟩
  | (.ready (.ok bytes), inner) =>
      let staged := stream.stage inner bytes
      -- EOF: nothing to meter, and the empty fill signals it to the caller.
      if bytes.length = 0 then
        ⟨.ready (.ok []), staged, governor⟩
      else
        match stream.limiter.checkData bytes.length governor with
        | (.ok (), governor) =>
            let drained := staged.drainPending room
            ⟨.ready (.ok drained.2.1), drained.2.2, governor⟩
        | (.error _, governor) =>
            let polled := stream.limiter.pollThrottle bytes.length governor
            if polled.remaining = 0 then
              let drained := staged.drainPending room
              ⟨.ready (.ok drained.2.1), drained.2.2, polled.governor⟩
            else
              ⟨.pending, staged.withThrottle (some polled.remaining), polled.governor⟩

/-- Release bytes that are paid for, or read more. -/
def readPaid (pollInner : Nat → ι → ReadAnswer × ι) (stream : RateLimitedStream γ ι) (room : Nat)
    (governor : γ) : ReadOutcome γ ι :=
  match stream.drainPending room with
  | (true, bytes, next) => ⟨.ready (.ok bytes), next, governor⟩
  | (false, _, next) => next.readInner pollInner room governor

/-- `poll_read` with a caller's buffer that has `room`: settle the outstanding debt
first. -/
def pollRead (pollInner : Nat → ι → ReadAnswer × ι) (stream : RateLimitedStream γ ι) (room : Nat)
    (governor : γ) : ReadOutcome γ ι :=
  if room = 0 then
    ⟨.ready (.ok []), stream, governor⟩
  else
    match stream.throttle with
    | none => stream.readPaid pollInner room governor
    | some remaining =>
        let polled := stream.limiter.pollThrottle remaining governor
        if polled.remaining = 0 then
          (stream.withThrottle none).readPaid pollInner room polled.governor
        else
          ⟨.pending, stream.withThrottle (some polled.remaining), polled.governor⟩

/-! ## One poll -/

@[simp]
theorem withheld_stage (stream : RateLimitedStream γ ι) (inner : ι) (pending : Bytes) :
    (stream.stage inner pending).withheld = pending := rfl

theorem owed_eq_zero {stream : RateLimitedStream γ ι} (noThrottle : stream.throttle = none) :
    stream.owed = 0 := by
  rw [owed, noThrottle]
  rfl

/-- Nothing but the pending bytes and the cursor differs. -/
structure SameDebt (before after : RateLimitedStream γ ι) : Prop where
  inner : after.inner = before.inner
  limiter : after.limiter = before.limiter
  throttle : after.throttle = before.throttle

/-- With room in the caller's buffer, draining finds nothing withheld, or releases
some bytes and keeps the others. -/
theorem drainPending_cases (stream : RateLimitedStream γ ι) {room : Nat} (positive : 0 < room) :
    (stream.withheld = [] ∧ stream.drainPending room = (false, [], stream)) ∨
    ∃ bytes next, stream.drainPending room = (true, bytes, next) ∧ bytes ≠ [] ∧
      bytes ++ next.withheld = stream.withheld ∧ SameDebt stream next := by
  by_cases empty : stream.withheld = []
  · exact .inl ⟨empty, if_pos empty⟩
  right
  have some : 0 < min stream.withheld.length room :=
    Nat.lt_min.mpr ⟨List.length_pos_iff.mpr empty, positive⟩
  have released : stream.withheld.take (min stream.withheld.length room) ≠ [] := by
    rw [Ne, List.take_eq_nil_iff]
    rintro (none | none)
    · omega
    · exact empty none
  have parts := List.take_append_drop (min stream.withheld.length room) stream.withheld
  have kept : (stream.advance room).withheld =
      stream.withheld.drop (min stream.withheld.length room) := by
    rw [withheld, withheld, List.drop_drop]
    rfl
  by_cases all : (stream.advance room).released = (stream.advance room).pending.length
  · have none : (stream.advance room).withheld = [] := by
      rw [withheld, all, List.drop_length]
    refine ⟨_, (stream.advance room).stage stream.inner [], ?_, released, ?_, rfl, rfl, rfl⟩
    · simp only [drainPending, empty, if_false, all, if_true, some, decide_true]
      rfl
    · rw [withheld_stage, ← none, kept]
      exact parts
  · refine ⟨_, stream.advance room, ?_, released, ?_, rfl, rfl, rfl⟩
    · simp only [drainPending, empty, if_false, all, some, decide_true]
    · rw [kept]
      exact parts

end RateLimitedStream

/-- The inner stream puts no more bytes into a buffer than the buffer has room for. -/
def FitsRoom {ι : Type v} (pollInner : Nat → ι → ReadAnswer × ι) : Prop :=
  ∀ room inner bytes, (pollInner room inner).1 = .ready (.ok bytes) → bytes.length ≤ room

/-- An inner stream with a record of its answers. -/
structure Source (ι : Type v) where
  inner : ι
  answers : List ReadAnswer

namespace Source

variable {ι : Type v}

/-- Poll the inner stream and record the answer. -/
def pollInner (pollInner : Nat → ι → ReadAnswer × ι) (room : Nat) (source : Source ι) :
    ReadAnswer × Source ι :=
  let polled := pollInner room source.inner
  (polled.1, ⟨polled.2, source.answers ++ [polled.1]⟩)

/-- The bytes read from the inner stream. -/
def bytes (source : Source ι) : Bytes :=
  source.answers.flatMap readBytes

end Source

/-- What one call conserves, when it reads `read` from the inner stream: the bytes,
and the debt.  The debt stays covered by withheld bytes, and an empty success with
room means that the inner stream was polled and has ended. -/
structure Conserves {γ : Type u} {ι : Type v} (before : RateLimitedStream (Metered γ) (Source ι))
    (governor : Metered γ) (read : Bytes) (outcome : ReadOutcome (Metered γ) (Source ι)) :
    Prop where
  limiter : outcome.stream.limiter = before.limiter
  source : outcome.stream.inner.bytes = before.inner.bytes ++ read
  bytes : before.withheld ++ read = readBytes outcome.answer ++ outcome.stream.withheld
  debt : outcome.governor.charged + outcome.stream.owed =
    governor.charged + before.owed + read.length
  covered : outcome.stream.owed ≤ outcome.stream.withheld.length
  ended : outcome.answer = .ready (.ok []) →
    outcome.stream.inner.answers = before.inner.answers ++ [.ready (.ok [])]

namespace RateLimitedStream

variable {γ : Type u} {ι : Type v} {limiter : SessionRateLimiter γ}
  {pollInner : Nat → ι → ReadAnswer × ι}
  {stream : RateLimitedStream (Metered γ) (Source ι)} {governor : Metered γ}

/-- Bytes that were just read and are paid for: some of them are released. -/
theorem conserves_drained {inner : Source ι} {bytes : Bytes} {room : Nat} {paid : Metered γ}
    (positive : 0 < room) (nothing : stream.withheld = []) (noThrottle : stream.throttle = none)
    (some : bytes ≠ []) (read : inner.bytes = stream.inner.bytes ++ bytes)
    (charged : paid.charged = governor.charged + bytes.length) :
    let drained := (stream.stage inner bytes).drainPending room
    Conserves stream governor bytes ⟨.ready (.ok drained.2.1), drained.2.2, paid⟩ := by
  rcases (stream.stage inner bytes).drainPending_cases positive with
    ⟨empty, -⟩ | ⟨released, next, drained, released_ne, parts, same⟩
  · exact absurd empty some
  · have unthrottled : next.owed = 0 := owed_eq_zero (same.throttle.trans noThrottle)
    simp only [drained]
    constructor
    · exact same.limiter
    · rw [same.inner]
      exact read
    · rw [nothing]
      exact parts.symm
    · rw [unthrottled, owed_eq_zero noThrottle]
      exact charged
    · simp [unthrottled]
    · intro answer
      cases answer
      exact absurd rfl released_ne

/-- Bytes that were just read and are not paid for: they stay withheld, and all that
is not charged is owed. -/
theorem conserves_throttled {inner : Source ι} {bytes : Bytes} {paid : Metered γ} {left : Nat}
    (nothing : stream.withheld = []) (noThrottle : stream.throttle = none)
    (read : inner.bytes = stream.inner.bytes ++ bytes) (less : left ≤ bytes.length)
    (charged : paid.charged + left = governor.charged + bytes.length) :
    Conserves stream governor bytes
      ⟨.pending, (stream.stage inner bytes).withThrottle (some left), paid⟩ := by
  constructor
  · rfl
  · exact read
  · rw [nothing]
    rfl
  · rw [owed_eq_zero noThrottle]
    exact charged
  · exact less
  · nofun

/-- A call that gets no bytes from the inner stream leaves nothing staged. -/
theorem conserves_unread {inner : Source ι} {answer : ReadAnswer}
    (nothing : stream.withheld = []) (noThrottle : stream.throttle = none)
    (none : readBytes answer = []) (polled : inner.answers = stream.inner.answers ++ [answer]) :
    Conserves stream governor [] ⟨answer, stream.stage inner [], governor⟩ := by
  have free : (stream.stage inner []).owed = 0 := owed_eq_zero noThrottle
  constructor
  · rfl
  · change inner.answers.flatMap readBytes = _
    simp [polled, none, Source.bytes]
  · simp [nothing, none]
  · rfl
  · rw [free]
    exact Nat.zero_le _
  · rintro rfl
    exact polled

variable (grants : limiter.bytesLimiter.Grants limiter.bytesBurst)

include grants

/-- A read of the inner stream, when nothing is withheld or owed. -/
theorem readInner_conserves (fits : FitsRoom pollInner) {room : Nat} (positive : 0 < room)
    (small : room < 2 ^ 32) (metered : stream.limiter = limiter.metered)
    (nothing : stream.withheld = []) (noThrottle : stream.throttle = none) :
    ∃ read, Conserves stream governor read
      (stream.readInner (Source.pollInner pollInner) room governor) := by
  rw [readInner, Source.pollInner]
  rcases polled : pollInner room stream.inner.inner with ⟨(error | bytes) | -, inner⟩
  · exact ⟨[], conserves_unread nothing noThrottle rfl rfl⟩
  · dsimp only
    split
    · next none =>
      obtain rfl := List.length_eq_zero_iff.mp none
      exact ⟨[], conserves_unread nothing noThrottle rfl rfl⟩
    · next count =>
      have some : bytes ≠ [] := fun empty => count (List.length_eq_zero_iff.mpr empty)
      have limit := fits room stream.inner.inner bytes (congrArg Prod.fst polled)
      have read : Source.bytes ⟨inner, stream.inner.answers ++ [.ready (.ok bytes)]⟩ =
          stream.inner.bytes ++ bytes := by
        simp [Source.bytes, readBytes]
      obtain ⟨answer, checked, checks, -, charged⟩ :=
        limiter.checkData_metered (Nat.lt_of_le_of_lt limit small) governor
      refine ⟨bytes, ?_⟩
      rw [metered, checks]
      rcases answer with error | ⟨⟨⟩⟩
      · have paid := limiter.pollThrottle_charged grants bytes.length checked
        simp only [charged, Nat.add_zero] at paid
        dsimp only
        split
        · next finished =>
          rw [finished, Nat.add_zero] at paid
          exact conserves_drained positive nothing noThrottle some read paid
        · exact conserves_throttled nothing noThrottle read 
            (limiter.metered.throttle_le _ _ _ _ _) paid
      · exact conserves_drained positive nothing noThrottle some read charged
  · exact ⟨[], conserves_unread nothing noThrottle rfl rfl⟩

/-- A read when nothing is owed: bytes that are withheld come first. -/
theorem readPaid_conserves (fits : FitsRoom pollInner) {room : Nat} (positive : 0 < room)
    (small : room < 2 ^ 32) (metered : stream.limiter = limiter.metered)
    (noThrottle : stream.throttle = none) (governor : Metered γ) :
    ∃ read, Conserves stream governor read
      (stream.readPaid (Source.pollInner pollInner) room governor) := by
  rw [readPaid]
  rcases stream.drainPending_cases positive with
    ⟨nothing, drained⟩ | ⟨released, next, drained, released_ne, parts, same⟩
  · rw [drained]
    exact readInner_conserves grants fits positive small metered nothing noThrottle
  · have unthrottled : next.owed = 0 := owed_eq_zero (same.throttle.trans noThrottle)
    rw [drained]
    refine ⟨[], same.limiter, ?_, ?_, ?_, ?_, ?_⟩
    · rw [same.inner, List.append_nil]
    · rw [List.append_nil]
      exact parts.symm
    · rw [unthrottled, owed_eq_zero noThrottle]
      rfl
    · rw [unthrottled]
      exact Nat.zero_le _
    · intro answer
      cases answer
      exact absurd rfl released_ne

/-- A poll with room in the caller's buffer. -/
theorem pollRead_conserves (fits : FitsRoom pollInner) {room : Nat} (positive : 0 < room)
    (small : room < 2 ^ 32) (metered : stream.limiter = limiter.metered)
    (covered : stream.owed ≤ stream.withheld.length) (governor : Metered γ) :
    ∃ read, Conserves stream governor read
      (stream.pollRead (Source.pollInner pollInner) room governor) := by
  rw [pollRead, if_neg (Nat.ne_of_gt positive)]
  split
  · next noThrottle => exact readPaid_conserves grants fits positive small metered noThrottle _
  · next remaining throttled =>
    have owes : stream.owed = remaining := by
      rw [owed, throttled]
      rfl
    have paid := limiter.pollThrottle_charged grants remaining governor
    rw [← metered] at paid
    dsimp only
    split
    · next finished =>
      -- the debt is settled first, and the read goes on without a throttle
      have settled : (stream.withThrottle none).limiter = limiter.metered := metered
      obtain ⟨read, rest⟩ := readPaid_conserves grants fits positive small settled rfl
        (stream.limiter.pollThrottle remaining governor).governor
      refine ⟨read, rest.limiter, rest.source, rest.bytes, ?_, rest.covered, rest.ended⟩
      rw [rest.debt, owes, ← paid, finished]
      rfl
    · refine ⟨[], rfl, (List.append_nil _).symm, List.append_nil _, ?_, ?_, nofun⟩
      · rw [owes]
        exact paid
      · have less : (stream.limiter.pollThrottle remaining governor).remaining ≤ remaining :=
          stream.limiter.throttle_le _ _ _ _ _
        exact Nat.le_trans less (owes ▸ covered)

end RateLimitedStream

/-! ## Any sequence of reads -/

/-- A metered stream and governor, with the bytes released to the callers. -/
structure Metering (γ : Type u) (ι : Type v) where
  stream : RateLimitedStream (Metered γ) (Source ι)
  governor : Metered γ
  delivered : Bytes

namespace Metering

section Runs

variable {γ : Type u} {ι : Type v}

/-- A new stream, before the first read. -/
def start (limiter : SessionRateLimiter γ) (governor : γ) (inner : ι) : Metering γ ι :=
  ⟨.new ⟨inner, []⟩ limiter.metered, ⟨governor, []⟩, []⟩

/-- One read, with a buffer whose room is below `u32`. -/
def step (pollInner : Nat → ι → ReadAnswer × ι) : Step (Metering γ ι) Nat := fun state room =>
  if room < 2 ^ 32 then
    let outcome := state.stream.pollRead (Source.pollInner pollInner) room state.governor
    some ⟨outcome.stream, outcome.governor, state.delivered ++ readBytes outcome.answer⟩
  else
    none

/-- Everything read is released or withheld, everything read is charged or owed,
and the debt is covered by withheld bytes. -/
structure Sound (limiter : SessionRateLimiter γ) (state : Metering γ ι) : Prop where
  limiter : state.stream.limiter = limiter.metered
  bytes : state.stream.inner.bytes = state.delivered ++ state.stream.withheld
  debt : state.governor.charged + state.stream.owed = state.stream.inner.bytes.length
  covered : state.stream.owed ≤ state.stream.withheld.length

variable {limiter : SessionRateLimiter γ} {pollInner : Nat → ι → ReadAnswer × ι}
  {state next : Metering γ ι}

theorem sound_start (governor : γ) (inner : ι) : (start limiter governor inner).Sound limiter :=
  ⟨rfl, rfl, rfl, Nat.le_refl 0⟩

theorem Sound.step (grants : limiter.bytesLimiter.Grants limiter.bytesBurst)
    (fits : FitsRoom pollInner) {room : Nat} (sound : state.Sound limiter)
    (stepEq : step pollInner state room = some next) : next.Sound limiter := by
  unfold Metering.step at stepEq
  split at stepEq
  · next small =>
    cases stepEq
    rcases Nat.eq_zero_or_pos room with rfl | positive
    · -- a buffer without room: nothing happens
      refine ⟨sound.limiter, ?_, sound.debt, sound.covered⟩
      exact sound.bytes.trans (congrArg (· ++ _) (List.append_nil _).symm)
    obtain ⟨read, conserves⟩ := RateLimitedStream.pollRead_conserves grants fits positive small
      sound.limiter sound.covered state.governor
    constructor
    · exact conserves.limiter.trans sound.limiter
    · rw [conserves.source, sound.bytes, List.append_assoc, conserves.bytes, List.append_assoc]
    · rw [conserves.debt, sound.debt, conserves.source, List.length_append]
    · exact conserves.covered
  · cases stepEq

/-- The released bytes are paid for. -/
theorem Sound.delivered_le (sound : state.Sound limiter) :
    state.delivered.length ≤ state.governor.charged := by
  have total := congrArg List.length sound.bytes
  have debt := sound.debt
  have covered := sound.covered
  rw [List.length_append] at total
  omega

/-- After any reads: the callers have a prefix of the bytes that the inner stream has
answered, the rest of them is withheld, no byte is released before governor has
charged it, every byte is charged once no throttle is outstanding, and an empty
success comes from an empty success of the inner stream. -/
theorem reads_are_paid_for (grants : limiter.bytesLimiter.Grants limiter.bytesBurst)
    (fits : FitsRoom pollInner) (governor : γ) (inner : ι) (rooms : List Nat)
    (run : exec (step pollInner) (start limiter governor inner) rooms = some state) :
    state.delivered <+: state.stream.inner.bytes ∧
      state.stream.inner.bytes = state.delivered ++ state.stream.withheld ∧
      state.delivered.length ≤ state.governor.charged ∧
      (state.stream.throttle = none → state.governor.charged = state.stream.inner.bytes.length) ∧
      ∀ room, 0 < room → room < 2 ^ 32 →
        let outcome := state.stream.pollRead (Source.pollInner pollInner) room state.governor
        outcome.answer = .ready (.ok []) →
          outcome.stream.inner.answers = state.stream.inner.answers ++ [.ready (.ok [])] := by
  have sound : state.Sound limiter :=
    exec_invariant (Sound.step grants fits) (sound_start governor inner) run
  refine ⟨⟨_, sound.bytes.symm⟩, sound.bytes, sound.delivered_le, ?_, ?_⟩
  · intro noThrottle
    have debt := sound.debt
    rw [RateLimitedStream.owed_eq_zero noThrottle] at debt
    exact debt
  · intro room positive small outcome answer
    obtain ⟨read, conserves⟩ := RateLimitedStream.pollRead_conserves grants fits positive small
      sound.limiter sound.covered state.governor
    exact conserves.ended answer

end Runs

/-- A limiter that never has the cells at once, and makes every second poll wait. -/
def slowGovernor (_ : Quota) : RateLimiter Bool where
  check ready := (.ok (), ready)
  checkN _ ready := (.ok (.error {}), ready)
  untilNReady _ ready := (.ok (), ready)
  pollNReady _ ready := (if ready then some (.ok ()) else none, !ready)

/-- One byte a second, and a burst of two. -/
def slowLimiter : SessionRateLimiter Bool :=
  .new slowGovernor ⟨⟨1, by decide⟩, ⟨1, by decide⟩, ⟨2, by decide⟩⟩

theorem slowLimiter_grants : slowLimiter.bytesLimiter.Grants slowLimiter.bytesBurst := by
  constructor
  · intro n ready _
    rfl
  · rintro n (_ | _) answer _ answered
    · cases answered
    · cases answered
      rfl

/-- A stream of three bytes that come at once, as far as they fit, and then its end. -/
def threeBytes (room : Nat) (left : Bytes) : ReadAnswer × Bytes :=
  (.ready (.ok (left.take room)), left.drop room)

theorem threeBytes_fitsRoom : FitsRoom threeBytes := by
  intro room left bytes answered
  cases answered
  exact List.length_take_le _ _

/-- Three bytes arrive, one wait is granted at once and the other one later; the
first buffer after that is too small for all three. -/
theorem slow_reads_are_paid_for : ∃ state,
    exec (step threeBytes) (start slowLimiter true [1, 2, 3]) [4, 4, 2, 5, 5] = some state ∧
    state.delivered = [1, 2, 3] ∧ state.delivered <+: state.stream.inner.bytes ∧
      state.governor.charged = state.stream.inner.bytes.length := by
  have reads : (exec (step threeBytes) (start slowLimiter true [1, 2, 3]) [4, 4, 2, 5, 5]).map
      (fun state => (state.delivered, state.stream.throttle)) = some ([1, 2, 3], none) := by
    decide +kernel
  obtain ⟨state, run, ends⟩ := Option.map_eq_some_iff.mp reads
  obtain ⟨delivered, noThrottle⟩ := Prod.mk.inj ends
  have paid := reads_are_paid_for slowLimiter_grants threeBytes_fitsRoom true [1, 2, 3]
    [4, 4, 2, 5, 5] run
  exact ⟨state, run, delivered, paid.1, paid.2.2.2.1 noThrottle⟩

end Metering

end FerroTunnel.Stream
