import FerroTunnel.Arith.NonZero
import FerroTunnel.Arith.Pieces

/-!
# Rate limits of a session

`SessionRateLimiter` keeps two rate limiters of governor, one for opened streams and
one for bytes.  Governor itself is a parameter: a state and the operations on it,
with `Grants` for the one fact about it that the session relies on.  A limiter
whose state is `Metered` records each request and its answer, so what a session
is charged is read off governor's own answers.

`throttle_data` waits for a payload of any size in chunks that the quota can
grant.
-/

namespace FerroTunnel.RateLimit

open FerroTunnel.Arith

universe u v

/-- Session rate limiter configuration. -/
structure RateLimiterConfig where
  streamsPerSec : NonZeroU32
  bytesPerSec : NonZeroU32
  burstFactor : NonZeroU32

/-- The absolute burst capacity of a rate and a multiplier. -/
def scaledBurst (rate burstFactor : NonZeroU32) : NonZeroU32 :=
  (NonZeroU32.new (saturatingMul rate.get burstFactor.get)).getD NonZeroU32.max

/-- Upper bound, in seconds of quota, on a single throttle wait. -/
def MAX_THROTTLE_CHUNK_SECS : UInt32 := 30

/-- Neither factor is zero, so neither is the product. -/
theorem toNat_scaledBurst (rate burstFactor : NonZeroU32) :
    (scaledBurst rate burstFactor).get.toNat =
      min (rate.get.toNat * burstFactor.get.toNat) (2 ^ 32 - 1) := by
  have product : 0 < rate.get.toNat * burstFactor.get.toNat :=
    Nat.mul_pos rate.toNat_pos burstFactor.toNat_pos
  have pos : 0 < (saturatingMul rate.get burstFactor.get).toNat := by
    rw [toNat_saturatingMul]
    omega
  obtain ⟨nonzero, made⟩ := NonZeroU32.new_of_pos _ pos
  rw [scaledBurst, made, Option.getD_some, toNat_saturatingMul]

/-! ## Governor -/

/-- A quota: cells that are replenished each second, up to a burst. -/
structure Quota where
  perSecond : NonZeroU32
  burst : NonZeroU32

/-- More cells were requested than the burst has. -/
structure InsufficientCapacity where
  burst : NonZeroU32

/-- The cells do not conform yet. -/
structure NotUntil where

/-- The answer to a wait for cells. -/
abbrev WaitAnswer := Except InsufficientCapacity Unit

/-- A rate limiter of governor over a state `γ`, which is its clock and its past
charges.  `pollNReady` is one poll of the future of `until_n_ready`, without an
answer as long as the cells do not conform. -/
structure RateLimiter (γ : Type u) where
  check : γ → Except NotUntil Unit × γ
  checkN : NonZeroU32 → γ → Except InsufficientCapacity (Except NotUntil Unit) × γ
  untilNReady : NonZeroU32 → γ → WaitAnswer × γ
  pollNReady : NonZeroU32 → γ → Option WaitAnswer × γ

/-- Waits for no more cells than the burst are granted, sooner or later. -/
structure RateLimiter.Grants {γ : Type u} (limiter : RateLimiter γ) (burst : NonZeroU32) :
    Prop where
  untilNReady : ∀ n state, n.get.toNat ≤ burst.get.toNat →
    (limiter.untilNReady n state).1 = .ok ()
  pollNReady : ∀ n state answer, n.get.toNat ≤ burst.get.toNat →
    (limiter.pollNReady n state).1 = some answer → answer = .ok ()

/-- The future of `until_n_ready`, awaited: there always is an answer. -/
def RateLimiter.await {γ : Type u} (limiter : RateLimiter γ) (n : NonZeroU32) (state : γ) :
    Option WaitAnswer × γ :=
  let waited := limiter.untilNReady n state
  (some waited.1, waited.2)

/-! ## A record of the requests -/

/-- A wait for cells of the byte quota and its answer. -/
structure Wait where
  cells : NonZeroU32
  answer : WaitAnswer

/-- The cells that a wait consumed. -/
def Wait.charged (wait : Wait) : Nat :=
  match wait.answer with
  | .ok () => wait.cells.get.toNat
  | .error _ => 0

/-- A request to a limiter, with its answer. -/
inductive LimiterCall
  | check (answer : Except NotUntil Unit)
  | checkN (cells : NonZeroU32) (answer : Except InsufficientCapacity (Except NotUntil Unit))
  | wait (made : Wait)

/-- The cells that a request consumed: those of a check that conforms and those of a
wait that is granted.  A single cell is checked for a stream, not for bytes. -/
def LimiterCall.charged : LimiterCall → Nat
  | .check _ => 0
  | .checkN cells (.ok (.ok ())) => cells.get.toNat
  | .checkN _ _ => 0
  | .wait made => made.charged

/-- The answer to a check of a single cell. -/
def LimiterCall.verdict? : LimiterCall → Option (Except NotUntil Unit)
  | .check answer => some answer
  | _ => none

/-- A state of governor with the requests made so far. -/
structure Metered (γ : Type u) where
  governor : γ
  calls : List LimiterCall

namespace Metered

variable {γ : Type u}

/-- The cells consumed so far. -/
def charged (metered : Metered γ) : Nat :=
  (metered.calls.map LimiterCall.charged).sum

/-- The answers to the checks of single cells so far. -/
def verdicts (metered : Metered γ) : List (Except NotUntil Unit) :=
  metered.calls.filterMap LimiterCall.verdict?

/-- A wait that is recorded when it is answered. -/
def wait (wait : NonZeroU32 → γ → Option WaitAnswer × γ) (n : NonZeroU32) (metered : Metered γ) :
    Option WaitAnswer × Metered γ :=
  let waited := wait n metered.governor
  (waited.1, ⟨waited.2, metered.calls ++ (waited.1.map fun answer => .wait ⟨n, answer⟩).toList⟩)

end Metered

/-- The limiter with a record of its requests. -/
def RateLimiter.metered {γ : Type u} (limiter : RateLimiter γ) : RateLimiter (Metered γ) where
  check metered :=
    let checked := limiter.check metered.governor
    (checked.1, ⟨checked.2, metered.calls ++ [.check checked.1]⟩)
  checkN n metered :=
    let checked := limiter.checkN n metered.governor
    (checked.1, ⟨checked.2, metered.calls ++ [.checkN n checked.1]⟩)
  untilNReady n metered :=
    let waited := limiter.untilNReady n metered.governor
    (waited.1, ⟨waited.2, metered.calls ++ [.wait ⟨n, waited.1⟩]⟩)
  pollNReady := Metered.wait limiter.pollNReady

/-! ## The limiter of a session -/

/-- Rate limit errors. -/
inductive RateLimitError
  | streamRateLimited
  | bytesRateLimited
deriving DecidableEq

/-- Rate limiter for a single session.  `bytes_burst` and `bytes_per_sec` repeat the
byte quota. -/
structure SessionRateLimiter (γ : Type u) where
  streamLimiter : RateLimiter γ
  bytesLimiter : RateLimiter γ
  bytesBurst : NonZeroU32
  bytesPerSec : NonZeroU32

/-- Where a throttle stops: the bytes it still waits for, and what it leaves of
governor and of the state that `on_progress` works on. -/
structure Throttled (γ : Type u) (σ : Type v) where
  remaining : Nat
  governor : γ
  progress : σ

namespace SessionRateLimiter

variable {γ : Type u} {σ : Type v}

/-- Create a new session rate limiter; `direct` makes a limiter of a quota. -/
def new (direct : Quota → RateLimiter γ) (config : RateLimiterConfig) : SessionRateLimiter γ :=
  let streamQuota := ⟨config.streamsPerSec, scaledBurst config.streamsPerSec config.burstFactor⟩
  let bytesBurst := scaledBurst config.bytesPerSec config.burstFactor
  let bytesQuota := ⟨config.bytesPerSec, bytesBurst⟩
  { streamLimiter := direct streamQuota
    bytesLimiter := direct bytesQuota
    bytesBurst := bytesBurst
    bytesPerSec := config.bytesPerSec }

/-- The session's limiter with a record of its requests. -/
def metered (limiter : SessionRateLimiter γ) : SessionRateLimiter (Metered γ) :=
  { limiter with
    streamLimiter := limiter.streamLimiter.metered
    bytesLimiter := limiter.bytesLimiter.metered }

/-- One cell for each opened stream. -/
def checkStreamOpen (limiter : SessionRateLimiter γ) (governor : γ) :
    Except RateLimitError Unit × γ :=
  match limiter.streamLimiter.check governor with
  | (.ok (), governor) => (.ok (), governor)
  | (.error _, governor) => (.error .streamRateLimited, governor)

/-- Whether the bytes can be sent now. -/
def checkData (limiter : SessionRateLimiter γ) (bytes : Nat) (governor : γ) :
    Except RateLimitError Unit × γ :=
  match NonZeroU32.new (clampU32 bytes) with
  -- Zero-length frames consume no quota.
  | none => (.ok (), governor)
  | some n =>
      match limiter.bytesLimiter.checkN n governor with
      | (.ok (.ok ()), governor) => (.ok (), governor)
      | (.ok (.error _), governor) => (.error .bytesRateLimited, governor)
      | (.error _, governor) => (.error .bytesRateLimited, governor)

/-- The largest chunk of a throttle. -/
def chunkCap (limiter : SessionRateLimiter γ) : UInt32 :=
  min limiter.bytesBurst.get (saturatingMul limiter.bytesPerSec.get MAX_THROTTLE_CHUNK_SECS)

/-- Wait for one chunk: the bytes it counts for, unless it is still waited for. -/
def throttleChunk (limiter : SessionRateLimiter γ)
    (wait : NonZeroU32 → γ → Option WaitAnswer × γ) (bytes : Nat) (governor : γ) :
    Option Nat × γ :=
  let capped := min (clampU32 bytes) limiter.chunkCap
  match NonZeroU32.new capped with
  | none => (some 0, governor)
  | some n =>
      let waited := wait n governor
      -- The chunk counts even if the quota reports insufficient capacity.
      (waited.1.map fun _ => capped.toNat, waited.2)

variable (limiter : SessionRateLimiter γ)

theorem toNat_chunkCap :
    limiter.chunkCap.toNat = min limiter.bytesBurst.get.toNat
      (min (limiter.bytesPerSec.get.toNat * 30) (2 ^ 32 - 1)) := by
  rw [chunkCap, toNat_min, toNat_saturatingMul]
  rfl

theorem chunkCap_pos : 0 < limiter.chunkCap.toNat := by
  have burst := limiter.bytesBurst.toNat_pos
  have rate := limiter.bytesPerSec.toNat_pos
  rw [toNat_chunkCap]
  omega

theorem chunkCap_le_burst : limiter.chunkCap.toNat ≤ limiter.bytesBurst.get.toNat := by
  rw [toNat_chunkCap]
  exact Nat.min_le_left _ _

/-- A chunk of a payload that is not empty is what the cap leaves of the payload. -/
theorem throttleChunk_of_pos {bytes : Nat} (pos : 0 < bytes) :
    ∃ cells : NonZeroU32, cells.get.toNat = min bytes limiter.chunkCap.toNat ∧
      ∀ wait governor, limiter.throttleChunk wait bytes governor =
        ((wait cells governor).1.map fun _ => cells.get.toNat, (wait cells governor).2) := by
  have capPos := limiter.chunkCap_pos
  have capMax := toNat_le_u32Max limiter.chunkCap
  have capped : (min (clampU32 bytes) limiter.chunkCap).toNat =
      min bytes limiter.chunkCap.toNat := by
    rw [toNat_min, toNat_clampU32]
    omega
  obtain ⟨nonzero, made⟩ := NonZeroU32.new_of_pos
    (min (clampU32 bytes) limiter.chunkCap) (by omega)
  refine ⟨⟨_, nonzero⟩, capped, ?_⟩
  intro wait governor
  rw [throttleChunk]
  simp only [made]

theorem throttleChunk_pos {wait : NonZeroU32 → γ → Option WaitAnswer × γ} {bytes chunk : Nat}
    {governor next : γ} (pos : 0 < bytes)
    (counted : limiter.throttleChunk wait bytes governor = (some chunk, next)) : 0 < chunk := by
  obtain ⟨cells, -, waits⟩ := limiter.throttleChunk_of_pos pos
  rw [waits, Prod.mk.injEq, Option.map_eq_some_iff] at counted
  obtain ⟨⟨_, _, rfl⟩, -⟩ := counted
  exact cells.toNat_pos

/-- Wait chunk by chunk, with a call of `on_progress` after each, until all bytes
conform to the quota or a chunk is still waited for. -/
def throttle (limiter : SessionRateLimiter γ) (wait : NonZeroU32 → γ → Option WaitAnswer × γ)
    (onProgress : σ → σ) (remaining : Nat) (governor : γ) (progress : σ) : Throttled γ σ :=
  if _ : 0 < remaining then
    match _ : limiter.throttleChunk wait remaining governor with
    | (none, governor) => ⟨remaining, governor, progress⟩
    | (some chunk, governor) =>
        limiter.throttle wait onProgress (remaining - chunk) governor (onProgress progress)
  else
    ⟨remaining, governor, progress⟩
termination_by remaining
decreasing_by
  have progress := limiter.throttleChunk_pos ‹0 < remaining› ‹_ = (some chunk, _)›
  omega

/-- One turn of the loop. -/
theorem throttle_of_pos (limiter : SessionRateLimiter γ)
    (wait : NonZeroU32 → γ → Option WaitAnswer × γ) (onProgress : σ → σ) {remaining : Nat}
    (pos : 0 < remaining) (governor : γ) (progress : σ) :
    limiter.throttle wait onProgress remaining governor progress =
      match limiter.throttleChunk wait remaining governor with
      | (none, governor) => ⟨remaining, governor, progress⟩
      | (some chunk, governor) =>
          limiter.throttle wait onProgress (remaining - chunk) governor (onProgress progress) := by
  rw [throttle, dif_pos pos]
  split
  · next counted => rw [counted]
  · next counted => rw [counted]

@[simp]
theorem throttle_zero (limiter : SessionRateLimiter γ)
    (wait : NonZeroU32 → γ → Option WaitAnswer × γ) (onProgress : σ → σ) (governor : γ)
    (progress : σ) :
    limiter.throttle wait onProgress 0 governor progress = ⟨0, governor, progress⟩ := by
  rw [throttle]
  exact dif_neg (Nat.lt_irrefl 0)

/-- `throttle_data`, awaited. -/
def throttleData (limiter : SessionRateLimiter γ) (onProgress : σ → σ) (bytes : Nat)
    (governor : γ) (progress : σ) : Throttled γ σ :=
  limiter.throttle limiter.bytesLimiter.await onProgress bytes governor progress

/-- One poll of the future of `throttle_data`, which does nothing on progress. -/
def pollThrottle (limiter : SessionRateLimiter γ) (remaining : Nat) (governor : γ) :
    Throttled γ Unit :=
  limiter.throttle limiter.bytesLimiter.pollNReady id remaining governor ()

/-! ## What a check and a throttle record -/

/-- A payload that fits `u32` is charged in full or not at all. -/
theorem checkData_metered (limiter : SessionRateLimiter γ) {bytes : Nat} (small : bytes < 2 ^ 32)
    (governor : Metered γ) :
    ∃ answer next, limiter.metered.checkData bytes governor = (answer, next) ∧
      next.verdicts = governor.verdicts ∧
      next.charged = governor.charged + match answer with
        | .ok () => bytes
        | .error _ => 0 := by
  have count : (clampU32 bytes).toNat = bytes := by
    rw [toNat_clampU32]
    omega
  rcases Nat.eq_zero_or_pos bytes with rfl | pos
  · exact ⟨_, _, rfl, rfl, rfl⟩
  obtain ⟨nonzero, made⟩ := NonZeroU32.new_of_pos (clampU32 bytes) (by omega)
  simp only [checkData, made, metered, RateLimiter.metered]
  rcases limiter.bytesLimiter.checkN ⟨clampU32 bytes, nonzero⟩ governor.governor with
    ⟨_ | _ | _, _⟩
  · exact ⟨_, _, rfl, by simp [Metered.verdicts, LimiterCall.verdict?],
      by simp [Metered.charged, LimiterCall.charged]⟩
  · exact ⟨_, _, rfl, by simp [Metered.verdicts, LimiterCall.verdict?],
      by simp [Metered.charged, LimiterCall.charged]⟩
  · exact ⟨_, _, rfl, by simp [Metered.verdicts, LimiterCall.verdict?],
      by simp [Metered.charged, LimiterCall.charged, count]⟩

section Throttle

variable (limiter : SessionRateLimiter γ) (wait : NonZeroU32 → γ → Option WaitAnswer × γ)
  (onProgress : σ → σ)

/-- The loop takes pieces of at most the cap off the payload, each with one wait that
`wait` has answered, and reports each. -/
theorem throttle_metered (remaining : Nat) (governor : Metered γ) (progress : σ) :
    ∃ waits : List Wait,
      let stopped := limiter.metered.throttle (Metered.wait wait) onProgress remaining governor
        progress
      stopped.governor.calls = governor.calls ++ waits.map .wait ∧
        waits.map (·.cells.get.toNat) ++ pieces limiter.chunkCap.toNat stopped.remaining =
          pieces limiter.chunkCap.toNat remaining ∧
        stopped.progress = onProgress^[waits.length] progress ∧
        ∀ made ∈ waits, ∃ state, (wait made.cells state).1 = some made.answer := by
  induction remaining using Nat.strong_induction_on generalizing governor progress with
  | _ remaining ih =>
      rcases Nat.eq_zero_or_pos remaining with rfl | pos
      · exact ⟨[], by simp⟩
      obtain ⟨cells, count, chunk⟩ := limiter.metered.throttleChunk_of_pos pos
      have taken : pieces limiter.chunkCap.toNat remaining =
          cells.get.toNat :: pieces limiter.chunkCap.toNat (remaining - cells.get.toNat) := by
        rw [count]
        exact pieces_of_pos limiter.chunkCap_pos pos
      rw [throttle_of_pos _ _ _ pos, chunk]
      cases answered : (wait cells governor.governor).1 with
      | none =>
          have first : (Metered.wait wait cells governor).1 = none := answered
          have recorded : (Metered.wait wait cells governor).2.calls = governor.calls := by
            simp [Metered.wait, answered]
          refine ⟨[], ?_⟩
          simp [first, recorded]
      | some answer =>
          have first : (Metered.wait wait cells governor).1 = some answer := answered
          have recorded : (Metered.wait wait cells governor).2.calls =
              governor.calls ++ [.wait ⟨cells, answer⟩] := by
            simp [Metered.wait, answered]
          have smaller : remaining - cells.get.toNat < remaining := by
            have := cells.toNat_pos
            omega
          obtain ⟨waits, calls, cut, reported, made⟩ := ih _ smaller
            (Metered.wait wait cells governor).2 (onProgress progress)
          refine ⟨⟨cells, answer⟩ :: waits, ?_⟩
          simp only [first, Option.map_some]
          refine ⟨?_, ?_, reported, ?_⟩
          · rw [calls, recorded, List.append_assoc]
            rfl
          · rw [taken, ← cut]
            rfl
          · intro other member
            rcases List.mem_cons.mp member with rfl | later
            · exact ⟨_, answered⟩
            · exact made other later

end Throttle

/-- Waits for pieces of a payload are for at least one cell and for no more than the
cap, and what they are for is what they take off the payload. -/
theorem bounds_of_pieces {waits : List Wait} {remaining left : Nat}
    (cut : waits.map (·.cells.get.toNat) ++ pieces limiter.chunkCap.toNat left =
      pieces limiter.chunkCap.toNat remaining) :
    (∀ wait ∈ waits,
      1 ≤ wait.cells.get.toNat ∧ wait.cells.get.toNat ≤ limiter.chunkCap.toNat) ∧
      (waits.map (·.cells.get.toNat)).sum + left = remaining := by
  constructor
  · intro wait member
    have piece : wait.cells.get.toNat ∈ pieces limiter.chunkCap.toNat remaining := by
      rw [← cut]
      exact List.mem_append_left _ (List.mem_map.mpr ⟨wait, member, rfl⟩)
    exact ⟨(mem_pieces piece).1, (mem_pieces piece).2.1⟩
  · have total := congrArg List.sum cut
    rw [List.sum_append, sum_pieces limiter.chunkCap_pos, sum_pieces limiter.chunkCap_pos] at total
    exact total

/-- What a throttle charges and what it still waits for is the payload, when waits
within the burst are granted. -/
theorem throttle_charged {wait : NonZeroU32 → γ → Option WaitAnswer × γ}
    (grants : ∀ n state answer, n.get.toNat ≤ limiter.bytesBurst.get.toNat →
      (wait n state).1 = some answer → answer = .ok ())
    (onProgress : σ → σ) (remaining : Nat) (governor : Metered γ) (progress : σ) :
    let stopped := limiter.metered.throttle (Metered.wait wait) onProgress remaining governor
      progress
    stopped.governor.charged + stopped.remaining = governor.charged + remaining ∧
      stopped.governor.verdicts = governor.verdicts := by
  intro stopped
  obtain ⟨waits, calls, cut, -, made⟩ :=
    limiter.throttle_metered wait onProgress remaining governor progress
  obtain ⟨bounds, total⟩ := limiter.bounds_of_pieces cut
  have granted : waits.map Wait.charged = waits.map (·.cells.get.toNat) := by
    apply List.map_congr_left
    intro one member
    obtain ⟨state, answered⟩ := made one member
    have within := Nat.le_trans (bounds one member).2 limiter.chunkCap_le_burst
    rw [Wait.charged, grants one.cells state one.answer within answered]
  have recorded : stopped.governor.calls = governor.calls ++ waits.map .wait := calls
  constructor
  · have sum : stopped.governor.charged = governor.charged + (waits.map Wait.charged).sum := by
      rw [Metered.charged, recorded, List.map_append, List.sum_append, List.map_map]
      rfl
    rw [sum, granted, Nat.add_assoc]
    exact congrArg _ total
  · have none : (waits.map LimiterCall.wait).filterMap LimiterCall.verdict? = [] := by
      simp [List.filterMap_map, LimiterCall.verdict?, Function.comp_def]
    rw [Metered.verdicts, recorded, List.filterMap_append, none, List.append_nil]
    rfl

/-- A throttle waits for no more than it was given. -/
theorem throttle_le (wait : NonZeroU32 → γ → Option WaitAnswer × γ) (onProgress : σ → σ)
    (remaining : Nat) (governor : γ) (progress : σ) :
    (limiter.throttle wait onProgress remaining governor progress).remaining ≤ remaining := by
  induction remaining using Nat.strong_induction_on generalizing governor progress with
  | _ remaining ih =>
      rcases Nat.eq_zero_or_pos remaining with rfl | pos
      · rw [throttle_zero]
      rw [throttle_of_pos _ _ _ pos]
      split
      · exact Nat.le_refl _
      · next chunk next counted =>
        have progress := limiter.throttleChunk_pos pos counted
        exact Nat.le_trans (ih (remaining - chunk) (by omega) _ _) (Nat.sub_le _ _)

/-- An awaited throttle ends with nothing left. -/
theorem throttleData_remaining (onProgress : σ → σ) (bytes : Nat) (governor : γ) (progress : σ) :
    (limiter.throttleData onProgress bytes governor progress).remaining = 0 := by
  unfold throttleData
  induction bytes using Nat.strong_induction_on generalizing governor progress with
  | _ bytes ih =>
      rcases Nat.eq_zero_or_pos bytes with rfl | pos
      · rw [throttle_zero]
      obtain ⟨cells, -, chunk⟩ := limiter.throttleChunk_of_pos pos
      have smaller : bytes - cells.get.toNat < bytes := by
        have := cells.toNat_pos
        omega
      rw [throttle_of_pos _ _ _ pos, chunk]
      exact ih _ smaller _ _

/-- An awaited throttle charges the whole payload. -/
theorem throttleData_charged (grants : limiter.bytesLimiter.Grants limiter.bytesBurst)
    (onProgress : σ → σ) (bytes : Nat) (governor : Metered γ) (progress : σ) :
    let stopped := limiter.metered.throttleData onProgress bytes governor progress
    stopped.governor.charged = governor.charged + bytes ∧
      stopped.governor.verdicts = governor.verdicts := by
  have granted : ∀ n state answer, n.get.toNat ≤ limiter.bytesBurst.get.toNat →
      (limiter.bytesLimiter.await n state).1 = some answer → answer = .ok () := by
    rintro n state _ within ⟨⟩
    exact grants.untilNReady n state within
  obtain ⟨charged, verdicts⟩ := limiter.throttle_charged granted onProgress bytes governor progress
  have finished := limiter.metered.throttleData_remaining onProgress bytes governor progress
  change _ + (limiter.metered.throttleData onProgress bytes governor progress).remaining = _
    at charged
  rw [finished, Nat.add_zero] at charged
  exact ⟨charged, verdicts⟩

/-- A poll charges what it takes off the bytes that are waited for. -/
theorem pollThrottle_charged (grants : limiter.bytesLimiter.Grants limiter.bytesBurst)
    (remaining : Nat) (governor : Metered γ) :
    let stopped := limiter.metered.pollThrottle remaining governor
    stopped.governor.charged + stopped.remaining = governor.charged + remaining :=
  (limiter.throttle_charged grants.pollNReady id remaining governor ()).1

/-- For every configuration and every payload: the waits are feasible and bounded,
they add up to the payload, and progress is reported once for each. -/
theorem throttleData_new (direct : Quota → RateLimiter γ) (config : RateLimiterConfig)
    (onProgress : σ → σ) (bytes : Nat) (governor : γ) (progress : σ) :
    let limiter := new direct config
    let run := limiter.metered.throttleData onProgress bytes ⟨governor, []⟩ progress
    let burst := min (config.bytesPerSec.get.toNat * config.burstFactor.get.toNat) (2 ^ 32 - 1)
    let cap := min burst (min (config.bytesPerSec.get.toNat * 30) (2 ^ 32 - 1))
    limiter.bytesLimiter = direct ⟨config.bytesPerSec, limiter.bytesBurst⟩ ∧
      limiter.bytesBurst.get.toNat = burst ∧
      ∃ waits : List Wait, run.governor.calls = waits.map .wait ∧
        (∀ wait ∈ waits, 1 ≤ wait.cells.get.toNat ∧ wait.cells.get.toNat ≤ burst ∧
          (limiter.bytesLimiter.Grants limiter.bytesBurst → wait.answer = .ok ()) ∧
          wait.cells.get.toNat ≤ 30 * config.bytesPerSec.get.toNat) ∧
        (waits.map (·.cells.get.toNat)).sum = bytes ∧ run.remaining = 0 ∧
        waits.length = bytes ⌈/⌉ cap ∧ run.progress = onProgress^[bytes ⌈/⌉ cap] progress := by
  intro limiter run burst cap
  have burstEq : limiter.bytesBurst.get.toNat = burst := toNat_scaledBurst _ _
  have capEq : limiter.chunkCap.toNat = cap := by
    rw [toNat_chunkCap, burstEq]
    rfl
  have finished : run.remaining = 0 :=
    limiter.metered.throttleData_remaining onProgress bytes ⟨governor, []⟩ progress
  obtain ⟨waits, calls, cut, reported, made⟩ :=
    limiter.throttle_metered limiter.bytesLimiter.await onProgress bytes ⟨governor, []⟩ progress
  obtain ⟨bounds, total⟩ := limiter.bounds_of_pieces cut
  have left : waits.map (·.cells.get.toNat) = pieces limiter.chunkCap.toNat bytes := by
    rw [← cut]
    change _ = _ ++ pieces limiter.chunkCap.toNat run.remaining
    rw [finished, pieces_zero, List.append_nil]
  have count : waits.length = bytes ⌈/⌉ cap := by
    rw [← capEq, ← length_pieces limiter.chunkCap_pos, ← left, List.length_map]
  refine ⟨rfl, burstEq, waits, calls, ?_, ?_, finished, count, ?_⟩
  · intro wait member
    obtain ⟨positive, bounded⟩ := bounds wait member
    have small : cap ≤ burst ∧ cap ≤ 30 * config.bytesPerSec.get.toNat := by omega
    refine ⟨positive, by omega, ?_, by omega⟩
    intro grants
    obtain ⟨state, answered⟩ := made wait member
    rw [← Option.some.inj answered]
    exact grants.untilNReady _ _ (by omega)
  · rw [left]
    exact sum_pieces limiter.chunkCap_pos bytes
  · rw [← count]
    exact reported

end SessionRateLimiter

end FerroTunnel.RateLimit
