import FerroTunnel.RateLimit.SessionRateLimiter
import FerroTunnel.Tunnel.Interoperation

/-!
# Building a server from its configuration

The server builds a semaphore for its sessions when it starts, a codec for each
connection, and a rate limiter and a semaphore for the streams of each session.  Each
constructor has a domain of its own, and leaves it with a panic.

The check of the configuration covers the codec and the rate limiter.  It puts no upper
bound on the two counts that become semaphores, and a semaphore has one.
-/

namespace FerroTunnel.Tunnel

open FerroTunnel.Arith
open FerroTunnel.Checked
open FerroTunnel.RateLimit
open FerroTunnel.Wire

/-! ## Semaphores -/

/-- The most permits of a semaphore: `usize::MAX >> 3`. -/
def MAX_PERMITS : Nat := (2 ^ 64 - 1) / 8

/-- A semaphore of tokio. -/
structure Semaphore where
  permits : Nat
  permits_le : permits ≤ MAX_PERMITS
deriving DecidableEq

/-- A new semaphore; too many permits panic. -/
def Semaphore.new (permits : Nat) : Except Panic Semaphore :=
  if bounded : permits ≤ MAX_PERMITS then
    .ok ⟨permits, bounded⟩
  else
    .error ⟨s!"a semaphore may not have more than MAX_PERMITS permits ({MAX_PERMITS})"⟩

theorem Semaphore.new_eq_ok_iff {permits : Nat} {semaphore : Semaphore} :
    new permits = .ok semaphore ↔ semaphore.permits = permits := by
  rw [new]
  split
  · obtain ⟨held, bounded⟩ := semaphore
    simp [eq_comm]
  · rename_i unbounded
    constructor
    · intro impossible
      cases impossible
    · rintro rfl
      exact absurd semaphore.permits_le unbounded

theorem Semaphore.exists_new_iff (permits : Nat) :
    (∃ semaphore, new permits = .ok semaphore) ↔ permits ≤ MAX_PERMITS := by
  simp only [new_eq_ok_iff]
  constructor
  · rintro ⟨semaphore, rfl⟩
    exact semaphore.permits_le
  · intro bounded
    exact ⟨⟨permits, bounded⟩, rfl⟩

/-! ## Resource limits -/

/-- Per-session stream limits. -/
structure StreamLimits where
  streamSemaphore : Semaphore
  maxStreams : Nat
deriving DecidableEq

/-- The limit of the streams of a session. -/
def StreamLimits.new (maxStreams : Nat) : Except Panic StreamLimits := do
  let streamSemaphore ← Semaphore.new maxStreams
  return { streamSemaphore, maxStreams }

/-- Global server resource limits. -/
structure ServerResourceLimits where
  sessionSemaphore : Semaphore
  maxSessions : Nat
  maxStreamsPerSession : Nat
  maxInflightFrames : Nat
deriving DecidableEq

/-- The limits of a server. -/
def ServerResourceLimits.new (maxSessions maxStreamsPerSession maxInflightFrames : Nat) :
    Except Panic ServerResourceLimits := do
  let sessionSemaphore ← Semaphore.new maxSessions
  return { sessionSemaphore, maxSessions, maxStreamsPerSession, maxInflightFrames }

/-- Create stream limits for a new session. -/
def ServerResourceLimits.createStreamLimits (limits : ServerResourceLimits) :
    Except Panic StreamLimits :=
  StreamLimits.new limits.maxStreamsPerSession

/-! ## Rate limits -/

/-- The configured rates as the limiter counts them.  A rate that the limiter cannot
count becomes the nearest one that it can. -/
def limiterConfig (config : RateLimitConfig) : RateLimiterConfig where
  streamsPerSec := (NonZeroU32.new config.streamsPerSec).getD .min
  bytesPerSec := (NonZeroU32.new (clampU32 config.bytesPerSec.toNat)).getD .min
  burstFactor := (NonZeroU32.new config.burstFactor).getD .min

/-! ## Start-up -/

/-- What the server builds from its configuration. -/
structure ServerResources (γ : Type) where
  resourceLimits : ServerResourceLimits
  codec : TunnelCodec
  rateLimiter : SessionRateLimiter γ
  streamLimits : StreamLimits

/-- `run_services` builds the resource limits; a connection then builds its codec, and its
session a rate limiter of governor and stream limits. -/
def ServerConfig.startUp {γ : Type} (direct : Quota → RateLimiter γ) (config : ServerConfig) :
    Except Panic (ServerResources γ) := do
  let resourceLimits ← ServerResourceLimits.new config.limits.maxSessions
    config.limits.maxStreamsPerSession config.limits.maxInflightFrames
  let codec ← TunnelCodec.fromLimits config.limits
  let rateLimiter := SessionRateLimiter.new direct (limiterConfig config.rateLimits)
  let streamLimits ← resourceLimits.createStreamLimits
  return { resourceLimits, codec, rateLimiter, streamLimits }

/-- The constructors that can panic, each on its own domain. -/
theorem ServerConfig.exists_startUp_iff {γ : Type} (direct : Quota → RateLimiter γ)
    (config : ServerConfig) :
    (∃ resources, config.startUp direct = .ok resources) ↔
      (∃ semaphore, Semaphore.new config.limits.maxSessions = .ok semaphore) ∧
        (∃ codec, TunnelCodec.fromLimits config.limits = .ok codec) ∧
        ∃ semaphore, Semaphore.new config.limits.maxStreamsPerSession = .ok semaphore := by
  simp only [startUp, ServerResourceLimits.new, ServerResourceLimits.createStreamLimits,
    StreamLimits.new, bind_eq_ok_iff]
  constructor
  · rintro ⟨_, _, ⟨sessions, sessionsEq, made⟩, codec, codecEq, _, ⟨streams, streamsEq, -⟩, -⟩
    cases made
    exact ⟨⟨sessions, sessionsEq⟩, ⟨codec, codecEq⟩, ⟨streams, streamsEq⟩⟩
  · rintro ⟨⟨sessions, sessionsEq⟩, ⟨codec, codecEq⟩, ⟨streams, streamsEq⟩⟩
    exact ⟨_, _, ⟨sessions, sessionsEq, rfl⟩, codec, codecEq, _, ⟨streams, streamsEq, rfl⟩, rfl⟩

/-- A server with an accepted configuration starts, and creates stream limits for its
sessions, exactly when both counts of permits are within the bound of a semaphore. -/
theorem ServerConfig.startUp_iff_permits {γ : Type} (direct : Quota → RateLimiter γ)
    (config : ServerConfig) (valid : config.validate = .ok ()) :
    (∃ resources, config.startUp direct = .ok resources) ↔
      config.limits.maxSessions ≤ MAX_PERMITS ∧
        config.limits.maxStreamsPerSession ≤ MAX_PERMITS := by
  have codec : ∃ codec, TunnelCodec.fromLimits config.limits = .ok codec := by
    obtain ⟨codec, codecEq, -⟩ := TunnelCodec.fromLimits_of_valid (limits_of_validate valid)
    exact ⟨codec, codecEq⟩
  rw [exists_startUp_iff, Semaphore.exists_new_iff, Semaphore.exists_new_iff]
  constructor
  · rintro ⟨sessions, -, streams⟩
    exact ⟨sessions, streams⟩
  · rintro ⟨sessions, streams⟩
    exact ⟨sessions, codec, streams⟩

/-- The configuration of a builder that was given nothing. -/
def ServerConfig.default : ServerConfig where
  token := ""
  limits := .default
  rateLimits := .default
  httpResponseTimeout := 60
  http3BindAddr := none
  http3CertPath := none
  http3KeyPath := none

/-- A limiter without a state, which grants everything. -/
def unlimited (_ : Quota) : RateLimiter Unit where
  check _ := (.ok (), ())
  checkN _ _ := (.ok (.ok ()), ())
  untilNReady _ _ := (.ok (), ())
  pollNReady _ _ := (some (.ok ()), ())

/-- The default limits start a server. -/
theorem ServerConfig.startUp_default :
    ∃ resources, { default with token := "secret" }.startUp unlimited = .ok resources :=
  (startUp_iff_permits unlimited { default with token := "secret" } rfl).mpr
    ⟨by decide, by decide⟩

/-- The configuration with one session more than a semaphore has permits. -/
def ServerConfig.manySessions : ServerConfig :=
  { default with
    token := "secret"
    limits := { LimitsConfig.default with maxSessions := 2 ^ 61 } }

/-- A configuration that is accepted, and from which no server can be built. -/
theorem ServerConfig.startUp_panics :
    manySessions.validate = .ok () ∧
      ∀ resources, manySessions.startUp unlimited ≠ .ok resources := by
  constructor
  · rfl
  intro resources built
  obtain ⟨⟨semaphore, made⟩, -⟩ := (exists_startUp_iff _ _).mp ⟨resources, built⟩
  exact absurd ((Semaphore.exists_new_iff _).mp ⟨semaphore, made⟩) (by decide)

end FerroTunnel.Tunnel
