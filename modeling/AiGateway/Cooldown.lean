import AiGateway.Config
import AiGateway.SemanticCache
import AiGateway.Lib.Durations

/-! How long a provider that answered with a 429 stays out: the wait that the dispatcher reads
from the answer, what the fallback policy adds to it, and the timer that the monitor sets. -/

namespace AiGateway

open Lib.Durations
open SemanticCache (HeaderMap parseU64)

structure Panic where
  message : String
  deriving DecidableEq, Repr

section Policy

inductive GracePeriod where
  | requests (minRequests : UInt32)
  deriving DecidableEq

structure ProviderFailoverHealthPolicy where
  enabled : Bool
  errorRatioThreshold : Decimal
  interval : Duration
  gracePeriod : GracePeriod

structure ProviderFailoverRateLimitPolicy where
  enabled : Bool
  defaultRetryAfterSeconds : UInt64
  restoreBuffer : Duration

inductive RetryConfig where
  | exponential (minDelay maxDelay : Duration)
  | constant

structure FallbackPolicyConfig where
  enabled : Bool
  retry : RetryConfig
  health : ProviderFailoverHealthPolicy
  rateLimit : ProviderFailoverRateLimitPolicy
  metricsPrefix : List Char

structure InvalidFallbackPolicy where
  message : String
  deriving DecidableEq, Repr

def ProviderFailoverHealthPolicy.default : ProviderFailoverHealthPolicy :=
  ⟨true, ⟨1 / 10⟩, .fromSecs 5, .requests 20⟩

def ProviderFailoverRateLimitPolicy.default : ProviderFailoverRateLimitPolicy := ⟨true, 30, .fromSecs 30⟩

def RetryConfig.default : RetryConfig := .exponential (.fromSecs 1) (.fromSecs 30)

def FallbackPolicyConfig.default : FallbackPolicyConfig :=
  ⟨true, .default, .default, .default, "ai_gateway.fallback".toList⟩

/-- `Decimal::clamp` between zero and one. -/
def Decimal.clampUnit (decimal : Decimal) : Decimal :=
  if decimal.value < 0 then ⟨0⟩ else if 1 < decimal.value then ⟨1⟩ else decimal

def ProviderFailoverHealthPolicy.validate (health : ProviderFailoverHealthPolicy) :
    Except InvalidFallbackPolicy Unit :=
  if !health.enabled then .ok ()
  else if health.interval.isZero then
    .error ⟨"provider-failover.health.interval must be positive when health failover is enabled"⟩
  else if health.errorRatioThreshold.clampUnit ≠ health.errorRatioThreshold then
    .error ⟨"provider-failover.health.error-ratio-threshold must be between 0 and 1 inclusive"⟩
  else
    match health.gracePeriod with
    | .requests minRequests =>
      if minRequests = 0 then .error ⟨"provider-failover.health.grace-period.min-requests must be > 0"⟩ else .ok ()

def ProviderFailoverRateLimitPolicy.validate (rateLimit : ProviderFailoverRateLimitPolicy) :
    Except InvalidFallbackPolicy Unit :=
  if !rateLimit.enabled then .ok ()
  else if rateLimit.defaultRetryAfterSeconds = 0 then
    .error ⟨"provider-failover.rate-limit.default-retry-after-seconds must be > 0 when rate-limit failover is enabled"⟩
  else if rateLimit.restoreBuffer.isZero then
    .error ⟨"provider-failover.rate-limit.restore-buffer must be positive when rate-limit failover is enabled"⟩
  else .ok ()

def RetryConfig.validate : RetryConfig → Except InvalidFallbackPolicy Unit
  | .exponential minDelay maxDelay =>
    if maxDelay.asNanos < minDelay.asNanos then .error ⟨"fallback-policy.retry.min-delay must be <= max-delay"⟩
    else .ok ()
  | .constant => .ok ()

def FallbackPolicyConfig.validate (config : FallbackPolicyConfig) : Except InvalidFallbackPolicy Unit := do
  config.health.validate
  config.rateLimit.validate
  config.retry.validate
  if (trim config.metricsPrefix).isEmpty then .error ⟨"observability.metrics-prefix must be non-empty"⟩ else pure ()

/-- A policy that the gateway starts with. -/
structure AcceptedPolicy where
  config : FallbackPolicyConfig
  accepted : config.validate = .ok ()

/-- `should_remove`, for a provider that answers with a 429. -/
def FallbackPolicyConfig.shouldRemove (policy : FallbackPolicyConfig) : Bool :=
  if !policy.enabled then false else policy.rateLimit.enabled

end Policy

/-- `Duration + Duration`. -/
def addDurations (first second : Duration) : Except Panic Duration :=
  match first.checkedAdd second with
  | none => .error ⟨"overflow when adding durations"⟩
  | some sum => .ok sum

def restoreAfter (policy : FallbackPolicyConfig) (retryAfterHeaderSecs : Option UInt64) : Except Panic Duration :=
  addDurations (.fromSecs (retryAfterHeaderSecs.getD policy.rateLimit.defaultRetryAfterSeconds))
    policy.rateLimit.restoreBuffer

def resolvedRateLimitRestoreAfter (config : FallbackPolicyConfig) (retryAfterSecs : Option UInt64) :
    Except Panic Duration :=
  restoreAfter config retryAfterSecs

/-- The wait that an answer asks for, in seconds. The system's clock counts from the epoch, and
dates are read by the library. -/
def extractRetryAfter (parseFromStr : List Char → Option Int64) (clock : Int64) (headers : HeaderMap) :
    Except Panic (Option UInt64) :=
  match headers.get "retry-after" with
  | none | some .binary => .ok none
  | some (.visible text _) =>
    match parseU64 text with
    | some seconds => .ok (some seconds)
    | none =>
      match parseFromStr text with
      | none => .ok none
      | some timestamp =>
        if clock < 0 then .error ⟨"epoch is always earlier than now"⟩
        else
          let now := clock.toUInt64
          let target := if timestamp < 0 then 0 else timestamp.toUInt64
          if now < target then .ok (some (target - now)) else .ok none

section Timer

/-- The end of the monotonic clock's range. -/
def endOfTime : Nat := 2 ^ 63 * nanosPerSec

/-- Roughly thirty years. -/
def farFuture : Nat := 86400 * 365 * 30 * nanosPerSec

/-- A reading of the monotonic clock, which starts with the machine and so is far from its end. -/
structure Instant where
  nanos : Nat
  present : nanos + farFuture < endOfTime

/-- When `tokio::time::sleep` is over. -/
def sleep (now : Instant) (duration : Duration) : Nat :=
  if now.nanos + duration.asNanos < endOfTime then now.nanos + duration.asNanos else now.nanos + farFuture

end Timer

end AiGateway
