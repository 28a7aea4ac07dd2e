import AiGateway.RateLimitMonitor

/-! The wait that a provider asks for on its way to the monitor's timer: where it is kept, and
where adding to it goes beyond what a duration holds. -/

namespace AiGateway

open Lib.Durations
open SemanticCache (HeaderMap HeaderValue parseU64 visible_of_all)

theorem addDurations_eq_ok {first second sum : Duration} (added : addDurations first second = .ok sum) :
    sum.asNanos = first.asNanos + second.asNanos := by
  rw [addDurations] at added
  split at added
  · cases added
  · next summed =>
    cases added
    exact Duration.checkedAdd_eq_some summed

theorem addDurations_of_lt {first second : Duration} (fits : first.asNanos + second.asNanos < Duration.limit) :
    ∃ sum, addDurations first second = .ok sum := by
  rw [addDurations]
  split
  · next refused =>
    have beyond := Duration.checkedAdd_eq_none refused
    omega
  · next sum _ => exact ⟨sum, rfl⟩

/-- The policy's duration is there just where the wait and the buffer fit together. -/
theorem restoreAfter_ok_iff (policy : FallbackPolicyConfig) (seconds : UInt64) :
    (∃ duration, restoreAfter policy (some seconds) = .ok duration) ↔
      seconds.toNat * nanosPerSec + policy.rateLimit.restoreBuffer.asNanos < Duration.limit := by
  constructor
  · intro ⟨duration, added⟩
    have total := addDurations_eq_ok added
    have bound := duration.asNanos_lt
    rw [Option.getD_some, Duration.asNanos_fromSecs] at total
    exact total ▸ bound
  · intro fits
    apply addDurations_of_lt
    rw [Option.getD_some, Duration.asNanos_fromSecs]
    exact fits

theorem le_restoreAfter {policy : FallbackPolicyConfig} {seconds : UInt64} {duration : Duration}
    (added : restoreAfter policy (some seconds) = .ok duration) : seconds.toNat * nanosPerSec ≤ duration.asNanos := by
  have total := addDurations_eq_ok added
  rw [Option.getD_some, Duration.asNanos_fromSecs] at total
  exact total ▸ Nat.le_add_right _ _

/-- A timer runs for its duration, or to the far future where that is beyond the clock. -/
theorem sleep_cases (now : Instant) (duration : Duration) :
    sleep now duration = now.nanos + duration.asNanos ∨ sleep now duration = now.nanos + farFuture := by
  rw [sleep]
  split
  · exact Or.inl rfl
  · exact Or.inr rfl

theorem onRateLimitEvent_ok {decimals : DecimalLibrary} {config : FallbackPolicyConfig} {routerConfig : RouterConfig}
    {strategy : Strategy} {event : RateLimitEvent} {duration : Duration}
    (resolved : restoreAfter config event.retryAfterSeconds = .ok duration) (now : Instant) (state : RateLimitState) :
    ∃ timer, onRateLimitEvent decimals config routerConfig strategy event now state =
        .ok (onEvent decimals config routerConfig strategy event state, timer) ∧
      ∀ deadline ∈ timer, deadline = sleep now duration := by
  have resolved' : resolvedRateLimitRestoreAfter config event.retryAfterSeconds = .ok duration := resolved
  rw [onRateLimitEvent]
  rw [resolved']
  split
  · exact ⟨none, rfl, nofun⟩
  · split
    · exact ⟨none, rfl, nofun⟩
    · split
      · exact ⟨none, rfl, nofun⟩
      · refine ⟨some (sleep now duration), rfl, ?_⟩
        intro deadline set
        cases set
        rfl

section Header
variable (parseFromStr : List Char → Option Int64) (clock : Int64)

/-- The value of the header asks for a wait of so many seconds: by their number, or by a date
that is so far away. -/
def AsksFor (text : List Char) (seconds : Nat) : Prop :=
  (∃ given, parseU64 text = some given ∧ given.toNat = seconds) ∨
    (parseU64 text = none ∧ ∃ timestamp, parseFromStr text = some timestamp ∧
      timestamp.toInt = clock.toInt + seconds ∧ 0 < seconds)

variable (decimals : DecimalLibrary) (policy : AcceptedPolicy) (routerConfig : RouterConfig) (headers : HeaderMap)

/-- The dispatcher reads the wait, the evaluator's duration is at least as long, and so is the
timer of every restore the monitor sets, unless it is the far future. -/
def CoolsDown (seconds : Nat) : Prop :=
  ∃ given, extractRetryAfter parseFromStr clock headers = .ok (some given) ∧ given.toNat = seconds ∧
    (∃ duration, restoreAfter policy.config (some given) = .ok duration ∧
      seconds * nanosPerSec ≤ duration.asNanos) ∧
    ∀ strategy (event : RateLimitEvent) now state, event.retryAfterSeconds = some given → ∃ outcome timer,
      onRateLimitEvent decimals policy.config routerConfig strategy event now state = .ok (outcome, timer) ∧
      ∀ deadline ∈ timer, now.nanos + seconds * nanosPerSec ≤ deadline ∨ deadline = now.nanos + farFuture

variable {parseFromStr clock decimals policy routerConfig headers}

theorem toNat_toUInt64 {value : Int64} (nonneg : 0 ≤ value.toInt) : (value.toUInt64.toNat : Int) = value.toInt := by
  have order : 0 ≤ value := Int64.le_iff_toInt_le.mpr nonneg
  rw [Int64.toNat_toUInt64_of_le order, Int64.toNatClampNeg]
  exact Int.toNat_of_nonneg nonneg

/-- A wait by a date is read unless the clock stands before the epoch. -/
theorem extractRetryAfter_date {text : List Char} {plain : ∀ c ∈ text, c = '\t' ∨ (32 ≤ c.toNat ∧ c.toNat < 127)}
    (held : headers.get "retry-after" = some (.visible text plain)) (numberless : parseU64 text = none)
    {timestamp : Int64} (parsed : parseFromStr text = some timestamp) {seconds : Nat}
    (away : timestamp.toInt = clock.toInt + seconds) (later : 0 < seconds) (known : 0 ≤ clock.toInt) :
    ∃ given, extractRetryAfter parseFromStr clock headers = .ok (some given) ∧ given.toNat = seconds := by
  have clockNat := toNat_toUInt64 known
  have dated : 0 ≤ timestamp.toInt := by omega
  have dateNat := toNat_toUInt64 dated
  have notBefore : ¬ clock < 0 := by
    rw [Int64.lt_iff_toInt_lt, Int64.toInt_zero]
    omega
  have notNegative : ¬ timestamp < 0 := by
    rw [Int64.lt_iff_toInt_lt, Int64.toInt_zero]
    omega
  have ahead : clock.toUInt64 < timestamp.toUInt64 := UInt64.lt_iff_toNat_lt.mpr (by omega)
  refine ⟨timestamp.toUInt64 - clock.toUInt64, ?_, ?_⟩
  · rw [extractRetryAfter]
    rw [held]
    simp only [numberless, parsed, notBefore, notNegative, ahead, if_true, if_false]
  · rw [UInt64.toNat_sub_of_le _ _ (UInt64.le_of_lt ahead)]
    omega

/-- The wait reaches the evaluator, unless a date is read by a clock before the epoch. -/
theorem extractRetryAfter_iff {text : List Char} {plain : ∀ c ∈ text, c = '\t' ∨ (32 ≤ c.toNat ∧ c.toNat < 127)}
    (held : headers.get "retry-after" = some (.visible text plain)) {seconds : Nat}
    (asks : AsksFor parseFromStr clock text seconds) :
    (∃ given, extractRetryAfter parseFromStr clock headers = .ok (some given) ∧ given.toNat = seconds) ↔
      ((parseU64 text).isSome ∨ 0 ≤ clock.toInt) := by
  rcases asks with ⟨given, number, same⟩ | ⟨numberless, timestamp, parsed, away, later⟩
  · have read : extractRetryAfter parseFromStr clock headers = .ok (some given) := by
      rw [extractRetryAfter]
      rw [held]
      simp only [number]
    rw [number]
    exact ⟨fun _ => Or.inl rfl, fun _ => ⟨given, read, same⟩⟩
  · constructor
    · intro ⟨given, read, _⟩
      right
      by_contra before
      have early : clock < 0 := by
        rw [Int64.lt_iff_toInt_lt, Int64.toInt_zero]
        omega
      rw [extractRetryAfter] at read
      rw [held] at read
      simp only [numberless, parsed, early, if_true] at read
      cases read
    · rintro (number | known)
      · rw [numberless] at number
        cases number
      · exact extractRetryAfter_date held numberless parsed away later known

/-- A wait is kept and added to without a panic just where it fits with the buffer, and where a
clock that it needs does not stand before the epoch. -/
theorem coolsDown_iff {text : List Char} {plain : ∀ c ∈ text, c = '\t' ∨ (32 ≤ c.toNat ∧ c.toNat < 127)}
    (held : headers.get "retry-after" = some (.visible text plain)) {seconds : Nat}
    (asks : AsksFor parseFromStr clock text seconds) :
    CoolsDown parseFromStr clock decimals policy routerConfig headers seconds ↔
      ((parseU64 text).isSome ∨ 0 ≤ clock.toInt) ∧
        seconds * nanosPerSec + policy.config.rateLimit.restoreBuffer.asNanos < Duration.limit := by
  rw [← extractRetryAfter_iff held asks]
  constructor
  · rintro ⟨given, read, rfl, ⟨duration, added, _⟩, _⟩
    exact ⟨⟨given, read, rfl⟩, (restoreAfter_ok_iff policy.config given).mp ⟨duration, added⟩⟩
  · rintro ⟨⟨given, read, rfl⟩, fits⟩
    obtain ⟨duration, added⟩ := (restoreAfter_ok_iff policy.config given).mpr fits
    have enough := le_restoreAfter added
    refine ⟨given, read, rfl, ⟨duration, added, enough⟩, ?_⟩
    intro strategy event now state carried
    rw [← carried] at added
    obtain ⟨timer, done, set⟩ := onRateLimitEvent_ok added now state
    refine ⟨_, timer, done, ?_⟩
    intro deadline member
    rw [set deadline member]
    rcases sleep_cases now duration with whole | far
    · left
      omega
    · exact Or.inr far

theorem FallbackPolicyConfig.default_accepted : FallbackPolicyConfig.default.validate = .ok () := by
  decide +kernel

def defaultPolicy : AcceptedPolicy := ⟨.default, FallbackPolicyConfig.default_accepted⟩

def retryAfterHeader (text : List Char) (plain : ∀ c ∈ text, c = '\t' ∨ (32 ≤ c.toNat ∧ c.toNat < 127)) : HeaderMap where
  get name := if name = "retry-after" then some (.visible text plain) else none

theorem two_minutes_kept :
    AsksFor (fun _ => none) 1700000000 "120".toList 120 ∧
      ∀ decimals routerConfig, CoolsDown (fun _ => none) 1700000000 decimals defaultPolicy routerConfig
        (retryAfterHeader "120".toList (visible_of_all (by decide))) 120 := by
  have number : parseU64 "120".toList = some 120 := by rfl
  have asks : AsksFor (fun _ => none) 1700000000 "120".toList 120 := Or.inl ⟨120, number, rfl⟩
  refine ⟨asks, ?_⟩
  intro decimals routerConfig
  apply (coolsDown_iff rfl asks).mpr
  constructor
  · rw [number]
    exact Or.inl rfl
  · decide +kernel

/-- The largest number of seconds leaves no room for the buffer. -/
theorem largest_wait_panics :
    AsksFor (fun _ => none) 1700000000 "18446744073709551615".toList 18446744073709551615 ∧
      extractRetryAfter (fun _ => none) 1700000000 (retryAfterHeader "18446744073709551615".toList (visible_of_all (by decide))) =
        .ok (some 18446744073709551615) ∧
      restoreAfter defaultPolicy.config (some 18446744073709551615) = .error ⟨"overflow when adding durations"⟩ ∧
      ∀ decimals routerConfig, ¬ CoolsDown (fun _ => none) 1700000000 decimals defaultPolicy routerConfig
        (retryAfterHeader "18446744073709551615".toList (visible_of_all (by decide))) 18446744073709551615 := by
  have read : extractRetryAfter (fun _ => none) 1700000000
      (retryAfterHeader "18446744073709551615".toList (visible_of_all (by decide))) = .ok (some 18446744073709551615) := by
    rfl
  have panics : restoreAfter defaultPolicy.config (some 18446744073709551615) =
      .error ⟨"overflow when adding durations"⟩ := by
    rfl
  refine ⟨Or.inl ⟨18446744073709551615, by rfl, rfl⟩, read, panics, ?_⟩
  intro decimals routerConfig ⟨given, extracted, _, ⟨duration, added, _⟩, _⟩
  rw [read] at extracted
  cases extracted
  rw [panics] at added
  cases added

end Header

end AiGateway
