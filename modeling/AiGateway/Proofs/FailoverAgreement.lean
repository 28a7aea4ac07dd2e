import AiGateway.Proofs.Restores
import AiGateway.Proofs.HealthStream

/-! When the balancer and its two monitors agree. A key that either monitor holds stays out
of the balancer as long as no monitor inserts a key that the other one still holds. -/

namespace AiGateway.Proofs
open Lib.Runs

def Holds (services : List (Key × Dispatcher)) (key : Key) : Prop := ∃ service, (key, service) ∈ services

def HeldBack (state : FailoverState) (key : Key) : Prop :=
  key ∈ state.health.unhealthyKeys ∨ key ∈ state.rateLimit.rateLimitedProviders

/-- With no message in flight, what a monitor holds is not among the services. -/
def Agree (state : FailoverState) : Prop :=
  state.inFlight = [] → ∀ key, HeldBack state key → ¬ Holds state.services key

def delivered (state : FailoverState) : List (Key × Dispatcher) := state.inFlight.foldl applyChange state.services

def Settles (state : FailoverState) : Prop := ∀ key, HeldBack state key → ¬ Holds (delivered state) key

theorem Settles.agree {state : FailoverState} (settles : Settles state) : Agree state := by
  intro quiet key held
  have out := settles key held
  rwa [delivered, quiet] at out

private theorem holds_removed {services : List (Key × Dispatcher)} {key : Key} {keys : List Key}
    (holds : Holds ((keys.map Change.remove).foldl applyChange services) key) : Holds services key ∧ key ∉ keys := by
  induction keys generalizing services with
  | nil => exact ⟨holds, by simp⟩
  | cons first rest ih =>
    obtain ⟨⟨service, member⟩, later⟩ := ih holds
    obtain ⟨member, different⟩ := List.mem_filter.mp member
    have different : key ≠ first := by simpa using different
    exact ⟨⟨service, member⟩, by simp [different, later]⟩

private theorem holds_inserted {services items : List (Key × Dispatcher)} {key : Key}
    (holds : Holds ((items.map insertion).foldl applyChange services) key) :
    Holds services key ∨ ∃ item ∈ items, item.1 = key := by
  induction items generalizing services with
  | nil => exact .inl holds
  | cons first rest ih =>
    rcases ih holds with ⟨service, member⟩ | ⟨item, member, same⟩
    · rcases List.mem_append.mp member with old | new
      · exact .inl ⟨service, List.mem_of_mem_filter old⟩
      · have same := congrArg Prod.fst (List.mem_singleton.mp new)
        exact .inr ⟨first, List.mem_cons_self, same.symm⟩
    · exact .inr ⟨item, List.mem_cons_of_mem _ member, same⟩

section Runs
variable (decimals : DecimalLibrary) (policy : FallbackPolicyConfig) (routerId : RouterId) (routerConfig : RouterConfig)
  (strategy : Strategy)

/-- No monitor inserts a key while it is held: a provider is found healthy again only while
none of the keys that come back with it is held, its own apart, and a timer runs out only
while the key is not unhealthy. -/
def Exclusive (state : FailoverState) : FailoverStep → Prop
  | .check index surroundings =>
    ∀ target, (roundTargets decimals routerConfig strategy)[index]? = some (.ok target) →
      target.key ∈ state.health.unhealthyKeys →
      checkHealth surroundings state.health.checks target.provider = .ok true →
      ∀ key, .ok key ∈ target.group →
        key ∉ state.rateLimit.rateLimitedProviders ∧ (key ∈ state.health.unhealthyKeys → key = target.key)
  | .restore _ index =>
    ∀ key apiEndpoint, state.rateLimit.pendingRestores[index]? = some (key, apiEndpoint) →
      key ∉ state.health.unhealthyKeys
  | .event _ | .deliver => True

variable {decimals policy routerId routerConfig strategy}

private theorem settles_remove {state : FailoverState} {health : HealthState} {rateLimit : RateLimitState}
    {keys : List Key} (settles : Settles state)
    (held : ∀ key, key ∈ health.unhealthyKeys ∨ key ∈ rateLimit.rateLimitedProviders → key ∈ keys ∨ HeldBack state key) :
    Settles ⟨health, rateLimit, state.inFlight ++ keys.map .remove, state.services⟩ := by
  intro key back holds
  rw [delivered, List.foldl_append] at holds
  obtain ⟨holds, notRemoved⟩ := holds_removed holds
  rcases held key back with removed | before
  · exact notRemoved removed
  · exact settles key before holds

private theorem settles_insert {state : FailoverState} {health : HealthState} {rateLimit : RateLimitState}
    {items : List (Key × Dispatcher)} (settles : Settles state)
    (held : ∀ key, key ∈ health.unhealthyKeys ∨ key ∈ rateLimit.rateLimitedProviders → HeldBack state key)
    (released : ∀ item ∈ items, item.1 ∉ health.unhealthyKeys ∧ item.1 ∉ rateLimit.rateLimitedProviders) :
    Settles ⟨health, rateLimit, state.inFlight ++ items.map insertion, state.services⟩ := by
  intro key back holds
  rw [delivered, List.foldl_append] at holds
  rcases holds_inserted holds with before | ⟨item, member, rfl⟩
  · exact settles key (held key back) before
  · exact back.elim (released item member).1 (released item member).2

private theorem settles_check {state : FailoverState} {index : Nat} {surroundings : Surroundings}
    {listed : Except RuntimeError HealthTarget} (settles : Settles state)
    (found : (roundTargets decimals routerConfig strategy)[index]? = some listed)
    (exclusive : Exclusive decimals routerConfig strategy state (.check index surroundings)) :
    let health := (checkListed routerId routerConfig surroundings listed state.health).1
    Settles { state with health := health, inFlight := state.inFlight ++ health.sent.drop state.health.sent.length } := by
  intro health
  rcases checkListed_cases routerId routerConfig surroundings listed state.health with
    ⟨keys, removes, sent⟩ | ⟨target, items, rfl, held, healthy, erased, sent, fresh⟩
  · rw [show health.sent = _ from sent, List.drop_left]
    apply settles_remove settles
    intro key back
    rcases back with unhealthy | limited
    · exact ((removes key).mp unhealthy).imp id .inl
    · exact .inr (.inr limited)
  · rw [show health.sent = _ from sent, List.drop_left]
    have kept : health.unhealthyKeys = state.health.unhealthyKeys.erase target.key := erased
    apply settles_insert settles
    · intro key back
      rw [kept] at back
      exact back.imp Finset.mem_of_mem_erase id
    · intro item member
      obtain ⟨notLimited, own⟩ := exclusive target found held healthy item.1 (fresh item member).1
      refine ⟨?_, notLimited⟩
      rw [kept]
      intro still
      apply Finset.ne_of_mem_erase still
      exact own (Finset.mem_of_mem_erase still)

private theorem settles_event {state : FailoverState} (event : RateLimitEvent) (settles : Settles state)
    (alive : (onEvent decimals policy routerConfig strategy event state.rateLimit).2 ≠ .error .join) :
    let rateLimit := (onEvent decimals policy routerConfig strategy event state.rateLimit).1
    Settles { state with
      rateLimit := rateLimit, inFlight := state.inFlight ++ rateLimit.sent.drop state.rateLimit.sent.length } := by
  intro rateLimit
  obtain ⟨⟨keys, removes, sent⟩, -⟩ := onEvent_cases decimals policy routerConfig strategy event state.rateLimit alive
  rw [show rateLimit.sent = _ from sent, List.drop_left]
  apply settles_remove settles
  intro key back
  rcases back with unhealthy | limited
  · exact .inr (.inl unhealthy)
  · exact ((removes key).mp limited).imp id .inr

private theorem settles_restore {state : FailoverState} {clients : Clients} {index : Nat} (settles : Settles state)
    (exclusive : Exclusive decimals routerConfig strategy state (.restore clients index)) :
    let rateLimit := (onRestore routerId routerConfig clients true index state.rateLimit).1
    Settles { state with
      rateLimit := rateLimit, inFlight := state.inFlight ++ rateLimit.sent.drop state.rateLimit.sent.length } := by
  intro rateLimit
  obtain ⟨-, ⟨kept, sent⟩ | ⟨key, apiEndpoint, found, erased, sent⟩⟩ := onRestore_cases routerId routerConfig clients true
    index state.rateLimit
  · rw [show rateLimit.sent = _ from sent, List.drop_length, List.append_nil]
    intro key back
    apply settles key
    rcases back with unhealthy | limited
    · exact .inl unhealthy
    · rw [show rateLimit.rateLimitedProviders = _ from kept] at limited
      exact .inr limited
  · rw [show rateLimit.sent = _ from sent, List.drop_left]
    have kept : rateLimit.rateLimitedProviders = state.rateLimit.rateLimitedProviders.erase key := erased
    change Settles ⟨_, _, state.inFlight ++ [(key, freshService routerId routerConfig apiEndpoint.provider)].map insertion, _⟩
    apply settles_insert settles
    · intro other back
      rw [kept] at back
      exact back.imp id Finset.mem_of_mem_erase
    · intro item member
      obtain rfl := List.mem_singleton.mp member
      exact ⟨exclusive key apiEndpoint found, by simp [kept]⟩

private theorem settles_step (state : FailoverState) (step : FailoverStep) (next : FailoverState)
    (settles : Settles state) (exclusive : Exclusive decimals routerConfig strategy state step)
    (taken : failoverStep decimals policy routerId routerConfig strategy state step = some next) : Settles next := by
  cases step with
  | check index surroundings =>
    obtain ⟨listed, found, rfl⟩ := Option.map_eq_some_iff.mp taken
    exact settles_check settles found exclusive
  | event event =>
    obtain ⟨alive, rfl⟩ := failoverStep_event taken
    exact settles_event event settles alive
  | restore clients index =>
    cases taken
    exact settles_restore settles exclusive
  | deliver =>
    -- the services that will be there do not depend on how many messages are still on the way
    simp only [failoverStep] at taken
    split at taken
    next => cases taken
    next change rest waiting =>
      cases taken
      intro key held holds
      apply settles key held
      rwa [delivered, waiting]

variable (decimals policy routerId routerConfig strategy)

/-- In every run whose steps are exclusive, the balancer and the monitors agree in every
state. -/
theorem failover_agrees (discovered : List (Key × Dispatcher)) (steps : List FailoverStep) (state : FailoverState)
    (exclusive : Along (failoverStep decimals policy routerId routerConfig strategy)
      (Exclusive decimals routerConfig strategy) (.start discovered) steps)
    (ran : failoverRun decimals policy routerId routerConfig strategy discovered steps = some state) : Agree state := by
  have start : Settles (.start discovered) := by
    intro key held
    simp [HeldBack, FailoverState.start, HealthState.start, RateLimitState.start] at held
  exact (run_invariant settles_step start exclusive ran).agree

end Runs

def openAIRouter : RouterConfig := ⟨⟨[(.chat, .balancedLatency ⟨[.openAI], by simp, by simp⟩)], by simp⟩, none⟩

def openAIKey : Key := .providerLatency .openAI .chat

def openAIServices : List (Key × Dispatcher) := [(openAIKey, freshService ⟨"main"⟩ openAIRouter .openAI)]

def openAIRun (steps : List FailoverStep) : Option FailoverState :=
  failoverRun exactDecimals .default ⟨"main"⟩ openAIRouter .providerLatency openAIServices steps

def chatLimited : FailoverStep := .event (.new (.openAI .chatCompletions) none)

def limitedThenRestored : List FailoverStep := [.deliver, chatLimited, .deliver, .restore everyClient 0, .deliver]

theorem limited_and_restored_agrees : ∃ state, openAIRun limitedThenRestored = some state ∧ Agree state := by
  refine ⟨_, rfl, failover_agrees exactDecimals .default ⟨"main"⟩ openAIRouter .providerLatency openAIServices
    limitedThenRestored _ ?_ rfl⟩
  have healthy (key : Key) : key ∉ HealthState.start.unhealthyKeys := by simp [HealthState.start]
  exact .intro trivial (.intro trivial (.intro trivial (.intro (fun key _ _ => healthy key) (.intro trivial trivial))))

/-- A provider is found unhealthy while it is rate limited. Its timer puts it back among
the services, and the health monitor, which holds the key, does not remove it again. -/
theorem restored_while_unhealthy :
    ¬ ∀ (routerConfig : RouterConfig) (strategy : Strategy) (discovered : List (Key × Dispatcher))
      (steps : List FailoverStep) (state : FailoverState),
      discover exactDecimals everyClient ⟨"main"⟩ routerConfig strategy = .ok discovered →
      failoverRun exactDecimals .default ⟨"main"⟩ routerConfig strategy discovered steps = some state →
      Agree state := by
  intro agree
  have disagrees := agree openAIRouter .providerLatency openAIServices
    [.deliver, chatLimited, .deliver, .check 0 (steadily false), .deliver, .restore everyClient 0, .deliver]
    _ rfl rfl rfl openAIKey
  exact disagrees (.inl (by decide)) ⟨_, List.mem_cons_self⟩

end AiGateway.Proofs
