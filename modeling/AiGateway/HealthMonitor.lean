import Mathlib.Data.Finset.Insert
import AiGateway.Discover
import AiGateway.Lib.Runs

/-! The health monitor of a router. Each round checks every target and tells the balancer
to remove the keys of a provider that became unhealthy, and to insert them again when it
became healthy. -/

namespace AiGateway

open Lib.Runs

inductive InternalError where
  | internal
  | metricsNotConfigured (provider : InferenceProvider)
  deriving DecidableEq, Repr

inductive RuntimeError where
  | init (error : InitError)
  | internal (error : InternalError)
  | channelSendFailed
  | join
  deriving DecidableEq, Repr

/-- One item of a round. The model strategies remove and insert all models of the
target's provider with it. -/
structure HealthTarget where
  provider : InferenceProvider
  key : Key
  group : List (Except InitError Key)

/-- `unhealthy_keys`, the messages sent so far, and how many checks were made. -/
structure HealthState where
  unhealthyKeys : Finset Key
  sent : List Change
  checks : Nat

def HealthState.start : HealthState := ⟨∅, [], 0⟩

structure Surroundings where
  health : Nat → Except InternalError Bool
  clients : Nat → Clients

/-- A custom provider has no metrics to fail by. -/
def checkHealth (surroundings : Surroundings) (check : Nat) (provider : InferenceProvider) :
    Except InternalError Bool :=
  if provider = .custom then .ok true else surroundings.health check

section Checking
variable (decimals : DecimalLibrary) (routerId : RouterId) (routerConfig : RouterConfig)

def sendRemove (item : Except InitError Key) (state : HealthState) : HealthState × Except RuntimeError Unit :=
  match item with
  | .error error => (state, .error (.init error))
  | .ok key =>
    -- the messages of a group are sent concurrently, each for a key of its own
    ({ state with unhealthyKeys := insert key state.unhealthyKeys, sent := state.sent ++ [.remove key] }, .ok ())

/-- The service is made anew for the provider, without a model. -/
def sendInsert (clients : Clients) (provider : InferenceProvider) (item : Except InitError Key) (state : HealthState) :
    HealthState × Except RuntimeError Unit :=
  match item with
  | .error error => (state, .error (.init error))
  | .ok key =>
    match Dispatcher.new clients routerId routerConfig provider with
    | .error error => (state, .error (.init error))
    | .ok service => ({ state with sent := state.sent ++ [.insert key service] }, .ok ())

/-- The body of the four checks' loops. Becoming unhealthy adds the whole group to the
unhealthy keys; becoming healthy takes out the target's own key alone. -/
def checkTarget (surroundings : Surroundings) (target : HealthTarget) (state : HealthState) :
    HealthState × Except RuntimeError Unit :=
  let checked := { state with checks := state.checks + 1 }
  match checkHealth surroundings state.checks target.provider with
  | .error error => (checked, .error (.internal error))
  | .ok isHealthy =>
    let wasUnhealthy := decide (target.key ∈ state.unhealthyKeys)
    if !isHealthy && !wasUnhealthy then forEach sendRemove target.group checked
    else if isHealthy && wasUnhealthy then
      forEach (sendInsert routerId routerConfig (surroundings.clients state.checks) target.provider) target.group
        { checked with unhealthyKeys := state.unhealthyKeys.erase target.key }
    else (checked, .ok ())

/-- A check changes nothing, removes the group of a target that was not held, or inserts
the group of one that was. -/
theorem checkTarget_cases (surroundings : Surroundings) (target : HealthTarget) (state : HealthState) :
    (∃ result, checkTarget routerId routerConfig surroundings target state =
      ({ state with checks := state.checks + 1 }, result)) ∨
    (target.provider ≠ .custom ∧ target.key ∉ state.unhealthyKeys ∧
      checkTarget routerId routerConfig surroundings target state =
        forEach sendRemove target.group { state with checks := state.checks + 1 }) ∨
    (target.key ∈ state.unhealthyKeys ∧ checkHealth surroundings state.checks target.provider = .ok true ∧
      checkTarget routerId routerConfig surroundings target state =
        forEach (sendInsert routerId routerConfig (surroundings.clients state.checks) target.provider) target.group
          ⟨state.unhealthyKeys.erase target.key, state.sent, state.checks + 1⟩) := by
  rcases checked : checkHealth surroundings state.checks target.provider with error | isHealthy
  · exact .inl ⟨.error (.internal error), by simp only [checkTarget, checked]⟩
  · by_cases held : target.key ∈ state.unhealthyKeys
    · cases isHealthy with
      | true => exact .inr (.inr ⟨held, rfl, by simp [checkTarget, checked, held]⟩)
      | false => exact .inl ⟨.ok (), by simp [checkTarget, checked, held]⟩
    · cases isHealthy with
      | true => exact .inl ⟨.ok (), by simp [checkTarget, checked, held]⟩
      | false =>
        have usual : target.provider ≠ .custom := by
          intro custom
          simp [checkHealth, custom] at checked
        exact .inr (.inl ⟨usual, held, by simp [checkTarget, checked, held]⟩)

/-- A target whose weight or model the code cannot use ends the round. -/
def checkListed (surroundings : Surroundings) (item : Except RuntimeError HealthTarget) (state : HealthState) :
    HealthState × Except RuntimeError Unit :=
  match item with
  | .error error => (state, .error error)
  | .ok target => checkTarget routerId routerConfig surroundings target state

def liftInit {α : Type} : Except InitError α → Except RuntimeError α
  | .error error => .error (.init error)
  | .ok value => .ok value

def providerWeightedTarget (endpointType : EndpointType) (target : WeightedProvider) :
    Except InitError HealthTarget := do
  let weight ← weightOf decimals target.provider target.weight
  let key := Key.providerWeighted target.provider endpointType weight
  return ⟨target.provider, key, [.ok key]⟩

def modelWeightedTarget (endpointType : EndpointType) (models : List WeightedModel) (target : WeightedModel) :
    Except InitError HealthTarget := do
  let provider ← providerOf target.model
  let keyOf (target : WeightedModel) : Except InitError Key :=
    (weightOf decimals provider target.weight).map fun weight => .modelWeighted target.model endpointType weight
  let key ← keyOf target
  return ⟨provider, key, (models.filter fun other => other.model.inferenceProvider == some provider).map keyOf⟩

def providerLatencyTarget (endpointType : EndpointType) (provider : InferenceProvider) : HealthTarget :=
  let key := Key.providerLatency provider endpointType
  ⟨provider, key, [.ok key]⟩

def modelLatencyTarget (endpointType : EndpointType) (models : List ModelId) (model : ModelId) :
    Except InitError HealthTarget := do
  let provider ← providerOf model
  let keyOf (model : ModelId) : Except InitError Key := .ok (.modelLatency model endpointType)
  return ⟨provider, .modelLatency model endpointType,
    (models.filter fun other => other.inferenceProvider == some provider).map keyOf⟩

/-- The targets a strategy's monitor goes through for one endpoint kind. It takes only its
own kind of balance configuration. -/
def healthTargets (strategy : Strategy) (endpointType : EndpointType) (balance : BalanceConfigInner) :
    List (Except RuntimeError HealthTarget) :=
  match strategy, balance with
  | .providerWeighted, .providerWeighted providers =>
    providers.items.map fun target => liftInit (providerWeightedTarget decimals endpointType target)
  | .modelWeighted, .modelWeighted models =>
    models.items.map fun target => liftInit (modelWeightedTarget decimals endpointType models.items target)
  | .providerLatency, .balancedLatency providers =>
    providers.items.map fun provider => .ok (providerLatencyTarget endpointType provider)
  | .modelLatency, .modelLatency models =>
    models.items.map fun model => liftInit (modelLatencyTarget endpointType models.items model)
  | _, _ => [.error (.internal .internal)]

def checkMonitor (strategy : Strategy) (surroundings : Surroundings) :
    HealthState → HealthState × Except RuntimeError Unit :=
  forEach
    (fun entry =>
      forEach (checkListed routerId routerConfig surroundings) (healthTargets decimals strategy entry.1 entry.2))
    routerConfig.loadBalance.entries

def checkProviderWeightedMonitor := checkMonitor decimals routerId routerConfig .providerWeighted
def checkModelWeightedMonitor := checkMonitor decimals routerId routerConfig .modelWeighted
def checkProviderLatencyMonitor := checkMonitor decimals routerId routerConfig .providerLatency
def checkModelLatencyMonitor := checkMonitor decimals routerId routerConfig .modelLatency

def roundTargets (strategy : Strategy) : List (Except RuntimeError HealthTarget) :=
  routerConfig.loadBalance.entries.flatMap fun entry => healthTargets decimals strategy entry.1 entry.2

theorem checkMonitor_eq (strategy : Strategy) (surroundings : Surroundings) (state : HealthState) :
    checkMonitor decimals routerId routerConfig strategy surroundings state =
      forEach (checkListed routerId routerConfig surroundings) (roundTargets decimals routerConfig strategy) state :=
  forEach_flatMap _ _ _ _

end Checking

end AiGateway
