import AiGateway.RateLimitMonitor

/-! A balancer with the two monitors that send it changes over one channel. Neither
monitor sees the keys the other one holds. -/

namespace AiGateway

open Lib.Runs

/-- What `update_pending_from_discover` does with one message. -/
def applyChange (services : List (Key × Dispatcher)) : Change → List (Key × Dispatcher)
  | .remove key => removeService services key
  | .insert key service => insertService services key service

structure FailoverState where
  health : HealthState
  rateLimit : RateLimitState
  inFlight : List Change
  services : List (Key × Dispatcher)

/-- The balancer takes the discovered services before it takes any message. -/
def FailoverState.start (discovered : List (Key × Dispatcher)) : FailoverState :=
  ⟨.start, .start, discovered.map fun (key, service) => .insert key service, []⟩

inductive FailoverStep where
  | check (index : Nat) (surroundings : Surroundings)
  | event (event : RateLimitEvent)
  | restore (clients : Clients) (index : Nat)
  | deliver

section Failover
variable (decimals : DecimalLibrary) (policy : FallbackPolicyConfig) (routerId : RouterId) (routerConfig : RouterConfig)
  (strategy : Strategy)

/-- A check takes any target of the round, which gives more orders than the rounds have.
An error of a monitor ends that monitor and then the gateway; runs that go on after it
are included as well, but not after a panic. -/
def failoverStep (state : FailoverState) : FailoverStep → Option FailoverState
  | .check index surroundings =>
    (roundTargets decimals routerConfig strategy)[index]?.map fun item =>
      let health := (checkListed routerId routerConfig surroundings item state.health).1
      { state with health := health, inFlight := state.inFlight ++ health.sent.drop state.health.sent.length }
  | .event event =>
    match onEvent decimals policy routerConfig strategy event state.rateLimit with
    | (_, .error .join) => none
    | (rateLimit, _) =>
      some { state with
        rateLimit := rateLimit, inFlight := state.inFlight ++ rateLimit.sent.drop state.rateLimit.sent.length }
  | .restore clients index =>
    let rateLimit := (onRestore routerId routerConfig clients true index state.rateLimit).1
    some { state with
      rateLimit := rateLimit, inFlight := state.inFlight ++ rateLimit.sent.drop state.rateLimit.sent.length }
  | .deliver =>
    match state.inFlight with
    | [] => none
    | change :: rest => some { state with inFlight := rest, services := applyChange state.services change }

def failoverRun (discovered : List (Key × Dispatcher)) (steps : List FailoverStep) : Option FailoverState :=
  run (failoverStep decimals policy routerId routerConfig strategy) (.start discovered) steps

end Failover

end AiGateway
