import AiGateway.Cooldown
import AiGateway.HealthMonitor

/-! The rate-limit monitor of a router. A dispatcher whose request is answered with a 429
sends an event. The monitor removes the key the event is about, and inserts it again when
the timer it set has run out. -/

namespace AiGateway

open Lib.Runs
open SemanticCache (HeaderMap)

structure RateLimitEvent where
  apiEndpoint : ApiEndpoint
  modelId : Option ModelId
  retryAfterSeconds : Option UInt64
  deriving DecidableEq

def RateLimitEvent.new (apiEndpoint : ApiEndpoint) (retryAfterSeconds : Option UInt64) : RateLimitEvent :=
  ⟨apiEndpoint, none, retryAfterSeconds⟩

section Mapping
variable (catalog : Catalog)

def Catalog.openAICompatible (provider : InferenceProvider) : Bool :=
  match provider with
  | .custom => true
  | .named _ => catalog.providerModels.any fun offer => offer.1 == provider
  | _ => false

def hasConverter : ApiEndpoint → ApiEndpoint → Bool
  | .openAI .chatCompletions, .anthropicMessages | .openAI .chatCompletions, .googleGenerateContents => true
  | .openAI .chatCompletions, .ollamaChatCompletions | .openAI .chatCompletions, .bedrockConverse => true
  | .openAI source, .openAI target => source == target
  | .openAI source, .openAICompatible provider target =>
    source == target && (source == .chatCompletions || source == .responses) && catalog.openAICompatible provider
  | .anthropicMessages, .anthropicMessages => true
  | _, _ => false

def convertModel (mapper : ModelMapper) (target : ApiEndpoint) (model : ModelId) : Except MapperError ModelId :=
  match target with
  | .openAICompatible provider _ =>
    if catalog.skipsModelMapping provider then .ok model else mapper.mapModel catalog model provider
  | _ => mapper.mapModel catalog model target.provider

inductive MapRequestError where
  | unmapped (error : ApiEndpoint.MapError)
  | invalidConverter (source target : ApiEndpoint)
  | invalidRequestBody
  | mapper (error : MapperError)
  deriving DecidableEq, Repr

/-- Where the mapper of a service sends a request for the source endpoint. Only an image
request may name no model. -/
def mapRequest (dispatcher : Dispatcher) (source : ApiEndpoint) (model : Option ModelId) :
    Except MapRequestError ApiEndpoint :=
  match ApiEndpoint.mapped source dispatcher.provider with
  | .error error => .error (.unmapped error)
  | .ok target =>
    if !hasConverter catalog source target then .error (.invalidConverter source target)
    else
      match model with
      | none => if source = .openAI .imageGenerations then .ok target else .error .invalidRequestBody
      | some model =>
        match convertModel catalog dispatcher.modelMapper target model with
        | .error error => .error (.mapper error)
        | .ok _ => .ok target

def routedEndpoint (routerConfig : RouterConfig) (path : String) : Option ApiEndpoint :=
  (ApiEndpoint.new path).filter fun source => (routerConfig.loadBalance.get source.endpointType).isSome

/-- A request and its answer, with the system's clock when the answer has come. -/
structure Exchange where
  path : String
  model : Option ModelId
  status : Nat
  responseHeaders : HeaderMap
  clock : Int64

/-- The event a service sends after the exchange. It is about the endpoint the request was
mapped to, carries the wait that the answer asks for, and names no model. -/
def rateLimitEvent (parseFromStr : List Char → Option Int64) (routerConfig : RouterConfig) (dispatcher : Dispatcher)
    (exchange : Exchange) : Option RateLimitEvent :=
  match routedEndpoint routerConfig exchange.path with
  | none => none
  | some source =>
    match mapRequest catalog dispatcher source exchange.model with
    | .error _ => none
    | .ok target =>
      if exchange.status = 429 then
        match extractRetryAfter parseFromStr exchange.clock exchange.responseHeaders with
        | .error _ => none
        | .ok retryAfter => some (.new target retryAfter)
      else none

end Mapping

structure RateLimitState where
  rateLimitedProviders : Finset Key
  pendingRestores : List (Key × ApiEndpoint)
  sent : List Change

def RateLimitState.start : RateLimitState := ⟨∅, [], []⟩

section Monitoring
variable (decimals : DecimalLibrary) (policy : FallbackPolicyConfig) (routerId : RouterId) (routerConfig : RouterConfig)

def createLatencyKeyForEndpoint (apiEndpoint : ApiEndpoint) : Key :=
  .providerLatency apiEndpoint.provider apiEndpoint.endpointType

/-- The weight is that of the first target of the endpoint's provider. -/
def createWeightedKeyForEndpoint (apiEndpoint : ApiEndpoint) : Except InternalError Key :=
  match routerConfig.loadBalance.get apiEndpoint.endpointType with
  | some (.providerWeighted providers) =>
    match providers.items.find? fun target => target.provider == apiEndpoint.provider with
    | none => .error .internal
    | some target =>
      match decimals.toF64 target.weight with
      | none => .error .internal
      | some number => .ok (.providerWeighted apiEndpoint.provider apiEndpoint.endpointType (.ofF64 number))
  | _ => .error .internal

def createModelWeightedKey (event : RateLimitEvent) : Except InternalError Key :=
  match event.modelId with
  | none => .error .internal
  | some modelId =>
    match routerConfig.loadBalance.get event.apiEndpoint.endpointType with
    | some (.modelWeighted models) =>
      match models.items.find? fun target => target.model == modelId with
      | none => .error .internal
      | some target =>
        match decimals.toF64 target.weight with
        | none => .error .internal
        | some number => .ok (.modelWeighted modelId event.apiEndpoint.endpointType (.ofF64 number))
    | _ => .error .internal

def createModelLatencyKey (event : RateLimitEvent) : Except InternalError Key :=
  match event.modelId with
  | none => .error .internal
  | some modelId => .ok (.modelLatency modelId event.apiEndpoint.endpointType)

def createKey (strategy : Strategy) (event : RateLimitEvent) : Except InternalError Key :=
  match strategy with
  | .providerWeighted => createWeightedKeyForEndpoint decimals routerConfig event.apiEndpoint
  | .modelWeighted => createModelWeightedKey decimals routerConfig event
  | .providerLatency => .ok (createLatencyKeyForEndpoint event.apiEndpoint)
  | .modelLatency => createModelLatencyKey event

/-- A panic where the wait is added up ends the monitor's task with all it holds. Who joins the
task takes it for an error. -/
def onEvent (strategy : Strategy) (event : RateLimitEvent) (state : RateLimitState) :
    RateLimitState × Except RuntimeError Unit :=
  if !policy.shouldRemove then (state, .ok ())
  else
    match createKey decimals routerConfig strategy event with
    | .error error => (state, .error (.internal error))
    | .ok key =>
      if key ∈ state.rateLimitedProviders then (state, .ok ())
      else
        let removed := { state with sent := state.sent ++ [.remove key] }
        match resolvedRateLimitRestoreAfter policy event.retryAfterSeconds with
        | .error _ => (removed, .error .join)
        | .ok _ =>
          ({ removed with
             rateLimitedProviders := insert key state.rateLimitedProviders
             pendingRestores := state.pendingRestores ++ [(key, event.apiEndpoint)] }, .ok ())

/-- The same branch with the timer of the restore that it sets. -/
def onRateLimitEvent (strategy : Strategy) (event : RateLimitEvent) (now : Instant) (state : RateLimitState) :
    Except Panic ((RateLimitState × Except RuntimeError Unit) × Option Nat) :=
  let after := onEvent decimals policy routerConfig strategy event state
  if !policy.shouldRemove then .ok (after, none)
  else
    match createKey decimals routerConfig strategy event with
    | .error _ => .ok (after, none)
    | .ok key =>
      if key ∈ state.rateLimitedProviders then .ok (after, none)
      else
        match resolvedRateLimitRestoreAfter policy event.retryAfterSeconds with
        | .error panic => .error panic
        | .ok duration => .ok (after, some (sleep now duration))

/-- Any timer may be the next one to run out. The key stays limited if no service can be
made or the balancer is gone. -/
def onRestore (clients : Clients) (balancerOpen : Bool) (index : Nat) (state : RateLimitState) :
    RateLimitState × Except RuntimeError Unit :=
  match state.pendingRestores[index]? with
  | none => (state, .ok ())
  | some (key, apiEndpoint) =>
    let fired := { state with pendingRestores := state.pendingRestores.eraseIdx index }
    match Dispatcher.new clients routerId routerConfig apiEndpoint.provider with
    | .error error => (fired, .error (.init error))
    | .ok service =>
      if balancerOpen then
        ({ fired with
           rateLimitedProviders := state.rateLimitedProviders.erase key
           sent := state.sent ++ [.insert key service] }, .ok ())
      else (fired, .error .channelSendFailed)

inductive RateLimitStep where
  | event (event : RateLimitEvent)
  | restore (clients : Clients) (balancerOpen : Bool) (index : Nat)

def rateLimitStep (strategy : Strategy) : RateLimitStep → RateLimitState → RateLimitState × Except RuntimeError Unit
  | .event event => onEvent decimals policy routerConfig strategy event
  | .restore clients balancerOpen index => onRestore routerId routerConfig clients balancerOpen index

def rateLimitMonitor (strategy : Strategy) (steps : List RateLimitStep) :
    RateLimitState × Except RuntimeError Unit :=
  forEach (rateLimitStep decimals policy routerId routerConfig strategy) steps .start

end Monitoring

end AiGateway
