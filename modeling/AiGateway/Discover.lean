import AiGateway.Config

/-! Discovery: the services a router's balancer starts with, one under each key. A
service is a dispatcher for one provider, with a model mapper that may have a model
pinned by the configuration. -/

namespace AiGateway

/-- The balancing strategies, each with its own kind of key and its own monitors. -/
inductive Strategy where
  | providerWeighted
  | modelWeighted
  | providerLatency
  | modelLatency
  deriving DecidableEq, Repr

inductive Key where
  | providerWeighted (provider : InferenceProvider) (endpointType : EndpointType) (weight : Weight)
  | modelWeighted (modelId : ModelId) (endpointType : EndpointType) (weight : Weight)
  | providerLatency (provider : InferenceProvider) (endpointType : EndpointType)
  | modelLatency (modelId : ModelId) (endpointType : EndpointType)
  deriving DecidableEq

def Key.inferenceProvider : Key → Option InferenceProvider
  | .providerWeighted provider _ _ | .providerLatency provider _ => some provider
  | .modelWeighted modelId _ _ | .modelLatency modelId _ => modelId.inferenceProvider

def Key.endpointType : Key → EndpointType
  | .providerWeighted _ endpointType _ | .modelWeighted _ endpointType _ => endpointType
  | .providerLatency _ endpointType | .modelLatency _ endpointType => endpointType

/-- What the mapper reads of the application's state: the models each configured provider
offers, the default mapping, and which named providers route models themselves. -/
structure Catalog where
  providerModels : List (InferenceProvider × List ModelId)
  defaultModelMapping : ModelMappingConfig
  providerIsRouterFlags : List (String × Bool)

/-- `provider_skips_model_mapping_catalog`. -/
def Catalog.skipsModelMapping (catalog : Catalog) (provider : InferenceProvider) : Bool :=
  match provider with
  | .named code =>
    if catalog.providerIsRouterFlags.isEmpty then code == "openrouter"
    else (catalog.providerIsRouterFlags.lookup code).getD false
  | _ => false

inductive MapperError where
  | noProviderConfig (provider : InferenceProvider)
  | noModelMapping (provider : InferenceProvider) (model : String)
  deriving DecidableEq, Repr

structure ModelMapper where
  routerConfig : Option RouterConfig
  modelId : Option ModelId

namespace ModelMapper

def newForRouter (routerConfig : RouterConfig) : ModelMapper := ⟨some routerConfig, none⟩

def newWithModelId (routerConfig : RouterConfig) (modelId : ModelId) : ModelMapper := ⟨some routerConfig, some modelId⟩

def mapModel (mapper : ModelMapper) (catalog : Catalog) (sourceModel : ModelId) (targetProvider : InferenceProvider) :
    Except MapperError ModelId :=
  match mapper.modelId with
  | some modelId => .ok modelId
  | none =>
    if catalog.skipsModelMapping targetProvider then .ok sourceModel
    else
      match catalog.providerModels.lookup targetProvider with
      | none => .error (.noProviderConfig targetProvider)
      | some offered =>
        if offered.any sourceModel.sameWithoutVersion then .ok sourceModel
        else
          let mappings := (mapper.routerConfig.bind fun config => config.modelMappings).getD catalog.defaultModelMapping
          let noMapping := Except.error (.noModelMapping targetProvider sourceModel.modelName)
          match mappings.entries.lookup sourceModel.modelName with
          | none => noMapping
          | some possibleMappings =>
            match possibleMappings.items.find? fun model =>
              offered.any model.sameWithoutVersion && model.inferenceProvider == some targetProvider with
            | none => noMapping
            | some targetModel => .ok targetModel

end ModelMapper

structure Dispatcher where
  routerId : RouterId
  provider : InferenceProvider
  modelMapper : ModelMapper

/-- Building a client and finding the router's event sender may fail. -/
structure Clients where
  new : InferenceProvider → Option InitError

namespace Dispatcher
variable (clients : Clients) (routerId : RouterId) (routerConfig : RouterConfig)

def newInner (provider : InferenceProvider) (modelMapper : ModelMapper) : Except InitError Dispatcher :=
  match clients.new provider with
  | some error => .error error
  | none => .ok ⟨routerId, provider, modelMapper⟩

def new (provider : InferenceProvider) : Except InitError Dispatcher :=
  newInner clients routerId provider (.newForRouter routerConfig)

def newWithModelId (provider : InferenceProvider) (modelId : ModelId) : Except InitError Dispatcher :=
  newInner clients routerId provider (.newWithModelId routerConfig modelId)

end Dispatcher

inductive Change where
  | remove (key : Key)
  | insert (key : Key) (service : Dispatcher)

def Change.key : Change → Key
  | .remove key | .insert key _ => key

/-- `HashMap::insert` and `remove`, on a list of entries with distinct keys. -/
def insertService (services : List (Key × Dispatcher)) (key : Key) (service : Dispatcher) : List (Key × Dispatcher) :=
  services.filter (fun entry => entry.1 != key) ++ [(key, service)]

def removeService (services : List (Key × Dispatcher)) (key : Key) : List (Key × Dispatcher) :=
  services.filter fun entry => entry.1 != key

section Discovery
variable (decimals : DecimalLibrary) (clients : Clients) (routerId : RouterId) (routerConfig : RouterConfig)

def weightOf (provider : InferenceProvider) (weight : Decimal) : Except InitError Weight :=
  match decimals.toF64 weight with
  | none => .error (.invalidWeight provider)
  | some number => .ok (Weight.ofF64 number)

def providerOf (model : ModelId) : Except InitError InferenceProvider :=
  match model.inferenceProvider with
  | none => .error (.modelIdNotRecognized model.modelName)
  | some provider => .ok provider

theorem providerOf_eq_ok {model : ModelId} {provider : InferenceProvider} :
    providerOf model = .ok provider ↔ model.inferenceProvider = some provider := by
  unfold providerOf
  split
  next missing => simp [missing]
  next found => simp [found]

/-- The four discoveries differ in the targets they take, in their keys, and in whether
they pin the target's model. -/
def discoverEndpoint (strategy : Strategy) (endpointType : EndpointType) (balance : BalanceConfigInner) :
    Except InitError (List (Key × Dispatcher)) :=
  match strategy, balance with
  | .providerWeighted, .providerWeighted providers =>
    providers.items.mapM fun target => do
      let weight ← weightOf decimals target.provider target.weight
      let dispatcher ← Dispatcher.new clients routerId routerConfig target.provider
      return (.providerWeighted target.provider endpointType weight, dispatcher)
  | .providerWeighted, .modelWeighted _ =>
    .error (.invalidBalancer "Model weighted balancer not supported for provider weighted discovery")
  | .providerWeighted, .balancedLatency _ =>
    .error (.invalidBalancer "P2C balancer not supported for weighted discovery")
  | .providerWeighted, .modelLatency _ =>
    .error (.invalidBalancer "Model latency balancer not supported for provider weighted discovery")
  | .modelWeighted, .modelWeighted models =>
    models.items.mapM fun target => do
      let provider ← providerOf target.model
      let weight ← weightOf decimals provider target.weight
      let dispatcher ← Dispatcher.newWithModelId clients routerId routerConfig provider target.model
      return (.modelWeighted target.model endpointType weight, dispatcher)
  | .modelWeighted, .modelLatency _ =>
    .error (.invalidBalancer "Model latency balancer not supported for model weighted discovery")
  | .modelWeighted, .providerWeighted _ =>
    .error (.invalidBalancer "Provider weighted balancer not supported for model weighted discovery")
  | .modelWeighted, .balancedLatency _ =>
    .error (.invalidBalancer "P2C balancer not supported for weighted discovery")
  | .providerLatency, balance =>
    balance.providers.mapM fun provider => do
      let dispatcher ← Dispatcher.new clients routerId routerConfig provider
      return (.providerLatency provider endpointType, dispatcher)
  | .modelLatency, .modelLatency models =>
    models.items.mapM fun model => do
      let provider ← providerOf model
      let dispatcher ← Dispatcher.newWithModelId clients routerId routerConfig provider model
      return (.modelLatency model endpointType, dispatcher)
  | .modelLatency, _ =>
    .error (.invalidBalancer "incorrect dispatch discovery type used with model latency config")

/-- The service map of all endpoint kinds; a later entry replaces an earlier one. -/
def discover (strategy : Strategy) : Except InitError (List (Key × Dispatcher)) := do
  let found ← routerConfig.loadBalance.entries.mapM fun (endpointType, balance) =>
    discoverEndpoint decimals clients routerId routerConfig strategy endpointType balance
  return found.flatten.foldl (fun services (key, service) => insertService services key service) []

end Discovery

end AiGateway
