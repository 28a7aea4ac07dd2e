import AiGateway.Discover
import AiGateway.ModelIds
import AiGateway.Lib.Runs

/-! The static check of a configuration's model mappings: that each router can map every
model its providers offer to every one of its providers. -/

namespace AiGateway

open Lib.Runs

/-- The models of each provider, which are models of that provider. -/
structure ProvidersConfig where
  entries : List (InferenceProvider × List ModelId)
  own : ∀ entry ∈ entries, ∀ model ∈ entry.2, model.inferenceProvider = some entry.1

namespace ProvidersConfig

def empty : ProvidersConfig := ⟨[], nofun⟩

/-- `IndexMap::insert`, which keeps the place of a key it has. -/
def insertEntry (entries : List (InferenceProvider × List ModelId)) (provider : InferenceProvider) (models : List ModelId) :
    List (InferenceProvider × List ModelId) :=
  if entries.any fun entry => entry.1 == provider then
    entries.map fun entry => if entry.1 = provider then (provider, models) else entry
  else entries ++ [(provider, models)]

theorem mem_insertEntry {entries : List (InferenceProvider × List ModelId)} {provider : InferenceProvider}
    {models : List ModelId} {entry : InferenceProvider × List ModelId}
    (member : entry ∈ insertEntry entries provider models) : entry ∈ entries ∨ entry = (provider, models) := by
  unfold insertEntry at member
  split at member
  · obtain ⟨old, inside, rfl⟩ := List.mem_map.mp member
    split
    · exact .inr rfl
    · exact .inl inside
  · simpa using member

/-- One round of the visitor: the model names are read in the provider's format. -/
def visitEntry (chrono : Chrono) (config : ProvidersConfig) (provider : InferenceProvider) (names : List (List Char)) :
    Except ModelNameError ProvidersConfig :=
  match read : names.mapM (ModelId.fromStrAndProvider chrono provider) with
  | .error error => .error error
  | .ok models => .ok ⟨insertEntry config.entries provider models.eraseDups, by
      intro entry member model inside
      obtain old | rfl := mem_insertEntry member
      · exact config.own entry old model inside
      · obtain ⟨name, _, parsed⟩ := item_of_mapM_ok read (List.mem_eraseDups.mp inside)
        exact ModelId.fromStrAndProvider_inferenceProvider parsed⟩

def deserialize (chrono : Chrono) (raw : List (InferenceProvider × List (List Char))) :
    Except ModelNameError ProvidersConfig :=
  raw.foldlM (fun config (provider, names) => config.visitEntry chrono provider names) empty

def get (config : ProvidersConfig) (provider : InferenceProvider) : Option (List ModelId) := config.entries.lookup provider

end ProvidersConfig

/-- What the validation reads of the configuration. -/
structure GatewayConfig where
  providers : ProvidersConfig
  defaultModelMapping : ModelMappingConfig
  routers : List (RouterId × RouterConfig)

inductive ModelMappingValidationError where
  | providerNotConfigured (router : RouterId) (provider : InferenceProvider)
  | noValidMapping (router : RouterId) (sourceModel : String) (targetProvider : InferenceProvider)
  | modelIdParseError (model : String)
  deriving DecidableEq, Repr

def InferenceProvider.skipsModelMappingCatalogForStaticValidation (provider : InferenceProvider) : Bool :=
  match provider with
  | .named name => name == "openrouter"
  | _ => false

/-- The mapping has, among its alternatives for the model, one of the target's models. -/
def ModelMappingConfig.alternativeIn (mappings : ModelMappingConfig) (sourceModel : String) (targetModels : List ModelId) :
    Bool :=
  match mappings.entries.lookup sourceModel with
  | none => false
  | some alternatives => alternatives.items.any fun model => targetModels.contains model

namespace GatewayConfig
variable (chrono : Chrono) (config : GatewayConfig)

def canMapModel (sourceModel : String) (targetProvider : InferenceProvider) (targetModels : List ModelId)
    (routerId : RouterId) (routerConfig : RouterConfig) : Except ModelMappingValidationError Unit :=
  if targetProvider.skipsModelMappingCatalogForStaticValidation then .ok ()
  else
    match ModelId.fromStrAndProvider chrono targetProvider sourceModel.toList with
    | .error _ => .error (.modelIdParseError sourceModel)
    | .ok sourceModelId =>
      if targetModels.contains sourceModelId then .ok ()
      else if routerConfig.modelMappings.any fun mappings => mappings.alternativeIn sourceModel targetModels then .ok ()
      else if config.defaultModelMapping.alternativeIn sourceModel targetModels then .ok ()
      else .error (.noValidMapping routerId sourceModel targetProvider)

/-- Indexing a provider that the check before has found. -/
def modelsOf (provider : InferenceProvider) : List ModelId := (config.providers.get provider).getD []

def targetModels (provider : InferenceProvider) : List ModelId :=
  ((config.modelsOf provider).map ModelId.withLatestVersion).eraseDups

def offeredNames (providers : List InferenceProvider) : List String :=
  (providers.flatMap fun provider => (config.modelsOf provider).map ModelId.modelName).eraseDups

def checkConfigured (routerId : RouterId) (provider : InferenceProvider) : Except ModelMappingValidationError Unit :=
  if (config.providers.get provider).isSome then .ok () else .error (.providerNotConfigured routerId provider)

def validateRouter (routerId : RouterId) (routerConfig : RouterConfig) : Except ModelMappingValidationError Unit := do
  let routerProviders := routerConfig.loadBalance.providers
  routerProviders.forM (config.checkConfigured routerId)
  routerProviders.forM fun targetProvider =>
    (config.offeredNames routerProviders).forM fun sourceModel =>
      config.canMapModel chrono sourceModel targetProvider (config.targetModels targetProvider) routerId routerConfig

def validateModelMappings : Except ModelMappingValidationError Unit :=
  config.routers.forM fun (routerId, routerConfig) => config.validateRouter chrono routerId routerConfig

/-- What the mapper reads when the gateway runs with this configuration. -/
def catalog (providerIsRouterFlags : List (String × Bool)) : Catalog :=
  ⟨config.providers.entries, config.defaultModelMapping, providerIsRouterFlags⟩

end GatewayConfig

end AiGateway
