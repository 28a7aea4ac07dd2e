import AiGateway.MappingValidation
import AiGateway.Proofs.ModelNames

/-! Whether a validated configuration leaves the mapper without an answer. The validation
accepts by four rules, of which the mapper has two: a router's own mapping, and the default
mapping of a router that has none. -/

namespace AiGateway.GatewayConfig

open Lib.Runs

/-- A request for the model may be sent to the target by this router. -/
structure Routed (config : GatewayConfig) (router : RouterConfig) (source : ModelId) (target : InferenceProvider) : Prop where
  configured : ∃ id, (id, router) ∈ config.routers
  offered : ∃ provider ∈ router.loadBalance.providers, source ∈ config.modelsOf provider
  target : target ∈ router.loadBalance.providers

/-- The rules of the validation that the mapper does not have: the exemption of
OpenRouter, the model's bare name read in the target's format, and the default mapping for
a router that has a mapping of its own. -/
inductive Loose (chrono : Chrono) (config : GatewayConfig) (router : RouterConfig) (source : ModelId)
    (target : InferenceProvider) : Prop where
  | exempt (skipped : target.skipsModelMappingCatalogForStaticValidation = true)
  | reread {id : ModelId} (read : ModelId.fromStrAndProvider chrono target source.modelName.toList = .ok id)
      (listed : id ∈ config.targetModels target)
  | default {own : ModelMappingConfig} (mapped : router.modelMappings = some own)
      (listed : config.defaultModelMapping.alternativeIn source.modelName (config.targetModels target) = true)

/-- The mapping the mapper looks into: the router's own, if it has one. -/
def mappingInForce (config : GatewayConfig) (router : RouterConfig) : ModelMappingConfig :=
  router.modelMappings.getD config.defaultModelMapping

/-- The target offers the model, in some version. -/
def Offers (config : GatewayConfig) (target : InferenceProvider) (model : ModelId) : Prop :=
  ∃ offered ∈ config.modelsOf target, model.sameWithoutVersion offered = true

/-- The rules of the mapper. -/
inductive Served (config : GatewayConfig) (flags : List (String × Bool)) (router : RouterConfig) (source : ModelId)
    (target : InferenceProvider) : Prop where
  | skips (skipped : (config.catalog flags).skipsModelMapping target = true)
  | offers (offered : config.Offers target source)
  | maps {alternatives : NESet ModelId} {model : ModelId}
      (listed : (config.mappingInForce router).entries.lookup source.modelName = some alternatives)
      (member : model ∈ alternatives.items) (own : model.inferenceProvider = some target)
      (offered : config.Offers target model)

section Mapper
variable {config : GatewayConfig} {flags : List (String × Bool)} {router : RouterConfig} {source : ModelId}
  {target : InferenceProvider}

theorem any_sameWithoutVersion_iff {models : List ModelId} (found : config.providers.get target = some models) (model : ModelId) :
    models.any model.sameWithoutVersion = true ↔ config.Offers target model := by
  have all : config.modelsOf target = models := by rw [modelsOf, found, Option.getD_some]
  rw [Offers, all, List.any_eq_true]

theorem mapModel_eq {models : List ModelId} (found : config.providers.get target = some models) :
    (ModelMapper.newForRouter router).mapModel (config.catalog flags) source target =
      if (config.catalog flags).skipsModelMapping target then .ok source
      else if models.any source.sameWithoutVersion then .ok source
      else
        match (config.mappingInForce router).entries.lookup source.modelName with
        | none => .error (.noModelMapping target source.modelName)
        | some alternatives =>
          match alternatives.items.find? fun model =>
            models.any model.sameWithoutVersion && model.inferenceProvider == some target with
          | none => .error (.noModelMapping target source.modelName)
          | some model => .ok model := by
  have lookup : (config.catalog flags).providerModels.lookup target = some models := found
  simp only [ModelMapper.mapModel, ModelMapper.newForRouter, lookup]
  rfl

theorem mapModel_isOk_iff {models : List ModelId} (found : config.providers.get target = some models) :
    ((ModelMapper.newForRouter router).mapModel (config.catalog flags) source target).isOk = true ↔
      Served config flags router source target := by
  rw [mapModel_eq found]
  split
  next skipped => exact iff_of_true rfl (.skips skipped)
  next active =>
    split
    next offered => exact iff_of_true rfl (.offers ((any_sameWithoutVersion_iff found source).mp offered))
    next missing =>
      have maps : Served config flags router source target ↔
          ∃ alternatives, (config.mappingInForce router).entries.lookup source.modelName = some alternatives ∧
            ∃ model ∈ alternatives.items, models.any model.sameWithoutVersion = true ∧ model.inferenceProvider = some target := by
        constructor
        · intro served
          cases served with
          | skips skipped => exact absurd skipped active
          | offers offered => exact absurd ((any_sameWithoutVersion_iff found source).mpr offered) missing
          | maps listed member own offered =>
            exact ⟨_, listed, _, member, (any_sameWithoutVersion_iff found _).mpr offered, own⟩
        · intro ⟨_, listed, model, member, offered, own⟩
          exact .maps listed member own ((any_sameWithoutVersion_iff found model).mp offered)
      rw [maps]
      cases listed : (config.mappingInForce router).entries.lookup source.modelName with
      | none => simp [Except.isOk, Except.toBool]
      | some alternatives =>
        dsimp only
        cases usable : alternatives.items.find? fun model =>
            models.any model.sameWithoutVersion && model.inferenceProvider == some target with
        | none =>
          apply iff_of_false (by simp [Except.isOk, Except.toBool])
          intro ⟨_, same, model, member, offered, own⟩
          cases same
          have refused := List.find?_eq_none.mp usable model member
          simp [offered, own] at refused
        | some model =>
          have taken := List.find?_some usable
          rw [Bool.and_eq_true, beq_iff_eq] at taken
          exact iff_of_true rfl ⟨alternatives, rfl, model, List.mem_of_find?_eq_some usable, taken⟩

end Mapper

section Validation
variable {chrono : Chrono} {config : GatewayConfig} {router : RouterConfig} {source : ModelId} {target : InferenceProvider}

theorem sameWithoutVersion_withLatestVersion (model : ModelId) : model.withLatestVersion.sameWithoutVersion model = true := by
  cases model <;> simp [ModelId.withLatestVersion, ModelId.sameWithoutVersion]

theorem inferenceProvider_withLatestVersion (model : ModelId) :
    model.withLatestVersion.inferenceProvider = model.inferenceProvider := by
  cases model <;> rfl

theorem mem_targetModels {model : ModelId} (member : model ∈ config.targetModels target) :
    model.inferenceProvider = some target ∧ config.Offers target model := by
  obtain ⟨offered, inside, rfl⟩ := List.mem_map.mp (List.mem_eraseDups.mp member)
  refine ⟨?_, offered, inside, sameWithoutVersion_withLatestVersion offered⟩
  rw [inferenceProvider_withLatestVersion]
  rw [modelsOf, ProvidersConfig.get] at inside
  cases found : config.providers.entries.lookup target with
  | none => simp [found] at inside
  | some models =>
    rw [found, Option.getD_some] at inside
    obtain ⟨before, after, split, _⟩ := List.lookup_eq_some_iff.mp found
    exact config.providers.own (target, models) (by simp [split]) offered inside

/-- An alternative that the validation finds is one that the mapper can use. -/
theorem alternativeIn_usable {mappings : ModelMappingConfig} {name : String}
    (listed : mappings.alternativeIn name (config.targetModels target) = true) :
    ∃ alternatives, mappings.entries.lookup name = some alternatives ∧
      ∃ model ∈ alternatives.items, model.inferenceProvider = some target ∧ config.Offers target model := by
  unfold ModelMappingConfig.alternativeIn at listed
  split at listed
  next => cases listed
  next alternatives found =>
    obtain ⟨model, member, inside⟩ := List.any_eq_true.mp listed
    exact ⟨alternatives, found, model, member, mem_targetModels (List.contains_iff_mem.mp inside)⟩

theorem canMapModel_ok {routerId : RouterId} (accepted : config.canMapModel chrono source.modelName target
    (config.targetModels target) routerId router = .ok ()) :
    Loose chrono config router source target ∨
      (config.mappingInForce router).alternativeIn source.modelName (config.targetModels target) = true := by
  unfold canMapModel at accepted
  split at accepted
  next skipped => exact .inl (.exempt skipped)
  next =>
    split at accepted
    next => cases accepted
    next id read =>
      split at accepted
      next listed => exact .inl (.reread read (List.contains_iff_mem.mp listed))
      next =>
        split at accepted
        next mapped =>
          obtain ⟨own, present, listed⟩ := (Option.any_eq_true _ _).mp mapped
          right
          rwa [mappingInForce, present, Option.getD_some]
        next =>
          split at accepted
          next listed =>
            cases present : router.modelMappings with
            | none =>
              right
              rwa [mappingInForce, present, Option.getD_none]
            | some own => exact .inl (.default present listed)
          next => cases accepted

/-- What the validation has looked at when it accepts. -/
theorem Routed.accepted (routed : Routed config router source target) (accepted : config.validateModelMappings chrono = .ok ()) :
    (config.providers.get target).isSome = true ∧
      ∃ routerId, config.canMapModel chrono source.modelName target (config.targetModels target) routerId router = .ok () := by
  obtain ⟨routerId, member⟩ := routed.configured
  obtain ⟨provider, inside, offered⟩ := routed.offered
  have checked := forM_ok_iff.mp accepted (routerId, router) member
  obtain ⟨_, configured, mapped⟩ := bind_ok checked
  constructor
  · have present := forM_ok_iff.mp configured target routed.target
    rw [checkConfigured] at present
    split at present
    next found => exact found
    next => cases present
  · have targeted := forM_ok_iff.mp mapped target routed.target
    have named : source.modelName ∈ config.offeredNames router.loadBalance.providers := by
      apply List.mem_eraseDups.mpr
      exact List.mem_flatMap.mpr ⟨provider, inside, List.mem_map_of_mem offered⟩
    exact ⟨routerId, forM_ok_iff.mp targeted source.modelName named⟩

end Validation

/-- The mapper succeeds for every model and target of every router of an accepted
configuration exactly when it has a rule for those that the validation accepts by a rule
the mapper lacks. -/
theorem validated_maps_iff (chrono : Chrono) (config : GatewayConfig) (flags : List (String × Bool))
    (accepted : config.validateModelMappings chrono = .ok ()) :
    (∀ router source target, Routed config router source target →
      ((ModelMapper.newForRouter router).mapModel (config.catalog flags) source target).isOk = true) ↔
      ∀ router source target, Routed config router source target → Loose chrono config router source target →
        Served config flags router source target := by
  constructor
  · intro succeeds router source target routed _
    obtain ⟨models, found⟩ := Option.isSome_iff_exists.mp (routed.accepted accepted).1
    exact (mapModel_isOk_iff found).mp (succeeds router source target routed)
  · intro served router source target routed
    obtain ⟨present, routerId, mapped⟩ := routed.accepted accepted
    obtain ⟨models, found⟩ := Option.isSome_iff_exists.mp present
    apply (mapModel_isOk_iff found).mpr
    obtain loose | listed := canMapModel_ok mapped
    · exact served router source target routed loose
    · obtain ⟨alternatives, entry, model, member, own, offered⟩ := alternativeIn_usable listed
      exact .maps entry member own offered

def gpt (version : Version) : ModelId := .modelIdWithVersion .openAI ⟨"gpt-4", version⟩

def claude (version : Version) : ModelId := .modelIdWithVersion .anthropic ⟨"claude-3-opus", version⟩

def bothLatest : NESet ModelId := ⟨[gpt .latest, claude .latest], by decide, by decide⟩

def mainRouter (modelMappings : Option ModelMappingConfig) : RouterConfig :=
  ⟨⟨[(.chat, .balancedLatency ⟨[.openAI, .anthropic], by decide, by decide⟩)], by decide⟩, modelMappings⟩

/-- Two providers, with a default mapping between their models. -/
def twoProviders (modelMappings : Option ModelMappingConfig) : GatewayConfig where
  providers := ⟨[(.openAI, [gpt .implicitLatest]), (.anthropic, [claude .implicitLatest])], by decide⟩
  defaultModelMapping := ⟨[("gpt-4", bothLatest), ("claude-3-opus", bothLatest)], by simp, by decide⟩
  routers := [(⟨"main"⟩, mainRouter modelMappings)]

def otherMapping : ModelMappingConfig := ⟨[("gpt-3.5-turbo", bothLatest)], by simp, by decide⟩

theorem default_mapping_validated :
    (twoProviders none).validateModelMappings (ModelIds.Calendar.chrono 2026) = .ok () ∧
      ((∀ router source target, Routed (twoProviders none) router source target →
        ((ModelMapper.newForRouter router).mapModel ((twoProviders none).catalog []) source target).isOk = true) ↔
        ∀ router source target, Routed (twoProviders none) router source target →
          Loose (ModelIds.Calendar.chrono 2026) (twoProviders none) router source target →
            Served (twoProviders none) [] router source target) :=
  ⟨by decide, validated_maps_iff _ _ [] (by decide)⟩

/-- A router with a mapping of its own for another model: the validation falls back to the
default mapping, the mapper does not. -/
theorem own_mapping_unmapped :
    ¬ ∀ (config : GatewayConfig) (flags : List (String × Bool)),
      config.validateModelMappings (ModelIds.Calendar.chrono 2026) = .ok () →
        ∀ router source target, Routed config router source target →
          ((ModelMapper.newForRouter router).mapModel (config.catalog flags) source target).isOk = true := by
  intro maps
  have routed : Routed (twoProviders (some otherMapping)) (mainRouter (some otherMapping)) (gpt .implicitLatest) .anthropic :=
    ⟨⟨⟨"main"⟩, by simp [twoProviders]⟩, ⟨.openAI, by decide, by decide⟩, by decide⟩
  have mapped := maps (twoProviders (some otherMapping)) [] (by decide) _ _ _ routed
  exact absurd mapped (by decide)

end AiGateway.GatewayConfig
