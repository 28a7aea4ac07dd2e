import AiGateway.Proofs.ValidatedMappings

/-! What the validation takes for a model of the target's own. It reads the bare name in the
target's format, which gives the version that a name without one has, and looks for that
among the target's models with the version `latest`. -/

namespace AiGateway.GatewayConfig

open Lib.Runs

/-- The target offers the model itself, and no mapping has an entry for it. -/
structure Asked (config : GatewayConfig) (router : RouterConfig) (source : ModelId) (target : InferenceProvider) : Prop where
  configured : ∃ id, (id, router) ∈ config.routers
  balanced : target ∈ router.loadBalance.providers
  offered : config.Offers target source
  unmapped : ∀ own, router.modelMappings = some own → own.entries.lookup source.modelName = none
  defaultless : config.defaultModelMapping.entries.lookup source.modelName = none

/-- The models that are found all the same: those of OpenRouter, those of Ollama that are
listed without a tag, and those whose name still ends in the word `latest` and is, without
it, the name of another model of the target. -/
inductive Direct (chrono : Chrono) (config : GatewayConfig) (source : ModelId) : InferenceProvider → Prop where
  | exempt {target : InferenceProvider} (skipped : target.skipsModelMappingCatalogForStaticValidation = true) :
      Direct chrono config source target
  | ollama {id : OllamaModelId} (read : OllamaModelId.fromStr source.modelName.toList = .ok id)
      (listed : .ollama id ∈ config.modelsOf .ollama) : Direct chrono config source .ollama
  | latest {target : InferenceProvider} {id : ModelIdWithVersion} {version : Version}
      (read : ModelId.fromStrAndProvider chrono target source.modelName.toList = .ok (.modelIdWithVersion target id))
      (latest : id.version = .latest)
      (listed : .modelIdWithVersion target { id with version := version } ∈ config.modelsOf target) :
      Direct chrono config source target
  | bedrock {id : BedrockModelId} {version : Version}
      (read : BedrockModelId.fromStr chrono source.modelName.toList = .ok id) (latest : id.version = .latest)
      (listed : .bedrock { id with version := version } ∈ config.modelsOf .bedrock) : Direct chrono config source .bedrock

section Validation
variable {chrono : Chrono} {config : GatewayConfig} {router : RouterConfig} {source : ModelId} {target : InferenceProvider}

theorem alternativeIn_unlisted {mappings : ModelMappingConfig} {name : String} {models : List ModelId}
    (unlisted : mappings.entries.lookup name = none) : mappings.alternativeIn name models = false := by
  rw [ModelMappingConfig.alternativeIn, unlisted]

theorem mem_targetModels_iff {model : ModelId} :
    model ∈ config.targetModels target ↔ ∃ offered ∈ config.modelsOf target, offered.withLatestVersion = model := by
  rw [targetModels, List.mem_eraseDups, List.mem_map]

/-- Without a mapping, the bare name alone decides. -/
theorem Asked.canMapModel_iff (asked : Asked config router source target) (routerId : RouterId) :
    config.canMapModel chrono source.modelName target (config.targetModels target) routerId router = .ok () ↔
      target.skipsModelMappingCatalogForStaticValidation = true ∨
        ∃ id, ModelId.fromStrAndProvider chrono target source.modelName.toList = .ok id ∧ id ∈ config.targetModels target := by
  have own : router.modelMappings.any (fun mappings => mappings.alternativeIn source.modelName (config.targetModels target)) = false := by
    cases mapped : router.modelMappings with
    | none => rfl
    | some own => exact alternativeIn_unlisted (asked.unmapped own mapped)
  have default : config.defaultModelMapping.alternativeIn source.modelName (config.targetModels target) = false :=
    alternativeIn_unlisted asked.defaultless
  rw [canMapModel, own, default]
  split
  next skipped => exact iff_of_true rfl (.inl skipped)
  next checked =>
    split
    next error read => simp [checked, read]
    next id read => simp [checked, read]

theorem Direct.listed (direct : Direct chrono config source target) :
    target.skipsModelMappingCatalogForStaticValidation = true ∨
      ∃ id, ModelId.fromStrAndProvider chrono target source.modelName.toList = .ok id ∧ id ∈ config.targetModels target := by
  cases direct with
  | exempt skipped => exact .inl skipped
  | ollama read listed =>
    right
    refine ⟨_, ?_, mem_targetModels_iff.mpr ⟨_, listed, rfl⟩⟩
    rw [ModelId.fromStrAndProvider, read]
    rfl
  | @latest _ id _ read latest listed =>
    right
    refine ⟨_, read, mem_targetModels_iff.mpr ⟨_, listed, ?_⟩⟩
    rw [ModelId.withLatestVersion, ← latest]
  | @bedrock id _ read latest listed =>
    right
    refine ⟨.bedrock id, ?_, mem_targetModels_iff.mpr ⟨_, listed, ?_⟩⟩
    · rw [ModelId.fromStrAndProvider, read]
      rfl
    · rw [ModelId.withLatestVersion, ← latest]

/-- A model with a version has the version `latest` among the target's models, so the name
has to be read with it. -/
theorem direct_of_listed {id : ModelId} (read : ModelId.fromStrAndProvider chrono target source.modelName.toList = .ok id)
    (listed : id ∈ config.targetModels target) : Direct chrono config source target := by
  obtain ⟨offered, inside, rfl⟩ := mem_targetModels_iff.mp listed
  have own := ModelId.fromStrAndProvider_inferenceProvider read
  cases offered with
  | modelIdWithVersion provider id =>
    cases own
    exact .latest read rfl inside
  | bedrock id =>
    cases own
    obtain ⟨_, found, same⟩ := map_ok read
    cases same
    exact .bedrock found rfl inside
  | ollama id =>
    cases own
    obtain ⟨_, found, same⟩ := map_ok read
    cases same
    exact .ollama found inside
  | unknown => cases own

end Validation

/-- The validation finds a model of the target's own among the target's models exactly when
the bare name is already read with the version its list has. -/
theorem offered_accepted_iff (chrono : Chrono) (config : GatewayConfig) (routerId : RouterId) (router : RouterConfig)
    (source : ModelId) (target : InferenceProvider) (asked : Asked config router source target) :
    config.canMapModel chrono source.modelName target (config.targetModels target) routerId router = .ok () ↔
      Direct chrono config source target := by
  rw [asked.canMapModel_iff]
  constructor
  · rintro (skipped | ⟨id, read, listed⟩)
    · exact .exempt skipped
    · exact direct_of_listed read listed
  · exact Direct.listed

def llama : ModelId := .ollama ⟨"llama3", none⟩

def oneRouter (provider : InferenceProvider) : RouterConfig :=
  ⟨⟨[(.chat, .balancedLatency ⟨[provider], by simp, by simp⟩)], by simp⟩, none⟩

/-- One provider with one model, and a router over it. -/
def oneProvider (provider : InferenceProvider) (model : ModelId) (own : model.inferenceProvider = some provider) :
    GatewayConfig where
  providers := ⟨[(provider, [model])], by simpa using own⟩
  defaultModelMapping := otherMapping
  routers := [(⟨"main"⟩, oneRouter provider)]

theorem llama_accepted :
    Asked (oneProvider .ollama llama rfl) (oneRouter .ollama) llama .ollama ∧
      (oneProvider .ollama llama rfl).canMapModel (ModelIds.Calendar.chrono 2026) "llama3" .ollama
        ((oneProvider .ollama llama rfl).targetModels .ollama) ⟨"main"⟩ (oneRouter .ollama) = .ok () := by
  have asked : Asked (oneProvider .ollama llama rfl) (oneRouter .ollama) llama .ollama :=
    ⟨⟨⟨"main"⟩, List.mem_singleton_self _⟩, by decide, ⟨llama, by decide, by decide⟩, nofun, by decide⟩
  have direct : Direct (ModelIds.Calendar.chrono 2026) (oneProvider .ollama llama rfl) llama .ollama :=
    @Direct.ollama _ _ _ ⟨"llama3", none⟩ (by decide) (by decide)
  exact ⟨asked, (offered_accepted_iff _ _ _ _ _ _ asked).mpr direct⟩

/-- A model that the provider lists by its bare name, as the shipped configuration does. -/
theorem bare_name_refused :
    ¬ ∀ (config : GatewayConfig) (routerId : RouterId) (router : RouterConfig) (source : ModelId)
      (target : InferenceProvider), Asked config router source target →
        config.canMapModel (ModelIds.Calendar.chrono 2026) source.modelName target (config.targetModels target) routerId
          router = .ok () := by
  intro accepts
  have asked : Asked (oneProvider .openAI (gpt .implicitLatest) rfl) (oneRouter .openAI) (gpt .implicitLatest) .openAI :=
    ⟨⟨⟨"main"⟩, List.mem_singleton_self _⟩, by decide, ⟨gpt .implicitLatest, by decide, by decide⟩, nofun, by decide⟩
  exact absurd (accepts _ ⟨"main"⟩ _ _ _ asked) (by decide)

end AiGateway.GatewayConfig
