import AiGateway.ProfileResolver

/-! Resolved metadata read layer by layer. Each catalog entry is a layer over those applied
before it, and the rules stay what the profile says. -/

namespace AiGateway

/-- Baselines that define every field of a profile. -/
structure MapperProfileCatalogEntry.Complete (entry : MapperProfileCatalogEntry) : Prop where
  capabilities : ∃ openaiCompatible responseFormat toolChoice parallelToolCalls thinking streamingReasoning,
    entry.capabilities = some ⟨some openaiCompatible, some responseFormat, some toolChoice, some parallelToolCalls,
      some thinking, some streamingReasoning⟩
  request : ∃ systemHandling messageContent toolChoice responseFormat reasoning multimodal,
    entry.request = some ⟨some systemHandling, some messageContent, some toolChoice, some responseFormat,
      some reasoning, some multimodal⟩
  response : ∃ content toolCall finishReason usage,
    entry.response = some ⟨some content, some toolCall, some finishReason, some usage⟩
  stream : ∃ mode, entry.stream = some ⟨some mode⟩

/-- The fields an entry can set. Those of a request and of a response are read off the
profile, which has all of them. -/
inductive ProfileField : Type → Type where
  | openaiCompatible : ProfileField Bool
  | supportsResponseFormat : ProfileField Bool
  | supportsToolChoice : ProfileField Bool
  | supportsParallelToolCalls : ProfileField Bool
  | supportsThinking : ProfileField Bool
  | supportsStreamingReasoning : ProfileField Bool
  | systemHandling : ProfileField SystemHandling
  | messageContentMode : ProfileField MessageContentMode
  | toolChoiceMode : ProfileField ToolChoiceMode
  | responseFormatMode : ProfileField ResponseFormatMode
  | reasoningMode : ProfileField ReasoningMode
  | multimodalMode : ProfileField MultimodalMode
  | contentMode : ProfileField ResponseContentMode
  | toolCallMappingMode : ProfileField ToolCallMappingMode
  | finishReasonMappingMode : ProfileField FinishReasonMappingMode
  | usageMappingMode : ProfileField UsageMappingMode
  | streamMode : ProfileField StreamMode

namespace ProfileField
variable {α : Type}

/-- What an entry sets the field to. -/
def ofEntry (entry : MapperProfileCatalogEntry) : ProfileField α → Option α
  | openaiCompatible => entry.capabilities.bind (·.openaiCompatible)
  | supportsResponseFormat => entry.capabilities.bind (·.supportsResponseFormat)
  | supportsToolChoice => entry.capabilities.bind (·.supportsToolChoice)
  | supportsParallelToolCalls => entry.capabilities.bind (·.supportsParallelToolCalls)
  | supportsThinking => entry.capabilities.bind (·.supportsThinking)
  | supportsStreamingReasoning => entry.capabilities.bind (·.supportsStreamingReasoning)
  | systemHandling => entry.request.bind (·.systemHandling)
  | messageContentMode => entry.request.bind (·.messageContentMode)
  | toolChoiceMode => entry.request.bind (·.toolChoiceMode)
  | responseFormatMode => entry.request.bind (·.responseFormatMode)
  | reasoningMode => entry.request.bind (·.reasoningMode)
  | multimodalMode => entry.request.bind (·.multimodalMode)
  | contentMode => entry.response.bind (·.contentMode)
  | toolCallMappingMode => entry.response.bind (·.toolCallMappingMode)
  | finishReasonMappingMode => entry.response.bind (·.finishReasonMappingMode)
  | usageMappingMode => entry.response.bind (·.usageMappingMode)
  | streamMode => entry.stream.bind (·.streamMode)

/-- The value of the field in resolved metadata. -/
def ofMetadata (metadata : ResolvedMapperMetadata) : ProfileField α → α
  | openaiCompatible => metadata.capabilities.openaiCompatible
  | supportsResponseFormat => metadata.capabilities.supportsResponseFormat
  | supportsToolChoice => metadata.capabilities.supportsToolChoice
  | supportsParallelToolCalls => metadata.capabilities.supportsParallelToolCalls
  | supportsThinking => metadata.capabilities.supportsThinking
  | supportsStreamingReasoning => metadata.capabilities.supportsStreamingReasoning
  | systemHandling => metadata.nonStreamProfile.request.systemHandling
  | messageContentMode => metadata.nonStreamProfile.request.messageContentMode
  | toolChoiceMode => metadata.nonStreamProfile.request.toolChoiceMode
  | responseFormatMode => metadata.nonStreamProfile.request.responseFormatMode
  | reasoningMode => metadata.nonStreamProfile.request.reasoningMode
  | multimodalMode => metadata.nonStreamProfile.request.multimodalMode
  | contentMode => metadata.nonStreamProfile.response.contentMode
  | toolCallMappingMode => metadata.nonStreamProfile.response.toolCallMappingMode
  | finishReasonMappingMode => metadata.nonStreamProfile.response.finishReasonMappingMode
  | usageMappingMode => metadata.nonStreamProfile.response.usageMappingMode
  | streamMode => metadata.rules.stream.streamMode

end ProfileField

/-- The value of every field is the first that the layers set, the topmost layer first. -/
def ResolvedMapperMetadata.Layered (metadata : ResolvedMapperMetadata)
    (layers : List MapperProfileCatalogEntry) : Prop :=
  ∀ (α : Type) (field : ProfileField α), layers.findSome? (field.ofEntry ·) = some (field.ofMetadata metadata)

/-- The rules and the profile are two views of one record. -/
structure ResolvedMapperMetadata.Agreeing (metadata : ResolvedMapperMetadata) : Prop where
  request : metadata.rules.request = {
    systemHandling := metadata.nonStreamProfile.request.systemHandling
    toolChoiceMode := metadata.nonStreamProfile.request.toolChoiceMode
    responseFormatMode := metadata.nonStreamProfile.request.responseFormatMode
    reasoningMode := metadata.nonStreamProfile.request.reasoningMode
    multimodalMode := metadata.nonStreamProfile.request.multimodalMode }
  response : metadata.rules.response = {
    finishReasonMapping := finishReasonMappingFromMode metadata.nonStreamProfile.response.finishReasonMappingMode
    toolCallMapping := toolCallMappingFromMode metadata.nonStreamProfile.response.toolCallMappingMode
    usageMapping := usageMappingFromMode metadata.nonStreamProfile.response.usageMappingMode }
  provider : metadata.rules.provider = metadata.nonStreamProfile.provider
  family : metadata.rules.family = metadata.nonStreamProfile.family

/-! ## The baseline -/

/-- A baseline that defines every field gives metadata, without a panic. -/
theorem resolvedFromFamilyEntry_complete (provider : InferenceProvider) (family : ProviderProtocolFamily)
    {entry : MapperProfileCatalogEntry} (complete : entry.Complete) :
    ∃ metadata, resolvedFromFamilyEntry provider family entry = .ok metadata ∧ metadata.Layered [entry] ∧
      metadata.Agreeing ∧ metadata.rules.provider = provider ∧ metadata.rules.family = family := by
  obtain ⟨⟨_, _, _, _, _, _, capabilities⟩, ⟨_, _, _, _, _, _, request⟩, ⟨_, _, _, _, response⟩, ⟨_, stream⟩⟩ := complete
  have resolved : ∃ metadata, resolvedFromFamilyEntry provider family entry = .ok metadata := by
    rw [resolvedFromFamilyEntry, capabilities, request, response, stream]
    exact ⟨_, rfl⟩
  obtain ⟨metadata, resolved⟩ := resolved
  have built := resolved
  rw [resolvedFromFamilyEntry, capabilities, request, response, stream] at built
  cases (show Except.ok _ = Except.ok metadata from built)
  refine ⟨_, resolved, ?_, ⟨rfl, rfl, rfl, rfl⟩, rfl, rfl⟩
  intro α field
  cases field <;> simp [ProfileField.ofEntry, ProfileField.ofMetadata, capabilities, request, response, stream]

/-! ## The patches -/

section Step
variable {metadata : ResolvedMapperMetadata}

theorem applyCatalogEntry_names (entry : Option MapperProfileCatalogEntry) :
    (applyCatalogEntry metadata entry).rules.provider = metadata.rules.provider ∧
      (applyCatalogEntry metadata entry).rules.family = metadata.rules.family := by
  rcases entry with _ | ⟨_, _ | _, _ | _, _ | _, _ | _⟩ <;> exact ⟨rfl, rfl⟩

/-- A patch that is missing is one that sets nothing. -/
theorem applyCatalogEntry_some (entry : MapperProfileCatalogEntry) :
    applyCatalogEntry metadata (some entry) =
      let metadata := { metadata with
        capabilities := applyCapabilitiesPatch metadata.capabilities
          (entry.capabilities.getD ⟨none, none, none, none, none, none⟩) }
      let metadata := applyResponsePatch (applyRequestPatch metadata (entry.request.getD {})) (entry.response.getD {})
      { metadata with rules := applyStreamPatch metadata.rules (entry.stream.getD {}) } := by
  obtain ⟨_, capabilities, request, response, stream⟩ := entry
  rcases capabilities with _ | _ <;> rcases request with _ | _ <;> rcases response with _ | _ <;>
    rcases stream with _ | _ <;> rfl

/-- An entry changes the fields it sets and no others. -/
theorem ofMetadata_applyCatalogEntry {α : Type} (entry : MapperProfileCatalogEntry) (field : ProfileField α) :
    field.ofMetadata (applyCatalogEntry metadata (some entry)) =
      (field.ofEntry entry).getD (field.ofMetadata metadata) := by
  rw [applyCatalogEntry_some]
  obtain ⟨_, capabilities, request, response, stream⟩ := entry
  cases field with
  | openaiCompatible | supportsResponseFormat | supportsToolChoice | supportsParallelToolCalls | supportsThinking
  | supportsStreamingReasoning => cases capabilities <;> rfl
  | systemHandling | messageContentMode | toolChoiceMode | responseFormatMode | reasoningMode | multimodalMode =>
    cases request <;> rfl
  | contentMode | toolCallMappingMode | finishReasonMappingMode | usageMappingMode => cases response <;> rfl
  | streamMode => cases stream <;> rfl

/-- One entry is one layer more. -/
theorem ResolvedMapperMetadata.Layered.apply {layers : List MapperProfileCatalogEntry}
    (layered : metadata.Layered layers) (entry : Option MapperProfileCatalogEntry) :
    (applyCatalogEntry metadata entry).Layered (entry.toList ++ layers) := by
  intro α field
  cases entry with
  | none => exact layered α field
  | some entry =>
    rw [ofMetadata_applyCatalogEntry, Option.toList_some, List.singleton_append, List.findSome?_cons]
    cases field.ofEntry entry with
    | none => exact layered α field
    | some value => rfl

/-- Each field of a request patch is written to the rules and to the profile. -/
theorem ResolvedMapperMetadata.Agreeing.request_patch (agreeing : metadata.Agreeing) (patch : RequestProfilePatch) :
    (applyRequestPatch metadata patch).Agreeing where
  request := by simp [applyRequestPatch, agreeing.request]
  response := agreeing.response
  provider := agreeing.provider
  family := agreeing.family

theorem ResolvedMapperMetadata.Agreeing.response_patch (agreeing : metadata.Agreeing) (patch : ResponseProfilePatch) :
    (applyResponsePatch metadata patch).Agreeing where
  request := agreeing.request
  response := by simp [applyResponsePatch, agreeing.response, Option.getD_map]
  provider := agreeing.provider
  family := agreeing.family

theorem ResolvedMapperMetadata.Agreeing.apply (agreeing : metadata.Agreeing) (entry : Option MapperProfileCatalogEntry) :
    (applyCatalogEntry metadata entry).Agreeing := by
  cases entry with
  | none => exact agreeing
  | some entry =>
    rw [applyCatalogEntry_some]
    -- The capabilities and the stream mode are in one of the two views only.
    have capable : ResolvedMapperMetadata.Agreeing { metadata with
        capabilities := applyCapabilitiesPatch metadata.capabilities
          (entry.capabilities.getD ⟨none, none, none, none, none, none⟩) } :=
      ⟨agreeing.request, agreeing.response, agreeing.provider, agreeing.family⟩
    have patched := (capable.request_patch (entry.request.getD {})).response_patch (entry.response.getD {})
    exact ⟨patched.request, patched.response, patched.provider, patched.family⟩

end Step

/-! ## Resolved metadata -/

theorem findSome_toList {α β : Type} (layer : Option α) (field : α → Option β) :
    layer.toList.findSome? field = layer.bind field := by
  cases layer with
  | none => rfl
  | some entry => exact List.findSome?_singleton

/-- What a resolution comes to where the baseline of the family is listed. -/
theorem resolve_of_listed {config : MapperProfilesConfig} {provider : InferenceProvider} {model : Option String}
    {baseline : MapperProfileCatalogEntry}
    (listed : config.familyDefaults.lookup (config.family provider model) = some baseline)
    (complete : baseline.Complete) :
    ∃ metadata : ResolvedMapperMetadata,
      metadata.Layered ((config.modelEntry model).toList ++ (config.providerEntry provider).toList ++ [baseline]) ∧
      metadata.Agreeing ∧ metadata.rules.provider = provider ∧ metadata.rules.family = config.family provider model ∧
      resolveMapperMetadataFromConfig config provider model =
        match validateProviderRules metadata.capabilities metadata.rules with
        | .error error => .error (.invalid error)
        | .ok () => .ok metadata := by
  obtain ⟨base, resolved, layered, agreeing, ofProvider, ofFamily⟩ :=
    resolvedFromFamilyEntry_complete provider (config.family provider model) complete
  have patched := layered.apply (config.providerEntry provider)
  refine ⟨applyCatalogEntry (applyCatalogEntry base (config.providerEntry provider)) (config.modelEntry model),
    ?_, (agreeing.apply _).apply _, ?_, ?_, ?_⟩
  · rw [List.append_assoc]
    exact patched.apply (config.modelEntry model)
  · rw [(applyCatalogEntry_names _).1, (applyCatalogEntry_names _).1, ofProvider]
  · rw [(applyCatalogEntry_names _).2, (applyCatalogEntry_names _).2, ofFamily]
  · change (expect (config.familyDefaults.lookup (config.family provider model)) _ >>= _) = _
    rw [listed, expect_some]
    change (resolvedFromFamilyEntry provider (config.family provider model) baseline >>= _) = _
    rw [resolved]
    rfl

/-- The family is what the model's override names, or else the provider's default, or else the
family of the provider, and every other field what the model's override sets, or else the
provider's default, or else the baseline of that family; the rules are what the profile says. The
only panic is at a family without a baseline. -/
theorem resolved_metadata_layered (config : MapperProfilesConfig)
    (complete : ∀ listed ∈ config.familyDefaults, listed.2.Complete) (provider : InferenceProvider)
    (model : Option String) :
    (∀ metadata, resolveMapperMetadataFromConfig config provider model = .ok metadata →
      metadata.rules.family = ((config.modelEntry model).bind (·.family)
          |>.or ((config.providerEntry provider).bind (·.family))
          |>.getD (.forProvider provider)) ∧
        ∃ baseline, config.familyDefaults.lookup metadata.rules.family = some baseline ∧
          (∀ (α : Type) (field : ProfileField α), some (field.ofMetadata metadata) =
            ((config.modelEntry model).bind field.ofEntry
              |>.or ((config.providerEntry provider).bind field.ofEntry)
              |>.or (field.ofEntry baseline))) ∧
          metadata.Agreeing) ∧
    (∀ message, resolveMapperMetadataFromConfig config provider model = .error (.panic message) →
      config.familyDefaults.lookup (config.family provider model) = none) := by
  cases listed : config.familyDefaults.lookup (config.family provider model) with
  | none =>
    simp only [resolveMapperMetadataFromConfig, listed, implies_true, and_true]
    rintro metadata ⟨⟩
  | some baseline =>
    obtain ⟨before, after, entries, _⟩ := List.lookup_eq_some_iff.mp listed
    have entered := complete (config.family provider model, baseline) (by simp [entries])
    obtain ⟨metadata, layered, agreeing, _, family, outcome⟩ := resolve_of_listed listed entered
    rw [outcome]
    cases validateProviderRules metadata.capabilities metadata.rules with
    | error error => exact ⟨by rintro _ ⟨⟩, by rintro _ ⟨⟩⟩
    | ok _ =>
      refine ⟨?_, by rintro _ ⟨⟩⟩
      rintro _ ⟨⟩
      refine ⟨family, baseline, family ▸ listed, ?_, agreeing⟩
      intro α field
      rw [← layered α field, List.findSome?_append, List.findSome?_append, findSome_toList, findSome_toList,
        List.findSome?_singleton]

/-- The catalog of one family, a provider that patches a request and a model that names its own
reasoning mode. -/
def patchedCatalog : MapperProfilesConfig where
  familyDefaults := [(.openAiCompatible, {
    capabilities := some ⟨some true, some true, some true, some true, some false, some false⟩
    request := some ⟨some .firstClassField, some .openAiStyle, some .native, some .passthrough, some .unsupported,
      some .openAiStyle⟩
    response := some ⟨some .passthrough, some .native, some .passthrough, some .passthrough⟩
    stream := some ⟨some .openAiSse⟩ })]
  providerDefaults := [(.named "deepseek", { request := some { systemHandling := some .merge } })]
  modelOverrides := [("deepseek/deepseek-reasoner", {
    capabilities := some ⟨none, none, none, none, some true, none⟩
    request := some { reasoningMode := some .passthrough } })]

theorem resolved_metadata_layered_patched :
    ∃ metadata, resolveMapperMetadataFromConfig patchedCatalog (.named "deepseek") (some "deepseek/deepseek-reasoner") =
        .ok metadata ∧ metadata.nonStreamProfile.request.reasoningMode = .passthrough ∧
      metadata.rules.request.systemHandling = .merge ∧ metadata.Agreeing := by
  have complete : ∀ listed ∈ patchedCatalog.familyDefaults, listed.2.Complete := by
    simp only [patchedCatalog, List.mem_singleton, forall_eq]
    exact ⟨⟨_, _, _, _, _, _, rfl⟩, ⟨_, _, _, _, _, _, rfl⟩, ⟨_, _, _, _, rfl⟩, ⟨_, rfl⟩⟩
  have layered := resolved_metadata_layered patchedCatalog complete (.named "deepseek")
    (some "deepseek/deepseek-reasoner")
  obtain ⟨_, _, _, _, agreeing⟩ := layered.1 _ rfl
  exact ⟨_, rfl, rfl, rfl, agreeing⟩

/-- A baseline that says another family than the one it is listed under. -/
def misnamedCatalog : MapperProfilesConfig :=
  { patchedCatalog with
    familyDefaults := patchedCatalog.familyDefaults.map fun listed =>
      (listed.1, { listed.2 with family := some .bedrockConverse }) }

/-- The family has no third layer among the entries: what the baseline says of it is not read. -/
theorem family_not_of_baseline :
    ¬ ∀ (config : MapperProfilesConfig) (provider : InferenceProvider) (model : Option String)
        (metadata : ResolvedMapperMetadata) (baseline : MapperProfileCatalogEntry),
        (∀ listed ∈ config.familyDefaults, listed.2.Complete ∧ listed.2.family.isSome) →
          resolveMapperMetadataFromConfig config provider model = .ok metadata →
          config.familyDefaults.lookup metadata.rules.family = some baseline →
          some metadata.rules.family = ((config.modelEntry model).bind (·.family)
            |>.or ((config.providerEntry provider).bind (·.family))
            |>.or baseline.family) := by
  intro layered
  have defined : ∀ listed ∈ misnamedCatalog.familyDefaults, listed.2.Complete ∧ listed.2.family.isSome := by
    simp only [misnamedCatalog, patchedCatalog, List.map_cons, List.map_nil, List.mem_singleton, forall_eq]
    exact ⟨⟨⟨_, _, _, _, _, _, rfl⟩, ⟨_, _, _, _, _, _, rfl⟩, ⟨_, _, _, _, rfl⟩, ⟨_, rfl⟩⟩, rfl⟩
  have named := layered misnamedCatalog (.named "deepseek") none _ _ defined rfl rfl
  exact absurd named (by decide)

end AiGateway
