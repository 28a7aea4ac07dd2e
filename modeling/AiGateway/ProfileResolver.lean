import AiGateway.MapperProfiles

/-! Mapper metadata resolved from the catalog: the baseline of a protocol family, patched by
the provider's defaults and by the model's overrides. -/

namespace AiGateway

inductive ProviderProtocolFamily where
  | openAiCompatible
  | anthropicMessages
  | bedrockConverse
  | geminiOpenAiLike
  | ollamaChat
  deriving DecidableEq, Repr

namespace ProviderProtocolFamily

def forProvider : InferenceProvider → ProviderProtocolFamily
  | .openAI | .custom | .named _ => .openAiCompatible
  | .anthropic => .anthropicMessages
  | .bedrock => .bedrockConverse
  | .googleGemini => .geminiOpenAiLike
  | .ollama => .ollamaChat

/-- The derived `Debug`. -/
def debug : ProviderProtocolFamily → String
  | .openAiCompatible => "OpenAiCompatible"
  | .anthropicMessages => "AnthropicMessages"
  | .bedrockConverse => "BedrockConverse"
  | .geminiOpenAiLike => "GeminiOpenAiLike"
  | .ollamaChat => "OllamaChat"

end ProviderProtocolFamily

inductive SystemHandling where
  | ignore
  | merge
  | firstClassField
  deriving DecidableEq, Repr

inductive ToolChoiceMode where
  | native
  | mapToAny
  | mapToTool
  | unsupported
  deriving DecidableEq, Repr

inductive ResponseFormatMode where
  | passthrough
  | unsupported
  | providerSpecificHelper
  deriving DecidableEq, Repr

inductive ReasoningMode where
  | passthrough
  | mapToThinking
  | mapToAdditionalFields
  | unsupported
  deriving DecidableEq, Repr

inductive MultimodalMode where
  | openAiStyle
  | contentBlocks
  | imagesOnly
  | unsupported
  deriving DecidableEq, Repr

inductive MessageContentMode where
  | openAiStyle
  | anthropicBlocks
  | bedrockContent
  deriving DecidableEq, Repr

inductive StreamMode where
  | openAiSse
  | anthropicEvents
  | bedrockEventStream
  deriving DecidableEq, Repr

inductive FinishReasonMapping where
  | passthrough
  | providerSpecific
  deriving DecidableEq, Repr

inductive ToolCallMapping where
  | native
  | providerSpecific
  deriving DecidableEq, Repr

inductive UsageMapping where
  | passthrough
  | providerSpecific
  deriving DecidableEq, Repr

structure ProviderCapabilities where
  provider : InferenceProvider
  openaiCompatible : Bool
  supportsResponseFormat : Bool
  supportsToolChoice : Bool
  supportsParallelToolCalls : Bool
  supportsThinking : Bool
  supportsStreamingReasoning : Bool
  deriving DecidableEq, Repr

structure ProviderRequestRuleSet where
  systemHandling : SystemHandling
  toolChoiceMode : ToolChoiceMode
  responseFormatMode : ResponseFormatMode
  reasoningMode : ReasoningMode
  multimodalMode : MultimodalMode
  deriving DecidableEq, Repr

structure ProviderResponseRuleSet where
  finishReasonMapping : FinishReasonMapping
  toolCallMapping : ToolCallMapping
  usageMapping : UsageMapping
  deriving DecidableEq, Repr

structure ProviderStreamRuleSet where
  streamMode : StreamMode
  deriving DecidableEq, Repr

structure ProviderRuleSet where
  provider : InferenceProvider
  family : ProviderProtocolFamily
  request : ProviderRequestRuleSet
  response : ProviderResponseRuleSet
  stream : ProviderStreamRuleSet
  deriving DecidableEq, Repr

structure RequestProfile where
  systemHandling : SystemHandling
  messageContentMode : MessageContentMode
  toolChoiceMode : ToolChoiceMode
  responseFormatMode : ResponseFormatMode
  reasoningMode : ReasoningMode
  multimodalMode : MultimodalMode
  deriving DecidableEq, Repr

/-- A profile with what the response interpreters do not read of it. -/
structure ResolvedFormatProfile extends NonStreamFormatProfile where
  family : ProviderProtocolFamily
  request : RequestProfile
  deriving DecidableEq, Repr

structure ResolvedMapperMetadata where
  capabilities : ProviderCapabilities
  rules : ProviderRuleSet
  nonStreamProfile : ResolvedFormatProfile
  deriving DecidableEq, Repr

/-! ## The catalog -/

structure MapperCapabilitiesPatch where
  openaiCompatible : Option Bool
  supportsResponseFormat : Option Bool
  supportsToolChoice : Option Bool
  supportsParallelToolCalls : Option Bool
  supportsThinking : Option Bool
  supportsStreamingReasoning : Option Bool
  deriving DecidableEq, Repr

structure RequestProfilePatch where
  systemHandling : Option SystemHandling := none
  messageContentMode : Option MessageContentMode := none
  toolChoiceMode : Option ToolChoiceMode := none
  responseFormatMode : Option ResponseFormatMode := none
  reasoningMode : Option ReasoningMode := none
  multimodalMode : Option MultimodalMode := none
  deriving DecidableEq, Repr

structure ResponseProfilePatch where
  contentMode : Option ResponseContentMode := none
  toolCallMappingMode : Option ToolCallMappingMode := none
  finishReasonMappingMode : Option FinishReasonMappingMode := none
  usageMappingMode : Option UsageMappingMode := none
  deriving DecidableEq, Repr

structure StreamProfilePatch where
  streamMode : Option StreamMode := none
  deriving DecidableEq, Repr

structure MapperProfileCatalogEntry where
  family : Option ProviderProtocolFamily := none
  capabilities : Option MapperCapabilitiesPatch := none
  request : Option RequestProfilePatch := none
  response : Option ResponseProfilePatch := none
  stream : Option StreamProfilePatch := none
  deriving DecidableEq, Repr

structure MapperProfilesConfig where
  familyDefaults : List (ProviderProtocolFamily × MapperProfileCatalogEntry)
  providerDefaults : List (InferenceProvider × MapperProfileCatalogEntry)
  modelOverrides : List (String × MapperProfileCatalogEntry)

/-! ## Validation -/

inductive ProviderRuleValidationError where
  | familyCapabilityMismatch (provider : InferenceProvider) (family : ProviderProtocolFamily) (openaiCompatible : Bool)
  | reasoningCapabilityMismatch (provider : InferenceProvider) (reasoningMode : ReasoningMode)
  | responseFormatCapabilityMismatch (provider : InferenceProvider) (responseFormatMode : ResponseFormatMode)
  | toolChoiceCapabilityMismatch (provider : InferenceProvider) (toolChoiceMode : ToolChoiceMode)
  deriving DecidableEq, Repr

def validateProviderRules (capabilities : ProviderCapabilities) (rules : ProviderRuleSet) :
    Except ProviderRuleValidationError Unit :=
  let familyIsOpenaiCompatible :=
    match rules.family with
    | .openAiCompatible | .geminiOpenAiLike | .ollamaChat => true
    | .anthropicMessages | .bedrockConverse => false
  let reasons :=
    match rules.request.reasoningMode with
    | .mapToThinking | .mapToAdditionalFields | .passthrough => true
    | .unsupported => false
  if familyIsOpenaiCompatible != capabilities.openaiCompatible
      && !(rules.family == .geminiOpenAiLike && capabilities.provider == .googleGemini)
      && !(rules.family == .ollamaChat && capabilities.provider == .ollama) then
    .error (.familyCapabilityMismatch capabilities.provider rules.family capabilities.openaiCompatible)
  else if reasons && !capabilities.supportsThinking && rules.request.reasoningMode != .passthrough then
    .error (.reasoningCapabilityMismatch capabilities.provider rules.request.reasoningMode)
  else if !capabilities.supportsResponseFormat && rules.request.responseFormatMode != .unsupported then
    .error (.responseFormatCapabilityMismatch capabilities.provider rules.request.responseFormatMode)
  else if !capabilities.supportsToolChoice && rules.request.toolChoiceMode != .unsupported then
    .error (.toolChoiceCapabilityMismatch capabilities.provider rules.request.toolChoiceMode)
  else .ok ()

/-! ## Resolution -/

/-- What a resolution ends in when it gives no metadata: a refusal, or a panic with its text. -/
inductive ResolveFailure where
  | invalid (error : ProviderRuleValidationError)
  | panic (message : String)
  deriving DecidableEq, Repr

/-- `Option::expect`, and `unwrap_or_else` with a panic. -/
def expect {α : Type} (value : Option α) (message : String) : Except ResolveFailure α :=
  match value with
  | some value => .ok value
  | none => .error (.panic message)

@[simp] theorem expect_some {α : Type} (value : α) (message : String) : expect (some value) message = .ok value := rfl

def finishReasonMappingFromMode : FinishReasonMappingMode → FinishReasonMapping
  | .passthrough => .passthrough
  | .providerSpecificHelper => .providerSpecific

def toolCallMappingFromMode : ToolCallMappingMode → ToolCallMapping
  | .native => .native
  | .providerSpecificHelper => .providerSpecific

def usageMappingFromMode : UsageMappingMode → UsageMapping
  | .passthrough => .passthrough
  | .providerSpecificHelper => .providerSpecific

def providerCapabilitiesFromPatch (provider : InferenceProvider) (patch : MapperCapabilitiesPatch) :
    Except ResolveFailure ProviderCapabilities := do
  return {
    provider
    openaiCompatible := ← expect patch.openaiCompatible "family capabilities must define openai_compatible"
    supportsResponseFormat :=
      ← expect patch.supportsResponseFormat "family capabilities must define supports_response_format"
    supportsToolChoice := ← expect patch.supportsToolChoice "family capabilities must define supports_tool_choice"
    supportsParallelToolCalls :=
      ← expect patch.supportsParallelToolCalls "family capabilities must define supports_parallel_tool_calls"
    supportsThinking := ← expect patch.supportsThinking "family capabilities must define supports_thinking"
    supportsStreamingReasoning :=
      ← expect patch.supportsStreamingReasoning "family capabilities must define supports_streaming_reasoning" }

def providerRulesFromPatches (provider : InferenceProvider) (family : ProviderProtocolFamily)
    (request : RequestProfilePatch) (response : ResponseProfilePatch) (stream : StreamProfilePatch) :
    Except ResolveFailure ProviderRuleSet := do
  return {
    provider
    family
    request := {
      systemHandling := ← expect request.systemHandling "family request patch must define system_handling"
      toolChoiceMode := ← expect request.toolChoiceMode "family request patch must define tool_choice_mode"
      responseFormatMode := ← expect request.responseFormatMode "family request patch must define response_format_mode"
      reasoningMode := ← expect request.reasoningMode "family request patch must define reasoning_mode"
      multimodalMode := ← expect request.multimodalMode "family request patch must define multimodal_mode" }
    response := {
      finishReasonMapping := finishReasonMappingFromMode
        (← expect response.finishReasonMappingMode "family response patch must define finish_reason_mapping_mode")
      toolCallMapping := toolCallMappingFromMode
        (← expect response.toolCallMappingMode "family response patch must define tool_call_mapping_mode")
      usageMapping := usageMappingFromMode
        (← expect response.usageMappingMode "family response patch must define usage_mapping_mode") }
    stream := { streamMode := ← expect stream.streamMode "family stream patch must define stream_mode" } }

def nonStreamProfileFromPatches (provider : InferenceProvider) (family : ProviderProtocolFamily)
    (request : RequestProfilePatch) (response : ResponseProfilePatch) : Except ResolveFailure ResolvedFormatProfile := do
  return {
    provider
    family
    request := {
      systemHandling := ← expect request.systemHandling "family request patch must define system_handling"
      messageContentMode := ← expect request.messageContentMode "family request patch must define message_content_mode"
      toolChoiceMode := ← expect request.toolChoiceMode "family request patch must define tool_choice_mode"
      responseFormatMode := ← expect request.responseFormatMode "family request patch must define response_format_mode"
      reasoningMode := ← expect request.reasoningMode "family request patch must define reasoning_mode"
      multimodalMode := ← expect request.multimodalMode "family request patch must define multimodal_mode" }
    response := {
      contentMode := ← expect response.contentMode "family response patch must define content_mode"
      toolCallMappingMode :=
        ← expect response.toolCallMappingMode "family response patch must define tool_call_mapping_mode"
      finishReasonMappingMode :=
        ← expect response.finishReasonMappingMode "family response patch must define finish_reason_mapping_mode"
      usageMappingMode := ← expect response.usageMappingMode "family response patch must define usage_mapping_mode" } }

def resolvedFromFamilyEntry (provider : InferenceProvider) (family : ProviderProtocolFamily)
    (entry : MapperProfileCatalogEntry) : Except ResolveFailure ResolvedMapperMetadata := do
  let capabilitiesPatch ←
    expect entry.capabilities ("family mapper baseline missing capabilities for " ++ family.debug)
  let requestPatch ← expect entry.request ("family mapper baseline missing request profile for " ++ family.debug)
  let responsePatch ← expect entry.response ("family mapper baseline missing response profile for " ++ family.debug)
  let streamPatch ← expect entry.stream ("family mapper baseline missing stream profile for " ++ family.debug)
  return {
    capabilities := ← providerCapabilitiesFromPatch provider capabilitiesPatch
    rules := ← providerRulesFromPatches provider family requestPatch responsePatch streamPatch
    nonStreamProfile := ← nonStreamProfileFromPatches provider family requestPatch responsePatch }

def applyCapabilitiesPatch (capabilities : ProviderCapabilities) (patch : MapperCapabilitiesPatch) :
    ProviderCapabilities :=
  { capabilities with
    openaiCompatible := patch.openaiCompatible.getD capabilities.openaiCompatible
    supportsResponseFormat := patch.supportsResponseFormat.getD capabilities.supportsResponseFormat
    supportsToolChoice := patch.supportsToolChoice.getD capabilities.supportsToolChoice
    supportsParallelToolCalls := patch.supportsParallelToolCalls.getD capabilities.supportsParallelToolCalls
    supportsThinking := patch.supportsThinking.getD capabilities.supportsThinking
    supportsStreamingReasoning := patch.supportsStreamingReasoning.getD capabilities.supportsStreamingReasoning }

/-- The message content mode has no rule beside it. -/
def applyRequestPatch (metadata : ResolvedMapperMetadata) (patch : RequestProfilePatch) : ResolvedMapperMetadata :=
  let rules := metadata.rules.request
  let profile := metadata.nonStreamProfile.request
  { metadata with
    rules.request := {
      systemHandling := patch.systemHandling.getD rules.systemHandling
      toolChoiceMode := patch.toolChoiceMode.getD rules.toolChoiceMode
      responseFormatMode := patch.responseFormatMode.getD rules.responseFormatMode
      reasoningMode := patch.reasoningMode.getD rules.reasoningMode
      multimodalMode := patch.multimodalMode.getD rules.multimodalMode }
    nonStreamProfile.request := {
      systemHandling := patch.systemHandling.getD profile.systemHandling
      messageContentMode := patch.messageContentMode.getD profile.messageContentMode
      toolChoiceMode := patch.toolChoiceMode.getD profile.toolChoiceMode
      responseFormatMode := patch.responseFormatMode.getD profile.responseFormatMode
      reasoningMode := patch.reasoningMode.getD profile.reasoningMode
      multimodalMode := patch.multimodalMode.getD profile.multimodalMode } }

/-- The content mode has no rule beside it. -/
def applyResponsePatch (metadata : ResolvedMapperMetadata) (patch : ResponseProfilePatch) : ResolvedMapperMetadata :=
  let rules := metadata.rules.response
  let profile := metadata.nonStreamProfile.response
  { metadata with
    rules.response := {
      finishReasonMapping :=
        (patch.finishReasonMappingMode.map finishReasonMappingFromMode).getD rules.finishReasonMapping
      toolCallMapping := (patch.toolCallMappingMode.map toolCallMappingFromMode).getD rules.toolCallMapping
      usageMapping := (patch.usageMappingMode.map usageMappingFromMode).getD rules.usageMapping }
    nonStreamProfile.response := {
      contentMode := patch.contentMode.getD profile.contentMode
      toolCallMappingMode := patch.toolCallMappingMode.getD profile.toolCallMappingMode
      finishReasonMappingMode := patch.finishReasonMappingMode.getD profile.finishReasonMappingMode
      usageMappingMode := patch.usageMappingMode.getD profile.usageMappingMode } }

def applyStreamPatch (rules : ProviderRuleSet) (patch : StreamProfilePatch) : ProviderRuleSet :=
  { rules with stream.streamMode := patch.streamMode.getD rules.stream.streamMode }

def applyCatalogEntry (metadata : ResolvedMapperMetadata) : Option MapperProfileCatalogEntry → ResolvedMapperMetadata
  | none => metadata
  | some entry =>
    let metadata :=
      match entry.capabilities with
      | some patch => { metadata with capabilities := applyCapabilitiesPatch metadata.capabilities patch }
      | none => metadata
    let metadata :=
      match entry.request with
      | some patch => applyRequestPatch metadata patch
      | none => metadata
    let metadata :=
      match entry.response with
      | some patch => applyResponsePatch metadata patch
      | none => metadata
    match entry.stream with
    | some patch => { metadata with rules := applyStreamPatch metadata.rules patch }
    | none => metadata

namespace MapperProfilesConfig

def providerEntry (config : MapperProfilesConfig) (provider : InferenceProvider) : Option MapperProfileCatalogEntry :=
  config.providerDefaults.lookup provider

def modelEntry (config : MapperProfilesConfig) (model : Option String) : Option MapperProfileCatalogEntry :=
  model.bind fun name => config.modelOverrides.lookup name

/-- The family whose baseline a resolution starts from. What a baseline says of its own
family is not read. -/
def family (config : MapperProfilesConfig) (provider : InferenceProvider) (model : Option String) :
    ProviderProtocolFamily :=
  ((config.modelEntry model).bind (·.family)
    |>.or ((config.providerEntry provider).bind (·.family))).getD (.forProvider provider)

end MapperProfilesConfig

def resolveMapperMetadataFromConfig (config : MapperProfilesConfig) (provider : InferenceProvider)
    (model : Option String) : Except ResolveFailure ResolvedMapperMetadata := do
  let family := config.family provider model
  let familyEntry ←
    expect (config.familyDefaults.lookup family) ("missing family mapper baseline for " ++ family.debug)
  let metadata ← resolvedFromFamilyEntry provider family familyEntry
  let metadata := applyCatalogEntry metadata (config.providerEntry provider)
  let metadata := applyCatalogEntry metadata (config.modelEntry model)
  match validateProviderRules metadata.capabilities metadata.rules with
  | .error error => .error (.invalid error)
  | .ok () => .ok metadata

end AiGateway
