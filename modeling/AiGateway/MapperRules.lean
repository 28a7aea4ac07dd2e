import AiGateway.ChatRequests
import AiGateway.ProfileResolver

/-! The rules a chat request is prepared by before it is converted. The profile resolved for its
provider and model says what the provider can do with it, and what it cannot is taken out of a
request that is not for a stream. -/

namespace AiGateway.MapperRules

open OpenAi

/-! ## Requests -/

inductive ResponseFormat where
  | text
  | jsonObject
  | jsonSchema (jsonSchema : Json)
  deriving Repr

/-- A chat request with the fields that only the rules look at. `Rest` is what they leave alone. -/
structure ChatRequest (Rest : Type) extends CreateChatCompletionRequest where
  responseFormat : Option ResponseFormat
  parallelToolCalls : Option Bool
  rest : Rest

structure OpenAiRequestParams where
  rawModel : String
  sourceModel : Option ModelId
  isStream : Bool
  deriving DecidableEq, Repr

def OpenAiRequestParams.fromRequest {Rest : Type} (chrono : Chrono) (request : ChatRequest Rest) : OpenAiRequestParams where
  rawModel := request.model
  sourceModel := (ModelId.fromStr chrono request.model.toList).toOption
  isStream := request.stream.getD false

/-! ## Images -/

/-- A part of a content that carries its type. -/
def typedPart (type name : String) (value : Json) : Json := .object [("type", .string type), (name, value)]

def textPart (text : String) : Json := typedPart "text" "text" (.string text)

/-- The parts of a developer's content carry no type. -/
def developerPart (text : String) : Json := .object [("text", .string text)]

def textContentValue (part : String → Json) : TextContent → Json
  | .text text => .string text
  | .array parts => .array (parts.map part)

def userPartValue : UserPart → Json
  | .text text => textPart text
  | .imageUrl url => typedPart "image_url" "image_url" (.object [("url", .string url)])
  | .inputAudio data => typedPart "input_audio" "input_audio" (.object [("data", .string data)])

def userContentValue : UserContent → Json
  | .text text => .string text
  | .array parts => .array (parts.map userPartValue)

def assistantPartValue : AssistantPart → Json
  | .text text => textPart text
  | .refusal refusal => typedPart "refusal" "refusal" (.string refusal)

def assistantContentValue : AssistantContent → Json
  | .text text => .string text
  | .array parts => .array (parts.map assistantPartValue)

def toolCallValue (call : ToolCall) : Json :=
  .object [("id", .string call.id), ("type", .string "function"),
    ("function", .object [("name", .string call.function.name), ("arguments", .string call.function.arguments)])]

/-- `serde_json::to_value` of a message. A member that is missing is not written. -/
def messageValue : RequestMessage → Json
  | .developer content => .object [("role", .string "developer"), ("content", textContentValue developerPart content)]
  | .system content => .object [("role", .string "system"), ("content", textContentValue textPart content)]
  | .user content => .object [("role", .string "user"), ("content", userContentValue content)]
  | .assistant content toolCalls =>
    .object ([("role", .string "assistant")] ++
      (content.map fun content => ("content", assistantContentValue content)).toList ++
      (toolCalls.map fun calls => ("tool_calls", Json.array (calls.map toolCallValue))).toList)
  | .tool content toolCallId =>
    .object [("role", .string "tool"), ("content", textContentValue textPart content),
      ("tool_call_id", .string toolCallId)]
  | .function content name =>
    .object [("role", .string "function"), ("content", (content.map Json.string).getD .null), ("name", .string name)]

mutual

def containsImageUrlPart : Json → Bool
  | .object members => (members.lookup "type").bind Json.asStr == some "image_url" || membersContain members
  | .array items => itemsContain items
  | _ => false

def membersContain : List (String × Json) → Bool
  | [] => false
  | (_, value) :: rest => containsImageUrlPart value || membersContain rest

def itemsContain : List Json → Bool
  | [] => false
  | item :: rest => containsImageUrlPart item || itemsContain rest

end

@[simp] theorem containsImageUrlPart_object (members : List (String × Json)) :
    containsImageUrlPart (.object members) =
      ((members.lookup "type").bind Json.asStr == some "image_url" || membersContain members) := rfl

@[simp] theorem containsImageUrlPart_array (items : List Json) :
    containsImageUrlPart (.array items) = itemsContain items := rfl

@[simp] theorem containsImageUrlPart_string (text : String) : containsImageUrlPart (.string text) = false := rfl

@[simp] theorem containsImageUrlPart_null : containsImageUrlPart .null = false := rfl

@[simp] theorem membersContain_nil : membersContain [] = false := rfl

@[simp] theorem membersContain_cons (member : String × Json) (rest : List (String × Json)) :
    membersContain (member :: rest) = (containsImageUrlPart member.2 || membersContain rest) := rfl

@[simp] theorem itemsContain_nil : itemsContain [] = false := rfl

@[simp] theorem itemsContain_cons (item : Json) (rest : List Json) :
    itemsContain (item :: rest) = (containsImageUrlPart item || itemsContain rest) := rfl

variable {Rest : Type}

def requestContainsMultimodalContent (value : ChatRequest Rest) : Bool :=
  containsImageUrlPart (.array (value.messages.map messageValue))

/-! ## Rules -/

inductive RuleError where
  | imageMappingInvalid (message : String)
  deriving DecidableEq, Repr

def applyNonStreamRequestProfile (profile : ResolvedFormatProfile) (value : ChatRequest Rest) :
    Except RuleError (ChatRequest Rest) :=
  let value := if profile.request.responseFormatMode = .unsupported then { value with responseFormat := none } else value
  let value :=
    if profile.request.toolChoiceMode = .unsupported then
      { value with tools := none, toolChoice := none, parallelToolCalls := none }
    else value
  let value := if profile.request.reasoningMode = .unsupported then { value with reasoningEffort := none } else value
  if profile.request.multimodalMode = .unsupported && requestContainsMultimodalContent value then
    .error (.imageMappingInvalid ("provider " ++ profile.provider.fmt ++ " does not support multimodal requests"))
  else .ok value

structure RequestRuleContext where
  provider : InferenceProvider
  family : ProviderProtocolFamily
  systemHandling : SystemHandling
  toolChoiceMode : ToolChoiceMode
  responseFormatMode : ResponseFormatMode
  reasoningMode : ReasoningMode
  multimodalMode : MultimodalMode
  supportsParallelToolCalls : Bool
  deriving DecidableEq, Repr

def buildRequestRuleContext (capabilities : ProviderCapabilities) (rules : ProviderRuleSet) : RequestRuleContext where
  provider := rules.provider
  family := rules.family
  systemHandling := rules.request.systemHandling
  toolChoiceMode := if capabilities.supportsToolChoice then rules.request.toolChoiceMode else .unsupported
  responseFormatMode := if capabilities.supportsResponseFormat then rules.request.responseFormatMode else .unsupported
  reasoningMode := rules.request.reasoningMode
  multimodalMode := rules.request.multimodalMode
  supportsParallelToolCalls := capabilities.supportsParallelToolCalls

structure RequestEnvelope (Rest : Type) where
  sourceEndpoint : ApiEndpoint
  targetProvider : InferenceProvider
  targetCapabilities : Option ProviderCapabilities
  targetRules : Option ProviderRuleSet
  requestRuleContext : Option RequestRuleContext
  resolvedMetadata : Option ResolvedMapperMetadata
  rawModel : String
  sourceModel : Option ModelId
  isStream : Bool
  openaiRequest : ChatRequest Rest

def RequestEnvelope.fromOpenaiChatRequest (chrono : Chrono) (sourceEndpoint : ApiEndpoint)
    (targetProvider : InferenceProvider) (request : ChatRequest Rest) : RequestEnvelope Rest :=
  let params := OpenAiRequestParams.fromRequest chrono request
  { sourceEndpoint
    targetProvider
    targetCapabilities := none
    targetRules := none
    requestRuleContext := none
    resolvedMetadata := none
    rawModel := params.rawModel
    sourceModel := params.sourceModel
    isStream := params.isStream
    openaiRequest := request }

/-- `with_target_capabilities`, `with_target_rules` and `with_resolved_metadata` in a row. -/
def RequestEnvelope.withResolvedMetadata (envelope : RequestEnvelope Rest) (resolved : ResolvedMapperMetadata) :
    RequestEnvelope Rest :=
  { envelope with
    targetCapabilities := some resolved.capabilities
    targetRules := some resolved.rules
    resolvedMetadata := some resolved }

def prepareRequestEnvelope (envelope : RequestEnvelope Rest) : Except RuleError (RequestEnvelope Rest) :=
  match envelope.resolvedMetadata with
  | none => .ok envelope
  | some resolved => do
    let context := buildRequestRuleContext resolved.capabilities resolved.rules
    let openaiRequest ←
      if envelope.isStream then pure envelope.openaiRequest
      else
        let request ← applyNonStreamRequestProfile resolved.nonStreamProfile envelope.openaiRequest
        pure (if context.supportsParallelToolCalls then request else { request with parallelToolCalls := none })
    pure { envelope with openaiRequest, requestRuleContext := some context }

/-! ## The catalog the gateway is built with -/

/-- `mapper-profiles.yaml`. -/
def embeddedProfiles : MapperProfilesConfig where
  familyDefaults := [
    (.openAiCompatible, {
      family := some .openAiCompatible
      capabilities := some ⟨some true, some true, some true, some true, some false, some false⟩
      request := some ⟨some .firstClassField, some .openAiStyle, some .native, some .passthrough, some .unsupported,
        some .openAiStyle⟩
      response := some ⟨some .passthrough, some .native, some .passthrough, some .passthrough⟩
      stream := some ⟨some .openAiSse⟩ }),
    (.anthropicMessages, {
      family := some .anthropicMessages
      capabilities := some ⟨some false, some false, some true, some true, some true, some true⟩
      request := some ⟨some .firstClassField, some .anthropicBlocks, some .native, some .unsupported,
        some .mapToThinking, some .contentBlocks⟩
      response := some ⟨some .anthropicMessageContent, some .providerSpecificHelper, some .providerSpecificHelper,
        some .providerSpecificHelper⟩
      stream := some ⟨some .anthropicEvents⟩ }),
    (.bedrockConverse, {
      family := some .bedrockConverse
      capabilities := some ⟨some false, some false, some true, some true, some true, some false⟩
      request := some ⟨some .ignore, some .bedrockContent, some .native, some .unsupported,
        some .mapToAdditionalFields, some .contentBlocks⟩
      response := some ⟨some .bedrockOutputMessage, some .providerSpecificHelper, some .providerSpecificHelper,
        some .providerSpecificHelper⟩
      stream := some ⟨some .bedrockEventStream⟩ }),
    (.geminiOpenAiLike, {
      family := some .geminiOpenAiLike
      capabilities := some ⟨some false, some false, some true, some true, some true, some false⟩
      request := some ⟨some .firstClassField, some .openAiStyle, some .native, some .unsupported, some .unsupported,
        some .openAiStyle⟩
      response := some ⟨some .passthrough, some .native, some .passthrough, some .passthrough⟩
      stream := some ⟨some .openAiSse⟩ }),
    (.ollamaChat, {
      family := some .ollamaChat
      capabilities := some ⟨some false, some false, some true, some false, some false, some false⟩
      request := some ⟨some .merge, some .openAiStyle, some .native, some .unsupported, some .unsupported,
        some .openAiStyle⟩
      response := some ⟨some .passthrough, some .native, some .passthrough, some .passthrough⟩
      stream := some ⟨some .openAiSse⟩ })]
  providerDefaults := [
    (.openAI, {
      family := some .openAiCompatible
      capabilities := some ⟨none, none, none, none, some true, some true⟩
      request := some { reasoningMode := some .passthrough } }),
    (.anthropic, {
      family := some .anthropicMessages
      capabilities := some ⟨none, none, none, none, some true, some true⟩
      request := some { reasoningMode := some .mapToThinking, multimodalMode := some .contentBlocks }
      response := some ⟨some .anthropicMessageContent, some .providerSpecificHelper, some .providerSpecificHelper,
        some .providerSpecificHelper⟩
      stream := some ⟨some .anthropicEvents⟩ })]
  modelOverrides := [
    ("deepseek/deepseek-reasoner", {
      capabilities := some ⟨none, none, none, none, some true, none⟩
      request := some { reasoningMode := some .passthrough } })]

def resolveMapperMetadata (provider : InferenceProvider) (model : Option String) :
    Except ResolveFailure ResolvedMapperMetadata :=
  resolveMapperMetadataFromConfig embeddedProfiles provider model

end AiGateway.MapperRules
