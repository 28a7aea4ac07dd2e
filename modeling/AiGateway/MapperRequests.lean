import AiGateway.ContentFilter
import AiGateway.MapperRules
import AiGateway.PromptCompression

/-! The mapper's way with a request. A cached prompt is merged in, the policy service is asked,
prompts are compressed, the model is checked against the key's policy, the request is prepared for
its provider and converted, and the path is that of the endpoint it goes to. -/

namespace AiGateway

def OpenAI.path : OpenAI → String
  | .chatCompletions => "v1/chat/completions"
  | .completions => "v1/completions"
  | .embeddings => "v1/embeddings"
  | .imageGenerations => "v1/images/generations"
  | .responses => "v1/responses"

/-- Only Bedrock's path names the model, and there is none without it. -/
def ApiEndpoint.path (chrono : Chrono) (endpoint : ApiEndpoint) (modelId : Option ModelId) (isStream : Bool) :
    Option (List Char) :=
  match endpoint with
  | .openAI endpoint | .openAICompatible _ endpoint => some endpoint.path.toList
  | .anthropicMessages => some "v1/messages".toList
  | .googleGenerateContents => some "generateContent".toList
  | .ollamaChatCompletions => some "v1/chat/completions".toList
  | .bedrockConverse =>
    modelId.map fun modelId =>
      "model/".toList ++ modelId.fmt chrono ++ (if isStream then "/converse-stream".toList else "/converse".toList)

namespace MapperRequests

open ContentFilter (Bytes FilterAuth FilterError PromptHeaderForRequestLog Templating applyModelDowngrade
  evaluateForVkRequest forwarded mergePromptCacheMessagesIntoBody)
open LargeContext (ChatCompletionsPayload)
open MapperRules
open ModelPolicy (PathAndQuery VkPolicy checkModelAccess)
open ModelSupport (JsonLibrary SupportError)
open PromptCompression (PromptCompressionTokenPair)
open SemanticCache (HeaderMap)

inductive MapperServiceError where
  | extensionNotFound (name : String)
  | unmapped (error : ApiEndpoint.MapError)
  | filter (error : FilterError)
  | compression (error : SupportError)
  | invalidConverter (source target : ApiEndpoint)
  | policy (error : ModelPolicy.ApiError)
  | invalidRequestBody (message : String)
  | missingModelId
  | rules (error : RuleError)
  | convert (error : ConvertError)
  | internal
  | invalidUri
  | panicked
  deriving DecidableEq, Repr

/-- The extensions of a request that the mapper reads or writes. -/
structure Parts where
  headers : HeaderMap
  auth : Option FilterAuth
  vkPolicy : Option VkPolicy
  inferenceProvider : Option InferenceProvider
  apiEndpoint : Option ApiEndpoint
  pathAndQuery : Option PathAndQuery
  masterKeyUnifiedModelPassthrough : Bool
  unifiedChatCompletionsResponsesBridge : Bool
  policyModelOverride : Option String
  promptHeader : Option PromptHeaderForRequestLog
  tokenPair : Option PromptCompressionTokenPair

structure MapperContext where
  isStream : Bool
  model : Option ModelId
  unifiedResponsesBridgeChatCompletionsSse : Bool
  deriving DecidableEq, Repr

abbrev Converter := Bytes → Except MapperServiceError (Bytes × MapperContext)

/-- What serde makes of the endpoints' bodies: a chat request, an image request's model, and the
model of the others. -/
structure TypedBodies (Rest : Type) where
  chat : Bytes → Except String (ChatRequest Rest)
  chatText : ChatRequest Rest → Bytes
  image : Bytes → Except String (Option String)
  model : ApiEndpoint → Bytes → Except String String

structure Environment (Fields Rest : Type) where
  templating : Templating
  filter : ContentFilter.Filter Fields
  estimateInputTokens : ChatCompletionsPayload → String → Option InferenceProvider → Option UInt32
  toLowercase : String → String
  chrono : Chrono
  typed : TypedBodies Rest
  converter : ApiEndpoint → ApiEndpoint → Option Converter
  http : PathAndQueryParser

def deserialized {α : Type} (read : Except String α) : Except MapperServiceError α := read.mapError .invalidRequestBody

/-- `TypedEndpointConverter::convert_req_body`. -/
def typedConverter {Source Target : Type} (fromSlice : Bytes → Except String Source) (isStream : Source → Bool)
    (tryConvert : Source → Except ConvertError Target) (model : Target → Except ModelNameError ModelId)
    (toVec : Target → Bytes) : Converter := fun bytes => do
  let sourceRequest ← deserialized (fromSlice bytes)
  let targetRequest ← (tryConvert sourceRequest).mapError .convert
  let model ← (model targetRequest).mapError fun error => .convert (.model error)
  pure (toVec targetRequest, ⟨isStream sourceRequest, some model, false⟩)

structure MapperProfileContext where
  provider : InferenceProvider
  rawModel : String
  nonStreamProfile : ResolvedFormatProfile

structure Mapped (Rest : Type) where
  parts : Parts
  body : Bytes
  pathAndQuery : List Char
  mapperCtx : MapperContext
  targetEndpoint : ApiEndpoint
  profile : Option MapperProfileContext
  envelope : Option (RequestEnvelope Rest)

section Stages
variable {Fields Rest : Type} (env : Environment Fields Rest)

/-- The cached prompt, the policy service and the model it may have put in the request's place. -/
def filterRequest (parts : Parts) (body : Bytes) : Except MapperServiceError (Parts × Bytes) := do
  let workspaceId := (parts.auth.map FilterAuth.orgId).getD ""
  let (body, headerLog) ←
    (mergePromptCacheMessagesIntoBody env.templating env.filter.redis parts.headers workspaceId body).mapError .filter
  let parts := { parts with promptHeader := headerLog.or parts.promptHeader }
  let filterResult ← (evaluateForVkRequest env.filter parts.auth body).mapError .filter
  let body := forwarded body filterResult.forwardBody
  match filterResult.changeModel with
  | none => pure (parts, body)
  | some newModel =>
    let body ← (applyModelDowngrade env.templating.json body newModel).mapError .filter
    pure ({ parts with policyModelOverride := some newModel }, body)

def readJson (json : JsonLibrary) (body : Bytes) : Except String Json :=
  match json.fromSlice body with
  | none => .error "invalid JSON"
  | some value => .ok value

def compressRequest (source target : ApiEndpoint) (parts : Parts) (body : Bytes) :
    Except MapperServiceError (Parts × Bytes) :=
  if source = .openAI .chatCompletions then do
    let json := env.templating.json
    let (compressed, noted) := PromptCompression.applyChatCompletions (readJson json) json.toVec env.estimateInputTokens
      ⟨parts.headers, parts.tokenPair⟩ body target.provider
    let body ← compressed.mapError .compression
    pure ({ parts with tokenPair := noted.tokenPair }, body)
  else .ok (parts, body)

/-- A model that the policy service chose is not checked again. -/
def enforceVkModelPolicyForSourceEndpoint (parts : Parts) (source : ApiEndpoint) (body : Bytes) :
    Except MapperServiceError Unit :=
  if parts.policyModelOverride.isSome then .ok ()
  else
    let deny (model : String) := (checkModelAccess env.toLowercase parts.vkPolicy model).mapError .policy
    match source with
    | .openAI .chatCompletions => do
      let request ← deserialized (env.typed.chat body)
      deny request.model
    | .openAI .imageGenerations => do
      match ← deserialized (env.typed.image body) with
      | none => .error .missingModelId
      | some name => deny name
    | .openAI .completions | .openAI .embeddings | .openAI .responses | .anthropicMessages => do
      let model ← deserialized (env.typed.model source body)
      deny model
    | .googleGenerateContents | .ollamaChatCompletions | .bedrockConverse | .openAICompatible _ _ => .ok ()

/-- `RequestEnvelope::from_source_request_bytes`, with the metadata attached. -/
def requestEnvelope (source target : ApiEndpoint) (body : Bytes) :
    Except MapperServiceError (Option (RequestEnvelope Rest)) :=
  match source with
  | .openAI .chatCompletions => do
    let request ← deserialized (env.typed.chat body)
    let envelope := RequestEnvelope.fromOpenaiChatRequest env.chrono source target.provider request
    match resolveMapperMetadata envelope.targetProvider (some envelope.rawModel) with
    | .error _ => .error .panicked
    | .ok resolved => pure (some (envelope.withResolvedMetadata resolved))
  | _ => .ok none

def prepareRequest (envelope : Option (RequestEnvelope Rest)) (body : Bytes) :
    Except MapperServiceError (Bytes × Option (RequestEnvelope Rest)) :=
  match envelope with
  | none => .ok (body, none)
  | some envelope => do
    let envelope ← (prepareRequestEnvelope envelope).mapError .rules
    pure (env.typed.chatText envelope.openaiRequest, some envelope)

def masterKeyUnifiedPassthroughChatCompletions (provider : InferenceProvider) : Converter := fun body => do
  let req ← deserialized (env.typed.chat body)
  let model ← (ModelId.fromStrAndProvider env.chrono provider req.model.toList).mapError fun error => .convert (.model error)
  pure (env.typed.chatText req, ⟨req.stream.getD false, some model, false⟩)

/-- A custom key's own address takes chat requests as they are. -/
def converterFor (passthrough : Bool) (source target : ApiEndpoint) (converter : Converter) : Converter :=
  match passthrough, source, target with
  | true, .openAI .chatCompletions, .openAICompatible provider .chatCompletions =>
    masterKeyUnifiedPassthroughChatCompletions env provider
  | _, _, _ => converter

def targetPath (target : ApiEndpoint) (mapperCtx : MapperContext) (query : Option (List Char)) :
    Except MapperServiceError (List Char) :=
  match target.path env.chrono mapperCtx.model mapperCtx.isStream with
  | none => .error .internal
  | some basePath =>
    let text :=
      match query with
      | some queryParams => basePath ++ '?' :: queryParams
      | none => basePath
    match env.http.fromStr text with
    | none => .error .invalidUri
    | some kept => .ok kept

def profileContext (envelope : RequestEnvelope Rest) : Option MapperProfileContext :=
  envelope.resolvedMetadata.map fun resolved => ⟨envelope.targetProvider, envelope.rawModel, resolved.nonStreamProfile⟩

def mapRequest (source target : ApiEndpoint) (targetPathAndQuery : PathAndQuery) (parts : Parts) (body : Bytes) :
    Except MapperServiceError (Mapped Rest) := do
  let (parts, body) ← filterRequest env parts body
  let (parts, body) ← compressRequest env source target parts body
  match env.converter source target with
  | none => .error (.invalidConverter source target)
  | some converter =>
    let passthrough := parts.masterKeyUnifiedModelPassthrough
    if !passthrough then
      enforceVkModelPolicyForSourceEndpoint env parts source body
    let envelope ← if passthrough then .ok none else requestEnvelope env source target body
    let (body, envelope) ← prepareRequest env envelope body
    let (body, mapperCtx) ← converterFor env passthrough source target converter body
    let mapperCtx :=
      { mapperCtx with unifiedResponsesBridgeChatCompletionsSse := parts.unifiedChatCompletionsResponsesBridge }
    let pathAndQuery ← targetPath env target mapperCtx targetPathAndQuery.query
    pure {
      parts := { parts with unifiedChatCompletionsResponsesBridge := false }
      body
      pathAndQuery
      mapperCtx
      targetEndpoint := target
      profile := envelope.bind profileContext
      envelope }

/-- The request's side of the service: where it goes is read off its extensions. -/
def call (parts : Parts) (body : Bytes) : Except MapperServiceError (Mapped Rest) :=
  match parts.inferenceProvider with
  | none => .error (.extensionNotFound "InferenceProvider")
  | some provider =>
    let targetProvider := if parts.masterKeyUnifiedModelPassthrough then .custom else provider
    match parts.pathAndQuery with
    | none => .error (.extensionNotFound "PathAndQuery")
    | some extracted =>
      match parts.apiEndpoint with
      | none => .error (.extensionNotFound "ApiEndpoint")
      | some source =>
        match ApiEndpoint.mapped source targetProvider with
        | .error error => .error (.unmapped error)
        | .ok target => mapRequest env source target extracted { parts with pathAndQuery := none } body

end Stages

end MapperRequests

end AiGateway
