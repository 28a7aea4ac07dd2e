import AiGateway.DefaultModel
import AiGateway.MasterKeyCache
import AiGateway.WorkspaceAllowlist

/-! One request on its way to the providers. The unified API resolves a target and finds
a stack to carry it; the dispatcher of the stack authenticates, sends and retries, and at
last may send once more, to the provider of another default model. -/

namespace AiGateway.Dispatch

open DefaultModel MasterKeyCache WorkspaceAllowlist
open ModelPolicy (VkPolicy PathAndQuery providerFromBareModel resolveUnifiedTargetProvider checkModelAccess
  unifiedChatCompletionsPath)

inductive DispatchError where
  | api (error : ModelPolicy.ApiError)
  | choose (error : ChooseError)
  | unsupportedEndpoint (path : String)
  | unsupportedProvider (provider : InferenceProvider)
  | invalidRequestBody (message : String)
  | missingModelId
  | customProviderMissingBaseUrl
  | providerNotAllowedForWorkspace (provider : InferenceProvider)
  | providerNotConfigured (provider : InferenceProvider)
  | providerKeyNotFound
  | internal
  deriving DecidableEq

def ensure (condition : Bool) (error : DispatchError) : Except DispatchError Unit :=
  if condition then .ok () else .error error

/-- What authentication leaves in a request. The flag of a custom key and the list of the
providers it may use come from one record. -/
structure AuthContext extends ModelPolicy.AuthContext where
  orgId : Uuid
  masterKeyId : Option Uuid
  masterKeyAllowedProviders : Option (List InferenceProvider)
  customListed : isCustomProvider = true → ∀ list, masterKeyAllowedProviders = some list → .custom ∈ list

/-- `key` is what the cache of master keys gave, where there is one and it gave anything. -/
def AuthContext.ofMasterKey (orgId masterKeyId : Uuid) (key : Option DecryptedMasterKey) :
    Except DispatchError AuthContext :=
  match key with
  | none => .ok ⟨⟨false, none⟩, orgId, some masterKeyId, none, by simp⟩
  | some key =>
    if key.provider = .custom ∧ key.baseUrl = none then .error .customProviderMissingBaseUrl
    else .ok ⟨⟨key.provider == .custom, key.baseUrl⟩, orgId, some masterKeyId, some [key.provider], by
      intro custom list attached
      rw [← Option.some.inj attached, ← beq_iff_eq.mp custom]
      exact List.mem_singleton_self _⟩

inductive UnifiedApi where
  | chatCompletions
  | completions
  | embeddings
  | imageGenerations
  | responses
  | messages
  deriving DecidableEq, Repr

namespace UnifiedApi

def tryFrom (path : String) : Except DispatchError UnifiedApi :=
  match path with
  | "chat/completions" => .ok .chatCompletions
  | "completions" => .ok .completions
  | "embeddings" => .ok .embeddings
  | "images/generations" => .ok .imageGenerations
  | "responses" => .ok .responses
  | "messages" => .ok .messages
  | _ => .error (.unsupportedEndpoint path)

def compatFallback : UnifiedApi → InferenceProvider
  | .messages => .anthropic
  | .chatCompletions | .completions | .embeddings | .imageGenerations | .responses => .openAI

end UnifiedApi

/-- What is read of a body and written to it. `typedModel` is the model of the body read
as a request to the endpoint, `responsesShaped` an object with `input` and no `messages`. -/
structure Bodies (Body : Type) where
  transform : Body → Except DispatchError Body
  modelField : Body → Option String
  setModel : Body → String → Except DispatchError Body
  responsesShaped : Body → Bool
  typedModel : UnifiedApi → Body → Except DispatchError String

/-- The master keys while a request is dispatched; `chance` picks among several. -/
structure MasterKeys where
  cached : Bool
  get : Uuid → Except MasterKeyCacheError DecryptedMasterKey
  idsByWorkspaceAndProvider : Uuid → InferenceProvider → Except MasterKeyCacheError (List Uuid)
  chance : Nat
  fallbackEnabled : Bool

def MasterKeys.getPrimaryOrFallback (keys : MasterKeys) (primaryId workspaceId : Uuid) (provider : InferenceProvider) :
    Except MasterKeyCacheError DecryptedMasterKey :=
  match keys.get primaryId with
  | .ok key => .ok key
  | .error error =>
    if !keys.fallbackEnabled then .error error
    else
      match keys.idsByWorkspaceAndProvider workspaceId provider with
      | .error error => .error error
      | .ok ids =>
        let candidateIds := ids.filter (· != primaryId)
        match candidateIds[keys.chance % candidateIds.length]? with
        | none => .error (.notFound primaryId)
        | some selectedId => keys.get selectedId

/-- The keys that come from elsewhere: from the environment where there is no
authentication, and those of Bedrock, which must also sign. -/
structure ProviderKeys where
  compatFromEnv : InferenceProvider → Bool
  bedrockOfOrg : Uuid → Bool
  bedrockFromEnv : Bool
  bedrockSigns : Bool

/-- The application as the modelled code sees it. `hasTarget` tells whether an address is
known for a provider, `builds` whether its client can be built. -/
structure Environment (Price Body : Type) where
  chrono : Chrono
  toLowercase : String → String
  pricing : Pricing Price
  catalogue : Catalogue
  compatMode : Bool
  directProxies : InferenceProvider → Bool
  workspaceAllowlist : WorkspaceProviderAllowlist
  bodies : Bodies Body
  masterKeys : MasterKeys
  providerKeys : ProviderKeys
  maxRetries : Option Nat
  hasTarget : Option AuthContext → InferenceProvider → Bool
  builds : InferenceProvider → Bool

/-- What comes back from a provider. -/
inductive Answer where
  | response (status : Nat)
  | reqwestError (isConnect : Bool) (status : Option Nat)
  | streamError (retryable : Bool)
  | otherError
  deriving DecidableEq, Repr

/-- A request in front of a dispatcher; `implicit` is the model it was given by default,
`early` what a filter or a cache answers before anything is sent. -/
structure Arrival (Body : Type) where
  requestKind : RequestKind
  provider : InferenceProvider
  path : PathAndQuery
  auth : Option AuthContext
  vkPolicy : Option VkPolicy
  implicit : Option String
  isStream : Bool
  body : Body
  early : Option (Except DispatchError Answer)

structure UnifiedRequest (Body : Type) where
  path : PathAndQuery
  auth : Option AuthContext
  vkPolicy : Option VkPolicy
  isStream : Bool
  body : Body
  early : Option (Except DispatchError Answer)

section Unified
variable {Price Body : Type} (env : Environment Price Body)

/-- A custom key with an address of its own. -/
def goesToMasterKey (auth : Option AuthContext) : Bool := auth.any fun auth => auth.toAuthContext.goesToMasterKey

def skipModelAccessCustomMasterFallback (auth : Option AuthContext) (model : String) : Bool :=
  if env.compatMode then false
  else if !goesToMasterKey auth then false
  else
    match providerFromBareModel env.chrono model with
    | .error _ => false
    | .ok provider => !env.directProxies provider

def checkAccess (request : UnifiedRequest Body) (model : String) : Except DispatchError Unit :=
  if skipModelAccessCustomMasterFallback env request.auth model then .ok ()
  else (checkModelAccess env.toLowercase request.vkPolicy model).mapError .api

/-- The body with a model, and the model where it was chosen by default. -/
def withModel (request : UnifiedRequest Body) : Except DispatchError (Body × Option String) := do
  let body ← env.bodies.transform request.body
  match env.bodies.modelField body with
  | some _ => return (body, none)
  | none =>
    match request.auth, request.vkPolicy with
    | some _, some vk =>
      let path := String.ofList request.path.path
      let chosen ← (chooseDefaultGatewayModel env.toLowercase env.pricing env.catalogue path vk).mapError .choose
      let body ← env.bodies.setModel body chosen
      return (body, if path = "chat/completions" then env.bodies.modelField body else none)
    | _, _ => throw (.choose .noModelAvailable)

def responsesPath (path : PathAndQuery) : PathAndQuery := ⟨"responses".toList, path.query, by decide⟩

/-- The stack that carries a request for a provider: its own, or for a custom key that of
custom providers, else OpenAI's. -/
def initProxy (auth : Option AuthContext) (provider : InferenceProvider) : Except DispatchError InferenceProvider :=
  if env.directProxies provider then .ok provider
  else if !goesToMasterKey auth then .error (.unsupportedProvider provider)
  else if env.directProxies .custom then .ok .custom
  else if env.directProxies .openAI then .ok .openAI
  else .error (.unsupportedProvider provider)

def unifiedApi (request : UnifiedRequest Body) : Except DispatchError (Arrival Body) := do
  let api ← UnifiedApi.tryFrom (String.ofList request.path.path)
  let (body, implicit) ← withModel env request
  -- a chat request whose body is one to the Responses API goes on as such
  let redirected := api == .chatCompletions && env.bodies.responsesShaped body
  let api := if redirected then .responses else api
  let path := if redirected then responsesPath request.path else request.path
  let model ← env.bodies.typedModel api body
  checkAccess env request model
  let provider ← (resolveUnifiedTargetProvider env.chrono env.compatMode api.compatFallback model
    (request.auth.bind AuthContext.masterKeyAllowedProviders)).mapError .api
  let stack ← initProxy env request.auth provider
  return {
    requestKind := .unifiedApi, provider := stack, path := path, auth := request.auth, vkPolicy := request.vkPolicy,
    implicit := implicit, isStream := request.isStream, body := body, early := request.early }

end Unified

namespace Answer

def isServerError (status : Nat) : Bool := 500 ≤ status && status < 600

def syncDispatchResultIsRetryable : Answer → Bool
  | .response status => isServerError status
  | .reqwestError isConnect status => isConnect || status.any isServerError
  | .streamError _ | .otherError => false

def streamIsRetryable : Answer → Bool
  | .streamError retryable => retryable
  | .response _ | .reqwestError _ _ | .otherError => false

def isOk : Answer → Bool
  | .response _ => true
  | .reqwestError _ _ | .streamError _ | .otherError => false

end Answer

/-- The attempts of `RetryWithResult` with as many delays as `backoff`: how many there
are, and the result of the last. -/
def retryWithResult {Result : Type} (retryable : Result → Bool) (answers : Nat → Result) : Nat → Nat → Nat × Result
  | 0, done => (done + 1, answers done)
  | backoff + 1, done =>
    if retryable (answers done) then retryWithResult retryable answers backoff (done + 1) else (done + 1, answers done)

inductive Client where
  | openAICompatible
  | anthropic
  | ollama
  | bedrock
  deriving DecidableEq, Repr

def Client.new : InferenceProvider → Client
  | .openAI | .googleGemini | .custom | .named _ => .openAICompatible
  | .anthropic => .anthropic
  | .bedrock => .bedrock
  | .ollama => .ollama

def masterKeyProviderMatches (masterProvider targetProvider : InferenceProvider) : Bool :=
  masterProvider == .custom || masterProvider == targetProvider

/-- The providers that a request was sent to, in order, and whose answer it got. Each is
named as the workspace's list is asked about it before the sending. -/
structure Outcome where
  sends : List InferenceProvider
  answer : Except DispatchError (InferenceProvider × Answer)

section Dispatcher
variable {Price Body : Type} (env : Environment Price Body)

def authenticateInner (auth : Option AuthContext) (provider : InferenceProvider) : Except DispatchError Unit :=
  match auth with
  | none => if env.compatMode && env.providerKeys.compatFromEnv provider then .ok () else .error .providerKeyNotFound
  | some auth =>
    match auth.masterKeyId with
    | none => .error .providerKeyNotFound
    | some masterKeyId =>
      if !env.masterKeys.cached then .error .internal
      else
        match env.masterKeys.getPrimaryOrFallback masterKeyId auth.orgId provider with
        | .error _ => .error .providerKeyNotFound
        | .ok key => if masterKeyProviderMatches key.provider provider then .ok () else .error .providerKeyNotFound

def resolveBedrockProviderKey (auth : Option AuthContext) : Bool :=
  if env.compatMode && auth.isNone then env.providerKeys.bedrockFromEnv
  else auth.any (fun auth => env.providerKeys.bedrockOfOrg auth.orgId) || env.providerKeys.bedrockFromEnv

/-- Ollama's requests carry no key, Bedrock's none of a master key. -/
def authenticate (client : Client) (auth : Option AuthContext) (provider : InferenceProvider) :
    Except DispatchError Unit :=
  match client with
  | .bedrock =>
    if !resolveBedrockProviderKey env auth then .error .providerKeyNotFound
    else if env.providerKeys.bedrockSigns then .ok () else .error .internal
  | .openAICompatible | .anthropic => authenticateInner env auth provider
  | .ollama => .ok ()

def enforceWorkspaceProviderAllowlist (auth : Option AuthContext) (provider : InferenceProvider) :
    Except DispatchError Unit :=
  match auth with
  | none => .ok ()
  | some auth =>
    if isProviderAllowedForWorkspace env.workspaceAllowlist auth.orgId provider then .ok ()
    else .error (.providerNotAllowedForWorkspace provider)

def getRetryConfig (requestKind : RequestKind) : Option Nat :=
  if ModelPolicy.isDirect requestKind then none else env.maxRetries

def shouldAttemptCrossProviderDefaultModelFallback (arrival : Arrival Body) (result : Answer) : Bool :=
  (getRetryConfig env arrival.requestKind).any (0 < ·) && arrival.requestKind == .unifiedApi &&
    unifiedChatCompletionsPath arrival.path.text && arrival.implicit.isSome && result.syncDispatchResultIsRetryable

/-- What a request to the provider of the fallback's model needs; the list of the master
key is not asked. -/
def fallbackRequest (arrival : Arrival Body) (fallbackModel : String) : Except DispatchError InferenceProvider := do
  let provider ← (providerFromBareModel env.chrono fallbackModel).mapError .api
  enforceWorkspaceProviderAllowlist env arrival.auth provider
  ensure (env.hasTarget arrival.auth provider) (.providerNotConfigured provider)
  let _ ← env.bodies.setModel arrival.body fallbackModel
  ensure (env.builds provider) .internal
  authenticate env (Client.new provider) arrival.auth provider
  return provider

/-- The fallback up to its sending: the provider it is for, where it comes to that. -/
def tryCrossProviderDefaultModelFallback (arrival : Arrival Body) : Except DispatchError (Option InferenceProvider) :=
  match arrival.auth, arrival.vkPolicy, arrival.implicit with
  | some _, some vk, some selectedModel =>
    match splitProviderModel selectedModel with
    | none => .ok none
    | some parsedCurrent =>
      match chooseDefaultGatewayModelExcludingProvider env.toLowercase env.pricing env.catalogue "chat/completions" vk
          (some parsedCurrent.providerRaw) with
      | .error .noModelAvailable => .ok none
      | .error error => .error (.choose error)
      | .ok fallbackModel =>
        if eqIgnoreAsciiCase fallbackModel.toList selectedModel.toList then .ok none
        else (fallbackRequest env arrival fallbackModel).map some
  | _, _, _ => .ok none

def providerForAllowlist (arrival : Arrival Body) : InferenceProvider :=
  if goesToMasterKey arrival.auth then .custom else arrival.provider

/-- `answers` are those of the provider of the stack, one for each attempt. -/
def dispatchStreamWithRetry (arrival : Arrival Body) (answers : Nat → Answer) : Outcome :=
  let (attempts, result) :=
    retryWithResult Answer.streamIsRetryable answers ((getRetryConfig env arrival.requestKind).getD 0) 0
  ⟨List.replicate attempts (providerForAllowlist arrival), .ok (arrival.provider, result)⟩

/-- `fallbackAnswer` is that of the provider fallen back to; an error of it is dropped. -/
def dispatchSyncWithRetry (arrival : Arrival Body) (answers : Nat → Answer) (fallbackAnswer : Answer) : Outcome :=
  let (attempts, result) :=
    retryWithResult Answer.syncDispatchResultIsRetryable answers ((getRetryConfig env arrival.requestKind).getD 0) 0
  let sends := List.replicate attempts (providerForAllowlist arrival)
  if shouldAttemptCrossProviderDefaultModelFallback env arrival result then
    match tryCrossProviderDefaultModelFallback env arrival with
    | .ok (some provider) =>
      ⟨sends ++ [provider],
        .ok (if fallbackAnswer.isOk then (provider, fallbackAnswer) else (arrival.provider, result))⟩
    | .ok none | .error _ => ⟨sends, .ok (arrival.provider, result)⟩
  else ⟨sends, .ok (arrival.provider, result)⟩

/-- The checks before the caches are asked. -/
def checked (arrival : Arrival Body) : Except DispatchError Unit := do
  enforceWorkspaceProviderAllowlist env arrival.auth (providerForAllowlist arrival)
  ensure (env.hasTarget arrival.auth arrival.provider) (.providerNotConfigured arrival.provider)

def dispatch (arrival : Arrival Body) (answers : Nat → Answer) (fallbackAnswer : Answer) : Outcome :=
  match checked env arrival, arrival.early, authenticate env (Client.new arrival.provider) arrival.auth arrival.provider with
  | .error error, _, _ => ⟨[], .error error⟩
  | .ok _, some early, _ => ⟨[], early.map fun answer => (arrival.provider, answer)⟩
  | .ok _, none, .error error => ⟨[], .error error⟩
  | .ok _, none, .ok _ =>
    if arrival.isStream then dispatchStreamWithRetry env arrival answers
    else dispatchSyncWithRetry env arrival answers fallbackAnswer

/-- A request to the unified API, or one that a router or a proxy has given a dispatcher. -/
inductive Request (Body : Type) where
  | unified (request : UnifiedRequest Body)
  | proxied (arrival : Arrival Body) (other : arrival.requestKind ≠ .unifiedApi)

def Request.auth : Request Body → Option AuthContext
  | .unified request => request.auth
  | .proxied arrival _ => arrival.auth

def arrivalOf : Request Body → Except DispatchError (Arrival Body)
  | .unified request => unifiedApi env request
  | .proxied arrival _ => .ok arrival

def handle (request : Request Body) (answers : Nat → Answer) (fallbackAnswer : Answer) : Outcome :=
  match arrivalOf env request with
  | .error error => ⟨[], .error error⟩
  | .ok arrival => dispatch env arrival answers fallbackAnswer

end Dispatcher

end AiGateway.Dispatch
