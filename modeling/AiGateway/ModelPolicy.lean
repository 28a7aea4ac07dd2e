import AiGateway.ModelIds
import AiGateway.Upstream

/-! The models a virtual key may ask for: the check itself, the unified API that makes it
before it resolves the model's provider, and the dispatcher that makes it for requests
proxied directly. -/

namespace AiGateway.ModelPolicy

open Lib.Splits

structure VkPolicy where
  allowedModels : Option (List String)
  blockedModels : Option (List String)
  deriving DecidableEq, Repr

/-- The errors of the modelled functions; compression ends in those of headers and body. -/
inductive ApiError where
  | modelAccessDenied (model : String)
  | invalidRequestBody (message : String)
  | invalidRequestHeader (message : String)
  | invalidLargeContextHandler (value : String)
  | unsupportedGatewayModel (message : String)
  | unsupportedEndpoint (message : String)
  | mapper (error : ModelNameError)
  deriving DecidableEq, Repr

/-- `str::to_lowercase` on ASCII text. -/
def asciiLowercase (text : String) : String := String.ofList (text.toList.map Char.toLower)

section Access
variable (toLowercase : String → String)

def listed (requestModel : String) : Option (List String) → Bool
  | some list => list.any fun model => toLowercase model == toLowercase requestModel
  | none => false

/-- The allowed models come before the blocked ones. -/
def modelAccessAllowed (requestModel : String) (allowedModels blockedModels : Option (List String)) : Bool :=
  if listed toLowercase requestModel allowedModels then true
  else if listed toLowercase requestModel blockedModels then false
  else true

def checkModelAccess (policy : Option VkPolicy) (model : String) : Except ApiError Unit :=
  match policy with
  | none => .ok ()
  | some policy =>
    if !modelAccessAllowed toLowercase model policy.allowedModels policy.blockedModels then .error (.modelAccessDenied model)
    else .ok ()

end Access

section Unified
variable (chrono : Chrono)

def providerFromBareModel (model : String) : Except ApiError InferenceProvider :=
  match ModelId.fromStr chrono model.toList with
  | .error error => .error (.mapper error)
  | .ok (.modelIdWithVersion provider _) => .ok provider
  | .ok (.bedrock _) => .ok .bedrock
  | .ok (.ollama _) => .ok .ollama
  | .ok (.unknown model) => .error (.unsupportedEndpoint ("provider for the given model: '" ++ model ++ "' not supported"))

def notAllowed : String := "requested model routes to a provider not allowed for this API key"

/-- A list of one provider pins it; a longer one restricts what the model resolves to. -/
def resolveUnifiedTargetProvider (compat : Bool) (compatFallback : InferenceProvider) (model : String)
    (masterKeyAllowedProviders : Option (List InferenceProvider)) : Except ApiError InferenceProvider :=
  let resolved := if compat then .ok compatFallback else providerFromBareModel chrono model
  match masterKeyAllowedProviders with
  | none | some [] => resolved
  | some [only] => .ok only
  | some list =>
    match resolved with
    | .error error => .error error
    | .ok provider => if list.contains provider then .ok provider else .error (.unsupportedGatewayModel notAllowed)

/-- What the unified API makes of the model of a chat completion; `skipsAccess` are the
keys whose requests go to a custom master key's own address. -/
def unifiedChatProvider (toLowercase : String → String) (policy : Option VkPolicy) (skipsAccess compat : Bool)
    (model : String) (masterKeyAllowedProviders : Option (List InferenceProvider)) : Except ApiError InferenceProvider :=
  match if skipsAccess then .ok () else checkModelAccess toLowercase policy model with
  | .error error => .error error
  | .ok _ => resolveUnifiedTargetProvider chrono compat .openAI model masterKeyAllowedProviders

end Unified

/-- The path ends at the first question mark. -/
structure PathAndQuery where
  pathText : List Char
  query : Option (List Char)
  cut : '?' ∉ pathText

namespace PathAndQuery

def path (value : PathAndQuery) : List Char := if value.pathText.isEmpty then ['/'] else value.pathText

def text (value : PathAndQuery) : List Char :=
  asStr (match value.query with
    | none => value.pathText
    | some query => value.pathText ++ '?' :: query)

def withoutQuery (value : PathAndQuery) : PathAndQuery := { value with query := none }

end PathAndQuery

def chatCompletions : List Char := "chat/completions".toList

def endsWith (text ending : List Char) : Bool := ending.isSuffixOf text

def unifiedChatCompletionsPath (extractedPathAndQuery : List Char) : Bool :=
  endsWith (extractedPathAndQuery.takeWhile (· != '?')) chatCompletions

structure AuthContext where
  isCustomProvider : Bool
  masterKeyBaseUrl : Option String
  deriving DecidableEq, Repr

/-- What the dispatcher has of a request when the content filter is done with its body. -/
structure DirectRequest (Body : Type) where
  policyModelOverride : Bool
  authCtx : Option AuthContext
  vkPolicy : Option VkPolicy
  requestKind : RequestKind
  provider : InferenceProvider
  extractedPathAndQuery : PathAndQuery
  body : Body
  implicitModelFallback : Bool

/-- The model in a chat completion's body, and what prompt compression makes of a body. -/
structure ChatBodies (Body : Type) where
  model : Body → Except String String
  compress : InferenceProvider → Body → Except ApiError Body

section Dispatcher
variable {Body : Type} (toLowercase : String → String) (bodies : ChatBodies Body)

def isDirect : RequestKind → Bool
  | .directProxy | .customProvider => true
  | .router | .unifiedApi => false

def AuthContext.goesToMasterKey (auth : AuthContext) : Bool := auth.isCustomProvider && auth.masterKeyBaseUrl.isSome

def enforceDirectProxyVkModelPolicy (request : DirectRequest Body) (pathAndQuery : List Char) (body : Body) :
    Except ApiError Unit :=
  if request.policyModelOverride then .ok ()
  else if request.authCtx.any AuthContext.goesToMasterKey then .ok ()
  else if !isDirect request.requestKind then .ok ()
  else if request.provider ≠ .openAI then .ok ()
  else if !endsWith pathAndQuery chatCompletions then .ok ()
  else
    match bodies.model body with
    | .error message => .error (.invalidRequestBody message)
    | .ok model => checkModelAccess toLowercase request.vkPolicy model

/-- The dispatcher's steps on the body: only the proxied requests are compressed here. -/
def compressed (request : DirectRequest Body) : Except ApiError Body :=
  if isDirect request.requestKind && endsWith request.extractedPathAndQuery.path chatCompletions then
    bodies.compress request.provider request.body
  else .ok request.body

/-- The body that goes upstream, unless the request is refused. -/
def dispatchBody (request : DirectRequest Body) : Except ApiError Body :=
  match compressed bodies request with
  | .error error => .error error
  | .ok body =>
    match enforceDirectProxyVkModelPolicy toLowercase bodies request request.extractedPathAndQuery.text body with
    | .error error => .error error
    | .ok _ => .ok body

def shouldAttemptCrossProviderDefaultModelFallback (retryExhaustedBeforeFallback : Bool) (request : DirectRequest Body)
    (resultIsRetryable : Bool) : Bool :=
  retryExhaustedBeforeFallback && request.requestKind == .unifiedApi &&
    unifiedChatCompletionsPath request.extractedPathAndQuery.text && request.implicitModelFallback && resultIsRetryable

end Dispatcher

end AiGateway.ModelPolicy
