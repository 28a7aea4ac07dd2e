import AiGateway.Config
import AiGateway.Upstream
import AiGateway.MasterKeyCache
import AiGateway.ModelSupport
import AiGateway.VirtualKeyStore
import AiGateway.WorkspaceAllowlist

/-! The way of a request to its handler: the route is read off the path, route and method are
checked before anything else, the virtual key is authenticated, the models that the body names
are looked up, and the meta router hands the request to a router's balancer, to the unified API
or to a provider's proxy. -/

namespace AiGateway.RequestAdmission

open MasterKeyCache (DecryptedMasterKey)
open WorkspaceAllowlist (WorkspaceProviderAllowlist isProviderAllowedForWorkspace)

/-- The authorization header counts only when its value is printable. A body may break off
while it is read. -/
structure HttpRequest where
  request : Request
  method : String
  authorization : Option (List Char)
  headers : SemanticCache.HeaderMap
  readable : Bool
  body : List UInt8

/-- The columns of a virtual key that authentication reads. -/
structure DbVirtualKey extends VirtualKeyStore.DbVirtualKey where
  id : Uuid
  workspaceId : Uuid
  masterKeyId : Uuid
  keyPrefix : String
  label : String
  entityType : Option String
  entityId : Option Uuid
  expiresAt : Option Nat
  subscriptionLogLimit : Int32

structure AuthContext where
  apiKey : List Char
  userId : Uuid
  orgId : Uuid
  virtualKeyId : Uuid
  virtualKeyPrefix : String
  masterKeyId : Uuid
  masterKeyBaseUrl : Option String
  departmentId : Uuid
  entityType : String
  entityId : Uuid
  entityName : String
  bodyTtlDays : Nat
  isCustomProvider : Bool
  masterKeyAllowedProviders : Option (List InferenceProvider)
  deriving DecidableEq

inductive AdmissionError where
  | route (error : RouteError)
  | notFound (path : List Char)
  | methodNotAllowed (method : String) (path : List Char)
  | missingAuthorizationHeader
  | invalidCredentials
  | customProviderMissingBaseUrl
  | models (error : ModelSupport.SupportError)
  | routerNotFound
  | unsupportedEndpoint (path : List Char)
  | unsupportedProvider (provider : InferenceProvider)
  | providerNotAllowedForWorkspace (provider : InferenceProvider)
  deriving DecidableEq

/-- What the layers know when the request comes: the answers of the key store and of the
cache of master keys, the catalogue of models, the routers and the configured providers. -/
structure Gateway where
  authDisabled : Bool
  hashKey : List Char → String
  resolveVirtualKeyForAuth : String → Option DbVirtualKey
  masterKeyCache : Option (Uuid → Option DecryptedMasterKey)
  departmentId : Uuid → Uuid
  catalog : ModelSupport.Catalog
  json : ModelSupport.JsonLibrary
  routerOrganization : RouterId → Option Uuid
  directProxies : List InferenceProvider
  routers : RouterId → Option RouterConfig
  allowlist : WorkspaceProviderAllowlist

/-- `PathAndQuery::path` of the path and query that the route leaves. -/
def pathOf (extracted : List Char) : List Char :=
  let path := extracted.takeWhile (· != '?')
  if path.isEmpty then ['/'] else path

section Paths
variable (path : List Char)

def hasText (pattern : String) : Bool := path.tails.any fun tail => pattern.toList.isPrefixOf tail

def isText (text : String) : Bool := path == text.toList

def ends (text : String) : Bool := text.toList.isSuffixOf path

end Paths

def pathRequiresPost (path : List Char) : Bool :=
  let p := trimStartMatches '/' path
  if isText p "chat/completions" || ends p "/chat/completions" then true
  else if isText p "v1/chat/completions" || ends p "/v1/chat/completions" then true
  else if isText p "messages" || isText p "v1/messages" || ends p "/v1/messages" || ends p "/messages" then true
  else if hasText p "/converse" then true
  else if hasText p "v1beta/openai/chat/completions" then true
  else if isText p "embeddings" || ends p "/v1/embeddings" || ends p "v1/embeddings" || ends p "/embeddings" then true
  else if isText p "images/generations" || hasText p "images/generations" then true
  else if isText p "responses" || isText p "v1/responses" || ends p "/v1/responses" || ends p "/responses" then true
  else if isText p "completions" || (ends p "/completions" && !ends p "/chat/completions") then true
  else false

def checkMethod (method : String) (path : List Char) : Except AdmissionError Unit :=
  if method = "OPTIONS" then .ok ()
  else if pathRequiresPost path && method != "POST" then .error (.methodNotAllowed method path)
  else .ok ()

inductive UnifiedApi where
  | chatCompletions
  | completions
  | embeddings
  | imageGenerations
  | responses
  | messages
  deriving DecidableEq, Repr

def UnifiedApi.tryFrom (value : List Char) : Except AdmissionError UnifiedApi :=
  match String.ofList value with
  | "chat/completions" => .ok .chatCompletions
  | "completions" => .ok .completions
  | "embeddings" => .ok .embeddings
  | "images/generations" => .ok .imageGenerations
  | "responses" => .ok .responses
  | "messages" => .ok .messages
  | _ => .error (.unsupportedEndpoint value)

/-- The endpoint that `unified_api` puts into the request. -/
def UnifiedApi.api : UnifiedApi → ApiEndpoint
  | .chatCompletions => .openAI .chatCompletions
  | .completions => .openAI .completions
  | .embeddings => .openAI .embeddings
  | .imageGenerations => .openAI .imageGenerations
  | .responses => .openAI .responses
  | .messages => .anthropicMessages

def stripBearerPrefix (apiKey : List Char) : List Char := (apiKey.dropPrefix? "Bearer ".toList).getD apiKey

def bodyTtlDaysFromSubscriptionLogLimit (limit : Int32) : Nat :=
  if 1 ≤ limit.toInt ∧ limit.toInt ≤ 730 then limit.toInt.toNat else 90

def virtualKeyIsExpired (vk : DbVirtualKey) (now : Nat) : Bool :=
  match vk.expiresAt with
  | some expiresAt => decide (expiresAt ≤ now)
  | none => false

/-- Where an admitted request ends up. -/
inductive Handler where
  | balancer (router : RouterId) (endpoint : ApiEndpoint)
  | unifiedApi (endpoint : ApiEndpoint)
  | directProxy (provider : InferenceProvider)
  deriving DecidableEq

section Layers
variable (gateway : Gateway) (now : Nat)

def precheck (http : HttpRequest) (route : RouteExtensions) : Except AdmissionError Unit :=
  let path := pathOf route.extractedPathAndQuery
  match route.routeType with
  | .unifiedApi _ =>
    match UnifiedApi.tryFrom path with
    | .error _ => .error (.notFound http.request.path)
    | .ok _ => checkMethod http.method path
  | .router _ _ =>
    match ApiEndpoint.new (String.ofList path) with
    | none => .error (.notFound path)
    | some _ => checkMethod http.method path
  | .directProxy provider _ =>
    if gateway.directProxies.contains provider then checkMethod http.method path
    else .error (.notFound http.request.path)

/-- The master key's address, whether it is a custom provider's, and the providers it pins. -/
def masterKeyScope (vk : DbVirtualKey) : Option String × Bool × Option (List InferenceProvider) :=
  match gateway.masterKeyCache.bind fun get => get vk.masterKeyId with
  | some key => (key.baseUrl, key.provider == .custom, some [key.provider])
  | none => (none, false, none)

def authContext (apiKey : List Char) (vk : DbVirtualKey) : AuthContext :=
  let (masterKeyBaseUrl, isCustomProvider, masterKeyAllowedProviders) := masterKeyScope gateway vk
  { apiKey := apiKey
    userId := vk.entityId.getD vk.workspaceId
    orgId := vk.workspaceId
    virtualKeyId := vk.id
    virtualKeyPrefix := vk.keyPrefix
    masterKeyId := vk.masterKeyId
    masterKeyBaseUrl := masterKeyBaseUrl
    departmentId := gateway.departmentId vk.id
    entityType := vk.entityType.getD ""
    entityId := vk.entityId.getD 0
    entityName := vk.label
    bodyTtlDays := bodyTtlDaysFromSubscriptionLogLimit vk.subscriptionLogLimit
    isCustomProvider := isCustomProvider
    masterKeyAllowedProviders := masterKeyAllowedProviders }

def authenticateRequestInner (apiKey : List Char) (routeType : RouteType) : Except AdmissionError AuthContext :=
  let apiKeyWithoutBearer := stripBearerPrefix apiKey
  match gateway.resolveVirtualKeyForAuth (gateway.hashKey apiKeyWithoutBearer) with
  | none => .error .invalidCredentials
  | some vk =>
    if virtualKeyIsExpired vk now then .error .invalidCredentials
    else
      let context := authContext gateway apiKeyWithoutBearer vk
      if context.isCustomProvider && context.masterKeyBaseUrl.isNone then .error .customProviderMissingBaseUrl
      else
        match routeType with
        | .router routerId _ =>
          match gateway.routerOrganization routerId with
          | none => .error .routerNotFound
          | some organization => if organization = context.orgId then .ok context else .error .invalidCredentials
        | .unifiedApi _ | .directProxy _ _ => .ok context

/-- `AuthService::authorize`; a gateway without authentication lets requests pass without a
context. -/
def authorize (http : HttpRequest) (route : RouteExtensions) : Except AdmissionError (Option AuthContext) :=
  if gateway.authDisabled then .ok none
  else
    match http.authorization with
    | none => .error .missingAuthorizationHeader
    | some apiKey => (authenticateRequestInner gateway now apiKey route.routeType).map some

/-- The request as `ModelSupportLayer` finds it, whose kind authentication has changed where the
key is a custom provider's. -/
def supportRequest (http : HttpRequest) (route : RouteExtensions) (auth : Option AuthContext) :
    ModelSupport.SupportRequest where
  isPost := http.method == "POST"
  requestKind := some (if auth.any (·.isCustomProvider) then .customProvider else route.requestKind)
  headers := http.headers
  readable := http.readable
  body := http.body

def precheckWorkspaceCandidateIntersection (config : RouterConfig) (endpointType : EndpointType) (auth : Option AuthContext) :
    Option AdmissionError :=
  match auth, config.loadBalance.get endpointType with
  | some auth, some balance =>
    match balance.providers with
    | [] => none
    | denied :: rest =>
      if (denied :: rest).any fun provider => isProviderAllowedForWorkspace gateway.allowlist auth.orgId provider then none
      else some (.providerNotAllowedForWorkspace denied)
  | _, _ => none

/-- `Router::call`. -/
def routerCall (routerId : RouterId) (config : RouterConfig) (path : List Char) (auth : Option AuthContext) :
    Except AdmissionError Handler :=
  match ApiEndpoint.new (String.ofList path) with
  | none => .error (.notFound path)
  | some endpoint =>
    match precheckWorkspaceCandidateIntersection gateway config endpoint.endpointType auth with
    | some error => .error error
    | none =>
      match config.loadBalance.get endpoint.endpointType with
      | some _ => .ok (.balancer routerId endpoint)
      | none => .error (.notFound path)

/-- `MetaRouter::call`, with the dynamic router's and the unified API's first answers. -/
def metaCall (route : RouteExtensions) (auth : Option AuthContext) : Except AdmissionError Handler :=
  let path := pathOf route.extractedPathAndQuery
  match route.routeType with
  | .router id _ =>
    match gateway.routers id with
    | none => .error .routerNotFound
    | some config => routerCall gateway id config path auth
  | .unifiedApi _ =>
    match UnifiedApi.tryFrom path with
    | .error error => .error error
    | .ok api => .ok (.unifiedApi api.api)
  | .directProxy provider _ =>
    if gateway.directProxies.contains provider then .ok (.directProxy provider) else .error (.unsupportedProvider provider)

/-- The body is the one that the handler is given. -/
structure Admitted where
  handler : Handler
  auth : Option AuthContext
  body : List UInt8
  deriving DecidableEq

variable (parser : PathAndQueryParser)

/-- The stack of `MetaRouter::build`. The layers that log a fallback and count a workspace's
requests hand every request on, also where Redis fails. -/
def handle (http : HttpRequest) : Except AdmissionError Admitted :=
  match routerDetails parser http.request with
  | .error error => .error (.route error)
  | .ok route =>
    match precheck gateway http route with
    | .error error => .error error
    | .ok () =>
      match authorize gateway now http route with
      | .error error => .error error
      | .ok auth =>
        match ModelSupport.modelSupport gateway.catalog gateway.json (supportRequest http route auth) with
        | .error error => .error (.models error)
        | .ok body => (metaCall gateway route auth).map fun handler => ⟨handler, auth, body⟩

end Layers

end AiGateway.RequestAdmission
