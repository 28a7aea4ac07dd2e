import AiGateway.DefaultModel
import AiGateway.SemanticCache

/-! The middleware that checks the models of a request against the catalogue, and puts the full
name of a model in the body where it is named without its provider. -/

namespace AiGateway.ModelSupport

open Lib.Splits
open ModelPolicy (asciiLowercase)
open DefaultModel (splitProviderModel trimmed)
open ProviderReload (BareModelExpandIndex)
open SemanticCache (HeaderMap)

inductive SupportError where
  | internal
  | unsupportedGatewayModel (model : String)
  | ambiguousBareModel (modelId : String) (candidates : List String)
  | invalidRequestHeader
  | invalidLargeContextHandler (value : String)
  deriving DecidableEq, Repr

section Headers

inductive TokenLimitExceptionHandler where
  | truncate
  | middleOut
  | fallback
  deriving DecidableEq, Repr

structure LargeContextHeaders where
  handler : Option TokenLimitExceptionHandler
  modelOverride : Option String
  deriving DecidableEq, Repr

def parseHeaderString (headers : HeaderMap) (key : String) : Except SupportError (Option String) :=
  match headers.get key with
  | none => .ok none
  | some .binary => .error .invalidRequestHeader
  | some (.visible text _) =>
    let value := trim text
    .ok (if value.isEmpty then none else some (String.ofList value))

def parseHandlerValue (value : String) : Except SupportError TokenLimitExceptionHandler :=
  match asciiLowercase (trimmed value) with
  | "truncate" => .ok .truncate
  | "middle-out" => .ok .middleOut
  | "fallback" => .ok .fallback
  | _ => .error (.invalidLargeContextHandler value)

def parseLargeContextHeaders (headers : HeaderMap) : Except SupportError LargeContextHeaders := do
  let handler ←
    match ← parseHeaderString headers "Alephant-Token-Limit-Exception-Handler" with
    | none => pure none
    | some value => some <$> parseHandlerValue value
  let modelOverride ← parseHeaderString headers "Alephant-Model-Override"
  pure ⟨handler, modelOverride⟩

end Headers

/-- The JSON library: what it reads from bytes, and the bytes it writes. -/
structure JsonLibrary where
  fromSlice : List UInt8 → Option Json
  toVec : Json → List UInt8

/-- `value[key] = member`, for a key that is there. -/
def setMember (value : Json) (key : String) (member : Json) : Json :=
  match value with
  | .object members => .object (members.map fun entry => if entry.1 = key then (key, member) else entry)
  | other => other

section Body
variable (json : JsonLibrary)

def modelFieldFromJsonBody (body : List UInt8) : Option String :=
  match (json.fromSlice body).bind fun value => value.getStr "model" with
  | none => none
  | some text =>
    let text := trimmed text
    if text.isEmpty then none else some text

def rewriteModelInBody (body : List UInt8) (newModel : String) : Option (List UInt8) := do
  let value ← json.fromSlice body
  let _ ← value.get "model"
  pure (json.toVec (setMember value "model" (.string newModel)))

end Body

def extractFallbackModelCandidates (model : String) : List String :=
  (((model.toList.splitOn ',').map trim).filter fun candidate => !candidate.isEmpty).map String.ofList

/-- The database behind the catalogue: whether a provider offers a model, and the providers
and names of a model. -/
structure RouterStore where
  gatewayModelPairSupported : String → String → Except Unit Bool
  findProvidersForBareModel : String → Except Unit (List (String × String))

/-- What the middleware reads of the application. The index holds full names. -/
structure Catalog where
  keyExists : Option (String → Except Unit Bool)
  routerStore : Option RouterStore
  index : BareModelExpandIndex
  slashed : ∀ entry ∈ index, ∀ name ∈ entry.2, '/' ∈ name.toList

section Support
variable (catalog : Catalog)

def asProviderCode : InferenceProvider → String
  | .googleGemini => "google"
  | provider => provider.fmt

def canonicalProviderCode (providerRaw : String) : Option String :=
  (InferenceProvider.fromProviderCode providerRaw.toList).map asProviderCode

def catalogRedisKey (providerRaw modelRaw : String) : String :=
  asciiLowercase providerRaw ++ "::" ++ asciiLowercase modelRaw

/-- The provider's other code, where it has one. -/
def otherProviderCode (providerRaw : String) : Option String :=
  (canonicalProviderCode providerRaw).filter fun code => !eqIgnoreAsciiCase code.toList providerRaw.toList

/-- A failed lookup counts as a miss. -/
def inRedis (providerRaw modelRaw : String) : Bool :=
  match catalog.keyExists with
  | none => false
  | some keyExists =>
    let held key := (keyExists key).toOption.getD false
    held (catalogRedisKey providerRaw modelRaw) ||
      (otherProviderCode providerRaw).any fun code => held (catalogRedisKey code modelRaw)

def gatewayModelSupported (providerRaw modelRaw : String) : Except SupportError Bool :=
  if inRedis catalog providerRaw modelRaw then .ok true
  else
    match catalog.routerStore with
    | none => .ok true
    | some store =>
      match store.gatewayModelPairSupported providerRaw modelRaw with
      | .error _ => .error .internal
      | .ok true => .ok true
      | .ok false =>
        match otherProviderCode providerRaw with
        | none => .ok false
        | some code => (store.gatewayModelPairSupported code modelRaw).mapError fun _ => .internal

/-- The names that a name without a provider may stand for; the database is asked where the
index has none. -/
def bareCandidates (bareModelId : String) : Except SupportError (List String) :=
  match catalog.index.gatewayModelsForBareId bareModelId, catalog.routerStore with
  | [], some store =>
    match store.findProvidersForBareModel bareModelId with
    | .error _ => .error .internal
    | .ok rows => .ok (rows.map fun row => row.1 ++ "/" ++ row.2)
  | candidates, _ => .ok candidates

def resolveBareModel (bareModelId : String) : Except SupportError String :=
  match bareCandidates catalog bareModelId with
  | .error error => .error error
  | .ok [] => .error (.unsupportedGatewayModel bareModelId)
  | .ok [name] => .ok name
  | .ok candidates => .error (.ambiguousBareModel bareModelId candidates)

def checkSupported (name : String) : Except SupportError Unit :=
  match splitProviderModel name with
  | none => .error (.unsupportedGatewayModel name)
  | some parsed =>
    match gatewayModelSupported catalog parsed.providerRaw parsed.modelRaw with
    | .error error => .error error
    | .ok true => .ok ()
    | .ok false => .error (.unsupportedGatewayModel name)

def qualified (candidate : String) : Bool := candidate.toList.contains '/'

variable (json : JsonLibrary)

/-- One round of the loop. The whole field is rewritten for one candidate. -/
def checkCandidate (isDirectProxy : Bool) (bytes : List UInt8) (candidate : String) :
    Except SupportError (List UInt8) := do
  if isDirectProxy || qualified candidate then
    checkSupported catalog candidate
    pure bytes
  else
    let resolved ← resolveBareModel catalog candidate
    checkSupported catalog resolved
    pure ((rewriteModelInBody json bytes resolved).getD bytes)

end Support

section Middleware

def modelSupportMaxBodyBytes : Nat := 1024 * 1024

/-- A request; a body may break off while it is read. -/
structure SupportRequest where
  isPost : Bool
  requestKind : Option RequestKind
  headers : HeaderMap
  readable : Bool
  body : List UInt8

def largeContextHeaders (request : SupportRequest) : Except SupportError (Option LargeContextHeaders) :=
  if request.requestKind = some .unifiedApi then some <$> parseLargeContextHeaders request.headers else .ok none

def handlerEnabled (headers : Option LargeContextHeaders) : Bool :=
  (headers.bind LargeContextHeaders.handler).isSome

/-- The candidates that a text stands for: a list only where a handler is asked for. -/
def candidatesOfText (handler : Bool) (model : String) : List String :=
  if handler then extractFallbackModelCandidates model else [model]

def modelCandidates (headers : Option LargeContextHeaders) (bodyModel : Option String) : List String :=
  let source :=
    if handlerEnabled headers then bodyModel.or (headers.bind LargeContextHeaders.modelOverride) else bodyModel
  (source.map (candidatesOfText (handlerEnabled headers))).getD []

variable (catalog : Catalog) (json : JsonLibrary)

/-- The body that the request is forwarded with. -/
def modelSupport (request : SupportRequest) : Except SupportError (List UInt8) := do
  if !request.isPost then pure request.body
  else if !request.readable || modelSupportMaxBodyBytes < request.body.length then .error .internal
  else
    let headers ← largeContextHeaders request
    let candidates := modelCandidates headers (modelFieldFromJsonBody json request.body)
    if candidates.isEmpty || request.requestKind == some .customProvider then pure request.body
    else
      candidates.foldlM (checkCandidate catalog json (request.requestKind == some .directProxy)) request.body

end Middleware

end AiGateway.ModelSupport
