import AiGateway.ModelSupport

/-! The content filter in front of the upstream: a prompt of the cache is merged into the body,
a policy service is asked about it, and where the workspace has its bodies rewritten, what the
service returns takes the body's place. -/

namespace AiGateway.ContentFilter

open DefaultModel (trimmed)
open ModelSupport (JsonLibrary)
open SemanticCache (HeaderMap)

abbrev Bytes := List UInt8

inductive FilterError where
  | contentFilterUnavailable (message : String)
  | piicacheOutBodyMissing (message : String)
  | contentPolicyDenied (message : String)
  | promptCacheInvalid (message : String)
  | promptInputsInvalid (message : String)
  | panicked
  deriving DecidableEq, Repr

/-- The store's answer to `GET`, by key. -/
abbrev Redis := String → Except String (Option String)

section PromptCache

structure PromptHeaderForRequestLog where
  promptId : String
  promptVersion : Option String
  deriving DecidableEq, Repr

/-- What the merge takes from libraries: JSON of a body and of a text, the text of a number, and
the prompt inputs put in the place of their variables. -/
structure Templating where
  json : JsonLibrary
  fromStr : String → Option Json
  display : Number → String
  applyPromptInputsToBody : Json → Except FilterError Json

def maxPromptIdBytes : Nat := 256

def promptCacheRedisKey (workspaceId promptId : String) : String := "prompt:cache:" ++ workspaceId ++ ":" ++ promptId

def templateMessagesFromPromptCacheValue (root : Json) : Except String (List Json) :=
  match root.get "template" with
  | none => .error "`template` missing in prompt cache"
  | some template =>
    match template.get "messages" with
    | none => .error "`template.messages` missing in prompt cache"
    | some messages =>
      match messages.asArray with
      | none => .error "`template.messages` must be a JSON array"
      | some items => .ok items

def currentVersionForRequestLogFromCacheRoot (templating : Templating) (root : Json) : Option String :=
  match (root.get "template").bind fun template => template.get "current_version" with
  | some (.string text) => if (trimmed text).isEmpty then none else some (trimmed text)
  | some (.number value) => some (templating.display value)
  | _ => none

def prependMessagesArray (root : Json) (messages : List Json) : Except String Json :=
  if messages.isEmpty then .ok root
  else
    match root with
    | .object members =>
      let others := members.filter fun member => member.1 ≠ "messages"
      match members.lookup "messages" with
      | none => .ok (.object (others ++ [("messages", .array messages)]))
      | some (.array existing) => .ok (.object (others ++ [("messages", .array (messages ++ existing))]))
      | some _ => .error "`messages` must be a JSON array"
    | _ => .error "Request body must be a JSON object"

def promptIdFromHeaders (headers : HeaderMap) : Option String :=
  (SemanticCache.headerValue headers "alephant-prompt-id").map String.ofList

/-- A prompt that cannot be read leaves the body as it is. -/
def mergePromptCacheHitIntoBody (templating : Templating) (promptId redisStr : String) (forwardBody : Bytes) :
    Except FilterError (Bytes × Option PromptHeaderForRequestLog) :=
  match templating.fromStr redisStr with
  | none => .ok (forwardBody, none)
  | some root =>
    match templateMessagesFromPromptCacheValue root with
    | .error _ => .ok (forwardBody, none)
    | .ok messages =>
      let headerLog := ⟨promptId, currentVersionForRequestLogFromCacheRoot templating root⟩
      if messages.isEmpty then .ok (forwardBody, some headerLog)
      else
        match templating.json.fromSlice forwardBody with
        | none =>
          .error (.promptCacheInvalid "Request body must be valid JSON when using Alephant-Prompt-ID")
        | some body => do
          let body ← (prependMessagesArray body messages).mapError .promptCacheInvalid
          let body ← templating.applyPromptInputsToBody body
          pure (templating.json.toVec body, some headerLog)

def mergePromptCacheMessagesIntoBody (templating : Templating) (redis : Option Redis) (headers : HeaderMap)
    (workspaceId : String) (forwardBody : Bytes) : Except FilterError (Bytes × Option PromptHeaderForRequestLog) :=
  match promptIdFromHeaders headers with
  | none => .ok (forwardBody, none)
  | some promptId =>
    if workspaceId.isEmpty then .ok (forwardBody, none)
    else if maxPromptIdBytes < promptId.utf8ByteSize then
      .error (.promptCacheInvalid "Alephant-Prompt-ID exceeds maximum length (256 bytes)")
    else
      match redis with
      | none => .ok (forwardBody, none)
      | some get =>
        match get (promptCacheRedisKey workspaceId promptId) with
        | .error _ | .ok none => .ok (forwardBody, none)
        | .ok (some redisStr) =>
          if redisStr.isEmpty then .ok (forwardBody, none)
          else mergePromptCacheHitIntoBody templating promptId redisStr forwardBody

end PromptCache

/-- What the service is sent; the fields that only it reads are left to the parameter. -/
structure EvaluateRequest (Fields : Type) where
  workspaceId : String
  body : Bytes
  fields : Fields

structure EvaluateResponse where
  allowed : Bool
  reason : String
  blockedBy : String
  reasonMessage : String
  outBody : Bytes
  changeModel : String
  deriving DecidableEq, Repr

/-- How a call to the service ends. -/
inductive Evaluation where
  | response (response : EvaluateResponse)
  | status (message : String)
  | elapsed

inductive OnUnavailable where
  | deny
  | allow
  deriving DecidableEq, Repr

section Piicache

def policyMaxRequestBodyBytes : Nat := 1024 * 1024

def piicacheRedisKey (workspaceId : String) : String := "policy:piicache:" ++ workspaceId

def piicacheRedisValueIsTrue (raw : String) : Bool := trimmed raw == "true"

def truncateRequestBodyBytes (body : Bytes) (max : Nat) : Bytes × Bool :=
  if body.length ≤ max then (body, false) else (body.take max, true)

/-- The workspace has its bodies sent to the service. -/
def piicacheEnabled (redis : Option Redis) (workspaceId : String) : Bool :=
  match redis with
  | none => false
  | some get =>
    match get (piicacheRedisKey workspaceId) with
    | .ok (some value) => piicacheRedisValueIsTrue value
    | .ok none | .error _ => false

def attachRequestBodyFromPiicacheRedis {Fields : Type} (redis : Option Redis) (workspaceId : String) (body : Bytes)
    (request : EvaluateRequest Fields) : EvaluateRequest Fields :=
  if piicacheEnabled redis workspaceId then
    { request with body := (truncateRequestBodyBytes body policyMaxRequestBodyBytes).1 }
  else request

end Piicache

section Evaluate

inductive ContentFilterForwardBody where
  | useOriginal
  | useReplaced (body : Bytes)
  deriving DecidableEq, Repr

structure ContentFilterResult where
  forwardBody : ContentFilterForwardBody
  changeModel : Option String
  deriving DecidableEq, Repr

def piicacheOutBodyMissingDefaultMsg : String := "Policy did not return a rewritten request body for PII cache."

/-- The first of two texts that is not blank, else a third. -/
def firstNonblank (first second other : String) : String :=
  if (trimmed first).isEmpty then (if (trimmed second).isEmpty then other else trimmed second) else trimmed first

def messageForPiicacheOutBodyMissing (reasonMessage reason : String) : String :=
  firstNonblank reasonMessage reason piicacheOutBodyMissingDefaultMsg

def forwardBodyForAllowedEvaluateResponse (piicacheForwardActive : Bool) (outBody : Bytes)
    (reasonMessage reason : String) : Except FilterError ContentFilterForwardBody :=
  if !piicacheForwardActive then .ok .useOriginal
  else if outBody.isEmpty then
    .error (.piicacheOutBodyMissing (messageForPiicacheOutBodyMissing reasonMessage reason))
  else .ok (.useReplaced outBody)

def buildContentPolicyDeniedMessage (reasonMessage reason blockedBy : String) : String :=
  let message := firstNonblank reasonMessage reason "Content policy denied this request."
  if blockedBy.isEmpty then message else message ++ " (blocked_by: " ++ blockedBy ++ ")"

/-- `v["model"] = new_model`: an object's member, or the only one of a null; other values panic. -/
def setModel (value : Json) (newModel : String) : Except FilterError Json :=
  match value with
  | .object members =>
    .ok (.object ((members.filter fun member => member.1 ≠ "model") ++ [("model", .string newModel)]))
  | .null => .ok (.object [("model", .string newModel)])
  | _ => .error .panicked

def applyModelDowngrade (json : JsonLibrary) (body : Bytes) (newModel : String) : Except FilterError Bytes :=
  match json.fromSlice body with
  | none => .ok body
  | some value => (setModel value newModel).map json.toVec

structure FilterAuth where
  orgId : String
  virtualKeyId : Option String
  deriving DecidableEq, Repr

/-- The configuration of the filter, the client of the service where there is one, and what is
told to the service of a body besides itself. -/
structure Filter (Fields : Type) where
  enabled : Bool
  onUnavailable : OnUnavailable
  client : Option (EvaluateRequest Fields → Evaluation)
  redis : Option Redis
  describe : Bytes → Fields

def vkAuthPresent (auth : Option FilterAuth) : Bool := (auth.bind FilterAuth.virtualKeyId).isSome

def unchanged : ContentFilterResult := ⟨.useOriginal, none⟩

def unavailableOnFailure (onUnavailable : OnUnavailable) (message : String) : Except FilterError ContentFilterResult :=
  match onUnavailable with
  | .allow => .ok unchanged
  | .deny => .error (.contentFilterUnavailable message)

variable {Fields : Type} (filter : Filter Fields)

def buildEvaluateRequest (auth : FilterAuth) (body : Bytes) : Option (EvaluateRequest Fields) :=
  auth.virtualKeyId.map fun _ => ⟨auth.orgId, [], filter.describe body⟩

def evaluateForVkRequest (auth : Option FilterAuth) (body : Bytes) : Except FilterError ContentFilterResult :=
  if !filter.enabled || !vkAuthPresent auth then .ok unchanged
  else
    match filter.client with
    | none => unavailableOnFailure filter.onUnavailable "content filter client not initialised"
    | some evaluate =>
      match auth.bind fun auth => buildEvaluateRequest filter auth body with
      | none => .ok unchanged
      | some request =>
        let request := attachRequestBodyFromPiicacheRedis filter.redis request.workspaceId body request
        let piicacheForwardActive := !request.body.isEmpty
        match evaluate request with
        | .response response =>
          if response.allowed then
            let changeModel :=
              if (trimmed response.changeModel).isEmpty then none else some (trimmed response.changeModel)
            match forwardBodyForAllowedEvaluateResponse piicacheForwardActive response.outBody response.reasonMessage
                response.reason with
            | .error error => .error error
            | .ok plan => .ok ⟨plan, changeModel⟩
          else
            .error (.contentPolicyDenied
              (buildContentPolicyDeniedMessage response.reasonMessage response.reason response.blockedBy))
        | .status message => unavailableOnFailure filter.onUnavailable message
        | .elapsed => unavailableOnFailure filter.onUnavailable "content filter evaluate timed out"

def forwarded (original : Bytes) : ContentFilterForwardBody → Bytes
  | .useOriginal => original
  | .useReplaced body => body

/-- What the mapper and the dispatcher do to a body before they go on with it. -/
def filterBody (templating : Templating) (headers : HeaderMap) (auth : Option FilterAuth) (body : Bytes) :
    Except FilterError Bytes := do
  let workspaceId := (auth.map FilterAuth.orgId).getD ""
  let (body, _) ← mergePromptCacheMessagesIntoBody templating filter.redis headers workspaceId body
  let result ← evaluateForVkRequest filter auth body
  let body := forwarded body result.forwardBody
  match result.changeModel with
  | none => pure body
  | some newModel => applyModelDowngrade templating.json body newModel

end Evaluate

end AiGateway.ContentFilter
