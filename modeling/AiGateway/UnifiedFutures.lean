import AiGateway.Dispatch
import AiGateway.LargeContextDecisions
import AiGateway.ModelRewrites
import AiGateway.Lib.Futures

/-! The future of a request to the unified API. It collects the body, finds the provider of the
body's model, for which it may have to wait for a default model, and then waits for the response
of the stack that carries the request. -/

namespace AiGateway.UnifiedFutures

open Lib.Futures
open ContentFilter (Bytes)
open DefaultModel (ChooseError)
open Dispatch (AuthContext UnifiedApi DispatchError goesToMasterKey responsesPath)
open LargeContext (ChatCompletionsPayload)
open LargeContextDecisions (LargeContextDecision maybeTransformUnifiedApiChatRequest)
open ModelPolicy (VkPolicy PathAndQuery checkModelAccess resolveUnifiedTargetProvider)
open ModelRewrites (RewriteError Surroundings injectDefaultModelIntoBodyUnified)
open ModelSupport (JsonLibrary SupportError modelFieldFromJsonBody)
open SemanticCache (HeaderMap)

inductive UnifiedError where
  | collectBody
  | extensionNotFound (name : String)
  | largeContext (error : SupportError)
  | rewrite (error : RewriteError)
  | notFound (path : String)
  | dispatch (error : DispatchError)
  | internal
  deriving DecidableEq

/-- The headers, and the extensions that are read or written on the way. An endpoint is told by
the name that the unified API has for it. -/
structure Parts where
  headers : HeaderMap
  pathAndQuery : Option PathAndQuery
  auth : Option AuthContext
  vkPolicy : Option VkPolicy
  apiEndpoint : Option UnifiedApi
  largeContextDecision : Option LargeContextDecision
  implicitModel : Option String
  responsesBridge : Bool
  provider : Option InferenceProvider
  masterKeyPassthrough : Bool

/-- What the future takes from outside: the application, the JSON library, the bodies of the
endpoints, the estimates of tokens, how many polls the choice of a default model takes, and the
stacks, each with the future of its response. -/
structure Surroundings (Price Response : Type) where
  chrono : Chrono
  rewrites : ModelRewrites.Surroundings Price
  fromSlice : Bytes → Except String Json
  agrees : ∀ body, rewrites.json.fromSlice body = (fromSlice body).toOption
  compatMode : Bool
  typedModel : UnifiedApi → Bytes → Except DispatchError String
  budgetChars : UInt32 → String → Nat
  estimateInputTokens : ChatCompletionsPayload → String → Option InferenceProvider → Option UInt32
  choosing : Nat
  directProxies : InferenceProvider → Option (Parts → Bytes → Child (Except Unit Response))

inductive State (Response : Type) where
  | collectBody (collect : Child (Except Unit Bytes)) (parts : Parts)
  | determineProvider (collectedBody : Bytes) (parts : Parts) (preTransformed : Bool)
  | awaitDefaultModel (fut : Child (Except RewriteError Bytes)) (parts : Parts)
  | initProxy (parts : Parts) (body : Bytes) (provider : InferenceProvider)
  | proxy (response : Child (Except Unit Response))

/-- What the future ends in. -/
inductive Answer (Response : Type) where
  | ok (response : Response)
  | error (error : UnifiedError)
  | panicked

section Future
variable {Price Response : Type} (around : Surroundings Price Response)

def skipModelAccessCustomMasterFallback (parts : Parts) (model : String) : Bool :=
  if around.compatMode then false
  else
    match parts.auth with
    | none => false
    | some auth =>
      if !auth.isCustomProvider || auth.masterKeyBaseUrl.isNone then false
      else
        match ModelPolicy.providerFromBareModel around.chrono model with
        | .error _ => false
        | .ok provider => (around.directProxies provider).isNone

def checkAccess (parts : Parts) (model : String) : Except UnifiedError Unit :=
  if !skipModelAccessCustomMasterFallback around parts model then
    (checkModelAccess around.rewrites.toLowercase parts.vkPolicy model).mapError fun error => .dispatch (.api error)
  else .ok ()

/-- An object with `input` and without `messages`. -/
def responsesShaped (body : Bytes) : Bool :=
  match around.fromSlice body with
  | .ok (.object members) => (members.lookup "messages").isNone && (members.lookup "input").isSome
  | .ok _ | .error _ => false

def applyChatCompletionsBodyRedirectIfNeeded (path : String) (body : Bytes) (parts : Parts) :
    Except UnifiedError (String × Parts) :=
  if path != "chat/completions" then .ok (path, parts)
  else if !responsesShaped around body then .ok (path, parts)
  else
    match parts.pathAndQuery with
    | none => .error (.extensionNotFound "PathAndQuery")
    | some pathAndQuery =>
      .ok ("responses", { parts with
        responsesBridge := true
        apiEndpoint := some .responses
        pathAndQuery := some (responsesPath pathAndQuery) })

def implicitDefaultModelFallbackContext (path : String) (body : Bytes) : Option String :=
  if path != "chat/completions" then none else modelFieldFromJsonBody around.rewrites.json body

/-- The provider of a body with a model. -/
def resolveTarget (path : String) (body : Bytes) (parts : Parts) : Except UnifiedError (Parts × InferenceProvider) :=
  match UnifiedApi.tryFrom path with
  | .error _ => .error (.notFound path)
  | .ok api => do
    let model ← (around.typedModel api body).mapError .dispatch
    checkAccess around parts model
    let provider ← (resolveUnifiedTargetProvider around.chrono around.compatMode api.compatFallback model
      (parts.auth.bind AuthContext.masterKeyAllowedProviders)).mapError fun error => .dispatch (.api error)
    return ({ parts with provider := some provider }, provider)

def determine (path : String) (body : Bytes) (parts : Parts) : Except UnifiedError (Parts × InferenceProvider) := do
  let (path, parts) ← applyChatCompletionsBodyRedirectIfNeeded around path body parts
  resolveTarget around path body parts

def determined (path : String) (body : Bytes) (parts : Parts) : Look (State Response) (Answer Response) :=
  match determine around path body parts with
  | .error error => .ready (.error error)
  | .ok (parts, provider) => .again (.initProxy parts body provider)

/-- A body is transformed, and given a model, at most once. -/
def lookDetermine (body : Bytes) (parts : Parts) (preTransformed : Bool) : Look (State Response) (Answer Response) :=
  match parts.pathAndQuery with
  | none => .ready (.error (.extensionNotFound "PathAndQuery"))
  | some pathAndQuery =>
    let path := String.ofList pathAndQuery.path
    if preTransformed then determined around path body parts
    else
      match maybeTransformUnifiedApiChatRequest around.budgetChars around.estimateInputTokens around.fromSlice
          around.rewrites.json.toVec parts.headers body with
      | .panicked => .ready .panicked
      | .refused error => .ready (.error (.largeContext error))
      | .forwarded body decision =>
        let parts := { parts with largeContextDecision := decision.or parts.largeContextDecision }
        if (modelFieldFromJsonBody around.rewrites.json body).isSome then determined around path body parts
        else
          match parts.auth, parts.vkPolicy with
          | some _, some vk =>
            let fut := ⟨around.choosing, injectDefaultModelIntoBodyUnified around.rewrites path body vk⟩
            .again (.awaitDefaultModel fut parts)
          | _, _ => .ready (.error (.rewrite (.notChosen .noModelAvailable)))

/-- A custom key's request may be carried by a stack that is not its provider's. -/
def lookInitProxy (parts : Parts) (body : Bytes) (provider : InferenceProvider) : Look (State Response) (Answer Response) :=
  match around.directProxies provider with
  | some call => .again (.proxy (call parts body))
  | none =>
    if !goesToMasterKey parts.auth then .ready (.error (.dispatch (.unsupportedProvider provider)))
    else
      let parts := { parts with masterKeyPassthrough := true }
      match (around.directProxies .custom).or (around.directProxies .openAI) with
      | some call => .again (.proxy (call parts body))
      | none => .ready (.error (.dispatch (.unsupportedProvider provider)))

def look : State Response → Look (State Response) (Answer Response)
  | .collectBody collect parts =>
    match collect.poll with
    | .pending next => .pending (.collectBody next parts)
    | .ready (.error _) => .ready (.error .collectBody)
    | .ready (.ok body) =>
      match parts.pathAndQuery with
      | none => .ready (.error (.extensionNotFound "PathAndQuery"))
      | some pathAndQuery =>
        match UnifiedApi.tryFrom (String.ofList pathAndQuery.path) with
        | .error error => .ready (.error (.dispatch error))
        | .ok api => .again (.determineProvider body { parts with apiEndpoint := some api } false)
  | .determineProvider body parts preTransformed => lookDetermine around body parts preTransformed
  | .awaitDefaultModel fut parts =>
    match fut.poll with
    | .pending next => .pending (.awaitDefaultModel next parts)
    | .ready (.error .panicked) => .ready .panicked
    | .ready (.error error) => .ready (.error (.rewrite error))
    | .ready (.ok body) =>
      let path := ((parts.pathAndQuery.map fun value => String.ofList value.path)).getD ""
      let parts :=
        match implicitDefaultModelFallbackContext around path body with
        | some model => { parts with implicitModel := some model }
        | none => parts
      .again (.determineProvider body parts true)
  | .initProxy parts body provider => lookInitProxy around parts body provider
  | .proxy response =>
    match response.poll with
    | .pending next => .pending (.proxy next)
    | .ready (.error _) => .ready (.error .internal)
    | .ready (.ok response) => .ready (.ok response)

def rank : State Response → Nat
  | .collectBody _ _ => 5
  | .determineProvider _ _ false => 4
  | .awaitDefaultModel _ _ => 3
  | .determineProvider _ _ true => 2
  | .initProxy _ _ _ => 1
  | .proxy _ => 0

theorem rank_determined {path : String} {body : Bytes} {parts : Parts} {next : State Response}
    (goes : determined around path body parts = .again next) : rank next = 1 := by
  rw [determined] at goes
  split at goes <;> cases goes
  rfl

theorem rank_falls {state next : State Response} (goes : look around state = .again next) : rank next < rank state := by
  cases state with
  | collectBody collect parts =>
    rw [look] at goes
    repeat' split at goes
    all_goals cases goes
    exact Nat.lt_succ_self 4
  | determineProvider body parts preTransformed =>
    rw [look, lookDetermine] at goes
    split at goes
    · cases goes
    cases preTransformed with
    | true =>
      rw [rank_determined around goes]
      exact Nat.lt_succ_self 1
    | false =>
      simp only [Bool.false_eq_true, if_false] at goes
      split at goes
      · cases goes
      · cases goes
      split at goes
      · rw [rank_determined around goes]
        exact Nat.le_of_ble_eq_true rfl
      split at goes <;> cases goes
      exact Nat.lt_succ_self 3
  | awaitDefaultModel fut parts =>
    rw [look] at goes
    repeat' split at goes
    all_goals cases goes
    all_goals exact Nat.lt_succ_self 2
  | initProxy parts body provider =>
    rw [look, lookInitProxy] at goes
    repeat' split at goes
    all_goals cases goes
    all_goals exact Nat.lt_succ_self 0
  | proxy response =>
    rw [look] at goes
    repeat' split at goes
    all_goals cases goes

def machine : Machine (State Response) (Answer Response) where
  look := look around
  rank := rank
  falls := rank_falls around

end Future

end AiGateway.UnifiedFutures
