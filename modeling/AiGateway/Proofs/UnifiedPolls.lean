import AiGateway.UnifiedFutures

/-! The future of the unified API, polled to its end, gives what the unified API is without
futures: the same request to the same stack, or the same error, after exactly the polls that its
children were pending. -/

namespace AiGateway.UnifiedFutures

open Lib.Futures
open ContentFilter (Bytes)
open Dispatch (AuthContext UnifiedApi UnifiedRequest Arrival Environment DispatchError goesToMasterKey responsesPath unifiedApi
  withModel)
open LargeContextDecisions (LargeContextDecision Outcome maybeTransformUnifiedApiChatRequest)
open ModelPolicy (VkPolicy PathAndQuery checkModelAccess resolveUnifiedTargetProvider)
open ModelRewrites (RewriteError injectDefaultModelIntoBodyUnified)
open ModelSupport (SupportError modelFieldFromJsonBody)
open SemanticCache (HeaderMap)

/-- How the errors that only the future tells apart are shown, and what stands for a panic. -/
structure Shown where
  refusal : SupportError → DispatchError
  unreadable : DispatchError
  panic : DispatchError

section Refinement
variable {Price Response : Type} (around : Surroundings Price Response) (shown : Shown)

def Shown.rewrite : RewriteError → DispatchError
  | .invalidRequestBody => shown.unreadable
  | .notChosen error => .choose error
  | .panicked => shown.panic

def transformed (headers : HeaderMap) (body : Bytes) : Outcome :=
  maybeTransformUnifiedApiChatRequest around.budgetChars around.estimateInputTokens around.fromSlice
    around.rewrites.json.toVec headers body

/-- The bodies of one request, as the unified API without futures sees them. -/
def bodies (headers : HeaderMap) : Dispatch.Bodies Bytes where
  transform body :=
    match transformed around headers body with
    | .forwarded body _ => .ok body
    | .refused error => .error (shown.refusal error)
    | .panicked => .error shown.panic
  modelField := modelFieldFromJsonBody around.rewrites.json
  setModel body chosen := do
    let value ← (ModelRewrites.parseBody around.rewrites body).mapError shown.rewrite
    let value ← (ContentFilter.setModel value chosen).mapError fun _ => shown.panic
    pure (around.rewrites.json.toVec value)
  responsesShaped := responsesShaped around
  typedModel := around.typedModel

def environment (rest : Environment Price Bytes) (headers : HeaderMap) : Environment Price Bytes :=
  { rest with
    chrono := around.chrono
    toLowercase := around.rewrites.toLowercase
    pricing := around.rewrites.pricing
    catalogue := around.rewrites.catalogue
    compatMode := around.compatMode
    directProxies := fun provider => (around.directProxies provider).isSome
    bodies := bodies around shown headers }

def Shown.error : UnifiedError → DispatchError
  | .largeContext error => shown.refusal error
  | .rewrite error => shown.rewrite error
  | .dispatch error => error
  | .collectBody | .extensionNotFound _ | .notFound _ | .internal => .internal

inductive Fails : Answer Response → DispatchError → Prop where
  | error (error : UnifiedError) : Fails (.error error) (shown.error error)
  | panicked : Fails .panicked shown.panic

/-- What the request of an arrival has of it, and what else was noted. -/
structure Carries (headers : HeaderMap) (arrival : Arrival Bytes) (final : Parts) : Prop where
  headers : final.headers = headers
  path : final.pathAndQuery = some arrival.path
  auth : final.auth = arrival.auth
  vkPolicy : final.vkPolicy = arrival.vkPolicy
  implicit : final.implicitModel = arrival.implicit
  endpoint : ∃ api, final.apiEndpoint = some api ∧ UnifiedApi.tryFrom (String.ofList arrival.path.path) = .ok api
  passthrough : final.provider = some arrival.provider ∨ goesToMasterKey arrival.auth = true ∧ final.masterKeyPassthrough = true

def ofResponse : Except Unit Response → Answer Response
  | .error _ => .error .internal
  | .ok response => .ok response

variable {around shown}

theorem answers_proxy (response : Child (Except Unit Response)) :
    (machine around).Answers (.proxy response) response.pending (ofResponse response.result) := by
  obtain ⟨pending, result⟩ := response
  have settled : (machine around).Answers (.proxy ⟨0, result⟩) 0 (ofResponse result) := by
    apply Machine.Answers.ready
    cases result <;> rfl
  refine Machine.Answers.awaits State.proxy ?_ settled pending
  intro child next waits
  simp only [machine, look, waits]

variable {rest : Environment Price Bytes} {headers : HeaderMap}

variable (around) in
/-- What becomes of a request once its provider is known, beside the stack that is found for it. -/
def Proxied (parts : Parts) (body : Bytes) (provider : InferenceProvider) : Except DispatchError InferenceProvider → Prop
  | .error error => (machine around).Answers (.initProxy parts body provider) 0 (.error (.dispatch error))
  | .ok stack => ∃ call passthrough, around.directProxies stack = some call ∧
      (stack = provider ∨ goesToMasterKey parts.auth = true ∧ passthrough = true) ∧
      (machine around).Answers (.initProxy parts body provider)
        (call { parts with masterKeyPassthrough := passthrough } body).pending
        (ofResponse (call { parts with masterKeyPassthrough := passthrough } body).result)

variable (around shown rest headers) in
theorem answers_initProxy (parts : Parts) (body : Bytes) (provider : InferenceProvider) :
    Proxied around parts body provider
      (Dispatch.initProxy (environment around shown rest headers) parts.auth provider) := by
  have stacked (other : InferenceProvider) :
      (environment around shown rest headers).directProxies other = (around.directProxies other).isSome := rfl
  rw [Dispatch.initProxy, stacked, stacked, stacked]
  cases own : around.directProxies provider with
  | some call =>
    rw [Option.isSome_some, if_pos rfl]
    refine ⟨call, parts.masterKeyPassthrough, own, .inl rfl, ?_⟩
    refine Machine.Answers.again ?_ (answers_proxy (call parts body))
    simp only [machine, look, lookInitProxy, own]
  | none =>
    rw [Option.isSome_none, if_neg Bool.false_ne_true]
    cases custom : goesToMasterKey parts.auth with
    | false =>
      rw [Bool.not_false, if_pos rfl]
      apply Machine.Answers.ready
      simp only [machine, look, lookInitProxy, own, custom, Bool.not_false, if_true]
    | true =>
      rw [Bool.not_true, if_neg Bool.false_ne_true]
      cases carrier : around.directProxies .custom with
      | some call =>
        rw [Option.isSome_some, if_pos rfl]
        refine ⟨call, true, carrier, .inr ⟨custom, rfl⟩, ?_⟩
        refine Machine.Answers.again ?_ (answers_proxy (call _ body))
        simp [machine, look, lookInitProxy, own, custom, carrier]
      | none =>
        rw [Option.isSome_none, if_neg Bool.false_ne_true]
        cases openAI : around.directProxies .openAI with
        | some call =>
          rw [Option.isSome_some, if_pos rfl]
          refine ⟨call, true, openAI, .inr ⟨custom, rfl⟩, ?_⟩
          refine Machine.Answers.again ?_ (answers_proxy (call _ body))
          simp [machine, look, lookInitProxy, own, custom, carrier, openAI]
        | none =>
          rw [Option.isSome_none, if_neg Bool.false_ne_true]
          apply Machine.Answers.ready
          simp [machine, look, lookInitProxy, own, custom, carrier, openAI]

variable (around shown rest headers) in
theorem skips_eq (parts : Parts) (model : String) :
    skipModelAccessCustomMasterFallback around parts model =
      Dispatch.skipModelAccessCustomMasterFallback (environment around shown rest headers) parts.auth model := by
  rw [skipModelAccessCustomMasterFallback, Dispatch.skipModelAccessCustomMasterFallback]
  simp only [environment]
  cases parts.auth with
  | none => simp [goesToMasterKey]
  | some auth =>
    have same : goesToMasterKey (some auth) = !(!auth.isCustomProvider || auth.masterKeyBaseUrl.isNone) := by
      rw [goesToMasterKey, Option.any_some, ModelPolicy.AuthContext.goesToMasterKey]
      cases auth.isCustomProvider <;> cases auth.masterKeyBaseUrl <;> rfl
    dsimp only
    rw [same]
    cases !auth.isCustomProvider || auth.masterKeyBaseUrl.isNone with
    | true => simp
    | false => cases ModelPolicy.providerFromBareModel around.chrono model <;> simp

/-- The unified API without futures, once it has the endpoint, the path and the body that it
forwards. -/
def route (env : Environment Price Bytes) (request : UnifiedRequest Bytes) (api : UnifiedApi) (path : PathAndQuery)
    (body : Bytes) (implicit : Option String) : Except DispatchError (Arrival Bytes) := do
  let model ← env.bodies.typedModel api body
  Dispatch.checkAccess env request model
  let provider ← (resolveUnifiedTargetProvider env.chrono env.compatMode api.compatFallback model
    (request.auth.bind AuthContext.masterKeyAllowedProviders)).mapError .api
  let stack ← Dispatch.initProxy env request.auth provider
  return {
    requestKind := .unifiedApi, provider := stack, path := path, auth := request.auth, vkPolicy := request.vkPolicy,
    implicit := implicit, isStream := request.isStream, body := body, early := request.early }

theorem unifiedApi_eq (env : Environment Price Bytes) (request : UnifiedRequest Bytes) :
    unifiedApi env request = (do
      let api ← UnifiedApi.tryFrom (String.ofList request.path.path)
      let (body, implicit) ← withModel env request
      let redirected := api == .chatCompletions && env.bodies.responsesShaped body
      route env request (if redirected then .responses else api) (if redirected then responsesPath request.path else request.path)
        body implicit) := rfl

variable (around shown) in
/-- How the future ends from a state, beside the arrival or the error there is without futures. An
error comes when the body is there, or when the default model is chosen as well. -/
def Ends (state : State Response) (headers : HeaderMap) (collecting choosing : Nat) :
    Except DispatchError (Arrival Bytes) → Prop
  | .error error => ∃ answer, Fails shown answer error ∧ ((machine around).Answers state collecting answer ∨
      (machine around).Answers state (collecting + choosing) answer)
  | .ok arrival => ∃ call final, around.directProxies arrival.provider = some call ∧ Carries headers arrival final ∧
      (machine around).Answers state (collecting + choosing + (call final arrival.body).pending)
        (ofResponse (call final arrival.body).result)

theorem Ends.again {state next : State Response} {collecting choosing : Nat} {result : Except DispatchError (Arrival Bytes)}
    (goes : look around state = .again next) (ends : Ends around shown next headers collecting choosing result) :
    Ends around shown state headers collecting choosing result := by
  cases result with
  | error error =>
    obtain ⟨answer, fails, answers⟩ := ends
    exact ⟨answer, fails, answers.imp (Machine.Answers.again goes) (Machine.Answers.again goes)⟩
  | ok arrival =>
    obtain ⟨call, final, stack, carries, answers⟩ := ends
    exact ⟨call, final, stack, carries, answers.again goes⟩

theorem Ends.failed {state : State Response} (error : UnifiedError) (goes : look around state = .ready (.error error))
    (choosing : Nat) : Ends around shown state headers 0 choosing (.error (shown.error error)) :=
  ⟨_, .error error, .inl (.ready goes)⟩

/-- What is waited for first may be the default model. -/
theorem Ends.chosen {state : State Response} {choosing : Nat} {result : Except DispatchError (Arrival Bytes)}
    (ends : Ends around shown state headers choosing 0 result) : Ends around shown state headers 0 choosing result := by
  cases result with
  | error error =>
    obtain ⟨answer, fails, answers⟩ := ends
    refine ⟨answer, fails, .inr ?_⟩
    rw [Nat.zero_add]
    exact answers.elim id id
  | ok arrival =>
    rw [Ends, Nat.zero_add]
    exact ends

/-- The extensions of a request that goes to an endpoint. -/
structure Routed (request : UnifiedRequest Bytes) (api : UnifiedApi) (path : PathAndQuery) (implicit : Option String)
    (parts : Parts) : Prop where
  held : parts.pathAndQuery = some path
  endpoint : parts.apiEndpoint = some api
  tried : UnifiedApi.tryFrom (String.ofList path.path) = .ok api
  auth : parts.auth = request.auth
  vkPolicy : parts.vkPolicy = request.vkPolicy
  implicit : parts.implicitModel = implicit

section Route
variable {request : UnifiedRequest Bytes} {api : UnifiedApi} {path : PathAndQuery} {implicit : Option String} {parts : Parts}

variable (around shown rest headers) in
theorem checkAccess_eq (routed : Routed request api path implicit parts) (model : String) :
    (checkAccess around parts model).mapError shown.error =
      Dispatch.checkAccess (environment around shown rest headers) request model := by
  rw [checkAccess, Dispatch.checkAccess, skips_eq around shown rest headers, routed.auth,
    routed.vkPolicy]
  cases Dispatch.skipModelAccessCustomMasterFallback (environment around shown rest headers) request.auth model with
  | true => rfl
  | false =>
    simp only [Bool.not_false, if_true, Bool.false_eq_true, if_false, environment]
    cases checkModelAccess around.rewrites.toLowercase request.vkPolicy model <;> rfl

def arrived (request : UnifiedRequest Bytes) (path : PathAndQuery) (body : Bytes) (implicit : Option String)
    (stack : InferenceProvider) : Arrival Bytes where
  requestKind := .unifiedApi
  provider := stack
  path := path
  auth := request.auth
  vkPolicy := request.vkPolicy
  implicit := implicit
  isStream := request.isStream
  body := body
  early := request.early

variable (around shown rest headers) in
/-- Both resolve the same provider, or fail alike. -/
theorem resolveTarget_route (routed : Routed request api path implicit parts) (body : Bytes) :
    match resolveTarget around (String.ofList path.path) body parts with
    | .error error => route (environment around shown rest headers) request api path body implicit = .error (shown.error error)
    | .ok (final, provider) => final = { parts with provider := some provider } ∧
      route (environment around shown rest headers) request api path body implicit =
        (Dispatch.initProxy (environment around shown rest headers) parts.auth provider).map
          (arrived request path body implicit) := by
  have access := checkAccess_eq around shown rest headers routed
  have typedModel : (environment around shown rest headers).bodies.typedModel = around.typedModel := rfl
  have chrono : (environment around shown rest headers).chrono = around.chrono := rfl
  have compat : (environment around shown rest headers).compatMode = around.compatMode := rfl
  simp only [resolveTarget, routed.tried, route, typedModel, chrono, compat]
  cases typed : around.typedModel api body with
  | error error => rfl
  | ok model =>
    simp only [Except.mapError, bind, Except.bind, ← access]
    cases checkAccess around parts model with
    | error error => rfl
    | ok allowed =>
      simp only [routed.auth]
      cases resolveUnifiedTargetProvider around.chrono around.compatMode api.compatFallback model
          (request.auth.bind AuthContext.masterKeyAllowedProviders) with
      | error error => rfl
      | ok provider => exact ⟨rfl, rfl⟩

/-- From the endpoint on, the future ends as it does without futures. -/
theorem ends_route (routed : Routed request api path implicit parts) {state : State Response} {body : Bytes}
    (goes : look around state = match resolveTarget around (String.ofList path.path) body parts with
      | .error error => .ready (.error error)
      | .ok (parts, provider) => .again (.initProxy parts body provider)) :
    Ends around shown state parts.headers 0 0
      (route (environment around shown rest headers) request api path body implicit) := by
  have resolved := resolveTarget_route around shown rest headers routed body
  cases target : resolveTarget around (String.ofList path.path) body parts with
  | error error =>
    rw [target] at goes resolved
    rw [resolved]
    exact Ends.failed error goes 0
  | ok found =>
    obtain ⟨final, provider⟩ := found
    rw [target] at goes resolved
    obtain ⟨same, routes⟩ := resolved
    rw [routes]
    apply Ends.again goes
    have ends := answers_initProxy around shown rest headers final body provider
    rw [same] at ends ⊢
    cases carried : Dispatch.initProxy (environment around shown rest headers) parts.auth provider with
    | error error =>
      rw [carried] at ends
      exact ⟨_, .error (.dispatch error), .inl ends⟩
    | ok stack =>
      rw [carried] at ends
      obtain ⟨call, passthrough, held, stacked, answers⟩ := ends
      refine ⟨call, { parts with provider := some provider, masterKeyPassthrough := passthrough }, held, ?_, ?_⟩
      · exact {
          headers := rfl
          path := routed.held
          auth := routed.auth
          vkPolicy := routed.vkPolicy
          implicit := routed.implicit
          endpoint := ⟨api, routed.endpoint, routed.tried⟩
          passthrough := by
            rcases stacked with rfl | ⟨custom, passes⟩
            · exact .inl rfl
            · refine .inr ⟨?_, passes⟩
              rw [arrived, ← routed.auth]
              exact custom }
      · rw [Nat.zero_add]
        exact answers

theorem tryFrom_chat {text : String} (tried : UnifiedApi.tryFrom text = .ok api) :
    (text != "chat/completions") = (api != .chatCompletions) := by
  by_cases chat : text = "chat/completions"
  · subst chat
    cases tried
    rfl
  · have other : api ≠ .chatCompletions := by
      rintro rfl
      unfold UnifiedApi.tryFrom at tried
      split at tried
      · exact chat rfl
      all_goals cases tried
    rw [bne_iff_ne.mpr chat, bne_iff_ne.mpr other]

theorem responsesPath_tried (path : PathAndQuery) :
    UnifiedApi.tryFrom (String.ofList (responsesPath path).path) = .ok .responses := rfl

/-- With its body and its model settled, a chat request may still turn out to be one to the
Responses API. -/
theorem ends_determined (routed : Routed request api path implicit parts) {state : State Response} {body : Bytes}
    (goes : look around state = determined around (String.ofList path.path) body parts) :
    let redirected := api == .chatCompletions && responsesShaped around body
    Ends around shown state parts.headers 0 0 (route (environment around shown rest headers) request
      (if redirected then .responses else api) (if redirected then responsesPath path else path) body implicit) := by
  intro redirected
  have chat := tryFrom_chat routed.tried
  cases redirects : redirected with
  | false =>
    have stays : applyChatCompletionsBodyRedirectIfNeeded around (String.ofList path.path) body parts =
        .ok (String.ofList path.path, parts) := by
      rw [applyChatCompletionsBodyRedirectIfNeeded, chat]
      split
      · rfl
      · next same =>
        have chatted : (api == .chatCompletions) = true := by simpa [bne] using same
        have shaped : redirected = responsesShaped around body := by simp only [redirected, chatted, Bool.true_and]
        rw [← shaped, redirects]
        rfl
    refine ends_route routed ?_
    rw [goes, determined, determine, stays]
    rfl
  | true =>
    obtain ⟨same, shaped⟩ := (Bool.and_eq_true _ _).mp redirects
    have moved : Routed request .responses (responsesPath path) implicit { parts with
        responsesBridge := true, apiEndpoint := some .responses, pathAndQuery := some (responsesPath path) } :=
      ⟨rfl, rfl, responsesPath_tried path, routed.auth, routed.vkPolicy, routed.implicit⟩
    have changes : applyChatCompletionsBodyRedirectIfNeeded around (String.ofList path.path) body parts =
        .ok ("responses", { parts with
          responsesBridge := true, apiEndpoint := some .responses, pathAndQuery := some (responsesPath path) }) := by
      rw [applyChatCompletionsBodyRedirectIfNeeded, chat, bne, same, routed.held, shaped]
      rfl
    refine ends_route moved ?_
    rw [goes, determined, determine, changes]
    rfl

end Route

section Default
variable {request : UnifiedRequest Bytes} {api : UnifiedApi} {path : PathAndQuery} {parts : Parts}

theorem Ends.awaits {α : Type} (wait : Child α → State Response)
    (passes : ∀ child next, child.poll = .pending next → look around (wait child) = .pending (wait next))
    {result : Except DispatchError (Arrival Bytes)} {value : α} (pending choosing : Nat)
    (ends : Ends around shown (wait ⟨0, value⟩) headers 0 choosing result) :
    Ends around shown (wait ⟨pending, value⟩) headers pending choosing result := by
  have awaits {count : Nat} {answer : Answer Response} (answers : (machine around).Answers (wait ⟨0, value⟩) count answer) :
      (machine around).Answers (wait ⟨pending, value⟩) (pending + count) answer :=
    Machine.Answers.awaits wait passes answers pending
  cases result with
  | error error =>
    obtain ⟨answer, fails, answers⟩ := ends
    refine ⟨answer, fails, answers.imp awaits ?_⟩
    rw [Nat.zero_add]
    exact awaits
  | ok arrival =>
    obtain ⟨call, final, stack, carries, answers⟩ := ends
    refine ⟨call, final, stack, carries, ?_⟩
    rw [Nat.zero_add] at answers
    rw [Nat.add_assoc]
    exact awaits answers

theorem awaitDefaultModel_passes (parts : Parts) (child next : Child (Except RewriteError Bytes))
    (polled : child.poll = .pending next) :
    look around (.awaitDefaultModel child parts) = .pending (.awaitDefaultModel next parts) := by
  simp only [look, polled]

variable (around) in
theorem collectBody_passes (parts : Parts) (child next : Child (Except Unit Bytes)) (polled : child.poll = .pending next) :
    look around (.collectBody child parts) = .pending (.collectBody next parts) := by
  simp only [look, polled]

variable (around shown rest headers) in
theorem inject_eq (path : String) {body : Bytes} (vk : VkPolicy)
    (unnamed : modelFieldFromJsonBody around.rewrites.json body = none) :
    (injectDefaultModelIntoBodyUnified around.rewrites path body vk).mapError shown.rewrite = (do
      let chosen ← (DefaultModel.chooseDefaultGatewayModel around.rewrites.toLowercase around.rewrites.pricing
        around.rewrites.catalogue path vk).mapError .choose
      (environment around shown rest headers).bodies.setModel body chosen) := by
  simp only [injectDefaultModelIntoBodyUnified, unnamed, Option.isSome_none, Bool.false_eq_true, if_false, environment, bodies]
  cases DefaultModel.chooseDefaultGatewayModel around.rewrites.toLowercase around.rewrites.pricing around.rewrites.catalogue
      path vk with
  | error error => rfl
  | ok chosen =>
    simp only [Except.mapError, bind, Except.bind]
    cases ModelRewrites.parseBody around.rewrites body with
    | error error => rfl
    | ok value =>
      simp only
      cases ContentFilter.setModel value chosen <;> rfl

variable (around) in
/-- The request has no model of its own, and what a default is chosen with. -/
def asksDefault (parts : Parts) (body : Bytes) : Bool :=
  match transformed around parts.headers body with
  | .forwarded body _ =>
    (modelFieldFromJsonBody around.rewrites.json body).isNone && parts.auth.isSome && parts.vkPolicy.isSome
  | .refused _ | .panicked => false

variable (around) in
def defaultWait (parts : Parts) (body : Bytes) : Nat := if asksDefault around parts body then around.choosing else 0

/-- With the endpoint and a body that names its model, as the unified API goes on. -/
def redirect (env : Environment Price Bytes) (request : UnifiedRequest Bytes) (api : UnifiedApi) (path : PathAndQuery)
    (found : Bytes × Option String) : Except DispatchError (Arrival Bytes) :=
  let redirected := api == .chatCompletions && env.bodies.responsesShaped found.1
  route env request (if redirected then .responses else api) (if redirected then responsesPath path else path) found.1 found.2

variable (around shown rest headers) in
theorem ends_injected (routed : Routed request api path none parts) (result : Except RewriteError Bytes) :
    Ends around shown (.awaitDefaultModel ⟨0, result⟩ parts) parts.headers 0 0 (do
      let body ← result.mapError shown.rewrite
      let implicit :=
        if String.ofList path.path = "chat/completions" then modelFieldFromJsonBody around.rewrites.json body else none
      redirect (environment around shown rest headers) request api path (body, implicit)) := by
  cases result with
  | error error =>
    cases error with
    | panicked => exact ⟨_, .panicked, .inl (.ready rfl)⟩
    | invalidRequestBody => exact Ends.failed (.rewrite .invalidRequestBody) rfl 0
    | notChosen error => exact Ends.failed (.rewrite (.notChosen error)) rfl 0
  | ok body =>
    have settled : ∃ after, look around (.awaitDefaultModel ⟨0, .ok body⟩ parts) = .again (.determineProvider body after true) ∧
        after.headers = parts.headers ∧ Routed request api path
          (if String.ofList path.path = "chat/completions" then modelFieldFromJsonBody around.rewrites.json body else none)
          after := by
      simp only [look, Child.poll, routed.held, Option.map_some, Option.getD_some, implicitDefaultModelFallbackContext]
      by_cases chat : String.ofList path.path = "chat/completions"
      · simp only [chat, bne_self_eq_false, Bool.false_eq_true, if_false, if_true]
        cases modelFieldFromJsonBody around.rewrites.json body with
        | none => exact ⟨parts, rfl, rfl, routed⟩
        | some model =>
          exact ⟨_, rfl, rfl, rfl, routed.endpoint, routed.tried, routed.auth, routed.vkPolicy, rfl⟩
      · simp only [bne_iff_ne.mpr chat, if_true, if_neg chat]
        exact ⟨parts, rfl, rfl, routed⟩
    obtain ⟨after, goes, same, moved⟩ := settled
    apply Ends.again goes
    rw [← same]
    refine ends_determined moved ?_
    simp only [look, lookDetermine, moved.held, if_true]

variable (around shown rest) in
/-- From the body on, the future waits as long as the choice of a default takes, where there is
one to make. -/
theorem ends_modelled (routed : Routed request api request.path none parts) :
    Ends around shown (.determineProvider request.body parts false) parts.headers 0 (defaultWait around parts request.body) (do
      let found ← withModel (environment around shown rest parts.headers) request
      redirect (environment around shown rest parts.headers) request api request.path found) := by
  have transform : (environment around shown rest parts.headers).bodies.transform request.body =
      match transformed around parts.headers request.body with
      | .forwarded body _ => .ok body
      | .refused error => .error (shown.refusal error)
      | .panicked => .error shown.panic := rfl
  have modelField : (environment around shown rest parts.headers).bodies.modelField =
      modelFieldFromJsonBody around.rewrites.json := rfl
  have goes : look around (.determineProvider request.body parts false) =
      lookDetermine around request.body parts false := rfl
  rw [withModel]
  simp only [transform, modelField]
  rw [lookDetermine, routed.held] at goes
  simp only [Bool.false_eq_true, if_false] at goes
  cases sent : transformed around parts.headers request.body with
  | panicked =>
    rw [transformed] at sent
    rw [sent] at goes
    exact ⟨_, .panicked, .inl (.ready goes)⟩
  | refused error =>
    rw [transformed] at sent
    rw [sent] at goes
    exact Ends.failed (.largeContext error) goes _
  | forwarded body decision =>
    have asks : defaultWait around parts request.body =
        if (modelFieldFromJsonBody around.rewrites.json body).isNone && parts.auth.isSome && parts.vkPolicy.isSome then
          around.choosing
        else 0 := by rw [defaultWait, asksDefault, sent]
    rw [transformed] at sent
    rw [sent] at goes
    rw [asks]
    simp only at goes
    have noted : Routed request api request.path none
        { parts with
          pathAndQuery := some request.path, largeContextDecision := decision.or parts.largeContextDecision } :=
      ⟨rfl, routed.endpoint, routed.tried, routed.auth, routed.vkPolicy, routed.implicit⟩
    simp only [bind, Except.bind]
    cases model : modelFieldFromJsonBody around.rewrites.json body with
    | some name =>
      rw [model, Option.isSome_some, if_pos rfl] at goes
      exact ends_determined noted goes
    | none =>
      rw [model, Option.isSome_none, if_neg Bool.false_ne_true] at goes
      cases auth : parts.auth with
      | none =>
        rw [auth] at goes
        rw [← routed.auth, auth]
        exact Ends.failed (.rewrite (.notChosen .noModelAvailable)) goes _
      | some held =>
        cases policy : parts.vkPolicy with
        | none =>
          rw [auth, policy] at goes
          rw [← routed.auth, ← routed.vkPolicy, auth, policy]
          exact Ends.failed (.rewrite (.notChosen .noModelAvailable)) goes _
        | some vk =>
          rw [auth, policy] at goes noted
          rw [← routed.auth, ← routed.vkPolicy, auth, policy]
          apply Ends.again goes
          refine Ends.chosen (Ends.awaits (State.awaitDefaultModel · _) (awaitDefaultModel_passes _) around.choosing 0 ?_)
          have ends := ends_injected around shown rest parts.headers noted
            (injectDefaultModelIntoBodyUnified around.rewrites (String.ofList request.path.path) body vk)
          rw [inject_eq around shown rest parts.headers (String.ofList request.path.path) vk model] at ends
          have lower : (environment around shown rest parts.headers).toLowercase = around.rewrites.toLowercase := rfl
          have pricing : (environment around shown rest parts.headers).pricing = around.rewrites.pricing := rfl
          have catalogue : (environment around shown rest parts.headers).catalogue = around.rewrites.catalogue := rfl
          dsimp only
          rw [lower, pricing, catalogue]
          simp only [bind, Except.bind] at ends
          cases made : (DefaultModel.chooseDefaultGatewayModel around.rewrites.toLowercase around.rewrites.pricing
              around.rewrites.catalogue (String.ofList request.path.path) vk).mapError DispatchError.choose with
          | error error =>
            rw [made] at ends
            exact ends
          | ok chosen =>
            rw [made] at ends
            dsimp only at ends ⊢
            cases written : (environment around shown rest parts.headers).bodies.setModel body chosen with
            | error error =>
              rw [written] at ends
              exact ends
            | ok value =>
              rw [written] at ends
              exact ends

end Default

variable (around shown rest) in
/-- However often its children are pending, the future of a request ends as the unified API does
without futures: it hands the same request to the same stack and gives the response of that, or
fails with the same error, or panics where a default model cannot be written. Until then it is
pending exactly as often as the children it polls are, so no poll is lost. -/
theorem unified_future {parts : Parts} {path : PathAndQuery} (held : parts.pathAndQuery = some path)
    (fresh : parts.implicitModel = none) (collect : Child (Except Unit Bytes)) (isStream : Bool)
    (early : Option (Except DispatchError Dispatch.Answer)) :
    match collect.result with
    | .error _ => (machine around).Answers (.collectBody collect parts) collect.pending (.error .collectBody)
    | .ok body => Ends around shown (.collectBody collect parts) parts.headers collect.pending (defaultWait around parts body)
      (unifiedApi (environment around shown rest parts.headers) ⟨path, parts.auth, parts.vkPolicy, isStream, body, early⟩) := by
  obtain ⟨pending, result⟩ := collect
  cases result with
  | error reason =>
    exact Machine.Answers.awaits (State.collectBody · parts) (collectBody_passes around parts) (.ready rfl) pending
  | ok body =>
    refine Ends.awaits (State.collectBody · parts) (collectBody_passes around parts) pending _ ?_
    rw [unifiedApi_eq]
    cases tried : UnifiedApi.tryFrom (String.ofList path.path) with
    | error error =>
      refine Ends.failed (.dispatch error) ?_ _
      simp only [look, Child.poll, held, tried]
    | ok api =>
      have routed : Routed ⟨path, parts.auth, parts.vkPolicy, isStream, body, early⟩ api path none
          { parts with pathAndQuery := some path, apiEndpoint := some api } := ⟨rfl, rfl, tried, rfl, rfl, fresh⟩
      have ends := ends_modelled around shown rest routed
      refine Ends.again ?_ ends
      simp only [look, Child.poll, held, tried]

end Refinement

section Sample

def spokenBody : Json := .object [("model", .string "openai/gpt-4o"), ("messages", .array [])]

def wholePrices : DefaultModel.Pricing Nat := ⟨fun _ => 0, 0, fun _ _ => true⟩

def spokenJson : Bytes := asciiBytes "\x7b\"model\":\"openai/gpt-4o\",\"messages\":[]\x7d"

def spokenFromSlice (body : Bytes) : Except String Json := if body = spokenJson then .ok spokenBody else .error "expected value"

/-- The library knows one chat request, and one stack answers it after a while. -/
def oneStack : Surroundings Nat Nat where
  chrono := ⟨fun _ _ => none, fun _ _ => [], 2025⟩
  rewrites := ⟨⟨fun body => (spokenFromSlice body).toOption, fun _ => spokenJson⟩, ModelPolicy.asciiLowercase, wholePrices,
    ⟨false, .ok [], .ok [], ModelPolicy.asciiLowercase, []⟩⟩
  fromSlice := spokenFromSlice
  agrees _ := rfl
  compatMode := true
  typedModel _ body :=
    if body = spokenJson then .ok "openai/gpt-4o" else .error (.invalidRequestBody "expected value")
  budgetChars _ _ := 0
  estimateInputTokens _ _ _ := none
  choosing := 2
  directProxies provider := if provider = .openAI then some fun _ _ => ⟨3, .ok 200⟩ else none

def plainErrors : Shown := ⟨fun _ => .internal, .internal, .internal⟩

def otherParts : Environment Nat Bytes where
  chrono := oneStack.chrono
  toLowercase := oneStack.rewrites.toLowercase
  pricing := wholePrices
  catalogue := oneStack.rewrites.catalogue
  compatMode := true
  directProxies _ := true
  workspaceAllowlist := []
  bodies := bodies oneStack plainErrors ⟨fun _ => none⟩
  masterKeys := ⟨false, fun _ => .error (.notFound 0), fun _ _ => .ok [], 0, false⟩
  providerKeys := ⟨fun _ => true, fun _ => false, false, false⟩
  maxRetries := none
  hasTarget _ _ := true
  builds _ := true

theorem chatPath_unquestioned : '?' ∉ "chat/completions".toList := by decide

def chatPath : PathAndQuery := ⟨"chat/completions".toList, none, chatPath_unquestioned⟩

def chatParts : Parts := ⟨⟨fun _ => none⟩, some chatPath, none, none, none, none, none, false, none, false⟩

theorem slow_chat_answered :
    Ends oneStack plainErrors (.collectBody ⟨1, .ok spokenJson⟩ chatParts) chatParts.headers 1
      (defaultWait oneStack chatParts spokenJson)
      (unifiedApi (environment oneStack plainErrors otherParts chatParts.headers)
        ⟨chatPath, none, none, false, spokenJson, none⟩) :=
  unified_future oneStack plainErrors otherParts rfl rfl ⟨1, .ok spokenJson⟩ false none

/-- The body takes one poll and the response three, and no default model is chosen. -/
example : (machine oneStack).Answers (.collectBody ⟨1, .ok spokenJson⟩ chatParts) 4 (.ok 200) := by
  have after : (machine oneStack).Answers (.collectBody ⟨0, .ok spokenJson⟩ chatParts) 3 (.ok 200) :=
    .again rfl (.again rfl (.again rfl (answers_proxy ⟨3, .ok 200⟩)))
  exact Machine.Answers.awaits (State.collectBody · chatParts) (collectBody_passes oneStack chatParts) after 1

end Sample

end AiGateway.UnifiedFutures
