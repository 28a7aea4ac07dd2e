import AiGateway.Proofs.DispatchedProviders
import AiGateway.Proofs.FallbackProviders

/-! The models that the unified API forwards are those a virtual key may use, and the model it
chooses for a request without one is never a reason to refuse it. -/

namespace AiGateway.Dispatch

open DefaultModel
open Lib.Runs (bind_ok)
open ModelPolicy (VkPolicy PathAndQuery checkModelAccess modelAccessAllowed listed providerFromBareModel
  resolveUnifiedTargetProvider)

section Chosen
variable {Price : Type} {toLowercase : String → String} {pricing : Pricing Price} {catalogue : Catalogue} {vk : VkPolicy}
  {path : String} {excluded : Option String}

theorem scored_unblocked {list : List String} {scored : List (ScoredGatewayModel Price)}
    (scores : resolveScoredGatewayModels toLowercase pricing catalogue path vk list = .ok scored)
    {candidate : ScoredGatewayModel Price} (member : candidate ∈ scored) :
    listed toLowercase candidate.gatewayModel vk.blockedModels = false := by
  unfold resolveScoredGatewayModels at scores
  dsimp only at scores
  split at scores
  · cases scores
  · cases scores
    obtain ⟨named, inside, score⟩ := List.mem_filterMap.mp member
    obtain ⟨name, _, parsed⟩ := List.mem_filterMap.mp inside
    unfold candidateOf at parsed
    split at parsed
    · cases parsed
    · next allowed =>
      obtain ⟨cut, _, rfl⟩ := Option.map_eq_some_iff.mp parsed
      unfold scoreOf at score
      split at score
      · cases score
      · split at score
        · cases score
        · cases score
          have unlisted : listed toLowercase name none = false := rfl
          simpa [modelAccessAllowed, unlisted] using allowed

theorem picked_mem {scored : List (ScoredGatewayModel Price)} {chosen : String}
    (picked : pickBestScoredGatewayModel pricing scored excluded = some chosen) :
    ∃ candidate ∈ scored, candidate.gatewayModel = chosen := by
  rw [pickBestScoredGatewayModel, pickGreatestByPriceAndName] at picked
  split at picked
  · cases picked
  · next name names same =>
    cases picked
    have member := (foldl_greater names name).1
    rw [← same] at member
    obtain ⟨entry, kept, named⟩ := List.mem_map.mp member
    obtain ⟨candidate, inside, rfl⟩ := List.mem_map.mp (List.mem_of_mem_filter kept)
    exact ⟨candidate, List.mem_of_mem_filter inside, named⟩

/-- A default passes the check that a model of the request would have to pass. -/
theorem default_allowed {chosen : String}
    (made : chooseDefaultGatewayModelExcludingProvider toLowercase pricing catalogue path vk excluded = .ok chosen) :
    modelAccessAllowed toLowercase chosen vk.allowedModels vk.blockedModels = true := by
  rw [chooseDefaultGatewayModelExcludingProvider] at made
  split at made
  · cases made
  split at made
  · cases made
  dsimp only at made
  split at made
  · cases made
  split at made
  · cases made
  next scored scores =>
  split at made
  · cases made
  next picked =>
  cases made
  obtain ⟨candidate, member, rfl⟩ := picked_mem picked
  have unblocked := scored_unblocked scores member
  simp [modelAccessAllowed, unblocked]

end Chosen

section Policy
variable {Price Body : Type} (env : Environment Price Body)

/-- Bodies whose errors are not those of the policy, and whose typed model is the one that was
put there. -/
structure PlainBodies (bodies : Bodies Body) : Prop where
  transform : ∀ body model, bodies.transform body ≠ .error (.api (.modelAccessDenied model))
  setModel : ∀ body chosen model, bodies.setModel body chosen ≠ .error (.api (.modelAccessDenied model))
  typedModel : ∀ api body model, bodies.typedModel api body ≠ .error (.api (.modelAccessDenied model))
  reads : ∀ api body chosen after model, bodies.setModel body chosen = .ok after →
    bodies.typedModel api after = .ok model → model = chosen

/-- The endpoint that a request to the unified API is taken to. -/
def target (api : UnifiedApi) (body : Body) : UnifiedApi :=
  if api == .chatCompletions && env.bodies.responsesShaped body then .responses else api

/-- The key may not use the model, and the model is not left to a custom key's own address. -/
def Denied (request : UnifiedRequest Body) (model : String) : Prop :=
  skipModelAccessCustomMasterFallback env request.auth model = false ∧ ∃ policy, request.vkPolicy = some policy ∧
    modelAccessAllowed env.toLowercase model policy.allowedModels policy.blockedModels = false

variable {env} {request : UnifiedRequest Body}

theorem checkAccess_denied {model : String} {error : DispatchError} (refused : checkAccess env request model = .error error) :
    error = .api (.modelAccessDenied model) ∧ Denied env request model := by
  rw [checkAccess] at refused
  split at refused
  · cases refused
  · next checked =>
    unfold checkModelAccess at refused
    split at refused
    · cases refused
    · next policy held =>
      split at refused
      · next denied =>
        cases refused
        exact ⟨rfl, by simpa using checked, policy, held, by simpa using denied⟩
      · cases refused

theorem checkAccess_ok_iff {model : String} : checkAccess env request model = .ok () ↔ ¬Denied env request model := by
  constructor
  · rintro allowed ⟨skips, policy, held, denied⟩
    rw [checkAccess, skips, held] at allowed
    simp [checkModelAccess, denied, Except.mapError] at allowed
  · intro free
    cases checked : checkAccess env request model with
    | ok done => rfl
    | error error => exact absurd (checkAccess_denied checked).2 free

theorem resolved_not_denied {chrono : Chrono} {compat : Bool} {compatFallback : InferenceProvider} {name model : String}
    {list : Option (List InferenceProvider)} :
    resolveUnifiedTargetProvider chrono compat compatFallback name list ≠ .error (.modelAccessDenied model) := by
  have bare : (if compat then .ok compatFallback else providerFromBareModel chrono name) ≠
      .error (.modelAccessDenied model) := by
    split
    · nofun
    · unfold providerFromBareModel
      split <;> nofun
  unfold resolveUnifiedTargetProvider
  dsimp only
  split
  · exact bare
  · exact bare
  · nofun
  · split
    · next error resolved =>
      rw [resolved] at bare
      simpa using bare
    · split <;> nofun

/-- How a request comes to the model of its body. -/
inductive Modelled (env : Environment Price Body) (request : UnifiedRequest Body) :
    Except DispatchError (Body × Option String) → Prop where
  | named {body : Body} {name : String} (transforms : env.bodies.transform request.body = .ok body)
      (found : env.bodies.modelField body = some name) : Modelled env request (.ok (body, none))
  | chosen {body after : Body} {vk : VkPolicy} {path chosen : String} {implicit : Option String}
      (transforms : env.bodies.transform request.body = .ok body) (unnamed : env.bodies.modelField body = none)
      (held : request.vkPolicy = some vk)
      (made : chooseDefaultGatewayModel env.toLowercase env.pricing env.catalogue path vk = .ok chosen)
      (written : env.bodies.setModel body chosen = .ok after) : Modelled env request (.ok (after, implicit))
  | failed {error : DispatchError} (other : ∀ model, error ≠ .api (.modelAccessDenied model)) :
      Modelled env request (.error error)

theorem withModel_modelled (plain : PlainBodies env.bodies) : Modelled env request (withModel env request) := by
  rw [withModel]
  cases transforms : env.bodies.transform request.body with
  | error error => exact .failed fun model same => plain.transform request.body model (same ▸ transforms)
  | ok body =>
    simp only [bind, Except.bind]
    cases field : env.bodies.modelField body with
    | some name => exact .named transforms field
    | none =>
      cases request.auth with
      | none => exact .failed nofun
      | some auth =>
        cases policy : request.vkPolicy with
        | none => exact .failed nofun
        | some vk =>
          dsimp only
          cases made : chooseDefaultGatewayModel env.toLowercase env.pricing env.catalogue
              (String.ofList request.path.path) vk with
          | error error =>
            simp only [Except.mapError]
            exact .failed (by simp)
          | ok chosen =>
            simp only [Except.mapError]
            cases written : env.bodies.setModel body chosen with
            | error error => exact .failed fun model same => plain.setModel body chosen model (same ▸ written)
            | ok after =>
              simp only [pure, Except.pure]
              exact .chosen transforms field policy made written

theorem initProxy_not_denied {auth : Option AuthContext} {provider : InferenceProvider} {model : String} :
    initProxy env auth provider ≠ .error (.api (.modelAccessDenied model)) := by
  intro denied
  rw [initProxy] at denied
  split at denied
  · cases denied
  split at denied
  · cases denied
  split at denied
  · cases denied
  split at denied <;> cases denied

/-- Once it has its body, a request is refused by the policy or goes on with a model it may use. -/
theorem checked_route (plain : PlainBodies env.bodies) {api : UnifiedApi} (tried : UnifiedApi.tryFrom (String.ofList request.path.path) = .ok api)
    {body : Body} {implicit : Option String} (modelled : withModel env request = .ok (body, implicit)) :
    ((∃ model, unifiedApi env request = .error (.api (.modelAccessDenied model))) ↔
      ∃ model, env.bodies.typedModel (target env api body) body = .ok model ∧ Denied env request model) ∧
    ∀ arrival, unifiedApi env request = .ok arrival → ∃ model, arrival.body = body ∧
      UnifiedApi.tryFrom (String.ofList arrival.path.path) = .ok (target env api body) ∧
      env.bodies.typedModel (target env api body) body = .ok model ∧ ¬Denied env request model := by
  have endpoint : (if api == .chatCompletions && env.bodies.responsesShaped body then .responses else api) =
      target env api body := rfl
  have goes : unifiedApi env request = (do
      let model ← env.bodies.typedModel (target env api body) body
      checkAccess env request model
      let provider ← (resolveUnifiedTargetProvider env.chrono env.compatMode (target env api body).compatFallback model
        (request.auth.bind AuthContext.masterKeyAllowedProviders)).mapError .api
      let stack ← initProxy env request.auth provider
      pure {
        requestKind := .unifiedApi, provider := stack
        path := if api == .chatCompletions && env.bodies.responsesShaped body then responsesPath request.path else request.path
        auth := request.auth, vkPolicy := request.vkPolicy, implicit := implicit, isStream := request.isStream
        body := body, early := request.early }) := by
    rw [unifiedApi, tried, modelled]
    rfl
  rw [goes]
  constructor
  · constructor
    · rintro ⟨model, refused⟩
      cases typed : env.bodies.typedModel (target env api body) body with
      | error error =>
        rw [typed] at refused
        cases Except.error.inj refused
        exact absurd typed (plain.typedModel _ _ model)
      | ok name =>
        rw [typed] at refused
        cases checked : checkAccess env request name with
        | error error => exact ⟨name, rfl, (checkAccess_denied checked).2⟩
        | ok free =>
          simp only [checked, bind, Except.bind] at refused
          cases resolved : resolveUnifiedTargetProvider env.chrono env.compatMode (target env api body).compatFallback name
              (request.auth.bind AuthContext.masterKeyAllowedProviders) with
          | error error =>
            rw [resolved] at refused
            cases DispatchError.api.inj (Except.error.inj refused)
            exact absurd resolved resolved_not_denied
          | ok provider =>
            rw [resolved] at refused
            simp only [Except.mapError] at refused
            cases carried : initProxy env request.auth provider with
            | error error =>
              rw [carried] at refused
              cases Except.error.inj refused
              exact absurd carried initProxy_not_denied
            | ok stack =>
              rw [carried] at refused
              simp only [pure, Except.pure, reduceCtorEq] at refused
    · rintro ⟨model, typed, denied⟩
      cases checked : checkAccess env request model with
      | ok free => exact absurd denied (checkAccess_ok_iff.mp checked)
      | error error =>
        obtain ⟨rfl, _⟩ := checkAccess_denied checked
        refine ⟨model, ?_⟩
        simp only [typed, checked, bind, Except.bind]
  · intro arrival done
    obtain ⟨model, typed, done⟩ := bind_ok done
    obtain ⟨free, checked, done⟩ := bind_ok done
    obtain ⟨provider, resolved, done⟩ := bind_ok done
    obtain ⟨stack, carried, same⟩ := bind_ok done
    cases Except.ok.inj same
    refine ⟨model, rfl, ?_, typed, checkAccess_ok_iff.mp checked⟩
    dsimp only
    rw [target]
    split
    · rfl
    · exact tried

theorem tryFrom_error {text : String} {error : DispatchError} (tried : UnifiedApi.tryFrom text = .error error) :
    error = .unsupportedEndpoint text := by
  unfold UnifiedApi.tryFrom at tried
  split at tried <;> cases tried
  rfl

theorem withModel_named {body : Body} {name : String} (transforms : env.bodies.transform request.body = .ok body)
    (found : env.bodies.modelField body = some name) : withModel env request = .ok (body, none) := by
  rw [withModel, transforms]
  simp only [bind, Except.bind, found]
  rfl

/-- The unified API refuses a request by the policy of its key exactly when the request names a
model itself, and one that the key may not use; the default that is chosen for a request without
one is never refused. What goes on to a stack is of a model that the key may use, or left to the
address of a custom key. -/
theorem model_policy_enforced (plain : PlainBodies env.bodies) :
    ((∃ model, unifiedApi env request = .error (.api (.modelAccessDenied model))) ↔
      ∃ api body name model, UnifiedApi.tryFrom (String.ofList request.path.path) = .ok api ∧
        env.bodies.transform request.body = .ok body ∧ env.bodies.modelField body = some name ∧
        env.bodies.typedModel (target env api body) body = .ok model ∧ Denied env request model) ∧
    ∀ arrival, unifiedApi env request = .ok arrival → ∃ api model,
      UnifiedApi.tryFrom (String.ofList arrival.path.path) = .ok api ∧
      env.bodies.typedModel api arrival.body = .ok model ∧ ¬Denied env request model := by
  cases tried : UnifiedApi.tryFrom (String.ofList request.path.path) with
  | error error =>
    have refused : unifiedApi env request = .error (.unsupportedEndpoint (String.ofList request.path.path)) := by
      rw [unifiedApi, tried, tryFrom_error tried]
      rfl
    rw [refused]
    refine ⟨⟨?_, ?_⟩, fun arrival done => by cases done⟩
    · rintro ⟨model, same⟩
      cases Except.error.inj same
    · rintro ⟨api, body, name, model, other, _⟩
      cases other
  | ok api =>
    have modelled : Modelled env request (withModel env request) := withModel_modelled plain
    generalize made : withModel env request = result at modelled
    cases modelled with
    | @named body name transforms found =>
      obtain ⟨refusal, handed⟩ := checked_route plain tried made
      refine ⟨⟨?_, ?_⟩, ?_⟩
      · intro refused
        obtain ⟨model, typed, denied⟩ := refusal.mp refused
        exact ⟨api, body, name, model, rfl, transforms, found, typed, denied⟩
      · rintro ⟨other, same, named, model, tries, again, _, typed, denied⟩
        cases Except.ok.inj tries
        cases Except.ok.inj (transforms.symm.trans again)
        exact refusal.mpr ⟨model, typed, denied⟩
      · intro arrival done
        obtain ⟨model, rfl, endpoint, typed, free⟩ := handed arrival done
        exact ⟨_, model, endpoint, typed, free⟩
    | @chosen body after vk path chosen implicit transforms unnamed held choice written =>
      obtain ⟨refusal, handed⟩ := checked_route plain tried made
      refine ⟨⟨?_, ?_⟩, ?_⟩
      · intro refused
        obtain ⟨model, typed, _, policy, other, denied⟩ := refusal.mp refused
        cases plain.reads _ _ _ _ _ written typed
        cases Option.some.inj (held.symm.trans other)
        rw [default_allowed choice] at denied
        cases denied
      · rintro ⟨other, same, named, model, tries, again, found, _⟩
        cases Except.ok.inj (transforms.symm.trans again)
        cases unnamed.symm.trans found
      · intro arrival done
        obtain ⟨model, rfl, endpoint, typed, free⟩ := handed arrival done
        exact ⟨_, model, endpoint, typed, free⟩
    | @failed error other =>
      have refused : unifiedApi env request = .error error := by
        rw [unifiedApi, tried, made]
        rfl
      rw [refused]
      refine ⟨⟨?_, ?_⟩, fun arrival done => by cases done⟩
      · rintro ⟨model, same⟩
        exact absurd (Except.error.inj same) (other model)
      · rintro ⟨_, body, name, model, _, transforms, found, _⟩
        cases made.symm.trans (withModel_named transforms found)

end Policy

section Sample

theorem modelBodies_plain : PlainBodies modelBodies where
  transform := nofun
  setModel := nofun
  typedModel api body model := by cases body <;> nofun
  reads api body chosen after model written typed := by
    cases written
    exact (Except.ok.inj typed).symm

theorem chat_unquestioned : '?' ∉ "chat/completions".toList := by decide

/-- One of the models that the default is chosen from is blocked, and the request asks for it. -/
def blockedRequest : UnifiedRequest (Option String) where
  path := ⟨"chat/completions".toList, none, chat_unquestioned⟩
  auth := some openAiOnly
  vkPolicy := some ⟨none, some ["ollama/llama3"]⟩
  isStream := false
  body := some "ollama/llama3"
  early := none

theorem blocked_model_refused : ∃ model, unifiedApi twoProviders blockedRequest = .error (.api (.modelAccessDenied model)) := by
  apply (@model_policy_enforced Nat (Option String) twoProviders blockedRequest modelBodies_plain).1.mpr
  refine ⟨.chatCompletions, _, _, "ollama/llama3", rfl, rfl, rfl, rfl, rfl, _, rfl, ?_⟩
  rfl

end Sample

end AiGateway.Dispatch
