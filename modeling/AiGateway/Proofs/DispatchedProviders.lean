import AiGateway.Dispatch
import AiGateway.Lib.Runs

/-! The providers that one request reaches, against those its master key may use. The
unified API keeps to the list when it resolves the target; the dispatcher does not ask
the list again when it falls back. -/

namespace AiGateway.Dispatch

open DefaultModel MasterKeyCache WorkspaceAllowlist
open ModelPolicy (VkPolicy PathAndQuery providerFromBareModel resolveUnifiedTargetProvider unifiedChatCompletionsPath)
open Lib.Runs (bind_ok mapError_ok_iff)

/-- No list, or an empty one, is no restriction. -/
def Respects (auth : Option AuthContext) (sends : List InferenceProvider) : Prop :=
  ∀ list, auth.bind AuthContext.masterKeyAllowedProviders = some list → list ≠ [] → ∀ provider ∈ sends, provider ∈ list

section Attempts
variable {Result : Type} (retryable : Result → Bool) (answers : Nat → Result)

theorem retryWithResult_attempted (backoff done : Nat) : 0 < (retryWithResult retryable answers backoff done).1 := by
  induction backoff generalizing done with
  | zero => exact Nat.succ_pos done
  | succ backoff ih =>
    rw [retryWithResult]
    split
    · exact ih (done + 1)
    · exact Nat.succ_pos done

/-- The last result is worth a retry only when every delay is used up. -/
theorem retryWithResult_retryable_iff (backoff done : Nat) :
    retryable (retryWithResult retryable answers backoff done).2 = true ↔
      ∀ attempt ≤ backoff, retryable (answers (done + attempt)) = true := by
  induction backoff generalizing done with
  | zero => simp [retryWithResult]
  | succ backoff ih =>
    rw [retryWithResult]
    split
    next again =>
      rw [ih]
      constructor
      · intro rest attempt least
        cases attempt with
        | zero => exact again
        | succ attempt =>
          have later := rest attempt (by omega)
          rwa [Nat.add_right_comm] at later
      · intro all attempt least
        have later := all (attempt + 1) (by omega)
        rwa [← Nat.add_assoc, Nat.add_right_comm] at later
    next enough =>
      constructor
      · intro again
        exact absurd again enough
      · intro all
        exact all 0 (Nat.zero_le _)

end Attempts

section Sends
variable {Price Body : Type} (env : Environment Price Body) (arrival : Arrival Body)

/-- The request is sent to the provider of the stack. -/
structure Forwarded : Prop where
  checks : checked env arrival = .ok ()
  unanswered : arrival.early = none
  admitted : authenticate env (Client.new arrival.provider) arrival.auth arrival.provider = .ok ()

/-- The default model of another provider than the failed one. -/
structure FallbackModel (model : String) : Prop where
  authenticated : arrival.auth.isSome = true
  chosen : ∃ vk selected parsed, arrival.vkPolicy = some vk ∧ arrival.implicit = some selected ∧
    splitProviderModel selected = some parsed ∧
      chooseDefaultGatewayModelExcludingProvider env.toLowercase env.pricing env.catalogue "chat/completions" vk
          (some parsed.providerRaw) = .ok model ∧
        eqIgnoreAsciiCase model.toList selected.toList = false

/-- All that a request to the provider of a model needs. -/
structure Sendable (model : String) (provider : InferenceProvider) : Prop where
  read : providerFromBareModel env.chrono model = .ok provider
  allowed : enforceWorkspaceProviderAllowlist env arrival.auth provider = .ok ()
  addressed : env.hasTarget arrival.auth provider = true
  rewritten : ∃ body, env.bodies.setModel arrival.body model = .ok body
  built : env.builds provider = true
  admitted : authenticate env (Client.new provider) arrival.auth provider = .ok ()

/-- Every attempt at a chat completion failed, and its model was nobody's wish. -/
structure FallsBack (answers : Nat → Answer) (provider : InferenceProvider) : Prop where
  whole : arrival.isStream = false
  unified : arrival.requestKind = .unifiedApi
  chat : unifiedChatCompletionsPath arrival.path.text = true
  failed : ∃ retries, env.maxRetries = some retries ∧ 0 < retries ∧
    ∀ attempt ≤ retries, (answers attempt).syncDispatchResultIsRetryable = true
  target : ∃ model, FallbackModel env arrival model ∧ Sendable env arrival model provider

private theorem ensure_ok {condition : Bool} {error : DispatchError} : ensure condition error = .ok () ↔ condition = true := by
  cases condition <;> simp [ensure]

theorem fallbackRequest_iff (model : String) (provider : InferenceProvider) :
    fallbackRequest env arrival model = .ok provider ↔ Sendable env arrival model provider := by
  rw [fallbackRequest]
  constructor
  · intro sent
    obtain ⟨read, named, sent⟩ := bind_ok sent
    obtain ⟨_, allowed, sent⟩ := bind_ok sent
    obtain ⟨_, addressed, sent⟩ := bind_ok sent
    obtain ⟨body, rewritten, sent⟩ := bind_ok sent
    obtain ⟨_, built, sent⟩ := bind_ok sent
    obtain ⟨_, admitted, same⟩ := bind_ok sent
    cases same
    exact ⟨mapError_ok_iff.mp named, allowed, ensure_ok.mp addressed, ⟨body, rewritten⟩, ensure_ok.mp built, admitted⟩
  · intro ⟨read, allowed, addressed, ⟨body, rewritten⟩, built, admitted⟩
    simp only [mapError_ok_iff.mpr read, bind, Except.bind, allowed, ensure_ok.mpr addressed, rewritten,
      ensure_ok.mpr built, admitted, pure, Except.pure]

theorem tryCrossProviderDefaultModelFallback_iff (provider : InferenceProvider) :
    tryCrossProviderDefaultModelFallback env arrival = .ok (some provider) ↔
      ∃ model, FallbackModel env arrival model ∧ Sendable env arrival model provider := by
  rw [tryCrossProviderDefaultModelFallback]
  constructor
  · intro found
    split at found
    next auth vk selected authenticated policy implicit =>
      split at found
      next => cases found
      next parsed cut =>
        split at found
        next => cases found
        next => cases found
        next model chosen =>
          split at found
          next => cases found
          next different =>
            have sent : fallbackRequest env arrival model = .ok provider := by
              cases request : fallbackRequest env arrival model with
              | error error => rw [request] at found; cases found
              | ok other => rw [request] at found; cases found; rfl
            exact ⟨model, ⟨by rw [authenticated]; rfl, vk, selected, parsed, policy, implicit, cut, chosen,
              Bool.eq_false_iff.mpr different⟩, (fallbackRequest_iff env arrival model provider).mp sent⟩
    next => cases found
  · intro ⟨model, ⟨authenticated, vk, selected, parsed, policy, implicit, cut, chosen, different⟩, sendable⟩
    obtain ⟨auth, authenticated⟩ := Option.isSome_iff_exists.mp authenticated
    have sent := (fallbackRequest_iff env arrival model provider).mpr sendable
    simp only [authenticated, policy, implicit, cut, chosen, different, sent]
    rfl

theorem shouldAttempt_iff (answers : Nat → Answer) :
    shouldAttemptCrossProviderDefaultModelFallback env arrival
        (retryWithResult Answer.syncDispatchResultIsRetryable answers
          ((getRetryConfig env arrival.requestKind).getD 0) 0).2 = true ↔
      arrival.requestKind = .unifiedApi ∧ unifiedChatCompletionsPath arrival.path.text = true ∧
        arrival.implicit.isSome = true ∧ ∃ retries, env.maxRetries = some retries ∧ 0 < retries ∧
          ∀ attempt ≤ retries, (answers attempt).syncDispatchResultIsRetryable = true := by
  have failed := retryWithResult_retryable_iff Answer.syncDispatchResultIsRetryable answers
    ((getRetryConfig env arrival.requestKind).getD 0) 0
  simp only [Nat.zero_add] at failed
  rw [shouldAttemptCrossProviderDefaultModelFallback]
  rw [Bool.and_eq_true, failed]
  by_cases unified : arrival.requestKind = .unifiedApi
  · have config : getRetryConfig env arrival.requestKind = env.maxRetries := by rw [unified]; rfl
    rw [config]
    cases env.maxRetries with
    | none => simp
    | some retries =>
      simp only [Option.any_some, Option.getD_some, Option.some.injEq, exists_eq_left', Bool.and_eq_true,
        decide_eq_true_eq, beq_iff_eq]
      tauto
  · simp [unified]

private theorem mem_attempts (retryable : Answer → Bool) (answers : Nat → Answer) (backoff : Nat)
    (provider target : InferenceProvider) :
    provider ∈ List.replicate (retryWithResult retryable answers backoff 0).1 target ↔ provider = target := by
  have attempted := retryWithResult_attempted retryable answers backoff 0
  rw [List.mem_replicate]
  exact ⟨fun found => found.2, fun same => ⟨by omega, same⟩⟩

theorem mem_stream_sends (answers : Nat → Answer) (provider : InferenceProvider) :
    provider ∈ (dispatchStreamWithRetry env arrival answers).sends ↔ provider = providerForAllowlist arrival :=
  mem_attempts _ _ _ _ _

theorem mem_sync_sends (answers : Nat → Answer) (fallbackAnswer : Answer) (provider : InferenceProvider)
    (whole : arrival.isStream = false) :
    provider ∈ (dispatchSyncWithRetry env arrival answers fallbackAnswer).sends ↔
      provider = providerForAllowlist arrival ∨ FallsBack env arrival answers provider := by
  have attempts := mem_attempts Answer.syncDispatchResultIsRetryable answers
    ((getRetryConfig env arrival.requestKind).getD 0) provider (providerForAllowlist arrival)
  rw [dispatchSyncWithRetry]
  dsimp only
  split
  next attempted =>
    obtain ⟨unified, chat, _, failed⟩ := (shouldAttempt_iff env arrival answers).mp attempted
    split
    next target found =>
      rw [List.mem_append, attempts, List.mem_singleton]
      apply or_congr_right
      constructor
      · intro same
        subst same
        exact ⟨whole, unified, chat, failed, (tryCrossProviderDefaultModelFallback_iff env arrival provider).mp found⟩
      · intro falls
        rw [(tryCrossProviderDefaultModelFallback_iff env arrival provider).mpr falls.target] at found
        cases found
        rfl
    next missing =>
      rw [attempts, or_iff_left]
      intro falls
      rw [(tryCrossProviderDefaultModelFallback_iff env arrival provider).mpr falls.target] at missing
      cases missing
    next error refused =>
      rw [attempts, or_iff_left]
      intro falls
      rw [(tryCrossProviderDefaultModelFallback_iff env arrival provider).mpr falls.target] at refused
      cases refused
  next unattempted =>
    rw [attempts, or_iff_left]
    intro falls
    obtain ⟨_, ⟨_, _, selected, _, _, implicit, _⟩, _⟩ := falls.target
    exact unattempted ((shouldAttempt_iff env arrival answers).mpr
      ⟨falls.unified, falls.chat, by rw [implicit]; rfl, falls.failed⟩)

/-- What a dispatch sends, read off its checks and its answers. -/
theorem mem_dispatch_sends (answers : Nat → Answer) (fallbackAnswer : Answer) (provider : InferenceProvider) :
    provider ∈ (dispatch env arrival answers fallbackAnswer).sends ↔
      Forwarded env arrival ∧ (provider = providerForAllowlist arrival ∨ FallsBack env arrival answers provider) := by
  rw [dispatch]
  split
  next error refused =>
    simp only [List.not_mem_nil, false_iff, not_and]
    intro forwarded
    rw [forwarded.checks] at refused
    cases refused
  next early _ answered =>
    simp only [List.not_mem_nil, false_iff, not_and]
    intro forwarded
    rw [forwarded.unanswered] at answered
    cases answered
  next error _ _ refused =>
    simp only [List.not_mem_nil, false_iff, not_and]
    intro forwarded
    rw [forwarded.admitted] at refused
    cases refused
  next checks unanswered admitted =>
    have forwarded : Forwarded env arrival := ⟨checks, unanswered, admitted⟩
    simp only [forwarded, true_and]
    split
    next streamed =>
      rw [mem_stream_sends, or_iff_left]
      intro falls
      rw [falls.whole] at streamed
      cases streamed
    next whole => exact mem_sync_sends env arrival answers fallbackAnswer provider (Bool.eq_false_iff.mpr whole)

end Sends

section Lists
variable {Price Body : Type} (env : Environment Price Body)

/-- The list of a master key holds whatever is resolved against it. -/
theorem resolved_listed {chrono : Chrono} {compat : Bool} {compatFallback provider : InferenceProvider} {model : String}
    {list : List InferenceProvider} (nonempty : list ≠ [])
    (resolved : resolveUnifiedTargetProvider chrono compat compatFallback model (some list) = .ok provider) :
    provider ∈ list := by
  unfold resolveUnifiedTargetProvider at resolved
  dsimp only at resolved
  split at resolved
  next none => cases none
  next empty => exact absurd (Option.some.inj empty) nonempty
  next only single =>
    cases resolved
    rw [Option.some.inj single]
    exact List.mem_singleton_self _
  next several _ _ same =>
    split at resolved
    next => cases resolved
    next found _ =>
      split at resolved
      next member =>
        cases resolved
        rw [Option.some.inj same]
        exact List.contains_iff_mem.mp member
      next => cases resolved

/-- A stack other than the resolved provider's own carries a custom key only. -/
theorem initProxy_ok {auth : Option AuthContext} {provider stack : InferenceProvider}
    (carried : initProxy env auth provider = .ok stack) : stack = provider ∨ goesToMasterKey auth = true := by
  rw [initProxy] at carried
  split at carried
  next => cases carried; exact .inl rfl
  next =>
    split at carried
    next => cases carried
    next custom => exact .inr (by simpa using custom)

theorem custom_listed {auth : Option AuthContext} {list : List InferenceProvider} (custom : goesToMasterKey auth = true)
    (attached : auth.bind AuthContext.masterKeyAllowedProviders = some list) : .custom ∈ list := by
  cases auth with
  | none => cases attached
  | some auth =>
    have flagged : auth.isCustomProvider = true := by
      simp only [goesToMasterKey, Option.any_some, ModelPolicy.AuthContext.goesToMasterKey, Bool.and_eq_true] at custom
      exact custom.1
    exact auth.customListed flagged list attached

theorem providerForAllowlist_listed_iff {arrival : Arrival Body} {list : List InferenceProvider}
    (attached : arrival.auth.bind AuthContext.masterKeyAllowedProviders = some list) :
    providerForAllowlist arrival ∈ list ↔ goesToMasterKey arrival.auth = true ∨ arrival.provider ∈ list := by
  rw [providerForAllowlist]
  split
  next custom => exact iff_of_true (custom_listed custom attached) (.inl custom)
  next own => rw [or_iff_right own]

/-- What the unified API hands to a dispatcher is for a provider of the list. -/
theorem unifiedApi_ok {request : UnifiedRequest Body} {arrival : Arrival Body}
    (done : unifiedApi env request = .ok arrival) :
    arrival.requestKind = .unifiedApi ∧
      ∀ list, request.auth.bind AuthContext.masterKeyAllowedProviders = some list → list ≠ [] →
        providerForAllowlist arrival ∈ list := by
  obtain ⟨api, _, done⟩ := bind_ok done
  obtain ⟨⟨body, implicit⟩, _, done⟩ := bind_ok done
  obtain ⟨model, _, done⟩ := bind_ok done
  obtain ⟨_, _, done⟩ := bind_ok done
  obtain ⟨provider, resolved, done⟩ := bind_ok done
  obtain ⟨stack, carried, same⟩ := bind_ok done
  cases same
  refine ⟨rfl, ?_⟩
  intro list attached nonempty
  rw [attached] at resolved
  have listed := resolved_listed nonempty (mapError_ok_iff.mp resolved)
  apply (providerForAllowlist_listed_iff attached).mpr
  obtain rfl | custom := initProxy_ok env carried
  · exact .inr listed
  · exact .inl custom

/-- The first target is of the list when the unified API resolved it, when the key is a
custom one, and else when the proxy or the router was asked for a provider of the list. -/
theorem first_listed_iff {request : Request Body} {arrival : Arrival Body} {list : List InferenceProvider}
    (done : arrivalOf env request = .ok arrival)
    (attached : request.auth.bind AuthContext.masterKeyAllowedProviders = some list) (nonempty : list ≠ []) :
    providerForAllowlist arrival ∈ list ↔
      arrival.requestKind = .unifiedApi ∨ goesToMasterKey arrival.auth = true ∨ arrival.provider ∈ list := by
  cases request with
  | unified request =>
    obtain ⟨unified, listed⟩ := unifiedApi_ok env done
    exact iff_of_true (listed list attached nonempty) (.inl unified)
  | proxied other proxied =>
    cases done
    rw [or_iff_right proxied]
    exact providerForAllowlist_listed_iff attached

/-- The list of a master key is kept exactly when no fallback goes out for a model of
another provider and, for requests that the unified API has not resolved, when the
provider they were sent for is in it. -/
theorem dispatches_listed_iff (request : Request Body) (answers : Nat → Answer) (fallbackAnswer : Answer) :
    Respects request.auth (handle env request answers fallbackAnswer).sends ↔
      ∀ arrival, arrivalOf env request = .ok arrival → Forwarded env arrival →
        ∀ list, request.auth.bind AuthContext.masterKeyAllowedProviders = some list → list ≠ [] →
          (arrival.requestKind = .unifiedApi ∨ goesToMasterKey arrival.auth = true ∨ arrival.provider ∈ list) ∧
            ∀ provider, FallsBack env arrival answers provider → provider ∈ list := by
  rw [handle]
  cases done : arrivalOf env request with
  | error error => simp [Respects]
  | ok arrival =>
    constructor
    · intro respects other same forwarded list attached nonempty
      cases same
      have listed := respects list attached nonempty
      refine ⟨(first_listed_iff env done attached nonempty).mp ?_, ?_⟩
      · apply listed
        exact (mem_dispatch_sends env arrival answers fallbackAnswer _).mpr ⟨forwarded, .inl rfl⟩
      · intro provider falls
        apply listed
        exact (mem_dispatch_sends env arrival answers fallbackAnswer _).mpr ⟨forwarded, .inr falls⟩
    · intro kept list attached nonempty provider sent
      obtain ⟨forwarded, reached⟩ := (mem_dispatch_sends env arrival answers fallbackAnswer provider).mp sent
      obtain ⟨first, fallback⟩ := kept arrival rfl forwarded list attached nonempty
      obtain rfl | falls := reached
      · exact (first_listed_iff env done attached nonempty).mpr first
      · exact fallback provider falls

end Lists

/-! A key for OpenAI, a policy that also names a model of Ollama, and no model in the
request: when OpenAI fails twice, the request goes to Ollama, which takes no key. -/

def chatInfo (prompt : UInt64) : Json :=
  .object [("model_interaction_type", .string "chat"), ("prompt", .number (.posInt prompt))]

/-- Whole prices. -/
def wholePricing : Pricing Nat where
  priceSumFromInfo info := (((info.get "prompt").bind Json.asU64).getD 0).toNat
  zero := 0
  nearlyGreatest prices price := prices.all (· ≤ price)

/-- A body is its model. -/
def modelBodies : Bodies (Option String) where
  transform body := .ok body
  modelField body := body
  setModel _ model := .ok (some model)
  responsesShaped _ := false
  typedModel _ body := match body with
    | some model => .ok model
    | none => .error .missingModelId

def openAiKey : DecryptedMasterKey := ⟨[115, 107], .openAI, none, 0⟩

def twoProviders : Environment Nat (Option String) where
  chrono := ⟨fun _ _ => none, fun _ _ => [], 2025⟩
  toLowercase := ModelPolicy.asciiLowercase
  pricing := wholePricing
  catalogue := {
    connected := true
    policyModels := .ok []
    rows := .ok [⟨"openai", "gpt-4o", some (chatInfo 5)⟩, ⟨"ollama", "llama3", some (chatInfo 0)⟩]
    lower := ModelPolicy.asciiLowercase
    index := [] }
  compatMode := false
  directProxies _ := true
  workspaceAllowlist := []
  bodies := modelBodies
  masterKeys := ⟨true, fun _ => .ok openAiKey, fun _ _ => .ok [], 0, false⟩
  providerKeys := ⟨fun _ => false, fun _ => false, false, false⟩
  maxRetries := some 1
  hasTarget _ _ := true
  builds _ := true

def openAiOnly : AuthContext where
  isCustomProvider := false
  masterKeyBaseUrl := none
  orgId := 0
  masterKeyId := some 1
  masterKeyAllowedProviders := some [.openAI]
  customListed := by simp

example : AuthContext.ofMasterKey 0 1 (some openAiKey) = .ok openAiOnly := rfl

def noModelRequest : Request (Option String) :=
  .unified {
    path := ⟨"chat/completions".toList, none, by decide⟩
    auth := some openAiOnly
    vkPolicy := some ⟨some ["openai/gpt-4o", "ollama/llama3"], none⟩
    isStream := false
    body := none
    early := none }

theorem fallback_leaves_list :
    ¬ Respects noModelRequest.auth
      (handle twoProviders noModelRequest (fun _ => .response 502) (.response 200)).sends := by
  have sends : (handle twoProviders noModelRequest (fun _ => .response 502) (.response 200)).sends =
      [.openAI, .openAI, .ollama] := by decide +kernel
  intro respects
  have listed := respects [.openAI] rfl (by simp) .ollama (by rw [sends]; simp)
  simp at listed

end AiGateway.Dispatch
