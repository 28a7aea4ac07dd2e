import AiGateway.ModelPolicy

/-! What the query string of a proxied request can change. Prompt compression and the
fallback to another model look at the path; the check of the virtual key's policy looks at
the whole of it, query included. -/

namespace AiGateway.ModelPolicy

open Lib.Splits

namespace PathAndQuery
variable (value : PathAndQuery)

theorem chatCompletions_plain : '?' ∉ chatCompletions := by decide

theorem endsWith_text_of_query {query : List Char} (found : value.query = some query) :
    endsWith value.text chatCompletions = endsWith query chatCompletions := by
  have nonempty : (value.pathText ++ '?' :: query).isEmpty = false := by simp
  have text : value.text = value.pathText ++ '?' :: query := by
    rw [PathAndQuery.text, found]
    simp only [asStr, nonempty, Bool.false_eq_true, if_false]
  rw [text, endsWith, endsWith, Bool.eq_iff_iff, List.isSuffixOf_iff_suffix, List.isSuffixOf_iff_suffix]
  exact suffix_append_cons_iff chatCompletions_plain

theorem text_withoutQuery : value.withoutQuery.text = value.path := rfl

theorem unifiedChatCompletionsPath_text :
    unifiedChatCompletionsPath value.text = unifiedChatCompletionsPath value.withoutQuery.text := by
  cases found : value.query with
  | none => rw [PathAndQuery.text, PathAndQuery.text, found, withoutQuery]
  | some query =>
    have keeps : ∀ c ∈ value.pathText, (c != '?') = true := by
      intro c member
      simpa using fun same : c = '?' => value.cut (same ▸ member)
    have nonempty : (value.pathText ++ '?' :: query).isEmpty = false := by simp
    have first : value.text.takeWhile (· != '?') = value.pathText := by
      rw [PathAndQuery.text, found]
      simp only [asStr, nonempty, Bool.false_eq_true, if_false]
      simp [List.takeWhile_append_of_pos keeps]
    rw [text_withoutQuery, unifiedChatCompletionsPath, unifiedChatCompletionsPath, first, PathAndQuery.path]
    cases empty : value.pathText with
    | nil => decide
    | cons c rest =>
      rw [empty] at keeps
      simp [List.takeWhile_eq_self_iff.mpr keeps]

end PathAndQuery

section Decisions
variable {Body : Type} (toLowercase : String → String) (bodies : ChatBodies Body) (request : DirectRequest Body)

def DirectRequest.withoutQuery : DirectRequest Body :=
  { request with extractedPathAndQuery := request.extractedPathAndQuery.withoutQuery }

/-- The check gets as far as the path. -/
def DirectRequest.inspected : Bool :=
  !request.policyModelOverride && !request.authCtx.any AuthContext.goesToMasterKey && isDirect request.requestKind &&
    request.provider == .openAI

/-- What the check says of a chat completion's body. -/
def chatVerdict (body : Body) : Except ApiError Unit :=
  match bodies.model body with
  | .error message => .error (.invalidRequestBody message)
  | .ok model => checkModelAccess toLowercase request.vkPolicy model

/-- The query ends like a chat completion's path exactly when the path does. -/
def DirectRequest.QueryEndsLikePath : Prop :=
  ∀ query, request.extractedPathAndQuery.query = some query →
    endsWith query chatCompletions = endsWith request.extractedPathAndQuery.path chatCompletions

/-- The body cannot be compressed, or it is one that the policy permits. -/
def DirectRequest.Permitted : Prop :=
  ∀ body, compressed bodies request = .ok body → chatVerdict toLowercase bodies request body = .ok ()

variable {request}

theorem enforce_inspected (inspected : request.inspected = true) (text : List Char) (body : Body) :
    enforceDirectProxyVkModelPolicy toLowercase bodies request text body =
      if endsWith text chatCompletions then chatVerdict toLowercase bodies request body else .ok () := by
  simp only [DirectRequest.inspected, Bool.and_eq_true, Bool.not_eq_true', beq_iff_eq] at inspected
  obtain ⟨⟨⟨override, master⟩, direct⟩, provider⟩ := inspected
  rw [enforceDirectProxyVkModelPolicy, override, master, direct, provider]
  cases endsWith text chatCompletions <;> rfl

theorem enforce_not_inspected (passed : request.inspected = false) (text : List Char) (body : Body) :
    enforceDirectProxyVkModelPolicy toLowercase bodies request text body = .ok () := by
  rw [enforceDirectProxyVkModelPolicy]
  split
  · rfl
  next override =>
    split
    · rfl
    next master =>
      split
      · rfl
      next direct =>
        split
        · rfl
        next provider => simp_all [DirectRequest.inspected]

/-- Whether the check looks at the body, with the query and without it. -/
theorem endsWith_text_iff : request.QueryEndsLikePath ↔
    endsWith request.extractedPathAndQuery.text chatCompletions =
      endsWith request.extractedPathAndQuery.path chatCompletions := by
  constructor
  · intro alike
    cases found : request.extractedPathAndQuery.query with
    | none => rw [PathAndQuery.text, found]; rfl
    | some query =>
      rw [request.extractedPathAndQuery.endsWith_text_of_query found]
      exact alike query found
  · intro same query found
    rw [← same, request.extractedPathAndQuery.endsWith_text_of_query found]

/-- What is sent upstream, or the refusal, once the body is compressed. -/
theorem dispatchBody_compressed {body : Body} (done : compressed bodies request = .ok body) :
    dispatchBody toLowercase bodies request =
      (enforceDirectProxyVkModelPolicy toLowercase bodies request request.extractedPathAndQuery.text body).map fun _ => body := by
  simp only [dispatchBody, done]
  cases enforceDirectProxyVkModelPolicy toLowercase bodies request request.extractedPathAndQuery.text body with
  | error => rfl
  | ok => rfl

theorem dispatchBody_uncompressed {error : ApiError} (failed : compressed bodies request = .error error) :
    dispatchBody toLowercase bodies request = .error error := by
  simp only [dispatchBody, failed]

theorem permitted_iff {body : Body} (done : compressed bodies request = .ok body) :
    request.Permitted toLowercase bodies ↔ chatVerdict toLowercase bodies request body = .ok () := by
  constructor
  · exact fun permitted => permitted body done
  · intro allowed other same
    cases done.symm.trans same
    exact allowed

theorem dispatchBody_withoutQuery_iff :
    dispatchBody toLowercase bodies request = dispatchBody toLowercase bodies request.withoutQuery ↔
      request.inspected = false ∨ request.QueryEndsLikePath ∨ request.Permitted toLowercase bodies := by
  cases done : compressed bodies request with
  | error error =>
    have failedToo : compressed bodies request.withoutQuery = .error error := done
    rw [dispatchBody_uncompressed toLowercase bodies done, dispatchBody_uncompressed toLowercase bodies failedToo]
    refine iff_of_true rfl (.inr (.inr ?_))
    intro body same
    cases done.symm.trans same
  | ok body =>
    have doneToo : compressed bodies request.withoutQuery = .ok body := done
    rw [dispatchBody_compressed toLowercase bodies done, dispatchBody_compressed toLowercase bodies doneToo]
    cases inspected : request.inspected with
    | false =>
      have passed : request.withoutQuery.inspected = false := inspected
      rw [enforce_not_inspected toLowercase bodies inspected, enforce_not_inspected toLowercase bodies passed]
      exact iff_of_true rfl (.inl rfl)
    | true =>
      have inspectedToo : request.withoutQuery.inspected = true := inspected
      have verdictToo : chatVerdict toLowercase bodies request.withoutQuery body = chatVerdict toLowercase bodies request body := rfl
      have textToo : request.withoutQuery.extractedPathAndQuery.text = request.extractedPathAndQuery.path := rfl
      rw [enforce_inspected toLowercase bodies inspected, enforce_inspected toLowercase bodies inspectedToo, verdictToo,
        textToo, endsWith_text_iff, permitted_iff toLowercase bodies done]
      -- the check looks at the body in one case only: it must let it pass
      generalize endsWith request.extractedPathAndQuery.text chatCompletions = withQuery
      generalize endsWith request.extractedPathAndQuery.path chatCompletions = withoutQuery
      cases chatVerdict toLowercase bodies request body <;> cases withQuery <;> cases withoutQuery <;> simp [Except.map]

/-- A proxied request is decided as it would be without its query exactly when the check
does not get as far as its path, when its query and its path both end like a chat
completion's path or both do not, or when its body is permitted. -/
theorem query_ignored_iff (request : DirectRequest Body) :
    (dispatchBody toLowercase bodies request = dispatchBody toLowercase bodies request.withoutQuery ∧
      ∀ exhausted retryable, shouldAttemptCrossProviderDefaultModelFallback exhausted request retryable =
        shouldAttemptCrossProviderDefaultModelFallback exhausted request.withoutQuery retryable) ↔
      request.inspected = false ∨ request.QueryEndsLikePath ∨ request.Permitted toLowercase bodies := by
  rw [dispatchBody_withoutQuery_iff]
  apply and_iff_left
  intro exhausted retryable
  simp only [shouldAttemptCrossProviderDefaultModelFallback, DirectRequest.withoutQuery,
    request.extractedPathAndQuery.unifiedChatCompletionsPath_text]

end Decisions

/-- A body of which only the model matters, and which compression leaves alone. -/
def plainBodies : ChatBodies String := ⟨.ok, fun _ body => .ok body⟩

def blockedChat : DirectRequest String where
  policyModelOverride := false
  authCtx := none
  vkPolicy := some ⟨none, some ["gpt-4"]⟩
  requestKind := .directProxy
  provider := .openAI
  extractedPathAndQuery := ⟨"/v1/chat/completions".toList, some "x=1".toList, by decide⟩
  body := "gpt-4"
  implicitModelFallback := false

/-- A blocked model is refused on the plain path, and passes with any query that does not
end like it. -/
theorem query_passes_block :
    ¬ ∀ request : DirectRequest String, dispatchBody asciiLowercase plainBodies request =
      dispatchBody asciiLowercase plainBodies request.withoutQuery := by
  intro ignored
  exact absurd (ignored blockedChat) (by decide)

end AiGateway.ModelPolicy
