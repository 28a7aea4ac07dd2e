import AiGateway.MapperRequests
import AiGateway.Proofs.CompressedPrompts
import AiGateway.Proofs.PreparedRequests

/-! Mapped requests. Whatever the mapper hands to a converter names a model that the key may ask
for, or the one that the policy service has put in its place. -/

namespace AiGateway.MapperRequests

open Lib.Runs
open ContentFilter (Bytes FilterAuth applyModelDowngrade evaluateForVkRequest mergePromptCacheMessagesIntoBody setModel)
open MapperRules
open ModelPolicy (PathAndQuery checkModelAccess)
open ModelSupport (JsonLibrary)

variable {Fields Rest : Type} {env : Environment Fields Rest}

section Models
variable (env : Environment Fields Rest)

/-- The model that an endpoint's body names to serde. -/
def modelNamed (source : ApiEndpoint) (body : Bytes) : Option String :=
  match source with
  | .openAI .chatCompletions => (env.typed.chat body).toOption.map fun request => request.model
  | .openAI .imageGenerations => (env.typed.image body).toOption.join
  | _ => (env.typed.model source body).toOption

/-- What is relied on of the JSON libraries: a model that is written is read again as it was, and
serde's reading of a body is one of the JSON that stands there. -/
structure Faithful : Prop where
  rereads : ∀ value again, env.templating.json.fromSlice (env.templating.json.toVec value) = some again →
    again.getStr "model" = value.getStr "model"
  chatRereads : ∀ request again, env.typed.chat (env.typed.chatText request) = .ok again → again.model = request.model
  typed : ∀ source body model, modelNamed env source body = some model →
    ∃ value, env.templating.json.fromSlice body = some value ∧ value.getStr "model" = some model

end Models

/-! ## The model the policy chose -/

section Chosen
variable {json : JsonLibrary} {chosen : String}

/-- If the body is JSON at all, its model is the chosen one. -/
def Chosen (json : JsonLibrary) (chosen : String) (body : Bytes) : Prop :=
  ∀ value, json.fromSlice body = some value → value.getStr "model" = some chosen

theorem getStr_setModel {value after : Json} (written : setModel value chosen = .ok after) :
    after.getStr "model" = some chosen := by
  cases value with
  | object members =>
    cases written
    have absent : List.lookup "model" (members.filter fun member => member.1 ≠ "model") = none := by
      rw [List.lookup_eq_none_iff]
      intro member kept
      have different : member.1 ≠ "model" := by simpa using (List.mem_filter.mp kept).2
      simpa using Ne.symm different
    simp only [Json.getStr, Json.get, List.lookup_append, absent, Option.none_or]
    rfl
  | null =>
    cases written
    rfl
  | bool _ | number _ | string _ | array _ => cases written

theorem chosen_of_downgrade (rereads : ∀ value again, json.fromSlice (json.toVec value) = some again →
      again.getStr "model" = value.getStr "model")
    {before body : Bytes} (written : applyModelDowngrade json before chosen = .ok body) : Chosen json chosen body := by
  unfold applyModelDowngrade at written
  cases read : json.fromSlice before with
  | none =>
    rw [read] at written
    cases written
    intro value found
    rw [read] at found
    cases found
  | some value =>
    rw [read] at written
    obtain ⟨after, set, rfl⟩ := map_ok written
    intro again found
    rw [rereads after again found, getStr_setModel set]

end Chosen

/-! ## The stages -/

/-- The policy service, asked about the body with its cached prompt, wants another model. -/
def ChosenByPolicy (env : Environment Fields Rest) (parts : Parts) (body : Bytes) (chosen : String) : Prop :=
  ∃ merged headerLog result,
    mergePromptCacheMessagesIntoBody env.templating env.filter.redis parts.headers
      ((parts.auth.map FilterAuth.orgId).getD "") body = .ok (merged, headerLog) ∧
    evaluateForVkRequest env.filter parts.auth merged = .ok result ∧ result.changeModel = some chosen

section Stages
variable {source target : ApiEndpoint} {parts after : Parts} {body text : Bytes}

/-- The extensions that the model's check depends on. -/
structure SameChecks (parts after : Parts) : Prop where
  vkPolicy : after.vkPolicy = parts.vkPolicy
  passthrough : after.masterKeyUnifiedModelPassthrough = parts.masterKeyUnifiedModelPassthrough

/-- The policy service leaves the model alone, or notes the one it chose and writes it. -/
theorem filterRequest_ok (faithful : Faithful env) (done : filterRequest env parts body = .ok (after, text)) :
    SameChecks parts after ∧
      (after.policyModelOverride = parts.policyModelOverride ∨
        ∃ chosen, after.policyModelOverride = some chosen ∧ ChosenByPolicy env parts body chosen ∧
          Chosen env.templating.json chosen text) := by
  obtain ⟨⟨merged, headerLog⟩, merges, done⟩ := bind_ok done
  obtain ⟨result, evaluates, done⟩ := bind_ok done
  cases change : result.changeModel with
  | none =>
    simp only [change] at done
    cases done
    exact ⟨⟨rfl, rfl⟩, .inl rfl⟩
  | some chosen =>
    simp only [change] at done
    obtain ⟨written, downgraded, done⟩ := bind_ok done
    cases done
    have asked : ChosenByPolicy env parts body chosen :=
      ⟨merged, headerLog, result, mapError_ok_iff.mp merges, mapError_ok_iff.mp evaluates, change⟩
    exact ⟨⟨rfl, rfl⟩, .inr ⟨chosen, rfl, asked, chosen_of_downgrade faithful.rereads (mapError_ok_iff.mp downgraded)⟩⟩

theorem readJson_ok {json : JsonLibrary} {value : Json} (read : readJson json body = .ok value) :
    json.fromSlice body = some value := by
  unfold readJson at read
  cases found : json.fromSlice body with
  | none =>
    rw [found] at read
    cases read
  | some other =>
    rw [found] at read
    cases read
    rfl

/-- Compression rewrites texts, and no model. -/
theorem compressRequest_ok (faithful : Faithful env) (done : compressRequest env source target parts body = .ok (after, text)) :
    SameChecks parts after ∧ after.policyModelOverride = parts.policyModelOverride ∧
      ∀ chosen, Chosen env.templating.json chosen body → Chosen env.templating.json chosen text := by
  unfold compressRequest at done
  split at done
  · rcases PromptCompression.applyChatCompletions_cases (readJson env.templating.json) env.templating.json.toVec
        env.estimateInputTokens ⟨parts.headers, parts.tokenPair⟩ body target.provider with
      ⟨error, _, refused⟩ | kept | ⟨raw, items, _, _, _, _, read, _, _, _, _, _, rewritten⟩
    · simp only [refused] at done
      cases done
    · simp only [kept] at done
      cases done
      exact ⟨⟨rfl, rfl⟩, rfl, fun _ names => names⟩
    · simp only [rewritten] at done
      cases done
      refine ⟨⟨rfl, rfl⟩, rfl, fun chosen names value found => ?_⟩
      rw [faithful.rereads _ value found, Json.getStr, PromptCompression.compressed, Json.get_modify_ne (by decide)]
      exact names raw (readJson_ok read)
  · cases done
    exact ⟨⟨rfl, rfl⟩, rfl, fun _ names => names⟩

theorem deserialized_ok {α : Type} {read : Except String α} {value : α} (done : deserialized read = .ok value) :
    read = .ok value := mapError_ok_iff.mp done

/-- What passes the check names a model that the key may use, unless the policy has chosen one. -/
theorem enforce_ok {endpoint : OpenAI} (unmarked : parts.policyModelOverride = none)
    (done : enforceVkModelPolicyForSourceEndpoint env parts (.openAI endpoint) body = .ok ()) {model : String}
    (named : modelNamed env (.openAI endpoint) body = some model) :
    checkModelAccess env.toLowercase parts.vkPolicy model = .ok () := by
  unfold enforceVkModelPolicyForSourceEndpoint at done
  rw [unmarked] at done
  cases endpoint with
  | chatCompletions =>
    obtain ⟨request, read, allowed⟩ := bind_ok done
    rw [modelNamed, deserialized_ok read] at named
    cases named
    exact mapError_ok_iff.mp allowed
  | imageGenerations =>
    obtain ⟨name, read, allowed⟩ := bind_ok done
    rw [modelNamed, deserialized_ok read] at named
    cases name with
    | none => cases named
    | some name =>
      cases named
      exact mapError_ok_iff.mp allowed
  | completions | embeddings | responses =>
    obtain ⟨name, read, allowed⟩ := bind_ok done
    unfold modelNamed at named
    dsimp only at named
    rw [deserialized_ok read] at named
    cases named
    exact mapError_ok_iff.mp allowed

/-- A chat request that can be read is prepared; other bodies stay as they are. -/
theorem prepared_ok {envelope prepared : Option (RequestEnvelope Rest)}
    (enveloped : requestEnvelope env source target body = .ok envelope)
    (done : prepareRequest env envelope body = .ok (text, prepared)) :
    (source = .openAI .chatCompletions ∧ ∃ request, env.typed.chat body = .ok request ∧
        text = env.typed.chatText (preparedFor target.provider request)) ∨
      (source ≠ .openAI .chatCompletions ∧ text = body) := by
  by_cases chat : source = .openAI .chatCompletions
  · subst chat
    obtain ⟨request, read, enveloped⟩ := bind_ok enveloped
    obtain ⟨metadata, after, resolved, prepares, same⟩ :=
      embedded_prepares env.chrono (.openAI .chatCompletions) target.provider request
    have attached : resolveMapperMetadata (RequestEnvelope.fromOpenaiChatRequest env.chrono (.openAI .chatCompletions)
        target.provider request).targetProvider (some (RequestEnvelope.fromOpenaiChatRequest env.chrono
        (.openAI .chatCompletions) target.provider request).rawModel) = .ok metadata := resolved
    simp only [attached] at enveloped
    cases enveloped
    obtain ⟨found, prepared, done⟩ := bind_ok done
    rw [prepares] at prepared
    cases prepared
    cases done
    exact .inl ⟨rfl, request, deserialized_ok read, by rw [same]⟩
  · have bare : requestEnvelope env source target body = .ok none := by
      unfold requestEnvelope
      split
      · exact absurd rfl chat
      · rfl
    rw [bare] at enveloped
    cases enveloped
    cases done
    exact .inr ⟨chat, rfl⟩

end Stages

/-! ## The request -/

section Request
variable {source target : ApiEndpoint} {targetPathAndQuery : PathAndQuery} {parts : Parts} {body checked text : Bytes}
  {mapped : Mapped Rest}

/-- This is what the filter and the compression leave of the body, and the check of the model has
found it in order. -/
def PassedCheck (env : Environment Fields Rest) (source target : ApiEndpoint) (parts : Parts) (body checked : Bytes) :
    Prop :=
  ∃ filtered filteredBody after, filterRequest env parts body = .ok (filtered, filteredBody) ∧
    compressRequest env source target filtered filteredBody = .ok (after, checked) ∧
    enforceVkModelPolicyForSourceEndpoint env after source checked = .ok ()

/-- What the converter of a mapped request was given, and what had been checked of it. -/
structure Handed (env : Environment Fields Rest) (source : ApiEndpoint) (parts : Parts) (body : Bytes)
    (mapped : Mapped Rest) (checked text : Bytes) : Prop where
  converted : ∃ converter mapperCtx, env.converter source mapped.targetEndpoint = some converter ∧
    converter text = .ok (mapped.body, mapperCtx)
  passed : PassedCheck env source mapped.targetEndpoint parts body checked
  prepared : (source = .openAI .chatCompletions ∧ ∃ request, env.typed.chat checked = .ok request ∧
      text = env.typed.chatText (preparedFor mapped.targetEndpoint.provider request)) ∨
    (source ≠ .openAI .chatCompletions ∧ text = checked)
  decided : ∃ after, after.vkPolicy = parts.vkPolicy ∧
    after.policyModelOverride = mapped.parts.policyModelOverride ∧
    enforceVkModelPolicyForSourceEndpoint env after source checked = .ok () ∧
    (after.policyModelOverride = parts.policyModelOverride ∨
      ∃ chosen, after.policyModelOverride = some chosen ∧ ChosenByPolicy env parts body chosen ∧
        Chosen env.templating.json chosen checked)

/-- The stages in their order: the check looks at the body that is then prepared and converted. -/
theorem mapRequest_ok (faithful : Faithful env) (keyed : parts.masterKeyUnifiedModelPassthrough = false)
    (done : mapRequest env source target targetPathAndQuery parts body = .ok mapped) :
    ∃ checked text, Handed env source parts body mapped checked text := by
  obtain ⟨⟨filtered, filteredBody⟩, first, done⟩ := bind_ok done
  obtain ⟨⟨after, checked⟩, second, done⟩ := bind_ok done
  obtain ⟨same, chosen⟩ := filterRequest_ok faithful first
  obtain ⟨kept, marked, still⟩ := compressRequest_ok faithful second
  have asked : after.masterKeyUnifiedModelPassthrough = false := by rw [kept.passthrough, same.passthrough, keyed]
  cases registered : env.converter source target with
  | none =>
    simp only [registered] at done
    cases done
  | some converter =>
    simp only [registered, asked] at done
    obtain ⟨_, enforced, done⟩ := bind_ok done
    obtain ⟨envelope, enveloped, done⟩ := bind_ok done
    obtain ⟨⟨text, prepared⟩, prepares, done⟩ := bind_ok done
    obtain ⟨⟨result, mapperCtx⟩, converts, done⟩ := bind_ok done
    obtain ⟨pathAndQuery, _, done⟩ := bind_ok done
    cases done
    refine ⟨checked, text, ⟨converter, mapperCtx, registered, converts⟩,
      ⟨filtered, filteredBody, after, first, second, enforced⟩, prepared_ok enveloped prepares, after, kept.vkPolicy.trans same.vkPolicy, rfl, enforced, ?_⟩
    rcases chosen with unmarked | ⟨chosen, noted, wanted, names⟩
    · exact .inl (marked.trans unmarked)
    · exact .inr ⟨chosen, marked.trans noted, wanted, still chosen names⟩

/-- Preparing a request renames nothing. -/
theorem Handed.model (handed : Handed env source parts body mapped checked text) (faithful : Faithful env) {model : String}
    (named : modelNamed env source text = some model) : modelNamed env source checked = some model := by
  rcases handed.prepared with ⟨rfl, request, read, rfl⟩ | ⟨_, rfl⟩
  · unfold modelNamed at named ⊢
    cases again : env.typed.chat (env.typed.chatText (preparedFor mapped.targetEndpoint.provider request)) with
    | error message =>
      rw [again] at named
      cases named
    | ok other =>
      rw [again] at named
      cases named
      rw [read]
      show some request.model = some other.model
      rw [faithful.chatRereads _ other again, preparedFor_model]
  · exact named

/-- The model that goes on was allowed by the key, or chosen by the policy. -/
theorem Handed.allowed {endpoint : OpenAI} (handed : Handed env (.openAI endpoint) parts body mapped checked text)
    (faithful : Faithful env) (unmarked : parts.policyModelOverride = none) {model : String}
    (named : modelNamed env (.openAI endpoint) text = some model) :
    match mapped.parts.policyModelOverride with
    | none => checkModelAccess env.toLowercase parts.vkPolicy model = .ok ()
    | some chosen => model = chosen ∧ ChosenByPolicy env parts body chosen := by
  have before := handed.model faithful named
  obtain ⟨after, samePolicy, sameMark, enforced, whence⟩ := handed.decided
  rw [← sameMark]
  rcases whence with kept | ⟨chosen, noted, wanted, names⟩
  · rw [kept, unmarked, ← samePolicy]
    exact enforce_ok (kept.trans unmarked) enforced before
  · rw [noted]
    obtain ⟨value, read, found⟩ := faithful.typed _ checked model before
    exact ⟨Option.some.inj (found.symm.trans (names value read)), wanted⟩

theorem call_ok (done : call env parts body = .ok mapped) :
    ∃ endpoint target extracted, parts.apiEndpoint = some (.openAI endpoint) ∧
      mapRequest env (.openAI endpoint) target extracted { parts with pathAndQuery := none } body = .ok mapped := by
  unfold call at done
  cases provided : parts.inferenceProvider with
  | none =>
    rw [provided] at done
    cases done
  | some provider =>
    cases removed : parts.pathAndQuery with
    | none =>
      simp only [provided, removed] at done
      cases done
    | some extracted =>
      cases asked : parts.apiEndpoint with
      | none =>
        simp only [provided, removed, asked] at done
        cases done
      | some source =>
        simp only [provided, removed, asked] at done
        cases mapping : ApiEndpoint.mapped source (if parts.masterKeyUnifiedModelPassthrough then .custom else provider) with
        | error error =>
          simp only [mapping] at done
          cases done
        | ok target =>
          simp only [mapping] at done
          cases source with
          | openAI endpoint => exact ⟨endpoint, target, extracted, rfl, done⟩
          | _ => cases mapping

/-- What a key's request is converted from is the body that passed the check, prepared where it is
a chat request, and the model it names is one that the key may use, or the one that the policy service
wants there instead. -/
theorem mapped_model_allowed (faithful : Faithful env) (keyed : parts.masterKeyUnifiedModelPassthrough = false)
    (unmarked : parts.policyModelOverride = none) (done : call env parts body = .ok mapped) :
    ∃ endpoint converter checked text mapperCtx, parts.apiEndpoint = some (.openAI endpoint) ∧
      env.converter (.openAI endpoint) mapped.targetEndpoint = some converter ∧
      converter text = .ok (mapped.body, mapperCtx) ∧
      PassedCheck env (.openAI endpoint) mapped.targetEndpoint { parts with pathAndQuery := none } body checked ∧
      (endpoint = .chatCompletions → ∃ request, env.typed.chat checked = .ok request ∧
        text = env.typed.chatText (preparedFor mapped.targetEndpoint.provider request)) ∧
      (endpoint ≠ .chatCompletions → text = checked) ∧
      ∀ model, modelNamed env (.openAI endpoint) text = some model →
        match mapped.parts.policyModelOverride with
        | none => checkModelAccess env.toLowercase parts.vkPolicy model = .ok ()
        | some chosen => model = chosen ∧ ChosenByPolicy env parts body chosen := by
  obtain ⟨endpoint, target, extracted, asked, done⟩ := call_ok done
  have stages : ∃ checked text, Handed env (.openAI endpoint) { parts with pathAndQuery := none } body mapped checked text :=
    mapRequest_ok faithful keyed done
  obtain ⟨checked, text, handed⟩ := stages
  obtain ⟨converter, mapperCtx, registered, converts⟩ := handed.converted
  refine ⟨endpoint, converter, checked, text, mapperCtx, asked, registered, converts, handed.passed, ?_, ?_,
    fun model named => handed.allowed faithful unmarked named⟩
  · rintro rfl
    rcases handed.prepared with ⟨_, request, read, same⟩ | ⟨other, _⟩
    · exact ⟨request, read, same⟩
    · exact absurd rfl other
  · intro other
    rcases handed.prepared with ⟨chat, _⟩ | ⟨_, same⟩
    · cases chat
      exact absurd rfl other
    · exact same

end Request

section Ollama

/-- The key's request as it is sent, and what stands in it. -/
def cityText : Bytes :=
  "\x7b\"messages\":[\x7b\"role\":\"user\",\"content\":\"Which city?\"\x7d],\"model\":\"ollama/llama3\"\x7d".toList.map
    fun c => c.toNat.toUInt8

def cityMessage : List (String × Json) := [("role", .string "user"), ("content", .string "Which city?")]

def cityJson : Json := .object [("messages", .array [.object cityMessage]), ("model", .string "ollama/llama3")]

def cityRequest : ChatRequest Unit :=
  { jsonRequest with
    messages := [.user (.text "Which city?")]
    reasoningEffort := none
    tools := none
    toolChoice := none
    responseFormat := none
    parallelToolCalls := none }

def readCity (body : Bytes) : Except String (ChatRequest Unit) :=
  if body = cityText then .ok cityRequest else .error "missing field"

/-- The bytes of the request that Ollama is sent, where its model has no provider. -/
def printMapped (request : ChatRequest Unit) : Bytes :=
  if request.model = "llama3" then
    "\x7b\"messages\":[\x7b\"role\":\"user\",\"content\":\"Which city?\"\x7d],\"model\":\"llama3\"\x7d".toList.map
      fun c => c.toNat.toUInt8
  else []

def cityEnvironment : Environment Unit Unit where
  templating := {
    json := {
      fromSlice := fun body => if body = cityText then some cityJson else none
      toVec := fun value => if value.getStr "model" = some "ollama/llama3" then cityText else [] }
    fromStr := fun _ => none
    display := fun _ => ""
    applyPromptInputsToBody := .ok }
  filter := ⟨false, .allow, none, none, fun _ => ()⟩
  estimateInputTokens := fun _ _ _ => some 3
  toLowercase := ModelPolicy.asciiLowercase
  chrono := ⟨fun _ _ => none, fun _ _ => [], 2025⟩
  typed := {
    chat := readCity
    chatText := fun request => if request.model = "ollama/llama3" then cityText else []
    image := fun _ => .error "missing field"
    model := fun _ _ => .error "missing field" }
  converter := fun _ _ => some (typedConverter readCity (fun request => request.stream.getD false)
    (fun request => .ok { request with model := "llama3" }) (fun _ => .ok (.ollama ⟨"llama3", none⟩)) printMapped)
  http := ⟨some⟩

theorem chatPath_cut : '?' ∉ "v1/chat/completions".toList := by decide

def cityParts : Parts where
  headers := ⟨fun _ => none⟩
  auth := some ⟨"acme", some "vk"⟩
  vkPolicy := some ⟨some ["ollama/llama3"], some []⟩
  inferenceProvider := some .ollama
  apiEndpoint := some (.openAI .chatCompletions)
  pathAndQuery := some ⟨"v1/chat/completions".toList, none, chatPath_cut⟩
  masterKeyUnifiedModelPassthrough := false
  unifiedChatCompletionsResponsesBridge := false
  policyModelOverride := none
  promptHeader := none
  tokenPair := none

theorem cityText_ne_nil : cityText ≠ [] := by decide +kernel

theorem cityEnvironment_faithful : Faithful cityEnvironment where
  rereads := by
    intro value again read
    change (if (if value.getStr "model" = some "ollama/llama3" then cityText else []) = cityText then some cityJson
      else none) = some again at read
    by_cases named : value.getStr "model" = some "ollama/llama3"
    · rw [if_pos named, if_pos rfl] at read
      cases read
      rw [named]
      rfl
    · rw [if_neg named, if_neg cityText_ne_nil.symm] at read
      cases read
  chatRereads := by
    intro request again read
    change (if (if request.model = "ollama/llama3" then cityText else []) = cityText then Except.ok cityRequest
      else .error "missing field") = .ok again at read
    by_cases named : request.model = "ollama/llama3"
    · rw [if_pos named, if_pos rfl] at read
      cases read
      rw [named]
      rfl
    · rw [if_neg named, if_neg cityText_ne_nil.symm] at read
      cases read
  typed := by
    intro source body model named
    have city : body = cityText ∧ model = "ollama/llama3" := by
      unfold modelNamed at named
      split at named
      · change Option.map _ (if body = cityText then Except.ok cityRequest else .error "missing field").toOption = _ at named
        split at named
        · next same =>
          cases named
          exact ⟨same, rfl⟩
        · cases named
      · cases named
      · cases named
    obtain ⟨rfl, rfl⟩ := city
    have read : (if cityText = cityText then some cityJson else none) = some cityJson := if_pos rfl
    exact ⟨cityJson, read, by rfl⟩

theorem ollama_request_mapped :
    ∃ mapped, call cityEnvironment cityParts cityText = .ok mapped ∧
      ∃ endpoint converter checked text mapperCtx, cityParts.apiEndpoint = some (.openAI endpoint) ∧
        cityEnvironment.converter (.openAI endpoint) mapped.targetEndpoint = some converter ∧
        converter text = .ok (mapped.body, mapperCtx) ∧
        PassedCheck cityEnvironment (.openAI endpoint) mapped.targetEndpoint { cityParts with pathAndQuery := none } cityText
          checked ∧
        (endpoint = .chatCompletions → ∃ request, cityEnvironment.typed.chat checked = .ok request ∧
          text = cityEnvironment.typed.chatText (preparedFor mapped.targetEndpoint.provider request)) ∧
        (endpoint ≠ .chatCompletions → text = checked) ∧
        ∀ model, modelNamed cityEnvironment (.openAI endpoint) text = some model →
          match mapped.parts.policyModelOverride with
          | none => checkModelAccess cityEnvironment.toLowercase cityParts.vkPolicy model = .ok ()
          | some chosen => model = chosen ∧ ChosenByPolicy cityEnvironment cityParts cityText chosen := by
  have goes : (call cityEnvironment cityParts cityText).toOption.isSome = true := by rfl
  cases done : call cityEnvironment cityParts cityText with
  | error error =>
    rw [done] at goes
    cases goes
  | ok mapped => exact ⟨mapped, rfl, mapped_model_allowed cityEnvironment_faithful rfl rfl done⟩

end Ollama

end AiGateway.MapperRequests
