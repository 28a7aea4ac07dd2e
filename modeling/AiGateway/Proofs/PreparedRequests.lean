import AiGateway.MapperRules
import AiGateway.Proofs.LayeredProfiles

/-! Prepared requests. The rules take out of a request what its profile does not support and no
more: what they return is the greatest part of the request that fits the profile. -/

namespace AiGateway.MapperRules

open OpenAi

variable {Rest : Type}

/-! ## Images -/

section Images

theorem itemsContain_map {α : Type} (value : α → Json) (items : List α) :
    itemsContain (items.map value) = items.any fun item => containsImageUrlPart (value item) := by
  induction items with
  | nil => rfl
  | cons item rest ih => rw [List.map_cons, itemsContain_cons, ih, List.any_cons]

theorem textParts_plain {part : String → Json} (plain : ∀ text, containsImageUrlPart (part text) = false)
    (content : TextContent) : containsImageUrlPart (textContentValue part content) = false := by
  cases content with
  | text text => rfl
  | array parts =>
    rw [textContentValue, containsImageUrlPart_array, itemsContain_map, List.any_eq_false]
    intro text _
    rw [plain text]
    exact Bool.false_ne_true

theorem textPart_plain (text : String) : containsImageUrlPart (textPart text) = false := by
  simp [textPart, typedPart, Json.asStr]

theorem developerPart_plain (text : String) : containsImageUrlPart (developerPart text) = false := by
  simp [developerPart, List.lookup_cons]

theorem assistantContent_plain (content : AssistantContent) :
    containsImageUrlPart (assistantContentValue content) = false := by
  cases content with
  | text text => rfl
  | array parts =>
    rw [assistantContentValue, containsImageUrlPart_array, itemsContain_map, List.any_eq_false]
    intro part _
    cases part <;> simp [assistantPartValue, textPart, typedPart, Json.asStr]

theorem toolCalls_plain (calls : List ToolCall) :
    containsImageUrlPart (.array (calls.map toolCallValue)) = false := by
  rw [containsImageUrlPart_array, itemsContain_map, List.any_eq_false]
  intro call _
  simp [toolCallValue, List.lookup_cons, Json.asStr]

def UserPart.isImage : UserPart → Bool
  | .imageUrl _ => true
  | .text _ | .inputAudio _ => false

/-- The images of a message. Only a user sends any. -/
def messageHasImage : RequestMessage → Bool
  | .user (.array parts) => parts.any UserPart.isImage
  | _ => false

theorem userPart_image (part : UserPart) : containsImageUrlPart (userPartValue part) = UserPart.isImage part := by
  cases part <;> simp [userPartValue, textPart, typedPart, List.lookup_cons, Json.asStr,
    UserPart.isImage]

/-- The search through the JSON of a message finds its images, and nothing that only looks like one. -/
theorem message_image (message : RequestMessage) :
    containsImageUrlPart (messageValue message) = messageHasImage message := by
  cases message with
  | developer content =>
    simp [messageValue, List.lookup_cons, textParts_plain developerPart_plain, messageHasImage]
  | system content =>
    simp [messageValue, List.lookup_cons, textParts_plain textPart_plain, messageHasImage]
  | user content =>
    cases content with
    | text text => simp [messageValue, userContentValue, List.lookup_cons, messageHasImage]
    | array parts =>
      simp [messageValue, userContentValue, List.lookup_cons, messageHasImage, itemsContain_map,
        userPart_image]
  | assistant content toolCalls =>
    cases content <;> cases toolCalls <;>
      simp [messageValue, List.lookup_cons, messageHasImage, assistantContent_plain] <;>
      exact toolCalls_plain _
  | tool content toolCallId =>
    simp [messageValue, List.lookup_cons, textParts_plain textPart_plain, messageHasImage]
  | function content name =>
    cases content <;> simp [messageValue, List.lookup_cons, messageHasImage]

def HasImage (request : ChatRequest Rest) : Prop :=
  ∃ parts url, RequestMessage.user (.array parts) ∈ request.messages ∧ UserPart.imageUrl url ∈ parts

theorem multimodal_iff (request : ChatRequest Rest) : requestContainsMultimodalContent request = true ↔ HasImage request := by
  rw [requestContainsMultimodalContent, containsImageUrlPart_array, itemsContain_map, List.any_eq_true]
  constructor
  · rintro ⟨message, sent, found⟩
    rw [message_image] at found
    match message, found with
    | .user (.array parts), found =>
      obtain ⟨part, listed, image⟩ := List.any_eq_true.mp found
      match part, image with
      | .imageUrl url, _ => exact ⟨parts, url, sent, listed⟩
  · rintro ⟨parts, url, sent, listed⟩
    refine ⟨_, sent, ?_⟩
    rw [message_image]
    exact List.any_eq_true.mpr ⟨_, listed, rfl⟩

end Images

/-! ## Parts of a request -/

/-- A request with some of the optional members of another that the rules decide on, and with
all else that is in it. -/
structure Part (part whole : ChatRequest Rest) : Prop where
  responseFormat : ∀ value ∈ part.responseFormat, value ∈ whole.responseFormat
  tools : ∀ value ∈ part.tools, value ∈ whole.tools
  toolChoice : ∀ value ∈ part.toolChoice, value ∈ whole.toolChoice
  parallelToolCalls : ∀ value ∈ part.parallelToolCalls, value ∈ whole.parallelToolCalls
  reasoningEffort : ∀ value ∈ part.reasoningEffort, value ∈ whole.reasoningEffort
  same : { part with
    responseFormat := whole.responseFormat
    tools := whole.tools
    toolChoice := whole.toolChoice
    parallelToolCalls := whole.parallelToolCalls
    reasoningEffort := whole.reasoningEffort } = whole

/-- A request that asks for nothing that the metadata rule out. -/
structure Fits (metadata : ResolvedMapperMetadata) (request : ChatRequest Rest) : Prop where
  responseFormat : metadata.nonStreamProfile.request.responseFormatMode = .unsupported → request.responseFormat = none
  tools : metadata.nonStreamProfile.request.toolChoiceMode = .unsupported → request.tools = none
  toolChoice : metadata.nonStreamProfile.request.toolChoiceMode = .unsupported → request.toolChoice = none
  parallelToolCalls : metadata.nonStreamProfile.request.toolChoiceMode = .unsupported ∨
    metadata.capabilities.supportsParallelToolCalls = false → request.parallelToolCalls = none
  reasoningEffort : metadata.nonStreamProfile.request.reasoningMode = .unsupported → request.reasoningEffort = none
  images : metadata.nonStreamProfile.request.multimodalMode = .unsupported → ¬HasImage request

/-- What the request asks for is among the capabilities. Reasoning may also be passed on as it is. -/
structure Supported (metadata : ResolvedMapperMetadata) (request : ChatRequest Rest) : Prop where
  responseFormat : request.responseFormat.isSome → metadata.capabilities.supportsResponseFormat
  tools : request.tools.isSome ∨ request.toolChoice.isSome → metadata.capabilities.supportsToolChoice
  parallelToolCalls : request.parallelToolCalls.isSome →
    metadata.capabilities.supportsParallelToolCalls ∧ metadata.capabilities.supportsToolChoice
  reasoningEffort : request.reasoningEffort.isSome →
    metadata.capabilities.supportsThinking ∨ metadata.nonStreamProfile.request.reasoningMode = .passthrough

section Stripped
variable (metadata : ResolvedMapperMetadata) (request : ChatRequest Rest)

/-- An optional member, unless it is ruled out. -/
def keepUnless {α : Type} (ruledOut : Bool) (value : Option α) : Option α := if ruledOut then none else value

def noTools : Bool := metadata.nonStreamProfile.request.toolChoiceMode == .unsupported

/-- The request without what is ruled out. -/
def stripped : ChatRequest Rest := { request with
  responseFormat := keepUnless (metadata.nonStreamProfile.request.responseFormatMode == .unsupported) request.responseFormat
  tools := keepUnless (noTools metadata) request.tools
  toolChoice := keepUnless (noTools metadata) request.toolChoice
  parallelToolCalls :=
    keepUnless (noTools metadata || !metadata.capabilities.supportsParallelToolCalls) request.parallelToolCalls
  reasoningEffort := keepUnless (metadata.nonStreamProfile.request.reasoningMode == .unsupported) request.reasoningEffort }

variable {metadata request}

theorem mem_of_mem_keepUnless {α : Type} {ruledOut : Bool} {whole : Option α} {value : α}
    (kept : value ∈ keepUnless ruledOut whole) : value ∈ whole := by
  unfold keepUnless at kept
  split at kept
  · cases kept
  · exact kept

theorem mem_keepUnless {α : Type} {ruledOut : Bool} {part whole : Option α} (below : ∀ value ∈ part, value ∈ whole)
    (fits : ruledOut = true → part = none) : ∀ value ∈ part, value ∈ keepUnless ruledOut whole := by
  intro value held
  unfold keepUnless
  split
  · next out =>
    rw [fits out] at held
    exact held
  · exact below value held

@[simp] theorem keepUnless_true {α : Type} (value : Option α) : keepUnless true value = none := rfl

@[simp] theorem keepUnless_keepUnless {α : Type} (ruledOut : Bool) (value : Option α) :
    keepUnless ruledOut (keepUnless ruledOut value) = keepUnless ruledOut value := by
  cases ruledOut <;> rfl

theorem stripped_part : Part (stripped metadata request) request where
  responseFormat _ := mem_of_mem_keepUnless
  tools _ := mem_of_mem_keepUnless
  toolChoice _ := mem_of_mem_keepUnless
  parallelToolCalls _ := mem_of_mem_keepUnless
  reasoningEffort _ := mem_of_mem_keepUnless
  same := rfl

theorem stripped_fits (viewable : metadata.nonStreamProfile.request.multimodalMode = .unsupported → ¬HasImage request) :
    Fits metadata (stripped metadata request) where
  responseFormat out := by simp [stripped, out]
  tools out := by simp [stripped, noTools, out]
  toolChoice out := by simp [stripped, noTools, out]
  parallelToolCalls out := by rcases out with out | out <;> simp [stripped, noTools, out]
  reasoningEffort out := by simp [stripped, out]
  images := viewable

theorem part_stripped {other : ChatRequest Rest} (below : Part other request) (fits : Fits metadata other) :
    Part other (stripped metadata request) where
  responseFormat := mem_keepUnless below.responseFormat fun out => fits.responseFormat (beq_iff_eq.mp out)
  tools := mem_keepUnless below.tools fun out => fits.tools (beq_iff_eq.mp out)
  toolChoice := mem_keepUnless below.toolChoice fun out => fits.toolChoice (beq_iff_eq.mp out)
  parallelToolCalls := mem_keepUnless below.parallelToolCalls fun out =>
    fits.parallelToolCalls (by simpa [noTools] using out)
  reasoningEffort := mem_keepUnless below.reasoningEffort fun out => fits.reasoningEffort (beq_iff_eq.mp out)
  same := by
    have same := below.same
    unfold stripped
    rw [← same]

theorem stripped_stripped : stripped metadata (stripped metadata request) = stripped metadata request := by
  simp [stripped]

/-- A part has the messages of the whole, and so its images. -/
theorem Part.hasImage_iff {part whole : ChatRequest Rest} (below : Part part whole) : HasImage part ↔ HasImage whole := by
  have messages : part.messages = whole.messages := congrArg (fun request => request.messages) below.same
  rw [HasImage, HasImage, messages]

end Stripped

/-! ## Preparation -/

section Prepare
variable {metadata : ResolvedMapperMetadata} (envelope : RequestEnvelope Rest)

def refusal (profile : ResolvedFormatProfile) : RuleError :=
  .imageMappingInvalid ("provider " ++ profile.provider.fmt ++ " does not support multimodal requests")

/-- What the profile alone leaves of a request. -/
def profiled (profile : ResolvedFormatProfile) (request : ChatRequest Rest) : ChatRequest Rest := { request with
  responseFormat := keepUnless (profile.request.responseFormatMode == .unsupported) request.responseFormat
  tools := keepUnless (profile.request.toolChoiceMode == .unsupported) request.tools
  toolChoice := keepUnless (profile.request.toolChoiceMode == .unsupported) request.toolChoice
  parallelToolCalls := keepUnless (profile.request.toolChoiceMode == .unsupported) request.parallelToolCalls
  reasoningEffort := keepUnless (profile.request.reasoningMode == .unsupported) request.reasoningEffort }

theorem applyNonStreamRequestProfile_eq (profile : ResolvedFormatProfile) (request : ChatRequest Rest) :
    applyNonStreamRequestProfile profile request =
      if profile.request.multimodalMode = .unsupported && requestContainsMultimodalContent request then
        .error (refusal profile)
      else .ok (profiled profile request) := by
  by_cases formats : profile.request.responseFormatMode = .unsupported <;>
    by_cases tools : profile.request.toolChoiceMode = .unsupported <;>
    by_cases reasons : profile.request.reasoningMode = .unsupported <;>
    simp [applyNonStreamRequestProfile, profiled, refusal, keepUnless, requestContainsMultimodalContent, formats, tools,
      reasons]

/-- Whether the request has images where none are supported. -/
def Refused (metadata : ResolvedMapperMetadata) (request : ChatRequest Rest) : Prop :=
  metadata.nonStreamProfile.request.multimodalMode = .unsupported ∧ HasImage request

theorem refused_iff (request : ChatRequest Rest) :
    (metadata.nonStreamProfile.request.multimodalMode = .unsupported && requestContainsMultimodalContent request) = true ↔
      Refused metadata request := by
  rw [Bool.and_eq_true, decide_eq_true_eq, multimodal_iff, Refused]

theorem prepared_streaming (streaming : envelope.isStream = true) (attached : envelope.resolvedMetadata = some metadata) :
    prepareRequestEnvelope envelope = .ok { envelope with
      requestRuleContext := some (buildRequestRuleContext metadata.capabilities metadata.rules) } := by
  rw [prepareRequestEnvelope, attached]
  dsimp only
  rw [streaming]
  rfl

theorem prepared_refused (streamless : envelope.isStream = false) (attached : envelope.resolvedMetadata = some metadata)
    (refused : Refused metadata envelope.openaiRequest) :
    prepareRequestEnvelope envelope = .error (refusal metadata.nonStreamProfile) := by
  rw [prepareRequestEnvelope, attached]
  dsimp only
  rw [streamless, applyNonStreamRequestProfile_eq, if_pos ((refused_iff _).mpr refused)]
  rfl

theorem prepared_accepted (streamless : envelope.isStream = false) (attached : envelope.resolvedMetadata = some metadata)
    (accepted : ¬Refused metadata envelope.openaiRequest) :
    prepareRequestEnvelope envelope = .ok { envelope with
      openaiRequest := stripped metadata envelope.openaiRequest
      requestRuleContext := some (buildRequestRuleContext metadata.capabilities metadata.rules) } := by
  rw [prepareRequestEnvelope, attached]
  dsimp only
  rw [streamless, applyNonStreamRequestProfile_eq, if_neg (mt (refused_iff _).mp accepted)]
  cases parallel : metadata.capabilities.supportsParallelToolCalls <;>
    simp [buildRequestRuleContext, parallel, stripped, profiled, noTools, bind, Except.bind, pure, Except.pure]

end Prepare

/-! ## Resolved metadata -/

section Resolved
variable {config : MapperProfilesConfig} {provider : InferenceProvider} {model : Option String}
  {metadata : ResolvedMapperMetadata}

theorem validated_of_resolved (complete : ∀ listed ∈ config.familyDefaults, listed.2.Complete)
    (resolved : resolveMapperMetadataFromConfig config provider model = .ok metadata) :
    validateProviderRules metadata.capabilities metadata.rules = .ok () ∧ metadata.Agreeing := by
  cases listed : config.familyDefaults.lookup (config.family provider model) with
  | none =>
    rw [resolveMapperMetadataFromConfig] at resolved
    simp only [listed] at resolved
    cases resolved
  | some baseline =>
    obtain ⟨before, after, entries, _⟩ := List.lookup_eq_some_iff.mp listed
    have entered := complete (config.family provider model, baseline) (by simp [entries])
    obtain ⟨found, _, agreeing, _, _, outcome⟩ := resolve_of_listed listed entered
    rw [outcome] at resolved
    cases valid : validateProviderRules found.capabilities found.rules with
    | error error =>
      rw [valid] at resolved
      cases resolved
    | ok _ =>
      rw [valid] at resolved
      cases resolved
      exact ⟨valid, agreeing⟩

/-- Rules that pass the check ask for no more than the capabilities. -/
theorem modes_of_validated {capabilities : ProviderCapabilities} {rules : ProviderRuleSet}
    (valid : validateProviderRules capabilities rules = .ok ()) :
    (capabilities.supportsResponseFormat = false → rules.request.responseFormatMode = .unsupported) ∧
      (capabilities.supportsToolChoice = false → rules.request.toolChoiceMode = .unsupported) ∧
      (capabilities.supportsThinking = false →
        rules.request.reasoningMode = .unsupported ∨ rules.request.reasoningMode = .passthrough) := by
  obtain ⟨_, valid⟩ := Lib.Runs.check_ok valid
  obtain ⟨reasoning, valid⟩ := Lib.Runs.check_ok valid
  obtain ⟨formats, valid⟩ := Lib.Runs.check_ok valid
  obtain ⟨tools, _⟩ := Lib.Runs.check_ok valid
  refine ⟨fun lacking => ?_, fun lacking => ?_, fun lacking => ?_⟩
  · simpa [lacking] using formats
  · simpa [lacking] using tools
  · cases mode : rules.request.reasoningMode <;> simp [lacking, mode] at reasoning ⊢

theorem supported_of_fits {request : ChatRequest Rest}
    (valid : validateProviderRules metadata.capabilities metadata.rules = .ok ()) (agreeing : metadata.Agreeing)
    (fits : Fits metadata request) : Supported metadata request := by
  obtain ⟨formats, tools, thinking⟩ := modes_of_validated valid
  rw [agreeing.request] at formats tools thinking
  refine ⟨fun asked => ?_, fun asked => ?_, fun asked => ?_, fun asked => ?_⟩
  · by_contra lacking
    rw [fits.responseFormat (formats (Bool.eq_false_iff.mpr lacking))] at asked
    cases asked
  · by_contra lacking
    have mode := tools (Bool.eq_false_iff.mpr lacking)
    rw [fits.tools mode, fits.toolChoice mode] at asked
    rcases asked with asked | asked <;> cases asked
  · constructor
    · by_contra lacking
      rw [fits.parallelToolCalls (.inr (Bool.eq_false_iff.mpr lacking))] at asked
      cases asked
    · by_contra lacking
      rw [fits.parallelToolCalls (.inl (tools (Bool.eq_false_iff.mpr lacking)))] at asked
      cases asked
  · by_cases able : metadata.capabilities.supportsThinking = true
    · exact .inl able
    · rcases thinking (Bool.eq_false_iff.mpr able) with mode | mode
      · rw [fits.reasoningEffort mode] at asked
        cases asked
      · exact .inr mode

/-- The context as the profile has it. -/
def contextOf (metadata : ResolvedMapperMetadata) : RequestRuleContext where
  provider := metadata.nonStreamProfile.provider
  family := metadata.nonStreamProfile.family
  systemHandling := metadata.nonStreamProfile.request.systemHandling
  toolChoiceMode := metadata.nonStreamProfile.request.toolChoiceMode
  responseFormatMode := metadata.nonStreamProfile.request.responseFormatMode
  reasoningMode := metadata.nonStreamProfile.request.reasoningMode
  multimodalMode := metadata.nonStreamProfile.request.multimodalMode
  supportsParallelToolCalls := metadata.capabilities.supportsParallelToolCalls

/-- The modes of valid rules are never lowered. -/
theorem context_of_validated (valid : validateProviderRules metadata.capabilities metadata.rules = .ok ())
    (agreeing : metadata.Agreeing) : buildRequestRuleContext metadata.capabilities metadata.rules = contextOf metadata := by
  obtain ⟨formats, tools, _⟩ := modes_of_validated valid
  rw [agreeing.request] at formats tools
  have choice : (if metadata.capabilities.supportsToolChoice then metadata.nonStreamProfile.request.toolChoiceMode
      else .unsupported) = metadata.nonStreamProfile.request.toolChoiceMode := by
    split
    · rfl
    · next lacking => exact (tools (Bool.eq_false_iff.mpr lacking)).symm
  have format : (if metadata.capabilities.supportsResponseFormat then metadata.nonStreamProfile.request.responseFormatMode
      else .unsupported) = metadata.nonStreamProfile.request.responseFormatMode := by
    split
    · rfl
    · next lacking => exact (formats (Bool.eq_false_iff.mpr lacking)).symm
  rw [buildRequestRuleContext, agreeing.request, agreeing.provider, agreeing.family]
  dsimp only
  rw [choice, format]
  rfl

/-- The greatest part of a request that fits the metadata. -/
structure GreatestFitting (metadata : ResolvedMapperMetadata) (part whole : ChatRequest Rest) : Prop where
  below : Part part whole
  fits : Fits metadata part
  greatest : ∀ other, Part other whole → Fits metadata other → Part other part

end Resolved

/-! ## The catalog the gateway is built with -/

section Embedded
variable {provider : InferenceProvider} {model : Option String}

theorem embedded_complete : ∀ listed ∈ embeddedProfiles.familyDefaults, listed.2.Complete := by
  simp only [embeddedProfiles, List.forall_mem_cons, List.not_mem_nil, false_imp_iff, implies_true, and_true]
  refine ⟨?_, ?_, ?_, ?_, ?_⟩ <;>
    exact ⟨⟨_, _, _, _, _, _, rfl⟩, ⟨_, _, _, _, _, _, rfl⟩, ⟨_, _, _, _, rfl⟩, ⟨_, rfl⟩⟩

/-- The providers that take a response format. -/
def formats : InferenceProvider → Bool
  | .openAI | .custom | .named _ => true
  | .anthropic | .bedrock | .googleGemini | .ollama => false

def reasoner : String := "deepseek/deepseek-reasoner"

/-- The providers that take a reasoning effort, and the one model that takes it everywhere. -/
def reasons (provider : InferenceProvider) (model : Option String) : Bool :=
  model == some reasoner ||
    match provider with
    | .openAI | .anthropic | .bedrock => true
    | .googleGemini | .ollama | .custom | .named _ => false

/-- What the metadata say that the rules read. -/
structure Modes (provider : InferenceProvider) (model : Option String) (metadata : ResolvedMapperMetadata) : Prop where
  responseFormat : (metadata.nonStreamProfile.request.responseFormatMode == .unsupported) = !formats provider
  tools : metadata.nonStreamProfile.request.toolChoiceMode = .native
  parallelToolCalls : metadata.capabilities.supportsParallelToolCalls = (provider != .ollama)
  reasoning : (metadata.nonStreamProfile.request.reasoningMode == .unsupported) = !reasons provider model
  images : metadata.nonStreamProfile.request.multimodalMode ≠ .unsupported

theorem resolve_congr {config : MapperProfilesConfig} {other : Option String}
    (same : config.modelEntry model = config.modelEntry other) :
    resolveMapperMetadataFromConfig config provider model = resolveMapperMetadataFromConfig config provider other := by
  rw [resolveMapperMetadataFromConfig, resolveMapperMetadataFromConfig, MapperProfilesConfig.family,
    MapperProfilesConfig.family, same]

theorem modelEntry_other (other : model ≠ some reasoner) :
    embeddedProfiles.modelEntry model = embeddedProfiles.modelEntry none := by
  cases model with
  | none => rfl
  | some name =>
    have different : (name == reasoner) = false := beq_false_of_ne fun same => other (congrArg some same)
    show List.lookup name [(reasoner, _)] = none
    rw [List.lookup_cons, different]
    rfl

/-- No provider and no model make the embedded catalog fail. -/
theorem embedded_resolves (provider : InferenceProvider) (model : Option String) :
    ∃ metadata, resolveMapperMetadata provider model = .ok metadata ∧ Modes provider model metadata := by
  by_cases named : model = some reasoner
  · subst named
    cases provider <;> exact ⟨_, rfl, ⟨rfl, rfl, rfl, rfl, fun same => by cases same⟩⟩
  · rw [resolveMapperMetadata, resolve_congr (modelEntry_other named)]
    have plain (provider : InferenceProvider) : reasons provider model = reasons provider none := by
      unfold reasons
      rw [beq_false_of_ne named]
      rfl
    cases provider <;> exact ⟨_, rfl, ⟨rfl, rfl, rfl, by rw [plain]; rfl, fun same => by cases same⟩⟩

/-- A request for JSON, with a tool's calls in parallel. -/
def jsonRequest : ChatRequest Unit where
  messages := [.user (.array [.text "Which city?", .imageUrl "https://example.com/map.png"])]
  model := "ollama/llama3"
  reasoningEffort := some .low
  maxTokens := none
  maxCompletionTokens := none
  stop := none
  stream := none
  temperature := none
  topP := none
  tools := some [⟨some ⟨"lookup", none, none⟩⟩]
  toolChoice := some .auto
  user := none
  responseFormat := some .jsonObject
  parallelToolCalls := some true
  rest := ()

def jsonEnvelope (metadata : ResolvedMapperMetadata) : RequestEnvelope Unit where
  sourceEndpoint := .openAI .chatCompletions
  targetProvider := .ollama
  targetCapabilities := some metadata.capabilities
  targetRules := some metadata.rules
  requestRuleContext := none
  resolvedMetadata := some metadata
  rawModel := "ollama/llama3"
  sourceModel := none
  isStream := false
  openaiRequest := jsonRequest

/-- What a provider gets of a chat request. -/
def preparedFor (provider : InferenceProvider) (request : ChatRequest Rest) : ChatRequest Rest :=
  if request.stream.getD false then request
  else { request with
    responseFormat := keepUnless (!formats provider) request.responseFormat
    parallelToolCalls := keepUnless (provider == .ollama) request.parallelToolCalls
    reasoningEffort := keepUnless (!reasons provider (some request.model)) request.reasoningEffort }

theorem preparedFor_model (provider : InferenceProvider) (request : ChatRequest Rest) :
    (preparedFor provider request).model = request.model := by
  unfold preparedFor
  split <;> rfl

/-- Every chat request is prepared for every provider. A stream is left alone; otherwise the
response format, the parallel tool calls and the reasoning effort go where they are not taken,
and the tools always stay. -/
theorem embedded_prepares (chrono : Chrono) (source : ApiEndpoint) (provider : InferenceProvider)
    (request : ChatRequest Rest) :
    ∃ metadata after, resolveMapperMetadata provider (some request.model) = .ok metadata ∧
      prepareRequestEnvelope ((RequestEnvelope.fromOpenaiChatRequest chrono source provider request).withResolvedMetadata
        metadata) = .ok after ∧
      after.openaiRequest = preparedFor provider request := by
  obtain ⟨metadata, resolved, modes⟩ := embedded_resolves provider (some request.model)
  let envelope := (RequestEnvelope.fromOpenaiChatRequest chrono source provider request).withResolvedMetadata metadata
  unfold preparedFor
  cases streaming : request.stream.getD false with
  | true => exact ⟨metadata, _, resolved, prepared_streaming envelope streaming rfl, rfl⟩
  | false =>
    have accepted : ¬Refused metadata envelope.openaiRequest := fun refused => modes.images refused.1
    refine ⟨metadata, _, resolved, prepared_accepted envelope streaming rfl accepted, ?_⟩
    show stripped metadata request = _
    have tools : noTools metadata = false := by
      rw [noTools, modes.tools]
      rfl
    rw [stripped, tools, modes.responseFormat, modes.parallelToolCalls, modes.reasoning, Bool.false_or, bne, Bool.not_not]
    rfl

end Embedded

end AiGateway.MapperRules
