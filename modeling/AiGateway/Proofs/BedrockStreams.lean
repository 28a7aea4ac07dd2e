import AiGateway.BedrockChat
import AiGateway.ChatAssembly
import Mathlib.Data.List.Basic

/-! A message that Bedrock streams, read from its chunks and converted as a whole. -/

namespace AiGateway.Bedrock

open OpenAi Lib.Fragments

namespace ConverseContentBlock

def ofText (text : String) : ConverseContentBlock := ⟨some text, none, none, none, none⟩

def ofToolUse (toolUse : ConverseToolUseBlock) : ConverseContentBlock := ⟨none, some toolUse, none, none, none⟩

def ofReasoning (text : Option String) : ConverseContentBlock := ⟨none, none, none, some ⟨text⟩, none⟩

/-- The text a block leaves as the content, text or reasoning. -/
def spoken? (block : ConverseContentBlock) : Option String :=
  match block.toolUse, block.text, block.reasoningContent, block.guardContent with
  | some _, _, _, _ => none
  | none, some text, _, _ => some text
  | none, none, some reasoning, _ => reasoning.text
  | none, none, none, some guarded => guarded.text
  | none, none, none, none => none

end ConverseContentBlock

open ConverseContentBlock

section Streaming
variable (json : JsonText)

/-- The events that stream a block under its index. Only a tool's block has to be opened. -/
inductive BlockEvents (index : Int32) : ConverseContentBlock → List ConverseStreamOutput → Prop
  | text (opened : Bool) (pieces : List String) :
    BlockEvents index (ofText (String.join pieces))
      ((if opened then [.contentBlockStart index none] else []) ++
        pieces.map (fun piece => .contentBlockDelta index (some (.text piece))) ++ [.contentBlockStop index])
  | toolUse (toolUse : ConverseToolUseBlock) (pieces : List String) :
    String.join pieces = json.print toolUse.input →
    BlockEvents index (ofToolUse toolUse)
      (.contentBlockStart index (some (.toolUse toolUse.toolUseId toolUse.name)) ::
        pieces.map (fun piece => .contentBlockDelta index (some (.toolUse piece))) ++ [.contentBlockStop index])
  | reasoning (opened : Bool) (text : Option String) (deltas : List (Option String)) :
    text.getD "" = String.join (deltas.filterMap id) →
    BlockEvents index (ofReasoning text)
      ((if opened then [.contentBlockStart index none] else []) ++
        deltas.map (fun delta => .contentBlockDelta index (some (.reasoningContent delta))) ++
        [.contentBlockStop index])

/-- The events of a message's blocks, the first of which has the given index. -/
inductive BlockStream : Nat → List ConverseContentBlock → List ConverseStreamOutput → Prop
  | nil (index : Nat) : BlockStream index [] []
  | cons {index : Nat} {block : ConverseContentBlock} {opening : List ConverseStreamOutput}
    {blocks : List ConverseContentBlock} {events : List ConverseStreamOutput} :
    index < 2147483648 → BlockEvents json (Int32.ofNat index) block opening → BlockStream (index + 1) blocks events →
    BlockStream index (block :: blocks) (opening ++ events)

/-- A Converse response with its message and usage, and the events that stream it. -/
inductive Streams : ConverseResponse → List ConverseStreamOutput → Prop
  | intro {blocks : List ConverseContentBlock} {events : List ConverseStreamOutput} (stopReason : String)
    (usage : ConverseTokenUsage) (trace : Option ConverseTrace) :
    BlockStream json 0 blocks events →
    Streams ⟨some ⟨blocks⟩, stopReason, some usage, trace⟩
      (.messageStart .assistant :: events ++ [.messageStop stopReason, .metadata (some usage)])

end Streaming

theorem unsignedOrZero_ofNat {index : Nat} (fits : index < 2147483648) :
    (unsignedOrZero (Int32.ofNat index)).toNat = index := by
  have value : (Int32.ofNat index).toInt = index := Int32.toInt_ofNat_of_lt fits
  have positive : 0 ≤ Int32.ofNat index := by
    rw [Int32.le_iff_toInt_le, value]
    exact Int.natCast_nonneg index
  rw [unsignedOrZero, unsigned?, if_neg (Int32.not_lt.mpr positive), Option.getD_some,
    Int32.toNat_toUInt32_of_le positive, Int32.toNatClampNeg, value]
  rfl

theorem choicesOf_convert (events : List ConverseStreamOutput) :
    choicesOf (events.map convertBedrockStreamChunk) = events.flatMap streamChoices := by
  rw [choicesOf, List.flatMap_map]
  rfl

section Blocks
variable {json : JsonText} {index : Int32}

theorem flatMap_opened (opened : Bool) :
    (if opened then [ConverseStreamOutput.contentBlockStart index none] else []).flatMap streamChoices = [] := by
  cases opened <;> rfl

/-- The choices of a block: its texts on its own index, its tool's pieces on the first
choice, and none of its reasoning. -/
theorem blockEvents_choices {block : ConverseContentBlock} {events : List ConverseStreamOutput}
    (streams : BlockEvents json index block events) :
    (∃ pieces, block = ofText (String.join pieces) ∧
      events.flatMap streamChoices = pieces.map (buildTextChoice (unsignedOrZero index))) ∨
    (∃ toolUse pieces, block = ofToolUse toolUse ∧ String.join pieces = json.print toolUse.input ∧
      events.flatMap streamChoices =
        buildToolChoice 0 (buildToolCallChunk (unsignedOrZero index) (some toolUse.toolUseId) (some toolUse.name)
          (some "")) ::
        pieces.map fun piece => buildToolChoice 0 (buildToolCallChunk (unsignedOrZero index) none none (some piece))) ∨
    (∃ text, block = ofReasoning text ∧ events.flatMap streamChoices = []) := by
  have stop : [ConverseStreamOutput.contentBlockStop index].flatMap streamChoices = [] := rfl
  cases streams with
  | text opened pieces =>
    refine .inl ⟨pieces, rfl, ?_⟩
    rw [List.flatMap_append, List.flatMap_append, flatMap_opened, stop, List.nil_append, List.append_nil,
      List.flatMap_map]
    exact List.flatMap_pure_eq_map _ _
  | toolUse toolUse pieces split =>
    refine .inr (.inl ⟨toolUse, pieces, rfl, split, ?_⟩)
    rw [List.cons_append, List.flatMap_cons, List.flatMap_append, stop, List.append_nil, List.flatMap_map]
    exact congrArg _ (List.flatMap_pure_eq_map _ _)
  | reasoning opened text deltas said =>
    refine .inr (.inr ⟨text, rfl, ?_⟩)
    have quiet : (deltas.map fun delta =>
        ConverseStreamOutput.contentBlockDelta index (some (.reasoningContent delta))).flatMap streamChoices = [] := by
      apply List.flatMap_eq_nil_iff.mpr
      intro event member
      obtain ⟨delta, -, rfl⟩ := List.mem_map.mp member
      rfl
    rw [List.flatMap_append, List.flatMap_append, flatMap_opened, quiet, stop]
    rfl

end Blocks

section Message
variable {json : JsonText}

/-- The text of the first block, if it is one. -/
def firstText (blocks : List ConverseContentBlock) : String := (blocks.head?.bind fun block => block.text).getD ""

/-- The last text or reasoning of a message. -/
def lastSpoken (blocks : List ConverseContentBlock) : String := (blocks.filterMap spoken?).getLast?.getD ""

theorem textOf_blockEvents {index : Nat} (fits : index < 2147483648) {block : ConverseContentBlock}
    {events : List ConverseStreamOutput} (streams : BlockEvents json (Int32.ofNat index) block events) :
    textOf 0 (events.flatMap streamChoices) = if index = 0 then block.text.getD "" else "" := by
  have key := unsignedOrZero_ofNat fits
  rcases blockEvents_choices streams with
    ⟨pieces, rfl, choices⟩ | ⟨toolUse, pieces, rfl, -, choices⟩ | ⟨text, rfl, choices⟩ <;> rw [choices]
  · by_cases first : index = 0
    · subst first
      rw [if_pos rfl]
      exact textOf_textChoices 0 pieces
    · rw [if_neg first]
      apply textOf_eq_empty
      intro choice member zero
      obtain ⟨piece, -, rfl⟩ := List.mem_map.mp member
      have zero : unsignedOrZero (Int32.ofNat index) = 0 := zero
      rw [zero] at key
      exact absurd key.symm first
  · have textless : (if index = 0 then (ofToolUse toolUse).text.getD "" else "") = "" := ite_self _
    rw [textless]
    apply textOf_eq_empty
    intro choice member _
    rcases List.mem_cons.mp member with rfl | later
    · rfl
    · obtain ⟨piece, -, rfl⟩ := List.mem_map.mp later
      rfl
  · exact (ite_self _).symm

theorem textOf_later {index : Nat} {blocks : List ConverseContentBlock} {events : List ConverseStreamOutput}
    (streams : BlockStream json index blocks events) (later : 0 < index) :
    textOf 0 (events.flatMap streamChoices) = "" := by
  induction streams with
  | nil index => rfl
  | cons fits head tail ih =>
    rw [List.flatMap_append, textOf_append, textOf_blockEvents fits head, if_neg (by omega), ih (by omega),
      String.append_empty]

/-- The first choice gets the text of the first block and of no other. -/
theorem textOf_blockStream {blocks : List ConverseContentBlock} {events : List ConverseStreamOutput}
    (streams : BlockStream json 0 blocks events) :
    textOf 0 (events.flatMap streamChoices) = firstText blocks := by
  cases streams with
  | nil => rfl
  | cons fits head tail =>
    rw [List.flatMap_append, textOf_append, textOf_blockEvents fits head, if_pos rfl,
      textOf_later tail (by omega), String.append_empty]
    rfl

/-- A call as it is in the message. -/
def calledBy (json : JsonText) (toolUse : ConverseToolUseBlock) : AssembledCall :=
  ⟨some toolUse.toolUseId, some toolUse.name, json.print toolUse.input⟩

theorem toolFragments_textChoices (index : UInt32) (pieces : List String) :
    toolFragments (pieces.map (buildTextChoice index)) = [] := by
  apply List.flatMap_eq_nil_iff.mpr
  intro choice member
  obtain ⟨piece, -, rfl⟩ := List.mem_map.mp member
  rfl

theorem toolFragments_toolChoices (index : UInt32) (id name : String) (pieces : List String) :
    toolFragments (buildToolChoice 0 (buildToolCallChunk index (some id) (some name) (some "")) ::
        pieces.map fun piece => buildToolChoice 0 (buildToolCallChunk index none none (some piece))) =
      ⟨index, (some id, some name), ""⟩ :: pieces.map fun piece => ⟨index, (none, none), piece⟩ := by
  rw [toolFragments, List.flatMap_cons, List.flatMap_map]
  exact congrArg _ (List.flatMap_pure_eq_map _ _)

/-- The calls that come in join those there are, whose keys are all below the index. -/
theorem collect_blockStream {index : Nat} {blocks : List ConverseContentBlock} {events : List ConverseStreamOutput}
    (streams : BlockStream json index blocks events)
    {groups : List (Group UInt32 (Option String × Option String) String)}
    (below : ∀ group ∈ groups, group.key.toNat < index) :
    (collect groups (toolFragments (events.flatMap streamChoices))).map assembledCall =
      groups.map assembledCall ++ (blocks.filterMap fun block => block.toolUse).map (calledBy json) := by
  induction streams generalizing groups with
  | nil index => simp [toolFragments, collect]
  | cons fits head tail ih =>
    rename_i index block opening blocks events
    have key := unsignedOrZero_ofNat fits
    have grown : ∀ group ∈ groups, group.key.toNat < index + 1 := fun group member =>
      Nat.lt_succ_of_lt (below group member)
    rw [List.flatMap_append, toolFragments_append, collect_append]
    rcases blockEvents_choices head with
      ⟨pieces, rfl, choices⟩ | ⟨toolUse, pieces, rfl, split, choices⟩ | ⟨text, rfl, choices⟩ <;> rw [choices]
    · rw [toolFragments_textChoices]
      exact ih grown
    · have fresh : ∀ group ∈ groups, group.key ≠ unsignedOrZero (Int32.ofNat index) := by
        intro group member same
        have inside := below group member
        rw [same, key] at inside
        omega
      have bound : ∀ group ∈ groups ++ [⟨unsignedOrZero (Int32.ofNat index),
          (some toolUse.toolUseId, some toolUse.name), "" :: pieces⟩], group.key.toNat < index + 1 := by
        intro group member
        rcases List.mem_append.mp member with old | new
        · exact grown group old
        · rw [List.mem_singleton.mp new, key]
          omega
      have call : assembledCall ⟨unsignedOrZero (Int32.ofNat index), (some toolUse.toolUseId, some toolUse.name),
          "" :: pieces⟩ = calledBy json toolUse := by
        rw [assembledCall, String.join_cons, String.empty_append, split]
        rfl
      rw [toolFragments_toolChoices, collect_fragments fresh, ih bound, List.map_append, List.append_assoc]
      simp only [List.map_cons, List.map_nil, call]
      rfl
    · exact ih grown

theorem toolCallsOf_blockStream {blocks : List ConverseContentBlock} {events : List ConverseStreamOutput}
    (streams : BlockStream json 0 blocks events) :
    toolCallsOf (events.flatMap streamChoices) =
      (blocks.filterMap fun block => block.toolUse).map (calledBy json) :=
  collect_blockStream streams (List.forall_mem_nil _)

/-- No event brings a finish reason. -/
theorem finishOf_streamChoices (events : List ConverseStreamOutput) :
    finishOf (events.flatMap streamChoices) = none := by
  have unfinished (event : ConverseStreamOutput) : ∀ choice ∈ streamChoices event, choice.finishReason = none := by
    intro choice member
    unfold streamChoices at member
    split at member
    all_goals first
      | (rw [List.mem_singleton.mp member]; rfl)
      | cases member
  rw [finishOf, List.getLast?_eq_none_iff]
  apply List.filterMap_eq_nil_iff.mpr
  intro choice member
  obtain ⟨event, -, chosen⟩ := List.mem_flatMap.mp member
  rw [unfinished event choice chosen]
  exact ite_self _

theorem usageOf_convert (events : List ConverseStreamOutput) (last : ConverseStreamOutput) :
    usageOf ((events ++ [last]).map convertBedrockStreamChunk) = some (streamUsage last) := by
  have each : (fun received : CreateChatCompletionStreamResponse => received.usage) ∘ convertBedrockStreamChunk =
      fun event => some (streamUsage event) := rfl
  rw [usageOf, List.filterMap_map, each, List.filterMap_eq_map', List.map_append]
  exact List.getLast?_concat

theorem toolResult_none {index : Nat} {blocks : List ConverseContentBlock} {events : List ConverseStreamOutput}
    (streams : BlockStream json index blocks events) : ∀ block ∈ blocks, block.toolResult = none := by
  induction streams with
  | nil index => nofun
  | cons fits head tail ih =>
    intro block member
    rcases List.mem_cons.mp member with rfl | later
    · cases head <;> rfl
    · exact ih block later

def ConverseToolUseBlock.toolCall (json : JsonText) (toolUse : ConverseToolUseBlock) : ToolCall :=
  ⟨toolUse.toolUseId, .function, toolUse.name, json.print toolUse.input⟩

theorem extractBlock_eq {block : ConverseContentBlock} (own : block.toolResult = none) (content : Option String)
    (calls : List ToolCall) :
    extractBlock json (content, calls) block =
      (block.spoken?.or content, calls ++ block.toolUse.toList.map (ConverseToolUseBlock.toolCall json)) := by
  obtain ⟨text, toolUse, toolResult, reasoning, guarded⟩ := block
  cases own
  cases toolUse with
  | some toolUse => rfl
  | none =>
    cases text with
    | some text => simp [extractBlock, spoken?]
    | none =>
      cases reasoning with
      | some reasoning => cases reasoning.text <;> simp [extractBlock, spoken?]
      | none => cases guarded <;> simp [extractBlock, spoken?]

/-- A message without tool results is converted to its last text and its calls. -/
theorem extractContent_eq {blocks : List ConverseContentBlock} (own : ∀ block ∈ blocks, block.toolResult = none) :
    extractContent json blocks =
      ((blocks.filterMap spoken?).getLast?,
        (blocks.filterMap fun block => block.toolUse).map (ConverseToolUseBlock.toolCall json)) := by
  induction blocks using List.reverseRecOn with
  | nil => rfl
  | append_singleton blocks block ih =>
    have before := ih fun other member => own other (List.mem_append_left _ member)
    have result : block.toolResult = none := own block (List.mem_append_right _ List.mem_cons_self)
    have last : (blocks ++ [block]).foldl (extractBlock json) (none, []) =
        extractBlock json (extractContent json blocks) block := by
      rw [List.foldl_append]
      rfl
    rw [extractContent, last, before, extractBlock_eq result, List.filterMap_append, List.filterMap_append,
      List.map_append, List.getLast?_append]
    cases speaks : block.spoken? <;> cases calls : block.toolUse <;> simp [speaks, calls]

end Message

/-- A client assembles from the chunks what the whole response says. -/
structure StreamAgrees (chunks : List CreateChatCompletionStreamResponse) (response : CreateChatCompletionResponse) :
    Prop where
  text : textOf 0 (choicesOf chunks) = response.text
  toolCalls : toolCallsOf (choicesOf chunks) = response.toolCalls.map ToolCall.assembled
  finishReason : finishOf (choicesOf chunks) = response.finishReason
  usage : (usageOf chunks).map CompletionUsage.counts = response.usage.map CompletionUsage.counts

def ConverseResponse.blocks (message : ConverseResponse) : List ConverseContentBlock :=
  (message.output.map fun output => output.content).getD []

/-- The usage counts no tokens read from a cache. -/
def Uncached (message : ConverseResponse) : Prop :=
  (message.usage.bind fun usage => usage.cacheReadInputTokens.bind unsigned?) = none

section Whole
variable {json : JsonText} {message : ConverseResponse} {events : List ConverseStreamOutput}

theorem Streams.choices (streams : Streams json message events) :
    ∃ inner, BlockStream json 0 message.blocks inner ∧
      choicesOf (events.map convertBedrockStreamChunk) =
        buildRoleChoice 0 .assistant :: inner.flatMap streamChoices := by
  cases streams with
  | @intro blocks inner stopReason usage trace streamed =>
    refine ⟨inner, streamed, ?_⟩
    rw [choicesOf_convert, List.cons_append, List.flatMap_cons, List.flatMap_append]
    exact congrArg _ (List.append_nil _)

theorem Streams.text (streams : Streams json message events) :
    textOf 0 (choicesOf (events.map convertBedrockStreamChunk)) = firstText message.blocks := by
  obtain ⟨inner, streamed, choices⟩ := streams.choices
  rw [choices]
  exact textOf_blockStream streamed

theorem Streams.toolCalls (streams : Streams json message events) :
    toolCallsOf (choicesOf (events.map convertBedrockStreamChunk)) =
      (message.blocks.filterMap fun block => block.toolUse).map (calledBy json) := by
  obtain ⟨inner, streamed, choices⟩ := streams.choices
  rw [choices]
  exact toolCallsOf_blockStream streamed

theorem Streams.usage (streams : Streams json message events) :
    ∃ tokens, message.usage = some tokens ∧
      (usageOf (events.map convertBedrockStreamChunk)).map CompletionUsage.counts =
        some ⟨unsignedOrZero tokens.inputTokens, unsignedOrZero tokens.outputTokens,
          unsignedOrZero tokens.inputTokens + unsignedOrZero tokens.outputTokens, none⟩ := by
  cases streams with
  | @intro blocks inner stopReason usage trace streamed =>
    have ended : ConverseStreamOutput.messageStart .assistant :: inner ++ [.messageStop stopReason,
          .metadata (some usage)] =
        (.messageStart .assistant :: inner ++ [.messageStop stopReason]) ++ [.metadata (some usage)] := by
      rw [List.append_assoc]
      rfl
    refine ⟨usage, rfl, ?_⟩
    rw [ended, usageOf_convert]
    rfl

theorem normalizeToolCalls_getD (calls : List ToolCall) : (normalizeToolCalls calls).getD [] = calls := by
  cases calls <;> rfl

variable (newId : String) {profile : NonStreamFormatProfile}

theorem Streams.converted (streams : Streams json message events)
    (valid : validateBedrockResponseProfile profile = .ok ()) {tokens : ConverseTokenUsage}
    (counted : message.usage = some tokens) :
    ∃ response, convertBedrockResponse json newId profile message = .ok response ∧
      response.text = lastSpoken message.blocks ∧
      response.toolCalls.map ToolCall.assembled =
        (message.blocks.filterMap fun block => block.toolUse).map (calledBy json) ∧
      response.finishReason = mapBedrockFinishReason message.stopReason ∧
      response.usage.map CompletionUsage.counts =
        some ⟨unsignedOrZero tokens.inputTokens, unsignedOrZero tokens.outputTokens,
          unsignedOrZero tokens.inputTokens + unsignedOrZero tokens.outputTokens,
          tokens.cacheReadInputTokens.bind unsigned?⟩ := by
  obtain ⟨inner, streamed, -⟩ := streams.choices
  have content : extractContent json message.blocks = _ := extractContent_eq (toolResult_none streamed)
  refine ⟨_, by rw [convertBedrockResponse, valid, counted]; rfl, ?_, ?_, rfl, rfl⟩
  · exact congrArg (fun extracted => extracted.1.getD "") content
  · have own : (normalizeToolCalls (extractContent json message.blocks).2).getD [] =
        (message.blocks.filterMap fun block => block.toolUse).map (ConverseToolUseBlock.toolCall json) := by
      rw [normalizeToolCalls_getD, content]
    exact (congrArg (List.map ToolCall.assembled) own).trans List.map_map

end Whole

section Agreement
variable (json : JsonText) (newId : String) (profile : NonStreamFormatProfile)

theorem streamed_message_agrees_iff (valid : validateBedrockResponseProfile profile = .ok ())
    (message : ConverseResponse) (events : List ConverseStreamOutput) (streams : Streams json message events) :
    ∃ response, convertBedrockResponse json newId profile message = .ok response ∧
      (StreamAgrees (events.map convertBedrockStreamChunk) response ↔
        firstText message.blocks = lastSpoken message.blocks ∧ mapBedrockFinishReason message.stopReason = none ∧
          Uncached message) := by
  obtain ⟨tokens, counted, usage⟩ := streams.usage
  obtain ⟨response, converted, text, calls, finish, whole⟩ := streams.converted newId valid counted
  have unfinished : finishOf (choicesOf (events.map convertBedrockStreamChunk)) = none := by
    rw [choicesOf_convert]
    exact finishOf_streamChoices events
  have cached : Uncached message ↔ tokens.cacheReadInputTokens.bind unsigned? = none := by
    rw [Uncached, counted]
    rfl
  refine ⟨response, converted, ?_⟩
  rw [cached]
  constructor
  · intro agrees
    refine ⟨?_, ?_, ?_⟩
    · rw [← streams.text, agrees.text, text]
    · rw [← finish, ← agrees.finishReason, unfinished]
    · have same := usage.symm.trans (agrees.usage.trans whole)
      simp only [Option.some.injEq, UsageCounts.mk.injEq, true_and] at same
      exact same.symm
  · intro ⟨spoken, ending, read⟩
    refine ⟨?_, ?_, ?_, ?_⟩
    · rw [streams.text, text, spoken]
    · rw [streams.toolCalls, calls]
    · rw [unfinished, finish, ending]
    · rw [usage, whole, read]

/-- A message that ends for a reason the converter does not know. -/
def weatherResponse : ConverseResponse :=
  ⟨some ⟨[.ofText "Let me look.", .ofToolUse ⟨"toolu_1", "lookup_weather", .object [("city", .string "Paris")]⟩]⟩,
    "model_context_window_exceeded", some ⟨12, 6, 18, none⟩, none⟩

def weatherEvents : List ConverseStreamOutput :=
  [.messageStart .assistant, .contentBlockDelta 0 (some (.text "Let me ")), .contentBlockDelta 0 (some (.text "look.")),
    .contentBlockStop 0, .contentBlockStart 1 (some (.toolUse "toolu_1" "lookup_weather")),
    .contentBlockDelta 1 (some (.toolUse "\x7b\"city\":")), .contentBlockDelta 1 (some (.toolUse "\"Paris\"\x7d")),
    .contentBlockStop 1, .messageStop "model_context_window_exceeded", .metadata (some ⟨12, 6, 18, none⟩)]

theorem weatherEvents_stream : Streams .sample weatherResponse weatherEvents := by
  have blocks : BlockStream .sample 0 weatherResponse.blocks _ :=
    .cons (by decide) (.text false ["Let me ", "look."])
      (.cons (by decide) (.toolUse _ ["\x7b\"city\":", "\"Paris\"\x7d"] (by decide)) (.nil 2))
  exact .intro _ _ _ blocks

theorem weather_message_agrees :
    ∃ response, convertBedrockResponse .sample "8f14e45f" bedrockProfile weatherResponse = .ok response ∧
      StreamAgrees (weatherEvents.map convertBedrockStreamChunk) response := by
  obtain ⟨response, converted, agrees⟩ := streamed_message_agrees_iff .sample "8f14e45f" bedrockProfile rfl
    weatherResponse weatherEvents weatherEvents_stream
  exact ⟨response, converted, agrees.mpr ⟨by decide, by decide, rfl⟩⟩

def helloResponse : ConverseResponse := ⟨some ⟨[.ofText "Hello"]⟩, "end_turn", some ⟨10, 4, 14, none⟩, none⟩

def helloEvents : List ConverseStreamOutput :=
  [.messageStart .assistant, .contentBlockDelta 0 (some (.text "Hello")), .contentBlockStop 0,
    .messageStop "end_turn", .metadata (some ⟨10, 4, 14, none⟩)]

theorem helloEvents_stream : Streams .sample helloResponse helloEvents := by
  have blocks : BlockStream .sample 0 helloResponse.blocks _ :=
    .cons (by decide) (.text false ["Hello"]) (.nil 1)
  exact .intro _ _ _ blocks

/-- The stream of a plain answer ends without its finish reason. -/
theorem hello_message_unfinished :
    Streams .sample helloResponse helloEvents ∧
      ∃ response, convertBedrockResponse .sample "8f14e45f" bedrockProfile helloResponse = .ok response ∧
        response.finishReason = some .stop ∧
        finishOf (choicesOf (helloEvents.map convertBedrockStreamChunk)) = none ∧
        ¬ StreamAgrees (helloEvents.map convertBedrockStreamChunk) response := by
  refine ⟨helloEvents_stream, _, rfl, rfl, rfl, ?_⟩
  intro agrees
  cases agrees.finishReason

end Agreement

end AiGateway.Bedrock
