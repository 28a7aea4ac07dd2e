import AiGateway.MapperProfiles

/-! Anthropic's answers as chat completions: whole messages, and the events that stream
them. -/

namespace AiGateway.Anthropic

open OpenAi

inductive Role where
  | user
  | assistant
  deriving DecidableEq, Repr

structure ImageSource where
  type : String
  mediaType : String
  data : String
  deriving DecidableEq, Repr

inductive ContentBlock where
  | text (text : String)
  | image (source : ImageSource)
  | toolUse (id name : String) (input : Json)
  | toolResult (toolUseId content : String)
  | thinking (thinking signature : String)
  | redactedThinking (data : String)
  deriving Repr

inductive StopReason where
  | endTurn
  | maxTokens
  | stopSequence
  | toolUse
  | refusal
  deriving DecidableEq, Repr

structure CacheCreationBreakdown where
  ephemeral5mInputTokens : UInt32
  ephemeral1hInputTokens : UInt32
  deriving DecidableEq, Repr

structure Usage where
  inputTokens : UInt32
  outputTokens : UInt32
  cacheReadInputTokens : Option UInt32
  cacheCreationInputTokens : Option UInt32
  cacheCreation : Option CacheCreationBreakdown
  deriving DecidableEq, Repr

/-- The counters of a `message_delta`, zero where the event leaves one out. -/
structure StreamUsage where
  inputTokens : UInt32
  outputTokens : UInt32
  cacheReadInputTokens : Option UInt32
  cacheCreationInputTokens : Option UInt32
  cacheCreation : Option CacheCreationBreakdown
  deriving DecidableEq, Repr

structure CreateMessageResponse where
  content : List ContentBlock
  id : String
  model : String
  role : Role
  stopReason : Option StopReason
  stopSequence : Option String
  usage : Usage
  deriving Repr

structure MessageStartContent where
  id : String
  role : Role
  content : List ContentBlock
  model : String
  stopReason : Option StopReason
  stopSequence : Option String
  usage : Usage
  deriving Repr

inductive ContentBlockDelta where
  | textDelta (text : String)
  | inputJsonDelta (partialJson : String)
  | thinkingDelta (thinking : String)
  | signatureDelta (signature : String)
  deriving DecidableEq, Repr

structure MessageDeltaContent where
  stopReason : Option StopReason
  stopSequence : Option String
  deriving DecidableEq, Repr

inductive StreamEvent where
  | messageStart (message : MessageStartContent)
  | contentBlockStart (index : Nat) (contentBlock : ContentBlock)
  | contentBlockDelta (index : Nat) (delta : ContentBlockDelta)
  | contentBlockStop (index : Nat)
  | messageDelta (delta : MessageDeltaContent) (usage : Option StreamUsage)
  | messageStop
  | ping
  | error (type message : String)
  deriving Repr

def mapAnthropicFinishReason : Option StopReason → Option FinishReason
  | some .endTurn | some .stopSequence => some .stop
  | some .maxTokens => some .length
  | some .toolUse => some .toolCalls
  | some .refusal => some .contentFilter
  | none => none

section Response
variable (json : JsonText)

/-- One turn of the loop over a message's blocks: the content so far and the tool calls. -/
def extractBlock : Option String × List ToolCall → ContentBlock → Option String × List ToolCall
  | (content, toolCalls), .toolUse id name input =>
    (content, toolCalls ++ [⟨id, .function, name, json.print input⟩])
  | (content, toolCalls), .toolResult toolUseId toolContent =>
    (content, toolCalls ++ [⟨toolUseId, .function, toolUseId, json.print (.string toolContent)⟩])
  | (_, toolCalls), .text text => (some text, toolCalls)
  | state, .image _ | state, .thinking _ _ | state, .redactedThinking _ => state

def extractAnthropicContent (blocks : List ContentBlock) : Option String × List ToolCall :=
  blocks.foldl (extractBlock json) (none, [])

def convertAnthropicResponse (profile : NonStreamFormatProfile) (value : CreateMessageResponse) :
    Except ConvertError CreateChatCompletionResponse := do
  validateAnthropicResponseProfile profile
  let usage := buildUsage value.usage.inputTokens value.usage.outputTokens none
  let (content, toolCalls) := extractAnthropicContent json value.content
  pure (buildChatResponse value.id value.model content (normalizeToolCalls toolCalls)
    (mapAnthropicFinishReason value.stopReason) usage)

end Response

structure AnthropicStreamOpenAiUsageState where
  streamMessageId : String
  streamModel : String
  inputTokens : UInt32
  cacheReadInputTokens : UInt32
  cacheCreationInputTokens : UInt32
  cacheEphemeral5m : UInt32
  cacheEphemeral1h : UInt32
  outputTokens : UInt32
  deriving DecidableEq, Repr

namespace AnthropicStreamOpenAiUsageState

def default : AnthropicStreamOpenAiUsageState := ⟨"", "", 0, 0, 0, 0, 0, 0⟩

def onMessageStart (_state : AnthropicStreamOpenAiUsageState) (message : MessageStartContent) :
    AnthropicStreamOpenAiUsageState where
  streamMessageId := message.id
  streamModel := message.model
  inputTokens := message.usage.inputTokens
  cacheReadInputTokens := message.usage.cacheReadInputTokens.getD 0
  cacheCreationInputTokens := message.usage.cacheCreationInputTokens.getD 0
  cacheEphemeral5m := (message.usage.cacheCreation.map fun c => c.ephemeral5mInputTokens).getD 0
  cacheEphemeral1h := (message.usage.cacheCreation.map fun c => c.ephemeral1hInputTokens).getD 0
  outputTokens := message.usage.outputTokens

/-- A counter that the event reports replaces the one held. -/
def onMessageDelta (state : AnthropicStreamOpenAiUsageState) : Option StreamUsage → AnthropicStreamOpenAiUsageState
  | none => state
  | some usage =>
    { state with
      outputTokens := usage.outputTokens
      cacheReadInputTokens := usage.cacheReadInputTokens.getD state.cacheReadInputTokens
      cacheCreationInputTokens := usage.cacheCreationInputTokens.getD state.cacheCreationInputTokens
      cacheEphemeral5m := (usage.cacheCreation.map fun c => c.ephemeral5mInputTokens).getD state.cacheEphemeral5m
      cacheEphemeral1h := (usage.cacheCreation.map fun c => c.ephemeral1hInputTokens).getD state.cacheEphemeral1h
      inputTokens := if usage.inputTokens > 0 then usage.inputTokens else state.inputTokens }

def buildOpenaiCompletionUsage (state : AnthropicStreamOpenAiUsageState) : CompletionUsage :=
  let cached := state.cacheReadInputTokens
  let cacheWrite := state.cacheCreationInputTokens
  let promptTokens := saturatingAdd state.inputTokens cached
  let completionTokens := state.outputTokens
  let total := saturatingAdd (saturatingAdd (saturatingAdd state.inputTokens completionTokens) cached) cacheWrite
  let promptDetails : Option PromptTokensDetails :=
    if cached > 0 ∨ cacheWrite > 0 then
      some {
        audioTokens := none
        cachedTokens := if cached > 0 then some cached else none
        cacheWriteTokens := if cacheWrite > 0 then some cacheWrite else none
        cacheWriteDetails :=
          if cacheWrite > 0 then
            some ⟨if state.cacheEphemeral5m > 0 then state.cacheEphemeral5m else cacheWrite, state.cacheEphemeral1h⟩
          else none }
    else none
  ⟨promptTokens, completionTokens, total, promptDetails, some ⟨some 0, some 0, some 0, some 0⟩⟩

end AnthropicStreamOpenAiUsageState

open AnthropicStreamOpenAiUsageState

def placeholderStreamId : String := "anthropic-stream-id"

def placeholderModelName : String := "anthropic-model"

section Stream
variable (json : JsonText)

/-- The text and the tool calls of the blocks a `message_start` already carries, the first
at the given index. -/
def startBlocks : Nat → List ContentBlock → String × List ToolCallChunk
  | _, [] => ("", [])
  | index, block :: rest =>
    let (later, toolCalls) := startBlocks (index + 1) rest
    match block with
    | .text text => (text ++ later, toolCalls)
    | .toolUse id name input =>
      (later, buildToolCallChunk (chunkIndex index) (some id) (some name) (some (json.print input)) :: toolCalls)
    | .toolResult _ content => ("\n" ++ content ++ later, toolCalls)
    | _ => (later, toolCalls)

def startChoice (message : MessageStartContent) : ChatChoiceStream :=
  let (content, toolCalls) := startBlocks json 0 message.content
  let role := match message.role with
    | .user => OpenAi.Role.user
    | .assistant => .assistant
  let refusal := if message.stopReason = some .refusal then message.stopSequence else none
  ⟨0, ⟨some role, some content, some toolCalls, refusal⟩, mapAnthropicFinishReason message.stopReason⟩

/-- A chunk with one choice under the placeholder names. -/
def placeholderChunk (choice : ChatChoiceStream) : CreateChatCompletionStreamResponse :=
  buildStreamResponse placeholderStreamId placeholderModelName [choice] none

def stopChunk : Option AnthropicStreamOpenAiUsageState → CreateChatCompletionStreamResponse
  | some state =>
    let id := if state.streamMessageId.isEmpty then placeholderStreamId else state.streamMessageId
    let model := if state.streamModel.isEmpty then placeholderModelName else state.streamModel
    buildStreamResponse id model [] (some state.buildOpenaiCompletionUsage)
  | none => buildStreamResponse placeholderStreamId placeholderModelName [] none

/-- The usage cell is there when the stream's usage is to be reported. -/
def tryConvertChunk (cell : Option AnthropicStreamOpenAiUsageState) :
    StreamEvent → Option AnthropicStreamOpenAiUsageState × Option CreateChatCompletionStreamResponse
  | .messageStart message =>
    (cell.map fun state => state.onMessageStart message,
      some (buildStreamResponse message.id message.model [startChoice json message] none))
  | .contentBlockStart index (.toolUse id name input) =>
    (cell, some (placeholderChunk (buildToolChoice 0
      (buildToolCallChunk (chunkIndex index) (some id) (some name) (some (json.print input))))))
  | .contentBlockStart _ _ => (cell, none)
  | .contentBlockDelta index (.textDelta text) =>
    (cell, some (placeholderChunk (buildTextChoice (chunkIndex index) text)))
  | .contentBlockDelta index (.inputJsonDelta partialJson) =>
    (cell, some (placeholderChunk (buildToolChoice (chunkIndex index)
      (buildToolCallChunk (chunkIndex index) none none (some partialJson)))))
  | .contentBlockDelta _ (.thinkingDelta _) | .contentBlockDelta _ (.signatureDelta _) => (cell, none)
  | .contentBlockStop _ | .ping => (cell, none)
  | .messageStop => (cell, some (stopChunk cell))
  | .messageDelta delta usage =>
    let completionUsage := buildStreamUsage ((usage.map fun u => u.inputTokens).getD 0)
      ((usage.map fun u => u.outputTokens).getD 0)
    (cell.map fun state => state.onMessageDelta usage,
      some (placeholderChunk (buildFinishChoice (mapAnthropicFinishReason delta.stopReason) completionUsage
        delta.stopSequence)))
  | .error _ _ => (cell, none)

/-- The chunks of a whole stream, the cell handed on from event to event. -/
def tryConvertChunks (cell : Option AnthropicStreamOpenAiUsageState) :
    List StreamEvent → List CreateChatCompletionStreamResponse
  | [] => []
  | event :: rest =>
    let (next, converted) := tryConvertChunk json cell event
    converted.toList ++ tryConvertChunks next rest

end Stream

end AiGateway.Anthropic
