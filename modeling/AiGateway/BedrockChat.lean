import AiGateway.MapperProfiles

/-! Bedrock's answers as chat completions: whole responses of the Converse API, and the
events that stream them. -/

namespace AiGateway.Bedrock

open OpenAi

structure ConverseToolUseBlock where
  toolUseId : String
  name : String
  input : Json
  deriving Repr

structure ConverseToolResultBlock where
  toolUseId : String
  deriving DecidableEq, Repr

structure ConverseReasoningContent where
  text : Option String
  deriving DecidableEq, Repr

structure ConverseGuardContent where
  text : Option String
  deriving DecidableEq, Repr

structure ConverseContentBlock where
  text : Option String
  toolUse : Option ConverseToolUseBlock
  toolResult : Option ConverseToolResultBlock
  reasoningContent : Option ConverseReasoningContent
  guardContent : Option ConverseGuardContent
  deriving Repr

structure ConverseMessage where
  content : List ConverseContentBlock
  deriving Repr

structure ConverseTokenUsage where
  inputTokens : Int32
  outputTokens : Int32
  totalTokens : Int32
  cacheReadInputTokens : Option Int32
  deriving DecidableEq, Repr

structure PromptRouterTrace where
  invokedModelId : Option String
  deriving DecidableEq, Repr

structure ConverseTrace where
  promptRouter : Option PromptRouterTrace
  deriving DecidableEq, Repr

/-- The output is there for a message, and holds nothing else. -/
structure ConverseResponse where
  output : Option ConverseMessage
  stopReason : String
  usage : Option ConverseTokenUsage
  trace : Option ConverseTrace
  deriving Repr

inductive ConversationRole where
  | assistant
  | user
  | unknown
  deriving DecidableEq, Repr

inductive ContentBlockStart where
  | toolUse (toolUseId name : String)
  | other
  deriving DecidableEq, Repr

/-- A piece of reasoning is text, or else a signature or redacted. -/
inductive ContentBlockDelta where
  | text (text : String)
  | toolUse (input : String)
  | reasoningContent (text : Option String)
  | other
  deriving DecidableEq, Repr

inductive ConverseStreamOutput where
  | messageStart (role : ConversationRole)
  | contentBlockStart (contentBlockIndex : Int32) (start : Option ContentBlockStart)
  | contentBlockDelta (contentBlockIndex : Int32) (delta : Option ContentBlockDelta)
  | contentBlockStop (contentBlockIndex : Int32)
  | messageStop (stopReason : String)
  | metadata (usage : Option ConverseTokenUsage)
  | unknown
  deriving DecidableEq, Repr

/-- `u32::try_from` of an `i32`. -/
def unsigned? (value : Int32) : Option UInt32 := if value < 0 then none else some value.toUInt32

def unsignedOrZero (value : Int32) : UInt32 := (unsigned? value).getD 0

def mapBedrockFinishReason : String → Option FinishReason
  | "end_turn" | "stop_sequence" => some .stop
  | "max_tokens" => some .length
  | "tool_use" => some .toolCalls
  | "content_filtered" | "guardrail_intervened" => some .contentFilter
  | _ => none

section Response
variable (json : JsonText)

/-- One turn of the loop over a message's blocks. The arguments of a tool result's call are
the content so far. -/
def extractBlock (state : Option String × List ToolCall) (block : ConverseContentBlock) :
    Option String × List ToolCall :=
  match block.toolUse, block.toolResult, block.text, block.reasoningContent, block.guardContent with
  | some toolUse, _, _, _, _ =>
    (state.1, state.2 ++ [⟨toolUse.toolUseId, .function, toolUse.name, json.print toolUse.input⟩])
  | none, some toolResult, _, _, _ =>
    (state.1, state.2 ++ [⟨toolResult.toolUseId, .function, toolResult.toolUseId,
      json.print ((state.1.map Json.string).getD .null)⟩])
  | none, none, some text, _, _ => (some text, state.2)
  | none, none, none, some reasoning, _ => (reasoning.text.orElse fun _ => state.1, state.2)
  | none, none, none, none, some guarded => (guarded.text.orElse fun _ => state.1, state.2)
  | none, none, none, none, none => state

def extractContent (blocks : List ConverseContentBlock) : Option String × List ToolCall :=
  blocks.foldl (extractBlock json) (none, [])

/-- The usage that stands in where the response has none. -/
def defaultTokenUsage : ConverseTokenUsage := ⟨2000, 2000, 2000, none⟩

/-- The id is a fresh one. -/
def convertBedrockResponse (newId : String) (profile : NonStreamFormatProfile) (value : ConverseResponse) :
    Except ConvertError CreateChatCompletionResponse := do
  validateBedrockResponseProfile profile
  let model := ((value.trace.bind fun trace => trace.promptRouter).bind fun router => router.invokedModelId).getD ""
  let tokens := value.usage.getD defaultTokenUsage
  let usage := buildUsage (unsignedOrZero tokens.inputTokens) (unsignedOrZero tokens.outputTokens)
    (tokens.cacheReadInputTokens.bind unsigned?)
  let contents := (value.output.map fun message => message.content).getD []
  let (content, toolCalls) := extractContent json contents
  pure (buildChatResponse newId model content (normalizeToolCalls toolCalls)
    (mapBedrockFinishReason value.stopReason) usage)

end Response

def streamRole : ConversationRole → Role
  | .assistant => .assistant
  | .user => .user
  | .unknown => .system

/-- The choices an event adds to its chunk. -/
def streamChoices : ConverseStreamOutput → List ChatChoiceStream
  | .messageStart role => [buildRoleChoice 0 (streamRole role)]
  | .contentBlockStart index (some (.toolUse toolUseId name)) =>
    [buildToolChoice 0 (buildToolCallChunk (unsignedOrZero index) (some toolUseId) (some name) (some ""))]
  | .contentBlockDelta index (some (.text text)) => [buildTextChoice (unsignedOrZero index) text]
  | .contentBlockDelta index (some (.toolUse input)) =>
    [buildToolChoice 0 (buildToolCallChunk (unsignedOrZero index) none none (some input))]
  | _ => []

def streamUsage : ConverseStreamOutput → CompletionUsage
  | .metadata (some usage) =>
    buildStreamUsage (unsignedOrZero usage.inputTokens) (unsignedOrZero usage.outputTokens)
  | _ => buildStreamUsage 0 0

/-- Every event becomes a chunk, and every chunk carries usage. -/
def convertBedrockStreamChunk (value : ConverseStreamOutput) : CreateChatCompletionStreamResponse :=
  buildStreamResponse "bedrock-stream-id" "bedrock-model" (streamChoices value) (some (streamUsage value))

end AiGateway.Bedrock
