import AiGateway.OpenAiChat

/-! Chat completion requests, with the fields the converters read. -/

namespace AiGateway.OpenAi

/-- The content of system, developer and tool messages, whose parts are all text. -/
inductive TextContent where
  | text (text : String)
  | array (parts : List String)
  deriving DecidableEq, Repr

inductive UserPart where
  | text (text : String)
  | imageUrl (url : String)
  | inputAudio (data : String)
  deriving DecidableEq, Repr

inductive UserContent where
  | text (text : String)
  | array (parts : List UserPart)
  deriving DecidableEq, Repr

inductive AssistantPart where
  | text (text : String)
  | refusal (refusal : String)
  deriving DecidableEq, Repr

inductive AssistantContent where
  | text (text : String)
  | array (parts : List AssistantPart)
  deriving DecidableEq, Repr

inductive RequestMessage where
  | developer (content : TextContent)
  | system (content : TextContent)
  | user (content : UserContent)
  | assistant (content : Option AssistantContent) (toolCalls : Option (List ToolCall))
  | tool (content : TextContent) (toolCallId : String)
  | function (content : Option String) (name : String)
  deriving DecidableEq, Repr

structure FunctionObject where
  name : String
  description : Option String
  parameters : Option Json
  deriving Repr

structure ChatTool where
  function : Option FunctionObject
  deriving Repr

inductive ToolChoiceOption where
  | none
  | auto
  | required
  | named (name : String)
  deriving DecidableEq, Repr

inductive Stop where
  | string (stop : String)
  | stringArray (stops : List String)
  deriving DecidableEq, Repr

def Stop.sequences : Stop → List String
  | .string stop => [stop]
  | .stringArray stops => stops

inductive ReasoningEffort where
  | low
  | medium
  | high
  deriving DecidableEq, Repr

/-- Temperature and `top_p` are held by the bits of their floats. -/
structure CreateChatCompletionRequest where
  messages : List RequestMessage
  model : String
  reasoningEffort : Option ReasoningEffort
  maxTokens : Option UInt32
  maxCompletionTokens : Option UInt32
  stop : Option Stop
  stream : Option Bool
  temperature : Option UInt32
  topP : Option UInt32
  tools : Option (List ChatTool)
  toolChoice : Option ToolChoiceOption
  user : Option String
  deriving Repr

/-- The tokens a model may spend on reasoning, in both converters. -/
def reasoningBudget (effort : ReasoningEffort) (maxTokens : UInt32) : Nat :=
  match effort with
  | .low => 1024
  | .medium => max 1024 (maxTokens.toNat * 2 / 3)
  | .high => maxTokens.toNat

def TextContent.joined : TextContent → String
  | .text content => content
  | .array parts => "\n".intercalate parts

/-- Only the first message of a request is asked for a system prompt. -/
def systemPrompt (request : CreateChatCompletionRequest) : Option String :=
  match request.messages.head? with
  | some (.developer content) | some (.system content) => some content.joined
  | _ => none

end AiGateway.OpenAi
