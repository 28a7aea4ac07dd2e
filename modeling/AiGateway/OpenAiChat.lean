import AiGateway.Json

/-! The chat completions API as the gateway speaks it: usage, responses, stream chunks and
the helpers that build them. Fields that are always absent are left out. -/

namespace AiGateway.OpenAi

inductive Role where
  | system
  | user
  | assistant
  | tool
  | function
  deriving DecidableEq, Repr

inductive FinishReason where
  | stop
  | length
  | toolCalls
  | contentFilter
  | functionCall
  deriving DecidableEq, Repr

inductive ToolType where
  | function
  deriving DecidableEq, Repr

structure CacheWriteDetails where
  write5mTokens : UInt32
  write1hTokens : UInt32
  deriving DecidableEq, Repr

structure PromptTokensDetails where
  audioTokens : Option UInt32
  cachedTokens : Option UInt32
  cacheWriteTokens : Option UInt32
  cacheWriteDetails : Option CacheWriteDetails
  deriving DecidableEq, Repr

structure CompletionTokensDetails where
  reasoningTokens : Option UInt32
  audioTokens : Option UInt32
  acceptedPredictionTokens : Option UInt32
  rejectedPredictionTokens : Option UInt32
  deriving DecidableEq, Repr

structure CompletionUsage where
  promptTokens : UInt32
  completionTokens : UInt32
  totalTokens : UInt32
  promptTokensDetails : Option PromptTokensDetails
  completionTokensDetails : Option CompletionTokensDetails
  deriving DecidableEq, Repr

def CompletionUsage.default : CompletionUsage := ⟨0, 0, 0, none, none⟩

/-- `u32::saturating_add`. -/
def saturatingAdd (first second : UInt32) : UInt32 :=
  if first.toNat + second.toNat < UInt32.size then first + second else 0xFFFFFFFF

structure FunctionCall where
  name : String
  arguments : String
  deriving DecidableEq, Repr

structure ToolCall where
  id : String
  type : ToolType
  function : FunctionCall
  deriving DecidableEq, Repr

structure ResponseMessage where
  content : Option String
  refusal : Option String
  toolCalls : Option (List ToolCall)
  role : Role
  deriving DecidableEq, Repr

structure ChatChoice where
  index : UInt32
  message : ResponseMessage
  finishReason : Option FinishReason
  deriving DecidableEq, Repr

structure CreateChatCompletionResponse where
  id : String
  choices : List ChatChoice
  created : UInt32
  model : String
  object : String
  usage : Option CompletionUsage
  deriving DecidableEq, Repr

structure FunctionCallStream where
  name : Option String
  arguments : Option String
  deriving DecidableEq, Repr

structure ToolCallChunk where
  index : UInt32
  id : Option String
  type : Option ToolType
  function : Option FunctionCallStream
  deriving DecidableEq, Repr

structure StreamResponseDelta where
  role : Option Role
  content : Option String
  toolCalls : Option (List ToolCallChunk)
  refusal : Option String
  deriving DecidableEq, Repr

structure ChatChoiceStream where
  index : UInt32
  delta : StreamResponseDelta
  finishReason : Option FinishReason
  deriving DecidableEq, Repr

structure CreateChatCompletionStreamResponse where
  id : String
  choices : List ChatChoiceStream
  created : UInt32
  model : String
  object : String
  usage : Option CompletionUsage
  deriving DecidableEq, Repr

section StreamNormalizer

def buildStreamUsage (promptTokens completionTokens : UInt32) : CompletionUsage :=
  ⟨promptTokens, completionTokens, promptTokens + completionTokens, none, none⟩

def buildRoleChoice (index : UInt32) (role : Role) : ChatChoiceStream := ⟨index, ⟨some role, none, none, none⟩, none⟩

def buildTextChoice (index : UInt32) (content : String) : ChatChoiceStream :=
  ⟨index, ⟨none, some content, none, none⟩, none⟩

def buildToolCallChunk (index : UInt32) (id name arguments : Option String) : ToolCallChunk :=
  ⟨index, id, some .function, some ⟨name, arguments⟩⟩

def buildToolChoice (index : UInt32) (toolCall : ToolCallChunk) : ChatChoiceStream :=
  ⟨index, ⟨none, none, some [toolCall], none⟩, none⟩

def buildFinishChoice (finishReason : Option FinishReason) (_usage : CompletionUsage) (refusal : Option String) :
    ChatChoiceStream :=
  ⟨0, ⟨none, none, none, refusal⟩, finishReason⟩

def buildStreamResponse (id model : String) (choices : List ChatChoiceStream) (usage : Option CompletionUsage) :
    CreateChatCompletionStreamResponse :=
  ⟨id, choices, 0, model, "chat.completion.chunk", usage⟩

end StreamNormalizer

section ResponseNormalizer

def buildUsage (promptTokens completionTokens : UInt32) (cachedTokens : Option UInt32) : CompletionUsage :=
  ⟨promptTokens, completionTokens, promptTokens + completionTokens, some ⟨none, cachedTokens, none, none⟩, none⟩

def normalizeToolCalls (toolCalls : List ToolCall) : Option (List ToolCall) :=
  if toolCalls.isEmpty then none else some toolCalls

def buildAssistantMessage (content : Option String) (toolCalls : Option (List ToolCall)) : ResponseMessage :=
  ⟨content, none, toolCalls, .assistant⟩

def buildChatResponse (id model : String) (content : Option String) (toolCalls : Option (List ToolCall))
    (finishReason : Option FinishReason) (usage : CompletionUsage) : CreateChatCompletionResponse :=
  ⟨id, [⟨0, buildAssistantMessage content toolCalls, finishReason⟩], 0, model, "chat.completion", some usage⟩

end ResponseNormalizer

end AiGateway.OpenAi
