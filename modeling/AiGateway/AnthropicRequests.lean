import AiGateway.MapperProfiles
import AiGateway.ChatRequests
import AiGateway.AnthropicChat
import Mathlib.Data.List.Infix

/-! Chat completion requests as Anthropic's messages API takes them. -/

namespace AiGateway.Anthropic

open OpenAi Lib.Splits

inductive MessageContent where
  | text (content : String)
  | blocks (content : List ContentBlock)
  deriving Repr

structure Message where
  role : Role
  content : MessageContent
  deriving Repr

structure Tool where
  name : String
  description : Option String
  inputSchema : Json
  deriving Repr

inductive ToolChoice where
  | auto
  | any
  | tool (name : String)
  | none
  deriving DecidableEq, Repr

structure Thinking where
  budgetTokens : Nat
  deriving DecidableEq, Repr

structure CreateMessageParams where
  maxTokens : UInt32
  messages : List Message
  model : String
  system : Option String
  temperature : Option UInt32
  stopSequences : Option (List String)
  stream : Option Bool
  topK : Option UInt32
  topP : Option UInt32
  tools : Option (List Tool)
  toolChoice : Option ToolChoice
  metadata : Option (List (String × String))
  thinking : Option Thinking
  deriving Repr

def mapReasoningEffortToThinking (reasoningEffort : Option ReasoningEffort) (maxTokens : UInt32) : Option Thinking :=
  if maxTokens < 1024 then none else reasoningEffort.map fun effort => ⟨reasoningBudget effort maxTokens⟩

/-- Models of the third generation are named with an explicit `-latest`, later ones without. -/
def aliasVersion : ModelId → ModelId
  | .modelIdWithVersion .anthropic id =>
    if "claude-3".toList <:+: id.model.toList then .modelIdWithVersion .anthropic { id with version := .latest }
    else .modelIdWithVersion .anthropic { id with version := .implicitLatest }
  | model => model

def mapTools (tools : Option (List ChatTool)) : Option (List Tool) :=
  match tools with
  | none => none
  | some tools =>
    let mapped : List Tool := tools.filterMap fun tool =>
      tool.function.map fun func => ⟨func.name, func.description, func.parameters.getD .null⟩
    if mapped.isEmpty then none else some mapped

def mapToolChoice : ToolChoiceOption → ToolChoice
  | .named name => .tool name
  | .auto => .auto
  | .required => .any
  | .none => .none

section Messages
variable (json : JsonText) (mimeFromDataUri : String → Option String)

def mapImage (url : String) : Option ImageSource :=
  if "http".toList <+: url.toList then some ⟨"url", "", url⟩
  else do
    let mime ← mimeFromDataUri url
    let (_, b64) ← splitOnce ',' url.toList
    pure ⟨"base64", mime, String.ofList b64⟩

def mapUserPart : UserPart → Option ContentBlock
  | .text text => some (.text text)
  | .imageUrl url => (mapImage mimeFromDataUri url).map .image
  | .inputAudio _ => none

def mapUserContent : UserContent → MessageContent
  | .text content => .text content
  | .array parts => .blocks (parts.filterMap (mapUserPart mimeFromDataUri))

def mapAssistantPart : AssistantPart → ContentBlock
  | .text text => .text text
  | .refusal refusal => .text refusal

def mapAssistantContent : Option AssistantContent → List ContentBlock
  | some (.text content) => if content.isEmpty then [] else [.text content]
  | some (.array parts) => parts.map mapAssistantPart
  | none => []

def mapToolCall (call : ToolCall) : ContentBlock :=
  let input :=
    if call.function.arguments.isEmpty then .object []
    else (json.parse call.function.arguments).getD (.object [])
  .toolUse call.id call.function.name input

def mapToolContent (toolCallId : String) : TextContent → List ContentBlock
  | .text content => [.toolResult toolCallId content]
  | .array parts => parts.map (.toolResult toolCallId)

/-- The turn a message becomes, if it does. The system prompt is set apart. -/
def mapMessage (tools : Option (List Tool)) : RequestMessage → Option Message
  | .developer _ | .system _ => none
  | .user content => some ⟨.user, mapUserContent mimeFromDataUri content⟩
  | .assistant content toolCalls =>
    let contentBlocks := mapAssistantContent content ++ (toolCalls.getD []).map (mapToolCall json)
    if contentBlocks.isEmpty then none else some ⟨.assistant, .blocks contentBlocks⟩
  | .tool content toolCallId => some ⟨.user, .blocks (mapToolContent toolCallId content)⟩
  | .function _ name =>
    (tools.bind fun tools => tools.find? fun tool => tool.name == name).map fun tool =>
      ⟨.assistant, .blocks [.toolUse name tool.name tool.inputSchema]⟩

end Messages

section Convert
variable (chrono : Chrono) (catalog : Catalog) (json : JsonText) (mimeFromDataUri : String → Option String)

def tryConvert (modelMapper : ModelMapper) (value : CreateChatCompletionRequest) :
    Except ConvertError CreateMessageParams := do
  let sourceModel ← (ModelId.fromStr chrono value.model.toList).mapError .model
  let mappedModel ← (modelMapper.mapModel catalog sourceModel .anthropic).mapError .mapping
  let targetModel := aliasVersion mappedModel
  let maxTokens := value.maxCompletionTokens.getD (value.maxTokens.getD defaultMaxTokens)
  let tools := mapTools value.tools
  pure {
    maxTokens
    messages := value.messages.filterMap (mapMessage json mimeFromDataUri tools)
    model := String.ofList (targetModel.fmt chrono)
    system := systemPrompt value
    temperature := value.temperature
    stopSequences := value.stop.map Stop.sequences
    stream := value.stream
    topK := none
    topP := value.topP
    tools
    toolChoice := value.toolChoice.map mapToolChoice
    metadata := value.user.map fun user => [("user_id", user)]
    thinking := mapReasoningEffortToThinking value.reasoningEffort maxTokens }

/-- The conversion of a request that is one of Anthropic's already. -/
def tryConvertParams (modelMapper : ModelMapper) (value : CreateMessageParams) :
    Except ConvertError CreateMessageParams := do
  let sourceModel ← (ModelId.fromStr chrono value.model.toList).mapError .model
  let targetModel ← (modelMapper.mapModel catalog sourceModel .anthropic).mapError .mapping
  pure { value with model := String.ofList (targetModel.fmt chrono) }

end Convert

end AiGateway.Anthropic
