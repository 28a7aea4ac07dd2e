import AiGateway.MapperProfiles
import AiGateway.ChatRequests
import AiGateway.Lib.Splits
import Mathlib.Data.List.Infix

/-! Chat completion requests as Bedrock's Converse API takes them. The builders of its types
fail only where a required field is missing. -/

namespace AiGateway.Bedrock

open OpenAi Lib.Splits

/-- What the code takes from its libraries: the media type of a data URI, base64, and a JSON
value as a document. -/
structure Decoders where
  mimeFromDataUri : String → Option String
  base64 : List Char → Option (List UInt8)
  document : Json → Option Json

inductive ImageFormat where
  | png
  | jpeg
  | gif
  | webp
  deriving DecidableEq, Repr

inductive ContentBlock where
  | text (text : String)
  | image (format : ImageFormat) (bytes : List UInt8)
  | toolUse (toolUseId name : String) (input : Json)
  | toolResult (toolUseId content : String)
  deriving Repr

inductive TurnRole where
  | user
  | assistant
  deriving DecidableEq, Repr

structure Message where
  role : TurnRole
  content : List ContentBlock
  deriving Repr

structure ToolSpecification where
  name : String
  description : Option String
  inputSchema : Option Json
  deriving Repr

inductive ToolChoice where
  | auto
  | any
  | tool (name : String)
  deriving DecidableEq, Repr

structure ToolConfiguration where
  toolChoice : Option ToolChoice
  tools : List ToolSpecification
  deriving Repr

structure InferenceConfiguration where
  topP : UInt32
  temperature : UInt32
  maxTokens : Int32
  stopSequences : Option (List String)
  deriving DecidableEq, Repr

/-- The system prompt is a field of its own, which the converter does not set. -/
structure ConverseInput where
  modelId : String
  messages : List Message
  system : Option (List String)
  requestMetadata : Option (List (String × String))
  thinkingBudget : Option Nat
  toolConfig : Option ToolConfiguration
  inferenceConfig : InferenceConfiguration
  deriving Repr

def bedrockImageFormat : String → Option ImageFormat
  | "image/png" => some .png
  | "image/jpeg" => some .jpeg
  | "image/gif" => some .gif
  | "image/webp" => some .webp
  | _ => none

/-- The budget goes to the additional fields of the request, for Anthropic's models. -/
def mapReasoningEffortToBedrockFields (targetModel : ModelId) (reasoningEffort : Option ReasoningEffort)
    (maxTokens : UInt32) : Option Nat :=
  match targetModel with
  | .bedrock model =>
    if model.provider ≠ "anthropic" ∨ maxTokens < 1024 then none
    else reasoningEffort.map fun effort => reasoningBudget effort maxTokens
  | _ => none

def mapToolChoice : ToolChoiceOption → Option ToolChoice
  | .named name => some (.tool name)
  | .auto => some .auto
  | .required => some .any
  | .none => none

section Messages
variable (decoders : Decoders)

def mapTools (tools : Option (List ChatTool)) : Option (List ToolSpecification) :=
  match tools with
  | none => none
  | some tools =>
    let mapped : List ToolSpecification := tools.filterMap fun tool =>
      tool.function.map fun func => ⟨func.name, func.description, func.parameters.bind decoders.document⟩
    if mapped.isEmpty then none else some mapped

def mapImage (url : String) : Option ContentBlock :=
  if "http".toList <+: url.toList then none
  else do
    let mime ← decoders.mimeFromDataUri url
    let format ← bedrockImageFormat mime
    let (_, encoded) ← splitOnce ',' url.toList
    let bytes ← decoders.base64 encoded
    pure (.image format bytes)

def mapUserPart : UserPart → Option ContentBlock
  | .text text => some (.text text)
  | .imageUrl url => mapImage decoders url
  | .inputAudio _ => none

def mapUserContent : UserContent → List ContentBlock
  | .text content => [.text content]
  | .array parts => parts.filterMap (mapUserPart decoders)

def mapAssistantPart : AssistantPart → ContentBlock
  | .text text => .text text
  | .refusal refusal => .text refusal

def mapAssistantContent : AssistantContent → List ContentBlock
  | .text content => [.text content]
  | .array parts => parts.map mapAssistantPart

def mapToolContent (toolCallId : String) : TextContent → List ContentBlock
  | .text content => [.toolResult toolCallId content]
  | .array parts => parts.map (.toolResult toolCallId)

/-- The turn a message becomes, if it does. -/
def mapMessage (tools : Option (List ToolSpecification)) : RequestMessage → Option Message
  | .developer _ | .system _ => none
  | .user content => some ⟨.user, mapUserContent decoders content⟩
  | .assistant content _ => content.map fun content => ⟨.assistant, mapAssistantContent content⟩
  | .tool content toolCallId => some ⟨.assistant, mapToolContent toolCallId content⟩
  | .function _ name =>
    (tools.bind fun tools => tools.find? fun spec => spec.name == name).map fun spec =>
      ⟨.assistant, (spec.inputSchema.map fun input => ContentBlock.toolUse name name input).toList⟩

end Messages

/-- `i32::try_from(max_tokens)`, with the default where it does not fit. -/
def signedOrDefault (maxTokens : UInt32) : Int32 :=
  if maxTokens.toNat < UInt32.size / 2 then maxTokens.toInt32 else 2000

section Convert
variable (chrono : Chrono) (catalog : Catalog) (decoders : Decoders)

def tryConvert (modelMapper : ModelMapper) (value : CreateChatCompletionRequest) :
    Except ConvertError ConverseInput := do
  let sourceModel ← (ModelId.fromStr chrono value.model.toList).mapError .model
  let targetModel ← (modelMapper.mapModel catalog sourceModel .bedrock).mapError .mapping
  let maxTokens := value.maxCompletionTokens.getD defaultMaxTokens
  let tools := mapTools decoders value.tools
  pure {
    modelId := String.ofList (targetModel.fmt chrono)
    messages := value.messages.filterMap (mapMessage decoders tools)
    system := none
    requestMetadata := value.user.map fun user => [("user_id", user)]
    thinkingBudget := mapReasoningEffortToBedrockFields targetModel value.reasoningEffort maxTokens
    toolConfig := tools.map fun tools => ⟨value.toolChoice.bind mapToolChoice, tools⟩
    inferenceConfig :=
      ⟨value.topP.getD 0, value.temperature.getD 0, signedOrDefault maxTokens, value.stop.map Stop.sequences⟩ }

end Convert

end AiGateway.Bedrock
