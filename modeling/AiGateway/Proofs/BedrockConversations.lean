import AiGateway.BedrockRequests
import AiGateway.Conversations
import AiGateway.Proofs.ModelNames

/-! What Bedrock is told of a request's conversation. -/

namespace AiGateway.Bedrock

open OpenAi Lib.Subsequences

def TurnRole.speaker : TurnRole → Speaker
  | .user => .user
  | .assistant => .assistant

def Message.turns (message : Message) : List (TurnRole × ContentBlock) :=
  message.content.map fun block => (message.role, block)

section Carried
variable (json : JsonText)

/-- A block says the same as an item. A call's input is the value of its arguments where
these are JSON. -/
def Carries : Item → ContentBlock → Prop
  | .text said, .text text => text = said
  | .toolCall id name arguments, .toolUse id' name' input =>
    id' = id ∧ name' = name ∧ ∀ value, json.parse arguments = some value → input = value
  | .toolResult toolCallId said, .toolResult toolUseId content => toolUseId = toolCallId ∧ content = said
  | _, _ => False

/-- A turn says the same under the same role. -/
def CarriedBy (said : Speaker × Item) (turn : TurnRole × ContentBlock) : Prop :=
  turn.1.speaker = said.1 ∧ Carries json said.2 turn.2

/-- Everything that is said in the request stands in the input, in order and under its role,
and every system or developer text among the system texts. -/
structure ContentKept (request : CreateChatCompletionRequest) (input : ConverseInput) : Prop where
  turns : List.SublistForall₂ (CarriedBy json) (request.messages.flatMap RequestMessage.items)
    (input.messages.flatMap Message.turns)
  system : ∀ message ∈ request.messages, ∀ text ∈ message.systemTexts,
    ∃ part ∈ input.system.getD [], text.toList <:+: part.toList

/-- A turn says the same, where the role of a tool's result is left open. -/
def ToldBy (said : Speaker × Item) (turn : TurnRole × ContentBlock) : Prop :=
  Carries json said.2 turn.2 ∧
    match said.2 with
    | .toolResult _ _ => True
    | _ => turn.1.speaker = said.1

variable (decoders : Decoders)

/-- What a message says apart from its tool calls. -/
def plainItems (message : RequestMessage) : List (Speaker × Item) :=
  message.items.filter fun said => !said.2.isToolCall

theorem filter_toolCalls (calls : List ToolCall) :
    (calls.map ToolCall.item).filter (fun said => !said.2.isToolCall) = [] := by
  apply List.filter_eq_nil_iff.mpr
  intro said member
  obtain ⟨call, -, rfl⟩ := List.mem_map.mp member
  simp [ToolCall.item, Item.isToolCall]

theorem userContent_told (content : UserContent) :
    List.SublistForall₂ (ToldBy json) content.items
      ((mapUserContent decoders content).map fun block => (TurnRole.user, block)) := by
  cases content with
  | text content => exact said_found ⟨rfl, rfl⟩
  | array parts =>
    rw [mapUserContent, List.map_filterMap]
    exact userParts_found (fun text => ⟨(.user, .text text), rfl, rfl, rfl⟩) parts

theorem assistantContent_told (content : AssistantContent) :
    List.SublistForall₂ (ToldBy json) content.items
      ((mapAssistantContent content).map fun block => (TurnRole.assistant, block)) := by
  cases content with
  | text content => exact said_found ⟨rfl, rfl⟩
  | array parts =>
    rw [mapAssistantContent, List.map_map]
    exact assistantParts_found (fun text => ⟨rfl, rfl⟩) (fun text => ⟨rfl, rfl⟩) parts

theorem toolContent_told (toolCallId : String) (content : TextContent) :
    List.SublistForall₂ (ToldBy json) (content.parts.map fun text => (.user, .toolResult toolCallId text))
      ((mapToolContent toolCallId content).map fun block => (TurnRole.assistant, block)) := by
  have blocks : mapToolContent toolCallId content = content.parts.map (.toolResult toolCallId) := by
    cases content <;> rfl
  rw [blocks, List.map_map]
  exact toolParts_found (fun text => ⟨⟨rfl, rfl⟩, trivial⟩) content

theorem message_told (tools : Option (List ToolSpecification)) (message : RequestMessage) :
    List.SublistForall₂ (ToldBy json) (plainItems message)
      ((mapMessage decoders tools message).toList.flatMap Message.turns) := by
  have alone (message : Message) : (some message).toList.flatMap Message.turns = message.turns :=
    List.flatMap_singleton ..
  cases message with
  | developer content => exact .nil
  | system content => exact .nil
  | user content =>
    rw [mapMessage, alone]
    exact sublistForall₂_of_sublist List.filter_sublist (userContent_told json decoders content)
  | assistant content toolCalls =>
    rw [plainItems, RequestMessage.items, List.filter_append, filter_toolCalls, List.append_nil]
    cases content with
    | none => exact .nil
    | some content =>
      rw [mapMessage, Option.map_some, Option.map_some, alone]
      exact sublistForall₂_of_sublist List.filter_sublist (assistantContent_told json content)
  | tool content toolCallId =>
    rw [mapMessage, alone]
    exact sublistForall₂_of_sublist List.filter_sublist (toolContent_told json toolCallId content)
  | function content name => exact .nil

end Carried

section Requests
variable (chrono : Chrono) (catalog : Catalog) (json : JsonText) (decoders : Decoders)
variable (modelMapper : ModelMapper) (request : CreateChatCompletionRequest)

/-- Every text of the user and the assistant reaches Bedrock in order and under its role, and
every result of a tool with its call's id. System and developer messages are ignored. -/
theorem request_texts_told (source target : ModelId)
    (read : ModelId.fromStr chrono request.model.toList = .ok source)
    (mapped : modelMapper.mapModel catalog source .bedrock = .ok target) :
    ∃ input, tryConvert chrono catalog decoders modelMapper request = .ok input ∧ input.system = none ∧
      List.SublistForall₂ (ToldBy json) (request.messages.flatMap plainItems)
        (input.messages.flatMap Message.turns) := by
  refine ⟨_, conversion_ok_iff.mpr ⟨source, target, read, mapped, rfl⟩, rfl, ?_⟩
  apply sublistForall₂_filterMap
  intro message _
  exact message_told json decoders _ message

end Requests

def haiku : ModelId := .bedrock ⟨none, "anthropic", "claude-3-haiku", .date ⟨2024, 3, 7⟩ .yearMonthDay, "v1:0"⟩

/-- A catalog in which Bedrock offers one model. -/
def haikuCatalog : Catalog :=
  { providerModels := [(.bedrock, [haiku])]
    defaultModelMapping := ⟨[("gpt-4o", ⟨[haiku], by simp, by decide⟩)], by simp, by simp⟩
    providerIsRouterFlags := [] }

def haikuRequest (messages : List RequestMessage) : CreateChatCompletionRequest :=
  ⟨messages, "bedrock/anthropic.claude-3-haiku-20240307-v1:0", none, none, none, none, none, none, none, none, none, none⟩

theorem haiku_read :
    ModelId.fromStr (ModelIds.Calendar.chrono 2026) "bedrock/anthropic.claude-3-haiku-20240307-v1:0".toList =
      .ok haiku := by
  decide

theorem haiku_mapped : ModelMapper.mapModel ⟨none, none⟩ haikuCatalog haiku .bedrock = .ok haiku := by
  decide

/-- Nothing to decode. -/
def silentDecoders : Decoders := ⟨fun _ => none, fun _ => none, fun _ => none⟩

/-- A question that is answered with a tool. -/
def weatherRequest : CreateChatCompletionRequest :=
  haikuRequest [.system (.text "Be brief."), .user (.text "What is the weather in Paris?"),
    .assistant (some (.text "Let me look."))
      (some [⟨"toolu_1", .function, "lookup_weather", "\x7b\"city\":\"Paris\"\x7d"⟩]),
    .tool (.text "Sunny") "toolu_1"]

theorem weather_texts_told :
    weatherRequest.messages.flatMap plainItems =
        [(.user, .text "What is the weather in Paris?"), (.assistant, .text "Let me look."),
          (.user, .toolResult "toolu_1" "Sunny")] ∧
      ∃ input, tryConvert (ModelIds.Calendar.chrono 2026) haikuCatalog silentDecoders ⟨none, none⟩ weatherRequest =
          .ok input ∧ input.system = none ∧
        List.SublistForall₂ (ToldBy .sample) (weatherRequest.messages.flatMap plainItems)
          (input.messages.flatMap Message.turns) :=
  ⟨by decide, request_texts_told (ModelIds.Calendar.chrono 2026) haikuCatalog .sample silentDecoders ⟨none, none⟩
    weatherRequest haiku haiku haiku_read haiku_mapped⟩

def briefRequest : CreateChatCompletionRequest :=
  haikuRequest [.system (.text "Be brief."), .user (.text "Hello")]

theorem brief_system_ignored :
    ∃ input, tryConvert (ModelIds.Calendar.chrono 2026) haikuCatalog silentDecoders ⟨none, none⟩ briefRequest =
        .ok input ∧ ¬ ContentKept .sample briefRequest input := by
  refine ⟨_, rfl, ?_⟩
  intro kept
  obtain ⟨part, member, -⟩ := kept.system (.system (.text "Be brief.")) (by decide) "Be brief." (by decide)
  cases member

end AiGateway.Bedrock
