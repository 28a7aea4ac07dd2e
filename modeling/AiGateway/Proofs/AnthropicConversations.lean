import AiGateway.AnthropicRequests
import AiGateway.Conversations
import AiGateway.Lib.Subsequences
import AiGateway.Proofs.ModelNames

/-! What Anthropic is told of a request's conversation. -/

namespace AiGateway.Anthropic

open OpenAi Lib.Subsequences

def Role.speaker : Role → Speaker
  | .user => .user
  | .assistant => .assistant

def MessageContent.contentBlocks : MessageContent → List ContentBlock
  | .text content => [.text content]
  | .blocks content => content

def Message.turns (message : Message) : List (Role × ContentBlock) :=
  message.content.contentBlocks.map fun block => (message.role, block)

section Carried
variable (json : JsonText)

/-- The input a call is made with: none for an empty text, else the value its arguments are the
JSON of. -/
def InputOf (arguments : String) (input : Json) : Prop :=
  (arguments = "" ∧ input = .object []) ∨ json.parse arguments = some input

/-- A block says the same as an item. -/
def Carries : Item → ContentBlock → Prop
  | .text said, .text text => text = said
  | .toolCall id name arguments, .toolUse id' name' input => id' = id ∧ name' = name ∧ InputOf json arguments input
  | .toolResult toolCallId said, .toolResult toolUseId content => toolUseId = toolCallId ∧ content = said
  | _, _ => False

def CarriedBy (said : Speaker × Item) (turn : Role × ContentBlock) : Prop :=
  turn.1.speaker = said.1 ∧ Carries json said.2 turn.2

/-- What a message says, and the bare result of a tool that answered with no parts. -/
def heldItems (message : RequestMessage) : List (Speaker × Item) :=
  match message with
  | .tool (.array []) toolCallId => [(.user, .toolResult toolCallId "")]
  | message => message.items

/-- Everything that is said in the request stands in the parameters, in order and under its
role, and every system or developer text in the system prompt. -/
structure ContentKept (request : CreateChatCompletionRequest) (params : CreateMessageParams) : Prop where
  turns : List.SublistForall₂ (CarriedBy json) (request.messages.flatMap heldItems)
    (params.messages.flatMap Message.turns)
  system : ∀ message ∈ request.messages, ∀ text ∈ message.systemTexts,
    text.toList <:+: (params.system.getD "").toList

variable (mimeFromDataUri : String → Option String)

theorem userContent_carried (content : UserContent) :
    List.SublistForall₂ (CarriedBy json) content.items
      ((mapUserContent mimeFromDataUri content).contentBlocks.map fun block => (Role.user, block)) := by
  cases content with
  | text content => exact said_found ⟨rfl, rfl⟩
  | array parts =>
    rw [mapUserContent, MessageContent.contentBlocks, List.map_filterMap]
    exact userParts_found (fun text => ⟨(.user, .text text), rfl, rfl, rfl⟩) parts

theorem assistantContent_carried (content : Option AssistantContent) :
    List.SublistForall₂ (CarriedBy json) ((content.map AssistantContent.items).getD [])
      ((mapAssistantContent content).map fun block => (Role.assistant, block)) := by
  match content with
  | none => exact .nil
  | some (.text content) =>
    -- an empty text is skipped, and nothing is said by it
    rw [Option.map_some, Option.getD_some, AssistantContent.items, mapAssistantContent]
    unfold said
    split
    · exact .nil
    · exact .cons ⟨rfl, rfl⟩ .nil
  | some (.array parts) =>
    rw [mapAssistantContent, List.map_map]
    exact assistantParts_found (fun text => ⟨rfl, rfl⟩) (fun text => ⟨rfl, rfl⟩) parts

theorem toolContent_carried (toolCallId : String) (content : TextContent) :
    List.SublistForall₂ (CarriedBy json) (content.parts.map fun text => (.user, .toolResult toolCallId text))
      ((mapToolContent toolCallId content).map fun block => (Role.user, block)) := by
  have blocks : mapToolContent toolCallId content = content.parts.map (.toolResult toolCallId) := by
    cases content <;> rfl
  rw [blocks, List.map_map]
  exact toolParts_found (fun text => ⟨rfl, rfl, rfl⟩) content

variable {json}

/-- The arguments of a call are empty or JSON. -/
def ReadableArguments (json : JsonText) (call : ToolCall) : Prop :=
  call.function.arguments = "" ∨ (json.parse call.function.arguments).isSome = true

theorem toolCall_carried {call : ToolCall} (readable : ReadableArguments json call) :
    CarriedBy json call.item (Role.assistant, mapToolCall json call) := by
  refine ⟨rfl, rfl, rfl, ?_⟩
  by_cases empty : call.function.arguments = ""
  · refine Or.inl ⟨empty, ?_⟩
    rw [empty]
    rfl
  · obtain ⟨value, parsed⟩ := Option.isSome_iff_exists.mp (readable.resolve_left empty)
    rw [if_neg fun none => empty (String.isEmpty_iff.mp none), parsed]
    exact Or.inr parsed

theorem message_carried (tools : Option (List Tool)) (message : RequestMessage)
    (readable : ∀ call ∈ message.calls, ReadableArguments json call)
    (answered : ∀ toolCallId, message ≠ .tool (.array []) toolCallId) :
    List.SublistForall₂ (CarriedBy json) (heldItems message)
      ((mapMessage json mimeFromDataUri tools message).toList.flatMap Message.turns) := by
  have alone (message : Message) : (some message).toList.flatMap Message.turns = message.turns :=
    List.flatMap_singleton ..
  match message with
  | .developer content => exact .nil
  | .system content => exact .nil
  | .user content =>
    rw [mapMessage, alone]
    exact userContent_carried json mimeFromDataUri content
  | .assistant content toolCalls =>
    have calls : List.SublistForall₂ (CarriedBy json) ((toolCalls.getD []).map ToolCall.item)
        (((toolCalls.getD []).map (mapToolCall json)).map fun block => (Role.assistant, block)) := by
      rw [List.map_map]
      exact sublistForall₂_map fun call member => toolCall_carried (readable call member)
    have both := sublistForall₂_append (assistantContent_carried json content) calls
    rw [← List.map_append] at both
    rw [mapMessage]
    split
    · rename_i empty
      rw [List.isEmpty_iff.mp empty] at both
      exact both
    · rw [alone]
      exact both
  | .tool (.array []) toolCallId => exact absurd rfl (answered toolCallId)
  | .tool (.text content) toolCallId =>
    rw [mapMessage, alone]
    exact toolContent_carried json toolCallId (.text content)
  | .tool (.array (part :: parts)) toolCallId =>
    rw [mapMessage, alone]
    exact toolContent_carried json toolCallId (.array (part :: parts))
  | .function content name => exact .nil

/-- What a call is carried by has an input that its arguments give. -/
theorem readable_of_carried {call : ToolCall} {turn : Role × ContentBlock} (carried : CarriedBy json call.item turn) :
    ReadableArguments json call := by
  obtain ⟨role, block⟩ := turn
  cases block with
  | toolUse id name input =>
    obtain ⟨-, -, -, ⟨empty, -⟩ | parsed⟩ := carried
    · exact Or.inl empty
    · exact Or.inr (Option.isSome_of_eq_some parsed)
  | text text => exact absurd carried.2 id
  | image source => exact absurd carried.2 id
  | toolResult toolUseId content => exact absurd carried.2 id
  | _ => exact absurd carried.2 id

def isToolResult : ContentBlock → Bool
  | .toolResult _ _ => true
  | _ => false

theorem toolResult_of_carried {said : Speaker × Item} {turn : Role × ContentBlock} (carried : CarriedBy json said turn)
    (result : said.2.isToolResult = true) : isToolResult turn.2 = true := by
  obtain ⟨speaker, item⟩ := said
  obtain ⟨role, block⟩ := turn
  cases item with
  | text text => cases result
  | toolCall id name arguments => cases result
  | toolResult toolCallId content =>
    cases block with
    | toolResult toolUseId content => rfl
    | _ => exact absurd carried.2 id

end Carried

section Results
variable {json : JsonText} {mimeFromDataUri : String → Option String}

/-- The results of tools among the turns a message becomes. -/
def resultTurns (json : JsonText) (mimeFromDataUri : String → Option String) (tools : Option (List Tool))
    (message : RequestMessage) : Nat :=
  ((mapMessage json mimeFromDataUri tools message).toList.flatMap Message.turns).countP fun turn => isToolResult turn.2

theorem resultTurns_tool (tools : Option (List Tool)) (content : TextContent) (toolCallId : String) :
    resultTurns json mimeFromDataUri tools (.tool content toolCallId) = content.parts.length := by
  have blocks : mapToolContent toolCallId content = content.parts.map (.toolResult toolCallId) := by
    cases content <;> rfl
  rw [resultTurns, mapMessage, Option.toList_some, List.flatMap_singleton, Message.turns,
    MessageContent.contentBlocks, blocks, List.map_map, List.countP_map]
  exact List.countP_eq_length.mpr fun _ _ => rfl

theorem userPart_not_result {part : UserPart} {block : ContentBlock} (become : mapUserPart mimeFromDataUri part = some block) :
    isToolResult block = false := by
  cases part with
  | text text => cases become; rfl
  | imageUrl url =>
    obtain ⟨source, -, rfl⟩ := Option.map_eq_some_iff.mp become
    rfl
  | inputAudio data => cases become

theorem assistantBlock_not_result {content : Option AssistantContent} {toolCalls : Option (List ToolCall)}
    {block : ContentBlock}
    (member : block ∈ mapAssistantContent content ++ (toolCalls.getD []).map (mapToolCall json)) :
    isToolResult block = false := by
  rcases List.mem_append.mp member with spoken | called
  · match content with
    | none => cases spoken
    | some (.text text) =>
      rw [mapAssistantContent] at spoken
      split at spoken
      · cases spoken
      · rw [List.mem_singleton.mp spoken]; rfl
    | some (.array parts) =>
      obtain ⟨part, -, rfl⟩ := List.mem_map.mp spoken
      cases part <;> rfl
  · obtain ⟨call, -, rfl⟩ := List.mem_map.mp called
    rfl

/-- Only tools' messages become results. -/
theorem resultTurns_le (tools : Option (List Tool)) (message : RequestMessage) :
    resultTurns json mimeFromDataUri tools message ≤ (heldItems message).countP fun said => said.2.isToolResult := by
  have silent {blocks : List ContentBlock} (role : Role) (plain : ∀ block ∈ blocks, isToolResult block = false) :
      (blocks.map fun block => (role, block)).countP (fun turn => isToolResult turn.2) = 0 := by
    rw [List.countP_map]
    apply List.countP_eq_zero.mpr
    intro block member
    exact Bool.eq_false_iff.mp (plain block member)
  match message with
  | .developer content => exact Nat.zero_le _
  | .system content => exact Nat.zero_le _
  | .user content =>
    rw [resultTurns, mapMessage, Option.toList_some, List.flatMap_singleton, Message.turns, silent]
    · exact Nat.zero_le _
    · intro block member
      cases content with
      | text text => rw [List.mem_singleton.mp member]; rfl
      | array parts =>
        obtain ⟨part, -, become⟩ := List.mem_filterMap.mp member
        exact userPart_not_result become
  | .assistant content toolCalls =>
    rw [resultTurns, mapMessage]
    split
    · exact Nat.zero_le _
    · rw [Option.toList_some, List.flatMap_singleton, Message.turns, MessageContent.contentBlocks,
        silent _ (fun block => assistantBlock_not_result)]
      exact Nat.zero_le _
  | .tool (.array []) toolCallId => exact Nat.zero_le _
  | .tool (.text content) toolCallId => exact Nat.le_of_eq (resultTurns_tool tools (.text content) toolCallId)
  | .tool (.array (part :: parts)) toolCallId =>
    have held : heldItems (.tool (.array (part :: parts)) toolCallId) =
        (part :: parts).map fun text => (.user, .toolResult toolCallId text) := rfl
    rw [resultTurns_tool, held, List.countP_map]
    exact Nat.le_of_eq (List.countP_eq_length.mpr fun _ _ => rfl).symm
  | .function content name =>
    rw [resultTurns, mapMessage]
    cases tools.bind fun tools => tools.find? fun tool => tool.name == name with
    | none => exact Nat.zero_le _
    | some tool => exact Nat.zero_le _

/-- A tool that answered with no parts leaves no result behind. -/
theorem results_kept {messages : List RequestMessage} {tools : Option (List Tool)}
    (turns : List.SublistForall₂ (CarriedBy json) (messages.flatMap heldItems)
      ((messages.filterMap (mapMessage json mimeFromDataUri tools)).flatMap Message.turns)) :
    ∀ message ∈ messages, ∀ toolCallId, message ≠ .tool (.array []) toolCallId := by
  have enough := countP_le_of_sublistForall₂ turns fun _ _ => toolResult_of_carried
  rw [flatMap_filterMap] at enough
  rintro message member toolCallId rfl
  have kept := countP_le_of_flatMap (fun message _ => resultTurns_le tools message) enough _ member
  exact absurd kept (Nat.not_succ_le_zero 0)

end Results

section System

/-- The system or developer texts of the first message, one a line. -/
def firstSystemText (request : CreateChatCompletionRequest) : String :=
  "\n".intercalate ((request.messages.head?.map RequestMessage.systemTexts).getD [])

/-- Every system or developer text after the first message can be found in that message. -/
def SystemTextsFirst (request : CreateChatCompletionRequest) : Prop :=
  ∀ message ∈ request.messages.tail, ∀ text ∈ message.systemTexts, text.toList <:+: (firstSystemText request).toList

theorem joined_eq (content : TextContent) : content.joined = "\n".intercalate content.parts := by
  cases content with
  | text content => exact String.intercalate_singleton.symm
  | array parts => rfl

theorem systemPrompt_getD (request : CreateChatCompletionRequest) :
    (systemPrompt request).getD "" = firstSystemText request := by
  unfold systemPrompt firstSystemText
  match request.messages.head? with
  | none => exact String.intercalate_nil.symm
  | some (.developer content) => exact joined_eq content
  | some (.system content) => exact joined_eq content
  | some (.user _) | some (.assistant _ _) | some (.tool _ _) | some (.function _ _) =>
    exact String.intercalate_nil.symm

theorem system_kept_iff (request : CreateChatCompletionRequest) :
    (∀ message ∈ request.messages, ∀ text ∈ message.systemTexts,
      text.toList <:+: ((systemPrompt request).getD "").toList) ↔ SystemTextsFirst request := by
  rw [systemPrompt_getD]
  constructor
  · intro kept message later
    exact kept message (List.mem_of_mem_tail later)
  · intro first message member text inside
    cases messages : request.messages with
    | nil => rw [messages] at member; cases member
    | cons head rest =>
      rcases List.mem_cons.mp (messages ▸ member) with rfl | later
      · have joined : firstSystemText request = "\n".intercalate message.systemTexts := by
          rw [firstSystemText, messages]
          rfl
        rw [joined, String.toList_intercalate]
        exact infix_intercalate (List.mem_map_of_mem inside)
      · exact first message (by rw [messages]; exact later) text inside

end System

section Requests
variable (chrono : Chrono) (catalog : Catalog) (json : JsonText) (mimeFromDataUri : String → Option String)
variable (modelMapper : ModelMapper) (request : CreateChatCompletionRequest)

/-- Nothing of the request is lost: system and developer texts stand first, calls have arguments
that can be read, and every tool answered with a part. -/
structure Keepable : Prop where
  systemTexts : SystemTextsFirst request
  arguments : ∀ message ∈ request.messages, ∀ call ∈ message.calls, ReadableArguments json call
  results : ∀ message ∈ request.messages, ∀ toolCallId, message ≠ .tool (.array []) toolCallId

theorem call_mem_heldItems {message : RequestMessage} {call : ToolCall} (called : call ∈ message.calls) :
    call.item ∈ heldItems message := by
  match message with
  | .assistant content toolCalls => exact List.mem_append_right _ (List.mem_map_of_mem called)

theorem request_content_kept_iff (source target : ModelId)
    (read : ModelId.fromStr chrono request.model.toList = .ok source)
    (mapped : modelMapper.mapModel catalog source .anthropic = .ok target) :
    ∃ params, tryConvert chrono catalog json mimeFromDataUri modelMapper request = .ok params ∧
      (ContentKept json request params ↔ Keepable json request) := by
  refine ⟨_, conversion_ok_iff.mpr ⟨source, target, read, mapped, rfl⟩, ?_⟩
  constructor
  · intro kept
    refine ⟨(system_kept_iff request).mp kept.system, ?_, results_kept kept.turns⟩
    intro message member call called
    have item : call.item ∈ request.messages.flatMap heldItems :=
      List.mem_flatMap.mpr ⟨message, member, call_mem_heldItems called⟩
    obtain ⟨turn, -, carried⟩ := exists_of_sublistForall₂ kept.turns item
    exact readable_of_carried carried
  · intro keepable
    refine ⟨sublistForall₂_filterMap ?_, (system_kept_iff request).mpr keepable.systemTexts⟩
    intro message member
    exact message_carried mimeFromDataUri _ message (keepable.arguments message member) (keepable.results message member)

end Requests

def sonnet : ModelId := .modelIdWithVersion .anthropic ⟨"claude-sonnet", .implicitLatest⟩

/-- A catalog in which Anthropic offers one model. -/
def sonnetCatalog : Catalog :=
  { providerModels := [(.anthropic, [sonnet])]
    defaultModelMapping := ⟨[("gpt-4o", ⟨[sonnet], by simp, by decide⟩)], by simp, by simp⟩
    providerIsRouterFlags := [] }

def sonnetRequest (messages : List RequestMessage) : CreateChatCompletionRequest :=
  ⟨messages, "anthropic/claude-sonnet", none, none, none, none, none, none, none, none, none, none⟩

theorem sonnet_read : ModelId.fromStr (ModelIds.Calendar.chrono 2026) "anthropic/claude-sonnet".toList = .ok sonnet := by
  decide

theorem sonnet_mapped : ModelMapper.mapModel ⟨none, none⟩ sonnetCatalog sonnet .anthropic = .ok sonnet := by
  decide

/-- A question that is answered with a tool, under one system message. -/
def weatherRequest : CreateChatCompletionRequest :=
  sonnetRequest [.system (.text "Be brief."), .user (.text "What is the weather in Paris?"),
    .assistant (some (.text "")) (some [⟨"toolu_1", .function, "lookup_weather", "\x7b\"city\":\"Paris\"\x7d"⟩]),
    .tool (.text "Sunny") "toolu_1"]

theorem weather_content_kept :
    ∃ params, tryConvert (ModelIds.Calendar.chrono 2026) sonnetCatalog .sample (fun _ => none) ⟨none, none⟩
        weatherRequest = .ok params ∧
      ContentKept .sample weatherRequest params := by
  obtain ⟨params, converted, kept⟩ := request_content_kept_iff (ModelIds.Calendar.chrono 2026) sonnetCatalog .sample
    (fun _ => none) ⟨none, none⟩ weatherRequest sonnet sonnet sonnet_read sonnet_mapped
  refine ⟨params, converted, kept.mpr ⟨?_, ?_, ?_⟩⟩
  · intro message later text inside
    have silent : ∀ message ∈ weatherRequest.messages.tail, message.systemTexts = [] := by decide
    rw [silent message later] at inside
    cases inside
  · intro message member call called
    have parsed : ∀ message ∈ weatherRequest.messages, ∀ call ∈ message.calls,
        (JsonText.sample.parse call.function.arguments).isSome = true := by
      decide
    exact Or.inr (parsed message member call called)
  · rintro message member toolCallId rfl
    simp [weatherRequest, sonnetRequest] at member

/-- A developer message after the system message. -/
def frenchRequest : CreateChatCompletionRequest :=
  sonnetRequest [.system (.text "Be brief."), .developer (.text "Answer in French."), .user (.text "Hello")]

theorem french_content_lost :
    ∃ params, tryConvert (ModelIds.Calendar.chrono 2026) sonnetCatalog .sample (fun _ => none) ⟨none, none⟩
        frenchRequest = .ok params ∧
      params.system = some "Be brief." ∧ ¬ ContentKept .sample frenchRequest params := by
  refine ⟨_, rfl, rfl, ?_⟩
  intro kept
  have lost := kept.system (.developer (.text "Answer in French.")) (by decide) "Answer in French." (by decide)
  revert lost
  decide

end AiGateway.Anthropic
