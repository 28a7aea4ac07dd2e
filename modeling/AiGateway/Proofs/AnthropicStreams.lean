import AiGateway.AnthropicChat
import AiGateway.ChatAssembly
import Mathlib.Data.List.Basic
import AiGateway.Lib.Texts

/-! A message that Anthropic streams, read from its chunks and converted as a whole. -/

namespace AiGateway.Anthropic

open OpenAi Lib.Fragments

namespace ContentBlockDelta

/-- The deltas that a chunk is made of. -/
def isSent : ContentBlockDelta → Bool
  | .textDelta _ | .inputJsonDelta _ => true
  | .thinkingDelta _ | .signatureDelta _ => false

def thinking? : ContentBlockDelta → Option String
  | .thinkingDelta thinking => some thinking
  | _ => none

def signature? : ContentBlockDelta → Option String
  | .signatureDelta signature => some signature
  | _ => none

end ContentBlockDelta

section Streaming
variable (json : JsonText)

/-- The block that opens a stream and the deltas that fill it. -/
inductive BlockDeltas : ContentBlock → ContentBlock → List ContentBlockDelta → Prop
  | text (pieces : List String) :
    BlockDeltas (.text (String.join pieces)) (.text "") (pieces.map .textDelta)
  | toolUse (id name : String) (input : Json) (pieces : List String) :
    String.join pieces = json.print input →
    BlockDeltas (.toolUse id name input) (.toolUse id name (.object [])) (pieces.map .inputJsonDelta)
  | thinking (deltas : List ContentBlockDelta) :
    (∀ delta ∈ deltas, delta.isSent = false) →
    BlockDeltas
      (.thinking (String.join (deltas.filterMap ContentBlockDelta.thinking?))
        (String.join (deltas.filterMap ContentBlockDelta.signature?)))
      (.thinking "" "") deltas
  | redactedThinking (data : String) : BlockDeltas (.redactedThinking data) (.redactedThinking data) []

def blockEvents (index : Nat) (start : ContentBlock) (deltas : List ContentBlockDelta) : List StreamEvent :=
  .contentBlockStart index start :: deltas.map (.contentBlockDelta index) ++ [.contentBlockStop index]

/-- The events of a message's blocks, the first of which has the given index. -/
inductive BlockStream : Nat → List ContentBlock → List StreamEvent → Prop
  | nil (index : Nat) : BlockStream index [] []
  | cons {index : Nat} {block start : ContentBlock} {deltas : List ContentBlockDelta} {blocks : List ContentBlock}
    {events : List StreamEvent} :
    BlockDeltas json block start deltas → BlockStream (index + 1) blocks events →
    BlockStream index (block :: blocks) (blockEvents index start deltas ++ events)

/-- The events that stream a message of text, thinking and tool-use blocks. -/
inductive Streams (message : CreateMessageResponse) : List StreamEvent → Prop
  | intro (start : Usage) (usage : Option StreamUsage) {events : List StreamEvent} :
    BlockStream json 0 message.content events →
    Streams message (
      .messageStart ⟨message.id, message.role, [], message.model, none, none, start⟩ :: events ++
        [.messageDelta ⟨message.stopReason, message.stopSequence⟩ usage, .messageStop])

/-- The choices of the chunk an event turns into, if it does. -/
def eventChoices (event : StreamEvent) : List ChatChoiceStream :=
  ((tryConvertChunk json none event).2.map fun converted => converted.choices).getD []

theorem choicesOf_tryConvertChunk (cell : Option AnthropicStreamOpenAiUsageState) (event : StreamEvent) :
    choicesOf (tryConvertChunk json cell event).2.toList = eventChoices json event := by
  cases event with
  | contentBlockStart index block => cases block <;> rfl
  | contentBlockDelta index delta => cases delta <;> rfl
  | messageStop => cases cell <;> rfl
  | _ => rfl

/-- The usage cell has no say in the choices. -/
theorem choicesOf_tryConvertChunks (cell : Option AnthropicStreamOpenAiUsageState) (events : List StreamEvent) :
    choicesOf (tryConvertChunks json cell events) = events.flatMap (eventChoices json) := by
  induction events generalizing cell with
  | nil => rfl
  | cons event rest ih =>
    rw [tryConvertChunks, choicesOf_append, choicesOf_tryConvertChunk, ih, List.flatMap_cons]

end Streaming

/-- Every delta that is sent on comes with an index that turns into zero. -/
def OnFirstChoice (events : List StreamEvent) : Prop :=
  ∀ index delta, StreamEvent.contentBlockDelta index delta ∈ events → delta.isSent → chunkIndex index = 0

def ContentBlock.text? : ContentBlock → Option String
  | .text content => some content
  | _ => none

def textsOf (blocks : List ContentBlock) : List String := blocks.filterMap ContentBlock.text?

section Choices
variable (json : JsonText)

theorem eventChoices_index_iff (event : StreamEvent) :
    (∀ choice ∈ eventChoices json event, choice.index = 0) ↔
      ∀ index delta, event = .contentBlockDelta index delta → delta.isSent → chunkIndex index = 0 := by
  cases event with
  | contentBlockStart index block =>
    cases block <;>
      simp [eventChoices, tryConvertChunk, placeholderChunk, buildStreamResponse, buildToolChoice]
  | contentBlockDelta index delta =>
    cases delta <;>
      simp [eventChoices, tryConvertChunk, placeholderChunk, buildStreamResponse, buildToolChoice, buildTextChoice,
        ContentBlockDelta.isSent]
  | _ =>
    simp [eventChoices, tryConvertChunk, placeholderChunk, buildStreamResponse, startChoice, buildFinishChoice,
      stopChunk]

theorem choices_index_iff (events : List StreamEvent) :
    (∀ choice ∈ events.flatMap (eventChoices json), choice.index = 0) ↔ OnFirstChoice events := by
  have each := eventChoices_index_iff json
  constructor
  · intro zero index delta member sent
    refine (each _).mp ?_ index delta rfl sent
    intro choice chosen
    exact zero choice (List.mem_flatMap.mpr ⟨_, member, chosen⟩)
  · intro first choice member
    obtain ⟨event, inside, chosen⟩ := List.mem_flatMap.mp member
    refine (each event).mpr ?_ choice chosen
    rintro index delta rfl sent
    exact first index delta inside sent

variable (index : Nat)

theorem flatMap_textDelta (pieces : List String) :
    ((pieces.map .textDelta).map (.contentBlockDelta index)).flatMap (eventChoices json) =
      pieces.map (buildTextChoice (chunkIndex index)) := by
  induction pieces with
  | nil => rfl
  | cons piece rest ih =>
    rw [List.map_cons, List.map_cons, List.flatMap_cons, ih]
    rfl

theorem flatMap_inputJsonDelta (pieces : List String) :
    ((pieces.map .inputJsonDelta).map (.contentBlockDelta index)).flatMap (eventChoices json) =
      pieces.map fun piece =>
        buildToolChoice (chunkIndex index) (buildToolCallChunk (chunkIndex index) none none (some piece)) := by
  induction pieces with
  | nil => rfl
  | cons piece rest ih =>
    rw [List.map_cons, List.map_cons, List.flatMap_cons, ih]
    rfl

theorem flatMap_unsent {deltas : List ContentBlockDelta} (unsent : ∀ delta ∈ deltas, delta.isSent = false) :
    (deltas.map (.contentBlockDelta index)).flatMap (eventChoices json) = [] := by
  apply List.flatMap_eq_nil_iff.mpr
  intro event member
  obtain ⟨delta, inside, rfl⟩ := List.mem_map.mp member
  cases delta with
  | textDelta text => cases unsent _ inside
  | inputJsonDelta partialJson => cases unsent _ inside
  | thinkingDelta thinking => rfl
  | signatureDelta signature => rfl

theorem flatMap_blockEvents (start : ContentBlock) (deltas : List ContentBlockDelta) :
    (blockEvents index start deltas).flatMap (eventChoices json) =
      eventChoices json (.contentBlockStart index start) ++
        (deltas.map (.contentBlockDelta index)).flatMap (eventChoices json) := by
  have stop : eventChoices json (.contentBlockStop index) = [] := rfl
  simp only [blockEvents, List.cons_append, List.flatMap_cons, List.flatMap_append, List.flatMap_nil, stop,
    List.append_nil]

end Choices

section Text
variable {json : JsonText}

theorem textOf_blockEvents {index : Nat} {block start : ContentBlock} {deltas : List ContentBlockDelta}
    (streams : BlockDeltas json block start deltas) (first : OnFirstChoice (blockEvents index start deltas)) :
    textOf 0 ((blockEvents index start deltas).flatMap (eventChoices json)) = block.text?.getD "" := by
  rw [flatMap_blockEvents]
  cases streams with
  | text pieces =>
    rw [flatMap_textDelta]
    cases pieces with
    | nil => rfl
    | cons piece rest =>
      have zero : chunkIndex index = 0 := first index (.textDelta piece) (by simp [blockEvents]) rfl
      rw [zero]
      exact textOf_textChoices 0 (piece :: rest)
  | toolUse id name input pieces split =>
    rw [flatMap_inputJsonDelta]
    apply textOf_eq_empty
    intro choice member _
    rcases List.mem_append.mp member with opening | filling
    · rw [List.mem_singleton.mp opening]
      rfl
    · obtain ⟨piece, -, rfl⟩ := List.mem_map.mp filling
      rfl
  | thinking deltas unsent =>
    rw [flatMap_unsent json index unsent]
    rfl
  | redactedThinking data => rfl

theorem OnFirstChoice.of_append {early late : List StreamEvent} (first : OnFirstChoice (early ++ late)) :
    OnFirstChoice early ∧ OnFirstChoice late :=
  ⟨fun index delta member => first index delta (List.mem_append_left _ member),
    fun index delta member => first index delta (List.mem_append_right _ member)⟩

theorem join_textsOf_cons (block : ContentBlock) (blocks : List ContentBlock) :
    String.join (textsOf (block :: blocks)) = block.text?.getD "" ++ String.join (textsOf blocks) := by
  cases block <;> simp [textsOf, List.filterMap_cons, ContentBlock.text?]

theorem textOf_blockStream {index : Nat} {blocks : List ContentBlock} {events : List StreamEvent}
    (streams : BlockStream json index blocks events) (first : OnFirstChoice events) :
    textOf 0 (events.flatMap (eventChoices json)) = String.join (textsOf blocks) := by
  induction streams with
  | nil index => rfl
  | cons head tail ih =>
    obtain ⟨early, late⟩ := first.of_append
    rw [List.flatMap_append, textOf_append, textOf_blockEvents head early, ih late, join_textsOf_cons]

theorem textOf_streams {message : CreateMessageResponse} {events : List StreamEvent}
    (streams : Streams json message events) (first : OnFirstChoice events) :
    textOf 0 (events.flatMap (eventChoices json)) = String.join (textsOf message.content) := by
  cases streams with
  | intro start usage blocks =>
    rename_i inner
    have framed : OnFirstChoice inner := fun index delta member => first index delta (by simp [member])
    have opening (message : MessageStartContent) (empty : message.content = []) :
        textOf 0 (eventChoices json (.messageStart message)) = "" := by
      simp [eventChoices, tryConvertChunk, buildStreamResponse, startChoice, empty, startBlocks, textOf, contentOn]
    have closing (delta : MessageDeltaContent) :
        textOf 0 ([.messageDelta delta usage, .messageStop].flatMap (eventChoices json)) = "" := rfl
    rw [List.cons_append, List.flatMap_cons, List.flatMap_append, textOf_append, textOf_append, opening _ rfl,
      textOf_blockStream blocks framed, closing, String.empty_append, String.append_empty]

/-- The content of a whole message is its last text. -/
theorem extractAnthropicContent_fst (json : JsonText) (blocks : List ContentBlock) :
    (extractAnthropicContent json blocks).1 = (textsOf blocks).getLast? := by
  induction blocks using List.reverseRecOn with
  | nil => rfl
  | append_singleton blocks block ih =>
    rw [extractAnthropicContent, List.foldl_append, textsOf, List.filterMap_append]
    simp only [extractAnthropicContent, textsOf] at ih
    cases block <;> simp [extractBlock, ContentBlock.text?, ih, List.filterMap_cons]

theorem convertAnthropicResponse_text (json : JsonText) {profile : NonStreamFormatProfile}
    (valid : validateAnthropicResponseProfile profile = .ok ()) (message : CreateMessageResponse) :
    ∃ response, convertAnthropicResponse json profile message = .ok response ∧
      response.text = (textsOf message.content).getLast?.getD "" := by
  refine ⟨_, by rw [convertAnthropicResponse, valid]; rfl, ?_⟩
  rw [← extractAnthropicContent_fst json]
  rfl

end Text

section Agreement
variable (json : JsonText) (profile : NonStreamFormatProfile) (message : CreateMessageResponse)

/-- The first choice carries the text of the message as it is converted as a whole, which is
that of all its text blocks, and there is no other choice. -/
def TextAgrees (choices : List ChatChoiceStream) : Prop :=
  (∃ response, convertAnthropicResponse json profile message = .ok response ∧ textOf 0 choices = response.text) ∧
    textOf 0 choices = String.join (textsOf message.content) ∧ ∀ choice ∈ choices, choice.index = 0

theorem streamed_text_agrees_iff (valid : validateAnthropicResponseProfile profile = .ok ())
    (cell : Option AnthropicStreamOpenAiUsageState) {events : List StreamEvent} (streams : Streams json message events) :
    TextAgrees json profile message (choicesOf (tryConvertChunks json cell events)) ↔
      OnFirstChoice events ∧ ∀ text ∈ (textsOf message.content).dropLast, text = "" := by
  obtain ⟨response, converted, last⟩ := convertAnthropicResponse_text json valid message
  rw [choicesOf_tryConvertChunks, ← choices_index_iff json events, ← Lib.Texts.join_eq_last_iff, ← last]
  constructor
  · intro ⟨⟨other, same, text⟩, joined, zero⟩
    cases converted.symm.trans same
    exact ⟨zero, joined.symm.trans text⟩
  · intro ⟨zero, joined⟩
    have text := textOf_streams streams ((choices_index_iff json events).mp zero)
    exact ⟨⟨response, converted, text.trans joined⟩, text, zero⟩

/-- A message of one text block, streamed in two pieces. -/
def helloMessage : CreateMessageResponse :=
  ⟨[.text "Hello"], "msg_1", "claude-sonnet-4-0", .assistant, some .endTurn, none, ⟨10, 4, none, none, none⟩⟩

def helloEvents : List StreamEvent :=
  [.messageStart ⟨"msg_1", .assistant, [], "claude-sonnet-4-0", none, none, ⟨10, 1, none, none, none⟩⟩,
    .contentBlockStart 0 (.text ""), .contentBlockDelta 0 (.textDelta "Hel"), .contentBlockDelta 0 (.textDelta "lo"),
    .contentBlockStop 0, .messageDelta ⟨some .endTurn, none⟩ (some ⟨0, 4, none, none, none⟩), .messageStop]

theorem helloEvents_stream : Streams .sample helloMessage helloEvents := by
  have blocks : BlockStream .sample 0 helloMessage.content _ := .cons (.text ["Hel", "lo"]) (.nil 1)
  exact .intro _ _ blocks

theorem hello_text_agrees :
    TextAgrees .sample anthropicProfile helloMessage (choicesOf (tryConvertChunks .sample none helloEvents)) := by
  refine (streamed_text_agrees_iff .sample anthropicProfile helloMessage rfl none helloEvents_stream).mpr ⟨?_, ?_⟩
  · intro index delta member _
    simp only [helloEvents, List.mem_cons, StreamEvent.contentBlockDelta.injEq, reduceCtorEq, false_or, or_false,
      List.not_mem_nil] at member
    rcases member with ⟨rfl, -⟩ | ⟨rfl, -⟩ <;> rfl
  · intro text member
    cases member

/-- The same message after a thinking block. -/
def thoughtMessage : CreateMessageResponse :=
  { helloMessage with content := [.thinking "Greet." "sig", .text "Hello"] }

def thoughtEvents : List StreamEvent :=
  [.messageStart ⟨"msg_1", .assistant, [], "claude-sonnet-4-0", none, none, ⟨10, 1, none, none, none⟩⟩,
    .contentBlockStart 0 (.thinking "" ""), .contentBlockDelta 0 (.thinkingDelta "Greet."),
    .contentBlockDelta 0 (.signatureDelta "sig"), .contentBlockStop 0,
    .contentBlockStart 1 (.text ""), .contentBlockDelta 1 (.textDelta "Hello"), .contentBlockStop 1,
    .messageDelta ⟨some .endTurn, none⟩ (some ⟨0, 4, none, none, none⟩), .messageStop]

theorem thoughtEvents_stream : Streams .sample thoughtMessage thoughtEvents := by
  have blocks : BlockStream .sample 0 thoughtMessage.content _ :=
    .cons (.thinking [.thinkingDelta "Greet.", .signatureDelta "sig"] (by decide)) (.cons (.text ["Hello"]) (.nil 2))
  exact .intro _ _ blocks

/-- The text after the thinking goes to a second choice, and none of it to the first. -/
theorem thought_text_disagrees :
    Streams .sample thoughtMessage thoughtEvents ∧
      textOf 0 (choicesOf (tryConvertChunks .sample none thoughtEvents)) = "" ∧
      textOf 1 (choicesOf (tryConvertChunks .sample none thoughtEvents)) = "Hello" ∧
      ¬ TextAgrees .sample anthropicProfile thoughtMessage (choicesOf (tryConvertChunks .sample none thoughtEvents)) := by
  refine ⟨thoughtEvents_stream, by decide, by decide, ?_⟩
  intro ⟨_, joined, _⟩
  revert joined
  decide

end Agreement

section ToolCalls
variable (json : JsonText) (id name : String) (input : Json) (pieces : List String)

/-- The events of one tool-use block, whose input comes in the given pieces. -/
def toolEvents (index : Nat) : List StreamEvent :=
  blockEvents index (.toolUse id name (.object [])) (pieces.map .inputJsonDelta)

theorem toolFragments_toolEvents (index : Nat) :
    toolFragments ((toolEvents id name pieces index).flatMap (eventChoices json)) =
      ⟨chunkIndex index, (some id, some name), json.print (.object [])⟩ ::
        pieces.map fun piece => ⟨chunkIndex index, (none, none), piece⟩ := by
  have filling : toolFragments (pieces.map fun piece =>
        buildToolChoice (chunkIndex index) (buildToolCallChunk (chunkIndex index) none none (some piece))) =
      pieces.map fun piece => ⟨chunkIndex index, (none, none), piece⟩ := by
    rw [toolFragments, List.flatMap_map]
    exact List.flatMap_pure_eq_map _ _
  rw [toolEvents, flatMap_blockEvents, flatMap_inputJsonDelta, toolFragments_append, filling]
  rfl

/-- The input of the opening block stands before the pieces. -/
theorem toolCallsOf_toolEvents (index : Nat) :
    toolCallsOf ((toolEvents id name pieces index).flatMap (eventChoices json)) =
      [⟨some id, some name, json.print (.object []) ++ String.join pieces⟩] := by
  rw [toolCallsOf, toolFragments_toolEvents, assemble, collect_fragments (List.forall_mem_nil _)]
  simp [assembledCall]

theorem convertAnthropicResponse_toolCalls {profile : NonStreamFormatProfile}
    (valid : validateAnthropicResponseProfile profile = .ok ()) {message : CreateMessageResponse}
    (single : message.content = [.toolUse id name input]) :
    ∃ response, convertAnthropicResponse json profile message = .ok response ∧
      response.toolCalls = [⟨id, .function, name, json.print input⟩] := by
  refine ⟨_, by rw [convertAnthropicResponse, valid, single]; rfl, rfl⟩

theorem streamed_call_prefixed (emptyObject : json.print (.object []) = "\x7b\x7d") (profile : NonStreamFormatProfile)
    (valid : validateAnthropicResponseProfile profile = .ok ()) (message : CreateMessageResponse)
    (single : message.content = [.toolUse id name input]) (split : String.join pieces = json.print input)
    (cell : Option AnthropicStreamOpenAiUsageState) (index : Nat) :
    ∃ response, convertAnthropicResponse json profile message = .ok response ∧
      response.toolCalls.map ToolCall.assembled = [⟨some id, some name, json.print input⟩] ∧
      toolCallsOf (choicesOf (tryConvertChunks json cell (toolEvents id name pieces index))) =
        [⟨some id, some name, "\x7b\x7d" ++ json.print input⟩] ∧
      toolCallsOf (choicesOf (tryConvertChunks json cell (toolEvents id name pieces index))) ≠
        response.toolCalls.map ToolCall.assembled := by
  obtain ⟨response, converted, calls⟩ := convertAnthropicResponse_toolCalls json id name input valid single
  have whole : response.toolCalls.map ToolCall.assembled = [⟨some id, some name, json.print input⟩] := by
    rw [calls]
    rfl
  have streamed : toolCallsOf (choicesOf (tryConvertChunks json cell (toolEvents id name pieces index))) =
      [⟨some id, some name, "\x7b\x7d" ++ json.print input⟩] := by
    rw [choicesOf_tryConvertChunks, toolCallsOf_toolEvents, emptyObject, split]
  refine ⟨response, converted, whole, streamed, ?_⟩
  rw [streamed, whole]
  intro same
  simp only [List.cons.injEq, AssembledCall.mk.injEq, true_and, and_true] at same
  have lengths := congrArg String.length same
  rw [String.length_append] at lengths
  have two : "\x7b\x7d".length = 2 := rfl
  omega

def weatherMessage : CreateMessageResponse :=
  { helloMessage with
    content := [.toolUse "toolu_1" "lookup_weather" (.object [("city", .string "Paris")])]
    stopReason := some .toolUse }

/-- A call with the arguments `{"city":"Paris"}` in two pieces. -/
theorem weather_call_prefixed :
    ∃ response, convertAnthropicResponse .sample anthropicProfile weatherMessage = .ok response ∧
      response.toolCalls.map ToolCall.assembled =
        [⟨some "toolu_1", some "lookup_weather", "\x7b\"city\":\"Paris\"\x7d"⟩] ∧
      toolCallsOf (choicesOf (tryConvertChunks .sample none
          (toolEvents "toolu_1" "lookup_weather" ["\x7b\"city\":", "\"Paris\"\x7d"] 0))) =
        [⟨some "toolu_1", some "lookup_weather", "\x7b\x7d\x7b\"city\":\"Paris\"\x7d"⟩] ∧
      toolCallsOf (choicesOf (tryConvertChunks .sample none
          (toolEvents "toolu_1" "lookup_weather" ["\x7b\"city\":", "\"Paris\"\x7d"] 0))) ≠
        response.toolCalls.map ToolCall.assembled :=
  streamed_call_prefixed .sample "toolu_1" "lookup_weather" (.object [("city", .string "Paris")])
    ["\x7b\"city\":", "\"Paris\"\x7d"] rfl anthropicProfile rfl weatherMessage rfl (by decide) none 0

/-- The client is left with arguments that are not those of the call. -/
theorem weather_call_disagrees :
    toolCallsOf (choicesOf (tryConvertChunks .sample none
        (toolEvents "toolu_1" "lookup_weather" ["\x7b\"city\":", "\"Paris\"\x7d"] 0))) ≠
      [⟨some "toolu_1", some "lookup_weather", "\x7b\"city\":\"Paris\"\x7d"⟩] := by
  decide

end ToolCalls

end AiGateway.Anthropic
