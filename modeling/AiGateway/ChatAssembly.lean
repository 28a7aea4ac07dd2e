import AiGateway.Lib.Fragments
import AiGateway.OpenAiChat

/-! What a client of the chat completions API reads out of the chunks of a stream. -/

namespace AiGateway.OpenAi

open Lib.Fragments

/-- A call as it is put together: the id and the name of its first chunk, and the arguments
of all of them. -/
structure AssembledCall where
  id : Option String
  name : Option String
  arguments : String
  deriving DecidableEq, Repr

def choicesOf (chunks : List CreateChatCompletionStreamResponse) : List ChatChoiceStream :=
  chunks.flatMap fun received => received.choices

/-- The content that a choice adds to the text of the choice with the given index. -/
def contentOn (index : UInt32) (choice : ChatChoiceStream) : Option String :=
  if choice.index = index then choice.delta.content else none

def textOf (index : UInt32) (choices : List ChatChoiceStream) : String :=
  String.join (choices.filterMap (contentOn index))

def toolFragment (call : ToolCallChunk) : Fragment UInt32 (Option String × Option String) String :=
  ⟨call.index, (call.id, call.function.bind fun function => function.name),
    (call.function.bind fun function => function.arguments).getD ""⟩

def toolFragments (choices : List ChatChoiceStream) : List (Fragment UInt32 (Option String × Option String) String) :=
  choices.flatMap fun choice => (choice.delta.toolCalls.getD []).map toolFragment

def assembledCall (group : Group UInt32 (Option String × Option String) String) : AssembledCall :=
  ⟨group.header.1, group.header.2, String.join group.bodies⟩

/-- The tool calls, merged by tool index in the order they start in. -/
def toolCallsOf (choices : List ChatChoiceStream) : List AssembledCall :=
  (assemble (toolFragments choices)).map assembledCall

/-- A call of a whole response, for comparison. -/
def ToolCall.assembled (call : ToolCall) : AssembledCall :=
  ⟨some call.id, some call.function.name, call.function.arguments⟩

/-- The finish reason is the last one that the first choice gives. -/
def finishOf (choices : List ChatChoiceStream) : Option FinishReason :=
  (choices.filterMap fun choice => if choice.index = 0 then choice.finishReason else none).getLast?

/-- The usage is that of the last chunk which reports one. -/
def usageOf (chunks : List CreateChatCompletionStreamResponse) : Option CompletionUsage :=
  (chunks.filterMap fun received => received.usage).getLast?

/-- The refusal that a choice adds to that of the choice with the given index. -/
def refusalOn (index : UInt32) (choice : ChatChoiceStream) : Option String :=
  if choice.index = index then choice.delta.refusal else none

/-- A text that comes in pieces is absent when no piece comes. -/
def joined (pieces : List String) : Option String := if pieces.isEmpty then none else some (String.join pieces)

/-- The answer as a client reads it. -/
structure Reading where
  content : Option String
  refusal : Option String
  finishReason : Option FinishReason
  usage : Option CompletionUsage
  deriving DecidableEq, Repr

def readChunks (chunks : List CreateChatCompletionStreamResponse) : Reading where
  content := joined ((choicesOf chunks).filterMap (contentOn 0))
  refusal := joined ((choicesOf chunks).filterMap (refusalOn 0))
  finishReason := finishOf (choicesOf chunks)
  usage := usageOf chunks

/-- What a usage record counts, whether or not it has a record of details. -/
structure UsageCounts where
  promptTokens : UInt32
  completionTokens : UInt32
  totalTokens : UInt32
  cachedTokens : Option UInt32
  deriving DecidableEq, Repr

namespace CompletionUsage
variable (usage : CompletionUsage)

def counts : UsageCounts :=
  ⟨usage.promptTokens, usage.completionTokens, usage.totalTokens,
    usage.promptTokensDetails.bind fun details => details.cachedTokens⟩

/-- The tokens written to the cache, none where the usage does not say. -/
def cacheWrite : Nat := ((usage.promptTokensDetails.bind fun details => details.cacheWriteTokens).getD 0).toNat

/-- The tokens written to the cache, summed over how long they are kept. -/
def cacheWriteSplit : Nat :=
  ((usage.promptTokensDetails.bind fun details => details.cacheWriteDetails).map fun split =>
    split.write5mTokens.toNat + split.write1hTokens.toNat).getD 0

end CompletionUsage

/-- The text of a whole response. -/
def CreateChatCompletionResponse.text (response : CreateChatCompletionResponse) : String :=
  (response.choices.head?.bind fun choice => choice.message.content).getD ""

def CreateChatCompletionResponse.toolCalls (response : CreateChatCompletionResponse) : List ToolCall :=
  (response.choices.head?.bind fun choice => choice.message.toolCalls).getD []

def CreateChatCompletionResponse.finishReason (response : CreateChatCompletionResponse) : Option FinishReason :=
  response.choices.head?.bind fun choice => choice.finishReason

/-- A whole response, read as a stream is. -/
def CreateChatCompletionResponse.reading (response : CreateChatCompletionResponse) : Reading where
  content := response.choices.head?.bind fun choice => choice.message.content
  refusal := response.choices.head?.bind fun choice => choice.message.refusal
  finishReason := response.finishReason
  usage := response.usage

section Lemmas
variable (index : UInt32) (first second : List ChatChoiceStream)

theorem choicesOf_append (early late : List CreateChatCompletionStreamResponse) :
    choicesOf (early ++ late) = choicesOf early ++ choicesOf late := List.flatMap_append

theorem textOf_append : textOf index (first ++ second) = textOf index first ++ textOf index second := by
  simp [textOf]

theorem textOf_eq_empty {choices : List ChatChoiceStream}
    (silent : ∀ choice ∈ choices, choice.index = index → choice.delta.content = none) :
    textOf index choices = "" := by
  have none : choices.filterMap (contentOn index) = [] := by
    apply List.filterMap_eq_nil_iff.mpr
    intro choice member
    unfold contentOn
    split
    · rename_i same
      exact silent choice member same
    · rfl
  rw [textOf, none, String.join_nil]

theorem textOf_textChoices (pieces : List String) :
    textOf index (pieces.map (buildTextChoice index)) = String.join pieces := by
  have same : contentOn index ∘ buildTextChoice index = some := by
    funext content
    simp [contentOn, buildTextChoice]
  rw [textOf, List.filterMap_map, same, List.filterMap_some]

theorem toolFragments_append : toolFragments (first ++ second) = toolFragments first ++ toolFragments second :=
  List.flatMap_append

theorem collect_fragments {groups : List (Group UInt32 (Option String × Option String) String)} {index : UInt32}
    {header : Option String × Option String} {first : String} {pieces : List String}
    (fresh : ∀ group ∈ groups, group.key ≠ index) :
    collect groups (⟨index, header, first⟩ :: pieces.map fun piece => ⟨index, (none, none), piece⟩) =
      groups ++ [⟨index, header, first :: pieces⟩] := by
  have same : ∀ fragment ∈ pieces.map fun piece =>
      (⟨index, (none, none), piece⟩ : Fragment UInt32 (Option String × Option String) String),
      fragment.key = index := by
    intro fragment member
    obtain ⟨piece, -, rfl⟩ := List.mem_map.mp member
    rfl
  rw [collect_run fresh same, List.map_map]
  simp [Function.comp_def]

end Lemmas

end AiGateway.OpenAi
