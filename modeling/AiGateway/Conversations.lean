import AiGateway.ChatRequests
import AiGateway.Lib.Subsequences

/-! What is said in a chat completion request, apart from how its messages are laid out. -/

namespace AiGateway.OpenAi

open Lib.Subsequences

inductive Speaker where
  | user
  | assistant
  deriving DecidableEq, Repr

inductive Item where
  | text (text : String)
  | toolCall (id name arguments : String)
  | toolResult (toolCallId content : String)
  deriving DecidableEq, Repr

def Item.isToolCall : Item → Bool
  | .toolCall _ _ _ => true
  | .text _ | .toolResult _ _ => false

def Item.isToolResult : Item → Bool
  | .toolResult _ _ => true
  | .text _ | .toolCall _ _ _ => false

/-- A text without characters says nothing. -/
def said (speaker : Speaker) (text : String) : List (Speaker × Item) :=
  if text.isEmpty then [] else [(speaker, .text text)]

def TextContent.parts : TextContent → List String
  | .text content => [content]
  | .array parts => parts

def UserPart.items : UserPart → List (Speaker × Item)
  | .text content => said .user content
  | .imageUrl _ | .inputAudio _ => []

def UserContent.items : UserContent → List (Speaker × Item)
  | .text content => said .user content
  | .array parts => parts.flatMap UserPart.items

def AssistantPart.items : AssistantPart → List (Speaker × Item)
  | .text content => said .assistant content
  | .refusal content => said .assistant content

def AssistantContent.items : AssistantContent → List (Speaker × Item)
  | .text content => said .assistant content
  | .array parts => parts.flatMap AssistantPart.items

def ToolCall.item (call : ToolCall) : Speaker × Item :=
  (.assistant, .toolCall call.id call.function.name call.function.arguments)

/-- The turns a message adds to the conversation. The results of tools are the user's. -/
def RequestMessage.items : RequestMessage → List (Speaker × Item)
  | .developer _ | .system _ | .function _ _ => []
  | .user content => content.items
  | .assistant content toolCalls =>
    (content.map AssistantContent.items).getD [] ++ (toolCalls.getD []).map ToolCall.item
  | .tool content toolCallId => content.parts.map fun text => (.user, .toolResult toolCallId text)

def RequestMessage.calls : RequestMessage → List ToolCall
  | .assistant _ toolCalls => toolCalls.getD []
  | _ => []

def RequestMessage.systemTexts : RequestMessage → List String
  | .developer content | .system content => content.parts
  | _ => []

/-! When the parts of a message are all found among the turns they become, whatever these
turns are. -/

section Found
variable {γ : Type} {related : Speaker × Item → γ → Prop}

theorem said_found {speaker : Speaker} {text : String} {turn : γ} (same : related (speaker, .text text) turn) :
    List.SublistForall₂ related (said speaker text) [turn] := by
  unfold said
  split
  · exact .nil
  · exact .cons same .nil

theorem userParts_found {turned : UserPart → Option γ}
    (texts : ∀ text, ∃ turn, turned (.text text) = some turn ∧ related (.user, .text text) turn)
    (parts : List UserPart) :
    List.SublistForall₂ related (parts.flatMap UserPart.items) (parts.filterMap turned) := by
  have each : ∀ part ∈ parts, List.SublistForall₂ related part.items ((turned part).toList.flatMap fun turn => [turn]) := by
    intro part _
    cases part with
    | text content =>
      obtain ⟨turn, become, same⟩ := texts content
      rw [become]
      exact said_found same
    | imageUrl url => exact .nil
    | inputAudio data => exact .nil
  have whole := sublistForall₂_filterMap each
  rwa [List.flatMap_singleton'] at whole

theorem assistantParts_found {turned : AssistantPart → γ}
    (texts : ∀ text, related (.assistant, .text text) (turned (.text text)))
    (refusals : ∀ text, related (.assistant, .text text) (turned (.refusal text))) (parts : List AssistantPart) :
    List.SublistForall₂ related (parts.flatMap AssistantPart.items) (parts.map turned) := by
  induction parts with
  | nil => exact .nil
  | cons part rest ih =>
    have first : List.SublistForall₂ related part.items [turned part] := by
      cases part with
      | text content => exact said_found (texts content)
      | refusal content => exact said_found (refusals content)
    exact sublistForall₂_append first ih

theorem toolParts_found {turned : String → γ} {toolCallId : String}
    (results : ∀ text, related (.user, .toolResult toolCallId text) (turned text)) (content : TextContent) :
    List.SublistForall₂ related (content.parts.map fun text => (.user, .toolResult toolCallId text))
      (content.parts.map turned) :=
  sublistForall₂_map fun text _ => results text

end Found

end AiGateway.OpenAi
