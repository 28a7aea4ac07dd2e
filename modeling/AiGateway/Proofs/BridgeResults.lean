import AiGateway.Proofs.BridgeStream

/-! Results of the Responses API: what they hold, their JSON, and the events that stream
them. The parts of a result are streamed one after the other, each in deltas of its own
kind, and the last event carries the whole result. -/

namespace AiGateway.ResponsesBridge

inductive Part where
  | outputText (text : String)
  | refusal (text : String)
  deriving DecidableEq, Repr

inductive Item where
  | message (parts : List Part)
  | reasoning (summary content : List String)
  | functionCall (name arguments : String)
  deriving DecidableEq, Repr

/-- The counts as they come, in 64 bits. -/
structure Counts where
  inputTokens : UInt64
  outputTokens : UInt64
  totalTokens : UInt64
  deriving DecidableEq, Repr

structure Result where
  id : String
  model : String
  createdAt : UInt64
  output : List Item
  outputText : Option String
  status : Status
  usage : Option Counts
  deriving DecidableEq, Repr

def Part.toJson : Part → Json
  | .outputText text => .object [("type", .string "output_text"), ("annotations", .array []), ("text", .string text)]
  | .refusal text => .object [("type", .string "refusal"), ("refusal", .string text)]

def Item.toJson : Item → Json
  | .message parts =>
    .object [("type", .string "message"), ("id", .string "msg"), ("role", .string "assistant"),
      ("status", .string "completed"), ("content", .array (parts.map Part.toJson))]
  | .reasoning summary content =>
    .object [("type", .string "reasoning"), ("id", .string "rs"),
      ("summary", .array (summary.map fun text => .object [("type", .string "summary_text"), ("text", .string text)])),
      ("content", .array (content.map fun text => .object [("type", .string "reasoning_text"), ("text", .string text)]))]
  | .functionCall name arguments =>
    .object [("type", .string "function_call"), ("id", .string "fc"), ("call_id", .string "call"),
      ("name", .string name), ("arguments", .string arguments), ("status", .string "completed")]

def Status.toStr : Status → String
  | .completed => "completed"
  | .failed => "failed"
  | .inProgress => "in_progress"
  | .incomplete => "incomplete"

def Counts.toJson (counts : Counts) : Json :=
  .object [("input_tokens", .number (.posInt counts.inputTokens)), ("input_tokens_details", .object []),
    ("output_tokens", .number (.posInt counts.outputTokens)), ("output_tokens_details", .object []),
    ("total_tokens", .number (.posInt counts.totalTokens))]

def orNull {α : Type} (encode : α → Json) (value : Option α) : Json := (value.map encode).getD .null

def Result.toJson (result : Result) : Json :=
  .object [("id", .string result.id), ("object", .string "response"),
    ("created_at", .number (.posInt result.createdAt)), ("status", .string result.status.toStr),
    ("model", .string result.model), ("output", .array (result.output.map Item.toJson)),
    ("output_text", orNull .string result.outputText), ("usage", orNull Counts.toJson result.usage)]

inductive DeltaKind where
  | outputText
  | reasoningText
  | reasoningSummaryText
  | refusal
  deriving DecidableEq, Repr

namespace DeltaKind

def eventType : DeltaKind → String
  | .outputText => "response.output_text.delta"
  | .reasoningText => "response.reasoning_text.delta"
  | .reasoningSummaryText => "response.reasoning_summary_text.delta"
  | .refusal => "response.refusal.delta"

def isReasoning : DeltaKind → Bool
  | .reasoningText | .reasoningSummaryText => true
  | .outputText | .refusal => false

end DeltaKind

/-- A text that is streamed, with the kind of its deltas. -/
structure Spoken where
  kind : DeltaKind
  text : String
  deriving DecidableEq, Repr

def Part.spoken : Part → Spoken
  | .outputText text => ⟨.outputText, text⟩
  | .refusal text => ⟨.refusal, text⟩

def Item.spoken : Item → List Spoken
  | .message parts => parts.map Part.spoken
  | .reasoning summary content =>
    summary.map (fun text => ⟨.reasoningSummaryText, text⟩) ++ content.map fun text => ⟨.reasoningText, text⟩
  | .functionCall _ _ => []

def Result.spoken (result : Result) : List Spoken := result.output.flatMap Item.spoken

/-- The event that a result of this status ends its stream with. -/
def Status.finalEvent : Status → Option String
  | .completed => some "response.completed"
  | .failed => some "response.failed"
  | .incomplete => some "response.incomplete"
  | .inProgress => none

/-- The events that say something of the answer or end it. -/
def telling : List String :=
  ["response.output_text.delta", "response.reasoning_text.delta", "response.reasoning_summary_text.delta",
    "response.refusal.delta", "response.completed", "response.failed", "response.incomplete", "error"]

def Quiet (event : Json) : Prop := ResponsesBridge.eventType event ∉ telling

/-- The deltas of one text, whatever else is told in between. -/
structure StreamsText (spoken : Spoken) (events : List Json) : Prop where
  own : ∀ event ∈ events, ResponsesBridge.eventType event = spoken.kind.eventType ∨ Quiet event
  whole : String.join ((events.filter fun event => ResponsesBridge.eventType event == spoken.kind.eventType).map
    eventDelta) = spoken.text

inductive Streams (result : Result) : List Json → Prop where
  | intro (opening : List Json) (blocks : List (List Json)) (closing : List Json) (last : Json)
      (quietOpening : ∀ event ∈ opening, Quiet event) (texts : List.Forall₂ StreamsText result.spoken blocks)
      (quietClosing : ∀ event ∈ closing, Quiet event)
      (ends : result.status.finalEvent = some (ResponsesBridge.eventType last))
      (carries : last.get "response" = some result.toJson) :
      Streams result (opening ++ blocks.flatten ++ closing ++ [last])

end AiGateway.ResponsesBridge
