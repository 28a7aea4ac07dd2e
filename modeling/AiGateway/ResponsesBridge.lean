import AiGateway.OpenAiChat

/-! The bridge from the Responses API's stream to that of chat completions: each upstream
event may emit records, and a role chunk goes before the first chunk of the answer. -/

namespace AiGateway.ResponsesBridge

open OpenAi

structure BridgeStreamState where
  completionId : Option String
  model : Option String
  roleSent : Bool
  deriving DecidableEq, Repr

/-- The payload of an SSE record, which `put_sse_record` frames as a `data:` line. -/
inductive SseRecord where
  | chunk (chunk : CreateChatCompletionStreamResponse)
  | error (message : String) (code param : Option String)
  | done
  deriving DecidableEq, Repr

inductive ApiError where
  | deserialize (ty : String)
  deriving DecidableEq, Repr

/-- Casting to `u32` keeps the low bits. -/
def completionUsageFromResponsesValue (usage : Json) : Option CompletionUsage := do
  let input := (← (← usage.get "input_tokens").asU64).toUInt32
  let output := (← (← usage.get "output_tokens").asU64).toUInt32
  let total :=
    match (usage.get "total_tokens").bind Json.asU64 with
    | some total => total.toUInt32
    | none => saturatingAdd input output
  pure ⟨input, output, total, none, none⟩

namespace BridgeStreamState

def default : BridgeStreamState := ⟨none, none, false⟩

def ingestResponseSnapshot (state : BridgeStreamState) : Option Json → BridgeStreamState
  | none => state
  | some response =>
    { state with
      completionId := (response.getStr "id").or state.completionId
      model := (response.getStr "model").or state.model }

def respond (state : BridgeStreamState) (choices : List ChatChoiceStream) (usage : Option CompletionUsage) : SseRecord :=
  .chunk (buildStreamResponse (state.completionId.getD "chatcmpl-bridge") (state.model.getD "unknown") choices usage)

/-- The records before those of the event, and the state after them. -/
def pushRoleIfNeeded (state : BridgeStreamState) : List SseRecord × BridgeStreamState :=
  if state.roleSent then ([], state)
  else ([state.respond [buildRoleChoice 0 .assistant] none], { state with roleSent := true })

def finishChunk (state : BridgeStreamState) (usage : Option CompletionUsage) : SseRecord :=
  state.respond [buildFinishChoice (some .stop) .default none] usage

/-- The choice that `response.refusal.delta` emits. -/
def refusalChoice (delta : String) : ChatChoiceStream := ⟨0, ⟨none, none, none, some delta⟩, none⟩

/-- A chunk of the answer, after the role. -/
def emit (state : BridgeStreamState) (choice : ChatChoiceStream) : List SseRecord × BridgeStreamState :=
  let (role, state) := state.pushRoleIfNeeded
  (role ++ [state.respond [choice] none], state)

/-- The end of the answer, after the role. -/
def finish (state : BridgeStreamState) (usage : Option CompletionUsage) : List SseRecord × BridgeStreamState :=
  let (role, state) := state.pushRoleIfNeeded
  (role ++ [state.finishChunk usage, .done], state)

/-- The part of `process_upstream_sse_json` after the parse. -/
def processEvent (state : BridgeStreamState) (event : Json) : List SseRecord × BridgeStreamState :=
  let delta := (event.getStr "delta").getD ""
  match (event.getStr "type").getD "" with
  | "response.created" | "response.in_progress" => ([], state.ingestResponseSnapshot (event.get "response"))
  | "response.output_text.delta" | "response.reasoning_text.delta" | "response.reasoning_summary_text.delta" =>
    if delta.isEmpty then ([], state) else state.emit (buildTextChoice 0 delta)
  | "response.refusal.delta" => if delta.isEmpty then ([], state) else state.emit (refusalChoice delta)
  | "response.completed" =>
    let state := state.ingestResponseSnapshot (event.get "response")
    let usage := ((event.get "response").bind fun response => response.get "usage").bind completionUsageFromResponsesValue
    state.finish usage
  | "error" =>
    ([.error ((event.getStr "message").getD "unknown error") (event.getStr "code") (event.getStr "param")], state)
  | "response.failed" => (state.ingestResponseSnapshot (event.get "response")).finish none
  | _ => ([], state)

variable (fromSlice : List UInt8 → Option Json)

/-- Nothing is sent where no record is emitted. -/
def processUpstreamSseJson (state : BridgeStreamState) (raw : List UInt8) :
    Except ApiError (Option (List SseRecord) × BridgeStreamState) :=
  match fromSlice raw with
  | none => .error (.deserialize "responses_sse_event")
  | some event =>
    let (buf, state) := state.processEvent event
    .ok (if buf.isEmpty then none else some buf, state)

/-- The records of one upstream stream, which the first error ends. -/
def processStream (state : BridgeStreamState) : List (List UInt8) → Except ApiError (List SseRecord)
  | [] => .ok []
  | raw :: rest =>
    match state.processUpstreamSseJson fromSlice raw with
    | .error error => .error error
    | .ok (records, state) => (state.processStream rest).map fun later => records.getD [] ++ later

end BridgeStreamState

inductive Status where
  | completed
  | failed
  | inProgress
  | incomplete
  deriving DecidableEq, Repr

def Status.fromStr : String → Option Status
  | "completed" => some .completed
  | "failed" => some .failed
  | "in_progress" => some .inProgress
  | "incomplete" => some .incomplete
  | _ => none

inductive Content where
  | outputText (text : String)
  | refusal (refusal : String)
  deriving DecidableEq, Repr

/-- Only messages are looked into. -/
inductive OutputContent where
  | message (content : List Content)
  | other
  deriving DecidableEq, Repr

structure Usage where
  inputTokens : UInt32
  outputTokens : UInt32
  totalTokens : UInt32
  deriving DecidableEq, Repr

/-- The fields of the library's `Response` that the bridge uses. -/
structure Response where
  createdAt : UInt64
  id : String
  model : String
  output : List OutputContent
  outputText : Option String
  status : Status
  usage : Option Usage
  deriving DecidableEq, Repr

section Deserialize

/-- An optional field may be missing or null. -/
def optional {α : Type} (read : Json → Option α) : Option Json → Option (Option α)
  | none | some .null => some none
  | some value => (read value).map some

def asU32 (value : Json) : Option UInt32 :=
  value.asU64.bind fun count => if count.toNat < UInt32.size then some count.toUInt32 else none

def Content.fromValue (value : Json) : Option Content :=
  match value.getStr "type" with
  | some "output_text" => (value.getStr "text").map .outputText
  | some "refusal" => (value.getStr "refusal").map .refusal
  | _ => none

def otherKinds : List String :=
  ["file_search_call", "function_call", "web_search_call", "computer_call", "reasoning", "image_generation_call",
    "code_interpreter_call", "local_shell_call", "mcp_call", "mcp_list_tools", "mcp_approval_request"]

def OutputContent.fromValue (value : Json) : Option OutputContent :=
  match value.getStr "type" with
  | none => none
  | some "message" => (((value.get "content").bind Json.asArray).bind fun content => content.mapM Content.fromValue).map .message
  | some kind => if otherKinds.contains kind then some .other else none

def Usage.fromValue (value : Json) : Option Usage := do
  let input ← (value.get "input_tokens").bind asU32
  let output ← (value.get "output_tokens").bind asU32
  let total ← (value.get "total_tokens").bind asU32
  pure ⟨input, output, total⟩

/-- The fields that are not used are taken to be as the library expects them. -/
def Response.fromValue (value : Json) : Option Response := do
  let createdAt ← (value.get "created_at").bind Json.asU64
  let id ← value.getStr "id"
  let model ← value.getStr "model"
  let output ← ((value.get "output").bind Json.asArray).bind fun items => items.mapM OutputContent.fromValue
  let outputText ← optional Json.asStr (value.get "output_text")
  let status ← (value.getStr "status").bind Status.fromStr
  let usage ← optional Usage.fromValue (value.get "usage")
  pure ⟨createdAt, id, model, output, outputText, status, usage⟩

end Deserialize

/-- The text so far and the last refusal. -/
def aggregateContent (found : String × Option String) : Content → String × Option String
  | .outputText text => (found.1 ++ text, found.2)
  | .refusal refusal => (found.1, some refusal)

def aggregateItem (found : String × Option String) : OutputContent → String × Option String
  | .message content => content.foldl aggregateContent found
  | .other => found

def nonEmpty (text : String) : Option String := if text.isEmpty then none else some text

def aggregateOutputText (response : Response) : Option String × Option String :=
  match response.outputText with
  | some text => (some text, none)
  | none =>
    let (text, refusal) := response.output.foldl aggregateItem ("", none)
    (nonEmpty text, refusal)

def finishReasonForStatus : Status → Option FinishReason
  | .completed => some .stop
  | .incomplete => some .length
  | .failed => some .stop
  | .inProgress => none

def nonStreamResponsesBodyToChatCompletion (fromSlice : List UInt8 → Option Json) (body : List UInt8) :
    Except ApiError CreateChatCompletionResponse :=
  match (fromSlice body).bind Response.fromValue with
  | none => .error (.deserialize "async_openai::types::responses::Response")
  | some response =>
    let (content, refusal) := aggregateOutputText response
    let created := if response.createdAt.toNat < UInt32.size then response.createdAt.toUInt32 else 0xFFFFFFFF
    .ok {
      id := response.id
      choices := [⟨0, ⟨content, refusal, none, .assistant⟩, finishReasonForStatus response.status⟩]
      created := created
      model := response.model
      object := "chat.completion"
      usage := response.usage.map fun usage => ⟨usage.inputTokens, usage.outputTokens, usage.totalTokens, none, none⟩ }

end AiGateway.ResponsesBridge
