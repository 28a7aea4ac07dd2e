import AiGateway.CacheTee
import AiGateway.MapperProfiles
import AiGateway.ResponsesBridge
import AiGateway.Lib.Lines

/-! What a provider streams, on its way to the client and into the request log. A task reads
the event source and sends the messages on a channel; the client's polls pull them through a
tee into the channel of a `BodyReader`, from which the logger collects the body whose token
usage it records. -/

namespace AiGateway.StreamedResponses

open Lib.Utf8 Lib.Lines CacheTee

structure UsageTokenCounts where
  promptTokens : Int64 := 0
  completionTokens : Int64 := 0
  promptCacheWriteTokens : Int64 := 0
  promptCacheReadTokens : Int64 := 0
  promptAudioTokens : Int64 := 0
  completionAudioTokens : Int64 := 0
  reasoningTokens : Int64 := 0
  deriving DecidableEq, Repr

def valueAsI64 (value : Json) : Int64 :=
  (value.asI64.or (value.asU64.map fun wide =>
    if wide.toNat < UInt64.size / 2 then wide.toInt64 else Int64.maxValue)).getD 0

def jsonI64 (value : Json) (key : String) : Int64 :=
  match value.get key with
  | some member => valueAsI64 member
  | none => 0

def promptDetails (details : Json) (out : UsageTokenCounts) : UsageTokenCounts :=
  let out := { out with
    promptCacheReadTokens := jsonI64 details "cached_tokens"
    promptAudioTokens := jsonI64 details "audio_tokens" }
  let out :=
    match out.promptCacheReadTokens == 0, details.get "cache_read_input_tokens" with
    | true, some cache => { out with promptCacheReadTokens := valueAsI64 cache }
    | _, _ => out
  let out :=
    match out.promptCacheWriteTokens == 0, details.get "cache_write_input_tokens" with
    | true, some cache => { out with promptCacheWriteTokens := valueAsI64 cache }
    | _, _ => out
  if out.promptCacheWriteTokens == 0 then { out with promptCacheWriteTokens := jsonI64 details "cache_write_tokens" }
  else out

def extractUsageFromUsageObject (usage : Json) : UsageTokenCounts :=
  let out : UsageTokenCounts :=
    { promptTokens := jsonI64 usage "prompt_tokens", completionTokens := jsonI64 usage "completion_tokens" }
  let out :=
    match usage.get "prompt_tokens_details" with
    | some details => promptDetails details out
    | none => out
  match usage.get "completion_tokens_details" with
  | some details =>
    { out with
      reasoningTokens := jsonI64 details "reasoning_tokens"
      completionAudioTokens := jsonI64 details "audio_tokens" }
  | none => out

/-- The member `usage`, unless it is null. -/
def usageOf (root : Json) : Option Json :=
  match root.get "usage" with
  | some .null => none
  | usage => usage

def extractUsageFromRoot (root : Json) : UsageTokenCounts :=
  match usageOf root with
  | some usage => extractUsageFromUsageObject usage
  | none => {}

section Usage
variable (serde : JsonText)

def fromStr (text : List Char) : Option Json := serde.parse (String.ofList text)

/-- `serde_json::from_slice`, which takes nothing but text. -/
def fromSlice (bytes : List UInt8) : Option Json := (fromUtf8 bytes).bind (fromStr serde)

/-- What one line of the log has to say of the usage. -/
def lineUsage (line : List Char) : Option UsageTokenCounts :=
  match (trim line).dropPrefix? "data:".toList with
  | some rest =>
    let payload := trim rest
    if payload.isEmpty || payload == "[DONE]".toList then none
    else ((fromStr serde payload).bind usageOf).map extractUsageFromUsageObject
  | none => none

def usageCountsFromSseDataFrames (body : List UInt8) : UsageTokenCounts :=
  match fromUtf8 body with
  | some text => (lines text).foldl (fun last line => (lineUsage serde line).getD last) {}
  | none => {}

def usageCountsFromResponseBodyForLog (isStream : Bool) (body : List UInt8) : UsageTokenCounts :=
  let fromSingle := ((fromSlice serde body).map extractUsageFromRoot).getD {}
  if !isStream && fromSingle != {} then fromSingle
  else
    let fromSse := usageCountsFromSseDataFrames serde body
    if fromSse != {} then fromSse else fromSingle

def nonEmptyText (value : Option Json) : Bool :=
  match value.bind Json.asStr with
  | some text => text != ""
  | none => false

def chunkHasFirstModelToken (bytes : List UInt8) : Bool :=
  match fromSlice serde bytes with
  | none => false
  | some value =>
    match (value.get "choices").bind Json.asArray with
    | some choices =>
      choices.any fun choice =>
        match choice.get "delta" with
        | some delta => ["content", "reasoning_content"].any fun key => nonEmptyText (delta.get key)
        | none => false
    | none =>
      if value.getStr "type" == some "content_block_delta" then nonEmptyText ((value.get "delta").bind (Json.get · "text"))
      else false

end Usage

inductive TfftTrigger where
  | never
  | firstChunk
  | firstModelToken
  deriving DecidableEq, Repr

structure BodyReader where
  /-- Whether the sender of the signal is still there. -/
  tfftTx : Bool
  tfftTrigger : TfftTrigger
  appendNewlines : Bool
  isEndStream : Bool
  deriving DecidableEq, Repr

namespace BodyReader

def new (appendNewlines : Bool) (tfftTrigger : TfftTrigger) : BodyReader := ⟨true, tfftTrigger, appendNewlines, false⟩

def frame (appendNewlines : Bool) (bytes : List UInt8) : List UInt8 :=
  if appendNewlines then "data: ".toUTF8.data.toList ++ bytes ++ "\n\n".toUTF8.data.toList else bytes

def triggers (serde : JsonText) (trigger : TfftTrigger) (bytes : List UInt8) : Bool :=
  match trigger with
  | .never => false
  | .firstChunk => true
  | .firstModelToken => chunkHasFirstModelToken serde bytes

/-- `poll_frame` where the channel has a chunk: the frame, and whether the signal is sent. -/
def pollFrame (serde : JsonText) (reader : BodyReader) (bytes : List UInt8) : BodyReader × List UInt8 × Bool :=
  let shouldSignal := reader.tfftTx && triggers serde reader.tfftTrigger bytes
  (if shouldSignal then { reader with tfftTx := false } else reader, frame reader.appendNewlines bytes, shouldSignal)

end BodyReader

inductive SseEvent where
  | opened
  | message (data : Text)
  deriving DecidableEq

/-- An error of the event source. The body of a response with a status that is no success can
fail to be read. -/
inductive SourceError where
  | streamEnded
  | invalidStatusCode (body : Option (List UInt8))
  | other (message : String)
  deriving DecidableEq

abbrev Item := Except ApiError (List UInt8)

/-- `source` is what the event source has still to yield, `items` what the task has sent and
the client's body not pulled, `channel` what is on its way to the reader. A signal is the
number of frames the logger had before the one it came with. -/
structure State where
  source : List (Except SourceError SseEvent)
  sending : Bool
  items : List Item
  bodyHeld : Bool
  delivered : List Item
  ended : Bool
  channel : List (List UInt8)
  reader : BodyReader
  frames : List (List UInt8)
  signals : List Nat
  log : Option UsageTokenCounts
  deriving DecidableEq

inductive Event where
  | forward
  | poll
  | dropBody
  | read
  deriving DecidableEq, Repr

def isDone (data : Text) : Bool := data.bytes == "[DONE]".toUTF8.data.toList

/-- `sse_stream` before its task: the first event is awaited, and an error in its place is
the caller's. -/
def sseStream (source : List (Except SourceError SseEvent)) :
    Except SourceError (List Item × List (Except SourceError SseEvent)) :=
  match source with
  | .ok (.message data) :: rest => .ok (if isDone data then [] else [.ok data.bytes], rest)
  | .ok .opened :: rest => .ok ([], rest)
  | .error error :: _ => .error error
  | [] => .ok ([], [])

/-- What the task does with the next of the events: it sends an item or nothing, and goes on
or not. -/
def handleEvent : Except SourceError SseEvent → Option Item × Bool
  | .ok .opened => (none, true)
  | .ok (.message data) => if isDone data then (none, false) else (some (.ok data.bytes), true)
  | .error .streamEnded => (none, false)
  | .error (.invalidStatusCode (some body)) => (some (.ok body), true)
  | .error (.invalidStatusCode none) => (none, false)
  | .error (.other message) => (some (.error (.streamError message)), true)

/-- A message that finds no receiver ends the task; an error that finds none does not. -/
def endsUnheard : Except SourceError SseEvent → Bool
  | .ok (.message _) => true
  | _ => false

def State.start (appendNewlines : Bool) (trigger : TfftTrigger) (items : List Item)
    (source : List (Except SourceError SseEvent)) : State :=
  ⟨source, true, items, true, [], false, [], .new appendNewlines trigger, [], [], none⟩

def dispatchStream (source : List (Except SourceError SseEvent)) : Except SourceError State :=
  (sseStream source).map fun (items, rest) => .start true .firstModelToken items rest

section Machine
variable (serde : JsonText) (isStream : Bool)

def step (state : State) : Event → Option State
  | .forward =>
    match state.sending, state.source with
    | true, event :: rest =>
      let (item, goes) := handleEvent event
      if state.bodyHeld then some { state with source := rest, items := state.items ++ item.toList, sending := goes }
      else some { state with source := rest, sending := goes && !endsUnheard event }
    | true, [] => some { state with sending := false }
    | false, _ => none
  | .poll =>
    match state.bodyHeld, state.items with
    | true, item :: rest =>
      some { state with items := rest, delivered := state.delivered ++ [item], channel := tap item state.channel }
    | true, [] => if state.sending then some state else some { state with ended := true }
    | false, _ => none
  | .dropBody => if state.bodyHeld then some { state with bodyHeld := false, items := [] } else none
  | .read =>
    match state.log, state.channel with
    | none, bytes :: rest =>
      let (reader, frame, signalled) := state.reader.pollFrame serde bytes
      some { state with
        channel := rest
        reader := reader
        frames := state.frames ++ [frame]
        signals := if signalled then state.signals ++ [state.frames.length] else state.signals }
    | none, [] =>
      if state.bodyHeld then some state
      else
        some { state with
          reader := { state.reader with isEndStream := true }
          log := some (usageCountsFromResponseBodyForLog serde isStream state.frames.flatten) }
    | some _, _ => none

end Machine

section Mapped
variable {σ ε : Type} (bodyError : ApiError → ε)

/-- What a chunk is converted to, if to anything, and the state in which the next one is. -/
abbrev ChunkConversion (σ ε : Type) := σ → List UInt8 → Except ε (Option (List UInt8)) × σ

/-- `try_filter_map` on the chunks of a body. -/
def mappedStream (convert : ChunkConversion σ ε) : σ → List Item → List (Except ε (List UInt8))
  | _, [] => []
  | state, .error error :: rest => .error (bodyError error) :: mappedStream convert state rest
  | state, .ok bytes :: rest =>
    let (converted, state) := convert state bytes
    match converted with
    | .ok (some data) => .ok data :: mappedStream convert state rest
    | .ok none => mappedStream convert state rest
    | .error error => .error error :: mappedStream convert state rest

/-- `convert_resp_body` of a chunk, between reading it and printing what it is converted to. -/
def convertRespBody {source target : Type} (read : List UInt8 → Except ε source) (toVec : target → List UInt8)
    (tryConvertChunk : σ → source → σ × Option target) : ChunkConversion σ ε := fun state bytes =>
  match read bytes with
  | .error error => (.error error, state)
  | .ok value =>
    let (state, converted) := tryConvertChunk state value
    (.ok (converted.map toVec), state)

/-- A converted chunk with the prefix that the SDK expects. -/
def prefixed (convert : ChunkConversion σ ε) : ChunkConversion σ ε := fun state bytes =>
  let (converted, state) := convert state bytes
  (converted.map fun data => data.map (BodyReader.frame true), state)

section Bridge
variable (serde : JsonText) (toVec : OpenAi.CreateChatCompletionStreamResponse → List UInt8)
  (deserialize : ResponsesBridge.ApiError → ε)

/-- An absent text is null. -/
def textOrNull (text : Option String) : Json := (text.map Json.string).getD .null

/-- What `put_sse_record` is given of a record. -/
def recordBytes : ResponsesBridge.SseRecord → List UInt8
  | .chunk chunk => toVec chunk
  | .error message code param =>
    (serde.print (.object [("error", .object [("message", .string message), ("type", .string "invalid_request_error"),
      ("code", textOrNull code), ("param", textOrNull param)])])).toUTF8.data.toList
  | .done => "[DONE]".toUTF8.data.toList

/-- `process_upstream_sse_json`, which frames its records itself. -/
def bridged : ChunkConversion ResponsesBridge.BridgeStreamState ε := fun state raw =>
  match state.processUpstreamSseJson (fromSlice serde) raw with
  | .error error => (.error (deserialize error), state)
  | .ok (records, state) =>
    (.ok (records.map fun buf => buf.flatMap fun record => BodyReader.frame true (recordBytes serde toVec record)), state)

/-- How the chunks of a response are mapped: those of the Responses API for a client of chat
completions by the bridge, others by a converter, which starts with its usage cell. -/
inductive Mapping (σ ε : Type) where
  | bridge
  | converter (convert : ChunkConversion σ ε) (cell : σ)

/-- `map_response` on a stream. -/
def mapResponse : Mapping σ ε → List Item → List (Except ε (List UInt8))
  | .bridge => mappedStream bodyError (bridged serde toVec deserialize) .default
  | .converter convert cell => mappedStream bodyError (prefixed convert) cell

end Bridge

end Mapped

end AiGateway.StreamedResponses
