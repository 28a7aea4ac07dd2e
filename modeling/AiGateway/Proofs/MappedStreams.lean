import AiGateway.AnthropicChat
import AiGateway.Lib.EventStreams
import AiGateway.Proofs.LoggedStreams

/-! What a client reads of a mapped stream: what the converter or the bridge makes of the
provider's messages, as the data of one event each, up to the first error. -/

namespace AiGateway.StreamedResponses
open Lib.Runs Lib.Utf8 Lib.EventStreams CacheTee BodyReader

variable {σ ε : Type} {bodyError : ApiError → ε}

/-- The bytes of a body, which an error cuts short. -/
def received : List (Except ε (List UInt8)) → List UInt8
  | .ok bytes :: rest => bytes ++ received rest
  | _ => []

/-- What the events carry that a chunk is mapped to, and the state for the next chunk. -/
abbrev ChunkPayloads (σ ε : Type) := σ → List UInt8 → Except ε (List (List UInt8)) × σ

/-- The payloads of a stream, the state handed on from chunk to chunk. -/
def conversions (payloads : ChunkPayloads σ ε) : σ → List Item → List (List UInt8)
  | state, .ok bytes :: rest =>
    match payloads state bytes with
    | (.ok converted, state) => converted ++ conversions payloads state rest
    | (.error _, _) => []
  | _, _ => []

/-- A converter makes one event of a chunk or none. -/
def converterPayloads (convert : ChunkConversion σ ε) : ChunkPayloads σ ε := fun state bytes =>
  let (converted, state) := convert state bytes
  (converted.map Option.toList, state)

section Bridge
variable (serde : JsonText) (toVec : OpenAi.CreateChatCompletionStreamResponse → List UInt8)
  (deserialize : ResponsesBridge.ApiError → ε)

/-- The bridge makes an event of each of its records. -/
def bridgePayloads : ChunkPayloads ResponsesBridge.BridgeStreamState ε := fun state raw =>
  match state.processUpstreamSseJson (fromSlice serde) raw with
  | .error error => (.error (deserialize error), state)
  | .ok (records, state) => (.ok ((records.getD []).map (recordBytes serde toVec)), state)

/-- What the events of a mapped stream carry. -/
def Mapping.payloads : Mapping σ ε → List Item → List (List UInt8)
  | .bridge => conversions (bridgePayloads serde toVec deserialize) .default
  | .converter convert cell => conversions (converterPayloads convert) cell

end Bridge

/-- What the converters and the bridge print: text on one line, as compact JSON is. -/
def Printed (bytes : List UInt8) : Prop := valid bytes = true ∧ oneLine (chars bytes)

/-- The conversion yields the frames of these payloads, and nothing where there are none. -/
def Frames (convert : ChunkConversion σ ε) (payloads : ChunkPayloads σ ε) : Prop :=
  ∀ state bytes, (convert state bytes).2 = (payloads state bytes).2 ∧
    match (convert state bytes).1, (payloads state bytes).1 with
    | .ok data, .ok converted => data.getD [] = (converted.map (frame true)).flatten
    | .error _, .error _ => True
    | _, _ => False

theorem prefixed_frames (convert : ChunkConversion σ ε) : Frames (prefixed convert) (converterPayloads convert) := by
  intro state bytes
  refine ⟨rfl, ?_⟩
  simp only [prefixed, converterPayloads]
  rcases (convert state bytes).1 with _ | _ | data
  · exact trivial
  · rfl
  · exact (List.append_nil _).symm

theorem bridged_frames {serde : JsonText} {toVec : OpenAi.CreateChatCompletionStreamResponse → List UInt8}
    {deserialize : ResponsesBridge.ApiError → ε} :
    Frames (bridged serde toVec deserialize) (bridgePayloads serde toVec deserialize) := by
  intro state bytes
  simp only [bridged, bridgePayloads]
  rcases state.processUpstreamSseJson (fromSlice serde) bytes with _ | ⟨_ | records, next⟩
  · exact ⟨rfl, trivial⟩
  · exact ⟨rfl, rfl⟩
  · refine ⟨rfl, ?_⟩
    simp [List.flatMap_def]
    rfl

theorem received_mappedStream {convert : ChunkConversion σ ε} {payloads : ChunkPayloads σ ε}
    (frames : Frames convert payloads) (state : σ) (items : List Item) :
    received (mappedStream bodyError convert state items) =
      ((conversions payloads state items).map (frame true)).flatten := by
  induction items generalizing state with
  | nil => rfl
  | cons item rest ih =>
    cases item with
    | error error => rfl
    | ok bytes =>
      obtain ⟨same, yields⟩ := frames state bytes
      simp only [mappedStream, conversions]
      rw [same]
      revert yields
      rcases (convert state bytes).1 with _ | _ | data <;> rcases payloads state bytes with ⟨_ | converted, next⟩
      · exact fun _ => rfl
      · exact False.elim
      · exact False.elim
      · intro yields
        rw [List.map_append, List.flatten_append, ← yields]
        exact ih next
      · exact False.elim
      · intro yields
        rw [List.map_append, List.flatten_append, ← yields]
        exact congrArg (data ++ ·) (ih next)

theorem conversions_prefix {payloads : ChunkPayloads σ ε} (state : σ) {front whole : List Item}
    (shorter : front <+: whole) : conversions payloads state front <+: conversions payloads state whole := by
  obtain ⟨rest, rfl⟩ := shorter
  induction front generalizing state with
  | nil => exact List.nil_prefix
  | cons item front ih =>
    cases item with
    | error error => exact List.prefix_rfl
    | ok bytes =>
      simp only [List.cons_append, conversions]
      rcases payloads state bytes with ⟨_ | converted, next⟩
      · exact List.prefix_rfl
      · exact (List.prefix_append_right_inj _).mpr (ih next)

theorem chars_frames {events : List (List UInt8)} (printed : ∀ bytes ∈ events, Printed bytes) :
    chars (events.map (frame true)).flatten = (events.map chars).flatMap Lib.EventStreams.frame := by
  have framed : ∀ piece ∈ events.map (frame true), valid piece = true := by
    intro piece member
    obtain ⟨bytes, inside, rfl⟩ := List.mem_map.mp member
    exact (frame_text (printed bytes inside).1).1
  rw [chars_flatten framed, List.map_map, List.flatMap_def, List.map_map]
  refine congrArg List.flatten (List.map_congr_left fun bytes inside => ?_)
  exact (frame_text (printed bytes inside).1).2

section Reader
variable {serde : JsonText} {toVec : OpenAi.CreateChatCompletionStreamResponse → List UInt8}
  {deserialize : ResponsesBridge.ApiError → ε}

theorem received_mapResponse (mapping : Mapping σ ε) (items : List Item) :
    received (mapResponse bodyError serde toVec deserialize mapping items) =
      ((mapping.payloads serde toVec deserialize items).map (frame true)).flatten := by
  cases mapping with
  | bridge => exact received_mappedStream bridged_frames _ items
  | converter convert cell => exact received_mappedStream (prefixed_frames convert) cell items

theorem payloads_prefix (mapping : Mapping σ ε) {front whole : List Item} (shorter : front <+: whole) :
    mapping.payloads serde toVec deserialize front <+: mapping.payloads serde toVec deserialize whole := by
  cases mapping with
  | bridge => exact conversions_prefix _ shorter
  | converter convert cell => exact conversions_prefix cell shorter

/-- A reader of event streams gets out of the mapped stream what the converter or the bridge makes
of the provider's messages, event by event: a front of it while the stream goes on, and all up to
the first error once it has ended. -/
theorem mapped_stream_read {isStream : Bool} (mapping : Mapping σ ε) {source : List (Except SourceError SseEvent)}
    {start final : State} {events : List Event} (started : dispatchStream source = .ok start)
    (ran : run (step serde isStream) start events = some final)
    (printed : ∀ bytes ∈ mapping.payloads serde toVec deserialize final.delivered, Printed bytes) :
    Lib.EventStreams.read (chars (received (mapResponse bodyError serde toVec deserialize mapping final.delivered))) =
        (mapping.payloads serde toVec deserialize final.delivered).map chars ∧
      mapping.payloads serde toVec deserialize final.delivered <+:
        mapping.payloads serde toVec deserialize (whole source) ∧
      (final.ended = true → mapping.payloads serde toVec deserialize final.delivered =
        mapping.payloads serde toVec deserialize (whole source)) := by
  obtain ⟨items, rest, rfl, whole⟩ := dispatchStream_eq started
  have streamed := streamed_run (streamed_start true .firstModelToken items rest) ran
  rw [whole] at streamed
  refine ⟨?_, payloads_prefix mapping streamed.front, fun finished => congrArg _ (streamed.ended finished)⟩
  rw [received_mapResponse, chars_frames printed]
  apply read_frames
  intro data member
  obtain ⟨bytes, inside, rfl⟩ := List.mem_map.mp member
  exact (printed bytes inside).2

end Reader

section Anthropic
open OpenAi Anthropic

def startText : List UInt8 :=
  "\x7b\"type\":\"message_start\",\"message\":\x7b\"id\":\"m\",\"role\":\"assistant\",\"model\":\"c\"\x7d\x7d".toUTF8.data.toList

def stopText : List UInt8 := "\x7b\"type\":\"message_stop\"\x7d".toUTF8.data.toList

/-- A reader that knows a message's start and its stop. -/
def readEvent (bytes : List UInt8) : Except ApiError StreamEvent :=
  if bytes = startText then .ok (.messageStart ⟨"m", .assistant, [], "c", none, none, ⟨3, 1, none, none, none⟩⟩)
  else if bytes = stopText then .ok .messageStop
  else .error (.streamError "deserialize")

def openedText : List UInt8 := "\x7b\"id\":\"m\",\"choices\":[\x7b\"index\":0\x7d]\x7d".toUTF8.data.toList

def usedText : List UInt8 :=
  "\x7b\"id\":\"m\",\"choices\":[],\"usage\":\x7b\"prompt_tokens\":3,\"total_tokens\":4\x7d\x7d".toUTF8.data.toList

/-- A printer that knows the first chunk of the message and a last one with its usage. -/
def printChunk (chunk : CreateChatCompletionStreamResponse) : List UInt8 :=
  if chunk.id = "m" ∧ chunk.usage.isNone then openedText
  else if chunk.id = "m" ∧ chunk.usage.map (·.totalTokens) = some 4 then usedText
  else []

def anthropicMapping : Mapping (Option AnthropicStreamOpenAiUsageState) ApiError :=
  .converter (convertRespBody readEvent printChunk (tryConvertChunk .sample)) (some .default)

/-- The usage in the last event is of the cell that the first one filled. -/
theorem anthropic_stream_read :
    ∃ start final, dispatchStream [.ok .opened, sampleMessage startText (by decide), sampleMessage stopText (by decide)] =
        .ok start ∧
      run (step .sample true) start [.forward, .forward, .poll, .poll] = some final ∧
      Lib.EventStreams.read
          (chars (received (mapResponse id .sample printChunk (fun _ => .streamError "bridge") anthropicMapping
            final.delivered))) =
        [chars openedText, chars usedText] := by
  have ⟨start, started⟩ : ∃ start,
      dispatchStream [.ok .opened, sampleMessage startText (by decide), sampleMessage stopText (by decide)] = .ok start :=
    ⟨_, rfl⟩
  have ⟨final, ran, given⟩ : ∃ final, run (step .sample true) start [.forward, .forward, .poll, .poll] = some final ∧
      final.delivered = [.ok startText, .ok stopText] := by
    cases started
    exact ⟨_, rfl, rfl⟩
  have payloads : anthropicMapping.payloads .sample printChunk (fun _ => .streamError "bridge") final.delivered =
      [openedText, usedText] := by
    rw [given]
    decide
  have printed (bytes : List UInt8) (ascii : isAscii bytes = true)
      (line : oneLine (bytes.map fun byte => Char.ofNat byte.toNat)) : Printed bytes :=
    ⟨valid_ascii ascii, chars_ascii ascii ▸ line⟩
  have all : ∀ bytes ∈ anthropicMapping.payloads .sample printChunk (fun _ => .streamError "bridge") final.delivered,
      Printed bytes := by
    rw [payloads]
    intro bytes member
    simp only [List.mem_cons, List.not_mem_nil, or_false] at member
    rcases member with rfl | rfl
    · exact printed openedText (by decide) ⟨by decide, by decide⟩
    · exact printed usedText (by decide) ⟨by decide, by decide⟩
  refine ⟨start, final, started, ran, (mapped_stream_read anthropicMapping started ran all).1.trans ?_⟩
  rw [payloads]
  rfl

end Anthropic

end AiGateway.StreamedResponses
