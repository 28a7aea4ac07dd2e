import AiGateway.Lib.Texts
import AiGateway.Proofs.BridgeReadings
import AiGateway.Proofs.BridgeResults
import Mathlib.Data.List.Forall2

/-! A result of the Responses API read from its stream, against the same result read from
one body. -/

namespace AiGateway.ResponsesBridge

open OpenAi

section Streamed

/-- What an event adds to a text: its delta, where it is of a kind that the text is made
of, and else nothing. -/
structure Adds (upstream : Json → String) (carries : DeltaKind → Bool) : Prop where
  own : ∀ event kind, eventType event = DeltaKind.eventType kind →
    upstream event = if carries kind then eventDelta event else ""
  quiet : ∀ event, Quiet event → upstream event = ""
  last : ∀ event status, Status.finalEvent status = some (eventType event) → upstream event = ""

theorem content_adds : Adds upstreamContent fun kind => kind != .refusal where
  own event kind same := by
    cases kind <;> simp [upstreamContent, isText, same, DeltaKind.eventType]
  quiet event quiet := by
    rw [Quiet, telling] at quiet
    simp only [List.mem_cons, not_or] at quiet
    simp [upstreamContent, isText, quiet]
  last event status same := by
    cases status <;> simp [Status.finalEvent] at same <;> simp [upstreamContent, isText, ← same]

theorem refusal_adds : Adds upstreamRefusal fun kind => kind == .refusal where
  own event kind same := by
    cases kind <;> simp [upstreamRefusal, isRefusal, same, DeltaKind.eventType]
  quiet event quiet := by
    rw [Quiet, telling] at quiet
    simp only [List.mem_cons, not_or] at quiet
    simp [upstreamRefusal, isRefusal, quiet]
  last event status same := by
    cases status <;> simp [Status.finalEvent] at same <;> simp [upstreamRefusal, isRefusal, ← same]

variable {upstream : Json → String} {carries : DeltaKind → Bool} (adds : Adds upstream carries)
include adds

theorem Adds.join_quiet {events : List Json} (quiet : ∀ event ∈ events, Quiet event) :
    String.join (events.map upstream) = "" := by
  induction events with
  | nil => rfl
  | cons event rest ih =>
    rw [List.map_cons, String.join_cons, adds.quiet event (quiet event List.mem_cons_self),
      ih fun other member => quiet other (List.mem_cons_of_mem event member), String.empty_append]

theorem Adds.join_text {spoken : Spoken} {events : List Json} (streams : StreamsText spoken events) :
    String.join (events.map upstream) = if carries spoken.kind then spoken.text else "" := by
  obtain ⟨own, whole⟩ := streams
  rw [← whole]
  clear whole
  induction events with
  | nil => simp
  | cons event rest ih =>
    have later := ih fun other member => own other (List.mem_cons_of_mem event member)
    rw [List.map_cons, String.join_cons, later]
    by_cases same : eventType event = DeltaKind.eventType spoken.kind
    · rw [adds.own event spoken.kind same]
      cases carries spoken.kind <;> simp [same]
    · have silent : Quiet event := (own event List.mem_cons_self).resolve_left same
      rw [adds.quiet event silent]
      simp [same]

theorem Adds.join_blocks {texts : List Spoken} {blocks : List (List Json)} (streams : List.Forall₂ StreamsText texts blocks) :
    String.join (blocks.flatten.map upstream) =
      String.join (texts.map fun spoken => if carries spoken.kind then spoken.text else "") := by
  induction streams with
  | nil => rfl
  | cons text _ ih =>
    rw [List.flatten_cons, List.map_append, String.join_append, ih, adds.join_text text, List.map_cons, String.join_cons]

theorem Adds.join_streamed {result : Result} {events : List Json} (streams : Streams result events) :
    String.join (events.map upstream) =
      String.join (result.spoken.map fun spoken => if carries spoken.kind then spoken.text else "") := by
  obtain ⟨opening, blocks, closing, last, quietOpening, texts, quietClosing, ends, -⟩ := streams
  have final := adds.last last result.status ends
  simp only [List.map_append, String.join_append, adds.join_quiet quietOpening, adds.join_blocks texts,
    adds.join_quiet quietClosing, List.map_singleton, String.join_cons, String.join_nil, final, String.append_empty,
    String.empty_append]

end Streamed

section Ending

theorem Quiet.unfinished {event : Json} (quiet : Quiet event) : finishes event = false := by
  rw [Quiet, telling] at quiet
  simp only [List.mem_cons, not_or] at quiet
  simp [finishes, quiet]

theorem StreamsText.unfinished {spoken : Spoken} {events : List Json} (streams : StreamsText spoken events) :
    ∀ event ∈ events, finishes event = false := by
  intro event member
  obtain same | quiet := streams.own event member
  · cases kind : spoken.kind <;> simp [finishes, same, kind, DeltaKind.eventType]
  · exact quiet.unfinished

theorem blocks_unfinished {texts : List Spoken} {blocks : List (List Json)} (streams : List.Forall₂ StreamsText texts blocks) :
    ∀ event ∈ blocks.flatten, finishes event = false := by
  induction streams with
  | nil => nofun
  | cons text _ ih =>
    intro event member
    rw [List.flatten_cons, List.mem_append] at member
    obtain member | member := member
    · exact text.unfinished event member
    · exact ih event member

/-- Only the last event of a stream ends the answer. -/
theorem Streams.cut {result : Result} {events : List Json} (streams : Streams result events) :
    ∃ front last, events = front ++ [last] ∧ (∀ event ∈ front, finishes event = false) ∧
      result.status.finalEvent = some (eventType last) ∧ last.get "response" = some result.toJson := by
  obtain ⟨opening, blocks, closing, last, quietOpening, texts, quietClosing, ends, carries⟩ := streams
  refine ⟨opening ++ blocks.flatten ++ closing, last, rfl, ?_, ends, carries⟩
  intro event member
  rw [List.mem_append, List.mem_append] at member
  obtain (member | member) | member := member
  · exact (quietOpening event member).unfinished
  · exact blocks_unfinished texts event member
  · exact (quietClosing event member).unfinished

/-- The counts in 32 bits. -/
def Counts.low (counts : Counts) : CompletionUsage :=
  ⟨counts.inputTokens.toUInt32, counts.outputTokens.toUInt32, counts.totalTokens.toUInt32, none, none⟩

theorem reportedUsage_carried {event : Json} {result : Result} (carries : event.get "response" = some result.toJson) :
    reportedUsage event = result.usage.map Counts.low := by
  rw [reportedUsage]
  rw [carries]
  cases used : result.usage with
  | none => simp [Result.toJson, Json.get, List.lookup_cons, used, orNull, completionUsageFromResponsesValue]
  | some counts =>
    simp [Result.toJson, Json.get, List.lookup_cons, used, orNull, completionUsageFromResponsesValue, Counts.toJson, Json.asU64,
      Counts.low]

theorem Streams.finish {result : Result} {events : List Json} (streams : Streams result events) :
    (events.flatMap fun event => if finishes event then [FinishReason.stop] else []).getLast? =
      if result.status = .completed ∨ result.status = .failed then some .stop else none := by
  obtain ⟨front, last, rfl, unfinished, ends, -⟩ := streams.cut
  have silent : front.flatMap (fun event => if finishes event then [FinishReason.stop] else []) = [] := by
    apply List.flatMap_eq_nil_iff.mpr
    intro event member
    rw [unfinished event member]
    rfl
  rw [List.flatMap_append, silent, List.nil_append, List.flatMap_singleton]
  cases status : result.status <;> simp [status, Status.finalEvent] at ends <;> simp [finishes, ← ends]

theorem Streams.usage {result : Result} {events : List Json} (streams : Streams result events) :
    (events.flatMap fun event =>
        if eventType event = "response.completed" then (reportedUsage event).toList else []).getLast? =
      if result.status = .completed then result.usage.map Counts.low else none := by
  obtain ⟨front, last, rfl, unfinished, ends, carries⟩ := streams.cut
  have silent : (front.flatMap fun event =>
      if eventType event = "response.completed" then (reportedUsage event).toList else []) = [] := by
    apply List.flatMap_eq_nil_iff.mpr
    intro event member
    have other : eventType event ≠ "response.completed" := by
      intro same
      have never := unfinished event member
      simp [finishes, same] at never
    rw [if_neg other]
  rw [List.flatMap_append, silent, List.nil_append, List.flatMap_singleton, reportedUsage_carried carries]
  cases status : result.status <;> simp [status, Status.finalEvent] at ends <;> simp [← ends]
  cases result.usage <;> rfl

end Ending

section Whole

def Part.typed : Part → Content
  | .outputText text => .outputText text
  | .refusal text => .refusal text

def Item.typed : Item → OutputContent
  | .message parts => .message (parts.map Part.typed)
  | .reasoning _ _ | .functionCall _ _ => .other

/-- Every count has 32 bits. -/
structure Counts.Fits (counts : Counts) : Prop where
  input : counts.inputTokens.toNat < UInt32.size
  output : counts.outputTokens.toNat < UInt32.size
  total : counts.totalTokens.toNat < UInt32.size

def Counts.typed (counts : Counts) : Usage :=
  ⟨counts.inputTokens.toUInt32, counts.outputTokens.toUInt32, counts.totalTokens.toUInt32⟩

def Result.typed (result : Result) : Response :=
  ⟨result.createdAt, result.id, result.model, result.output.map Item.typed, result.outputText, result.status,
    result.usage.map Counts.typed⟩

theorem mapM_encoded {α β : Type} {read : Json → Option β} {encode : α → Json} {value : α → β}
    (inverse : ∀ item, read (encode item) = some (value item)) (items : List α) :
    (items.map encode).mapM read = some (items.map value) := by
  induction items with
  | nil => rfl
  | cons item rest ih =>
    rw [List.map_cons, List.mapM_cons, inverse, ih]
    rfl

theorem part_fromValue (part : Part) : Content.fromValue part.toJson = some part.typed := by
  cases part <;> rfl

theorem item_fromValue (item : Item) : OutputContent.fromValue item.toJson = some item.typed := by
  cases item with
  | message parts =>
    have content := mapM_encoded part_fromValue parts
    simp [OutputContent.fromValue, Item.toJson, Json.getStr, Json.get, Json.asStr, Json.asArray, List.lookup_cons, content,
      Item.typed]
  | reasoning summary content => rfl
  | functionCall name arguments => rfl

theorem counts_fromValue {counts : Counts} (fits : counts.Fits) : Usage.fromValue counts.toJson = some counts.typed := by
  simp [Usage.fromValue, Counts.toJson, Json.get, List.lookup_cons, asU32, Json.asU64, fits.input, fits.output, fits.total,
    Counts.typed]

theorem asU32_fits {count : UInt64} {value : UInt32} (read : asU32 (.number (.posInt count)) = some value) :
    count.toNat < UInt32.size := by
  by_contra large
  simp [asU32, Json.asU64, large] at read

theorem counts_fits {counts : Counts} {usage : Usage} (read : Usage.fromValue counts.toJson = some usage) : counts.Fits := by
  obtain ⟨input, readInput, read⟩ := Option.bind_eq_some_iff.mp read
  obtain ⟨output, readOutput, read⟩ := Option.bind_eq_some_iff.mp read
  obtain ⟨total, readTotal, -⟩ := Option.bind_eq_some_iff.mp read
  exact ⟨asU32_fits readInput, asU32_fits readOutput, asU32_fits readTotal⟩

/-- A body is read where its counts have 32 bits. -/
theorem result_fromValue {result : Result} (fits : ∀ counts ∈ result.usage, counts.Fits) :
    Response.fromValue result.toJson = some result.typed := by
  have output := mapM_encoded item_fromValue result.output
  have status : Status.fromStr result.status.toStr = some result.status := by cases result.status <;> rfl
  have text : optional Json.asStr (some (orNull Json.string result.outputText)) = some result.outputText := by
    cases result.outputText <;> rfl
  have usage : optional Usage.fromValue (some (orNull Counts.toJson result.usage)) = some (result.usage.map Counts.typed) := by
    cases used : result.usage with
    | none => rfl
    | some counts =>
      have read := counts_fromValue (fits counts used)
      simpa [optional, orNull, Counts.toJson] using read
  simp [Response.fromValue, Result.toJson, Json.get, Json.getStr, Json.asStr, Json.asArray, Json.asU64, List.lookup_cons, output,
    status, text, usage, Result.typed]

theorem result_fits {result : Result} {response : Response} (read : Response.fromValue result.toJson = some response) :
    ∀ counts ∈ result.usage, counts.Fits := by
  intro counts used
  simp only [Response.fromValue, bind, Option.bind_eq_some_iff] at read
  obtain ⟨createdAt, -, id, -, model, -, output, -, outputText, -, status, -, usage, readUsage, -⟩ := read
  have member : result.toJson.get "usage" = some counts.toJson := by
    have given : result.usage = some counts := used
    simp [Result.toJson, Json.get, List.lookup_cons, orNull, given]
  rw [member] at readUsage
  obtain ⟨value, readCounts, -⟩ := Option.map_eq_some_iff.mp readUsage
  exact counts_fits readCounts

/-- The refusals among the texts. -/
def refusals (texts : List Spoken) : List String := (texts.filter fun spoken => spoken.kind == .refusal).map Spoken.text

/-- The texts of the messages; those of the reasoning are empty here. -/
def messageText (spoken : Spoken) : String := if spoken.kind == .outputText then spoken.text else ""

/-- What aggregation makes of one text. -/
def said (found : String × Option String) (spoken : Spoken) : String × Option String :=
  match spoken.kind with
  | .outputText => (found.1 ++ spoken.text, found.2)
  | .refusal => (found.1, some spoken.text)
  | .reasoningText | .reasoningSummaryText => found

theorem foldl_said_reasoning {texts : List Spoken} (reasoning : ∀ spoken ∈ texts, spoken.kind.isReasoning = true)
    (found : String × Option String) : texts.foldl said found = found := by
  induction texts with
  | nil => rfl
  | cons spoken rest ih =>
    have silent : said found spoken = found := by
      have own := reasoning spoken List.mem_cons_self
      rw [said]
      cases kind : spoken.kind <;> simp_all [DeltaKind.isReasoning]
    rw [List.foldl_cons, silent]
    exact ih fun other member => reasoning other (List.mem_cons_of_mem spoken member)

theorem aggregateItem_typed (item : Item) (found : String × Option String) :
    aggregateItem found item.typed = item.spoken.foldl said found := by
  cases item with
  | message parts =>
    show (parts.map Part.typed).foldl aggregateContent found = (parts.map Part.spoken).foldl said found
    rw [List.foldl_map, List.foldl_map]
    congr
    funext found part
    cases part <;> rfl
  | reasoning summary content =>
    refine (foldl_said_reasoning ?_ found).symm
    intro spoken member
    simp only [Item.spoken, List.mem_append, List.mem_map] at member
    obtain ⟨text, -, rfl⟩ | ⟨text, -, rfl⟩ := member <;> rfl
  | functionCall name arguments => rfl

theorem aggregate_output (items : List Item) (found : String × Option String) :
    (items.map Item.typed).foldl aggregateItem found = (items.flatMap Item.spoken).foldl said found := by
  induction items generalizing found with
  | nil => rfl
  | cons item rest ih =>
    rw [List.map_cons, List.foldl_cons, List.flatMap_cons, List.foldl_append, ih, aggregateItem_typed]

theorem foldl_said (texts : List Spoken) (found : String × Option String) :
    texts.foldl said found = (found.1 ++ String.join (texts.map messageText), (refusals texts).getLast?.or found.2) := by
  induction texts generalizing found with
  | nil => simp [refusals]
  | cons spoken rest ih =>
    rw [List.foldl_cons, ih, List.map_cons, String.join_cons]
    cases kind : spoken.kind with
    | refusal =>
      have first : refusals (spoken :: rest) = spoken.text :: refusals rest := by simp [refusals, kind]
      rw [first, List.getLast?_cons]
      cases (refusals rest).getLast? <;> simp [said, kind, messageText]
    | outputText => simp [said, kind, messageText, refusals, String.append_assoc]
    | reasoningText => simp [said, kind, messageText, refusals]
    | reasoningSummaryText => simp [said, kind, messageText, refusals]

variable {result : Result} {fromSlice : List UInt8 → Option Json} {body : List UInt8}

/-- The content and the refusal of the whole body. -/
def wholeText (result : Result) : Option String × Option String :=
  match result.outputText with
  | some text => (some text, none)
  | none => (nonEmpty (String.join (result.spoken.map messageText)), (refusals result.spoken).getLast?)

theorem aggregateOutputText_typed (result : Result) : aggregateOutputText result.typed = wholeText result := by
  rw [aggregateOutputText, wholeText]
  cases given : result.outputText with
  | some text => simp [Result.typed, given]
  | none => simp [Result.typed, given, aggregate_output, foldl_said, Result.spoken]

theorem nonStream_reading (read : fromSlice body = some result.toJson) (fits : ∀ counts ∈ result.usage, counts.Fits) :
    ∃ completion, nonStreamResponsesBodyToChatCompletion fromSlice body = .ok completion ∧
      completion.reading =
        ⟨(wholeText result).1, (wholeText result).2, finishReasonForStatus result.status, result.usage.map Counts.low⟩ := by
  rw [nonStreamResponsesBodyToChatCompletion]
  rw [read, Option.bind_some, result_fromValue fits]
  refine ⟨_, rfl, ?_⟩
  have usage : (result.usage.map Counts.typed).map
      (fun usage => (⟨usage.inputTokens, usage.outputTokens, usage.totalTokens, none, none⟩ : CompletionUsage)) =
        result.usage.map Counts.low := by
    cases result.usage <;> rfl
  rw [← aggregateOutputText_typed, ← usage]
  rfl

theorem nonStream_fits (read : fromSlice body = some result.toJson) {completion : CreateChatCompletionResponse}
    (converted : nonStreamResponsesBodyToChatCompletion fromSlice body = .ok completion) :
    ∀ counts ∈ result.usage, counts.Fits := by
  rw [nonStreamResponsesBodyToChatCompletion] at converted
  rw [read, Option.bind_some] at converted
  split at converted
  next => cases converted
  next response found => exact result_fits found

end Whole

section Agreement

/-- The texts of the messages and of the reasoning. -/
def streamedTexts (texts : List Spoken) : List String := (texts.filter fun spoken => spoken.kind != .refusal).map Spoken.text

/-- The last refusal says something, and no other does. -/
def OneRefusal (refusals : List String) : Prop :=
  refusals = [] ∨ ∃ before last, refusals = before ++ [last] ∧ last ≠ "" ∧ ∀ refusal ∈ before, refusal = ""

/-- The results that both ways read alike. -/
structure ReadAlike (result : Result) : Prop where
  ended : result.status ≠ .incomplete
  counted : ∀ counts ∈ result.usage, result.status = .completed ∧ counts.Fits
  unaggregated : result.outputText = none →
    (∀ spoken ∈ result.spoken, spoken.kind.isReasoning = true → spoken.text = "") ∧ OneRefusal (refusals result.spoken)
  aggregated : ∀ text, result.outputText = some text →
    text ≠ "" ∧ text = String.join (streamedTexts result.spoken) ∧
      ∀ refusal ∈ refusals result.spoken, refusal = ""

theorem nonEmpty_injective {text other : String} : nonEmpty text = nonEmpty other ↔ text = other := by
  by_cases empty : text = ""
  · subst empty
    by_cases none : other = ""
    · simp [none]
    · simp [nonEmpty_empty, nonEmpty_present none, Ne.symm none]
  · by_cases none : other = ""
    · simp [none, nonEmpty_empty, nonEmpty_present empty, empty]
    · simp [nonEmpty_present empty, nonEmpty_present none]

theorem nonEmpty_eq_some {text other : String} : nonEmpty text = some other ↔ other ≠ "" ∧ text = other := by
  by_cases empty : text = ""
  · subst empty
    rw [nonEmpty_empty]
    constructor
    · nofun
    · intro ⟨present, same⟩
      exact absurd same.symm present
  · rw [nonEmpty_present empty, Option.some.injEq]
    constructor
    · intro same
      exact ⟨same ▸ empty, same⟩
    · exact And.right

theorem nonEmpty_eq_none {text : String} : nonEmpty text = none ↔ text = "" := by
  by_cases empty : text = ""
  · simp [empty, nonEmpty_empty]
  · simp [nonEmpty_present empty, empty]

theorem refusals_alike (refusals : List String) :
    nonEmpty (String.join refusals) = refusals.getLast? ↔ OneRefusal refusals := by
  induction refusals using List.reverseRecOn with
  | nil => simp [OneRefusal, nonEmpty_empty]
  | append_singleton before last _ =>
    have others := Lib.Texts.join_eq_last_iff (before ++ [last])
    rw [List.getLast?_concat, Option.getD_some, List.dropLast_concat] at others
    rw [List.getLast?_concat, nonEmpty_eq_some, others]
    constructor
    · intro ⟨present, empty⟩
      exact .inr ⟨before, last, rfl, present, empty⟩
    · rintro (none | ⟨other, final, same, present, empty⟩)
      · simp at none
      · obtain ⟨rfl, single⟩ := List.append_inj' same rfl
        cases single
        exact ⟨present, empty⟩

theorem contents_alike (texts : List Spoken) :
    nonEmpty (String.join (streamedTexts texts)) = nonEmpty (String.join (texts.map messageText)) ↔
      ∀ spoken ∈ texts, spoken.kind.isReasoning = true → spoken.text = "" := by
  have thinned : ∀ spoken : Spoken, messageText spoken = (if spoken.kind != .refusal then spoken.text else "") ∨
      messageText spoken = "" := by
    intro spoken
    cases kind : spoken.kind <;> simp [messageText, kind]
  rw [nonEmpty_injective, streamedTexts, ← Lib.Texts.join_filter, Lib.Texts.join_kept_iff thinned]
  apply forall₂_congr
  intro spoken _
  cases kind : spoken.kind <;> simp [messageText, kind, DeltaKind.isReasoning]

theorem finishes_alike (status : Status) :
    (if status = .completed ∨ status = .failed then some FinishReason.stop else none) = finishReasonForStatus status ↔
      status ≠ .incomplete := by
  cases status <;> simp [finishReasonForStatus]

theorem usages_alike (result : Result) :
    (if result.status = .completed then result.usage.map Counts.low else none) = result.usage.map Counts.low ↔
      ∀ counts ∈ result.usage, result.status = .completed := by
  by_cases completed : result.status = .completed
  · simp [completed]
  · cases used : result.usage <;> simp [completed]

theorem texts_alike (result : Result) :
    (nonEmpty (String.join (streamedTexts result.spoken)) = (wholeText result).1 ∧
        nonEmpty (String.join (refusals result.spoken)) = (wholeText result).2) ↔
      (result.outputText = none →
        (∀ spoken ∈ result.spoken, spoken.kind.isReasoning = true → spoken.text = "") ∧
          OneRefusal (refusals result.spoken)) ∧
        ∀ text, result.outputText = some text →
          text ≠ "" ∧ text = String.join (streamedTexts result.spoken) ∧
            ∀ refusal ∈ refusals result.spoken, refusal = "" := by
  rw [wholeText]
  cases given : result.outputText with
  | none => simp [contents_alike, refusals_alike]
  | some text =>
    simp only [nonEmpty_eq_some, nonEmpty_eq_none, Lib.Texts.join_eq_empty_iff]
    constructor
    · intro ⟨⟨present, same⟩, silent⟩
      refine ⟨nofun, ?_⟩
      intro other equal
      cases equal
      exact ⟨present, same.symm, silent⟩
    · intro ⟨_, aggregated⟩
      obtain ⟨present, same, silent⟩ := aggregated text rfl
      exact ⟨⟨present, same.symm⟩, silent⟩

theorem Streams.reading {result : Result} {events : List Json} (streams : Streams result events)
    {fromSlice : List UInt8 → Option Json} {raws : List (List UInt8)} (parsed : raws.mapM fromSlice = some events)
    {records : List SseRecord} (ran : BridgeStreamState.default.processStream fromSlice raws = .ok records) :
    readChunks (chunksOf records) =
      ⟨nonEmpty (String.join (streamedTexts result.spoken)), nonEmpty (String.join (refusals result.spoken)),
        if result.status = .completed ∨ result.status = .failed then some .stop else none,
        if result.status = .completed then result.usage.map Counts.low else none⟩ := by
  rw [readChunks_events parsed ran, content_adds.join_streamed streams, refusal_adds.join_streamed streams, streams.finish,
    streams.usage, Lib.Texts.join_filter, Lib.Texts.join_filter]
  rfl

/-- The stream and the body of a result read alike exactly when the result is not cut
short, its usage comes with its completion and in 32 bits, and the texts that only one of
the ways passes on (the reasoning, all refusals but the last, the text the upstream put
together itself) make no difference. -/
theorem bridge_reads_alike_iff (fromSlice : List UInt8 → Option Json) (result : Result) (raws : List (List UInt8))
    (events : List Json) (body : List UInt8) (parsed : raws.mapM fromSlice = some events) (streams : Streams result events)
    (read : fromSlice body = some result.toJson) :
    ∃ records, BridgeStreamState.default.processStream fromSlice raws = .ok records ∧
      ((∃ completion, nonStreamResponsesBodyToChatCompletion fromSlice body = .ok completion ∧
          readChunks (chunksOf records) = completion.reading) ↔ ReadAlike result) := by
  obtain ⟨records, ran, -⟩ := processStream_shapes parsed .default
  refine ⟨records, ran, ?_⟩
  have streamed := streams.reading parsed ran
  constructor
  · intro ⟨completion, converted, same⟩
    have fits := nonStream_fits read converted
    obtain ⟨other, found, whole⟩ := nonStream_reading read fits
    cases converted.symm.trans found
    rw [streamed, whole] at same
    obtain ⟨content, refusal, finish, usage⟩ := Reading.mk.inj same
    obtain ⟨unaggregated, aggregated⟩ := (texts_alike result).mp ⟨content, refusal⟩
    exact ⟨(finishes_alike _).mp finish,
      fun counts used => ⟨(usages_alike result).mp usage counts used, fits counts used⟩, unaggregated, aggregated⟩
  · intro alike
    obtain ⟨completion, converted, whole⟩ := nonStream_reading read fun counts used => (alike.counted counts used).2
    refine ⟨completion, converted, ?_⟩
    obtain ⟨content, refusal⟩ := (texts_alike result).mpr ⟨alike.unaggregated, alike.aggregated⟩
    rw [streamed, whole, content, refusal, (finishes_alike _).mpr alike.ended,
      (usages_alike result).mpr fun counts used => (alike.counted counts used).1]

end Agreement

/-! The answer "hi", completed or cut short. -/

def hiResult (status : Status) (usage : Option Counts) : Result :=
  ⟨"resp_1", "gpt-5", 1, [.message [.outputText "hi"]], none, status, usage⟩

def bytesOf (text : List Char) : List UInt8 := text.map fun char => UInt8.ofNat char.toNat

def hiBody (status usage : List Char) : List Char :=
  "\x7b\"id\":\"resp_1\",\"object\":\"response\",\"created_at\":1,\"status\":\"".toList ++ status ++
    "\",\"model\":\"gpt-5\",\"output\":[\x7b\"type\":\"message\",\"id\":\"msg\",\"role\":\"assistant\",".toList ++
      "\"status\":\"completed\",\"content\":[\x7b\"type\":\"output_text\",\"annotations\":[],\"text\":\"hi\"\x7d]\x7d],".toList ++
        "\"output_text\":null,\"usage\":".toList ++ usage ++ "\x7d".toList

def completedBody : List Char :=
  hiBody "completed".toList ("\x7b\"input_tokens\":1,\"input_tokens_details\":\x7b\x7d,\"output_tokens\":2,".toList ++
    "\"output_tokens_details\":\x7b\x7d,\"total_tokens\":3\x7d".toList)

def incompleteBody : List Char := hiBody "incomplete".toList "null".toList

def completedHi : Result := hiResult .completed (some ⟨1, 2, 3⟩)

def incompleteHi : Result := hiResult .incomplete none

def lastBytes (kind : String) (body : List Char) : List UInt8 :=
  bytesOf ("\x7b\"type\":\"".toList ++ kind.toList ++ "\",\"response\":".toList ++ body ++ "\x7d".toList)

def lastJson (kind : String) (result : Result) : Json := .object [("type", .string kind), ("response", result.toJson)]

/-- `serde_json` on the delta, on a body and on the event that carries it. -/
def hiParse (kind : String) (body : List Char) (result : Result) (raw : List UInt8) : Option Json :=
  if raw = lastBytes kind body then some (lastJson kind result)
  else if raw = bytesOf body then some result.toJson
  else if raw = rawDelta then some deltaEvent
  else none

theorem hiParse_stream (kind : String) (body : List Char) (result : Result) (first : rawDelta ≠ lastBytes kind body)
    (second : rawDelta ≠ bytesOf body) :
    [rawDelta, lastBytes kind body].mapM (hiParse kind body result) = some [deltaEvent, lastJson kind result] := by
  have delta : hiParse kind body result rawDelta = some deltaEvent := by
    rw [hiParse, if_neg first, if_neg second, if_pos rfl]
  have last : hiParse kind body result (lastBytes kind body) = some (lastJson kind result) := by
    rw [hiParse, if_pos rfl]
  rw [List.mapM_cons, delta, List.mapM_cons, last]
  rfl

theorem hiParse_body (kind : String) (body : List Char) (result : Result) :
    hiParse kind body result (bytesOf body) = some result.toJson := by
  have longer : bytesOf body ≠ lastBytes kind body := by
    intro same
    have lengths := congrArg List.length same
    simp only [lastBytes, bytesOf, List.length_map, List.length_append] at lengths
    have opening : 0 < "\x7b\"type\":\"".toList.length := by decide
    omega
  rw [hiParse, if_neg longer, if_pos rfl]

theorem streams_hi {status : Status} {usage : Option Counts} {kind : String} (ends : status.finalEvent = some kind) :
    Streams (hiResult status usage) [deltaEvent, lastJson kind (hiResult status usage)] := by
  have text : StreamsText ⟨.outputText, "hi"⟩ [deltaEvent] := by
    refine ⟨?_, rfl⟩
    intro event member
    rw [List.mem_singleton.mp member]
    exact .inl rfl
  exact .intro [] [[deltaEvent]] [] (lastJson kind (hiResult status usage)) nofun (.cons text .nil) nofun ends rfl

theorem completed_reads_alike :
    ∃ records completion,
      BridgeStreamState.default.processStream (hiParse "response.completed" completedBody completedHi)
          [rawDelta, lastBytes "response.completed" completedBody] = .ok records ∧
        nonStreamResponsesBodyToChatCompletion (hiParse "response.completed" completedBody completedHi)
            (bytesOf completedBody) = .ok completion ∧
          readChunks (chunksOf records) = completion.reading := by
  have parsed := hiParse_stream "response.completed" completedBody completedHi
    (by decide +kernel) (by decide +kernel)
  have fits : Counts.Fits ⟨1, 2, 3⟩ := ⟨by decide, by decide, by decide⟩
  obtain ⟨records, ran, alike⟩ := bridge_reads_alike_iff _ completedHi _ _ (bytesOf completedBody) parsed (streams_hi rfl)
    (hiParse_body _ _ _)
  have readAlike : ReadAlike completedHi := by
    refine ⟨nofun, ?_, ?_, nofun⟩
    · intro counts used
      cases used
      exact ⟨rfl, fits⟩
    · intro _
      refine ⟨?_, .inl rfl⟩
      intro spoken member reasoning
      cases List.mem_singleton.mp member
      cases reasoning
  obtain ⟨completion, converted, same⟩ := alike.mpr readAlike
  exact ⟨records, completion, ran, converted, same⟩

/-- An answer that is cut short ends for the client of the body only. -/
theorem incomplete_reads_apart :
    ¬ ∀ (fromSlice : List UInt8 → Option Json) (result : Result) (raws : List (List UInt8)) (events : List Json)
        (body : List UInt8), raws.mapM fromSlice = some events → Streams result events →
          fromSlice body = some result.toJson →
            ∃ records completion, BridgeStreamState.default.processStream fromSlice raws = .ok records ∧
              nonStreamResponsesBodyToChatCompletion fromSlice body = .ok completion ∧
                readChunks (chunksOf records) = completion.reading := by
  intro always
  have parsed := hiParse_stream "response.incomplete" incompleteBody incompleteHi
    (by decide +kernel) (by decide +kernel)
  have streams : Streams incompleteHi [deltaEvent, lastJson "response.incomplete" incompleteHi] := streams_hi rfl
  have read := hiParse_body "response.incomplete" incompleteBody incompleteHi
  obtain ⟨records, completion, ran, converted, same⟩ := always _ incompleteHi _ _ _ parsed streams read
  have fits : ∀ counts ∈ incompleteHi.usage, counts.Fits := nofun
  obtain ⟨other, found, whole⟩ := nonStream_reading read fits
  cases converted.symm.trans found
  rw [streams.reading parsed ran, whole] at same
  obtain ⟨-, -, finish, -⟩ := Reading.mk.inj same
  cases finish

end AiGateway.ResponsesBridge
