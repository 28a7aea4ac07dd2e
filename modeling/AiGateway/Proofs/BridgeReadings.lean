import AiGateway.ChatAssembly
import AiGateway.Proofs.BridgeStream

/-! What a client of the bridge reads out of the chunks, in terms of the events that they
were made of. -/

namespace AiGateway.ResponsesBridge

open OpenAi BridgeStreamState

/-- The chunks among the records. -/
def chunk? : SseRecord → Option CreateChatCompletionStreamResponse
  | .chunk payload => some payload
  | .error _ _ _ | .done => none

def chunksOf (records : List SseRecord) : List CreateChatCompletionStreamResponse := records.filterMap chunk?

/-- The usage that a completed response reports. -/
def reportedUsage (event : Json) : Option CompletionUsage :=
  ((event.get "response").bind fun response => response.get "usage").bind completionUsageFromResponsesValue

section Picks
variable {α : Type} (pick : List ChatChoiceStream → Option CompletionUsage → List α)

/-- What is picked out of a record; only chunks have anything. -/
def picked : SseRecord → List α
  | .chunk payload => pick payload.choices payload.usage
  | .error _ _ _ | .done => []

/-- What is picked out of the records of an event, whatever came before it. -/
def told (event : Json) : List α :=
  if eventType event = "response.completed" then pick [buildFinishChoice (some .stop) .default none] (reportedUsage event)
  else if eventType event = "response.failed" then pick [buildFinishChoice (some .stop) .default none] none
  else if isText event ∧ eventDelta event ≠ "" then pick [buildTextChoice 0 (eventDelta event)] none
  else if isRefusal event ∧ eventDelta event ≠ "" then pick [refusalChoice (eventDelta event)] none
  else []

variable {pick}

theorem emit_picked (unroled : pick [buildRoleChoice 0 .assistant] none = []) (state : BridgeStreamState)
    (choice : ChatChoiceStream) : (state.emit choice).1.flatMap (picked pick) = pick [choice] none := by
  cases sent : state.roleSent <;>
    simp [emit, pushRoleIfNeeded, sent, picked, respond, buildStreamResponse, unroled]

theorem finish_picked (unroled : pick [buildRoleChoice 0 .assistant] none = []) (state : BridgeStreamState)
    (usage : Option CompletionUsage) :
    (state.finish usage).1.flatMap (picked pick) = pick [buildFinishChoice (some .stop) .default none] usage := by
  cases sent : state.roleSent <;>
    simp [finish, finishChunk, pushRoleIfNeeded, sent, picked, respond, buildStreamResponse, unroled]

theorem processEvent_picked (unroled : pick [buildRoleChoice 0 .assistant] none = []) (state : BridgeStreamState)
    (event : Json) : (state.processEvent event).1.flatMap (picked pick) = told pick event := by
  have delta : ∀ choice : ChatChoiceStream,
      (if (eventDelta event).isEmpty then ([], state) else state.emit choice).1.flatMap (picked pick) =
        if eventDelta event ≠ "" then pick [choice] none else [] := by
    intro choice
    by_cases empty : eventDelta event = ""
    · simp [empty]
    · have present : (eventDelta event).isEmpty = false := by simpa using empty
      simp [present, empty, emit_picked unroled]
  rw [processEvent]
  split
  iterate 2
    next kind => simp [told, isText, isRefusal, eventType, kind]
  iterate 3
    next kind =>
      have same : told pick event = if eventDelta event ≠ "" then pick [buildTextChoice 0 (eventDelta event)] none else [] := by
        simp [told, isText, isRefusal, eventType, kind]
      rw [same]
      exact delta _
  next kind =>
    have same : told pick event = if eventDelta event ≠ "" then pick [refusalChoice (eventDelta event)] none else [] := by
      simp [told, isText, isRefusal, eventType, kind]
    rw [same]
    exact delta _
  next kind =>
    have completed : eventType event = "response.completed" := kind
    rw [told, if_pos completed]
    exact finish_picked unroled _ _
  next kind =>
    have failed : eventType event = "error" := kind
    simp [told, failed, isText, isRefusal, picked]
  next kind =>
    have failed : eventType event = "response.failed" := kind
    rw [told, if_neg (by simp [failed]), if_pos failed]
    exact finish_picked unroled _ _
  next => simp_all [told, isText, isRefusal, eventType]

variable {fromSlice : List UInt8 → Option Json} (pick)

theorem processStream_picked (unroled : pick [buildRoleChoice 0 .assistant] none = []) {raws : List (List UInt8)}
    {events : List Json} (parsed : raws.mapM fromSlice = some events) (state : BridgeStreamState)
    {records : List SseRecord} (ran : state.processStream fromSlice raws = .ok records) :
    records.flatMap (picked pick) = events.flatMap (told pick) := by
  induction raws generalizing events state records with
  | nil =>
    cases parsed
    cases ran
    rfl
  | cons raw rest ih =>
    rw [List.mapM_cons] at parsed
    obtain ⟨event, read, others⟩ := Option.bind_eq_some_iff.mp parsed
    obtain ⟨later, readLater, same⟩ := Option.bind_eq_some_iff.mp others
    cases same
    rw [processStream_cons read] at ran
    cases ranLater : (state.processEvent event).2.processStream fromSlice rest with
    | error error =>
      rw [ranLater] at ran
      cases ran
    | ok found =>
      rw [ranLater] at ran
      cases ran
      rw [List.flatMap_append, List.flatMap_cons, processEvent_picked unroled, ih readLater _ ranLater]

end Picks

section Told
variable (event : Json)

theorem told_content : told (fun choices _ => choices.filterMap (contentOn 0)) event = (nonEmpty (upstreamContent event)).toList := by
  rw [told, upstreamContent, nonEmpty]
  split
  next completed => simp [contentOn, buildFinishChoice, isText, completed]
  next =>
    split
    next failed => simp [contentOn, buildFinishChoice, isText, failed]
    next =>
      cases text : isText event <;> by_cases empty : eventDelta event = "" <;>
        simp [empty, contentOn, buildTextChoice, refusalChoice]

theorem told_refusal : told (fun choices _ => choices.filterMap (refusalOn 0)) event = (nonEmpty (upstreamRefusal event)).toList := by
  rw [told, upstreamRefusal, nonEmpty]
  split
  next completed => simp [refusalOn, buildFinishChoice, isRefusal, completed]
  next =>
    split
    next failed => simp [refusalOn, buildFinishChoice, isRefusal, failed]
    next =>
      cases text : isText event with
      | true =>
        have other : isRefusal event = false := isRefusal_of_isText text
        by_cases empty : eventDelta event = "" <;> simp [empty, other, refusalOn, buildTextChoice]
      | false =>
        cases refusal : isRefusal event <;> by_cases empty : eventDelta event = "" <;>
          simp [empty, refusalOn, refusalChoice]

/-- The finish reasons that the first choice gives. -/
abbrev finishPick (choices : List ChatChoiceStream) (_ : Option CompletionUsage) : List FinishReason :=
  choices.filterMap fun choice => if choice.index = 0 then choice.finishReason else none

theorem told_finish : told finishPick event = if finishes event then [.stop] else [] := by
  rw [told, finishes]
  by_cases completed : eventType event = "response.completed"
  · simp [completed, buildFinishChoice]
  · by_cases failed : eventType event = "response.failed"
    · simp [failed, buildFinishChoice]
    · simp [completed, failed, buildTextChoice, refusalChoice]

theorem told_usage :
    told (fun _ usage => usage.toList) event =
      if eventType event = "response.completed" then (reportedUsage event).toList else [] := by
  rw [told]
  by_cases completed : eventType event = "response.completed"
  · simp [completed]
  · simp [completed]

end Told

section Assembly
variable {α : Type} (records : List SseRecord)

theorem chunks_picked (pick : List ChatChoiceStream → Option CompletionUsage → List α) :
    (chunksOf records).flatMap (fun received => pick received.choices received.usage) = records.flatMap (picked pick) := by
  induction records with
  | nil => rfl
  | cons record rest ih =>
    rw [List.flatMap_cons, ← ih]
    cases record with
    | chunk payload => simp [chunksOf, chunk?, picked]
    | error message code param => rfl
    | done => rfl

theorem choices_picked (pick : ChatChoiceStream → Option α) :
    (choicesOf (chunksOf records)).filterMap pick = records.flatMap (picked fun choices _ => choices.filterMap pick) := by
  rw [← chunks_picked, choicesOf, List.filterMap_flatMap]

theorem usage_picked :
    (chunksOf records).filterMap (fun received => received.usage) = records.flatMap (picked fun _ usage => usage.toList) := by
  rw [← chunks_picked, List.filterMap_eq_flatMap_toList]

theorem nonEmpty_empty : nonEmpty "" = none := rfl

theorem nonEmpty_present {text : String} (present : text ≠ "") : nonEmpty text = some text := by simp [nonEmpty, present]

theorem nonEmpty_pieces (texts : List String) :
    String.join (texts.flatMap fun text => (nonEmpty text).toList) = String.join texts ∧
      ((texts.flatMap fun text => (nonEmpty text).toList) = [] ↔ String.join texts = "") := by
  induction texts with
  | nil => simp
  | cons text rest ih =>
    obtain ⟨same, silent⟩ := ih
    by_cases empty : text = ""
    · subst empty
      rw [List.flatMap_cons, nonEmpty_empty, Option.toList_none, List.nil_append, String.join_cons, String.empty_append]
      exact ⟨same, silent⟩
    · simp [nonEmpty_present empty, empty, same]

/-- The pieces that are not empty make up the whole. -/
theorem joined_nonEmpty (texts : List String) :
    joined (texts.flatMap fun text => (nonEmpty text).toList) = nonEmpty (String.join texts) := by
  obtain ⟨same, silent⟩ := nonEmpty_pieces texts
  rw [joined]
  rw [same]
  by_cases empty : String.join texts = ""
  · simp [empty, silent.mpr empty, nonEmpty_empty]
  · simp [nonEmpty_present empty, silent, empty]

end Assembly

/-- What a client reads of the stream, in terms of the upstream's events. -/
theorem readChunks_events {fromSlice : List UInt8 → Option Json} {raws : List (List UInt8)} {events : List Json}
    (parsed : raws.mapM fromSlice = some events) {records : List SseRecord}
    (ran : BridgeStreamState.default.processStream fromSlice raws = .ok records) :
    readChunks (chunksOf records) =
      ⟨nonEmpty (String.join (events.map upstreamContent)), nonEmpty (String.join (events.map upstreamRefusal)),
        (events.flatMap fun event => if finishes event then [FinishReason.stop] else []).getLast?,
        (events.flatMap fun event =>
          if eventType event = "response.completed" then (reportedUsage event).toList else []).getLast?⟩ := by
  have content := processStream_picked (fun choices _ => choices.filterMap (contentOn 0)) rfl parsed _ ran
  have refusal := processStream_picked (fun choices _ => choices.filterMap (refusalOn 0)) rfl parsed _ ran
  have finish := processStream_picked finishPick rfl parsed _ ran
  have usage := processStream_picked (fun _ usage => usage.toList) rfl parsed _ ran
  rw [funext told_content] at content
  rw [funext told_refusal] at refusal
  rw [funext told_finish] at finish
  rw [funext told_usage] at usage
  rw [readChunks, finishOf, usageOf]
  rw [choices_picked, content, choices_picked, refusal, choices_picked, finish, usage_picked, usage,
    ← joined_nonEmpty, ← joined_nonEmpty, List.flatMap_map, List.flatMap_map]

end AiGateway.ResponsesBridge
