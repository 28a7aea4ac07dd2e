import AiGateway.AnthropicChat
import AiGateway.ChatAssembly
import Mathlib.Data.List.Basic

/-! The usage a stream of Anthropic's events adds up to, beside that of the whole message. -/

namespace AiGateway.Anthropic

open OpenAi AnthropicStreamOpenAiUsageState

theorem saturatingAdd_toNat (first second : UInt32) :
    (saturatingAdd first second).toNat = min (first.toNat + second.toNat) (UInt32.size - 1) := by
  have size : UInt32.size = 4294967296 := rfl
  unfold saturatingAdd
  split
  · rename_i fits
    rw [UInt32.toNat_add]
    omega
  · have top : (0xFFFFFFFF : UInt32).toNat = 4294967295 := rfl
    omega

/-- The value reported last. -/
def latest {α : Type} (first : α) (reports : List (Option α)) : α :=
  reports.foldl (fun held report => report.getD held) first

namespace StreamUsage
variable (usage : StreamUsage)

/-- An input count of zero stands for a missing one. -/
def input? : Option UInt32 := if usage.inputTokens > 0 then some usage.inputTokens else none

def ephemeral5m? : Option UInt32 := usage.cacheCreation.map fun c => c.ephemeral5mInputTokens

def ephemeral1h? : Option UInt32 := usage.cacheCreation.map fun c => c.ephemeral1hInputTokens

end StreamUsage

namespace Usage
variable (usage : Usage)

def cacheRead : UInt32 := usage.cacheReadInputTokens.getD 0

def cacheWrite : UInt32 := usage.cacheCreationInputTokens.getD 0

def ephemeral5m : UInt32 := (usage.cacheCreation.map fun c => c.ephemeral5mInputTokens).getD 0

def ephemeral1h : UInt32 := (usage.cacheCreation.map fun c => c.ephemeral1hInputTokens).getD 0

/-- The counters, as the stream's state holds them. -/
def held (id model : String) : AnthropicStreamOpenAiUsageState :=
  ⟨id, model, usage.inputTokens, usage.cacheRead, usage.cacheWrite, usage.ephemeral5m, usage.ephemeral1h,
    usage.outputTokens⟩

end Usage

/-- A usage record is reported by the start of a stream and what follows: each of its
counters is the one reported last. -/
structure Reported (usage start : Usage) (reports : List StreamUsage) : Prop where
  input : latest start.inputTokens (reports.map StreamUsage.input?) = usage.inputTokens
  output : latest start.outputTokens (reports.map fun report => some report.outputTokens) = usage.outputTokens
  cacheRead : latest start.cacheRead (reports.map StreamUsage.cacheReadInputTokens) = usage.cacheRead
  cacheWrite : latest start.cacheWrite (reports.map StreamUsage.cacheCreationInputTokens) = usage.cacheWrite
  ephemeral5m : latest start.ephemeral5m (reports.map StreamUsage.ephemeral5m?) = usage.ephemeral5m
  ephemeral1h : latest start.ephemeral1h (reports.map StreamUsage.ephemeral1h?) = usage.ephemeral1h

def StreamEvent.usage? : StreamEvent → Option StreamUsage
  | .messageDelta _ usage => usage
  | _ => none

/-- The events between the start of a message and its stop. -/
def StreamEvent.isBetween : StreamEvent → Bool
  | .messageStart _ | .messageStop => false
  | _ => true

section Accumulation

theorem foldl_onMessageDelta (reports : List StreamUsage) (state : AnthropicStreamOpenAiUsageState) :
    reports.foldl (fun state report => state.onMessageDelta (some report)) state =
      { state with
        inputTokens := latest state.inputTokens (reports.map StreamUsage.input?)
        outputTokens := latest state.outputTokens (reports.map fun report => some report.outputTokens)
        cacheReadInputTokens := latest state.cacheReadInputTokens (reports.map StreamUsage.cacheReadInputTokens)
        cacheCreationInputTokens :=
          latest state.cacheCreationInputTokens (reports.map StreamUsage.cacheCreationInputTokens)
        cacheEphemeral5m := latest state.cacheEphemeral5m (reports.map StreamUsage.ephemeral5m?)
        cacheEphemeral1h := latest state.cacheEphemeral1h (reports.map StreamUsage.ephemeral1h?) } := by
  induction reports generalizing state with
  | nil => rfl
  | cons report rest ih =>
    have input : (onMessageDelta state (some report)).inputTokens = report.input?.getD state.inputTokens := by
      simp only [onMessageDelta, StreamUsage.input?]
      split <;> rfl
    rw [List.foldl_cons, ih, input]
    rfl

theorem Reported.foldl_eq {usage : Usage} {start : MessageStartContent} {reports : List StreamUsage}
    (reported : Reported usage start.usage reports) (state : AnthropicStreamOpenAiUsageState) :
    reports.foldl (fun state report => state.onMessageDelta (some report)) (state.onMessageStart start) =
      usage.held start.id start.model := by
  rw [foldl_onMessageDelta, Usage.held, ← reported.input, ← reported.output, ← reported.cacheRead,
    ← reported.cacheWrite, ← reported.ephemeral5m, ← reported.ephemeral1h]
  rfl

theorem tryConvertChunk_between (json : JsonText) {event : StreamEvent} (between : event.isBetween = true)
    (state : AnthropicStreamOpenAiUsageState) :
    (tryConvertChunk json (some state) event).1 =
        some (event.usage?.toList.foldl (fun state report => state.onMessageDelta (some report)) state) ∧
      (tryConvertChunk json (some state) event).2.toList.filterMap (fun sent => sent.usage) = [] := by
  cases event with
  | messageStart message => cases between
  | messageStop => cases between
  | contentBlockStart index block => cases block <;> exact ⟨rfl, rfl⟩
  | contentBlockDelta index delta => cases delta <;> exact ⟨rfl, rfl⟩
  | messageDelta delta usage => cases usage <;> exact ⟨rfl, rfl⟩
  | _ => exact ⟨rfl, rfl⟩

/-- Between start and stop no chunk carries usage, and the cell takes in what is reported. -/
theorem tryConvertChunks_between (json : JsonText) {events rest : List StreamEvent}
    (between : ∀ event ∈ events, event.isBetween = true) (state : AnthropicStreamOpenAiUsageState) :
    (tryConvertChunks json (some state) (events ++ rest)).filterMap (fun sent => sent.usage) =
      (tryConvertChunks json
        (some ((events.filterMap StreamEvent.usage?).foldl (fun state report => state.onMessageDelta (some report))
          state)) rest).filterMap fun sent => sent.usage := by
  induction events generalizing state with
  | nil => rfl
  | cons event events ih =>
    obtain ⟨next, silent⟩ := tryConvertChunk_between json (between event List.mem_cons_self) state
    rw [List.cons_append, tryConvertChunks, List.filterMap_append, silent, List.nil_append, next,
      ih fun other member => between other (List.mem_cons_of_mem _ member)]
    cases usage : event.usage? with
    | none => rw [List.filterMap_cons_none usage]; rfl
    | some report => rw [List.filterMap_cons_some usage]; rfl

end Accumulation

theorem usageOf_tryConvertChunks (json : JsonText) {usage : Usage} {start : MessageStartContent} {events : List StreamEvent}
    (between : ∀ event ∈ events, event.isBetween = true)
    (reported : Reported usage start.usage (events.filterMap StreamEvent.usage?))
    (state : AnthropicStreamOpenAiUsageState) :
    usageOf (tryConvertChunks json (some state) (.messageStart start :: events ++ [.messageStop])) =
      some (usage.held start.id start.model).buildOpenaiCompletionUsage := by
  have opened : (tryConvertChunks json (some state) (.messageStart start :: events ++ [.messageStop])).filterMap
        (fun sent => sent.usage) =
      (tryConvertChunks json (some (state.onMessageStart start)) (events ++ [.messageStop])).filterMap
        fun sent => sent.usage := rfl
  rw [usageOf, opened, tryConvertChunks_between json between, reported.foldl_eq]
  rfl

section Counters
variable (usage : Usage) (id model : String)

/-- The usage a stream is to report: that of the whole message, with the sums it promises. -/
structure UsageAgrees (streamed whole : CompletionUsage) : Prop where
  same : streamed = whole
  total : streamed.totalTokens.toNat = streamed.promptTokens.toNat + streamed.completionTokens.toNat
  split : usage.ephemeral5m.toNat + usage.ephemeral1h.toNat = usage.cacheWrite.toNat →
    streamed.cacheWriteSplit = streamed.cacheWrite

/-- The total leaves out no written token and does not saturate apart from the prompt. -/
def TotalAddsUp : Prop :=
  let prompt := usage.inputTokens.toNat + usage.cacheRead.toNat
  usage.cacheWrite = 0 ∧ prompt + usage.outputTokens.toNat < UInt32.size ∨
    prompt + usage.outputTokens.toNat = UInt32.size - 1 ∨
    usage.outputTokens = 0 ∧ UInt32.size - 1 ≤ prompt

theorem total_iff :
    (usage.held id model).buildOpenaiCompletionUsage.totalTokens.toNat =
        (usage.held id model).buildOpenaiCompletionUsage.promptTokens.toNat +
          (usage.held id model).buildOpenaiCompletionUsage.completionTokens.toNat ↔ TotalAddsUp usage := by
  have size : UInt32.size = 4294967296 := rfl
  have none (count : UInt32) : count = 0 ↔ count.toNat = 0 := UInt32.toNat_inj.symm
  have output := usage.outputTokens.toNat_lt
  simp only [buildOpenaiCompletionUsage, Usage.held, TotalAddsUp, saturatingAdd_toNat, none]
  omega

theorem split_iff (breakdown : usage.ephemeral5m.toNat + usage.ephemeral1h.toNat = usage.cacheWrite.toNat) :
    (usage.held id model).buildOpenaiCompletionUsage.cacheWriteSplit =
        (usage.held id model).buildOpenaiCompletionUsage.cacheWrite ↔
      usage.cacheWrite = 0 ∨ 0 < usage.ephemeral5m := by
  have none (count : UInt32) : count = 0 ↔ count.toNat = 0 := UInt32.toNat_inj.symm
  have positive (count : UInt32) : 0 < count ↔ 0 < count.toNat := UInt32.lt_iff_toNat_lt
  by_cases written : 0 < usage.cacheWrite
  · have kept : (usage.held id model).buildOpenaiCompletionUsage.cacheWriteSplit =
        (if 0 < usage.ephemeral5m then usage.ephemeral5m else usage.cacheWrite).toNat + usage.ephemeral1h.toNat := by
      simp [buildOpenaiCompletionUsage, Usage.held, CompletionUsage.cacheWriteSplit, written]
    have counted : (usage.held id model).buildOpenaiCompletionUsage.cacheWrite = usage.cacheWrite.toNat := by
      simp [buildOpenaiCompletionUsage, Usage.held, CompletionUsage.cacheWrite, written]
    rw [kept, counted]
    rw [positive] at written
    -- without a five-minute share the whole write is counted there, on top of the hour's
    split <;> rename_i short <;> rw [positive] at short ⊢ <;> rw [none] <;> omega
  · have unwritten : usage.cacheWrite = 0 := by
      rw [none]
      rw [positive] at written
      omega
    have kept : (usage.held id model).buildOpenaiCompletionUsage.cacheWriteSplit = 0 := by
      simp only [buildOpenaiCompletionUsage, Usage.held, CompletionUsage.cacheWriteSplit, unwritten]
      split <;> rfl
    have counted : (usage.held id model).buildOpenaiCompletionUsage.cacheWrite = 0 := by
      simp only [buildOpenaiCompletionUsage, Usage.held, CompletionUsage.cacheWrite, unwritten]
      split <;> rfl
    rw [kept, counted, unwritten]
    simp

theorem built_ne_whole (input output : UInt32) (cached : Option UInt32) (state : AnthropicStreamOpenAiUsageState) :
    state.buildOpenaiCompletionUsage ≠ buildUsage input output cached := by
  intro same
  cases congrArg CompletionUsage.completionTokensDetails same

theorem streamed_usage_disagrees (json : JsonText) (profile : NonStreamFormatProfile)
    (valid : validateAnthropicResponseProfile profile = .ok ()) (message : CreateMessageResponse)
    (start : MessageStartContent) (events : List StreamEvent) (between : ∀ event ∈ events, event.isBetween = true)
    (reported : Reported message.usage start.usage (events.filterMap StreamEvent.usage?))
    (state : AnthropicStreamOpenAiUsageState) :
    ∃ response whole streamed, convertAnthropicResponse json profile message = .ok response ∧
      response.usage = some whole ∧
      usageOf (tryConvertChunks json (some state) (.messageStart start :: events ++ [.messageStop])) = some streamed ∧
      ¬ UsageAgrees message.usage streamed whole ∧ streamed ≠ whole ∧
      (streamed.totalTokens.toNat = streamed.promptTokens.toNat + streamed.completionTokens.toNat ↔
        TotalAddsUp message.usage) ∧
      (message.usage.ephemeral5m.toNat + message.usage.ephemeral1h.toNat = message.usage.cacheWrite.toNat →
        (streamed.cacheWriteSplit = streamed.cacheWrite ↔
          message.usage.cacheWrite = 0 ∨ 0 < message.usage.ephemeral5m)) := by
  refine ⟨_, _, _, by rw [convertAnthropicResponse, valid]; rfl, rfl,
    usageOf_tryConvertChunks json between reported state, ?_, built_ne_whole _ _ _ _, total_iff _ _ _, split_iff _ _ _⟩
  intro agrees
  exact built_ne_whole _ _ _ _ agrees.same

/-- A prompt of which five tokens are written to the cache for an hour. -/
def cachedUsage : Usage := ⟨10, 4, none, some 5, some ⟨0, 5⟩⟩

def cachedMessage : CreateMessageResponse :=
  ⟨[.text "Hello"], "msg_1", "claude-sonnet-4-0", .assistant, some .endTurn, none, cachedUsage⟩

def cachedStart : MessageStartContent :=
  ⟨"msg_1", .assistant, [], "claude-sonnet-4-0", none, none, { cachedUsage with outputTokens := 1 }⟩

def cachedEvents : List StreamEvent :=
  [.contentBlockStart 0 (.text ""), .contentBlockDelta 0 (.textDelta "Hello"), .contentBlockStop 0,
    .messageDelta ⟨some .endTurn, none⟩ (some ⟨0, 4, none, none, none⟩)]

theorem cached_reported : Reported cachedUsage cachedStart.usage (cachedEvents.filterMap StreamEvent.usage?) :=
  ⟨rfl, rfl, rfl, rfl, rfl, rfl⟩

theorem cached_usage_disagrees :
    ∃ response whole streamed, convertAnthropicResponse .sample anthropicProfile cachedMessage = .ok response ∧
      response.usage = some whole ∧
      usageOf (tryConvertChunks .sample (some default) (.messageStart cachedStart :: cachedEvents ++ [.messageStop])) =
        some streamed ∧
      ¬ UsageAgrees cachedUsage streamed whole := by
  obtain ⟨response, whole, streamed, converted, reports, sent, disagrees, -⟩ :=
    streamed_usage_disagrees .sample anthropicProfile rfl cachedMessage cachedStart cachedEvents (by decide)
      cached_reported default
  exact ⟨response, whole, streamed, converted, reports, sent, disagrees⟩

/-- The stream counts nineteen tokens where the prompt and the answer have fourteen, and ten
written where five were. -/
theorem cached_usage_counts :
    (usageOf (tryConvertChunks .sample (some default) (.messageStart cachedStart :: cachedEvents ++ [.messageStop]))).map
        (fun usage => (usage.promptTokens, usage.completionTokens, usage.totalTokens, usage.cacheWrite,
          usage.cacheWriteSplit)) = some (10, 4, 19, 5, 10) ∧
      ((convertAnthropicResponse .sample anthropicProfile cachedMessage).toOption.bind fun response =>
        response.usage) = some (buildUsage 10 4 none) ∧
      usageOf (tryConvertChunks .sample (some default) (.messageStart cachedStart :: cachedEvents ++ [.messageStop])) ≠
        some (buildUsage 10 4 none) := by
  decide

end Counters

end AiGateway.Anthropic
