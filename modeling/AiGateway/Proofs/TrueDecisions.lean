import AiGateway.LargeContextDecisions
import AiGateway.Proofs.ProviderNames
import AiGateway.Proofs.TruncatedTexts

/-! The decision that the log gets for a large request is true of what is sent: the model it
names is the one the body names, and the texts are cut exactly where it says so. -/

namespace AiGateway.LargeContextDecisions

open LargeContext
open DefaultModel (trimmed)
open ModelSupport (TokenLimitExceptionHandler extractFallbackModelCandidates parseLargeContextHeaders)
open PromptCompression (resolvePrimaryModel)
open SemanticCache (HeaderMap)

section Models

/-- A candidate is read again as it was written. -/
theorem trimmedString_candidate {source name : String} (member : name ∈ extractFallbackModelCandidates source) :
    trimmedString (.string name) = some name := by
  obtain ⟨part, inside, rfl⟩ := List.mem_map.mp member
  obtain ⟨cut, nonempty⟩ := List.mem_filter.mp inside
  obtain ⟨piece, _, rfl⟩ := List.mem_map.mp cut
  have named : trim piece ≠ [] := by simpa using nonempty
  have again : trimmed (String.ofList (trim piece)) = String.ofList (trim piece) := by
    rw [trimmed, String.toList_ofList, trim_trim]
  simp [trimmedString, Json.asStr, again, named]

theorem parsed_model {fromSlice : List UInt8 → Except String Json} {body : List UInt8} {payload : ChatCompletionsPayload}
    (parsed : parseChatCompletionsPayload fromSlice body = .ok (some payload)) :
    payload.model = (payload.raw.get "model").bind trimmedString := by
  rw [parseChatCompletionsPayload] at parsed
  cases read : fromSlice body with
  | error reason => simp [read, bind, Except.bind] at parsed
  | ok raw =>
    simp only [read, bind, Except.bind] at parsed
    split at parsed
    · simp [pure, Except.pure] at parsed
    · simp only [pure, Except.pure, Except.ok.injEq, Option.some.injEq] at parsed
      subst parsed
      rfl

end Models

section Actions
variable (budgetChars : UInt32 → String → Nat) (payload : ChatCompletionsPayload) (modelSource : Option String)
  (primaryModel : String) (estimated budget : Option UInt32)

/-- The candidate at a place of the list of models. -/
def candidateAt (place : Nat) : Option String :=
  modelSource.bind fun source => (extractFallbackModelCandidates source)[place]?

/-- There is a second model, and the request is not known to fit the first. -/
structure FallsBack : Prop where
  second : (candidateAt modelSource 1).isSome
  above : belowBudget estimated budget = false

/-- The estimate is known and reaches the budget, and there are more texts than fit. -/
structure Cuttable (tokens : UInt32) : Prop where
  known : budget = some tokens
  estimate : estimated.isSome
  above : belowBudget estimated budget = false
  oversized : Oversized payload (budgetChars tokens primaryModel)

/-- The action that tells of a strategy. -/
def toldBy : CutStrategy → LargeContextAction
  | .truncate => .truncated
  | .middleOut => .middleOutApplied

/-- The handler that asks for a strategy. -/
def askedBy : CutStrategy → TokenLimitExceptionHandler
  | .truncate => .truncate
  | .middleOut => .middleOut

theorem askedBy_ne_fallback (strategy : CutStrategy) : askedBy strategy ≠ .fallback := by cases strategy <;> nofun

theorem askedBy_injective {first second : CutStrategy} (same : askedBy first = askedBy second) : first = second := by
  cases first <;> cases second <;> first | rfl | cases same

theorem toldBy_injective {first second : CutStrategy} (same : toldBy first = toldBy second) : first = second := by
  cases first <;> cases second <;> first | rfl | cases same

def LargeContextAction.Cuts (action : LargeContextAction) : Prop := ∃ strategy, action = toldBy strategy

theorem not_cuts {action : LargeContextAction} (truncated : action ≠ .truncated) (middleOut : action ≠ .middleOutApplied) :
    ¬action.Cuts := by
  rintro ⟨strategy, rfl⟩
  cases strategy with
  | truncate => exact truncated rfl
  | middleOut => exact middleOut rfl

theorem fallback_uncut : ¬LargeContextAction.fallbackApplied.Cuts := by
  apply not_cuts
  · intro same; cases same
  · intro same; cases same

/-- What a handler may decide, and the value that it makes. -/
inductive Handled (handler : TokenLimitExceptionHandler) : LargeContextAction → Option Json → Prop where
  | skipped {action : LargeContextAction} (uncut : ¬action.Cuts) (first : action ≠ .fallbackApplied)
      (below : action = .skippedBelowLimit → belowBudget estimated budget = true)
      (alone : handler = .fallback → ¬FallsBack modelSource estimated budget)
      (fitting : handler ≠ .fallback → ∀ tokens, ¬Cuttable budgetChars payload primaryModel estimated budget tokens) :
      Handled handler action none
  | fellBack {model : String} (asked : handler = .fallback) (second : candidateAt modelSource 1 = some model)
      (above : belowBudget estimated budget = false) :
      Handled handler .fallbackApplied (some (valueWithModel payload.raw model))
  | cut {strategy : CutStrategy} {tokens : UInt32} {result : Json} (asked : handler = askedBy strategy)
      (cuttable : Cuttable budgetChars payload primaryModel estimated budget tokens)
      (within : CutPayload strategy payload primaryModel (budgetChars tokens primaryModel) result) :
      Handled handler (toldBy strategy) (some result)

end Actions

section Branches
variable {budgetChars : UInt32 → String → Nat} {fromSlice : List UInt8 → Except String Json} {body : List UInt8}
  {payload : ChatCompletionsPayload} {modelSource : Option String} {primaryModel : String}
  {limit estimated budget : Option UInt32}

theorem reachesBudget_eq (estimated budget : UInt32) :
    reachesBudget (some estimated) (some budget) = !belowBudget (some estimated) (some budget) := by
  simp only [reachesBudget, belowBudget, compareToBudget, Option.any_some]
  rw [← decide_not]
  exact decide_eq_decide.mpr UInt32.not_lt.symm

theorem applyFallback_eq (source : String) :
    applyFallback payload source estimated budget =
      if belowBudget estimated budget then none
      else (extractFallbackModelCandidates source)[1]?.map (valueWithModel payload.raw) := by
  rw [applyFallback]
  cases estimated with
  | none => cases (extractFallbackModelCandidates source)[1]? <;> simp [belowBudget, compareToBudget]
  | some estimate =>
    cases budget with
    | none => cases (extractFallbackModelCandidates source)[1]? <;> simp [belowBudget, compareToBudget]
    | some tokens =>
      rw [reachesBudget_eq]
      cases belowBudget (some estimate) (some tokens) <;>
        cases (extractFallbackModelCandidates source)[1]? <;> simp

theorem fallBack_handled (primary : candidateAt modelSource 0 = some primaryModel) :
    Handled budgetChars payload modelSource primaryModel estimated budget .fallback
      (fallBack payload modelSource estimated budget).1 (fallBack payload modelSource estimated budget).2 := by
  obtain ⟨source, rfl, first⟩ := Option.bind_eq_some_iff.mp primary
  rw [fallBack, Option.bind_some, applyFallback_eq]
  cases below : belowBudget estimated budget with
  | true =>
    simp only [if_true]
    split
    · refine .skipped (not_cuts nofun nofun) nofun nofun ?_ (fun other => absurd rfl other)
      intro _ falls
      cases below.symm.trans falls.above
    · refine .skipped (not_cuts nofun nofun) nofun (fun _ => below) ?_ (fun other => absurd rfl other)
      intro _ falls
      cases below.symm.trans falls.above
  | false =>
    cases second : (extractFallbackModelCandidates source)[1]? with
    | some model => exact .fellBack rfl second below
    | none =>
      have few : (extractFallbackModelCandidates source).length < 2 := by
        rw [List.getElem?_eq_none_iff] at second
        omega
      simp only [Bool.false_eq_true, if_false, Option.map_none, Option.any_some, few, decide_true, if_true]
      refine .skipped (not_cuts nofun nofun) nofun nofun ?_ (fun other => absurd rfl other)
      intro _ falls
      have there := falls.second
      simp [candidateAt, second] at there

/-- Where the texts are not cut for one of its own reasons, the branch says which. -/
theorem handled_skip (strategy : CutStrategy) {action : LargeContextAction} (uncut : ¬action.Cuts)
    (first : action ≠ .fallbackApplied) (below : action = .skippedBelowLimit → belowBudget estimated budget = true)
    (fitting : ∀ tokens, ¬Cuttable budgetChars payload primaryModel estimated budget tokens) :
    Handled budgetChars payload modelSource primaryModel estimated budget (askedBy strategy) action none :=
  .skipped uncut first below (fun same => absurd same (askedBy_ne_fallback strategy)) (fun _ => fitting)

/-- The budget is there where it is expected: it is made from the limit, which was looked at. -/
theorem cutTexts_handled (strategy : CutStrategy)
    (parsed : parseChatCompletionsPayload fromSlice body = .ok (some payload)) {ofLimit : UInt32 → UInt32}
    (made : budget = limit.map ofLimit) :
    ∃ action transformed,
      cutTexts (strategy.apply budgetChars) (toldBy strategy) payload primaryModel limit estimated budget =
        some (action, transformed) ∧
      Handled budgetChars payload modelSource primaryModel estimated budget (askedBy strategy) action transformed := by
  rw [cutTexts]
  split
  · next empty =>
    refine ⟨_, _, rfl, handled_skip strategy (not_cuts nofun nofun) nofun nofun ?_⟩
    exact fun tokens cuttable => cuttable.oversized.some (by simpa using empty)
  split
  · next other =>
    refine ⟨_, _, rfl, handled_skip strategy (not_cuts nofun nofun) nofun nofun ?_⟩
    exact fun tokens cuttable => by cases other ▸ cuttable.oversized.textOnly
  cases limit with
  | none =>
    refine ⟨_, _, rfl, handled_skip strategy (not_cuts nofun nofun) nofun nofun ?_⟩
    exact fun tokens cuttable => by cases made ▸ cuttable.known
  | some tokens =>
    subst made
    simp only [Option.isNone_some, Bool.false_eq_true, if_false, Option.map_some]
    split
    · next unknown =>
      refine ⟨_, _, rfl, handled_skip strategy (not_cuts nofun nofun) nofun nofun ?_⟩
      intro other cuttable
      have estimate := cuttable.estimate
      simp [Option.isNone_iff_eq_none.mp unknown] at estimate
    split
    · next below =>
      refine ⟨_, _, rfl, handled_skip strategy (not_cuts nofun nofun) nofun (fun _ => below) ?_⟩
      exact fun other cuttable => by cases below.symm.trans cuttable.above
    · next known above =>
      by_cases oversized : Oversized payload (budgetChars (ofLimit tokens) primaryModel)
      · obtain ⟨result, produced, within⟩ := apply_of_oversized strategy parsed oversized
        rw [produced]
        refine ⟨_, _, rfl, .cut rfl ⟨rfl, ?_, ?_, oversized⟩ within⟩
        · simpa [Option.isSome_iff_ne_none] using known
        · simpa using above
      · rw [strategy.apply_eq, applyWith_of_not_oversized oversized]
        refine ⟨_, _, rfl, handled_skip strategy (not_cuts nofun nofun) nofun nofun ?_⟩
        intro other cuttable
        cases cuttable.known
        exact oversized cuttable.oversized

variable (budgetChars) in
theorem handle_handled (limit estimated : Option UInt32) (ofLimit : UInt32 → UInt32) (handler : TokenLimitExceptionHandler)
    (primary : candidateAt modelSource 0 = some primaryModel)
    (parsed : parseChatCompletionsPayload fromSlice body = .ok (some payload)) :
    ∃ action transformed,
      handle budgetChars handler payload modelSource primaryModel limit estimated (limit.map ofLimit) =
        some (action, transformed) ∧
      Handled budgetChars payload modelSource primaryModel estimated (limit.map ofLimit) handler action transformed := by
  cases handler with
  | fallback => exact ⟨_, _, rfl, fallBack_handled primary⟩
  | truncate => exact cutTexts_handled .truncate parsed rfl
  | middleOut => exact cutTexts_handled .middleOut parsed rfl

end Branches

section Decisions
variable (budgetChars : UInt32 → String → Nat)
  (estimateInputTokens : ChatCompletionsPayload → String → Option InferenceProvider → Option UInt32)

/-- What a decision says, beside the value that is sent for a payload. -/
structure TrueOf (payload : ChatCompletionsPayload) (modelSource : Option String) (decision : LargeContextDecision)
    (sent : Json) : Prop where
  original : decision.originalModel = modelSource
  effective : decision.effectiveModel = candidateAt modelSource (if decision.action = .fallbackApplied then 1 else 0)
  named : ∀ model, decision.effectiveModel = some model → (sent.get "model").bind trimmedString = some model
  unnamed : decision.effectiveModel = none → sent = payload.raw
  figures : ∀ primaryModel, candidateAt modelSource 0 = some primaryModel →
    decision.modelContextLimit = resolveLimit primaryModel ∧
      decision.estimatedInputTokens = estimateInputTokens payload primaryModel none ∧
      decision.inputBudgetTokens = (resolveLimit primaryModel).map fun limit =>
        computeInputBudgetTokens limit payload.requestedCompletionTokens
  below : decision.action = .skippedBelowLimit →
    belowBudget decision.estimatedInputTokens decision.inputBudgetTokens = true
  fellBack : decision.action = .fallbackApplied ↔
    decision.handler = .fallback ∧ FallsBack modelSource decision.estimatedInputTokens decision.inputBudgetTokens
  cut : ∀ strategy, decision.action = toldBy strategy ↔ decision.handler = askedBy strategy ∧ ∃ primaryModel tokens,
    candidateAt modelSource 0 = some primaryModel ∧
      Cuttable budgetChars payload primaryModel decision.estimatedInputTokens decision.inputBudgetTokens tokens
  texts : ∀ strategy, decision.action = toldBy strategy → ∃ primaryModel tokens,
    candidateAt modelSource 0 = some primaryModel ∧ decision.inputBudgetTokens = some tokens ∧
      CutPayload strategy payload primaryModel (budgetChars tokens primaryModel) sent
  others : ¬decision.action.Cuts → ∀ key, key ≠ "model" → sent.get key = payload.raw.get key

variable {budgetChars estimateInputTokens} {fromSlice : List UInt8 → Except String Json} {body : List UInt8}
  {payload : ChatCompletionsPayload} {modelSource : Option String} {primaryModel : String}

theorem candidateAt_trimmed {place : Nat} {model : String} (found : candidateAt modelSource place = some model) :
    trimmedString (.string model) = some model := by
  obtain ⟨source, _, there⟩ := Option.bind_eq_some_iff.mp found
  exact trimmedString_candidate (List.mem_of_getElem? there)

theorem get_valueWithModel_payload (parsed : parseChatCompletionsPayload fromSlice body = .ok (some payload)) (model : String) :
    (valueWithModel payload.raw model).get "model" = some (.string model) := by
  obtain ⟨items, held, _⟩ := parsed_messages parsed
  exact get_valueWithModel_model held model

/-- Without a model that can be used, nothing is known and nothing is done. -/
theorem trueOf_unnamed (handler : TokenLimitExceptionHandler) (unnamed : candidateAt modelSource 0 = none) :
    TrueOf budgetChars estimateInputTokens payload modelSource
      { handler, action := .skippedNoModel, originalModel := modelSource, effectiveModel := none
        estimatedInputTokens := none, modelContextLimit := none, inputBudgetTokens := none } payload.raw where
  original := rfl
  effective := unnamed.symm
  named := nofun
  unnamed _ := rfl
  figures primaryModel primary := by cases unnamed.symm.trans primary
  below := nofun
  fellBack := by
    refine ⟨nofun, ?_⟩
    rintro ⟨_, falls⟩
    obtain ⟨second, there⟩ := Option.isSome_iff_exists.mp falls.second
    obtain ⟨source, rfl, later⟩ := Option.bind_eq_some_iff.mp there
    have short := List.getElem?_eq_none_iff.mp unnamed
    have long := (List.getElem?_eq_some_iff.mp later).1
    omega
  cut strategy := by
    refine ⟨fun told => absurd ⟨strategy, told⟩ (not_cuts nofun nofun), ?_⟩
    rintro ⟨_, primaryModel, tokens, primary, _⟩
    cases unnamed.symm.trans primary
  texts strategy told := absurd ⟨strategy, told⟩ (not_cuts nofun nofun)
  others _ _ _ := rfl

/-- The body with the model as it is used, where it does not name it so. -/
def normalizedModelBody (payload : ChatCompletionsPayload) (primaryModel : String) : Option Json :=
  if payload.model != some primaryModel then some (valueWithModel payload.raw primaryModel) else none

theorem decideOn_eq {handler : TokenLimitExceptionHandler} {action : LargeContextAction} {transformed : Option Json}
    {effectiveModel : String}
    (handled : handle budgetChars handler payload modelSource primaryModel (resolveLimit primaryModel)
      (estimateInputTokens payload primaryModel none) ((resolveLimit primaryModel).map fun limit =>
        computeInputBudgetTokens limit payload.requestedCompletionTokens) = some (action, transformed))
    (effective : ((transformed.or (normalizedModelBody payload primaryModel)).bind fun value => value.getStr "model").or
      (some primaryModel) = some effectiveModel) :
    decideOn budgetChars estimateInputTokens handler payload modelSource primaryModel =
      some (LargeContextDecision.mk handler action modelSource (some effectiveModel)
        (estimateInputTokens payload primaryModel none) (resolveLimit primaryModel)
        ((resolveLimit primaryModel).map fun limit =>
          computeInputBudgetTokens limit payload.requestedCompletionTokens),
        transformed.or (normalizedModelBody payload primaryModel)) := by
  rw [decideOn]
  simp only [handled, Option.map_some, ← effective]
  rfl

/-- A payload that already names its model as it is used is sent as it is. -/
theorem normalized_sent (parsed : parseChatCompletionsPayload fromSlice body = .ok (some payload))
    (primary : candidateAt modelSource 0 = some primaryModel) :
    let sent := (normalizedModelBody payload primaryModel).getD payload.raw
    (sent.get "model").bind trimmedString = some primaryModel ∧ ∀ key, key ≠ "model" → sent.get key = payload.raw.get key := by
  intro sent
  by_cases same : payload.model = some primaryModel
  · have whole : sent = payload.raw := by simp [sent, normalizedModelBody, same]
    rw [whole, ← parsed_model parsed]
    exact ⟨same, fun _ _ => rfl⟩
  · have normalized : sent = valueWithModel payload.raw primaryModel := by simp [sent, normalizedModelBody, same]
    rw [normalized, get_valueWithModel_payload parsed, Option.bind_some]
    exact ⟨candidateAt_trimmed primary, fun key other => get_valueWithModel_ne other _ _⟩

theorem normalized_effective (parsed : parseChatCompletionsPayload fromSlice body = .ok (some payload)) :
    ((normalizedModelBody payload primaryModel).bind fun value => value.getStr "model").or (some primaryModel) =
      some primaryModel := by
  rw [normalizedModelBody]
  split
  · simp [Json.getStr, get_valueWithModel_payload parsed, Json.asStr]
  · rfl

section Decided
variable {handler : TokenLimitExceptionHandler} {action : LargeContextAction} {effectiveModel : String} {sent : Json}
  {limit estimated budget : Option UInt32}

/-- A decision with a model, from what holds of its action. -/
theorem trueOf_handled
    (primary : candidateAt modelSource 0 = some primaryModel) (limited : limit = resolveLimit primaryModel)
    (counted : estimated = estimateInputTokens payload primaryModel none)
    (made : budget = limit.map fun limit => computeInputBudgetTokens limit payload.requestedCompletionTokens)
    {transformed : Option Json}
    (acts : Handled budgetChars payload modelSource primaryModel estimated budget handler action transformed)
    (effective : some effectiveModel = candidateAt modelSource (if action = .fallbackApplied then 1 else 0))
    (named : (sent.get "model").bind trimmedString = some effectiveModel)
    (texts : action.Cuts → transformed = some sent)
    (others : ¬action.Cuts → ∀ key, key ≠ "model" → sent.get key = payload.raw.get key) :
    TrueOf budgetChars estimateInputTokens payload modelSource
      ⟨handler, action, modelSource, some effectiveModel, estimated, limit, budget⟩ sent := by
  have only : ∀ other, candidateAt modelSource 0 = some other → other = primaryModel := by
    intro other found
    exact Option.some.inj (found.symm.trans primary)
  constructor
  case original => rfl
  case effective => exact effective
  case named => exact fun model same => named.trans same
  case unnamed => nofun
  case figures =>
    intro other found
    rw [only other found, ← limited, ← made]
    exact ⟨rfl, counted, rfl⟩
  case others => exact others
  case below =>
    intro same
    cases acts with
    | skipped uncut first below alone fitting => exact below same
    | @cut strategy _ _ asked cuttable within => cases strategy <;> cases same
    | fellBack asked second above => cases same
  case fellBack =>
    cases acts with
    | skipped uncut first below alone fitting =>
      exact ⟨fun same => absurd same first, fun ⟨asked, falls⟩ => absurd falls (alone asked)⟩
    | @cut strategy _ _ asked cuttable within =>
      refine ⟨?_, fun ⟨same, _⟩ => absurd (asked.symm.trans same) (askedBy_ne_fallback strategy)⟩
      cases strategy <;> nofun
    | fellBack asked second above =>
      exact ⟨fun _ => ⟨asked, Option.isSome_iff_exists.mpr ⟨_, second⟩, above⟩, fun _ => rfl⟩
  case cut =>
    intro strategy
    cases acts with
    | skipped uncut first below alone fitting =>
      refine ⟨fun told => absurd ⟨strategy, told⟩ uncut, ?_⟩
      rintro ⟨asked, other, tokens, found, cuttable⟩
      rw [only other found] at cuttable
      exact absurd cuttable (fitting (asked.trans_ne (askedBy_ne_fallback strategy)) tokens)
    | cut asked cuttable within =>
      refine ⟨fun told => ?_, fun ⟨other, _⟩ => congrArg toldBy (askedBy_injective (asked.symm.trans other))⟩
      cases toldBy_injective told
      exact ⟨asked, _, _, primary, cuttable⟩
    | fellBack asked second above =>
      exact ⟨fun told => absurd ⟨strategy, told⟩ (not_cuts nofun nofun),
        fun ⟨other, _⟩ => absurd (other.symm.trans asked) (askedBy_ne_fallback strategy)⟩
  case texts =>
    intro strategy told
    cases acts with
    | skipped uncut first below alone fitting => exact absurd ⟨strategy, told⟩ uncut
    | cut asked cuttable within =>
      cases toldBy_injective told
      cases texts ⟨_, rfl⟩
      exact ⟨_, _, primary, cuttable.known, within⟩
    | fellBack asked second above => exact absurd ⟨strategy, told⟩ fallback_uncut

end Decided

variable (budgetChars estimateInputTokens) in
theorem decideOn_true (handler : TokenLimitExceptionHandler)
    (parsed : parseChatCompletionsPayload fromSlice body = .ok (some payload))
    (primary : candidateAt modelSource 0 = some primaryModel) :
    ∃ decision transformed,
      decideOn budgetChars estimateInputTokens handler payload modelSource primaryModel = some (decision, transformed) ∧
      decision.handler = handler ∧
      TrueOf budgetChars estimateInputTokens payload modelSource decision (transformed.getD payload.raw) := by
  obtain ⟨action, transformed, handled, acts⟩ := handle_handled budgetChars (resolveLimit primaryModel)
    (estimateInputTokens payload primaryModel none)
    (fun limit => computeInputBudgetTokens limit payload.requestedCompletionTokens) handler primary parsed
  cases acts with
  | skipped uncut first below alone fitting =>
    obtain ⟨named, others⟩ := normalized_sent parsed primary
    refine ⟨_, _, decideOn_eq handled (normalized_effective parsed), rfl, ?_⟩
    refine trueOf_handled primary rfl rfl rfl (.skipped uncut first below alone fitting) ?_ named ?_ (fun _ => others)
    · rw [if_neg first, primary]
    · exact fun cuts => absurd cuts uncut
  | @fellBack model asked second above =>
    have held : (valueWithModel payload.raw model).get "model" = some (.string model) := get_valueWithModel_payload parsed model
    have effective : ((some (valueWithModel payload.raw model)).bind fun value => value.getStr "model").or
        (some primaryModel) = some model := by simp [Json.getStr, held, Json.asStr]
    refine ⟨_, _, decideOn_eq handled effective, rfl, ?_⟩
    refine trueOf_handled primary rfl rfl rfl (.fellBack asked second above) second.symm ?_ ?_ ?_
    · rw [Option.some_or, Option.getD_some, held, Option.bind_some]
      exact candidateAt_trimmed second
    · exact fun cuts => absurd cuts fallback_uncut
    · exact fun _ key other => get_valueWithModel_ne other _ _
  | @cut strategy tokens result asked cuttable within =>
    have effective : ((some result).bind fun value => value.getStr "model").or (some primaryModel) = some primaryModel := by
      simp [Json.getStr, within.model, Json.asStr]
    refine ⟨_, _, decideOn_eq handled effective, rfl, ?_⟩
    refine trueOf_handled primary rfl rfl rfl (.cut asked cuttable within) ?_ ?_ (fun _ => rfl) ?_
    · cases strategy <;> exact primary.symm
    · rw [Option.some_or, Option.getD_some, within.model, Option.bind_some]
      exact candidateAt_trimmed primary
    · exact fun uncut => absurd ⟨strategy, rfl⟩ uncut

end Decisions

section Requests
variable (budgetChars : UInt32 → String → Nat)
  (estimateInputTokens : ChatCompletionsPayload → String → Option InferenceProvider → Option UInt32)
  (fromSlice : List UInt8 → Except String Json) (toVec : Json → List UInt8)

theorem resolvePrimaryModel_eq (bodyModel headerModel : Option String) :
    resolvePrimaryModel bodyModel headerModel = candidateAt (bodyModel.or headerModel) 0 := by
  rw [resolvePrimaryModel, candidateAt]
  congr 1
  funext source
  exact List.head?_eq_getElem?

/-- What is forwarded of a chat request with a decision: its body, or the value made of it. -/
def Tells (requestHeaders : HeaderMap) (body sent : List UInt8) (decision : LargeContextDecision) : Prop :=
  ∃ headers payload value, parseLargeContextHeaders requestHeaders = .ok headers ∧
    headers.handler = some decision.handler ∧ parseChatCompletionsPayload fromSlice body = .ok (some payload) ∧
    (sent = body ∧ value = payload.raw ∨ sent = toVec value) ∧
    TrueOf budgetChars estimateInputTokens payload (payload.model.or headers.modelOverride) decision value

/-- The transformation of a request always ends without a panic, and refuses only what has bad
headers. A body without a decision is forwarded as it is, and every decision tells what is
forwarded: the model it names is the one the body names, the texts are cut to their budget where
it says so and not elsewhere, and nothing but the model and the texts is touched. -/
theorem decision_tells_body (requestHeaders : HeaderMap) (body : List UInt8) :
    match maybeTransformUnifiedApiChatRequest budgetChars estimateInputTokens fromSlice toVec requestHeaders body with
    | .panicked => False
    | .refused error => parseLargeContextHeaders requestHeaders = .error error
    | .forwarded sent none => sent = body ∧ ∀ headers payload, parseLargeContextHeaders requestHeaders = .ok headers →
        parseChatCompletionsPayload fromSlice body = .ok (some payload) → headers.handler = none
    | .forwarded sent (some decision) =>
      Tells budgetChars estimateInputTokens fromSlice toVec requestHeaders body sent decision := by
  rw [maybeTransformUnifiedApiChatRequest]
  cases read : parseLargeContextHeaders requestHeaders with
  | error reason => rfl
  | ok headers =>
    simp only
    cases asked : headers.handler with
    | none =>
      refine ⟨rfl, ?_⟩
      intro others _ same _
      cases same
      exact asked
    | some handler =>
      simp only
      cases parsed : parseChatCompletionsPayload fromSlice body with
      | error reason => exact ⟨rfl, nofun⟩
      | ok found =>
        cases found with
        | none => exact ⟨rfl, nofun⟩
        | some payload =>
          simp only [resolvePrimaryModel_eq]
          cases primary : candidateAt (payload.model.or headers.modelOverride) 0 with
          | none =>
            exact ⟨headers, payload, payload.raw, read, asked, parsed, .inl ⟨rfl, rfl⟩, trueOf_unnamed handler primary⟩
          | some primaryModel =>
            obtain ⟨decision, transformed, decided, same, holds⟩ :=
              decideOn_true budgetChars estimateInputTokens handler parsed primary
            simp only [decided]
            refine ⟨headers, payload, _, read, same ▸ asked, parsed, ?_, holds⟩
            cases transformed with
            | none => exact .inl ⟨rfl, rfl⟩
            | some value => exact .inr rfl

end Requests

end AiGateway.LargeContextDecisions
