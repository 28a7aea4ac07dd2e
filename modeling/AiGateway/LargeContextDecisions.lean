import AiGateway.PromptCompression

/-! The middleware for chat requests that are too large for their model. It puts one model in
the place of a list of models, cuts texts or falls back on the second model, and leaves its
decision with the request for the log. -/

namespace AiGateway.LargeContextDecisions

open Lib.Splits
open LargeContext (ChatCompletionsPayload parseChatCompletionsPayload valueWithModel applyTruncate applyMiddleOut)
open ModelPolicy (asciiLowercase)
open DefaultModel (trimmed)
open ModelSupport (SupportError TokenLimitExceptionHandler extractFallbackModelCandidates parseLargeContextHeaders)
open PromptCompression (resolvePrimaryModel)
open SemanticCache (HeaderMap)

inductive LargeContextAction where
  | skippedNoModel
  | skippedNoTextMessages
  | skippedNonTextMessages
  | skippedNoEstimate
  | skippedBelowLimit
  | skippedNoModelLimit
  | skippedNoFallbackModel
  | truncated
  | middleOutApplied
  | fallbackApplied
  deriving DecidableEq, Repr

structure LargeContextDecision where
  handler : TokenLimitExceptionHandler
  action : LargeContextAction
  originalModel : Option String
  effectiveModel : Option String
  estimatedInputTokens : Option UInt32
  modelContextLimit : Option UInt32
  inputBudgetTokens : Option UInt32
  deriving DecidableEq, Repr

section Limits

def modelSuffix (model : List Char) : List Char :=
  match splitOnce '/' model with
  | some (_, suffix) => suffix
  | none => model

/-- The limit of a model, for the one family whose limit is known. -/
def resolveLimit (model : String) : Option UInt32 :=
  let suffix := modelSuffix (asciiLowercase (trimmed model)).toList
  if "gpt-4o-mini".toList.isPrefixOf suffix then some 128000
  else if "gpt-4o".toList.isPrefixOf suffix then some 128000
  else none

def saturatingSub (first second : UInt32) : UInt32 := if second ≤ first then first - second else 0

/-- What a request leaves for its input. A tenth of the limit is kept where it does not say how
much it wants back. -/
def computeInputBudgetTokens (modelContextLimit : UInt32) (requestedCompletionTokens : Option UInt32) : UInt32 :=
  saturatingSub modelContextLimit (requestedCompletionTokens.getD (max (modelContextLimit / 10) 1))

/-- The estimate and the budget are both known, and compare so. -/
def compareToBudget (compare : UInt32 → UInt32 → Bool) (estimatedInputTokens inputBudgetTokens : Option UInt32) : Bool :=
  estimatedInputTokens.any fun estimated => inputBudgetTokens.any (compare estimated)

def belowBudget : Option UInt32 → Option UInt32 → Bool := compareToBudget fun estimated budget => estimated < budget

def reachesBudget : Option UInt32 → Option UInt32 → Bool := compareToBudget fun estimated budget => budget ≤ estimated

end Limits

section Fallback

def applyFallback (payload : ChatCompletionsPayload) (modelSource : String)
    (estimatedInputTokens inputBudgetTokens : Option UInt32) : Option Json :=
  (extractFallbackModelCandidates modelSource)[1]?.bind fun fallbackModel =>
    if inputBudgetTokens.isNone || estimatedInputTokens.isNone || reachesBudget estimatedInputTokens inputBudgetTokens then
      some (valueWithModel payload.raw fallbackModel)
    else none

def fallBack (payload : ChatCompletionsPayload) (modelSource : Option String)
    (estimatedInputTokens inputBudgetTokens : Option UInt32) : LargeContextAction × Option Json :=
  match modelSource.bind fun source => applyFallback payload source estimatedInputTokens inputBudgetTokens with
  | some transformed => (.fallbackApplied, some transformed)
  | none =>
    if modelSource.any fun source => (extractFallbackModelCandidates source).length < 2 then
      (.skippedNoFallbackModel, none)
    else (.skippedBelowLimit, none)

end Fallback

/-- The two branches that cut texts. They differ in the strategy and in the action that tells
it; without a result, the budget was expected where there is none. -/
def cutTexts (strategy : ChatCompletionsPayload → String → UInt32 → Option Json) (applied : LargeContextAction)
    (payload : ChatCompletionsPayload) (primaryModel : String)
    (modelContextLimit estimatedInputTokens inputBudgetTokens : Option UInt32) :
    Option (LargeContextAction × Option Json) :=
  if payload.messages.isEmpty then some (.skippedNoTextMessages, none)
  else if payload.hasNonTextMessageContent then some (.skippedNonTextMessages, none)
  else if modelContextLimit.isNone then some (.skippedNoModelLimit, none)
  else if estimatedInputTokens.isNone then some (.skippedNoEstimate, none)
  else if belowBudget estimatedInputTokens inputBudgetTokens then some (.skippedBelowLimit, none)
  else
    inputBudgetTokens.map fun budget =>
      match strategy payload primaryModel budget with
      | some transformed => (applied, some transformed)
      | none => (.skippedNoTextMessages, none)

section Transform
variable (budgetChars : UInt32 → String → Nat)
  (estimateInputTokens : ChatCompletionsPayload → String → Option InferenceProvider → Option UInt32)

def handle (handler : TokenLimitExceptionHandler) (payload : ChatCompletionsPayload) (modelSource : Option String)
    (primaryModel : String) (modelContextLimit estimatedInputTokens inputBudgetTokens : Option UInt32) :
    Option (LargeContextAction × Option Json) :=
  match handler with
  | .fallback => some (fallBack payload modelSource estimatedInputTokens inputBudgetTokens)
  | .truncate =>
    cutTexts (applyTruncate budgetChars) .truncated payload primaryModel modelContextLimit estimatedInputTokens
      inputBudgetTokens
  | .middleOut =>
    cutTexts (applyMiddleOut budgetChars) .middleOutApplied payload primaryModel modelContextLimit estimatedInputTokens
      inputBudgetTokens

/-- The decision on a payload with a model, and the value that is sent instead of the body. Where
no strategy acts, a body that does not name the model as it is used is sent with it. -/
def decideOn (handler : TokenLimitExceptionHandler) (payload : ChatCompletionsPayload) (modelSource : Option String)
    (primaryModel : String) : Option (LargeContextDecision × Option Json) :=
  let modelContextLimit := resolveLimit primaryModel
  let estimatedInputTokens := estimateInputTokens payload primaryModel none
  let inputBudgetTokens :=
    modelContextLimit.map fun limit => computeInputBudgetTokens limit payload.requestedCompletionTokens
  let normalizedModelBody :=
    if payload.model != some primaryModel then some (valueWithModel payload.raw primaryModel) else none
  (handle budgetChars handler payload modelSource primaryModel modelContextLimit estimatedInputTokens
      inputBudgetTokens).map fun (action, transformed) =>
    let transformedBody := transformed.or normalizedModelBody
    let effectiveModel := (transformedBody.bind fun value => value.getStr "model").or (some primaryModel)
    ({ handler, action, originalModel := modelSource, effectiveModel, estimatedInputTokens, modelContextLimit,
       inputBudgetTokens }, transformedBody)

inductive Outcome where
  | forwarded (body : List UInt8) (decision : Option LargeContextDecision)
  | refused (error : SupportError)
  | panicked

variable (fromSlice : List UInt8 → Except String Json) (toVec : Json → List UInt8)

def maybeTransformUnifiedApiChatRequest (requestHeaders : HeaderMap) (body : List UInt8) : Outcome :=
  match parseLargeContextHeaders requestHeaders with
  | .error error => .refused error
  | .ok headers =>
    match headers.handler with
    | none => .forwarded body none
    | some handler =>
      match parseChatCompletionsPayload fromSlice body with
      | .error _ | .ok none => .forwarded body none
      | .ok (some payload) =>
        let modelSource := payload.model.or headers.modelOverride
        match resolvePrimaryModel payload.model headers.modelOverride with
        | none =>
          .forwarded body (some {
            handler, action := .skippedNoModel, originalModel := modelSource
            effectiveModel := none, estimatedInputTokens := none, modelContextLimit := none
            inputBudgetTokens := none })
        | some primaryModel =>
          match decideOn budgetChars estimateInputTokens handler payload modelSource primaryModel with
          | none => .panicked
          | some (decision, transformedBody) =>
            .forwarded ((transformedBody.map toVec).getD body) (some decision)

end Transform

end AiGateway.LargeContextDecisions
