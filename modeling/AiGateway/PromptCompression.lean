import AiGateway.LargeContext
import AiGateway.ModelSupport

/-! The compression of prompts: runs of blanks in the texts of a chat request become single
ones, and the tokens before and after are noted with the request. -/

namespace AiGateway.PromptCompression

open LargeContext (ChatCompletionsPayload normalizeText parseChatCompletionsPayload)
open ModelSupport (SupportError extractFallbackModelCandidates parseLargeContextHeaders)
open SemanticCache (HeaderMap)

structure PromptCompressionTokenPair where
  originPromptToken : UInt32
  compressionPromptToken : UInt32
  deriving DecidableEq, Repr

/-- The headers and the one extension that are read and written here. -/
structure Parts where
  headers : HeaderMap
  tokenPair : Option PromptCompressionTokenPair

def normalizeContent (message : Json) : Json :=
  message.modify "content" (Json.overText fun text => String.ofList (normalizeText text.toList))

def patchMessagesWhitespace (raw : Json) (payload : ChatCompletionsPayload) : Json :=
  raw.modify "messages" fun messages =>
    match messages with
    | .array items =>
      .array (payload.messages.foldl (fun items message => items.modify message.index normalizeContent) items)
    | other => other

def resolvePrimaryModel (bodyModel headerModelOverride : Option String) : Option String :=
  (bodyModel.or headerModelOverride).bind fun source => (extractFallbackModelCandidates source).head?

section Apply
variable (fromSlice : List UInt8 → Except String Json) (toVec : Json → List UInt8)
  (estimateInputTokens : ChatCompletionsPayload → String → Option InferenceProvider → Option UInt32)

/-- A request whose large-context headers do not parse is refused; every other early exit gives
the body back. -/
def applyChatCompletions (parts : Parts) (body : List UInt8) (provider : InferenceProvider) :
    Except SupportError (List UInt8) × Parts :=
  match parseChatCompletionsPayload fromSlice body with
  | .error _ | .ok none => (.ok body, parts)
  | .ok (some payload) =>
    match parseLargeContextHeaders parts.headers with
    | .error error => (.error error, parts)
    | .ok headers =>
      match resolvePrimaryModel payload.model headers.modelOverride with
      | none => (.ok body, parts)
      | some primary =>
        if payload.hasNonTextMessageContent ∨ payload.messages.isEmpty then (.ok body, parts)
        else
          match estimateInputTokens payload primary (some provider) with
          | none => (.ok body, parts)
          | some before =>
            let afterBytes := toVec (patchMessagesWhitespace payload.raw payload)
            match parseChatCompletionsPayload fromSlice afterBytes with
            | .error _ | .ok none => (.ok body, parts)
            | .ok (some afterPayload) =>
              match estimateInputTokens afterPayload primary (some provider) with
              | none => (.ok body, parts)
              | some after => (.ok afterBytes, { parts with tokenPair := some ⟨before, after⟩ })

end Apply

end AiGateway.PromptCompression
