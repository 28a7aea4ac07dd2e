import AiGateway.ContentFilter

/-! The places where the gateway writes another model into a request's body: the default of a
request without one, the downgrade of the policy, the model fallen back to, and the full name of
a bare model. -/

namespace AiGateway.ModelRewrites

open ContentFilter (Bytes setModel applyModelDowngrade)
open DefaultModel (ChooseError Pricing Catalogue chooseDefaultGatewayModel)
open ModelPolicy (VkPolicy)
open ModelSupport (JsonLibrary modelFieldFromJsonBody rewriteModelInBody)

inductive RewriteError where
  | invalidRequestBody
  | notChosen (error : ChooseError)
  | panicked
  deriving DecidableEq, Repr

/-- What the rewriting takes from outside: the JSON library, and all that a default is chosen from. -/
structure Surroundings (Price : Type) where
  json : JsonLibrary
  toLowercase : String → String
  pricing : Pricing Price
  catalogue : Catalogue

section Helpers
variable {Price : Type} (around : Surroundings Price)

def parseBody (body : Bytes) : Except RewriteError Json := (around.json.fromSlice body).elim (.error .invalidRequestBody) .ok

def injectDefaultModelIntoBodyUnified (path : String) (body : Bytes) (vk : VkPolicy) : Except RewriteError Bytes := do
  if (modelFieldFromJsonBody around.json body).isSome then pure body
  else
    let chosen ← (chooseDefaultGatewayModel around.toLowercase around.pricing around.catalogue path vk).mapError .notChosen
    let value ← parseBody around body
    let value ← (setModel value chosen).mapError fun _ => .panicked
    pure (around.json.toVec value)

def rewriteChatCompletionModel (body : Bytes) (newModel : String) : Except RewriteError Bytes := do
  let value ← parseBody around body
  let value ← (setModel value newModel).mapError fun _ => .panicked
  pure (around.json.toVec value)

/-- A rewriting by one of the helpers. -/
inductive Rewrite where
  | defaultModel (path : String) (vk : VkPolicy)
  | downgrade (newModel : String)
  | chatCompletion (newModel : String)
  | bareModel (resolved : String)

/-- What a helper returns to its caller, who keeps the body where a bare model is not written. -/
def Rewrite.run : Rewrite → Bytes → Except RewriteError Bytes
  | .defaultModel path vk, body => injectDefaultModelIntoBodyUnified around path body vk
  | .downgrade newModel, body => (applyModelDowngrade around.json body newModel).mapError fun _ => .panicked
  | .chatCompletion newModel, body => rewriteChatCompletionModel around body newModel
  | .bareModel resolved, body => .ok ((rewriteModelInBody around.json body resolved).getD body)

end Helpers

end AiGateway.ModelRewrites
