import AiGateway.Json
import AiGateway.ModelPolicy
import AiGateway.ProviderReload

/-! The model that a request without one is given: the names the policy lists, those of
them that the catalogue offers for the path, and the dearest of these. The dispatcher
chooses again, without the provider that failed, when it falls back. -/

namespace AiGateway.DefaultModel

open Lib.Splits
open ModelPolicy (VkPolicy asciiLowercase modelAccessAllowed)
open ProviderReload (BareModelExpandIndex)

inductive ChooseError where
  | noModelAvailable
  | database
  deriving DecidableEq, Repr

structure ParsedProviderModel where
  providerRaw : String
  modelRaw : String
  deriving DecidableEq, Repr

def trimmed (text : String) : String := String.ofList (trim text.toList)

/-- Both sides of the first slash, where neither is blank. -/
def splitProviderModel (model : String) : Option ParsedProviderModel :=
  match splitOnce '/' model.toList with
  | none => none
  | some (provider, name) =>
    let provider := trim provider
    let name := trim name
    if provider.isEmpty || name.isEmpty then none else some ⟨String.ofList provider, String.ofList name⟩

structure DefaultModelCandidate where
  original : String
  providerCode : String
  modelId : String
  deriving DecidableEq, Repr

structure ScoredGatewayModel (Price : Type) where
  gatewayModel : String
  providerCode : String
  priceSum : Price
  deriving DecidableEq, Repr

/-- A model of the catalogue, both its own row and its provider's enabled. -/
structure SelectionInfoRow where
  providerCode : String
  modelId : String
  info : Option Json

/-- The arithmetic of prices: the sum that a model's information gives, what counts
without any, and whether a price is nearly the greatest of some. -/
structure Pricing (Price : Type) where
  priceSumFromInfo : Json → Price
  zero : Price
  nearlyGreatest : List Price → Price → Bool

/-- What the choice reads of the application: whether there is a store, the models its
policy rows name, its catalogue, and the bare names. `lower` is the database's. -/
structure Catalogue where
  connected : Bool
  policyModels : Except ChooseError (List String)
  rows : Except ChooseError (List SelectionInfoRow)
  lower : String → String
  index : BareModelExpandIndex

inductive ModelInteractionSelectionPolicy where
  | chatMultimodalReasoning
  | embeddingOnly
  | legacyCompatible
  deriving DecidableEq, Repr

def selectionPolicyForUnifiedPath (path : String) : ModelInteractionSelectionPolicy :=
  if path = "chat/completions" ∨ path = "messages" ∨ path = "responses" then .chatMultimodalReasoning
  else if path = "embeddings" then .embeddingOnly
  else .legacyCompatible

def modelInteractionTypeFromInfo (info : Option Json) : Option String :=
  info.bind fun info => info.getStr "model_interaction_type"

def policyAllowsInteractionType (policy : ModelInteractionSelectionPolicy) (interactionType : Option String) : Bool :=
  match policy with
  | .chatMultimodalReasoning => [some "chat", some "multimodal", some "reasoning"].contains interactionType
  | .embeddingOnly => interactionType == some "embedding"
  | .legacyCompatible => interactionType != some "embedding"

def modelInfoAllowsUnifiedPath (info : Option Json) (path : String) : Bool :=
  policyAllowsInteractionType (selectionPolicyForUnifiedPath path) (modelInteractionTypeFromInfo info)

def candidateLookupKey (providerCode modelId : String) : String :=
  asciiLowercase providerCode ++ "/" ++ asciiLowercase modelId

def nonemptyAllowList (allowed : Option (List String)) : Option (List String) :=
  allowed.bind fun names =>
    let names := (names.map trimmed).filter fun name => !name.isEmpty
    if names.isEmpty then none else some names

/-- The names that one entry of a policy stands for. -/
def expandEntry (index : BareModelExpandIndex) (raw : String) : List String :=
  let name := trimmed raw
  if name.isEmpty then []
  else
    match splitProviderModel name with
    | some parsed => [parsed.providerRaw ++ "/" ++ parsed.modelRaw]
    | none => index.gatewayModelsForBareId name

/-- A name is kept the first time it is met, in whatever letter case. -/
def keepNew (out : List String) (name : String) : List String :=
  if out.any fun kept => asciiLowercase kept == asciiLowercase name then out else out ++ [name]

def expandPolicyModelList (index : BareModelExpandIndex) (list : List String) : List String :=
  (list.flatMap (expandEntry index)).foldl keepNew []

section Choice
variable {Price : Type} (toLowercase : String → String) (pricing : Pricing Price) (catalogue : Catalogue)

def resolveModelIdList (vk : VkPolicy) : Except ChooseError (List String) :=
  match nonemptyAllowList vk.allowedModels with
  | some names => .ok names
  | none => catalogue.policyModels

def candidateOf (blocked : Option (List String)) (name : String) : Option DefaultModelCandidate :=
  if !modelAccessAllowed toLowercase name none blocked then none
  else (splitProviderModel name).map fun parsed => ⟨name, parsed.providerRaw, parsed.modelRaw⟩

/-- The rows of the batch query, in the order of the candidates. -/
def getGatewayModelSelectionInfoBatch (rows : List SelectionInfoRow) (candidates : List DefaultModelCandidate) :
    List SelectionInfoRow :=
  candidates.flatMap fun candidate =>
    rows.filter fun row =>
      catalogue.lower row.providerCode == catalogue.lower candidate.providerCode &&
        catalogue.lower row.modelId == catalogue.lower candidate.modelId

/-- Of the rows with one key the last counts. -/
def selectionInfo (rows : List SelectionInfoRow) (candidate : DefaultModelCandidate) : Option (Option Json) :=
  (rows.reverse.find? fun row =>
    candidateLookupKey row.providerCode row.modelId == candidateLookupKey candidate.providerCode candidate.modelId).map
      SelectionInfoRow.info

def scoreOf (rows : List SelectionInfoRow) (path : String) (candidate : DefaultModelCandidate) :
    Option (ScoredGatewayModel Price) :=
  match selectionInfo rows candidate with
  | none => none
  | some info =>
    if !modelInfoAllowsUnifiedPath info path then none
    else some ⟨candidate.original, candidate.providerCode, (info.map pricing.priceSumFromInfo).getD pricing.zero⟩

def resolveScoredGatewayModels (path : String) (vk : VkPolicy) (list : List String) :
    Except ChooseError (List (ScoredGatewayModel Price)) :=
  let candidates := list.filterMap (candidateOf toLowercase vk.blockedModels)
  -- without candidates the database is not asked
  match if candidates.isEmpty then .ok [] else catalogue.rows with
  | .error error => .error error
  | .ok rows =>
    .ok (candidates.filterMap (scoreOf pricing (getGatewayModelSelectionInfoBatch catalogue rows candidates) path))

def greater (name other : String) : String := if name < other then other else name

/-- The greatest name among those of nearly the greatest price; the code panics when a sum
that is no finite number leaves none. -/
def pickGreatestByPriceAndName (scored : List (String × Price)) : Option String :=
  match (scored.filter fun entry => pricing.nearlyGreatest (scored.map Prod.snd) entry.2).map Prod.fst with
  | [] => none
  | name :: names => some (names.foldl greater name)

def pickBestScoredGatewayModel (scored : List (ScoredGatewayModel Price)) (excludedProviderCode : Option String) :
    Option String :=
  pickGreatestByPriceAndName pricing
    ((scored.filter fun candidate =>
        excludedProviderCode.all fun excluded =>
          !eqIgnoreAsciiCase candidate.providerCode.toList excluded.toList).map
      fun candidate => (candidate.gatewayModel, candidate.priceSum))

def chooseDefaultGatewayModelExcludingProvider (path : String) (vk : VkPolicy) (excludedProviderCode : Option String) :
    Except ChooseError String :=
  if !catalogue.connected then .error .noModelAvailable
  else
    match resolveModelIdList catalogue vk with
    | .error error => .error error
    | .ok list =>
      let list := expandPolicyModelList catalogue.index list
      if list.isEmpty then .error .noModelAvailable
      else
        match resolveScoredGatewayModels toLowercase pricing catalogue path vk list with
        | .error error => .error error
        | .ok scored =>
          match pickBestScoredGatewayModel pricing scored excludedProviderCode with
          | none => .error .noModelAvailable
          | some chosen => .ok chosen

def chooseDefaultGatewayModel (path : String) (vk : VkPolicy) : Except ChooseError String :=
  chooseDefaultGatewayModelExcludingProvider toLowercase pricing catalogue path vk none

end Choice

end AiGateway.DefaultModel
