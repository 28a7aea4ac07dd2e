import AiGateway.Proofs.DispatchedProviders
import AiGateway.Proofs.ProviderNames
import Mathlib.Data.String.Basic

/-! The default model that a request falls back to when a provider failed: candidates are left
out by the code they are listed under, and routed by the provider the code is read as. -/

namespace AiGateway.DefaultModel

open Lib.Runs Lib.Splits
open ModelPolicy (VkPolicy providerFromBareModel)

section Greatest

theorem foldl_greater (names : List String) (name : String) :
    names.foldl greater name ∈ name :: names ∧ ∀ other ∈ name :: names, other ≤ names.foldl greater name := by
  induction names generalizing name with
  | nil => simp
  | cons next rest ih =>
    obtain ⟨member, bound⟩ := ih (greater name next)
    have either : greater name next = name ∨ greater name next = next := by
      rw [greater]
      split
      · exact Or.inr rfl
      · exact Or.inl rfl
    have above : name ≤ greater name next ∧ next ≤ greater name next := by
      rw [greater]
      split
      · next less => exact ⟨le_of_lt less, le_refl next⟩
      · next notLess => exact ⟨le_refl name, le_of_not_gt notLess⟩
    have first := bound (greater name next) List.mem_cons_self
    rw [List.foldl_cons]
    refine ⟨?_, ?_⟩
    · rcases List.mem_cons.mp member with same | later
      · rw [same]
        rcases either with same | same <;> simp [same]
      · exact List.mem_cons_of_mem _ (List.mem_cons_of_mem _ later)
    · intro other member
      rcases List.mem_cons.mp member with rfl | member
      · exact le_trans above.1 first
      · rcases List.mem_cons.mp member with rfl | later
        · exact le_trans above.2 first
        · exact bound other (List.mem_cons_of_mem _ later)

variable {Price : Type} (pricing : Pricing Price)

/-- A candidate of nearly the greatest price, of which no other such one has a greater name. -/
structure Best (pool : List (ScoredGatewayModel Price)) (candidate : ScoredGatewayModel Price) : Prop where
  member : candidate ∈ pool
  dearest : pricing.nearlyGreatest (pool.map ScoredGatewayModel.priceSum) candidate.priceSum = true
  last : ∀ other ∈ pool, pricing.nearlyGreatest (pool.map ScoredGatewayModel.priceSum) other.priceSum = true →
    other.gatewayModel ≤ candidate.gatewayModel

/-- The candidates that a failed code leaves. -/
def others (scored : List (ScoredGatewayModel Price)) (failedCode : String) : List (ScoredGatewayModel Price) :=
  scored.filter fun candidate => !eqIgnoreAsciiCase candidate.providerCode.toList failedCode.toList

/-- The names that the greatest is taken of. -/
def dearestNames (pool : List (ScoredGatewayModel Price)) : List String :=
  (pool.filter fun candidate =>
    pricing.nearlyGreatest (pool.map ScoredGatewayModel.priceSum) candidate.priceSum).map ScoredGatewayModel.gatewayModel

variable {pricing}

theorem mem_dearestNames {pool : List (ScoredGatewayModel Price)} {name : String} :
    name ∈ dearestNames pricing pool ↔ ∃ candidate ∈ pool,
      pricing.nearlyGreatest (pool.map ScoredGatewayModel.priceSum) candidate.priceSum = true ∧
        candidate.gatewayModel = name := by
  simp only [dearestNames, List.mem_map, List.mem_filter, and_assoc]

theorem pickBest_eq (scored : List (ScoredGatewayModel Price)) (failedCode : String) :
    pickBestScoredGatewayModel pricing scored (some failedCode) =
      match dearestNames pricing (others scored failedCode) with
      | [] => none
      | name :: names => some (names.foldl greater name) := by
  have pool : (scored.filter fun candidate => (some failedCode).all fun excluded =>
      !eqIgnoreAsciiCase candidate.providerCode.toList excluded.toList) = others scored failedCode := rfl
  rw [pickBestScoredGatewayModel, pickGreatestByPriceAndName, pool, List.filter_map, List.map_map, List.map_map]
  rfl

/-- What is chosen is the name of the best candidate under another code. -/
theorem pickBest_iff (scored : List (ScoredGatewayModel Price)) (failedCode model : String) :
    pickBestScoredGatewayModel pricing scored (some failedCode) = some model ↔
      ∃ candidate, Best pricing (others scored failedCode) candidate ∧ candidate.gatewayModel = model := by
  have greatest (names : List String) (same : dearestNames pricing (others scored failedCode) = names)
      (candidate : ScoredGatewayModel Price) :
      Best pricing (others scored failedCode) candidate ↔ candidate ∈ others scored failedCode ∧
        pricing.nearlyGreatest ((others scored failedCode).map ScoredGatewayModel.priceSum) candidate.priceSum = true ∧
          ∀ name ∈ names, name ≤ candidate.gatewayModel := by
    rw [← same]
    constructor
    · intro ⟨member, dearest, last⟩
      refine ⟨member, dearest, ?_⟩
      intro name listed
      obtain ⟨other, inside, dear, rfl⟩ := mem_dearestNames.mp listed
      exact last other inside dear
    · intro ⟨member, dearest, last⟩
      refine ⟨member, dearest, ?_⟩
      intro other inside dear
      exact last other.gatewayModel (mem_dearestNames.mpr ⟨other, inside, dear, rfl⟩)
  rw [pickBest_eq]
  cases same : dearestNames pricing (others scored failedCode) with
  | nil =>
    simp only [reduceCtorEq, false_iff]
    intro ⟨candidate, best, _⟩
    have listed := mem_dearestNames.mpr ⟨candidate, best.member, best.dearest, rfl⟩
    rw [same] at listed
    cases listed
  | cons name names =>
    obtain ⟨member, bound⟩ := foldl_greater names name
    constructor
    · intro chosen
      cases chosen
      rw [← same] at member
      obtain ⟨candidate, inside, dear, called⟩ := mem_dearestNames.mp member
      refine ⟨candidate, (greatest _ same candidate).mpr ⟨inside, dear, ?_⟩, called⟩
      rw [called]
      exact bound
    · rintro ⟨candidate, best, rfl⟩
      obtain ⟨inside, dear, last⟩ := (greatest _ same candidate).mp best
      have listed := mem_dearestNames.mpr ⟨candidate, inside, dear, rfl⟩
      rw [same] at listed
      exact congrArg some (le_antisymm (last _ member) (bound _ listed))

/-- Something is chosen where some candidate is of nearly the greatest price. -/
theorem pickBest_exists_iff (scored : List (ScoredGatewayModel Price)) (failedCode : String) :
    (∃ model, pickBestScoredGatewayModel pricing scored (some failedCode) = some model) ↔
      ∃ candidate ∈ others scored failedCode,
        pricing.nearlyGreatest ((others scored failedCode).map ScoredGatewayModel.priceSum) candidate.priceSum = true := by
  constructor
  · intro ⟨model, chosen⟩
    obtain ⟨candidate, best, _⟩ := (pickBest_iff scored failedCode model).mp chosen
    exact ⟨candidate, best.member, best.dearest⟩
  · intro ⟨candidate, inside, dear⟩
    have listed := mem_dearestNames.mpr ⟨candidate, inside, dear, rfl⟩
    rw [pickBest_eq]
    cases same : dearestNames pricing (others scored failedCode) with
    | nil =>
      rw [same] at listed
      cases listed
    | cons name names => exact ⟨_, rfl⟩

end Greatest

section Routing
variable {chrono : Chrono}

theorem providerFromBareModel_ok {model : String} {provider : InferenceProvider}
    (read : providerFromBareModel chrono model = .ok provider) :
    ∃ id, ModelId.fromStr chrono model.toList = .ok id ∧ id.inferenceProvider = some provider := by
  rw [providerFromBareModel] at read
  split at read
  · cases read
  · next named =>
    cases read
    exact ⟨_, named, rfl⟩
  · next named =>
    cases read
    exact ⟨_, named, rfl⟩
  · next named =>
    cases read
    exact ⟨_, named, rfl⟩
  · cases read

/-- A model that can be routed goes to the provider that its code is read as. -/
theorem providerFromBareModel_split {model : String} {parsed : ParsedProviderModel} {provider : InferenceProvider}
    (cut : splitProviderModel model = some parsed) (read : providerFromBareModel chrono model = .ok provider) :
    provider = InferenceProvider.fromStr parsed.providerRaw.toList := by
  rw [splitProviderModel] at cut
  split at cut
  · cases cut
  · next before after found =>
    dsimp only at cut
    split at cut
    · cases cut
    · cases cut
      have pieces : splitn '/' 2 model.toList = [before, after] := by
        rw [splitn, found]
        rfl
      rw [String.toList_ofList, InferenceProvider.fromStr_trim]
      obtain ⟨id, named, same⟩ := providerFromBareModel_ok read
      rw [ModelId.fromStr, pieces] at named
      dsimp only at named
      split at named
      · cases named
      · have own := ModelId.fromStrAndProvider_inferenceProvider named
        rw [own] at same
        exact (Option.some.inj same).symm

end Routing

section Choice
variable {Price : Type} (toLowercase : String → String) (pricing : Pricing Price) (catalogue : Catalogue)

/-- The candidates that the policy of a key comes down to. -/
def Candidates (vk : VkPolicy) (scored : List (ScoredGatewayModel Price)) : Prop :=
  catalogue.connected = true ∧ ∃ list, resolveModelIdList catalogue vk = .ok list ∧
    resolveScoredGatewayModels toLowercase pricing catalogue "chat/completions" vk
      (expandPolicyModelList catalogue.index list) = .ok scored

/-- The model is routed to another provider than the failed one. -/
def Elsewhere (chrono : Chrono) (failed : InferenceProvider) (model : String) : Prop :=
  ∃ provider, providerFromBareModel chrono model = .ok provider ∧ provider ≠ failed

/-- What is chosen without a code is routed to another provider than the failed one, and
something is chosen where a candidate is. -/
def ChangesProvider (chrono : Chrono) (vk : VkPolicy) (scored : List (ScoredGatewayModel Price)) (failedCode : String)
    (failed : InferenceProvider) : Prop :=
  let chosen := chooseDefaultGatewayModelExcludingProvider toLowercase pricing catalogue "chat/completions" vk
    (some failedCode)
  (∀ model, chosen = .ok model → Elsewhere chrono failed model) ∧
    ((∃ candidate ∈ scored, Elsewhere chrono failed candidate.gatewayModel) →
      ∃ model, chosen = .ok model ∧ Elsewhere chrono failed model)

variable {toLowercase pricing catalogue} {chrono : Chrono} {vk : VkPolicy} {scored : List (ScoredGatewayModel Price)}

theorem choose_iff (held : Candidates toLowercase pricing catalogue vk scored) (failedCode model : String) :
    chooseDefaultGatewayModelExcludingProvider toLowercase pricing catalogue "chat/completions" vk (some failedCode) =
        .ok model ↔
      pickBestScoredGatewayModel pricing scored (some failedCode) = some model := by
  obtain ⟨connected, list, resolved, scores⟩ := held
  rw [chooseDefaultGatewayModelExcludingProvider]
  simp only [connected, Bool.not_true, Bool.false_eq_true, if_false, resolved]
  split
  · next empty =>
    -- Nothing to choose from leaves nothing scored.
    rw [List.isEmpty_iff.mp empty] at scores
    cases scores
    simp [pickBest_eq, others, dearestNames]
  · simp only [scores]
    cases pickBestScoredGatewayModel pricing scored (some failedCode) with
    | none => simp
    | some chosen => simp

theorem scored_named (held : Candidates toLowercase pricing catalogue vk scored)
    {candidate : ScoredGatewayModel Price} (member : candidate ∈ scored) :
    ∃ modelRaw, splitProviderModel candidate.gatewayModel = some ⟨candidate.providerCode, modelRaw⟩ := by
  obtain ⟨_, list, _, scores⟩ := held
  unfold resolveScoredGatewayModels at scores
  dsimp only at scores
  split at scores
  · cases scores
  · cases scores
    obtain ⟨named, inside, score⟩ := List.mem_filterMap.mp member
    obtain ⟨name, _, parsed⟩ := List.mem_filterMap.mp inside
    unfold candidateOf at parsed
    split at parsed
    · cases parsed
    · obtain ⟨cut, split, rfl⟩ := Option.map_eq_some_iff.mp parsed
      unfold scoreOf at score
      split at score
      · cases score
      · split at score
        · cases score
        · cases score
          exact ⟨cut.modelRaw, split⟩

/-- The fallback changes the provider just where the best candidate under another code can be
routed and its code is no alias of the failed one, and where there is such a candidate if there
is one of another provider at all. -/
theorem changesProvider_iff (held : Candidates toLowercase pricing catalogue vk scored) {selected : String}
    {parsed : ParsedProviderModel} (cut : splitProviderModel selected = some parsed) {failed : InferenceProvider}
    (routed : providerFromBareModel chrono selected = .ok failed) :
    ChangesProvider toLowercase pricing catalogue chrono vk scored parsed.providerRaw failed ↔
      (∀ candidate, Best pricing (others scored parsed.providerRaw) candidate →
        (∃ provider, providerFromBareModel chrono candidate.gatewayModel = .ok provider) ∧
          InferenceProvider.fromStr candidate.providerCode.toList ≠
            InferenceProvider.fromStr parsed.providerRaw.toList) ∧
      ((∃ candidate ∈ scored, Elsewhere chrono failed candidate.gatewayModel) →
        ∃ candidate ∈ others scored parsed.providerRaw,
          pricing.nearlyGreatest ((others scored parsed.providerRaw).map ScoredGatewayModel.priceSum)
            candidate.priceSum = true) := by
  have failedRead := providerFromBareModel_split cut routed
  have elsewhere {candidate : ScoredGatewayModel Price}
      (best : Best pricing (others scored parsed.providerRaw) candidate) :
      Elsewhere chrono failed candidate.gatewayModel ↔
        (∃ provider, providerFromBareModel chrono candidate.gatewayModel = .ok provider) ∧
          InferenceProvider.fromStr candidate.providerCode.toList ≠
            InferenceProvider.fromStr parsed.providerRaw.toList := by
    obtain ⟨modelRaw, named⟩ := scored_named held (List.mem_of_mem_filter best.member)
    rw [← failedRead]
    constructor
    · intro ⟨provider, read, other⟩
      rw [← providerFromBareModel_split named read]
      exact ⟨⟨provider, read⟩, other⟩
    · intro ⟨⟨provider, read⟩, other⟩
      rw [← providerFromBareModel_split named read] at other
      exact ⟨provider, read, other⟩
  rw [ChangesProvider]
  simp only [choose_iff held]
  rw [← pickBest_exists_iff]
  constructor
  · intro ⟨changed, found⟩
    refine ⟨?_, ?_⟩
    · intro candidate best
      exact (elsewhere best).mp (changed _ ((pickBest_iff _ _ _).mpr ⟨candidate, best, rfl⟩))
    · intro some
      obtain ⟨model, chosen, _⟩ := found some
      exact ⟨model, chosen⟩
  · intro ⟨unaliased, found⟩
    have changed (model : String) (chosen : pickBestScoredGatewayModel pricing scored (some parsed.providerRaw) =
        some model) : Elsewhere chrono failed model := by
      obtain ⟨candidate, best, rfl⟩ := (pickBest_iff _ _ _).mp chosen
      exact (elsewhere best).mpr (unaliased candidate best)
    refine ⟨changed, ?_⟩
    intro some
    obtain ⟨model, chosen⟩ := found some
    exact ⟨model, chosen, changed model chosen⟩

end Choice

/-! A catalogue that lists one provider under two of its codes. -/

def googleCatalogue (price : UInt64) : Catalogue where
  connected := true
  policyModels := .ok ["gemini/gemini-2.5-pro", "google/gemini-2.5-flash", "openai/gpt-4o"]
  rows := .ok [⟨"gemini", "gemini-2.5-pro", some (Dispatch.chatInfo 10)⟩,
    ⟨"google", "gemini-2.5-flash", some (Dispatch.chatInfo price)⟩, ⟨"openai", "gpt-4o", some (Dispatch.chatInfo 5)⟩]
  lower := ModelPolicy.asciiLowercase
  index := []

def googleScores (price : Nat) : List (ScoredGatewayModel Nat) :=
  [⟨"gemini/gemini-2.5-pro", "gemini", 10⟩, ⟨"google/gemini-2.5-flash", "google", price⟩, ⟨"openai/gpt-4o", "openai", 5⟩]

/-- No name of the catalogue ends in a date. -/
def datelessChrono : Chrono := ⟨fun _ _ => none, fun _ _ => [], 2025⟩

theorem gemini_failed :
    splitProviderModel "gemini/gemini-2.5-pro" = some ⟨"gemini", "gemini-2.5-pro"⟩ ∧
      providerFromBareModel datelessChrono "gemini/gemini-2.5-pro" = .ok .googleGemini := by
  decide +kernel

theorem googleScores_others :
    others (googleScores 3) "gemini" =
      [⟨"google/gemini-2.5-flash", "google", 3⟩, ⟨"openai/gpt-4o", "openai", 5⟩] := by
  decide +kernel

theorem openai_fallen_back_to :
    Candidates ModelPolicy.asciiLowercase Dispatch.wholePricing (googleCatalogue 3) ⟨none, none⟩ (googleScores 3) ∧
      ChangesProvider ModelPolicy.asciiLowercase Dispatch.wholePricing (googleCatalogue 3) datelessChrono ⟨none, none⟩
        (googleScores 3) "gemini" .googleGemini := by
  have held : Candidates ModelPolicy.asciiLowercase Dispatch.wholePricing (googleCatalogue 3) ⟨none, none⟩
      (googleScores 3) := ⟨rfl, _, rfl, by decide +kernel⟩
  refine ⟨held, (changesProvider_iff held gemini_failed.1 gemini_failed.2).mpr ⟨?_, ?_⟩⟩
  · intro candidate ⟨member, dearest, _⟩
    rw [googleScores_others] at member dearest
    rcases List.mem_cons.mp member with rfl | member
    · exact absurd dearest (by decide +kernel)
    · cases List.mem_singleton.mp member
      exact ⟨⟨.openAI, by decide +kernel⟩, by decide +kernel⟩
  · intro _
    rw [googleScores_others]
    exact ⟨_, List.mem_cons_of_mem _ List.mem_cons_self, by decide +kernel⟩

/-- The provider failed as `gemini` and is chosen again as `google`, with another at hand. -/
theorem google_chosen_for_gemini :
    splitProviderModel "gemini/gemini-2.5-pro" = some ⟨"gemini", "gemini-2.5-pro"⟩ ∧
      providerFromBareModel datelessChrono "gemini/gemini-2.5-pro" = .ok .googleGemini ∧
      Candidates ModelPolicy.asciiLowercase Dispatch.wholePricing (googleCatalogue 9) ⟨none, none⟩ (googleScores 9) ∧
      Elsewhere datelessChrono .googleGemini "openai/gpt-4o" ∧
      ¬ ChangesProvider ModelPolicy.asciiLowercase Dispatch.wholePricing (googleCatalogue 9) datelessChrono ⟨none, none⟩
        (googleScores 9) "gemini" .googleGemini := by
  refine ⟨gemini_failed.1, gemini_failed.2, ⟨rfl, _, rfl, by decide +kernel⟩, ⟨.openAI, by decide +kernel⟩, ?_⟩
  intro ⟨changed, _⟩
  obtain ⟨provider, read, other⟩ := changed "google/gemini-2.5-flash" (by decide +kernel)
  have same : providerFromBareModel datelessChrono "google/gemini-2.5-flash" = .ok .googleGemini := by decide +kernel
  rw [same] at read
  cases read
  exact other rfl

end AiGateway.DefaultModel
