import AiGateway.ModelPolicy
import AiGateway.Proofs.ModelNames

/-! Two spellings of one model, before the virtual key's policy. The policy compares the
texts; the model they name is what the request is routed by. -/

namespace AiGateway.ModelPolicy

section Spellings
variable (toLowercase : String → String) (chrono : Chrono)

/-- Both texts are read as one provider and one model. -/
def SameModel (first second : String) : Prop :=
  ∃ id, ModelId.fromStr chrono first.toList = .ok id ∧ ModelId.fromStr chrono second.toList = .ok id

/-- No virtual key lets one of the texts through and not the other. -/
def SameVerdict (first second : String) : Prop :=
  ∀ policy, (checkModelAccess toLowercase policy first).isOk = (checkModelAccess toLowercase policy second).isOk

/-- The unified API refuses both texts or sends both to one provider. -/
def RoutedAlike (first second : String) : Prop :=
  ∀ policy skipsAccess compat allowed,
    (unifiedChatProvider chrono toLowercase policy skipsAccess compat first allowed).toOption =
      (unifiedChatProvider chrono toLowercase policy skipsAccess compat second allowed).toOption

variable {toLowercase} {chrono}

theorem checkModelAccess_isOk (policy : VkPolicy) (model : String) :
    (checkModelAccess toLowercase (some policy) model).isOk =
      modelAccessAllowed toLowercase model policy.allowedModels policy.blockedModels := by
  rw [checkModelAccess]
  cases modelAccessAllowed toLowercase model policy.allowedModels policy.blockedModels <;> rfl

theorem sameVerdict_iff (first second : String) :
    SameVerdict toLowercase first second ↔ toLowercase first = toLowercase second := by
  constructor
  · intro same
    have blocked := same (some ⟨none, some [first]⟩)
    rw [checkModelAccess_isOk, checkModelAccess_isOk] at blocked
    simpa [modelAccessAllowed, listed] using blocked
  · intro lower policy
    cases policy with
    | none => rfl
    | some policy =>
      rw [checkModelAccess_isOk, checkModelAccess_isOk]
      have alike (list : Option (List String)) : listed toLowercase first list = listed toLowercase second list := by
        cases list with
        | none => rfl
        | some list => rw [listed, listed, lower]
      rw [modelAccessAllowed, modelAccessAllowed, alike, alike]

/-- One model resolves to one provider, however it is spelled. -/
theorem SameModel.resolved {first second : String} (same : SameModel chrono first second) (compat : Bool)
    (fallback : InferenceProvider) (allowed : Option (List InferenceProvider)) :
    resolveUnifiedTargetProvider chrono compat fallback first allowed =
      resolveUnifiedTargetProvider chrono compat fallback second allowed := by
  obtain ⟨id, read, reread⟩ := same
  have provider : providerFromBareModel chrono first = providerFromBareModel chrono second := by
    rw [providerFromBareModel, providerFromBareModel, read, reread]
  simp only [resolveUnifiedTargetProvider, provider]

theorem SameModel.routed {first second : String} (same : SameModel chrono first second)
    (verdict : SameVerdict toLowercase first second) : RoutedAlike toLowercase chrono first second := by
  intro policy skipsAccess compat allowed
  have agree := verdict policy
  rw [unifiedChatProvider, unifiedChatProvider, same.resolved]
  cases skipsAccess with
  | true => rfl
  | false =>
    simp only [Bool.false_eq_true, if_false]
    generalize checkModelAccess toLowercase policy first = one at agree ⊢
    generalize checkModelAccess toLowercase policy second = other at agree ⊢
    cases one <;> cases other <;> first | rfl | cases agree

variable (toLowercase)

/-- Every policy treats two spellings of a model alike, and the unified API with it,
exactly when they differ in letter case only. -/
theorem spellings_agree_iff (first second : String) (same : SameModel chrono first second) :
    (SameVerdict toLowercase first second ∧ RoutedAlike toLowercase chrono first second) ↔
      toLowercase first = toLowercase second := by
  rw [← sameVerdict_iff]
  exact and_iff_left_of_imp same.routed

end Spellings

theorem capital_spelling_agrees :
    SameModel (ModelIds.Calendar.chrono 2026) "OpenAI/gpt-4o" "openai/gpt-4o" ∧
      SameVerdict asciiLowercase "OpenAI/gpt-4o" "openai/gpt-4o" := by
  have same : SameModel (ModelIds.Calendar.chrono 2026) "OpenAI/gpt-4o" "openai/gpt-4o" :=
    ⟨.modelIdWithVersion .openAI ⟨"gpt-4o", .implicitLatest⟩, by decide, by decide⟩
  exact ⟨same, ((spellings_agree_iff asciiLowercase _ _ same).mpr (by decide)).1⟩

/-- A model that is blocked under one of its provider's names is reached under another. -/
theorem alias_passes_block :
    ¬ ∀ first second, SameModel (ModelIds.Calendar.chrono 2026) first second →
      SameVerdict asciiLowercase first second := by
  intro agree
  have same : SameModel (ModelIds.Calendar.chrono 2026) "gemini/gemini-pro" "google/gemini-pro" :=
    ⟨.modelIdWithVersion .googleGemini ⟨"gemini-pro", .implicitLatest⟩, by decide, by decide⟩
  have verdicts := agree _ _ same (some ⟨none, some ["gemini/gemini-pro"]⟩)
  exact absurd verdicts (by decide)

end AiGateway.ModelPolicy
