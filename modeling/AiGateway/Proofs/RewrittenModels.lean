import AiGateway.ModelRewrites
import AiGateway.Lib.Entries
import AiGateway.Proofs.SupportedCandidates

/-! What the writing of another model does to a body that is JSON of any kind. -/

namespace AiGateway.ModelRewrites

open ContentFilter (Bytes setModel applyModelDowngrade)
open DefaultModel (ChooseError Pricing Catalogue chooseDefaultGatewayModel)
open ModelPolicy (VkPolicy)
open ModelSupport (JsonLibrary modelFieldFromJsonBody rewriteModelInBody setMember)

def isObject : Json → Bool
  | .object _ => true
  | _ => false

/-- Two objects that differ at most in their model. -/
structure SameButModel (value after : Json) : Prop where
  before : isObject value
  object : isObject after
  others : ∀ key, key ≠ "model" → after.get key = value.get key

/-- A helper does not panic, and what it returns is the body it got, or an object written from
that of the body with only the model changed. -/
def TotalAndLocal (json : JsonLibrary) (body : Bytes) (value : Json) (result : Except RewriteError Bytes) : Prop :=
  result ≠ .error .panicked ∧
    ∀ bytes, result = .ok bytes → bytes = body ∨ ∃ after, bytes = json.toVec after ∧ SameButModel value after

section Members
variable {members : List (String × Json)} {newModel : String}

theorem setModel_local : ∃ after, setModel (.object members) newModel = .ok after ∧ SameButModel (.object members) after := by
  refine ⟨_, rfl, rfl, rfl, ?_⟩
  intro key different
  show List.lookup key (_ ++ [("model", Json.string newModel)]) = members.lookup key
  have kept : List.lookup key (members.filter fun entry => entry.1 != "model") = members.lookup key :=
    Lib.Entries.lookup_filter_ne different
  have absent : List.lookup key [("model", Json.string newModel)] = none := by
    rw [List.lookup_cons, beq_false_of_ne different]
    rfl
  rw [List.lookup_append, absent, Option.or_none, ← kept]
  congr 1
  apply List.filter_congr
  intro member _
  by_cases named : member.1 = "model" <;> simp [named]

theorem setMember_local : SameButModel (.object members) (setMember (.object members) "model" (.string newModel)) := by
  refine ⟨rfl, rfl, ?_⟩
  intro key different
  exact Json.lookup_replaced_ne members "model" (.string newModel) different

end Members

section Helpers
variable {Price : Type} {around : Surroundings Price} {body : Bytes} {value : Json}

/-- An object with nothing but a model reads back as what it was written from. -/
def ReadsBack (json : JsonLibrary) : Prop :=
  ∀ newModel, json.fromSlice (json.toVec (.object [("model", .string newModel)])) =
    some (.object [("model", .string newModel)])

/-- A model written by index is written only into objects. A null becomes one, and the rest panics. -/
theorem written_iff (readsBack : ReadsBack around.json) (parsed : around.json.fromSlice body = some value)
    (newModel : String) :
    TotalAndLocal around.json body value
      (((setModel value newModel).mapError fun _ => RewriteError.panicked).map around.json.toVec) ↔ isObject value := by
  cases value with
  | object members =>
    obtain ⟨after, written, same⟩ : ∃ after, setModel (.object members) newModel = .ok after ∧ _ := setModel_local
    rw [written]
    refine iff_of_true ⟨by simp [Except.mapError, Except.map], ?_⟩ rfl
    intro bytes returned
    cases returned
    exact .inr ⟨after, rfl, same⟩
  | null =>
    refine iff_of_false ?_ (by simp [isObject])
    intro total
    obtain same | changed := total.2 _ rfl
    · have back := readsBack newModel
      rw [same, parsed] at back
      cases back
    · obtain ⟨after, _, same⟩ := changed
      exact absurd same.before (by simp [isObject])
  | _ =>
    refine iff_of_false ?_ (by simp [isObject])
    intro total
    exact total.1 rfl

theorem parseBody_ok (parsed : around.json.fromSlice body = some value) : parseBody around body = .ok value := by
  rw [parseBody]
  rw [parsed]
  rfl

theorem total_kept (json : JsonLibrary) (body : Bytes) (value : Json) : TotalAndLocal json body value (.ok body) := by
  refine ⟨nofun, ?_⟩
  intro bytes returned
  cases returned
  exact .inl rfl

theorem isObject_of_model {text : String} (found : modelFieldFromJsonBody around.json body = some text)
    (parsed : around.json.fromSlice body = some value) : isObject value := by
  rw [modelFieldFromJsonBody] at found
  rw [parsed, Option.bind_some] at found
  cases value with
  | object members => rfl
  | _ => cases found

theorem injectDefault_iff (readsBack : ReadsBack around.json) (parsed : around.json.fromSlice body = some value)
    (path : String) (vk : VkPolicy) :
    TotalAndLocal around.json body value (injectDefaultModelIntoBodyUnified around path body vk) ↔
      isObject value ∨
        ∃ error, chooseDefaultGatewayModel around.toLowercase around.pricing around.catalogue path vk = .error error := by
  rw [injectDefaultModelIntoBodyUnified]
  cases named : modelFieldFromJsonBody around.json body with
  | some text => exact iff_of_true (total_kept _ _ _) (.inl (isObject_of_model named parsed))
  | none =>
    cases choice : chooseDefaultGatewayModel around.toLowercase around.pricing around.catalogue path vk with
    | error error => exact iff_of_true ⟨nofun, nofun⟩ (.inr ⟨error, rfl⟩)
    | ok chosen =>
      rw [parseBody_ok parsed]
      have written := written_iff readsBack parsed chosen
      constructor
      · intro total
        exact .inl (written.mp total)
      · intro either
        obtain object | refused := either
        · exact written.mpr object
        · obtain ⟨error, refused⟩ := refused
          cases refused

theorem downgrade_iff (readsBack : ReadsBack around.json) (parsed : around.json.fromSlice body = some value)
    (newModel : String) :
    TotalAndLocal around.json body value ((Rewrite.downgrade newModel).run around body) ↔ isObject value := by
  unfold Rewrite.run applyModelDowngrade
  dsimp only
  rw [parsed]
  dsimp only
  have swapped : ((setModel value newModel).map around.json.toVec).mapError (fun _ => RewriteError.panicked) =
      ((setModel value newModel).mapError fun _ => RewriteError.panicked).map around.json.toVec := by
    cases setModel value newModel <;> rfl
  rw [swapped]
  exact written_iff readsBack parsed newModel

theorem chatCompletion_iff (readsBack : ReadsBack around.json) (parsed : around.json.fromSlice body = some value)
    (newModel : String) :
    TotalAndLocal around.json body value (rewriteChatCompletionModel around body newModel) ↔ isObject value := by
  rw [rewriteChatCompletionModel]
  rw [parseBody_ok parsed]
  exact written_iff readsBack parsed newModel

theorem rewriteModelInBody_eq (parsed : around.json.fromSlice body = some value) (resolved : String) :
    rewriteModelInBody around.json body resolved =
      (value.get "model").map fun _ => around.json.toVec (setMember value "model" (.string resolved)) := by
  rw [rewriteModelInBody]
  rw [parsed]
  show (value.get "model").bind _ = _
  cases value.get "model" <;> rfl

/-- The full name of a bare model is written only where a model stands. -/
theorem bareModel_local (parsed : around.json.fromSlice body = some value) (resolved : String) :
    TotalAndLocal around.json body value ((Rewrite.bareModel resolved).run around body) := by
  unfold Rewrite.run
  dsimp only
  rw [rewriteModelInBody_eq parsed]
  cases held : value.get "model" with
  | none => exact total_kept _ _ _
  | some model =>
    cases value with
    | object members =>
      refine ⟨nofun, ?_⟩
      intro bytes returned
      cases returned
      exact .inr ⟨_, rfl, setMember_local⟩
    | _ => cases held

/-- Each helper is total and local exactly on the objects, but for the one that looks for a
model first, and the one that may find none to write. -/
theorem rewrite_local_iff (readsBack : ReadsBack around.json) (parsed : around.json.fromSlice body = some value)
    (rewrite : Rewrite) :
    TotalAndLocal around.json body value (rewrite.run around body) ↔
      isObject value ∨ (∃ resolved, rewrite = .bareModel resolved) ∨
        ∃ path vk error, rewrite = .defaultModel path vk ∧
          chooseDefaultGatewayModel around.toLowercase around.pricing around.catalogue path vk = .error error := by
  cases rewrite with
  | defaultModel path vk =>
    rw [show (Rewrite.defaultModel path vk).run around body = injectDefaultModelIntoBodyUnified around path body vk from rfl,
      injectDefault_iff readsBack parsed path vk]
    simp
  | downgrade newModel =>
    rw [downgrade_iff readsBack parsed newModel]
    simp
  | chatCompletion newModel =>
    rw [show (Rewrite.chatCompletion newModel).run around body = rewriteChatCompletionModel around body newModel from rfl,
      chatCompletion_iff readsBack parsed newModel]
    simp
  | bareModel resolved => exact iff_of_true (bareModel_local parsed resolved) (.inr (.inl ⟨resolved, rfl⟩))

end Helpers

section Lists
open ModelSupport (modelBodies modelBody bodyStart fromSlice_modelBody)

def emptyList : Bytes := [91, 93]

/-- Bodies with nothing but a model, and the empty list. -/
def listBodies : JsonLibrary where
  fromSlice body := if body = emptyList then some (.array []) else modelBodies.fromSlice body
  toVec := modelBodies.toVec

def listSurroundings : Surroundings Nat where
  json := listBodies
  toLowercase := ModelPolicy.asciiLowercase
  pricing := ⟨fun _ => 0, 0, fun _ _ => true⟩
  catalogue := ⟨false, .ok [], .ok [], ModelPolicy.asciiLowercase, []⟩

theorem modelBody_ne_emptyList (model : String) : modelBody model ≠ emptyList := by
  intro same
  have lengths := congrArg List.length same
  rw [modelBody] at lengths
  rw [List.length_append, List.length_append, show bodyStart.length = 10 by decide +kernel] at lengths
  change _ = 2 at lengths
  omega

theorem listBodies_readsBack : ReadsBack listBodies := by
  intro newModel
  show (if modelBody newModel = emptyList then some (Json.array []) else modelBodies.fromSlice (modelBody newModel)) = _
  rw [if_neg (modelBody_ne_emptyList newModel), fromSlice_modelBody]

theorem object_body_rewritten :
    TotalAndLocal listBodies (modelBody "gpt-4o") (.object [("model", .string "gpt-4o")])
      ((Rewrite.downgrade "gpt-4o-mini").run listSurroundings (modelBody "gpt-4o")) :=
  (@rewrite_local_iff Nat listSurroundings _ _ listBodies_readsBack (listBodies_readsBack "gpt-4o") _).mpr (.inl rfl)

/-- A body that is a list ends the request in a panic when the policy names another model for it. -/
theorem list_body_panics :
    listBodies.fromSlice emptyList = some (.array []) ∧
      (Rewrite.downgrade "gpt-4o-mini").run listSurroundings emptyList = .error .panicked ∧
      ¬ TotalAndLocal listBodies emptyList (.array [])
        ((Rewrite.downgrade "gpt-4o-mini").run listSurroundings emptyList) := by
  have panics : (Rewrite.downgrade "gpt-4o-mini").run listSurroundings emptyList = .error .panicked := rfl
  refine ⟨rfl, panics, ?_⟩
  intro total
  exact total.1 panics

end Lists

end AiGateway.ModelRewrites
