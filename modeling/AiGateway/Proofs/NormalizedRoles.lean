import AiGateway.ChatRoles

/-! What the mending of roles does to each of them, and to nothing else. -/

namespace AiGateway.ChatRoles

open Json (overText overText_overText asStr_overText)

section Walk

def overItems (change : Json → Json) : Json → Json
  | .array items => .array (items.map change)
  | other => other

/-- A change of the role of one choice. -/
def overRole (key : String) (change : String → String) (choice : Json) : Json :=
  choice.modify key fun container => container.modify "role" (overText change)

/-- A change of every role that stands under the choices. -/
def overRoles (key : String) (change : String → String) (root : Json) : Json :=
  root.modify "choices" (overItems (overRole key change))

/-- The roles that stand under the choices. -/
def roleTexts (key : String) (root : Json) : List String :=
  (((root.get "choices").bind Json.asArray).getD []).filterMap (roleText key)

variable {key : String} {change : String → String}

theorem overItems_overItems (first again : Json → Json) (value : Json) :
    overItems again (overItems first value) = overItems (again ∘ first) value := by
  cases value with
  | array items => exact congrArg Json.array List.map_map
  | _ => rfl

theorem overRole_overRole (again : String → String) (choice : Json) :
    overRole key again (overRole key change choice) = overRole key (again ∘ change) choice := by
  unfold overRole
  rw [Json.modify_modify]
  apply Json.modify_congr
  intro container _
  show (container.modify "role" _).modify "role" _ = _
  rw [Json.modify_modify]
  apply Json.modify_congr
  intro role _
  exact overText_overText change again role

theorem overRoles_overRoles (again : String → String) (root : Json) :
    overRoles key again (overRoles key change root) = overRoles key (again ∘ change) root := by
  unfold overRoles
  rw [Json.modify_modify]
  apply Json.modify_congr
  intro choices _
  show overItems _ (overItems _ choices) = _
  rw [overItems_overItems]
  congr 1
  funext choice
  exact overRole_overRole again choice

theorem roleText_overRole (choice : Json) : roleText key (overRole key change choice) = (roleText key choice).map change := by
  unfold roleText overRole Json.getStr
  rw [Json.get_modify_self, Option.bind_map, Option.map_bind]
  congr 1
  funext container
  show ((container.modify "role" _).get "role").bind Json.asStr = _
  rw [Json.get_modify_self, Option.bind_map, Function.comp_apply, Option.map_bind]
  congr 1
  funext role
  exact asStr_overText change role

theorem asArray_overItems (first : Json → Json) (value : Json) :
    (overItems first value).asArray = value.asArray.map (List.map first) := by
  cases value <;> rfl

theorem roleTexts_overRoles (root : Json) : roleTexts key (overRoles key change root) = (roleTexts key root).map change := by
  unfold roleTexts overRoles
  rw [Json.get_modify_self]
  cases root.get "choices" with
  | none => rfl
  | some choices =>
    rw [Option.map_some, Option.bind_some, asArray_overItems, Option.bind_some]
    cases choices.asArray with
    | none => rfl
    | some items =>
      show (items.map _).filterMap _ = (items.filterMap _).map _
      rw [List.filterMap_map, List.map_filterMap]
      apply List.filterMap_congr
      intro choice _
      exact roleText_overRole choice

theorem roleText_eq_some {choice container role : Json} {text : String} (found : roleText key choice = some text)
    (inside : choice.get key = some container) (slot : container.get "role" = some role) : role = .string text := by
  unfold roleText Json.getStr at found
  rw [inside, Option.bind_some, slot, Option.bind_some] at found
  cases role <;> cases found
  rfl

theorem overRole_of_some {choice : Json} {text : String} (found : roleText key choice = some text) :
    overRole key change choice = setRole key choice (change text) := by
  rw [overRole, setRole]
  apply Json.modify_congr
  intro container inside
  apply Json.modify_congr
  intro role slot
  rw [roleText_eq_some found inside slot]
  rfl

theorem setRole_self {choice : Json} {text : String} (found : roleText key choice = some text) :
    setRole key choice text = choice := by
  rw [setRole]
  apply Json.modify_eq_self
  intro container inside
  apply Json.modify_eq_self
  intro role slot
  exact (roleText_eq_some found inside slot).symm

theorem overRole_of_none {choice : Json} (absent : roleText key choice = none) : overRole key change choice = choice := by
  unfold overRole
  apply Json.modify_eq_self
  intro container inside
  apply Json.modify_eq_self
  intro role slot
  unfold roleText Json.getStr at absent
  rw [inside, Option.bind_some, slot, Option.bind_some] at absent
  cases role with
  | string text => cases absent
  | _ => rfl

end Walk

section Normalize

/-- What becomes of a role. -/
def normalizeRole (text : String) : String :=
  if (trim text.toList).isEmpty then "assistant"
  else if allowedRoles.any fun role => role.toList = trim text.toList then text
  else "assistant"

theorem normalizeChoice_eq (key : String) (choice : Json) (stats : NormalizeRoleStats) :
    (normalizeChoice key choice stats).1 = overRole key normalizeRole choice := by
  rw [normalizeChoice]
  split
  · next absent => exact (overRole_of_none absent).symm
  · next text found =>
    rw [overRole_of_some found]
    rw [normalizeRole]
    dsimp only
    split
    · rfl
    · split
      · exact (setRole_self found).symm
      · rfl

theorem normalizeChoices_eq (key : String) (choices : List Json) (stats : NormalizeRoleStats) :
    (normalizeChoices key choices stats).1 = choices.map (overRole key normalizeRole) := by
  induction choices generalizing stats with
  | nil => rfl
  | cons choice rest ih =>
    show (normalizeChoice key choice stats).1 :: (normalizeChoices key rest _).1 = _
    rw [normalizeChoice_eq, ih]
    rfl

/-- The mending is a change of each role by itself. -/
theorem normalize_eq (root : Json) (streamChunk : Bool) :
    (normalizeChatCompletionRolesInPlace root streamChunk).1 = overRoles (containerKey streamChunk) normalizeRole root := by
  rw [normalizeChatCompletionRolesInPlace, overRoles]
  split
  · next absent =>
    symm
    apply Json.modify_eq_self
    intro choices held
    rw [held, Option.bind_some] at absent
    cases choices with
    | array items => cases absent
    | _ => rfl
  · next choices found =>
    show root.modify "choices" (fun _ => .array (normalizeChoices _ choices {}).1) = _
    apply Json.modify_congr
    intro value held
    rw [held, Option.bind_some] at found
    cases value <;> cases found
    rw [normalizeChoices_eq]
    rfl

theorem assistant_mem : "assistant" ∈ allowedRoles := by decide

/-- The allowed roles have nothing to trim. -/
theorem trim_allowed {role : String} (allowed : role ∈ allowedRoles) : trim role.toList = role.toList := by
  have every : ∀ role ∈ allowedRoles, trim role.toList = role.toList := by decide +kernel
  exact every role allowed

theorem any_allowed {trimmed : List Char} :
    (allowedRoles.any fun role => role.toList = trimmed) = true ↔ String.ofList trimmed ∈ allowedRoles := by
  rw [List.any_eq_true]
  constructor
  · intro found
    obtain ⟨role, allowed, same⟩ := found
    rw [← of_decide_eq_true same, String.ofList_toList]
    exact allowed
  · intro allowed
    exact ⟨_, allowed, by simp⟩

theorem normalizeRole_normalizeRole (text : String) : normalizeRole (normalizeRole text) = normalizeRole text := by
  have settled : normalizeRole "assistant" = "assistant" := by decide
  by_cases same : normalizeRole text = text
  · rw [same, same]
  · have mended : normalizeRole text = "assistant" := by
      rw [normalizeRole] at same ⊢
      split
      · rfl
      · split
        · next empty allowed => simp [empty, allowed] at same
        · rfl
    rw [mended, settled]

/-- What a mended role is: an allowed one, unless only its trimmed text is. -/
theorem normalizeRole_mem_iff (text : String) :
    normalizeRole text ∈ allowedRoles ↔ (String.ofList (trim text.toList) ∈ allowedRoles → text ∈ allowedRoles) := by
  rw [normalizeRole]
  split
  · next empty =>
    have blank : String.ofList (trim text.toList) ∉ allowedRoles := by
      rw [List.isEmpty_iff.mp empty]
      decide
    simp [assistant_mem, blank]
  · split
    · next found =>
      simp [any_allowed.mp found]
    · next missing =>
      have other : String.ofList (trim text.toList) ∉ allowedRoles := by
        intro allowed
        exact missing (any_allowed.mpr allowed)
      simp [assistant_mem, other]

/-- Every role under the choices is an allowed one, a second mending changes nothing, and the
value is the same as before once the roles are left out of it. -/
def Normalized (root : Json) (streamChunk : Bool) : Prop :=
  let key := containerKey streamChunk
  let normalized := (normalizeChatCompletionRolesInPlace root streamChunk).1
  (∀ role ∈ roleTexts key normalized, role ∈ allowedRoles) ∧
    (normalizeChatCompletionRolesInPlace normalized streamChunk).1 = normalized ∧
    overRoles key (fun _ => "") normalized = overRoles key (fun _ => "") root

/-- The mending does all it should where no role is an allowed one with blanks around it. -/
theorem normalized_iff (root : Json) (streamChunk : Bool) :
    Normalized root streamChunk ↔ ∀ role ∈ roleTexts (containerKey streamChunk) root,
      String.ofList (trim role.toList) ∈ allowedRoles → String.ofList (trim role.toList) = role := by
  have trimmed (role : String) : (String.ofList (trim role.toList) ∈ allowedRoles → role ∈ allowedRoles) ↔
      (String.ofList (trim role.toList) ∈ allowedRoles → String.ofList (trim role.toList) = role) := by
    constructor
    · intro kept allowed
      rw [trim_allowed (kept allowed), String.ofList_toList]
    · intro same allowed
      rw [← same allowed]
      exact allowed
  have again : normalizeRole ∘ normalizeRole = normalizeRole := by
    funext text
    rw [Function.comp_apply, normalizeRole_normalizeRole]
  unfold Normalized
  dsimp only
  rw [normalize_eq, normalize_eq, overRoles_overRoles, overRoles_overRoles, again, roleTexts_overRoles]
  simp only [List.forall_mem_map, normalizeRole_mem_iff, trimmed]
  exact ⟨fun holds => holds.1, fun holds => ⟨holds, trivial, rfl⟩⟩

def paddedRole : Json :=
  .object [("choices", .array [.object [("message", .object [("role", .string " assistant"), ("content", .string "hi")])]])]

/-- The role with a blank before it passes the test and stays, and is none of the allowed. -/
theorem padded_role_kept : ¬ Normalized paddedRole false := by
  intro normalized
  have kept : " assistant" ∈ roleTexts (containerKey false) (normalizeChatCompletionRolesInPlace paddedRole false).1 := by
    rw [normalize_eq, roleTexts_overRoles]
    decide +kernel
  exact absurd (normalized.1 " assistant" kept) (by decide)

end Normalize

end AiGateway.ChatRoles
