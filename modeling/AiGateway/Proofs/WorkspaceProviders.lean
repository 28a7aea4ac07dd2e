import AiGateway.WorkspaceAllowlist
import AiGateway.Lib.Entries

/-! What the snapshot of the allow-lists grants, against the tables it is read from. -/

namespace AiGateway.WorkspaceAllowlist

open ProviderReload (DbGatewayProvider)

/-- The providers of a workspace in the snapshot. -/
def allowedOf (map : WorkspaceProviderAllowlist) (workspaceId : Uuid) : List InferenceProvider :=
  (map.lookup workspaceId).getD []

section Snapshot
variable {map : WorkspaceProviderAllowlist} {workspaceId : Uuid} {provider : InferenceProvider}

theorem lookup_insert (other : Uuid) :
    (insert map other provider).lookup workspaceId =
      if workspaceId = other then
        some (if (allowedOf map other).contains provider then allowedOf map other else allowedOf map other ++ [provider])
      else map.lookup workspaceId := by
  unfold insert
  by_cases same : workspaceId = other
  · subst same
    simp [allowedOf]
  · rw [List.lookup_cons, beq_false_of_ne same, if_neg same]
    exact Lib.Entries.lookup_filter_ne same

theorem mem_allowedOf_insert (other : Uuid) (added : InferenceProvider) :
    provider ∈ allowedOf (insert map other added) workspaceId ↔
      provider ∈ allowedOf map workspaceId ∨ (workspaceId = other ∧ provider = added) := by
  conv_lhs => rw [allowedOf, lookup_insert]
  by_cases same : workspaceId = other
  · subst same
    rw [if_pos rfl, Option.getD_some]
    by_cases present : (allowedOf map workspaceId).contains added = true
    · rw [if_pos present]
      rw [List.contains_iff_mem] at present
      grind
    · rw [if_neg present]
      simp
  · simp [same, allowedOf]

/-- The snapshot holds the readable providers of the rows it was collected from. -/
theorem mem_allowedOf_collect (rows : List (Uuid × String)) :
    provider ∈ allowedOf (rows.foldl collect map) workspaceId ↔
      provider ∈ allowedOf map workspaceId ∨
        ∃ row ∈ rows, row.1 = workspaceId ∧ InferenceProvider.fromProviderCode row.2.toList = some provider := by
  induction rows generalizing map with
  | nil => simp
  | cons row rest ih =>
    rw [List.foldl_cons, ih]
    cases read : InferenceProvider.fromProviderCode row.2.toList with
    | none => simp [collect, read]
    | some added =>
      rw [collect, read, mem_allowedOf_insert]
      grind

theorem isProviderAllowed_iff :
    isProviderAllowedForWorkspace map workspaceId provider = true ↔
      allowedOf map workspaceId = [] ∨ provider ∈ allowedOf map workspaceId := by
  unfold isProviderAllowedForWorkspace allowedOf
  by_cases nothing : map.isEmpty = true
  · rw [if_pos nothing, List.isEmpty_iff.mp nothing]
    simp
  · rw [if_neg nothing]
    cases map.lookup workspaceId with
    | none => simp
    | some allowed => simp [List.isEmpty_iff, or_iff_not_imp_left]

end Snapshot

section Tables
variable (db : Database) (workspaceId : Uuid) (provider : InferenceProvider)

/-- Some row of the workspace is enabled, for an enabled provider of that name. -/
def Enabled : Prop :=
  ∃ config ∈ db.providerConfigs, config.workspaceId = workspaceId ∧ config.enabled = true ∧
    ∃ row ∈ db.providers, row.id = config.providerId ∧ row.enabled = true ∧
      InferenceProvider.fromProviderCode row.code.toList = some provider

def HasRows : Prop := ∃ config ∈ db.providerConfigs, config.workspaceId = workspaceId

variable {db workspaceId provider}

theorem mem_enabledRows {code : String} :
    (workspaceId, code) ∈ enabledRows db ↔
      ∃ config ∈ db.providerConfigs, config.workspaceId = workspaceId ∧ config.enabled = true ∧
        ∃ row ∈ db.providers, row.id = config.providerId ∧ row.enabled = true ∧ row.code = code := by
  simp only [enabledRows, List.mem_flatMap, List.mem_map, List.mem_filter, Bool.and_eq_true, beq_iff_eq, Prod.mk.injEq]
  grind

theorem mem_allowlist_iff :
    provider ∈ allowedOf (getWorkspaceProviderAllowlist db) workspaceId ↔ Enabled db workspaceId provider := by
  rw [getWorkspaceProviderAllowlist, mem_allowedOf_collect]
  constructor
  · rintro (impossible | ⟨⟨workspace, code⟩, member, same, read⟩)
    · exact absurd impossible List.not_mem_nil
    · obtain rfl : workspace = workspaceId := same
      obtain ⟨config, inside, same, on, row, listed, id, rowOn, rfl⟩ := mem_enabledRows.mp member
      exact ⟨config, inside, same, on, row, listed, id, rowOn, read⟩
  · intro ⟨config, inside, same, on, row, listed, id, rowOn, read⟩
    right
    exact ⟨(workspaceId, row.code), mem_enabledRows.mpr ⟨config, inside, same, on, row, listed, id, rowOn, rfl⟩, rfl, read⟩

theorem Enabled.hasRows (enabled : Enabled db workspaceId provider) : HasRows db workspaceId := by
  obtain ⟨config, inside, same, _⟩ := enabled
  exact ⟨config, inside, same⟩

/-- The snapshot cannot tell a workspace whose rows all fall away from one without rows. -/
theorem isProviderAllowed_allowlist :
    isProviderAllowedForWorkspace (getWorkspaceProviderAllowlist db) workspaceId provider = true ↔
      (∀ other, ¬ Enabled db workspaceId other) ∨ Enabled db workspaceId provider := by
  rw [isProviderAllowed_iff, mem_allowlist_iff, List.eq_nil_iff_forall_not_mem]
  simp only [mem_allowlist_iff]

end Tables

/-- A workspace is granted exactly its enabled providers, or all without rows, if and only if
it has no rows or one that counts. -/
theorem workspace_allowlist_closed_iff (db : Database) (workspaceId : Uuid) (provider : InferenceProvider) :
    (isProviderAllowedForWorkspace (getWorkspaceProviderAllowlist db) workspaceId provider = true ↔
      ¬ HasRows db workspaceId ∨ Enabled db workspaceId provider) ↔
    (¬ HasRows db workspaceId ∨ ∃ other, Enabled db workspaceId other) := by
  rw [isProviderAllowed_allowlist]
  constructor
  · intro closed
    by_contra uncounted
    obtain ⟨rows, none⟩ := not_or.mp uncounted
    have granted := closed.mp (.inl fun other enabled => none ⟨other, enabled⟩)
    obtain absent | enabled := granted
    · exact rows absent
    · exact none ⟨provider, enabled⟩
  · rintro (absent | ⟨other, enabled⟩)
    · have nothing : ∀ other, ¬ Enabled db workspaceId other := fun other enabled => absent enabled.hasRows
      exact ⟨fun _ => .inl absent, fun _ => .inl nothing⟩
    · have present := enabled.hasRows
      constructor
      · rintro (nothing | granted)
        · exact absurd enabled (nothing other)
        · exact .inr granted
      · rintro (absent | granted)
        · exact absurd present absent
        · exact .inr granted

/-- One workspace whose only row is disabled. -/
def switchedOff : Database := ⟨[⟨1, "openai", none, false, true, 0⟩], [⟨7, 1, false⟩]⟩

theorem switchedOff_nothing (provider : InferenceProvider) : ¬ Enabled switchedOff 7 provider := by
  intro ⟨config, inside, _, on, _⟩
  obtain rfl := List.mem_singleton.mp inside
  cases on

theorem switchedOff_allows_all :
    isProviderAllowedForWorkspace (getWorkspaceProviderAllowlist switchedOff) 7 .openAI = true ∧
      ¬ (isProviderAllowedForWorkspace (getWorkspaceProviderAllowlist switchedOff) 7 .openAI = true ↔
        ¬ HasRows switchedOff 7 ∨ Enabled switchedOff 7 .openAI) := by
  have allowed : isProviderAllowedForWorkspace (getWorkspaceProviderAllowlist switchedOff) 7 .openAI = true := by decide
  refine ⟨allowed, ?_⟩
  intro closed
  obtain absent | enabled := closed.mp allowed
  · exact absent ⟨⟨7, 1, false⟩, List.mem_singleton.mpr rfl, rfl⟩
  · exact switchedOff_nothing .openAI enabled

end AiGateway.WorkspaceAllowlist
