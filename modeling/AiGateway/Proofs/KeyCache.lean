import AiGateway.VirtualKeyStore
import Mathlib.Data.List.Nodup
import Mathlib.Data.List.Induction

/-! Facts about the rows of the table and the keys in memory that the polls and the
lookups share. -/

namespace AiGateway.VirtualKeyStore

section Table
variable {table : Table}

theorem mem_write {vk row : DbVirtualKey} :
    row ∈ table.write vk ↔ (row ∈ table ∧ row.keyHash ≠ vk.keyHash) ∨ row = vk := by
  simp [Table.write]

theorem distinct_write (distinct : (table.map DbVirtualKey.keyHash).Nodup) (vk : DbVirtualKey) :
    ((table.write vk).map DbVirtualKey.keyHash).Nodup := by
  rw [Table.write, List.map_append]
  apply List.nodup_append.mpr
  refine ⟨?_, List.pairwise_singleton _ _, ?_⟩
  · exact distinct.sublist (List.filter_sublist.map _)
  · intro keyHash kept other added equal
    obtain ⟨row, member, rfl⟩ := List.mem_map.mp kept
    have different := (List.mem_filter.mp member).2
    rw [List.map_singleton, List.mem_singleton] at added
    simp [equal.trans added] at different

theorem row_unique (distinct : (table.map DbVirtualKey.keyHash).Nodup) {row other : DbVirtualKey} (member : row ∈ table)
    (inside : other ∈ table) (same : row.keyHash = other.keyHash) : row = other :=
  List.inj_on_of_nodup_map distinct member inside same

theorem mem_updatedAfter {since : Nat} {row : DbVirtualKey} :
    row ∈ table.updatedAfter since ↔ row ∈ table ∧ since < row.updatedAt := by
  simp [Table.updatedAfter]

theorem byKeyHash_some {keyHash : String} {vk : DbVirtualKey} (found : table.byKeyHash keyHash = some vk) :
    vk ∈ table ∧ vk.keyHash = keyHash ∧ vk.isActive = true := by
  have named := List.find?_some found
  simp only [Bool.and_eq_true, beq_iff_eq] at named
  exact ⟨List.mem_of_find?_eq_some found, named⟩

end Table

section Cache
variable (system : System) (vk : DbVirtualKey)

theorem check_set_self {found : DbVirtualKey} (held : (system.setVirtualKey vk).checkVirtualKey vk.keyHash = some found) :
    found = vk := by
  rcases cache : system.cache with _ | map
  · simp [System.checkVirtualKey, System.setVirtualKey, cache] at held
  · simpa [System.checkVirtualKey, System.setVirtualKey, cache] using held.symm

theorem check_set_other {keyHash : String} (different : keyHash ≠ vk.keyHash) :
    (system.setVirtualKey vk).checkVirtualKey keyHash = system.checkVirtualKey keyHash := by
  rcases cache : system.cache with _ | map
  · simp [System.checkVirtualKey, System.setVirtualKey, cache]
  · simp [System.checkVirtualKey, System.setVirtualKey, cache, Function.update_of_ne different]

theorem check_remove_self (keyHash : String) : (system.removeVirtualKey keyHash).checkVirtualKey keyHash = none := by
  rcases cache : system.cache with _ | map
  · simp [System.checkVirtualKey, System.removeVirtualKey, cache]
  · simp [System.checkVirtualKey, System.removeVirtualKey, cache]

theorem check_remove_other {keyHash removed : String} (different : keyHash ≠ removed) :
    (system.removeVirtualKey removed).checkVirtualKey keyHash = system.checkVirtualKey keyHash := by
  rcases cache : system.cache with _ | map
  · simp [System.checkVirtualKey, System.removeVirtualKey, cache]
  · simp [System.checkVirtualKey, System.removeVirtualKey, cache, Function.update_of_ne different]

theorem loadCache_some {rows : List DbVirtualKey} {keyHash : String} {vk : DbVirtualKey}
    (held : loadCache rows keyHash = some vk) : vk ∈ rows ∧ vk.keyHash = keyHash := by
  rw [loadCache] at held
  induction rows using List.reverseRecOn with
  | nil => cases held
  | append_singleton rows last ih =>
    rw [List.foldl_append, List.foldl_cons, List.foldl_nil] at held
    by_cases same : keyHash = last.keyHash
    · subst same
      rw [Function.update_self] at held
      cases held
      simp
    · rw [Function.update_of_ne same] at held
      obtain ⟨member, named⟩ := ih held
      exact ⟨List.mem_append_left _ member, named⟩

/-- A row is skipped when one at least as late was processed; otherwise it is taken over
or its key is removed. -/
theorem processRow_cases :
    (system.processRow vk = system ∧ ∃ seen, system.lastSeen vk.keyHash = some seen ∧ vk.updatedAt ≤ seen) ∨
      (vk.isActive = true ∧ system.processRow vk =
        { system.setVirtualKey vk with lastSeen := Function.update system.lastSeen vk.keyHash (some vk.updatedAt) }) ∨
      (vk.isActive = false ∧ system.processRow vk =
        { system.removeVirtualKey vk.keyHash with lastSeen := Function.update system.lastSeen vk.keyHash none }) := by
  have active : vk.isActive = !(vk.deletedAt.isSome || vk.status != "active") := by
    cases deleted : vk.deletedAt <;> simp [DbVirtualKey.isActive, deleted, bne]
  unfold System.processRow classifyVirtualKeyUpdate
  rcases seen : system.lastSeen vk.keyHash with _ | last
  · cases gone : (vk.deletedAt.isSome || vk.status != "active") <;> simp [active, gone]
  · by_cases newer : last < vk.updatedAt
    · have later := Nat.not_le.mpr newer
      cases gone : (vk.deletedAt.isSome || vk.status != "active") <;> simp [active, gone, later]
    · simp [Nat.le_of_not_lt newer]

@[simp] theorem processRow_table : (system.processRow vk).table = system.table := by
  rw [System.processRow]
  split <;> rfl

@[simp] theorem processRow_lookups : (system.processRow vk).lookups = system.lookups := by
  rw [System.processRow]
  split <;> rfl

@[simp] theorem processRow_unread : (system.processRow vk).unread = system.unread := by
  rw [System.processRow]
  split <;> rfl

@[simp] theorem processRow_lastPollTime : (system.processRow vk).lastPollTime = system.lastPollTime := by
  rw [System.processRow]
  split <;> rfl

end Cache

/-- Everything a step can do: the database's writers, the listener, the lookups. -/
inductive Moved (system : System) : Event → System → Prop where
  | updated (vk : DbVirtualKey) :
      Moved system (.update vk) { system with table := system.table.write vk, unread := vk :: system.unread }
  | began (idle : system.poll = .idle) : Moved system .beginPoll { system with poll := .started }
  | queried {since : Nat} {rows : List DbVirtualKey} (started : system.poll = .started)
      (polled : system.lastPollTime = some since) (fetched : rows.Perm (system.table.updatedAfter since)) :
      Moved system (.query rows) { system with poll := .processing rows, unread := [] }
  | unqueried (started : system.poll = .started) (first : system.lastPollTime = none) :
      Moved system (.query []) { system with poll := .processing [] }
  | processed {vk : DbVirtualKey} {rows : List DbVirtualKey} (fetched : system.poll = .processing (vk :: rows)) :
      Moved system .process { system.processRow vk with poll := .processing rows }
  | failed (busy : system.poll ≠ .idle) : Moved system .failPoll { system with poll := .idle }
  | finished {time : Nat} (done : system.poll = .processing []) :
      Moved system (.finishPoll time) { system with poll := .idle, lastPollTime := some time }
  | asked (keyHash : String) :
      Moved system (.lookup keyHash) { system with lookups := system.lookups ++ [.started keyHash] }
  | held {index : Nat} {keyHash : String} {vk : DbVirtualKey} (found : system.lookups[index]? = some (.started keyHash))
      (cached : system.checkVirtualKey keyHash = some vk) :
      Moved system (.checkMemory index) (system.moveLookup index (.returned keyHash (some vk)))
  | missed {index : Nat} {keyHash : String} (found : system.lookups[index]? = some (.started keyHash))
      (absent : system.checkVirtualKey keyHash = none) :
      Moved system (.checkMemory index) (system.moveLookup index (.missed keyHash))
  | loaded {index : Nat} {keyHash : String} {vk : DbVirtualKey} (found : system.lookups[index]? = some (.missed keyHash))
      (row : system.table.byKeyHash keyHash = some vk) :
      Moved system (.readRow index true) (system.moveLookup index (.loaded vk))
  | uncached {index : Nat} {keyHash : String} (found : system.lookups[index]? = some (.started keyHash)) :
      Moved system (.checkMemory index) (system.moveLookup index (.returned keyHash none))
  | unknown {index : Nat} {keyHash : String} {ok : Bool} (found : system.lookups[index]? = some (.missed keyHash)) :
      Moved system (.readRow index ok) (system.moveLookup index (.returned keyHash none))
  | inserted {index : Nat} {vk : DbVirtualKey} (found : system.lookups[index]? = some (.loaded vk)) :
      Moved system (.insert index) ((system.setVirtualKey vk).moveLookup index (.returned vk.keyHash (some vk)))

theorem step_moved {system next : System} {event : Event} (taken : step system event = some next) :
    Moved system event next := by
  cases event with
  | update vk => cases taken; exact .updated vk
  | beginPoll =>
    simp only [step] at taken
    split at taken
    next idle => cases taken; exact .began idle
    next => cases taken
  | query rows =>
    simp only [step] at taken
    split at taken
    next since started polled =>
      split at taken
      next permuted => cases taken; exact .queried started polled (List.isPerm_iff.mp permuted)
      next => cases taken
    next started first =>
      split at taken
      next empty => subst empty; cases taken; exact .unqueried started first
      next => cases taken
    next => cases taken
  | process =>
    simp only [step] at taken
    split at taken
    next fetched => cases taken; exact .processed fetched
    next => cases taken
  | failPoll =>
    simp only [step] at taken
    split at taken
    next => cases taken
    next busy => cases taken; exact .failed fun idle => busy idle
  | finishPoll time =>
    simp only [step] at taken
    split at taken
    next done => cases taken; exact .finished done
    next => cases taken
  | lookup keyHash => cases taken; exact .asked keyHash
  | checkMemory index =>
    simp only [step] at taken
    split at taken
    next keyHash found =>
      split at taken
      next vk cached => cases taken; exact .held found cached
      next absent =>
        split at taken
        next => cases taken; exact .uncached found
        next => cases taken; exact .missed found absent
    next => cases taken
  | readRow index ok =>
    simp only [step] at taken
    split at taken
    next keyHash found =>
      split at taken
      next vk row =>
        cases ok with
        | true => cases taken; exact .loaded found row
        | false => cases row
      next => cases taken; exact .unknown found
    next => cases taken
  | insert index =>
    simp only [step] at taken
    split at taken
    next vk found => cases taken; exact .inserted found
    next => cases taken

end AiGateway.VirtualKeyStore
