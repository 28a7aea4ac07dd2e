import AiGateway.MasterKeyCache

/-! Whether a lookup of a master key that starts after an invalidation sees the row as it
is then. -/

namespace AiGateway.MasterKeyCache

open Lib Lib.Runs

section Table
variable {cipher : Cipher} {table : Table} {row : DbMasterKeyRow} {id : Uuid}

theorem getMasterKeyRow_write_other (other : row.id ≠ id) :
    (table.write row).getMasterKeyRow id = table.getMasterKeyRow id := by
  have skipped : (row.id == id && row.deletedAt.isNone && row.status == "active") = false := by
    simp [beq_false_of_ne other]
  simp only [Table.getMasterKeyRow, Table.write, List.find?_append, List.find?_singleton, skipped, List.find?_filter,
    Bool.false_eq_true, if_false, Option.or_none]
  congr 1
  funext present
  by_cases here : present.id = id
  · rw [Bool.eq_iff_iff]
    simp [here, other.symm]
  · simp [here]

theorem resolve_write_other (other : row.id ≠ id) : resolve cipher (table.write row) id = resolve cipher table id := by
  simp only [resolve, getMasterKeyRow_write_other other]

end Table

/-- Everything a step can do. -/
inductive Moved (cipher : Cipher) (lru : Lru Uuid DecryptedMasterKey) (system : System lru) : Event → System lru → Prop where
  | updated (row : DbMasterKeyRow) : Moved cipher lru system (.update row) { system with table := system.table.write row }
  | invalidated (id : Uuid) : Moved cipher lru system (.invalidate id) { system with cache := lru.pop system.cache id }
  | asked (id : Uuid) : Moved cipher lru system (.get id) { system with gets := system.gets ++ [.started id] }
  | hit {index : Nat} {id : Uuid} {entry : DecryptedMasterKey} (found : system.gets[index]? = some (.started id))
      (cached : lru.peek system.cache id = some entry) :
      Moved cipher lru system (.readCache index)
        { system.moveGet index (.returned id (.ok entry)) with cache := (lru.get system.cache id).2 }
  | missed {index : Nat} {id : Uuid} (found : system.gets[index]? = some (.started id)) :
      Moved cipher lru system (.readCache index)
        { system.moveGet index (.missed id) with cache := (lru.get system.cache id).2 }
  | loaded {index : Nat} {id : Uuid} {entry : DecryptedMasterKey} (found : system.gets[index]? = some (.missed id))
      (resolved : resolve cipher system.table id = .ok entry) :
      Moved cipher lru system (.fetchRow index true) (system.moveGet index (.loaded id entry))
  | refused {index : Nat} {id : Uuid} {error : MasterKeyCacheError} (found : system.gets[index]? = some (.missed id))
      (resolved : resolve cipher system.table id = .error error) :
      Moved cipher lru system (.fetchRow index true) (system.moveGet index (.returned id (.error error)))
  | failed {index : Nat} {id : Uuid} (found : system.gets[index]? = some (.missed id)) :
      Moved cipher lru system (.fetchRow index false) (system.moveGet index (.returned id (.error .db)))
  | stored {index : Nat} {id : Uuid} {entry : DecryptedMasterKey} (found : system.gets[index]? = some (.loaded id entry)) :
      Moved cipher lru system (.put index)
        { system.moveGet index (.returned id (.ok entry)) with cache := lru.put system.cache id entry }

section Steps
variable {cipher : Cipher} {lru : Lru Uuid DecryptedMasterKey} {system : System lru} {id : Uuid}

theorem step_moved {next : System lru} {event : Event} (taken : step cipher lru system event = some next) :
    Moved cipher lru system event next := by
  cases event with
  | update row => cases taken; exact .updated row
  | invalidate id => cases taken; exact .invalidated id
  | get id => cases taken; exact .asked id
  | readCache index =>
    simp only [step, lru.get_fst] at taken
    split at taken
    next id found =>
      split at taken
      next entry cached => cases taken; exact .hit found cached
      next => cases taken; exact .missed found
    next => cases taken
  | fetchRow index ok =>
    simp only [step] at taken
    split at taken
    next id found =>
      cases ok with
      | true =>
        simp only [if_true] at taken
        split at taken
        next entry resolved => cases taken; exact .loaded found resolved
        next error resolved => cases taken; exact .refused found resolved
      | false => cases taken; exact .failed found
    next => cases taken
  | put index =>
    simp only [step] at taken
    split at taken
    next id entry found => cases taken; exact .stored found
    next => cases taken

/-- The cached entry of the key, and every one that a lookup is about to put, is that of
the key's present row. -/
structure Fresh (cipher : Cipher) {lru : Lru Uuid DecryptedMasterKey} (id : Uuid) (system : System lru) : Prop where
  cached : ∀ entry, lru.peek system.cache id = some entry → resolve cipher system.table id = .ok entry
  carried : ∀ entry, .loaded id entry ∈ system.gets → resolve cipher system.table id = .ok entry

/-- Every lookup of the key from the given one on that has returned gave the key material
of the present row, or the error that it has none, or could not reach the database. -/
def Current (cipher : Cipher) {lru : Lru Uuid DecryptedMasterKey} (id : Uuid) (since : Nat) (system : System lru) : Prop :=
  ∀ index result, since ≤ index → system.gets[index]? = some (.returned id result) →
    result = resolve cipher system.table id ∨ result = .error .db

/-- The event does not change the row. -/
def Unchanged (id : Uuid) : Event → Prop
  | .update row => row.id ≠ id
  | _ => True

theorem carried_move {gets : List Get} {index : Nat} {after : Get} {entry : DecryptedMasterKey}
    (member : .loaded id entry ∈ gets.set index after) (idle : ∀ other, after ≠ .loaded id other) :
    .loaded id entry ∈ gets := by
  obtain kept | same := List.mem_or_eq_of_mem_set member
  · exact kept
  · exact absurd same.symm (idle entry)

theorem Fresh.moved (fresh : Fresh cipher id system) {index : Nat} {after : Get} (idle : ∀ other, after ≠ .loaded id other) :
    Fresh cipher id (system.moveGet index after) :=
  ⟨fresh.cached, fun entry member => fresh.carried entry (carried_move member idle)⟩

theorem fresh_step {event : Event} {next : System lru} (fresh : Fresh cipher id system) (kept : Unchanged id event)
    (taken : step cipher lru system event = some next) : Fresh cipher id next := by
  cases step_moved taken with
  | updated row =>
    have same : resolve cipher (system.table.write row) id = resolve cipher system.table id := resolve_write_other kept
    refine ⟨?_, ?_⟩
    · intro entry held
      exact same.trans (fresh.cached entry held)
    · intro entry member
      exact same.trans (fresh.carried entry member)
  | invalidated other =>
    refine ⟨?_, fresh.carried⟩
    intro entry held
    exact fresh.cached entry (lru.peek_pop held).2
  | asked other =>
    refine ⟨fresh.cached, ?_⟩
    intro entry member
    obtain old | new := List.mem_append.mp member
    · exact fresh.carried entry old
    · cases List.mem_singleton.mp new
  | hit found cached =>
    refine ⟨?_, fun entry member => fresh.carried entry (carried_move member fun _ => nofun)⟩
    intro entry held
    exact fresh.cached entry (lru.peek_get held)
  | missed found =>
    refine ⟨?_, fun entry member => fresh.carried entry (carried_move member fun _ => nofun)⟩
    intro entry held
    exact fresh.cached entry (lru.peek_get held)
  | @loaded index other entry found resolved =>
    refine ⟨fresh.cached, ?_⟩
    intro carried member
    obtain kept | same := List.mem_or_eq_of_mem_set member
    · exact fresh.carried carried kept
    · cases same
      exact resolved
  | refused | failed => exact fresh.moved fun _ => nofun
  | @stored index other entry found =>
    refine ⟨?_, fun entry member => fresh.carried entry (carried_move member fun _ => nofun)⟩
    intro held same
    obtain ⟨rfl, rfl⟩ | ⟨_, kept⟩ := lru.peek_put same
    · exact fresh.carried held (List.mem_of_getElem? found)
    · exact fresh.cached held kept

private theorem current_move {since index : Nat} {after : Get} (current : Current cipher id since system)
    (answer : ∀ result, after = .returned id result → result = resolve cipher system.table id ∨ result = .error .db) :
    Current cipher id since (system.moveGet index after) := by
  intro position result late answered
  by_cases same : index = position
  · subst same
    obtain ⟨inside, moved⟩ := List.getElem?_eq_some_iff.mp answered
    simp only [System.moveGet, List.getElem_set_self] at moved
    exact answer result moved
  · simp only [System.moveGet, List.getElem?_set_ne same] at answered
    exact current position result late answered

theorem current_step {since : Nat} {event : Event} {next : System lru} (fresh : Fresh cipher id system)
    (current : Current cipher id since system) (kept : Unchanged id event)
    (taken : step cipher lru system event = some next) : Current cipher id since next := by
  cases step_moved taken with
  | updated row =>
    intro index result late answered
    have same : resolve cipher (system.table.write row) id = resolve cipher system.table id := resolve_write_other kept
    rw [same]
    exact current index result late answered
  | invalidated other => exact current
  | asked other =>
    intro index result late answered
    by_cases inside : index < system.gets.length
    · rw [List.getElem?_append_left inside] at answered
      exact current index result late answered
    · rw [List.getElem?_append_right (Nat.le_of_not_lt inside)] at answered
      cases List.mem_singleton.mp (List.mem_of_getElem? answered)
  | @hit index other entry found cached =>
    apply current_move current
    intro result same
    cases same
    exact .inl (fresh.cached entry cached).symm
  | missed | loaded => exact current_move current nofun
  | refused found resolved =>
    apply current_move current
    intro result same
    cases same
    exact .inl resolved.symm
  | failed found =>
    apply current_move current
    intro result same
    cases same
    exact .inr rfl
  | @stored index other entry found =>
    apply current_move current
    intro result same
    cases same
    exact .inl (fresh.carried entry (List.mem_of_getElem? found)).symm

theorem freshCurrent_step {since : Nat} (system : System lru) (event : Event) (next : System lru)
    (held : Fresh cipher id system ∧ Current cipher id since system) (kept : Unchanged id event)
    (taken : step cipher lru system event = some next) : Fresh cipher id next ∧ Current cipher id since next :=
  ⟨fresh_step held.1 kept taken, current_step held.1 held.2 kept taken⟩

end Steps

/-- In whatever state the invalidation finds the cache and the lookups under way, no
lookup that starts after it gives anything but the key material of the present row, if at
the invalidation no lookup was about to put that of an older one and the row does not
change again. -/
theorem invalidated_key_current (cipher : Cipher) (lru : Lru Uuid DecryptedMasterKey) (invalidation final : System lru) (after : List Event) (id : Uuid)
    (carried : ∀ entry, .loaded id entry ∈ invalidation.gets → resolve cipher invalidation.table id = .ok entry)
    (unchanged : ∀ event ∈ after, Unchanged id event)
    (continued : run (step cipher lru) invalidation (.invalidate id :: after) = some final) :
    Current cipher id invalidation.gets.length final := by
  obtain ⟨invalidated, taken, continued⟩ := run_cons continued
  cases taken
  have fresh : Fresh cipher id { invalidation with cache := lru.pop invalidation.cache id } := by
    refine ⟨?_, carried⟩
    intro entry held
    exact absurd rfl (lru.peek_pop held).1
  have current : Current cipher id invalidation.gets.length
      { invalidation with cache := lru.pop invalidation.cache id } := by
    intro index result late answered
    have absent : invalidation.gets[index]? = none := List.getElem?_eq_none late
    cases absent.symm.trans answered
  exact (run_invariant freshCurrent_step ⟨fresh, current⟩ (along_of_forall _ unchanged) continued).2

/-- The key `0123456789abcdef0123456789abcdef`, and what AES-256-GCM opens with it. -/
def sampleCipher : Cipher where
  encKey := "0123456789abcdef0123456789abcdef".toList.map fun digit => UInt8.ofNat digit.toNat
  aesGcm _ nonce ciphertext :=
    if nonce = List.replicate 12 0 ∧ ciphertext =
      [189, 24, 140, 110, 126, 103, 254, 198, 161, 10, 213, 120, 33, 21, 6, 102, 237, 86, 45, 125, 245, 62] then
      some [115, 107, 45, 111, 108, 100]
    else if nonce = List.replicate 11 0 ++ [1] ∧ ciphertext =
      [172, 233, 121, 196, 87, 218, 36, 114, 17, 219, 104, 18, 253, 79, 195, 113, 124, 59, 219, 150, 217, 92] then
      some [115, 107, 45, 110, 101, 119]
    else none

/-- The row of `sk-old`. -/
def oldRow : DbMasterKeyRow where
  id := 7
  keyCiphertext := [189, 24, 140, 110, 126, 103, 254, 198, 161, 10, 213, 120, 33, 21, 6, 102, 237, 86, 45, 125, 245, 62]
  keyNonce := List.replicate 12 0
  baseUrl := none
  status := "active"
  deletedAt := none
  updatedAt := 1
  providerCode := "openai"

/-- The same row once the key is rotated to `sk-new`. -/
def newRow : DbMasterKeyRow where
  id := 7
  keyCiphertext := [172, 233, 121, 196, 87, 218, 36, 114, 17, 219, 104, 18, 253, 79, 195, 113, 124, 59, 219, 150, 217, 92]
  keyNonce := List.replicate 11 0 ++ [1]
  baseUrl := none
  status := "active"
  deletedAt := none
  updatedAt := 2
  providerCode := "openai"

def oldEntry : DecryptedMasterKey := ⟨Utf8.lossy [115, 107, 45, 111, 108, 100], .openAI, none, 1⟩

def newEntry : DecryptedMasterKey := ⟨Utf8.lossy [115, 107, 45, 110, 101, 119], .openAI, none, 2⟩

def sampleStep : System (Lru.recent Uuid DecryptedMasterKey) → Event → Option (System (Lru.recent Uuid DecryptedMasterKey)) :=
  step sampleCipher (.recent Uuid DecryptedMasterKey)

/-- A lookup fetches the row before it is changed. -/
def fetchedBeforeUpdate : List Event := [.get 7, .readCache 0, .fetchRow 0 true, .update newRow]

/-- The lookup puts its entry before the invalidation: the next lookup fetches the row again. -/
theorem put_before_invalidation :
    (run sampleStep (.start _ [oldRow]) (fetchedBeforeUpdate ++ [.put 0] ++
      .invalidate 7 :: [.get 7, .readCache 1, .fetchRow 1 true, .put 1])).map System.gets =
        some [.returned 7 (.ok oldEntry), .returned 7 (.ok newEntry)] ∧
      ∀ invalidation final, run sampleStep (.start _ [oldRow]) (fetchedBeforeUpdate ++ [.put 0]) =
        some invalidation → run sampleStep invalidation
          (.invalidate 7 :: [.get 7, .readCache 1, .fetchRow 1 true, .put 1]) = some final →
            Current sampleCipher 7 invalidation.gets.length final := by
  refine ⟨rfl, ?_⟩
  intro invalidation final ran continued
  have reached : (run sampleStep (.start _ [oldRow]) (fetchedBeforeUpdate ++ [.put 0])).map System.gets =
      some [.returned 7 (.ok oldEntry)] := rfl
  rw [ran, Option.map_some, Option.some.injEq] at reached
  refine invalidated_key_current sampleCipher (.recent Uuid DecryptedMasterKey) invalidation final _ 7 ?_ ?_ continued
  · simp [reached]
  · simp [Unchanged]

/-- The lookup puts the entry of the row it fetched before the update: every lookup after
it finds the old key in the cache. -/
theorem put_after_invalidation :
    ¬ ∀ (cipher : Cipher) (table : Table) (before during after : List Event)
        (invalidation settled final : System (Lru.recent Uuid DecryptedMasterKey)) (id : Uuid),
      run (step cipher (.recent Uuid DecryptedMasterKey)) (.start _ table) before = some invalidation →
      (∀ event ∈ during ++ after, Unchanged id event) →
        run (step cipher (.recent Uuid DecryptedMasterKey)) invalidation (.invalidate id :: during) = some settled →
          (∀ get ∈ settled.gets.take invalidation.gets.length, ∃ id result, get = .returned id result) →
            run (step cipher (.recent Uuid DecryptedMasterKey)) settled after = some final → Current cipher id settled.gets.length final := by
  intro coherent
  have whole : (run sampleStep (.start _ [oldRow]) ((fetchedBeforeUpdate ++ .invalidate 7 :: [.put 0]) ++
      [.get 7, .readCache 1])).map (fun system => (system.gets, system.table)) =
        some ([.returned 7 (.ok oldEntry), .returned 7 (.ok oldEntry)], [newRow]) := rfl
  obtain ⟨final, ran, answers⟩ := Option.map_eq_some_iff.mp whole
  obtain ⟨settled, early, late⟩ := run_append ran
  obtain ⟨invalidation, first, continued⟩ := run_append early
  have returned : settled.gets = [.returned 7 (.ok oldEntry)] := by
    have reached : (run sampleStep (.start _ [oldRow]) (fetchedBeforeUpdate ++ .invalidate 7 :: [.put 0])).map
        System.gets = some [.returned 7 (.ok oldEntry)] := rfl
    rw [early] at reached
    exact Option.some.inj reached
  have current := coherent sampleCipher [oldRow] _ _ _ invalidation settled final 7 first (by simp [Unchanged]) continued
    (by
      intro get member
      have kept := List.mem_of_mem_take member
      rw [returned, List.mem_singleton] at kept
      exact ⟨7, .ok oldEntry, kept⟩) late
  obtain ⟨gets, table⟩ := Prod.mk.inj answers
  have present : resolve sampleCipher [newRow] 7 = .ok newEntry := rfl
  have answer := current 1 (.ok oldEntry) (by simp [returned]) (by rw [gets]; rfl)
  rw [table, present] at answer
  simp [oldEntry, newEntry] at answer

end AiGateway.MasterKeyCache
