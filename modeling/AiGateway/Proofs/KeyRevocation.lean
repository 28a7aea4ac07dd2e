import AiGateway.Proofs.KeyCache

/-! Whether a revoked key stays out of memory once the listener has removed it. -/

namespace AiGateway.VirtualKeyStore

open Lib.Runs

/-- A lookup has read a row of the key and not yet inserted it. -/
def Lookup.carries (keyHash : String) : Lookup → Bool
  | .loaded vk => vk.keyHash == keyHash
  | _ => false

/-- The table has no active row for the key. -/
def Revoked (system : System) (keyHash : String) : Prop :=
  ∀ row ∈ system.table, row.keyHash = keyHash → row.isActive = false

/-- Nothing is left that could bring the key back: it is not in memory, no lookup carries
it, and no row that would restore it is in the table or was fetched. -/
structure Out (keyHash : String) (system : System) : Prop where
  revoked : Revoked system keyHash
  absent : system.checkVirtualKey keyHash = none
  carried : ∀ lookup ∈ system.lookups, lookup.carries keyHash = false
  fetched : ∀ rows, system.poll = .processing rows → ∀ row ∈ rows, row.keyHash = keyHash → row.isActive = false

/-- The key is not activated again. -/
def StaysRevoked (keyHash : String) : Event → Prop
  | .update vk => vk.keyHash = keyHash → vk.isActive = false
  | _ => True

section Steps
variable {system : System} {keyHash : String}

private theorem carried_move {lookups : List Lookup} {index : Nat} {after : Lookup}
    (carried : ∀ lookup ∈ lookups, lookup.carries keyHash = false) (idle : after.carries keyHash = false) :
    ∀ lookup ∈ lookups.set index after, lookup.carries keyHash = false := by
  intro lookup member
  obtain kept | rfl := List.mem_or_eq_of_mem_set member
  · exact carried lookup kept
  · exact idle

theorem Out.looked (out : Out keyHash system) {index : Nat} {after : Lookup} (idle : after.carries keyHash = false) :
    Out keyHash (system.moveLookup index after) :=
  ⟨out.revoked, out.absent, carried_move out.carried idle, out.fetched⟩

theorem Out.processed (out : Out keyHash system) {vk : DbVirtualKey} {rows : List DbVirtualKey}
    (fetched : system.poll = .processing (vk :: rows)) : Out keyHash { system.processRow vk with poll := .processing rows } := by
  have inactive := out.fetched _ fetched
  have rest : ∀ more, PollStage.processing rows = .processing more → ∀ row ∈ more, row.keyHash = keyHash →
      row.isActive = false := by
    intro more same row member
    cases same
    exact inactive row (List.mem_cons_of_mem vk member)
  obtain ⟨same, _⟩ | ⟨active, same⟩ | ⟨_, same⟩ := processRow_cases system vk
  · rw [same]
    exact ⟨out.revoked, out.absent, out.carried, rest⟩
  · rw [same]
    have different : keyHash ≠ vk.keyHash := by
      intro equal
      have gone := inactive vk List.mem_cons_self equal.symm
      rw [active] at gone
      cases gone
    exact ⟨out.revoked, (check_set_other system vk different).trans out.absent, out.carried, rest⟩
  · rw [same]
    refine ⟨out.revoked, ?_, out.carried, rest⟩
    by_cases equal : keyHash = vk.keyHash
    · subst equal
      exact check_remove_self system vk.keyHash
    · exact (check_remove_other system equal).trans out.absent

theorem out_step (system : System) (event : Event) (next : System) (out : Out keyHash system)
    (stays : StaysRevoked keyHash event) (taken : step system event = some next) : Out keyHash next := by
  cases step_moved taken with
  | updated vk =>
    refine ⟨?_, out.absent, out.carried, out.fetched⟩
    intro row member named
    obtain ⟨old, _⟩ | rfl := mem_write.mp member
    · exact out.revoked row old named
    · exact stays named
  | began idle => exact ⟨out.revoked, out.absent, out.carried, nofun⟩
  | queried started polled fetched =>
    refine ⟨out.revoked, out.absent, out.carried, ?_⟩
    intro more same row member named
    cases same
    exact out.revoked row (mem_updatedAfter.mp (fetched.mem_iff.mp member)).1 named
  | unqueried started first =>
    refine ⟨out.revoked, out.absent, out.carried, ?_⟩
    intro more same row member
    cases same
    cases member
  | processed fetched => exact out.processed fetched
  | failed busy => exact ⟨out.revoked, out.absent, out.carried, nofun⟩
  | finished done => exact ⟨out.revoked, out.absent, out.carried, nofun⟩
  | asked other =>
    refine ⟨out.revoked, out.absent, ?_, out.fetched⟩
    intro lookup member
    obtain old | new := List.mem_append.mp member
    · exact out.carried lookup old
    · cases List.mem_singleton.mp new
      rfl
  | held found cached => exact out.looked rfl
  | missed found absent => exact out.looked rfl
  | @loaded index other vk found row =>
    apply out.looked
    obtain ⟨member, named, active⟩ := byKeyHash_some row
    apply beq_false_of_ne
    intro equal
    have inactive := out.revoked vk member equal
    rw [active] at inactive
    cases inactive
  | uncached found => exact out.looked rfl
  | unknown found => exact out.looked rfl
  | @inserted index vk found =>
    have idle := out.carried _ (List.mem_of_getElem? found)
    have different : keyHash ≠ vk.keyHash := fun equal => by simp [Lookup.carries, equal] at idle
    refine ⟨out.revoked, ?_, carried_move out.carried rfl, out.fetched⟩
    exact (check_set_other system vk different).trans out.absent

/-- No lookup from the given one on returned the key. -/
def Unanswered (keyHash : String) (since : Nat) (system : System) : Prop :=
  ∀ index vk, since ≤ index → system.lookups[index]? ≠ some (.returned keyHash (some vk))

private theorem unanswered_move {since index : Nat} {after : Lookup} (unanswered : Unanswered keyHash since system)
    (other : ∀ vk, after ≠ .returned keyHash (some vk)) : Unanswered keyHash since (system.moveLookup index after) := by
  intro position vk late answered
  by_cases same : index = position
  · subst same
    obtain ⟨inside, moved⟩ := List.getElem?_eq_some_iff.mp answered
    simp only [System.moveLookup, List.getElem_set_self] at moved
    exact other vk moved
  · simp only [System.moveLookup, List.getElem?_set_ne same] at answered
    exact unanswered position vk late answered

/-- While the key is out, a lookup finds it neither in memory nor in the table. -/
theorem unanswered_step {since : Nat} {event : Event} {next : System} (out : Out keyHash system)
    (unanswered : Unanswered keyHash since system) (taken : step system event = some next) :
    Unanswered keyHash since next := by
  cases step_moved taken with
  | updated | began | queried | unqueried | failed | finished => exact unanswered
  | processed fetched =>
    simp only [Unanswered, processRow_lookups]
    exact unanswered
  | asked other =>
    intro index vk late answered
    by_cases inside : index < system.lookups.length
    · rw [List.getElem?_append_left inside] at answered
      exact unanswered index vk late answered
    · rw [List.getElem?_append_right (Nat.le_of_not_lt inside)] at answered
      cases List.mem_singleton.mp (List.mem_of_getElem? answered)
  | @held index other vk found cached =>
    apply unanswered_move unanswered
    intro answer same
    cases same
    cases out.absent.symm.trans cached
  | missed | loaded | uncached | unknown => exact unanswered_move unanswered nofun
  | @inserted index vk found =>
    have stored : Unanswered keyHash since (system.setVirtualKey vk) := unanswered
    apply unanswered_move stored
    intro answer same
    cases same
    have idle := out.carried _ (List.mem_of_getElem? found)
    simp [Lookup.carries] at idle

theorem outUnanswered_step {since : Nat} (system : System) (event : Event) (next : System)
    (held : Out keyHash system ∧ Unanswered keyHash since system) (stays : StaysRevoked keyHash event)
    (taken : step system event = some next) : Out keyHash next ∧ Unanswered keyHash since next :=
  ⟨out_step system event next held.1 stays taken, unanswered_step held.1 held.2 taken⟩

end Steps

/-- One row for each key, in the table and among the rows a poll has fetched. -/
structure OneRowEach (system : System) : Prop where
  table : (system.table.map DbVirtualKey.keyHash).Nodup
  fetched : ∀ rows, system.poll = .processing rows → (rows.map DbVirtualKey.keyHash).Nodup

theorem oneRowEach_step (system : System) (event : Event) (next : System) (each : OneRowEach system) (_ : True)
    (taken : step system event = some next) : OneRowEach next := by
  cases step_moved taken with
  | updated vk => exact ⟨distinct_write each.table vk, each.fetched⟩
  | began | failed | finished => exact ⟨each.table, nofun⟩
  | queried started polled fetched =>
    refine ⟨each.table, ?_⟩
    intro rows same
    cases same
    apply (fetched.map DbVirtualKey.keyHash).nodup_iff.mpr
    exact each.table.sublist (List.filter_sublist.map DbVirtualKey.keyHash)
  | unqueried started first =>
    refine ⟨each.table, ?_⟩
    intro rows same
    cases same
    exact .nil
  | @processed vk rows fetched =>
    have rest : ∀ more, PollStage.processing rows = .processing more → (more.map DbVirtualKey.keyHash).Nodup := by
      intro more same
      cases same
      exact (List.nodup_cons.mp (each.fetched _ fetched)).2
    refine ⟨?_, rest⟩
    simp only [processRow_table]
    exact each.table
  | asked | held | missed | loaded | uncached | unknown | inserted => exact ⟨each.table, each.fetched⟩

/-- The listener's next step removes the key of this row, which is revoked in the table. -/
structure Removing (system : System) (vk : DbVirtualKey) : Prop where
  fetched : ∃ rows, system.poll = .processing (vk :: rows)
  classified : classifyVirtualKeyUpdate (system.lastSeen vk.keyHash) vk = .remove vk.keyHash
  revoked : Revoked system vk.keyHash

theorem Removing.processed {system next : System} {vk : DbVirtualKey} (removing : Removing system vk)
    (taken : step system .process = some next) :
    ∃ rows, system.poll = .processing (vk :: rows) ∧ next = { system.removeVirtualKey vk.keyHash with
      lastSeen := Function.update system.lastSeen vk.keyHash none, poll := .processing rows } := by
  obtain ⟨rows, fetched⟩ := removing.fetched
  have removed : system.processRow vk =
      { system.removeVirtualKey vk.keyHash with lastSeen := Function.update system.lastSeen vk.keyHash none } := by
    rw [System.processRow, removing.classified]
  simp only [step, fetched, removed] at taken
  cases taken
  exact ⟨rows, fetched, rfl⟩

/-- The removal takes the key out if no lookup carries it past the removal. -/
theorem Removing.out {system next : System} {vk : DbVirtualKey} (removing : Removing system vk) (each : OneRowEach system)
    (idle : ∀ lookup ∈ system.lookups, lookup.carries vk.keyHash = false) (taken : step system .process = some next) :
    Out vk.keyHash next := by
  obtain ⟨rows, fetched, rfl⟩ := removing.processed taken
  refine ⟨removing.revoked, check_remove_self system vk.keyHash, idle, ?_⟩
  intro more same row member named
  cases same
  have once := (List.nodup_cons.mp (each.fetched _ fetched)).1
  exact absurd (named ▸ List.mem_map_of_mem member) once

theorem Removing.unanswered {system next : System} {vk : DbVirtualKey} (removing : Removing system vk)
    (taken : step system .process = some next) : Unanswered vk.keyHash system.lookups.length next := by
  obtain ⟨rows, _, rfl⟩ := removing.processed taken
  intro index answer late answered
  have absent : system.lookups[index]? = none := List.getElem?_eq_none late
  cases absent.symm.trans answered

/-- Once the removal of a revoked key is processed, no lookup that starts later returns
it, if at the removal no lookup was between its read of the key's row and its insert. -/
theorem revoked_key_stays_out (table : Table) (before after : List Event) (removal final : System) (vk : DbVirtualKey)
    (distinct : (table.map DbVirtualKey.keyHash).Nodup) (ran : run step (.start table) before = some removal)
    (removing : Removing removal vk) (idle : ∀ lookup ∈ removal.lookups, lookup.carries vk.keyHash = false)
    (stays : ∀ event ∈ after, StaysRevoked vk.keyHash event)
    (continued : run step removal (.process :: after) = some final) :
    Unanswered vk.keyHash removal.lookups.length final := by
  have start : OneRowEach (.start table) := by
    refine ⟨distinct, ?_⟩
    intro rows same
    cases same
  have each := run_invariant oneRowEach_step start (along_trivial _ before) ran
  obtain ⟨removed, processed, continued⟩ := run_cons continued
  have out := removing.out each idle processed
  have fresh := removing.unanswered processed
  exact (run_invariant outUnanswered_step ⟨out, fresh⟩ (along_of_forall removed stays) continued).2

def createdKey : DbVirtualKey := ⟨"kh", "active", none, 2, none, none, none, none⟩

def disabledKey : DbVirtualKey := { createdKey with status := "inactive", updatedAt := 3 }

/-- A key is created between two polls, and a lookup reads its row. -/
def readBetweenPolls : List Event :=
  [.beginPoll, .query [], .finishPoll 1, .update createdKey, .lookup "kh", .checkMemory 0, .readRow 0 true]

/-- The key is revoked, and the next poll fetches its row. -/
def revokedNextPoll : List Event := [.update disabledKey, .beginPoll, .query [disabledKey]]

/-- What the listener sees then, whether or not the lookup has inserted the row. -/
private theorem removing_disabled {system : System} {before : List Event} (lookups : List Lookup)
    (reached : (run step (.start []) before).map (fun system =>
      (system.poll, system.lastSeen "kh", system.table, system.lookups)) =
        some (.processing [disabledKey], none, [disabledKey], lookups))
    (ran : run step (.start []) before = some system) : Removing system disabledKey ∧ system.lookups = lookups := by
  rw [ran, Option.map_some, Option.some.injEq, Prod.mk.injEq, Prod.mk.injEq, Prod.mk.injEq] at reached
  obtain ⟨poll, seen, table, held⟩ := reached
  refine ⟨⟨⟨[], poll⟩, ?_, ?_⟩, held⟩
  · rw [show system.lastSeen disabledKey.keyHash = none from seen]
    decide
  · rw [Revoked, table]
    decide

/-- The lookup inserts the key before the removal: the next lookup finds nothing. -/
theorem inserted_before_removal :
    ((run step (.start []) (readBetweenPolls ++ [.insert 0] ++ revokedNextPoll ++
      .process :: [.lookup "kh", .checkMemory 1, .readRow 1 true])).map System.lookups) =
        some [.returned "kh" (some createdKey), .returned "kh" none] ∧
      ∀ removal final, run step (.start []) (readBetweenPolls ++ [.insert 0] ++ revokedNextPoll) = some removal →
        run step removal (.process :: [.lookup "kh", .checkMemory 1, .readRow 1 true]) = some final →
          Unanswered "kh" removal.lookups.length final := by
  refine ⟨by decide, ?_⟩
  intro removal final ran continued
  obtain ⟨removing, lookups⟩ := removing_disabled [.returned "kh" (some createdKey)] (by decide) ran
  have idle : ∀ lookup ∈ removal.lookups, lookup.carries disabledKey.keyHash = false := by
    rw [lookups]
    decide
  have stays : ∀ event ∈ [Event.lookup "kh", .checkMemory 1, .readRow 1 true], StaysRevoked disabledKey.keyHash event := by
    simp [StaysRevoked]
  exact revoked_key_stays_out [] _ _ removal final disabledKey .nil ran removing idle stays continued

/-- The lookup inserts the row it read before the key was revoked: every lookup after it
finds the key in memory. -/
theorem inserted_after_removal :
    ¬ ∀ (table : Table) (before during after : List Event) (removal settled final : System) (vk : DbVirtualKey),
      (table.map DbVirtualKey.keyHash).Nodup → run step (.start table) before = some removal → Removing removal vk →
        (∀ event ∈ during ++ after, StaysRevoked vk.keyHash event) →
          run step removal (.process :: during) = some settled →
            (∀ lookup ∈ settled.lookups.take removal.lookups.length, ∃ keyHash result, lookup = .returned keyHash result) →
              run step settled after = some final → Unanswered vk.keyHash settled.lookups.length final := by
  intro stays_out
  have whole : (run step (.start []) ((readBetweenPolls ++ revokedNextPoll ++ .process :: [.finishPoll 4, .insert 0]) ++
      [.lookup "kh", .checkMemory 1])).map System.lookups =
        some [.returned "kh" (some createdKey), .returned "kh" (some createdKey)] := by decide
  obtain ⟨final, ran, answers⟩ := Option.map_eq_some_iff.mp whole
  obtain ⟨settled, early, late⟩ := run_append ran
  have returned : settled.lookups = [.returned "kh" (some createdKey)] := by
    have reached : (run step (.start []) (readBetweenPolls ++ revokedNextPoll ++ .process :: [.finishPoll 4, .insert 0])).map
        System.lookups = some [.returned "kh" (some createdKey)] := by decide
    rw [early] at reached
    exact Option.some.inj reached
  obtain ⟨removal, first, continued⟩ := run_append early
  obtain ⟨removing, lookups⟩ := removing_disabled [.loaded createdKey] (by decide) first
  have unanswered := stays_out [] _ _ _ removal settled final disabledKey .nil first removing (by simp [StaysRevoked]) continued
    (by simp [returned, lookups]) late
  exact unanswered 1 createdKey (by simp [returned]) (by simp [answers, disabledKey, createdKey])

end AiGateway.VirtualKeyStore
