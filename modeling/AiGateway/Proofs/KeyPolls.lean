import AiGateway.Proofs.KeyCache

/-! Whether the polls lose an update. A row that the keys in memory do not agree with must
still be due: among the rows a running poll has fetched, or later than the time from which
the next poll will ask. -/

namespace AiGateway.VirtualKeyStore

open Lib.Runs

/-- The key in memory is this row, and the row is active; or there is none. -/
def Settled (system : System) (row : DbVirtualKey) : Prop :=
  ∀ vk, system.checkVirtualKey row.keyHash = some vk → vk = row ∧ row.isActive = true

def PollStage.rows : PollStage → List DbVirtualKey
  | .processing rows => rows
  | _ => []

/-- The poll's query is still to come. -/
def PollStage.asks : PollStage → Bool
  | .processing _ => false
  | _ => true

/-- Where a poll will come across the row. -/
def Waits (system : System) (row : DbVirtualKey) : Prop :=
  row ∈ system.poll.rows ∨ row ∈ system.unread ∨ (system.poll.asks = true ∧ system.lastPollTime.isSome = true)

structure Due (system : System) (row : DbVirtualKey) : Prop where
  waits : Waits system row
  later : ∀ since, system.lastPollTime = some since → since < row.updatedAt
  unseen : ∀ seen, system.lastSeen row.keyHash = some seen → seen < row.updatedAt

/-- The row is what the table has, or an update that no query has read is newer. -/
def Outdated (system : System) (row : DbVirtualKey) : Prop :=
  ∃ newer ∈ system.table, newer ∈ system.unread ∧ newer.keyHash = row.keyHash ∧ row.updatedAt < newer.updatedAt

structure Consistent (system : System) : Prop where
  distinct : (system.table.map DbVirtualKey.keyHash).Nodup
  seen : ∀ keyHash seen, system.lastSeen keyHash = some seen →
    ∃ row ∈ system.table, row.keyHash = keyHash ∧ seen ≤ row.updatedAt
  cached : ∀ keyHash vk, system.checkVirtualKey keyHash = some vk → ∃ row ∈ system.table, row.keyHash = keyHash
  fetchedOnce : (system.poll.rows.map DbVirtualKey.keyHash).Nodup
  fetched : ∀ row ∈ system.poll.rows, row ∈ system.table ∨ Outdated system row
  polled : ∀ row ∈ system.poll.rows, system.lastPollTime.isSome = true
  unread : ∀ row ∈ system.unread, ∀ since, system.lastPollTime = some since → since < row.updatedAt
  handled : ∀ row ∈ system.table, Settled system row ∨ Due system row

/-- The row that a lookup has read and not yet inserted. -/
def Lookup.row : Lookup → Option DbVirtualKey
  | .loaded vk => some vk
  | _ => none

/-- An update is later than the last poll and than the row it replaces; a poll ends with
nothing written since its query, unless that is later than the poll's end (the first poll
has no query, so nothing since the cache was loaded); a lookup inserts what the table has. -/
def Timely (system : System) : Event → Prop
  | .update vk =>
    (∀ since ∈ system.lastPollTime, since < vk.updatedAt) ∧
      ∀ row ∈ system.table, row.keyHash = vk.keyHash → row.updatedAt < vk.updatedAt
  | .finishPoll time =>
    (system.lastPollTime = none → system.unread = []) ∧ ∀ row ∈ system.unread, time < row.updatedAt
  | .insert index => ∀ vk ∈ system.lookups[index]?.bind Lookup.row, vk ∈ system.table ∧ vk.isActive = true
  | _ => True

instance (system : System) (event : Event) : Decidable (Timely system event) := by
  unfold Timely
  split <;> infer_instance

theorem consistent_start (table : Table) (distinct : (table.map DbVirtualKey.keyHash).Nodup) :
    Consistent (.start table) := by
  have loaded {keyHash : String} {vk : DbVirtualKey} (held : (System.start table).checkVirtualKey keyHash = some vk) :
      vk ∈ table ∧ vk.keyHash = keyHash ∧ vk.isActive = true := by
    obtain ⟨member, named⟩ := loadCache_some held
    obtain ⟨inside, active⟩ := List.mem_filter.mp member
    exact ⟨inside, named, active⟩
  refine ⟨distinct, nofun, ?_, .nil, nofun, nofun, nofun, ?_⟩
  · intro keyHash vk held
    obtain ⟨inside, named, _⟩ := loaded held
    exact ⟨vk, inside, named⟩
  · intro row member
    left
    intro vk held
    obtain ⟨inside, named, active⟩ := loaded held
    cases row_unique distinct inside member named
    exact ⟨rfl, active⟩

section Steps
variable {system next : System}

/-- A step that does not concern the row's key. -/
private theorem handled_same {row : DbVirtualKey} (handled : Settled system row ∨ Due system row)
    (check : next.checkVirtualKey row.keyHash = system.checkVirtualKey row.keyHash)
    (seen : next.lastSeen row.keyHash = system.lastSeen row.keyHash) (polled : next.lastPollTime = system.lastPollTime)
    (waits : Waits system row → Waits next row) : Settled next row ∨ Due next row := by
  obtain settled | due := handled
  · left
    intro vk held
    exact settled vk (check ▸ held)
  · right
    refine ⟨waits due.waits, ?_, ?_⟩
    · intro since before
      exact due.later since (polled ▸ before)
    · intro last before
      exact due.unseen last (seen ▸ before)

/-- Steps that leave the rows, the keys and the listener as they are. -/
theorem Consistent.looked (consistent : Consistent system) (lookups : List Lookup) :
    Consistent { system with lookups := lookups } := by
  refine ⟨consistent.distinct, consistent.seen, consistent.cached, consistent.fetchedOnce, consistent.fetched,
    consistent.polled, consistent.unread, ?_⟩
  intro row member
  exact handled_same (consistent.handled row member) rfl rfl rfl id

theorem Consistent.inserted (consistent : Consistent system) {vk : DbVirtualKey} (current : vk ∈ system.table)
    (active : vk.isActive = true) : Consistent (system.setVirtualKey vk) := by
  refine ⟨consistent.distinct, consistent.seen, ?_, consistent.fetchedOnce, consistent.fetched, consistent.polled,
    consistent.unread, ?_⟩
  · intro keyHash found held
    by_cases same : keyHash = vk.keyHash
    · exact ⟨vk, current, same.symm⟩
    · rw [check_set_other system vk same] at held
      exact consistent.cached keyHash found held
  · intro row member
    by_cases same : row.keyHash = vk.keyHash
    · have equal := row_unique consistent.distinct member current same
      subst equal
      left
      intro found held
      exact ⟨check_set_self system row held, active⟩
    · exact handled_same (consistent.handled row member) (check_set_other system vk same) rfl rfl id

theorem Consistent.updated (consistent : Consistent system) {vk : DbVirtualKey} (timely : Timely system (.update vk)) :
    Consistent { system with table := system.table.write vk, unread := vk :: system.unread } := by
  obtain ⟨recent, newest⟩ := timely
  have row_kept {keyHash : String} (present : ∃ row ∈ system.table, row.keyHash = keyHash) :
      ∃ row ∈ system.table.write vk, row.keyHash = keyHash := by
    obtain ⟨row, member, named⟩ := present
    by_cases same : row.keyHash = vk.keyHash
    · exact ⟨vk, mem_write.mpr (.inr rfl), same.symm.trans named⟩
    · exact ⟨row, mem_write.mpr (.inl ⟨member, same⟩), named⟩
  refine ⟨distinct_write consistent.distinct vk, ?_, ?_, consistent.fetchedOnce, ?_, consistent.polled, ?_, ?_⟩
  · intro keyHash seen held
    obtain ⟨row, member, named, before⟩ := consistent.seen keyHash seen held
    by_cases same : row.keyHash = vk.keyHash
    · exact ⟨vk, mem_write.mpr (.inr rfl), same.symm.trans named, Nat.le_trans before (Nat.le_of_lt (newest row member same))⟩
    · exact ⟨row, mem_write.mpr (.inl ⟨member, same⟩), named, before⟩
  · intro keyHash found held
    exact row_kept (consistent.cached keyHash found held)
  · intro row inside
    by_cases same : row.keyHash = vk.keyHash
    · right
      refine ⟨vk, mem_write.mpr (.inr rfl), List.mem_cons_self, same.symm, ?_⟩
      obtain current | ⟨newer, member, _, named, before⟩ := consistent.fetched row inside
      · exact newest row current same
      · exact Nat.lt_trans before (newest newer member (named.trans same))
    · obtain current | ⟨newer, member, unread, named, before⟩ := consistent.fetched row inside
      · exact .inl (mem_write.mpr (.inl ⟨current, same⟩))
      · right
        exact ⟨newer, mem_write.mpr (.inl ⟨member, named ▸ same⟩), List.mem_cons_of_mem _ unread, named, before⟩
  · intro row inside since polled
    obtain rfl | old := List.mem_cons.mp inside
    · exact recent since polled
    · exact consistent.unread row old since polled
  · intro row member
    obtain ⟨old, different⟩ | rfl := mem_write.mp member
    · obtain settled | due := consistent.handled row old
      · exact .inl settled
      · right
        exact ⟨due.waits.imp_right fun waits => waits.imp_left (List.mem_cons_of_mem _), due.later, due.unseen⟩
    · right
      refine ⟨.inr (.inl List.mem_cons_self), recent, ?_⟩
      intro seen held
      obtain ⟨old, inside, named, before⟩ := consistent.seen _ seen held
      exact Nat.lt_of_le_of_lt before (newest old inside named)

/-- What the query reads is everything that is due. -/
theorem Consistent.queried (consistent : Consistent system) {since : Nat} {rows : List DbVirtualKey}
    (polled : system.lastPollTime = some since) (fetched : rows.Perm (system.table.updatedAfter since)) :
    Consistent { system with poll := .processing rows, unread := [] } := by
  refine ⟨consistent.distinct, consistent.seen, consistent.cached, ?_, ?_, ?_, nofun, ?_⟩
  · apply (fetched.map DbVirtualKey.keyHash).nodup_iff.mpr
    exact consistent.distinct.sublist (List.filter_sublist.map DbVirtualKey.keyHash)
  · intro row inside
    exact .inl (mem_updatedAfter.mp (fetched.mem_iff.mp inside)).1
  · intro row inside
    exact Option.isSome_iff_exists.mpr ⟨since, polled⟩
  · intro row member
    obtain settled | due := consistent.handled row member
    · exact .inl settled
    · right
      refine ⟨.inl ?_, due.later, due.unseen⟩
      exact fetched.mem_iff.mpr (mem_updatedAfter.mpr ⟨member, due.later since polled⟩)

/-- A step of the listener that fetches nothing and keeps what waits. -/
theorem Consistent.moved (consistent : Consistent system) {poll : PollStage} {lastPollTime : Option Nat}
    (fetched : poll.rows = [])
    (unread : ∀ row ∈ system.unread, ∀ since, lastPollTime = some since → since < row.updatedAt)
    (due : ∀ row, Due system row → Waits { system with poll := poll, lastPollTime := lastPollTime } row ∧
      ∀ since, lastPollTime = some since → since < row.updatedAt) :
    Consistent { system with poll := poll, lastPollTime := lastPollTime } := by
  refine ⟨consistent.distinct, consistent.seen, consistent.cached, ?_, ?_, ?_, unread, ?_⟩
  · simp only [fetched]
    exact .nil
  · simp only [fetched]
    nofun
  · simp only [fetched]
    nofun
  · intro row member
    obtain settled | waiting := consistent.handled row member
    · exact .inl settled
    · obtain ⟨waits, later⟩ := due row waiting
      exact .inr ⟨waits, later, waiting.unseen⟩

theorem Consistent.began (consistent : Consistent system) (idle : system.poll = .idle) :
    Consistent { system with poll := .started } := by
  apply consistent.moved rfl consistent.unread
  intro row due
  have waits := due.waits
  simp only [Waits, idle, PollStage.rows, PollStage.asks] at waits ⊢
  exact ⟨waits, due.later⟩

theorem Consistent.unqueried (consistent : Consistent system) (started : system.poll = .started)
    (first : system.lastPollTime = none) : Consistent { system with poll := .processing [] } := by
  apply consistent.moved rfl consistent.unread
  intro row due
  have waits := due.waits
  refine ⟨?_, due.later⟩
  simpa [Waits, started, first, PollStage.rows, PollStage.asks] using waits

/-- A failed poll leaves the time of the last one, so that what it fetched is asked again. -/
theorem Consistent.failed (consistent : Consistent system) : Consistent { system with poll := .idle } := by
  apply consistent.moved rfl consistent.unread
  intro row due
  refine ⟨?_, due.later⟩
  obtain inside | unread | asking := due.waits
  · exact .inr (.inr ⟨rfl, consistent.polled row inside⟩)
  · exact .inr (.inl unread)
  · exact .inr (.inr ⟨rfl, asking.2⟩)

theorem Consistent.finished (consistent : Consistent system) {time : Nat} (done : system.poll = .processing [])
    (timely : Timely system (.finishPoll time)) :
    Consistent { system with poll := .idle, lastPollTime := some time } := by
  have waiting (row : DbVirtualKey) (due : Due system row) : row ∈ system.unread := by
    have waits := due.waits
    simpa [Waits, done, PollStage.rows, PollStage.asks] using waits
  have later (row : DbVirtualKey) (member : row ∈ system.unread) (since : Nat) (polled : some time = some since) :
      since < row.updatedAt := by
    cases polled
    exact timely.2 row member
  apply consistent.moved rfl later
  intro row due
  exact ⟨.inr (.inl (waiting row due)), later row (waiting row due)⟩

section Processing
variable {vk : DbVirtualKey} {rows : List DbVirtualKey}

/-- The table still has a row for a key that was fetched, at least as late. -/
theorem Consistent.present (consistent : Consistent system) (inside : vk ∈ system.poll.rows) :
    ∃ row ∈ system.table, row.keyHash = vk.keyHash ∧ vk.updatedAt ≤ row.updatedAt := by
  obtain current | ⟨newer, member, _, named, before⟩ := consistent.fetched vk inside
  · exact ⟨vk, current, rfl, Nat.le.refl⟩
  · exact ⟨newer, member, named, Nat.le_of_lt before⟩

private theorem first_fetched (fetched : system.poll = .processing (vk :: rows)) : vk ∈ system.poll.rows := by
  simp [fetched, PollStage.rows]

private theorem waits_rest (fetched : system.poll = .processing (vk :: rows)) (poll : next.poll = .processing rows)
    (unread : next.unread = system.unread) {row : DbVirtualKey} (different : row.keyHash ≠ vk.keyHash)
    (waits : Waits system row) : Waits next row := by
  simp only [Waits, fetched, poll, unread, PollStage.rows, PollStage.asks, Bool.false_eq_true, false_and, or_false,
    List.mem_cons] at waits ⊢
  obtain (rfl | inside) | late := waits
  · exact absurd rfl different
  · exact .inl inside
  · exact .inr late

private theorem Consistent.newerDue (consistent : Consistent system) {newer : DbVirtualKey} (unread : newer ∈ system.unread)
    (same : next.unread = system.unread) (polled : next.lastPollTime = system.lastPollTime)
    (unseen : ∀ seen, next.lastSeen newer.keyHash = some seen → seen < newer.updatedAt) : Due next newer := by
  refine ⟨.inr (.inl (same ▸ unread)), ?_, unseen⟩
  intro since before
  exact consistent.unread newer unread since (polled ▸ before)

/-- What processing the first row leaves to show: the rest is as it was. -/
theorem Consistent.processing (consistent : Consistent system) (fetched : system.poll = .processing (vk :: rows))
    (poll : next.poll = .processing rows) (table : next.table = system.table) (unread : next.unread = system.unread)
    (polled : next.lastPollTime = system.lastPollTime)
    (check : ∀ keyHash, keyHash ≠ vk.keyHash → next.checkVirtualKey keyHash = system.checkVirtualKey keyHash)
    (lastSeen : ∀ keyHash, keyHash ≠ vk.keyHash → next.lastSeen keyHash = system.lastSeen keyHash)
    (seen : ∀ last, next.lastSeen vk.keyHash = some last → last ≤ vk.updatedAt ∨ system.lastSeen vk.keyHash = some last)
    (handled : ∀ row ∈ system.table, row.keyHash = vk.keyHash → Settled next row ∨ Due next row) : Consistent next := by
  obtain ⟨own, member, named, before⟩ := consistent.present (first_fetched fetched)
  have rest {row : DbVirtualKey} (inside : row ∈ next.poll.rows) : row ∈ system.poll.rows := by
    rw [poll] at inside
    rw [fetched]
    exact List.mem_cons_of_mem vk inside
  have once := consistent.fetchedOnce
  rw [fetched] at once
  refine ⟨table ▸ consistent.distinct, ?_, ?_, ?_, ?_, ?_, ?_, ?_⟩
  · intro keyHash last held
    rw [table]
    by_cases same : keyHash = vk.keyHash
    · subst same
      obtain early | old := seen last held
      · exact ⟨own, member, named, Nat.le_trans early before⟩
      · exact consistent.seen _ last old
    · exact consistent.seen keyHash last ((lastSeen keyHash same) ▸ held)
  · intro keyHash found held
    rw [table]
    by_cases same : keyHash = vk.keyHash
    · exact ⟨own, member, named.trans same.symm⟩
    · exact consistent.cached keyHash found ((check keyHash same) ▸ held)
  · rw [poll]
    exact (List.nodup_cons.mp once).2
  · intro row inside
    obtain current | ⟨newer, newest, late, same, later⟩ := consistent.fetched row (rest inside)
    · exact .inl (table ▸ current)
    · exact .inr ⟨newer, table ▸ newest, unread ▸ late, same, later⟩
  · intro row inside
    rw [polled]
    exact consistent.polled row (rest inside)
  · intro row inside since before
    exact consistent.unread row (unread ▸ inside) since (polled ▸ before)
  · intro row inside
    rw [table] at inside
    by_cases same : row.keyHash = vk.keyHash
    · exact handled row inside same
    · exact handled_same (consistent.handled row inside) (check _ same) (lastSeen _ same) polled
        (waits_rest fetched poll unread same)

/-- A row that is skipped was seen before, so the table's row for its key is settled or
newer. -/
theorem Consistent.skipped (consistent : Consistent system) (fetched : system.poll = .processing (vk :: rows)) {last : Nat}
    (seen : system.lastSeen vk.keyHash = some last) (before : vk.updatedAt ≤ last) :
    Consistent { system with poll := .processing rows } := by
  apply consistent.processing fetched
  · rfl
  · rfl
  · rfl
  · rfl
  · exact fun _ _ => rfl
  · exact fun _ _ => rfl
  · exact fun _ held => .inr held
  · intro row member same
    obtain settled | due := consistent.handled row member
    · exact .inl settled
    · obtain current | ⟨newer, newest, unread, named, _⟩ := consistent.fetched vk (first_fetched fetched)
      · have equal := row_unique consistent.distinct member current same
        subst equal
        exact absurd (due.unseen last seen) (Nat.not_lt.mpr before)
      · have equal := row_unique consistent.distinct member newest (same.trans named.symm)
        subst equal
        right
        refine consistent.newerDue unread ?_ ?_ due.unseen
        · rfl
        · rfl

theorem Consistent.upserted (consistent : Consistent system) (fetched : system.poll = .processing (vk :: rows))
    (active : vk.isActive = true) :
    Consistent { system.setVirtualKey vk with
      lastSeen := Function.update system.lastSeen vk.keyHash (some vk.updatedAt), poll := .processing rows } := by
  apply consistent.processing fetched
  · rfl
  · rfl
  · rfl
  · rfl
  · exact fun _ different => check_set_other system vk different
  · exact fun _ different => Function.update_of_ne different _ _
  · intro last held
    simp only [Function.update_self, Option.some.injEq] at held
    exact .inl (Nat.le_of_eq held.symm)
  · intro row member same
    obtain current | ⟨newer, newest, unread, named, later⟩ := consistent.fetched vk (first_fetched fetched)
    · have equal := row_unique consistent.distinct member current same
      subst equal
      left
      intro found held
      exact ⟨check_set_self system row held, active⟩
    · have equal := row_unique consistent.distinct member newest (same.trans named.symm)
      subst equal
      right
      refine consistent.newerDue unread ?_ ?_ ?_
      · rfl
      · rfl
      · intro seen held
        simp only [same, Function.update_self, Option.some.injEq] at held
        omega

theorem Consistent.removed (consistent : Consistent system) (fetched : system.poll = .processing (vk :: rows)) :
    Consistent { system.removeVirtualKey vk.keyHash with
      lastSeen := Function.update system.lastSeen vk.keyHash none, poll := .processing rows } := by
  apply consistent.processing fetched
  · rfl
  · rfl
  · rfl
  · rfl
  · exact fun _ different => check_remove_other system different
  · exact fun _ different => Function.update_of_ne different _ _
  · intro last held
    simp only [Function.update_self] at held
    cases held
  · intro row member same
    left
    intro found held
    rw [same] at held
    cases (check_remove_self system vk.keyHash).symm.trans held

theorem Consistent.processed (consistent : Consistent system) (fetched : system.poll = .processing (vk :: rows)) :
    Consistent { system.processRow vk with poll := .processing rows } := by
  obtain ⟨same, last, seen, before⟩ | ⟨active, same⟩ | ⟨inactive, same⟩ := processRow_cases system vk
  · rw [same]
    exact consistent.skipped fetched seen before
  · rw [same]
    exact consistent.upserted fetched active
  · rw [same]
    exact consistent.removed fetched

end Processing

theorem consistent_step (system : System) (event : Event) (next : System) (consistent : Consistent system)
    (timely : Timely system event) (taken : step system event = some next) : Consistent next := by
  cases step_moved taken with
  | updated vk => exact consistent.updated timely
  | began idle => exact consistent.began idle
  | queried started polled fetched => exact consistent.queried polled fetched
  | unqueried started first => exact consistent.unqueried started first
  | processed fetched => exact consistent.processed fetched
  | failed busy => exact consistent.failed
  | finished done => exact consistent.finished done timely
  | asked keyHash => exact consistent.looked _
  | held found cached => exact consistent.looked _
  | missed found absent => exact consistent.looked _
  | loaded found row => exact consistent.looked _
  | uncached found => exact consistent.looked _
  | unknown found => exact consistent.looked _
  | inserted found =>
    obtain ⟨current, active⟩ := timely _ (by rw [found]; rfl)
    exact (consistent.inserted current active).looked _

/-- Every key in memory is an active row of the table. -/
def Agrees (system : System) : Prop :=
  ∀ keyHash vk, system.checkVirtualKey keyHash = some vk → vk ∈ system.table ∧ vk.keyHash = keyHash ∧ vk.isActive = true

theorem Consistent.agrees (consistent : Consistent system) (done : system.poll = .processing []) (read : system.unread = []) :
    Agrees system := by
  intro keyHash vk held
  obtain ⟨row, member, rfl⟩ := consistent.cached keyHash vk held
  obtain settled | due := consistent.handled row member
  · obtain ⟨rfl, active⟩ := settled vk held
    exact ⟨member, rfl, active⟩
  · have waits := due.waits
    simp [Waits, done, read, PollStage.rows, PollStage.asks] at waits

/-- Steps within one poll, and steps of lookups. -/
def Event.continues : Event → Bool
  | .update _ | .beginPoll | .failPoll | .finishPoll _ => false
  | _ => true

/-- The running poll has yet to query, or nothing was written since it did. -/
def Reading (system : System) : Prop :=
  system.poll = .started ∨ (system.poll.asks = false ∧ (system.lastPollTime = none ∨ system.unread = []))

theorem reading_step (system : System) (event : Event) (next : System) (reading : Reading system)
    (continues : event.continues = true) (taken : step system event = some next) : Reading next := by
  cases step_moved taken with
  | updated | began | failed | finished => cases continues
  | queried started polled fetched => exact .inr ⟨rfl, .inr rfl⟩
  | unqueried started first => exact .inr ⟨rfl, .inl first⟩
  | @processed vk rows fetched =>
    obtain started | ⟨_, read⟩ := reading
    · cases fetched.symm.trans started
    · right
      simp only [processRow_lastPollTime, processRow_unread]
      exact ⟨rfl, read⟩
  | asked | held | missed | loaded | uncached | unknown | inserted => exact reading

end Steps

/-- A poll that begins after the last update and completes leaves only active rows of the
table in memory, if every step before it was timely. -/
theorem poll_catches_up (table : Table) (before during : List Event) (time : Nat) (final : System)
    (distinct : (table.map DbVirtualKey.keyHash).Nodup) (continues : ∀ event ∈ during, event.continues = true)
    (ran : run step (.start table) (before ++ .beginPoll :: (during ++ [.finishPoll time])) = some final)
    (timely : Along step Timely (.start table) (before ++ .beginPoll :: (during ++ [.finishPoll time]))) : Agrees final := by
  obtain ⟨start, first, ran⟩ := run_append ran
  obtain ⟨early, timely⟩ := timely.append first
  have consistent := run_invariant consistent_step (consistent_start table distinct) early first
  obtain ⟨begun, began, ran⟩ := run_cons ran
  have consistent := consistent_step _ _ _ consistent timely.1 began
  have timely := timely.next began
  have reading : Reading begun := by
    cases step_moved began
    exact .inl rfl
  obtain ⟨polled, middle, ran⟩ := run_append ran
  obtain ⟨early, timely⟩ := timely.append middle
  have consistent := run_invariant consistent_step consistent early middle
  have reading := run_invariant reading_step reading (along_of_forall _ continues) middle
  obtain ⟨ended, finished, ran⟩ := run_cons ran
  cases ran
  cases step_moved finished with
  | finished done =>
    have read : polled.unread = [] := by
      obtain started | ⟨_, first | read⟩ := reading
      · cases done.symm.trans started
      · exact timely.1.1 first
      · exact read
    exact consistent.agrees done read

def activeKey : DbVirtualKey := ⟨"kh", "active", none, 1, none, none, none, none⟩

def revokedKey : DbVirtualKey := { activeKey with status := "inactive", updatedAt := 10 }

/-- The first poll ends, a key is revoked, and the next poll takes it out. -/
theorem revoked_between_polls :
    ((run step (.start [activeKey]) ([.beginPoll, .query [], .finishPoll 5, .update revokedKey] ++
      .beginPoll :: ([.query [revokedKey], .process] ++ [.finishPoll 20]))).map fun final =>
        final.checkVirtualKey "kh") = some none ∧
      ∀ final, run step (.start [activeKey]) ([.beginPoll, .query [], .finishPoll 5, .update revokedKey] ++
        .beginPoll :: ([.query [revokedKey], .process] ++ [.finishPoll 20])) = some final → Agrees final :=
  ⟨by decide, fun final ran =>
    poll_catches_up [activeKey] [.beginPoll, .query [], .finishPoll 5, .update revokedKey] [.query [revokedKey], .process] 20
      final (by decide) (by decide) ran (by decide)⟩

/-- The key is revoked after the second poll's query and before its end: the third poll
asks only for what is later. -/
theorem revoked_while_polling :
    ¬ ∀ (table : Table) (before during : List Event) (time : Nat) (final : System),
      (table.map DbVirtualKey.keyHash).Nodup → (∀ event ∈ during, event.continues = true) →
        run step (.start table) (before ++ .beginPoll :: (during ++ [.finishPoll time])) = some final → Agrees final := by
  intro agrees
  have kept : ((run step (.start [activeKey])
      ([.beginPoll, .query [], .finishPoll 5, .beginPoll, .query [], .update revokedKey, .finishPoll 20] ++
        .beginPoll :: ([.query []] ++ [.finishPoll 30]))).map fun final => (final.checkVirtualKey "kh", final.table)) =
          some (some activeKey, [revokedKey]) := by decide
  obtain ⟨final, ran, values⟩ := Option.map_eq_some_iff.mp kept
  obtain ⟨held, rows⟩ := Prod.mk.inj values
  have current := (agrees [activeKey] _ [.query []] 30 final (by decide) (by decide) ran "kh" activeKey held).1
  rw [rows] at current
  exact absurd current (by decide)

end AiGateway.VirtualKeyStore
