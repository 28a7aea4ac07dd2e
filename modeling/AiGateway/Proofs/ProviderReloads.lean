import AiGateway.ProviderReload

/-! Whether a change of the providers reaches the dynamic router once a poll succeeds. -/

namespace AiGateway.ProviderReload

open Lib.Runs

/-- Everything a step can do. -/
inductive Moved (environment : Environment) (system : System) : Event → System → Prop where
  | changed (db : Database) : Moved environment system (.change db) { system with db := db, changes := system.changes + 1 }
  | began (idle : system.poll = .idle) : Moved environment system .beginPoll { system with poll := .started }
  | gaveUp (started : system.poll = .started) : Moved environment system .failPoll { system with poll := .idle }
  | probed {ok : Bool} (started : system.poll = .started)
      (due : ∀ since, system.lastPollTime = some since → (ok && system.db.hasProvidersUpdatedSince since) = true) :
      Moved environment system (.probe ok) { system with poll := .reloading }
  | unchanged {ok : Bool} {since : Nat} (started : system.poll = .started) (polled : system.lastPollTime = some since)
      (undue : (ok && system.db.hasProvidersUpdatedSince since) = false) :
      Moved environment system (.probe ok) { system with poll := .checked }
  | fetchedProviders (reloading : system.poll = .reloading) :
      Moved environment system (.fetchProviders true)
        { system with poll := .fetched system.db.getAllProvidersForGateway system.changes }
  | lostProviders (reloading : system.poll = .reloading) :
      Moved environment system (.fetchProviders false) { system with poll := .checked }
  | fetchedModels {rows : List DbGatewayProvider} {seen : Nat} {built : Built} (fetched : system.poll = .fetched rows seen)
      (derived : built = buildFromDb environment rows system.db.getAllProviderModelsForGateway) :
      Moved environment system (.fetchModels true) { system with
        providerIsRouterFlags := rows.map fun row => (row.code, row.isRouter)
        built := built
        poll := .sending built.routerIds
          (system.currentProviderRouterIds.filter fun id => !built.routerIds.contains id) built.routerIds seen }
  | lostModels {rows : List DbGatewayProvider} {seen : Nat} (fetched : system.poll = .fetched rows seen) :
      Moved environment system (.fetchModels false) { system with poll := .checked }
  | removed {new removes inserts : List RouterId} {seen : Nat} {id : RouterId}
      (sending : system.poll = .sending new removes inserts seen) (listed : id ∈ removes) :
      Moved environment system (.sendRemove id true) { system with
        routers := system.routers.filter fun router => router != id
        poll := .sending new (removes.filter fun other => other != id) inserts seen }
  | lostRemove {new removes inserts : List RouterId} {seen : Nat} {id : RouterId}
      (sending : system.poll = .sending new removes inserts seen) :
      Moved environment system (.sendRemove id false) { system with poll := .checked }
  | inserted {new inserts : List RouterId} {seen : Nat} {id : RouterId}
      (sending : system.poll = .sending new [] inserts seen) (listed : id ∈ inserts) :
      Moved environment system (.sendInsert id true) { system with
        routers := id :: system.routers.filter fun router => router != id
        poll := .sending new [] (inserts.filter fun other => other != id) seen }
  | lostInsert {new inserts : List RouterId} {seen : Nat} {id : RouterId}
      (sending : system.poll = .sending new [] inserts seen) :
      Moved environment system (.sendInsert id false) { system with poll := .checked }
  | skipped {new inserts : List RouterId} {seen : Nat} {id : RouterId} (sending : system.poll = .sending new [] inserts seen) :
      Moved environment system (.skipRouter id)
        { system with poll := .sending new [] (inserts.filter fun other => other != id) seen }
  | reloaded {new : List RouterId} {seen : Nat} (sending : system.poll = .sending new [] [] seen) :
      Moved environment system .finishReload
        { system with currentProviderRouterIds := new, loaded := seen, poll := .checked }
  | finished {time : Nat} (checked : system.poll = .checked) :
      Moved environment system (.finishPoll time) { system with lastPollTime := some time, poll := .idle }

section Probe
variable {lastPollTime : Option Nat} {probe : Nat → Bool}

theorem shouldReload_iff : shouldReloadProviders lastPollTime (lastPollTime.map probe) = true ↔
    ∀ since, lastPollTime = some since → probe since = true := by
  cases lastPollTime <;> simp [shouldReloadProviders]

theorem not_shouldReload (undue : ¬ shouldReloadProviders lastPollTime (lastPollTime.map probe) = true) :
    ∃ since, lastPollTime = some since ∧ probe since = false := by
  cases lastPollTime with
  | none => simp [shouldReloadProviders] at undue
  | some since => exact ⟨since, rfl, by simpa [shouldReloadProviders] using undue⟩

end Probe

section Steps
variable {environment : Environment} {system next : System} {event : Event}

theorem step_moved (taken : step environment system event = some next) : Moved environment system event next := by
  cases event with
  | change db => cases taken; exact .changed db
  | beginPoll =>
    simp only [step] at taken
    split at taken
    next idle => cases taken; exact .began idle
    next => cases taken
  | failPoll =>
    simp only [step] at taken
    split at taken
    next started => cases taken; exact .gaveUp started
    next => cases taken
  | probe ok =>
    simp only [step] at taken
    split at taken
    next started =>
      split at taken
      next due => cases taken; exact .probed started (shouldReload_iff.mp due)
      next undue =>
        cases taken
        obtain ⟨since, polled, quiet⟩ := not_shouldReload undue
        exact .unchanged started polled quiet
    next => cases taken
  | fetchProviders ok =>
    simp only [step] at taken
    split at taken
    next reloading =>
      cases ok with
      | true => cases taken; exact .fetchedProviders reloading
      | false => cases taken; exact .lostProviders reloading
    next => cases taken
  | fetchModels ok =>
    simp only [step] at taken
    split at taken
    next rows seen fetched =>
      cases ok with
      | true => cases taken; exact .fetchedModels fetched rfl
      | false => cases taken; exact .lostModels fetched
    next => cases taken
  | sendRemove id ok =>
    simp only [step] at taken
    split at taken
    next new removes inserts seen sending =>
      split at taken
      next listed =>
        cases ok with
        | true => cases taken; exact .removed sending (List.contains_iff_mem.mp listed)
        | false => cases taken; exact .lostRemove sending
      next => cases taken
    next => cases taken
  | sendInsert id ok =>
    simp only [step] at taken
    split at taken
    next new inserts seen sending =>
      split at taken
      next listed =>
        cases ok with
        | true => cases taken; exact .inserted sending (List.contains_iff_mem.mp listed)
        | false => cases taken; exact .lostInsert sending
      next => cases taken
    next => cases taken
  | skipRouter id =>
    simp only [step] at taken
    split at taken
    next new inserts seen sending =>
      split at taken
      next => cases taken; exact .skipped sending
      next => cases taken
    next => cases taken
  | finishReload =>
    simp only [step] at taken
    split at taken
    next new seen sending => cases taken; exact .reloaded sending
    next => cases taken
  | finishPoll time =>
    simp only [step] at taken
    split at taken
    next checked => cases taken; exact .finished checked
    next => cases taken

end Steps

/-- The routers the listener will have recorded when the reload under way is done. -/
def Poll.incoming : Poll → List RouterId
  | .sending newRouterIds _ _ _ => newRouterIds
  | _ => []

/-- The listener will find this router when it compares: in its record, or among those of
the reload under way. -/
def Tracked (system : System) (id : RouterId) : Prop :=
  id ∈ system.currentProviderRouterIds ∨ id ∈ system.poll.incoming

/-- The number of changes before the reload under way began to read. -/
def Poll.seen : Poll → Option Nat
  | .fetched _ seen | .sending _ _ _ seen => some seen
  | _ => none

/-- A change that is not loaded is one the next probe sees, and a router the listener does
not track is one the tables still have. -/
structure Sound (environment : Environment) (system : System) : Prop where
  counted : system.loaded ≤ system.changes
  reading : ∀ seen, system.poll.seen = some seen → system.loaded ≤ seen ∧ seen ≤ system.changes
  visible : system.loaded < system.changes → ∀ since, system.lastPollTime = some since →
    system.db.hasProvidersUpdatedSince since = true
  accounted : ∀ id ∈ system.routers, Tracked system id ∨ id ∈ derivedRouterIds environment system.db
  compared : ∀ new removes inserts seen, system.poll = .sending new removes inserts seen →
    (∀ id ∈ inserts, id ∈ new) ∧ ∀ id ∈ system.routers, id ∈ system.currentProviderRouterIds → id ∈ new ∨ id ∈ removes

/-- A change stamps a row later than the last poll and drops no router the listener does
not track; a send fails only when every router is tracked or still derived; a poll ends
only when every change is loaded, or one of its rows is stamped later. -/
def Kept (environment : Environment) (system : System) : Event → Prop
  | .change db =>
    (∀ since ∈ system.lastPollTime, db.hasProvidersUpdatedSince since = true) ∧
      ∀ id ∈ system.routers, Tracked system id ∨ id ∈ derivedRouterIds environment db
  | .sendRemove _ false | .sendInsert _ false =>
    ∀ id ∈ system.routers, id ∈ system.currentProviderRouterIds ∨ id ∈ derivedRouterIds environment system.db
  | .finishPoll finished => system.loaded < system.changes → system.db.hasProvidersUpdatedSince finished = true
  | _ => True

instance Tracked.decidable (system : System) (id : RouterId) : Decidable (Tracked system id) :=
  inferInstanceAs (Decidable (_ ∨ _))

instance Kept.decidable (environment : Environment) (system : System) :
    ∀ event, Decidable (Kept environment system event)
  | .change db =>
    inferInstanceAs (Decidable ((∀ since ∈ system.lastPollTime, db.hasProvidersUpdatedSince since = true) ∧
      ∀ id ∈ system.routers, Tracked system id ∨ id ∈ derivedRouterIds environment db))
  | .sendRemove _ false | .sendInsert _ false =>
    inferInstanceAs (Decidable (∀ id ∈ system.routers,
      id ∈ system.currentProviderRouterIds ∨ id ∈ derivedRouterIds environment system.db))
  | .finishPoll finished =>
    inferInstanceAs (Decidable (system.loaded < system.changes → system.db.hasProvidersUpdatedSince finished = true))
  | .sendRemove _ true | .sendInsert _ true | .beginPoll | .failPoll | .probe _ | .fetchProviders _ | .fetchModels _
  | .skipRouter _ | .finishReload => .isTrue trivial

section Invariant
variable {environment : Environment} {system : System}

/-- Between reloads only the record counts. -/
theorem Sound.recorded (sound : Sound environment system) (quiet : system.poll.incoming = []) {id : RouterId}
    (member : id ∈ system.routers) :
    id ∈ system.currentProviderRouterIds ∨ id ∈ derivedRouterIds environment system.db := by
  obtain (recorded | incoming) | derived := sound.accounted id member
  · exact .inl recorded
  · rw [quiet] at incoming
    cases incoming
  · exact .inr derived

/-- The routers of the reload under way stay tracked when its lists shrink. -/
theorem Sound.accounted_sending (sound : Sound environment system) {new removes inserts : List RouterId} {seen : Nat}
    (sending : system.poll = .sending new removes inserts seen) {id : RouterId} (member : id ∈ system.routers) :
    (id ∈ system.currentProviderRouterIds ∨ id ∈ new) ∨ id ∈ derivedRouterIds environment system.db := by
  have accounted := sound.accounted id member
  rwa [Tracked, sending] at accounted

theorem Sound.start (db : Database) (unbuilt : List RouterId) : Sound environment (.start environment db unbuilt) where
  counted := Nat.le_refl _
  reading := nofun
  visible := nofun
  accounted := fun _ member => .inr (List.mem_of_mem_filter member)
  compared := nofun

/-- The listener moves between stages where no reload is under way. -/
theorem Sound.moved (sound : Sound environment system) {poll : Poll} (quiet : poll.seen = none)
    (before : system.poll.incoming = []) : Sound environment { system with poll := poll } where
  counted := sound.counted
  reading := by
    intro seen reading
    rw [quiet] at reading
    cases reading
  visible := sound.visible
  accounted := fun id member => (sound.recorded before member).imp_left .inl
  compared := by
    rintro new removes inserts seen rfl
    cases quiet

/-- The reload fails at a send. -/
theorem Sound.failed (sound : Sound environment system)
    (kept : ∀ id ∈ system.routers, id ∈ system.currentProviderRouterIds ∨ id ∈ derivedRouterIds environment system.db) :
    Sound environment { system with poll := .checked } where
  counted := sound.counted
  reading := nofun
  visible := sound.visible
  accounted := fun id member => (kept id member).imp_left .inl
  compared := nofun

theorem sound_step (system : System) (event : Event) (next : System) (sound : Sound environment system)
    (kept : Kept environment system event) (taken : step environment system event = some next) : Sound environment next := by
  cases step_moved taken with
  | changed db =>
    refine ⟨Nat.le_succ_of_le sound.counted, ?_, fun _ => kept.1, kept.2, sound.compared⟩
    intro seen reading
    obtain ⟨earlier, later⟩ := sound.reading seen reading
    exact ⟨earlier, Nat.le_succ_of_le later⟩
  | began idle => exact sound.moved rfl (by rw [idle]; rfl)
  | gaveUp started => exact sound.moved rfl (by rw [started]; rfl)
  | probed started due => exact sound.moved rfl (by rw [started]; rfl)
  | unchanged started polled undue => exact sound.moved rfl (by rw [started]; rfl)
  | fetchedProviders reloading =>
    refine ⟨sound.counted, ?_, sound.visible, ?_, nofun⟩
    · intro seen reading
      cases reading
      exact ⟨sound.counted, Nat.le_refl _⟩
    · intro id member
      exact (sound.recorded (by rw [reloading]; rfl) member).imp_left .inl
  | lostProviders reloading => exact sound.moved rfl (by rw [reloading]; rfl)
  | @fetchedModels rows seen built fetched derived =>
    refine ⟨sound.counted, ?_, sound.visible, ?_, ?_⟩
    · intro other reading
      cases reading
      exact sound.reading seen (by rw [fetched]; rfl)
    · intro id member
      exact (sound.recorded (by rw [fetched]; rfl) member).imp_left .inl
    · intro new removes inserts other sending
      cases sending
      refine ⟨fun _ member => member, ?_⟩
      intro id _ recorded
      by_cases present : id ∈ built.routerIds
      · exact .inl present
      · exact .inr (List.mem_filter.mpr ⟨recorded, by simpa using present⟩)
  | lostModels fetched => exact sound.moved rfl (by rw [fetched]; rfl)
  | @removed new removes inserts seen id sending listed =>
    obtain ⟨included, compared⟩ := sound.compared new removes inserts seen sending
    refine ⟨sound.counted, ?_, sound.visible, ?_, ?_⟩
    · intro other reading
      cases reading
      exact sound.reading seen (by rw [sending]; rfl)
    · intro router member
      exact sound.accounted_sending sending (List.mem_of_mem_filter member)
    · intro _ _ _ _ same
      cases same
      refine ⟨included, ?_⟩
      intro router member recorded
      obtain ⟨present, different⟩ := List.mem_filter.mp member
      exact (compared router present recorded).imp_right fun listed => List.mem_filter.mpr ⟨listed, different⟩
  | lostRemove sending => exact sound.failed kept
  | @inserted new inserts seen id sending listed =>
    obtain ⟨included, compared⟩ := sound.compared new [] inserts seen sending
    refine ⟨sound.counted, ?_, sound.visible, ?_, ?_⟩
    · intro other reading
      cases reading
      exact sound.reading seen (by rw [sending]; rfl)
    · intro router member
      obtain rfl | kept := List.mem_cons.mp member
      · exact .inl (.inr (included router listed))
      · exact sound.accounted_sending sending (List.mem_of_mem_filter kept)
    · intro _ _ _ _ same
      cases same
      refine ⟨fun router member => included router (List.mem_of_mem_filter member), ?_⟩
      intro router member recorded
      obtain rfl | kept := List.mem_cons.mp member
      · exact .inl (included router listed)
      · exact compared router (List.mem_of_mem_filter kept) recorded
  | lostInsert sending => exact sound.failed kept
  | @skipped new inserts seen id sending =>
    obtain ⟨included, compared⟩ := sound.compared new [] inserts seen sending
    refine ⟨sound.counted, ?_, sound.visible, ?_, ?_⟩
    · intro other reading
      cases reading
      exact sound.reading seen (by rw [sending]; rfl)
    · intro router member
      exact sound.accounted_sending sending member
    · intro _ _ _ _ same
      cases same
      exact ⟨fun router member => included router (List.mem_of_mem_filter member), compared⟩
  | @reloaded new seen sending =>
    obtain ⟨_, compared⟩ := sound.compared new [] [] seen sending
    obtain ⟨earlier, later⟩ := sound.reading seen (by rw [sending]; rfl)
    refine ⟨later, nofun, ?_, ?_, nofun⟩
    · intro unloaded
      exact sound.visible (Nat.lt_of_le_of_lt earlier unloaded)
    · intro router member
      refine (sound.accounted_sending sending member).imp_left fun tracked => .inl ?_
      obtain recorded | inside := tracked
      · obtain present | listed := compared router member recorded
        · exact present
        · cases listed
      · exact inside
  | @finished time checked =>
    refine ⟨sound.counted, nofun, ?_, ?_, nofun⟩
    · intro unloaded since polled
      cases polled
      exact kept unloaded
    · intro router member
      exact (sound.recorded (by rw [checked]; rfl) member).imp_left .inl

end Invariant

/-- A step of a poll that goes well, with the tables left alone. -/
def Succeeds : Event → Prop
  | .probe ok | .fetchProviders ok | .fetchModels ok | .sendRemove _ ok | .sendInsert _ ok => ok = true
  | .finishReload => True
  | .change _ | .beginPoll | .failPoll | .skipRouter _ | .finishPoll _ => False

/-- The routers are those of the tables. -/
def InStep (environment : Environment) (system : System) : Prop :=
  ∀ id, id ∈ system.routers ↔ id ∈ derivedRouterIds environment system.db

/-- What a poll that goes well has reached when it stands at a stage. -/
def Reached (environment : Environment) (system : System) : Prop :=
  match system.poll with
  | .idle => False
  | .started =>
    (∀ since, system.lastPollTime = some since → system.db.hasProvidersUpdatedSince since = true) ∧
      ∀ id ∈ system.routers, id ∈ system.currentProviderRouterIds ∨ id ∈ derivedRouterIds environment system.db
  | .reloading =>
    ∀ id ∈ system.routers, id ∈ system.currentProviderRouterIds ∨ id ∈ derivedRouterIds environment system.db
  | .fetched rows seen =>
    rows = system.db.getAllProvidersForGateway ∧ seen = system.changes ∧
      ∀ id ∈ system.routers, id ∈ system.currentProviderRouterIds ∨ id ∈ derivedRouterIds environment system.db
  | .sending new removes inserts seen =>
    new = derivedRouterIds environment system.db ∧ seen = system.changes ∧ (∀ id ∈ removes, id ∉ new) ∧
      (∀ id ∈ inserts, id ∈ new) ∧ (∀ id ∈ system.routers, id ∈ new ∨ id ∈ removes) ∧
        ∀ id ∈ new, id ∈ system.routers ∨ id ∈ inserts
  | .checked => system.loaded = system.changes ∧ InStep environment system

section Success
variable {environment : Environment}

theorem reached_step (system : System) (event : Event) (next : System) (reached : Reached environment system)
    (succeeds : Succeeds event) (taken : step environment system event = some next) : Reached environment next := by
  cases step_moved taken with
  | changed | began | gaveUp | skipped | finished => exact succeeds.elim
  | lostProviders | lostModels | lostRemove | lostInsert => cases succeeds
  | probed started due =>
    rw [Reached, started] at reached
    exact reached.2
  | @unchanged ok since started polled undue =>
    rw [Reached, started] at reached
    have due := reached.1 since polled
    cases succeeds
    rw [due] at undue
    cases undue
  | fetchedProviders reloading =>
    rw [Reached, reloading] at reached
    exact ⟨rfl, rfl, reached⟩
  | @fetchedModels rows seen built fetched derived =>
    rw [Reached, fetched] at reached
    obtain ⟨rfl, rfl, recorded⟩ := reached
    subst derived
    refine ⟨rfl, rfl, ?_, fun _ member => member, ?_, fun _ member => .inr member⟩
    · intro id listed
      simpa using (List.mem_filter.mp listed).2
    · intro id member
      obtain tracked | present := recorded id member
      · by_cases present : id ∈ derivedRouterIds environment system.db
        · exact .inl present
        · exact .inr (List.mem_filter.mpr ⟨tracked, by simpa [derivedRouterIds] using present⟩)
      · exact .inl present
  | @removed new removes inserts seen id sending listed =>
    rw [Reached, sending] at reached
    obtain ⟨derived, counted, dropped, included, covered, complete⟩ := reached
    refine ⟨derived, counted, fun router member => dropped router (List.mem_of_mem_filter member), included, ?_, ?_⟩
    · intro router member
      obtain ⟨present, different⟩ := List.mem_filter.mp member
      exact (covered router present).imp_right fun listed => List.mem_filter.mpr ⟨listed, different⟩
    · intro router wanted
      have different : router ≠ id := fun same => dropped id listed (same ▸ wanted)
      exact (complete router wanted).imp_left fun present => List.mem_filter.mpr ⟨present, by simpa using different⟩
  | @inserted new inserts seen id sending listed =>
    rw [Reached, sending] at reached
    obtain ⟨derived, counted, dropped, included, covered, complete⟩ := reached
    refine ⟨derived, counted, dropped, fun router member => included router (List.mem_of_mem_filter member), ?_, ?_⟩
    · intro router member
      obtain rfl | kept := List.mem_cons.mp member
      · exact .inl (included router listed)
      · exact covered router (List.mem_of_mem_filter kept)
    · intro router wanted
      by_cases same : router = id
      · exact .inl (same ▸ List.mem_cons_self)
      · refine (complete router wanted).imp (fun present => List.mem_cons_of_mem _ ?_) fun left => ?_
        · exact List.mem_filter.mpr ⟨present, by simpa using same⟩
        · exact List.mem_filter.mpr ⟨left, by simpa using same⟩
  | @reloaded new seen sending =>
    rw [Reached, sending] at reached
    obtain ⟨derived, counted, _, _, covered, complete⟩ := reached
    refine ⟨counted, ?_⟩
    intro router
    rw [← derived]
    exact ⟨fun member => (covered router member).resolve_right nofun,
      fun wanted => (complete router wanted).resolve_right nofun⟩

/-- From any state where an unloaded change is visible to the probe and the routers are
accounted for, a poll whose steps all succeed loads the change. -/
theorem Sound.loads {system final : System} {poll : List Event} {finished : Nat} (sound : Sound environment system)
    (unloaded : system.loaded < system.changes) (succeeds : ∀ event ∈ poll, Succeeds event)
    (ran : run (step environment) system (.beginPoll :: poll ++ [.finishPoll finished]) = some final) :
    final.loaded = final.changes ∧ InStep environment final := by
  obtain ⟨middle, polled, last⟩ := run_append ran
  obtain ⟨started, began, polled⟩ := run_cons polled
  obtain ⟨ended, finish, same⟩ := run_cons last
  cases same
  have first : Reached environment started := by
    cases step_moved began with
    | began idle => exact ⟨sound.visible unloaded, fun id member => sound.recorded (by rw [idle]; rfl) member⟩
  have reached := run_invariant reached_step first (along_of_forall started succeeds) polled
  cases step_moved finish with
  | finished checked =>
    rw [Reached, checked] at reached
    exact reached

end Success

/-- In every run that keeps the conditions, a poll whose steps all succeed loads every
change that came since the last successful reload, and leaves the routers of the tables. -/
theorem unloaded_change_reloaded (environment : Environment) (db : Database) (unbuilt : List RouterId)
    (before poll : List Event) (system final : System) (finished : Nat)
    (ran : run (step environment) (.start environment db unbuilt) before = some system)
    (kept : Along (step environment) (Kept environment) (.start environment db unbuilt) before)
    (unloaded : system.loaded < system.changes) (succeeds : ∀ event ∈ poll, Succeeds event)
    (polled : run (step environment) system (.beginPoll :: poll ++ [.finishPoll finished]) = some final) :
    final.loaded = final.changes ∧ InStep environment final := by
  have sound := run_invariant sound_step (Sound.start db unbuilt) kept ran
  exact sound.loads unloaded succeeds polled

/-- No provider is bundled and no model has a date. -/
def plainEnvironment : Environment where
  parseUrl := some
  chrono := ⟨fun _ _ => none, fun _ _ => [], 2026⟩
  embeddedDefaults _ := none

def openAiRow : DbGatewayProvider := ⟨1, "openai", some "https://api.openai.com/", false, true, 1⟩

def groqRow : DbGatewayProvider := ⟨2, "groq", some "https://api.groq.com/", false, true, 20⟩

def openAiOnly : Database := ⟨[openAiRow], []⟩

def groqAdded : Database := ⟨[openAiRow, groqRow], []⟩

/-- The first poll, which always reloads. -/
def firstPoll : List Event :=
  [.beginPoll, .probe true, .fetchProviders true, .fetchModels true, .sendInsert ⟨"openai"⟩ true, .finishReload, .finishPoll 10]

/-- The steps of a reload of both providers. -/
def reloadBoth : List Event :=
  [.probe true, .fetchProviders true, .fetchModels true, .sendInsert ⟨"openai"⟩ true, .sendInsert ⟨"groq"⟩ true, .finishReload]

/-- A provider is added, and the next poll fails before its probe. -/
theorem added_provider_reloaded :
    (run (step plainEnvironment) (.start plainEnvironment openAiOnly []) (firstPoll ++ [.change groqAdded, .beginPoll, .failPoll] ++
      .beginPoll :: reloadBoth ++ [.finishPoll 30])).map System.routers = some [⟨"groq"⟩, ⟨"openai"⟩] ∧
      ∀ system final, run (step plainEnvironment) (.start plainEnvironment openAiOnly [])
        (firstPoll ++ [.change groqAdded, .beginPoll, .failPoll]) = some system →
          run (step plainEnvironment) system (.beginPoll :: reloadBoth ++ [.finishPoll 30]) = some final →
            final.loaded = final.changes ∧ InStep plainEnvironment final := by
  refine ⟨by decide, ?_⟩
  intro system final ran polled
  have counts : (run (step plainEnvironment) (.start plainEnvironment openAiOnly [])
      (firstPoll ++ [.change groqAdded, .beginPoll, .failPoll])).map (fun system => (system.loaded, system.changes)) =
        some (0, 1) := by decide
  rw [ran, Option.map_some, Option.some.injEq, Prod.mk.injEq] at counts
  refine unloaded_change_reloaded plainEnvironment openAiOnly [] _ _ system final 30 ran (by decide) ?_ ?_ polled
  · rw [counts.1, counts.2]
    decide
  · simp [reloadBoth, Succeeds]

/-- A poll whose probe sees no row later than the last poll leaves everything as it was. -/
theorem quiet_poll {environment : Environment} {system : System} {since : Nat} (idle : system.poll = .idle)
    (polled : system.lastPollTime = some since) (undue : system.db.hasProvidersUpdatedSince since = false) :
    run (step environment) system [.beginPoll, .probe true, .finishPoll since] = some system := by
  obtain ⟨db, flags, built, routers, lastPollTime, current, poll, changes, loaded⟩ := system
  cases idle
  cases polled
  simp only at undue
  simp [run, step, shouldReloadProviders, undue]

theorem quiet_polls {environment : Environment} {system : System} {since : Nat} (idle : system.poll = .idle)
    (polled : system.lastPollTime = some since) (undue : system.db.hasProvidersUpdatedSince since = false) (count : Nat) :
    run (step environment) system
      ((List.replicate count ([Event.probe true], since)).flatMap fun poll => .beginPoll :: poll.1 ++ [.finishPoll poll.2]) =
        some system := by
  induction count with
  | zero => rfl
  | succ count ih =>
    rw [List.replicate_succ, List.flatMap_cons]
    exact run_trans (quiet_poll idle polled undue) ih

/-- The probe after the addition fails, and the poll ends as if nothing had changed:
however many polls follow whose steps all succeed, none of them loads the provider. -/
theorem failed_probe_loses_provider :
    ¬ ∀ (environment : Environment) (db : Database) (unbuilt : List RouterId) (before : List Event) (system : System),
      run (step environment) (.start environment db unbuilt) before = some system → system.loaded < system.changes →
        ∃ count, ∀ polls : List (List Event × Nat), polls.length = count →
          (∀ poll ∈ polls, ∀ event ∈ poll.1, Succeeds event) → ∀ final,
            run (step environment) system (polls.flatMap fun poll => .beginPoll :: poll.1 ++ [.finishPoll poll.2]) =
              some final → final.loaded = final.changes ∧ InStep environment final := by
  intro reloads
  have reached : (run (step plainEnvironment) (.start plainEnvironment openAiOnly [])
      (firstPoll ++ [.change groqAdded, .beginPoll, .probe false, .finishPoll 30])).map
        (fun system => (system.poll, system.lastPollTime, system.db, system.loaded, system.changes)) =
          some (.idle, some 30, groqAdded, 0, 1) := by decide
  obtain ⟨system, ran, state⟩ := Option.map_eq_some_iff.mp reached
  simp only [Prod.mk.injEq] at state
  obtain ⟨idle, polled, tables, loaded, changes⟩ := state
  obtain ⟨count, eventually⟩ := reloads plainEnvironment openAiOnly [] _ system ran (by rw [loaded, changes]; decide)
  have undue : system.db.hasProvidersUpdatedSince 30 = false := by
    rw [tables]
    decide
  have succeed : ∀ poll ∈ List.replicate count ([Event.probe true], 30), ∀ event ∈ poll.1, Succeeds event := by
    intro poll member
    rw [List.eq_of_mem_replicate member]
    simp [Succeeds]
  have final := eventually _ List.length_replicate succeed system (quiet_polls idle polled undue count)
  rw [loaded, changes] at final
  cases final.1

end AiGateway.ProviderReload
