import AiGateway.RouterServices
import AiGateway.Lib.Histories
import AiGateway.Lib.SwapCache

/-! Which service a request for a model reaches, and when it reaches none. -/

namespace AiGateway.LatencyRouter

open Lib Lib.Runs Lib.Histories Lib.Comparisons ReadyCache

variable {μ κ σ ℓ : Type}

/-- What the event does to the services of its key's model. -/
def Event.effect : Event μ κ σ ℓ → Option (Effect κ σ)
  | .change (.insert key service) => some (.push key service)
  | .change (.remove key) => some (.evict key)
  | .promote key service failed => some (if failed then .fail key else .promote key service)
  | .call _ _ (.ok (key, _)) => some (.call key)
  | _ => none

/-- The service has been found ready, and has not been called, removed or replaced since. -/
def FoundReady (events : List (Event μ κ σ ℓ)) (key : κ) (service : σ) : Prop :=
  Since (fun event => event.effect = some (.promote key service))
    (fun event => ∃ effect, event.effect = some effect ∧ effect.Takes key) events

/-- The discovery has inserted the service, and has not removed its key since. -/
def Offered (events : List (Event μ κ σ ℓ)) (key : κ) (service : σ) : Prop :=
  Since (fun event => event = .change (.insert key service)) (fun event => event = .change (.remove key)) events

variable {library : ReadyLibrary κ σ} [DecidableEq μ] [Prints μ] [DecidableEq κ] [DecidableEq σ] [PartialOrd ℓ] {into : κ → μ}

def cacheAt (services : μ → Option (ReadyCache library)) (model : μ) : ReadyCache library := (services model).getD .empty

section Calls
variable {router next : Router μ library} {model : μ} {load : σ → ℓ} {answer : Except RouterError (κ × σ)}

omit [DecidableEq μ] [DecidableEq κ] [DecidableEq σ] in
/-- The index that is found is always one of a ready service. -/
theorem readyIndex_cases (router : Router μ library) (model : μ) (load : σ → ℓ) :
    (readyIndex router model load = .error (.noServicesAvailable (Prints.print model)) ∧ (cacheAt router.services model).ready = []) ∨
      ∃ cache index entry, router.services model = some cache ∧ readyIndex router model load = .ok index ∧
        cache.ready[index]? = some entry ∧ ∀ other ∈ cache.ready, ¬ Below (load other.2) (load entry.2) := by
  cases stored : router.services model with
  | none =>
    left
    refine ⟨by rw [readyIndex, stored], ?_⟩
    rw [cacheAt, stored]
    exact ready_empty
  | some cache =>
    cases found : minBy (orEqual fun entry : (κ × σ) × Nat => load entry.1.2) cache.ready.zipIdx with
    | none =>
      left
      refine ⟨by rw [readyIndex, stored]; dsimp only; rw [found], ?_⟩
      have empty : cache.ready.zipIdx = [] := by
        by_contra some
        have present := (minBy_isSome (orEqual fun entry : (κ × σ) × Nat => load entry.1.2) cache.ready.zipIdx).mpr some
        rw [found] at present
        cases present
      rw [cacheAt, stored]
      exact List.zipIdx_eq_nil_iff.mp empty
    | some least =>
      right
      obtain ⟨entry, index⟩ := least
      obtain ⟨member, least⟩ := minBy_least found
      have placed : cache.ready[index]? = some entry := List.mem_zipIdx_iff_getElem?.mp member
      refine ⟨cache, index, entry, rfl, by rw [readyIndex, stored]; dsimp only; rw [found], placed, ?_⟩
      intro other inside
      obtain ⟨place, found⟩ := List.getElem?_of_mem inside
      exact least (other, place) (List.mem_zipIdx_iff_getElem?.mpr found)

omit [DecidableEq κ] [DecidableEq σ] in
/-- A call never panics. -/
theorem call_cases (router : Router μ library) (model : μ) (load : σ → ℓ) :
    (call router (some model) load = some (router, .error (.noServicesAvailable (Prints.print model))) ∧
        (cacheAt router.services model).ready = []) ∨
      ∃ cache index key service, router.services model = some cache ∧ cache.ready[index]? = some (key, service) ∧
        (∀ other ∈ cache.ready, ¬ Below (load other.2) (load service)) ∧
        call router (some model) load =
          some ({ router with services := Function.update router.services model (some (cache.release index)) },
            .ok (key, service)) := by
  obtain ⟨failed, empty⟩ | ⟨cache, index, ⟨key, service⟩, stored, indexed, found, least⟩ := readyIndex_cases router model load
  · left
    refine ⟨?_, empty⟩
    dsimp only [call]
    rw [failed]
  · right
    refine ⟨cache, index, key, service, stored, found, least, ?_⟩
    dsimp only [call]
    rw [indexed, stored]
    dsimp only
    rw [found]

theorem call_taken {model : Option μ} (taken : step into router (.call model load answer) = some next) :
    router.phase = .idle ∧ call router model load = some (next, answer) := by
  dsimp only [step] at taken
  split at taken
  next idle =>
    split at taken
    next => cases taken
    next called =>
      split at taken
      next same => cases taken; exact ⟨idle, same ▸ called⟩
      next => cases taken
  next => cases taken

end Calls

section Effects
variable {router next : Router μ library} {event : Event μ κ σ ℓ}

/-- Every cache holds services under keys of its own model only. -/
def Filed (into : κ → μ) (services : μ → Option (ReadyCache library)) : Prop :=
  ∀ model key service, (key, service) ∈ (cacheAt services model).ready ∨ (key, service) ∈ (cacheAt services model).pending →
    into key = model

omit [Prints μ] [DecidableEq κ] [DecidableEq σ] in
theorem cacheAt_update (services : μ → Option (ReadyCache library)) (changed model : μ) (cache : ReadyCache library) :
    cacheAt (Function.update services changed (some cache)) model = if changed = model then cache else cacheAt services model := by
  rw [cacheAt, Function.update_apply]
  by_cases same : changed = model
  · rw [if_pos same, if_pos same.symm]
    rfl
  · rw [if_neg same, if_neg (Ne.symm same)]
    rfl

/-- One step changes the cache of one model at most, as its event's effect says. -/
structure Moves (into : κ → μ) (before after : μ → Option (ReadyCache library)) (effect : Option (Effect κ σ)) : Prop where
  changed : ∀ model, cacheAt after model =
    match effect with
    | none => cacheAt before model
    | some effect => if into effect.key = model then (cacheAt before model).apply effect else cacheAt before model
  waiting : ∀ key service, effect = some (.promote key service) → (key, service) ∈ (cacheAt before (into key)).pending

omit [Prints μ] [DecidableEq σ] in
theorem moves_update (services : μ → Option (ReadyCache library)) {model : μ} {cache : ReadyCache library} (effect : Effect κ σ)
    (own : into effect.key = model) (applied : cache = (cacheAt services model).apply effect)
    (waiting : ∀ key service, effect = .promote key service → (key, service) ∈ (cacheAt services model).pending) :
    Moves into services (Function.update services model (some cache)) (some effect) := by
  subst own
  refine ⟨?_, ?_⟩
  · intro model
    rw [cacheAt_update]
    dsimp only
    by_cases same : into effect.key = model
    · subst same
      rw [if_pos rfl, if_pos rfl]
      exact applied
    · rw [if_neg same, if_neg same]
  · rintro key service ⟨⟩
    exact waiting key service rfl

omit [Prints μ] [DecidableEq σ] [PartialOrd ℓ] in
theorem applyChange_moves (services : μ → Option (ReadyCache library)) (change : Balance.Change κ σ) :
    Moves into services (applyChange into services change) (Event.effect (.change change : Event μ κ σ ℓ)) := by
  cases change with
  | insert key service =>
    exact moves_update services (.push key service) rfl rfl fun key service same => by cases same
  | remove key =>
    cases stored : services (into key) with
    | none =>
      have same : applyChange into services (.remove key) = services := by
        rw [applyChange, stored]
      have empty : cacheAt services (into key) = .empty := by
        rw [cacheAt, stored]
        rfl
      rw [same]
      refine ⟨?_, fun _ _ same => by cases same⟩
      intro model
      show cacheAt services model = if into key = model then (cacheAt services model).apply (.evict key) else cacheAt services model
      by_cases own : into key = model
      · subst own
        rw [if_pos rfl, empty]
        exact (library.evict_empty key).symm
      · rw [if_neg own]
    | some cache =>
      have same : applyChange into services (.remove key) =
          Function.update services (into key) (some (cache.evict key)) := by
        rw [applyChange, stored]
      rw [same]
      refine moves_update services (.evict key) rfl ?_ fun _ _ same => by cases same
      rw [cacheAt, stored]
      rfl

theorem step_moves (filed : Filed into router.services) (taken : step into router event = some next) :
    Moves into router.services next.services event.effect := by
  cases event with
  | beginPoll | discoverError | endUpdate | endPromote =>
    dsimp only [step] at taken
    split at taken
    next => cases taken; exact ⟨fun _ => rfl, fun _ _ same => by cases same⟩
    next => cases taken
  | change change =>
    dsimp only [step] at taken
    split at taken
    next => cases taken; exact applyChange_moves router.services change
    next => cases taken
  | promote key service failed =>
    dsimp only [step] at taken
    split at taken
    next cache _ stored =>
      split at taken
      next waiting =>
        cases taken
        have held : cacheAt router.services (into key) = cache := by
          rw [cacheAt, stored]
          rfl
        cases failed with
        | true => exact moves_update router.services (.fail key) rfl (by rw [held]; rfl) fun _ _ same => by cases same
        | false =>
          refine moves_update router.services (.promote key service) rfl (by rw [held]; rfl) ?_
          rintro _ _ ⟨⟩
          rw [held]
          exact isPending_iff.mp waiting
      next => cases taken
    next => cases taken
  | call model load answer =>
    obtain ⟨_, called⟩ := call_taken taken
    cases model with
    | none =>
      cases called
      exact ⟨fun _ => rfl, fun _ _ same => by cases same⟩
    | some model =>
      obtain ⟨failed, _⟩ | ⟨cache, index, key, service, stored, found, _, done⟩ := call_cases router model load
      · cases failed.symm.trans called
        exact ⟨fun _ => rfl, fun _ _ same => by cases same⟩
      · cases done.symm.trans called
        have held : cacheAt router.services model = cache := by
          rw [cacheAt, stored]
          rfl
        have own := filed model key service (.inl (held ▸ List.mem_of_getElem? found))
        refine moves_update router.services (.call key) own ?_ fun _ _ same => by cases same
        rw [held]
        exact (callReady_of_ready found).symm

section Contents
omit [Prints μ] [DecidableEq σ]
variable {before after : μ → Option (ReadyCache library)} {effect : Option (Effect κ σ)} {key : κ} {service : σ}

def Contains (into : κ → μ) (services : μ → Option (ReadyCache library)) (key : κ) (service : σ) : Prop :=
  (key, service) ∈ (cacheAt services (into key)).ready ∨ (key, service) ∈ (cacheAt services (into key)).pending

theorem Moves.ready_iff (moves : Moves into before after effect) :
    (key, service) ∈ (cacheAt after (into key)).ready ↔
      effect = some (.promote key service) ∨
        ((key, service) ∈ (cacheAt before (into key)).ready ∧ ¬ ∃ taking, effect = some taking ∧ taking.Takes key) := by
  rw [moves.changed]
  cases effect with
  | none => simp
  | some effect =>
    by_cases own : into effect.key = into key
    · simp [own, mem_ready_apply]
    · have other : ¬ effect.Takes key := by
        intro takes
        cases effect with
        | push | fail => exact takes
        | evict | promote | call => exact own (congrArg into takes)
      have unlike : effect ≠ .promote key service := by
        rintro rfl
        exact own rfl
      simp [own, other, unlike]

/-- The effect is on another key, or the cache of the key has it applied. -/
theorem Moves.apply_cases (moves : Moves into before after effect) (model : μ) :
    ((∀ applied, effect = some applied → into applied.key ≠ model) ∧ cacheAt after model = cacheAt before model) ∨
      ∃ applied, effect = some applied ∧ into applied.key = model ∧
        cacheAt after model = (cacheAt before model).apply applied ∧
        ∀ key service, applied = .promote key service → (key, service) ∈ (cacheAt before model).pending := by
  have changed := moves.changed model
  cases effect with
  | none => exact .inl ⟨nofun, changed⟩
  | some effect =>
    dsimp only at changed
    by_cases own : into effect.key = model
    · rw [if_pos own] at changed
      refine .inr ⟨effect, rfl, own, changed, ?_⟩
      rintro key service rfl
      exact own ▸ moves.waiting key service rfl
    · rw [if_neg own] at changed
      refine .inl ⟨?_, changed⟩
      rintro _ ⟨⟩
      exact own

theorem Moves.filed (moves : Moves into before after effect) (filed : Filed into before) : Filed into after := by
  intro model key service inside
  obtain ⟨_, same⟩ | ⟨applied, _, own, same, waiting⟩ := moves.apply_cases model
  · rw [same] at inside
    exact filed model key service inside
  · rw [same] at inside
    obtain rfl | ⟨old, _⟩ := contains_apply applied waiting inside
    · exact own
    · exact filed model key service old

theorem Moves.contains (moves : Moves into before after effect) (inside : Contains into after key service) :
    effect = some (.push key service) ∨ (Contains into before key service ∧ effect ≠ some (.evict key)) := by
  obtain ⟨others, same⟩ | ⟨applied, rfl, _, same, waiting⟩ := moves.apply_cases (into key)
  · rw [Contains, same] at inside
    exact .inr ⟨inside, fun evicted => others _ evicted rfl⟩
  · rw [Contains, same] at inside
    obtain rfl | ⟨old, kept⟩ := contains_apply applied waiting inside
    · exact .inl rfl
    · exact .inr ⟨old, fun evicted => kept (Option.some.inj evicted)⟩

theorem Moves.holds (moves : Moves into before after effect) (spares : ∀ applied, effect = some applied → applied.Spares key)
    (holds : (cacheAt before (into key)).Holds key service) : (cacheAt after (into key)).Holds key service := by
  obtain ⟨_, same⟩ | ⟨applied, rfl, _, same, waiting⟩ := moves.apply_cases (into key)
  · rw [same]
    exact holds
  · rw [same]
    exact holds.apply (spares applied rfl) waiting

end Contents

end Effects

section Runs
variable {events : List (Event μ κ σ ℓ)} {router : Router μ library} {key : κ} {service : σ}

omit [DecidableEq μ] [Prints μ] [DecidableEq κ] [DecidableEq σ] in
theorem new_absent (model : μ) (key : κ) (service : σ) :
    ¬ ((key, service) ∈ (cacheAt (Router.new : Router μ library).services model).ready ∨
      (key, service) ∈ (cacheAt (Router.new : Router μ library).services model).pending) := by
  simp [Router.new, cacheAt]

theorem filed_step (router : Router μ library) (event : Event μ κ σ ℓ) (next : Router μ library) (filed : Filed into router.services)
    (taken : step into router event = some next) : Filed into next.services :=
  (step_moves filed taken).filed filed

omit [DecidableEq μ] [Prints μ] [DecidableEq κ] [DecidableEq σ] in
theorem filed_new : Filed into (Router.new : Router μ library).services :=
  fun model key service inside => absurd inside (new_absent model key service)

theorem ready_iff_found (ran : run (step into) .new events = some router) (key : κ) (service : σ) :
    (key, service) ∈ (cacheAt router.services (into key)).ready ↔ FoundReady events key service :=
  run_since_iff (fun router => Filed into router.services) (fun router => (key, service) ∈ (cacheAt router.services (into key)).ready)
    filed_new (fun ready => new_absent (into key) key service (.inl ready)) filed_step
    (fun _ _ _ filed taken => (step_moves filed taken).ready_iff) ran

theorem offered_of_contains (ran : run (step into) .new events = some router)
    (inside : Contains into router.services key service) : Offered events key service := by
  have absent : ¬ Contains into (Router.new : Router μ library).services key service := new_absent (into key) key service
  apply run_since (fun router => Filed into router.services) (fun router => Contains into router.services key service)
    filed_new absent filed_step _ ran inside
  intro state event next filed taken inside
  have effect_push : event.effect = some (.push key service) → event = .change (.insert key service) := by
    intro same
    cases event with
    | beginPoll | discoverError | endUpdate | endPromote => cases same
    | change change =>
      cases change with
      | insert other added => cases same; rfl
      | remove other => cases same
    | promote other promoted failed => cases failed <;> cases same
    | call model load answer =>
      cases answer with
      | error error => cases same
      | ok entry => cases same
  refine ((step_moves filed taken).contains inside).imp effect_push (And.imp_right ?_)
  rintro kept rfl
  exact kept rfl

end Runs

/-- What the answer to a call for the model says of the events before it. -/
def Justified (into : κ → μ) (events : List (Event μ κ σ ℓ)) (model : μ) (load : σ → ℓ) : Except RouterError (κ × σ) → Prop
  | .ok (key, service) =>
    into key = model ∧ FoundReady events key service ∧ Offered events key service ∧
      ∀ other otherService, into other = model → FoundReady events other otherService → ¬ Below (load otherService) (load service)
  | .error error =>
    error = .noServicesAvailable (Prints.print model) ∧ ∀ key service, into key = model → ¬ FoundReady events key service

/-- Every call is answered. It reaches a service exactly when one of the request's model has
been found ready and not been called, removed or replaced since, and then one of those, that
the discovery still offers and that none of the others undercuts. -/
theorem latency_router_dispatch (into : κ → μ) (events : List (Event μ κ σ ℓ)) (router : Router μ library) (model : μ) (load : σ → ℓ)
    (ran : run (step into) .new events = some router) (idle : router.phase = .idle) :
    ∃ answer next, step into router (.call (some model) load answer) = some next ∧ Justified into events model load answer := by
  obtain ⟨failed, empty⟩ | ⟨cache, index, key, service, stored, found, least, done⟩ := call_cases router model load
  · refine ⟨.error (.noServicesAvailable (Prints.print model)), router, by simp [step, idle, failed], rfl, ?_⟩
    rintro key service rfl ready
    have inside := (ready_iff_found ran key service).mpr ready
    simp [empty] at inside
  · refine ⟨.ok (key, service), _, by simp [step, idle, done]; rfl, ?_⟩
    have held : cacheAt router.services model = cache := by
      rw [cacheAt, stored]
      rfl
    have filed := run_invariant (fun state event next filed _ => filed_step state event next filed) filed_new
      (along_trivial _ events) ran
    have member := List.mem_of_getElem? found
    obtain rfl := filed model key service (.inl (held ▸ member))
    have ready := held.symm ▸ member
    refine ⟨rfl, (ready_iff_found ran key service).mp ready, offered_of_contains ran (.inl ready), ?_⟩
    intro other otherService same otherReady
    have inside := (ready_iff_found ran other otherService).mpr otherReady
    rw [same, held] at inside
    exact least _ inside

/-! A router whose models are its keys, with one service that has been found ready. -/

instance : Prints String := ⟨id⟩

def firstRouter : Router String (swapLibrary String Nat) := .new

def firstInsert : List (Event String String Nat Float64.F64) := [.beginPoll, .change (.insert "gpt-4o" 1)]

def firstPoll : List (Event String String Nat Float64.F64) := [.endUpdate, .promote "gpt-4o" 1 false, .endPromote]

theorem first_request_routed :
    ∃ router answer next, run (step id) firstRouter (firstInsert ++ firstPoll) = some router ∧
      step id router (.call (some "gpt-4o") (fun _ => Float64.F64.finite 0) answer) = some next ∧
      Justified id (firstInsert ++ firstPoll) "gpt-4o" (fun _ => .finite 0) answer := by
  have ran : ∃ router, run (step id) firstRouter (firstInsert ++ firstPoll) = some router ∧ router.phase = .idle := ⟨_, rfl, rfl⟩
  obtain ⟨router, ran, idle⟩ := ran
  obtain ⟨answer, next, called, justified⟩ := latency_router_dispatch id _ router "gpt-4o" (fun _ => .finite 0) ran idle
  exact ⟨router, answer, next, ran, called, justified⟩

/-- An inserted service stays with the router until its key is removed or inserted again or it
fails when it is polled; no call loses it. -/
theorem latency_router_keeps (into : κ → μ) (before after : List (Event μ κ σ ℓ)) (key : κ) (service : σ)
    (inserted final : Router μ library) (ranBefore : run (step into) .new (before ++ [.change (.insert key service)]) = some inserted)
    (spared : ∀ event ∈ after, ∀ effect, event.effect = some effect → effect.Spares key)
    (ranAfter : run (step into) inserted after = some final) : (cacheAt final.services (into key)).Holds key service := by
  have filed := run_invariant (fun state event next filed _ => filed_step state event next filed) filed_new
    (along_trivial _ _) ranBefore
  obtain ⟨middle, _, ranInsert⟩ := run_append ranBefore
  obtain ⟨_, taken, done⟩ := run_cons ranInsert
  cases done
  have start : (cacheAt inserted.services (into key)).Holds key service := by
    dsimp only [step] at taken
    split at taken
    next =>
      cases taken
      rw [applyChange, cacheAt_update, if_pos rfl]
      exact holds_push _ key service
    next => cases taken
  have kept (state : Router μ library) (event : Event μ κ σ ℓ) (next : Router μ library)
      (both : Filed into state.services ∧ (cacheAt state.services (into key)).Holds key service)
      (spares : ∀ effect, event.effect = some effect → effect.Spares key) (taken : step into state event = some next) :
      Filed into next.services ∧ (cacheAt next.services (into key)).Holds key service :=
    ⟨filed_step state event next both.1 taken, (step_moves both.1 taken).holds spares both.2⟩
  exact (run_invariant kept ⟨filed, start⟩ (along_of_forall inserted spared) ranAfter).2

theorem first_request_keeps :
    ∃ inserted final, run (step id) firstRouter firstInsert = some inserted ∧ run (step id) inserted firstPoll = some final ∧
      (cacheAt final.services "gpt-4o").Holds "gpt-4o" 1 := by
  have ran : ∃ inserted final, run (step id) firstRouter firstInsert = some inserted ∧ run (step id) inserted firstPoll = some final :=
    ⟨_, _, rfl, rfl⟩
  obtain ⟨inserted, final, ranBefore, ranAfter⟩ := ran
  refine ⟨inserted, final, ranBefore, ranAfter, ?_⟩
  apply latency_router_keeps id [.beginPoll] firstPoll "gpt-4o" 1 inserted final ranBefore _ ranAfter
  simp [firstPoll, Event.effect, Effect.Spares]

end AiGateway.LatencyRouter
