import AiGateway.Failover

/-! What one step of either monitor can do: remove keys and hold them, or let a key go and
insert keys with a service made anew. -/

namespace AiGateway.Proofs
open Lib.Runs

def Removes (held next : Finset Key) (keys : List Key) : Prop := ∀ key, key ∈ next ↔ key ∈ keys ∨ key ∈ held

theorem removes_none (held : Finset Key) : Removes held held [] := fun key => by simp

theorem Removes.cons {held next : Finset Key} {keys : List Key} {key : Key}
    (removes : Removes (insert key held) next keys) : Removes held next (key :: keys) := by
  intro other
  rw [removes other, Finset.mem_insert, List.mem_cons]
  tauto

def freshService (routerId : RouterId) (routerConfig : RouterConfig) (provider : InferenceProvider) : Dispatcher :=
  ⟨routerId, provider, .newForRouter routerConfig⟩

def insertion (item : Key × Dispatcher) : Change := .insert item.1 item.2

section Monitors
variable {decimals : DecimalLibrary} {policy : FallbackPolicyConfig} {routerId : RouterId} {routerConfig : RouterConfig}
  {strategy : Strategy}

theorem dispatcher_new_ok {clients : Clients} {provider : InferenceProvider} {service : Dispatcher}
    (made : Dispatcher.new clients routerId routerConfig provider = .ok service) :
    service = freshService routerId routerConfig provider := by
  unfold Dispatcher.new Dispatcher.newInner at made
  split at made
  · cases made
  · cases made
    rfl

private theorem removes_group (group : List (Except InitError Key)) (state : HealthState) :
    ∃ keys : List Key, Removes state.unhealthyKeys (forEach sendRemove group state).1.unhealthyKeys keys ∧
      (forEach sendRemove group state).1.sent = state.sent ++ keys.map .remove := by
  induction group generalizing state with
  | nil => exact ⟨[], removes_none _, by simp [forEach]⟩
  | cons item rest ih =>
    cases item with
    | error error => exact ⟨[], removes_none _, by simp [forEach, sendRemove]⟩
    | ok key =>
      obtain ⟨keys, removes, sent⟩ := ih (sendRemove (.ok key) state).1
      exact ⟨key :: keys, removes.cons, sent.trans (by simp [sendRemove])⟩

private theorem inserts_group (routerId : RouterId) (routerConfig : RouterConfig) (clients : Clients)
    (provider : InferenceProvider) (group : List (Except InitError Key)) (state : HealthState) :
    ∃ items : List (Key × Dispatcher), (forEach (sendInsert routerId routerConfig clients provider) group state).1 =
        { state with sent := state.sent ++ items.map insertion } ∧
      ∀ item ∈ items, .ok item.1 ∈ group ∧ item.2 = freshService routerId routerConfig provider := by
  induction group generalizing state with
  | nil => exact ⟨[], by simp [forEach], by simp⟩
  | cons entry rest ih =>
    simp only [forEach, sendInsert]
    cases entry with
    | error error => exact ⟨[], by simp, by simp⟩
    | ok key =>
      rcases made : Dispatcher.new clients routerId routerConfig provider with error | service
      · exact ⟨[], by simp, by simp⟩
      · obtain ⟨items, inserted, fresh⟩ := ih { state with sent := state.sent ++ [.insert key service] }
        refine ⟨(key, service) :: items, ?_, ?_⟩
        · simp [inserted, insertion]
        · intro item member
          rcases List.mem_cons.mp member with rfl | member
          · exact ⟨List.mem_cons_self, dispatcher_new_ok made⟩
          · exact ⟨List.mem_cons_of_mem _ (fresh item member).1, (fresh item member).2⟩

variable (decimals policy routerId routerConfig strategy)

/-- A check that sends inserts found the target healthy and its key held. -/
theorem checkListed_cases (surroundings : Surroundings) (listed : Except RuntimeError HealthTarget) (state : HealthState) :
    let next := (checkListed routerId routerConfig surroundings listed state).1
    (∃ keys : List Key, Removes state.unhealthyKeys next.unhealthyKeys keys ∧ next.sent = state.sent ++ keys.map .remove) ∨
      ∃ target, ∃ items : List (Key × Dispatcher), listed = .ok target ∧ target.key ∈ state.unhealthyKeys ∧
        checkHealth surroundings state.checks target.provider = .ok true ∧
        next.unhealthyKeys = state.unhealthyKeys.erase target.key ∧ next.sent = state.sent ++ items.map insertion ∧
        ∀ item ∈ items, .ok item.1 ∈ target.group ∧ item.2 = freshService routerId routerConfig target.provider := by
  cases listed with
  | error error => exact .inl ⟨[], removes_none _, by simp [checkListed]⟩
  | ok target =>
    simp only [checkListed]
    rcases checkTarget_cases routerId routerConfig surroundings target state with
      ⟨result, same⟩ | ⟨-, -, same⟩ | ⟨held, healthy, same⟩ <;> rw [same]
    · exact .inl ⟨[], removes_none _, by simp⟩
    · exact .inl (removes_group _ _)
    · obtain ⟨items, inserted, fresh⟩ := inserts_group routerId routerConfig (surroundings.clients state.checks)
        target.provider target.group ⟨state.unhealthyKeys.erase target.key, state.sent, state.checks + 1⟩
      rw [inserted]
      exact .inr ⟨target, items, rfl, held, healthy, rfl, rfl, fresh⟩

/-- What an event does that the monitor outlives. -/
theorem onEvent_cases (event : RateLimitEvent) (state : RateLimitState)
    (alive : (onEvent decimals policy routerConfig strategy event state).2 ≠ .error .join) :
    let next := (onEvent decimals policy routerConfig strategy event state).1
    (∃ keys : List Key, Removes state.rateLimitedProviders next.rateLimitedProviders keys ∧
      next.sent = state.sent ++ keys.map .remove) ∧
    ∀ pending ∈ next.pendingRestores, pending ∈ state.pendingRestores ∨
      createKey decimals routerConfig strategy event = .ok pending.1 ∧ pending.2 = event.apiEndpoint := by
  simp only [onEvent] at alive ⊢
  split
  next => exact ⟨⟨[], removes_none _, by simp⟩, fun _ => .inl⟩
  next enabled =>
    rw [if_neg enabled] at alive
    split
    next => exact ⟨⟨[], removes_none _, by simp⟩, fun _ => .inl⟩
    next key created =>
      simp only [created] at alive
      split
      next => exact ⟨⟨[], removes_none _, by simp⟩, fun _ => .inl⟩
      next notLimited =>
        rw [if_neg notLimited] at alive
        split
        next overflow =>
          simp only [overflow] at alive
          exact absurd rfl alive
        next =>
          refine ⟨⟨[key], (removes_none _).cons, by simp⟩, ?_⟩
          intro pending member
          rcases List.mem_append.mp member with old | new
          · exact .inl old
          · obtain rfl := List.mem_singleton.mp new
            exact .inr ⟨created, rfl⟩

theorem onRestore_cases (clients : Clients) (balancerOpen : Bool) (index : Nat) (state : RateLimitState) :
    let next := (onRestore routerId routerConfig clients balancerOpen index state).1
    next.pendingRestores ⊆ state.pendingRestores ∧
      (next.rateLimitedProviders = state.rateLimitedProviders ∧ next.sent = state.sent ∨
        ∃ key apiEndpoint, state.pendingRestores[index]? = some (key, apiEndpoint) ∧
          next.rateLimitedProviders = state.rateLimitedProviders.erase key ∧
          next.sent = state.sent ++ [.insert key (freshService routerId routerConfig apiEndpoint.provider)]) := by
  simp only [onRestore]
  split
  next => exact ⟨fun _ => id, .inl ⟨rfl, rfl⟩⟩
  next key apiEndpoint found =>
    split
    next => exact ⟨List.eraseIdx_subset, .inl ⟨rfl, rfl⟩⟩
    next service made =>
      split
      next =>
        refine ⟨List.eraseIdx_subset, .inr ⟨key, apiEndpoint, found, rfl, ?_⟩⟩
        rw [dispatcher_new_ok made]
      next => exact ⟨List.eraseIdx_subset, .inl ⟨rfl, rfl⟩⟩

/-- An insert is for a key that comes back with a target, or for one whose timer ran out. -/
def InsertedFrom (state : FailoverState) (key : Key) (service : Dispatcher) : Prop :=
  (∃ target, .ok target ∈ roundTargets decimals routerConfig strategy ∧ .ok key ∈ target.group ∧
    service = freshService routerId routerConfig target.provider) ∨
  ∃ apiEndpoint, (key, apiEndpoint) ∈ state.rateLimit.pendingRestores ∧
    service = freshService routerId routerConfig apiEndpoint.provider

/-- Where the inserts, timers and services after a step come from. -/
structure Grows (state next : FailoverState) : Prop where
  byHealth : ∀ key service, .insert key service ∈ next.health.sent →
    .insert key service ∈ state.health.sent ∨ InsertedFrom decimals routerId routerConfig strategy state key service
  byTimer : ∀ key service, .insert key service ∈ next.rateLimit.sent →
    .insert key service ∈ state.rateLimit.sent ∨ InsertedFrom decimals routerId routerConfig strategy state key service
  inFlight : ∀ key service, .insert key service ∈ next.inFlight →
    .insert key service ∈ state.inFlight ∨ InsertedFrom decimals routerId routerConfig strategy state key service
  pending : ∀ restore ∈ next.rateLimit.pendingRestores, restore ∈ state.rateLimit.pendingRestores ∨
    ∃ event : RateLimitEvent, createKey decimals routerConfig strategy event = .ok restore.1 ∧
      restore.2 = event.apiEndpoint
  services : ∀ item ∈ next.services, item ∈ state.services ∨ insertion item ∈ state.inFlight

variable {decimals policy routerId routerConfig strategy}

private theorem insert_of_append {sent : List Change} {keys : List Key} {key : Key} {service : Dispatcher}
    (member : .insert key service ∈ sent ++ keys.map .remove) : .insert key service ∈ sent := by
  rcases List.mem_append.mp member with old | new
  · exact old
  · simp at new

private theorem grows_deliver {state : FailoverState} {change : Change} {rest : List Change}
    (waiting : state.inFlight = change :: rest) :
    Grows decimals routerId routerConfig strategy state
      { state with inFlight := rest, services := applyChange state.services change } := by
  refine ⟨fun _ _ => .inl, fun _ _ => .inl, ?_, fun _ => .inl, ?_⟩
  · intro key service later
    rw [waiting]
    exact .inl (List.mem_cons_of_mem _ later)
  · intro item member
    cases change with
    | remove key => exact .inl (List.mem_of_mem_filter member)
    | insert key service =>
      rcases List.mem_append.mp member with old | new
      · exact .inl (List.mem_of_mem_filter old)
      · cases List.mem_singleton.mp new
        rw [waiting]
        exact .inr List.mem_cons_self

private theorem grows_check {state : FailoverState} {index : Nat} {surroundings : Surroundings}
    {listed : Except RuntimeError HealthTarget}
    (found : (roundTargets decimals routerConfig strategy)[index]? = some listed) :
    let health := (checkListed routerId routerConfig surroundings listed state.health).1
    Grows decimals routerId routerConfig strategy state
      { state with health := health, inFlight := state.inFlight ++ health.sent.drop state.health.sent.length } := by
  intro health
  rcases checkListed_cases routerId routerConfig surroundings listed state.health with
    ⟨keys, -, sent⟩ | ⟨target, items, rfl, -, -, -, sent, fresh⟩
  · have extended : health.sent = state.health.sent ++ keys.map .remove := sent
    rw [extended, List.drop_left]
    refine ⟨?_, fun _ _ => .inl, ?_, fun _ => .inl, fun _ => .inl⟩
    · intro key service member
      rw [extended] at member
      exact .inl (insert_of_append member)
    · intro key service member
      exact .inl (insert_of_append member)
  · have extended : health.sent = state.health.sent ++ items.map insertion := sent
    have new : ∀ key service, .insert key service ∈ items.map insertion →
        InsertedFrom decimals routerId routerConfig strategy state key service := by
      intro key service member
      obtain ⟨item, inside, same⟩ := List.mem_map.mp member
      cases same
      exact .inl ⟨target, List.mem_of_getElem? found, fresh item inside⟩
    rw [extended, List.drop_left]
    refine ⟨?_, fun _ _ => .inl, ?_, fun _ => .inl, fun _ => .inl⟩
    · intro key service member
      rw [extended] at member
      exact (List.mem_append.mp member).imp id (new key service)
    · intro key service member
      exact (List.mem_append.mp member).imp id (new key service)

private theorem grows_event (state : FailoverState) (event : RateLimitEvent)
    (alive : (onEvent decimals policy routerConfig strategy event state.rateLimit).2 ≠ .error .join) :
    let rateLimit := (onEvent decimals policy routerConfig strategy event state.rateLimit).1
    Grows decimals routerId routerConfig strategy state { state with
      rateLimit := rateLimit, inFlight := state.inFlight ++ rateLimit.sent.drop state.rateLimit.sent.length } := by
  intro rateLimit
  obtain ⟨⟨keys, -, sent⟩, kept⟩ := onEvent_cases decimals policy routerConfig strategy event state.rateLimit alive
  have extended : rateLimit.sent = state.rateLimit.sent ++ keys.map .remove := sent
  rw [extended, List.drop_left]
  refine ⟨fun _ _ => .inl, ?_, ?_, ?_, fun _ => .inl⟩
  · intro key service member
    rw [extended] at member
    exact .inl (insert_of_append member)
  · intro key service member
    exact .inl (insert_of_append member)
  · intro restore member
    exact (kept restore member).imp id fun created => ⟨event, created⟩

private theorem grows_restore (state : FailoverState) (clients : Clients) (index : Nat) :
    let rateLimit := (onRestore routerId routerConfig clients true index state.rateLimit).1
    Grows decimals routerId routerConfig strategy state { state with
      rateLimit := rateLimit, inFlight := state.inFlight ++ rateLimit.sent.drop state.rateLimit.sent.length } := by
  intro rateLimit
  obtain ⟨kept, ⟨-, sent⟩ | ⟨key, apiEndpoint, found, -, sent⟩⟩ :=
    onRestore_cases routerId routerConfig clients true index state.rateLimit
  · have same : rateLimit.sent = state.rateLimit.sent := sent
    rw [same, List.drop_length, List.append_nil]
    refine ⟨fun _ _ => .inl, ?_, fun _ _ => .inl, fun _ member => .inl (kept member), fun _ => .inl⟩
    intro key service member
    rw [same] at member
    exact .inl member
  · have extended : rateLimit.sent = state.rateLimit.sent ++
      [.insert key (freshService routerId routerConfig apiEndpoint.provider)] := sent
    have new : ∀ other service, .insert other service ∈
        [Change.insert key (freshService routerId routerConfig apiEndpoint.provider)] →
        InsertedFrom decimals routerId routerConfig strategy state other service := by
      intro other service member
      cases List.mem_singleton.mp member
      exact .inr ⟨apiEndpoint, List.mem_of_getElem? found, rfl⟩
    rw [extended, List.drop_left]
    refine ⟨fun _ _ => .inl, ?_, ?_, fun _ member => .inl (kept member), fun _ => .inl⟩
    · intro other service member
      rw [extended] at member
      exact (List.mem_append.mp member).imp id (new other service)
    · intro other service member
      exact (List.mem_append.mp member).imp id (new other service)

/-- The balancer goes on after an event just if the monitor did not panic. -/
theorem failoverStep_event {state next : FailoverState} {event : RateLimitEvent}
    (taken : failoverStep decimals policy routerId routerConfig strategy state (.event event) = some next) :
    let after := onEvent decimals policy routerConfig strategy event state.rateLimit
    after.2 ≠ .error .join ∧ next = { state with
      rateLimit := after.1, inFlight := state.inFlight ++ after.1.sent.drop state.rateLimit.sent.length } := by
  intro after
  simp only [failoverStep] at taken
  split at taken
  next => cases taken
  next rateLimit result alive outcome =>
    cases taken
    have same : after = (rateLimit, result) := outcome
    rw [same]
    refine ⟨?_, rfl⟩
    rintro rfl
    exact alive rfl

theorem failoverStep_grows {state next : FailoverState} {step : FailoverStep}
    (taken : failoverStep decimals policy routerId routerConfig strategy state step = some next) :
    Grows decimals routerId routerConfig strategy state next := by
  cases step with
  | check index surroundings =>
    obtain ⟨listed, found, rfl⟩ := Option.map_eq_some_iff.mp taken
    exact grows_check found
  | event event =>
    obtain ⟨alive, rfl⟩ := failoverStep_event taken
    exact grows_event state event alive
  | restore clients index =>
    cases taken
    exact grows_restore state clients index
  | deliver =>
    simp only [failoverStep] at taken
    split at taken
    next => cases taken
    next change rest waiting =>
      cases taken
      exact grows_deliver waiting

end Monitors

end AiGateway.Proofs
