import AiGateway.Proofs.Restores
import AiGateway.Proofs.Discovery
import AiGateway.Proofs.RateLimitEvents
import AiGateway.Proofs.FailoverAgreement

/-! The services that the monitors insert, beside the ones that discovery had inserted. A
monitor makes the service for the provider alone, so the pinned model of a model strategy
is lost. -/

namespace AiGateway.Proofs
open Lib.Runs

/-- The strategies whose keys name a provider, and whose discovery pins no model. -/
def balancesProviders : Strategy → Bool
  | .providerWeighted | .providerLatency => true
  | .modelWeighted | .modelLatency => false

/-- One provider, one router, one pinned model, and so one target model for each request. -/
structure SameConfiguration (service original : Dispatcher) : Prop where
  provider : service.provider = original.provider
  router : service.routerId = original.routerId
  pinned : service.modelMapper.modelId = original.modelMapper.modelId
  maps : ∀ catalog sourceModel, service.modelMapper.mapModel catalog sourceModel service.provider =
    original.modelMapper.mapModel catalog sourceModel original.provider

section Discovered
variable {decimals : DecimalLibrary} {clients : Clients} {routerId : RouterId} {routerConfig : RouterConfig}
  {strategy : Strategy} {services : List (Key × Dispatcher)} {key : Key} {original : Dispatcher}

private theorem dispatcher_newWithModelId_ok {provider : InferenceProvider} {modelId : ModelId}
    (made : Dispatcher.newWithModelId clients routerId routerConfig provider modelId = .ok original) :
    original.modelMapper.modelId = some modelId := by
  unfold Dispatcher.newWithModelId Dispatcher.newInner at made
  split at made
  · cases made
  · cases made
    rfl

def DiscoveredAs (routerId : RouterId) (routerConfig : RouterConfig) (strategy : Strategy) (key : Key)
    (original : Dispatcher) : Prop :=
  if balancesProviders strategy then
    ∃ provider, key.inferenceProvider = some provider ∧ original = freshService routerId routerConfig provider
  else ∃ modelId, original.modelMapper.modelId = some modelId

private theorem discoverEndpoint_service {endpointType : EndpointType} {balance : BalanceConfigInner}
    {found : List (Key × Dispatcher)}
    (done : discoverEndpoint decimals clients routerId routerConfig strategy endpointType balance = .ok found)
    (member : (key, original) ∈ found) : DiscoveredAs routerId routerConfig strategy key original := by
  unfold discoverEndpoint at done
  split at done
  case h_1 providers =>
    obtain ⟨target, -, done⟩ := item_of_mapM_ok done member
    obtain ⟨weight, -, done⟩ := bind_ok done
    obtain ⟨service, made, done⟩ := bind_ok done
    cases done
    exact ⟨target.provider, rfl, dispatcher_new_ok made⟩
  case h_5 models =>
    obtain ⟨target, -, done⟩ := item_of_mapM_ok done member
    obtain ⟨provider, -, done⟩ := bind_ok done
    obtain ⟨weight, -, done⟩ := bind_ok done
    obtain ⟨service, made, done⟩ := bind_ok done
    cases done
    exact ⟨target.model, dispatcher_newWithModelId_ok made⟩
  case h_9 =>
    obtain ⟨provider, -, done⟩ := item_of_mapM_ok done member
    obtain ⟨service, made, done⟩ := bind_ok done
    cases done
    exact ⟨provider, rfl, dispatcher_new_ok made⟩
  case h_10 models =>
    obtain ⟨model, -, done⟩ := item_of_mapM_ok done member
    obtain ⟨provider, -, done⟩ := bind_ok done
    obtain ⟨service, made, done⟩ := bind_ok done
    cases done
    exact ⟨model, dispatcher_newWithModelId_ok made⟩
  all_goals cases done

theorem discovered_service (accepted : discover decimals clients routerId routerConfig strategy = .ok services)
    (member : (key, original) ∈ services) : DiscoveredAs routerId routerConfig strategy key original := by
  obtain ⟨entry, -, found, done, member⟩ := discovered accepted member
  exact discoverEndpoint_service done member

end Discovered

section Targets
variable {decimals : DecimalLibrary} {routerConfig : RouterConfig} {strategy : Strategy}

private theorem group_provider {target : HealthTarget} (listed : .ok target ∈ roundTargets decimals routerConfig strategy)
    {key : Key} (member : .ok key ∈ target.group) : key.inferenceProvider = some target.provider := by
  obtain ⟨entry, -, listed⟩ := List.mem_flatMap.mp listed
  unfold healthTargets at listed
  split at listed
  next providers =>
    obtain ⟨item, -, done⟩ := List.mem_map.mp listed
    obtain ⟨weight, -, rfl⟩ := providerWeightedTarget_ok done
    cases List.mem_singleton.mp member
    rfl
  next models =>
    obtain ⟨item, -, done⟩ := List.mem_map.mp listed
    obtain ⟨provider, weight, -, -, rfl⟩ := modelWeightedTarget_ok done
    obtain ⟨other, inside, same⟩ := List.mem_map.mp member
    have recognized := beq_iff_eq.mp (List.mem_filter.mp inside).2
    cases converted : weightOf decimals provider other.weight with
    | error error => simp [converted, Except.map] at same
    | ok weight =>
      simp only [converted, Except.map, Except.ok.injEq] at same
      rw [← same]
      exact recognized
  next providers =>
    obtain ⟨provider, -, done⟩ := List.mem_map.mp listed
    cases done
    cases List.mem_singleton.mp member
    rfl
  next models =>
    obtain ⟨item, -, done⟩ := List.mem_map.mp listed
    obtain ⟨provider, -, rfl⟩ := modelLatencyTarget_ok done
    obtain ⟨other, inside, same⟩ := List.mem_map.mp member
    cases same
    exact beq_iff_eq.mp (List.mem_filter.mp inside).2
  next => simp at listed

private theorem createKey_provider {event : RateLimitEvent} {key : Key} (providers : balancesProviders strategy = true)
    (created : createKey decimals routerConfig strategy event = .ok key) :
    key.inferenceProvider = some event.apiEndpoint.provider := by
  cases strategy with
  | providerLatency => cases created; rfl
  | providerWeighted =>
    simp only [createKey, createWeightedKeyForEndpoint] at created
    split at created
    · split at created
      · cases created
      · split at created <;> cases created
        rfl
    · cases created
  | modelWeighted | modelLatency => cases providers

end Targets

section Runs
variable {decimals : DecimalLibrary} {policy : FallbackPolicyConfig} {routerId : RouterId} {routerConfig : RouterConfig}
  {strategy : Strategy}

def RestoredAs (routerId : RouterId) (routerConfig : RouterConfig) (strategy : Strategy) (key : Key)
    (service : Dispatcher) : Prop :=
  ∃ provider, service = freshService routerId routerConfig provider ∧
    (balancesProviders strategy = true → key.inferenceProvider = some provider)

structure Restored (routerId : RouterId) (routerConfig : RouterConfig) (strategy : Strategy) (state : FailoverState) :
    Prop where
  byHealth : ∀ key service, .insert key service ∈ state.health.sent → RestoredAs routerId routerConfig strategy key service
  byTimer : ∀ key service, .insert key service ∈ state.rateLimit.sent →
    RestoredAs routerId routerConfig strategy key service
  pending : ∀ restore ∈ state.rateLimit.pendingRestores, balancesProviders strategy = true →
    restore.1.inferenceProvider = some restore.2.provider

private theorem restoredAs {state : FailoverState} (restored : Restored routerId routerConfig strategy state) {key : Key}
    {service : Dispatcher} (inserted : InsertedFrom decimals routerId routerConfig strategy state key service) :
    RestoredAs routerId routerConfig strategy key service := by
  rcases inserted with ⟨target, listed, member, made⟩ | ⟨apiEndpoint, waiting, made⟩
  · exact ⟨target.provider, made, fun _ => group_provider listed member⟩
  · exact ⟨apiEndpoint.provider, made, restored.pending (key, apiEndpoint) waiting⟩

private theorem restored_step (state : FailoverState) (step : FailoverStep) (next : FailoverState)
    (restored : Restored routerId routerConfig strategy state)
    (taken : failoverStep decimals policy routerId routerConfig strategy state step = some next) :
    Restored routerId routerConfig strategy next := by
  have grows := failoverStep_grows taken
  refine ⟨?_, ?_, ?_⟩
  · intro key service sent
    rcases grows.byHealth key service sent with old | inserted
    · exact restored.byHealth key service old
    · exact restoredAs restored inserted
  · intro key service sent
    rcases grows.byTimer key service sent with old | inserted
    · exact restored.byTimer key service old
    · exact restoredAs restored inserted
  · intro restore member providers
    rcases grows.pending restore member with old | ⟨event, created, same⟩
    · exact restored.pending restore old providers
    · rw [same]
      exact createKey_provider providers created

variable (decimals policy routerId routerConfig strategy)

/-- Whatever a monitor inserts under a discovered key, in any run, is what discovery had
inserted exactly if the strategy balances providers. -/
theorem restored_same_iff (clients : Clients) (discovered : List (Key × Dispatcher))
    (accepted : discover decimals clients routerId routerConfig strategy = .ok discovered)
    (steps : List FailoverStep) (state : FailoverState)
    (ran : failoverRun decimals policy routerId routerConfig strategy discovered steps = some state)
    (key : Key) (service original : Dispatcher) (sent : .insert key service ∈ state.health.sent ++ state.rateLimit.sent)
    (found : (key, original) ∈ discovered) :
    SameConfiguration service original ↔ balancesProviders strategy = true := by
  have start : Restored routerId routerConfig strategy (.start discovered) := by
    refine ⟨?_, ?_, ?_⟩ <;> simp [FailoverState.start, HealthState.start, RateLimitState.start]
  have restored := run_invariant (fun state step next restored _ taken => restored_step state step next restored taken)
    start (along_trivial _ _) ran
  obtain ⟨provider, rfl, named⟩ : RestoredAs routerId routerConfig strategy key service := by
    rcases List.mem_append.mp sent with sent | sent
    · exact restored.byHealth key service sent
    · exact restored.byTimer key service sent
  have before := discovered_service accepted found
  unfold DiscoveredAs at before
  split at before
  next providers =>
    obtain ⟨other, names, rfl⟩ := before
    obtain rfl := Option.some.inj ((named providers).symm.trans names)
    exact ⟨fun _ => providers, fun _ => ⟨rfl, rfl, rfl, fun _ _ => rfl⟩⟩
  next models =>
    obtain ⟨modelId, pinned⟩ := before
    refine ⟨fun same => ?_, fun providers => absurd providers models⟩
    have lost := same.pinned
    rw [pinned] at lost
    cases lost

end Runs

theorem openAI_restored_same :
    ∃ state service original, openAIRun limitedThenRestored = some state ∧
      .insert openAIKey service ∈ state.health.sent ++ state.rateLimit.sent ∧ (openAIKey, original) ∈ openAIServices ∧
      SameConfiguration service original := by
  refine ⟨_, _, _, rfl, List.mem_cons_of_mem _ List.mem_cons_self, List.mem_cons_self, ?_⟩
  exact (restored_same_iff exactDecimals .default ⟨"main"⟩ openAIRouter .providerLatency everyClient openAIServices rfl
    limitedThenRestored _ rfl openAIKey _ _ (List.mem_cons_of_mem _ List.mem_cons_self) List.mem_cons_self).mpr rfl

/-- The key of gpt-4o is restored after an outage. A request for gpt-4o-mini that is routed
to it was sent as gpt-4o before, and is sent as it came after. -/
theorem restored_without_model :
    ¬ ∀ (routerConfig : RouterConfig) (strategy : Strategy) (discovered : List (Key × Dispatcher))
      (steps : List FailoverStep) (state : FailoverState) (key : Key) (service original : Dispatcher),
      discover exactDecimals everyClient ⟨"main"⟩ routerConfig strategy = .ok discovered →
      failoverRun exactDecimals .default ⟨"main"⟩ routerConfig strategy discovered steps = some state →
      .insert key service ∈ state.health.sent ++ state.rateLimit.sent → (key, original) ∈ discovered →
      SameConfiguration service original := by
  intro same
  have restored := same (latencyRouter twoProviders) .modelLatency _
    [.check 0 (steadily false), .check 0 (steadily true)] _ (.modelLatency gpt4o .chat) _ _ rfl rfl
    (List.mem_cons_of_mem _ List.mem_cons_self) List.mem_cons_self
  have maps := restored.maps smallCatalog gpt4oMini
  revert maps
  decide

end AiGateway.Proofs
