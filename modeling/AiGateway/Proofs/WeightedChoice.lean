import AiGateway.WeightedBalance
import AiGateway.Proofs.RateLimitEvents
import AiGateway.Proofs.Restores

/-! Which sets of ready targets the weighted balancer can choose from. -/

namespace AiGateway.Proofs
open Lib.Runs Lib.Float64

private theorem toF64_min : Weight.min.toF64 = .finite 0 := by simp [Weight.toF64, Weight.min, ofRat]

private theorem toF64_positive {weight : Weight} (nonzero : weight ≠ .min) :
    ∃ value, 0 < value ∧ weight.toF64 = .finite value := by
  have units : (1 : ℚ) ≤ weight.units.toNat := by
    have : weight.units.toNat ≠ 0 := by
      intro zero
      apply nonzero
      cases weight
      simpa [Weight.min] using UInt32.toNat_inj.mp zero
    exact_mod_cast Nat.one_le_iff_ne_zero.mpr this
  have fits : (weight.units.toNat : ℚ) < 2 ^ 32 := by exact_mod_cast weight.units.toNat_lt
  apply ofRat_positive
  · calc (2 : ℚ) ^ (-1022 : ℤ) ≤ 2 ^ (-14 : ℤ) := zpow_le_zpow_right₀ (by norm_num) (by norm_num)
      _ ≤ 1 / 10000 := by norm_num
      _ ≤ weight.units.toNat / 10000 := by gcongr
  · calc (weight.units.toNat : ℚ) / 10000 ≤ weight.units.toNat := div_le_self (by linarith) (by norm_num)
      _ < 2 ^ 32 := fits
      _ ≤ 2 ^ 1023 := pow_le_pow_right₀ (by norm_num) (by norm_num)

theorem toF64_valid (weight : Weight) : ∃ value, 0 ≤ value ∧ weight.toF64 = .finite value := by
  by_cases zero : weight = .min
  · exact ⟨0, le_refl 0, zero ▸ toF64_min⟩
  · obtain ⟨value, positive, same⟩ := toF64_positive zero
    exact ⟨value, positive.le, same⟩

theorem toF64_eq_zero_iff {weight : Weight} : weight.toF64 = .finite 0 ↔ weight = .min := by
  constructor
  · intro zero
    by_contra nonzero
    obtain ⟨value, positive, same⟩ := toF64_positive nonzero
    rw [zero] at same
    cases same
    exact absurd positive (lt_irrefl _)
  · rintro rfl
    exact toF64_min

theorem ofF64_min {decimals : DecimalLibrary} (faithful : decimals.SignFaithful) {weight : Decimal} {number : F64}
    (none : weight.value ≤ 0) (converted : decimals.toF64 weight = some number) : Weight.ofF64 number = .min := by
  rcases faithful weight number none converted with rfl | negative
  · decide +kernel
  · simp [Weight.ofF64, negative]

section Choice
variable (decimals : DecimalLibrary) (routerConfig : RouterConfig)

/-- A target of a weighted configuration has this key, this weight, and this weight in the
key. -/
def Lists (key : Key) (weight : Decimal) (rounded : Weight) : Prop :=
  ∃ entry ∈ routerConfig.loadBalance.entries,
    match entry.2 with
    | .providerWeighted providers =>
      ∃ target ∈ providers.items, target.weight = weight ∧ weightOf decimals target.provider weight = .ok rounded ∧
        key = .providerWeighted target.provider entry.1 rounded
    | .modelWeighted models =>
      ∃ target ∈ models.items, target.weight = weight ∧
        (∃ provider, weightOf decimals provider weight = .ok rounded) ∧ key = .modelWeighted target.model entry.1 rounded
    | .balancedLatency _ | .modelLatency _ => False

structure WeightedTarget where
  key : Key
  weight : Decimal
  rounded : Weight
  listed : Lists decimals routerConfig key weight rounded

instance : HasWeight (WeightedTarget decimals routerConfig) := ⟨WeightedTarget.rounded⟩

variable {decimals routerConfig}

/-- Some target of the configuration has the key. -/
def IsTarget (decimals : DecimalLibrary) (routerConfig : RouterConfig) (key : Key) : Prop :=
  ∃ target : WeightedTarget decimals routerConfig, target.key = key

def Weighted (strategy : Strategy) : Prop := strategy = .providerWeighted ∨ strategy = .modelWeighted

private theorem provider_isTarget {endpointType : EndpointType} {providers : NESet WeightedProvider}
    {target : WeightedProvider} {rounded : Weight}
    (inside : (endpointType, .providerWeighted providers) ∈ routerConfig.loadBalance.entries)
    (listed : target ∈ providers.items) (converted : weightOf decimals target.provider target.weight = .ok rounded) :
    IsTarget decimals routerConfig (.providerWeighted target.provider endpointType rounded) :=
  ⟨⟨_, target.weight, rounded, _, inside, target, listed, rfl, converted, rfl⟩, rfl⟩

private theorem model_isTarget {endpointType : EndpointType} {models : NESet WeightedModel} {target : WeightedModel}
    {rounded : Weight} (inside : (endpointType, .modelWeighted models) ∈ routerConfig.loadBalance.entries)
    (listed : target ∈ models.items) (converted : ∃ provider, weightOf decimals provider target.weight = .ok rounded) :
    IsTarget decimals routerConfig (.modelWeighted target.model endpointType rounded) :=
  ⟨⟨_, target.weight, rounded, _, inside, target, listed, rfl, converted, rfl⟩, rfl⟩

private theorem discovered_isTarget {clients : Clients} {routerId : RouterId} {strategy : Strategy}
    {services : List (Key × Dispatcher)} (weighted : Weighted strategy)
    (accepted : discover decimals clients routerId routerConfig strategy = .ok services)
    {item : Key × Dispatcher} (member : item ∈ services) : IsTarget decimals routerConfig item.1 := by
  obtain ⟨⟨endpointType, balance⟩, inside, found, done, member⟩ := discovered accepted member
  rcases weighted with rfl | rfl
  · rcases balance with providers | providers | models | models
    · obtain ⟨target, listed, done⟩ := item_of_mapM_ok done member
      obtain ⟨rounded, converted, done⟩ := bind_ok done
      obtain ⟨service, -, done⟩ := bind_ok done
      cases done
      exact provider_isTarget inside listed converted
    all_goals cases done
  · rcases balance with providers | providers | models | models
    · cases done
    · cases done
    · obtain ⟨target, listed, done⟩ := item_of_mapM_ok done member
      obtain ⟨provider, -, done⟩ := bind_ok done
      obtain ⟨rounded, converted, done⟩ := bind_ok done
      obtain ⟨service, -, done⟩ := bind_ok done
      cases done
      exact model_isTarget inside listed ⟨provider, converted⟩
    · cases done

private theorem group_isTarget {strategy : Strategy} (weighted : Weighted strategy) {target : HealthTarget}
    (listed : .ok target ∈ roundTargets decimals routerConfig strategy) {key : Key} (member : .ok key ∈ target.group) :
    IsTarget decimals routerConfig key := by
  obtain ⟨⟨endpointType, balance⟩, inside, listed⟩ := List.mem_flatMap.mp listed
  rcases weighted with rfl | rfl
  · rcases balance with providers | providers | models | models
    · obtain ⟨item, here, done⟩ := List.mem_map.mp listed
      obtain ⟨weight, converted, rfl⟩ := providerWeightedTarget_ok done
      cases List.mem_singleton.mp member
      exact provider_isTarget inside here converted
    all_goals simp [healthTargets] at listed
  · rcases balance with providers | providers | models | models
    · simp [healthTargets] at listed
    · simp [healthTargets] at listed
    · obtain ⟨item, here, done⟩ := List.mem_map.mp listed
      obtain ⟨provider, weight, -, -, rfl⟩ := modelWeightedTarget_ok done
      obtain ⟨other, among, same⟩ := List.mem_map.mp member
      cases converted : weightOf decimals provider other.weight with
      | error error => simp [converted, Except.map] at same
      | ok rounded =>
        simp only [converted, Except.map, Except.ok.injEq] at same
        rw [← same]
        exact model_isTarget inside (List.mem_of_mem_filter among) ⟨provider, converted⟩
    · simp [healthTargets] at listed

private theorem get_mem {endpointType : EndpointType} {balance : BalanceConfigInner}
    (found : routerConfig.loadBalance.get endpointType = some balance) :
    (endpointType, balance) ∈ routerConfig.loadBalance.entries := by
  obtain ⟨entry, first, rfl⟩ := Option.map_eq_some_iff.mp found
  have same := List.find?_some first
  rw [← eq_of_beq same]
  exact List.mem_of_find?_eq_some first

private theorem createKey_isTarget {strategy : Strategy} (weighted : Weighted strategy) {event : RateLimitEvent}
    {key : Key} (created : createKey decimals routerConfig strategy event = .ok key) :
    IsTarget decimals routerConfig key := by
  rcases weighted with rfl | rfl
  · simp only [createKey, createWeightedKeyForEndpoint] at created
    split at created
    next providers found =>
      split at created
      next => cases created
      next target first =>
        split at created
        next => cases created
        next number converted =>
          cases created
          have same := List.find?_some first
          rw [← eq_of_beq same]
          apply provider_isTarget (get_mem found) (List.mem_of_find?_eq_some first)
          simp only [weightOf, converted]
    next => cases created
  · simp only [createKey, createModelWeightedKey] at created
    split at created
    next => cases created
    next modelId named =>
      split at created
      next models found =>
        split at created
        next => cases created
        next target first =>
          split at created
          next => cases created
          next number converted =>
            cases created
            have same := List.find?_some first
            rw [← eq_of_beq same]
            apply model_isTarget (get_mem found) (List.mem_of_find?_eq_some first)
            exact ⟨event.apiEndpoint.provider, by simp only [weightOf, converted]⟩
      next => cases created

/-- Whatever the balancer has, or will have, is under the key of a target. -/
structure Targeted (decimals : DecimalLibrary) (routerConfig : RouterConfig) (state : FailoverState) : Prop where
  services : ∀ item ∈ state.services, IsTarget decimals routerConfig item.1
  inFlight : ∀ key service, .insert key service ∈ state.inFlight → IsTarget decimals routerConfig key
  pending : ∀ restore ∈ state.rateLimit.pendingRestores, IsTarget decimals routerConfig restore.1

private theorem targeted_step {policy : FallbackPolicyConfig} {routerId : RouterId} {strategy : Strategy}
    (weighted : Weighted strategy) (state : FailoverState) (step : FailoverStep) (next : FailoverState)
    (targeted : Targeted decimals routerConfig state)
    (taken : failoverStep decimals policy routerId routerConfig strategy state step = some next) :
    Targeted decimals routerConfig next := by
  have grows := failoverStep_grows taken
  refine ⟨?_, ?_, ?_⟩
  · intro item member
    rcases grows.services item member with old | waiting
    · exact targeted.services item old
    · exact targeted.inFlight item.1 item.2 waiting
  · intro key service sent
    rcases grows.inFlight key service sent with old | ⟨target, listed, inGroup, -⟩ | ⟨apiEndpoint, waiting, -⟩
    · exact targeted.inFlight key service old
    · exact group_isTarget weighted listed inGroup
    · exact targeted.pending (key, apiEndpoint) waiting
  · intro restore member
    rcases grows.pending restore member with old | ⟨event, created, -⟩
    · exact targeted.pending restore old
    · exact createKey_isTarget weighted created

/-- In every run of a weighted router, the balancer's services are targets of the
configuration, so what can be ready is always a set of targets. -/
theorem balancer_targets {policy : FallbackPolicyConfig} {clients : Clients} {routerId : RouterId} {strategy : Strategy}
    {discovered : List (Key × Dispatcher)} (weighted : Weighted strategy)
    (accepted : discover decimals clients routerId routerConfig strategy = .ok discovered)
    {steps : List FailoverStep} {state : FailoverState}
    (ran : failoverRun decimals policy routerId routerConfig strategy discovered steps = some state) :
    ∀ item ∈ state.services, ∃ target : WeightedTarget decimals routerConfig, target.key = item.1 := by
  have start : Targeted decimals routerConfig (.start discovered) := by
    refine ⟨by simp [FailoverState.start], ?_, by simp [FailoverState.start, RateLimitState.start]⟩
    intro key service sent
    obtain ⟨item, member, same⟩ := List.mem_map.mp sent
    cases same
    exact discovered_isTarget weighted accepted member
  have targeted := run_invariant
    (fun state step next targeted _ taken => targeted_step weighted state step next targeted taken) start
    (along_trivial _ _) ran
  exact targeted.services

/-- An index of a ready target is chosen, and not of one without weight while one with
weight is ready. -/
def ChoosesWell (sampler : Sampler) (ready : List (WeightedTarget decimals routerConfig)) : Prop :=
  ∃ index target, readyIndex sampler ready = .ok (some index) ∧ ready[index]? = some target ∧
    (target.weight.value ≤ 0 → ∀ other ∈ ready, other.weight.value ≤ 0)

private theorem rounded_min (faithful : decimals.SignFaithful) (target : WeightedTarget decimals routerConfig)
    (none : target.weight.value ≤ 0) : target.rounded = .min := by
  obtain ⟨provider, converted⟩ : ∃ provider, weightOf decimals provider target.weight = .ok target.rounded := by
    obtain ⟨entry, -, listed⟩ := target.listed
    split at listed
    · obtain ⟨item, -, -, converted, -⟩ := listed
      exact ⟨item.provider, converted⟩
    · obtain ⟨item, -, -, converted, -⟩ := listed
      exact converted
    all_goals exact listed.elim
  unfold weightOf at converted
  split at converted
  next => cases converted
  next number number_eq =>
    rw [← Except.ok.inj converted]
    exact ofF64_min faithful none number_eq

def weights (ready : List (WeightedTarget decimals routerConfig)) : List F64 :=
  ready.map fun target => target.rounded.toF64

private theorem weights_valid (ready : List (WeightedTarget decimals routerConfig)) :
    ∀ weight ∈ weights ready, ∃ value, 0 ≤ value ∧ weight = .finite value := by
  intro weight member
  obtain ⟨target, -, rfl⟩ := List.mem_map.mp member
  exact toF64_valid target.rounded

private theorem sample_some {sampler : Sampler} (lawful : sampler.Lawful)
    {ready : List (WeightedTarget decimals routerConfig)} {index : Nat}
    (sampled : sampler.sampleWeighted (weights ready) = some index) :
    ∃ target, ready[index]? = some target ∧ target.rounded ≠ .min := by
  obtain ⟨weight, found, nonzero⟩ := lawful.chooses _ _ (weights_valid ready) sampled
  rw [weights, List.getElem?_map] at found
  obtain ⟨target, here, rfl⟩ := Option.map_eq_some_iff.mp found
  exact ⟨target, here, mt toF64_eq_zero_iff.mpr nonzero⟩

private theorem sample_none_iff {sampler : Sampler} (lawful : sampler.Lawful)
    {ready : List (WeightedTarget decimals routerConfig)} :
    sampler.sampleWeighted (weights ready) = none ↔ ∀ target ∈ ready, target.rounded = .min := by
  rw [lawful.fails _ (weights_valid ready)]
  simp only [weights, List.mem_map, forall_exists_index, and_imp, forall_apply_eq_imp_iff₂, toF64_eq_zero_iff]

private theorem many_chooses_iff (faithful : decimals.SignFaithful) {sampler : Sampler} (lawful : sampler.Lawful)
    {ready : List (WeightedTarget decimals routerConfig)}
    (several : readyIndex sampler ready =
      match sampler.sampleWeighted (weights ready) with
      | none => .error .sampleFailed
      | some chosen => .ok (some chosen)) :
    ChoosesWell sampler ready ↔ ∃ target ∈ ready, target.rounded ≠ .min := by
  unfold ChoosesWell
  rw [several]
  rcases sampled : sampler.sampleWeighted (weights ready) with _ | chosen
  · have zero := (sample_none_iff lawful).mp sampled
    simp only [reduceCtorEq, false_and, exists_false, false_iff, not_exists, not_and, not_not]
    exact zero
  · obtain ⟨target, here, nonzero⟩ := sample_some lawful sampled
    refine ⟨fun _ => ⟨target, List.mem_of_getElem? here, nonzero⟩, fun _ => ⟨chosen, target, rfl, here, ?_⟩⟩
    intro none
    exact absurd (rounded_min faithful target none) nonzero

theorem readyIndex_chooses_iff (faithful : decimals.SignFaithful) {sampler : Sampler} (lawful : sampler.Lawful)
    (ready : List (WeightedTarget decimals routerConfig)) :
    ChoosesWell sampler ready ↔ ready.length = 1 ∨ ∃ target ∈ ready, target.rounded ≠ .min := by
  rcases ready with _ | ⟨first, _ | ⟨second, rest⟩⟩
  · simp [ChoosesWell, readyIndex]
  · simp [ChoosesWell, readyIndex]
  · rw [many_chooses_iff faithful lawful rfl]
    simp

end Choice

theorem exactDecimals_signFaithful : exactDecimals.SignFaithful := by
  intro decimal number nonpositive converted
  cases converted
  exact ofRat_nonpositive nonpositive

def firstSampler : Sampler := ⟨fun weights => weights.findIdx? fun weight => weight != .finite 0⟩

theorem firstSampler_lawful : firstSampler.Lawful := by
  refine ⟨?_, ?_⟩
  · intro weights _
    simp [firstSampler, List.findIdx?_eq_none_iff]
  · intro weights index _ sampled
    obtain ⟨bound, nonzero, -⟩ := List.findIdx?_eq_some_iff_getElem.mp sampled
    exact ⟨weights[index], List.getElem?_eq_getElem bound, by simpa using nonzero⟩

def halfTarget (provider : InferenceProvider) (listed : ⟨provider, ⟨1 / 2⟩⟩ ∈ halves.items) :
    WeightedTarget exactDecimals (weightedRouter halves) :=
  ⟨.providerWeighted provider .chat ⟨5000⟩, ⟨1 / 2⟩, ⟨5000⟩, _, List.mem_cons_self,
    ⟨provider, ⟨1 / 2⟩⟩, listed, rfl, half_weight provider, rfl⟩

theorem halves_choose :
    ChoosesWell firstSampler [halfTarget .openAI (by simp [halves]), halfTarget .anthropic (by simp [halves])] :=
  (readyIndex_chooses_iff exactDecimals_signFaithful firstSampler_lawful _).mpr
    (.inr ⟨_, List.mem_cons_self, by decide⟩)

def oneSided : NESet WeightedProvider :=
  ⟨[⟨.openAI, ⟨1⟩⟩, ⟨.anthropic, ⟨0⟩⟩, ⟨.googleGemini, ⟨0⟩⟩], by simp, by decide⟩

private theorem zero_weight (provider : InferenceProvider) : weightOf exactDecimals provider ⟨0⟩ = .ok .min := by
  have converted : Weight.ofF64 (ofRat 0) = .min := by decide +kernel
  simp only [weightOf, exactDecimals, converted]

def idleTarget (provider : InferenceProvider) (listed : ⟨provider, ⟨0⟩⟩ ∈ oneSided.items) :
    WeightedTarget exactDecimals (weightedRouter oneSided) :=
  ⟨.providerWeighted provider .chat .min, ⟨0⟩, .min, _, List.mem_cons_self,
    ⟨provider, ⟨0⟩⟩, listed, rfl, zero_weight provider, rfl⟩

def idleTargets : List (WeightedTarget exactDecimals (weightedRouter oneSided)) :=
  [idleTarget .anthropic (by simp [oneSided]), idleTarget .googleGemini (by simp [oneSided])]

/-- The weights are valid, and with the first provider gone none of the others is chosen. -/
theorem idle_targets_fail :
    ¬ ∀ (routerConfig : RouterConfig) (ready : List (WeightedTarget exactDecimals routerConfig)),
      routerConfig.validate exactDecimals = .ok () → ready ≠ [] → ChoosesWell firstSampler ready := by
  intro chooses
  have validated : (weightedRouter oneSided).validate exactDecimals = .ok () := by
    simp [RouterConfig.validate, weightedRouter, BalanceConfigInner.validate, validateWeights, exactDecimals, oneSided]
  have nothing : firstSampler.sampleWeighted (weights idleTargets) = none :=
    (sample_none_iff firstSampler_lawful).mpr (by simp [idleTargets, idleTarget])
  have failed : readyIndex firstSampler idleTargets =
      match firstSampler.sampleWeighted (weights idleTargets) with
      | none => .error .sampleFailed
      | some chosen => .ok (some chosen) := rfl
  obtain ⟨index, target, chosen, -⟩ := chooses (weightedRouter oneSided) idleTargets validated (by simp [idleTargets])
  rw [failed, nothing] at chosen
  cases chosen

end AiGateway.Proofs
