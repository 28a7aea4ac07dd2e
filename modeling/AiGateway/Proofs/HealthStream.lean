import Mathlib.Data.List.Pairwise
import AiGateway.HealthMonitor

/-! The stream of changes the health monitor sends for one key. It alternates as long as a
target brings no other key with it and no two targets have one key. -/

namespace AiGateway.Proofs
open Lib.Runs

def Change.isRemove : Change → Bool
  | .remove _ => true
  | .insert _ _ => false

def history (key : Key) (sent : List Change) : List Change := sent.filter fun change => change.key == key

/-- Removes and inserts in turn, beginning with a remove if the flag says so. -/
def Alternates : Bool → List Change → Prop
  | _, [] => True
  | removeNext, change :: rest => Change.isRemove change = removeNext ∧ Alternates (!removeNext) rest

def lastIsRemove (changes : List Change) : Bool := changes.getLast?.any Change.isRemove

@[simp] theorem history_append (key : Key) (sent new : List Change) :
    history key (sent ++ new) = history key sent ++ history key new := by
  simp [history]

theorem history_other {key : Key} {change : Change} (different : change.key ≠ key) : history key [change] = [] := by
  simp [history, different]

theorem history_own (change : Change) : history change.key [change] = [change] := by
  simp [history]

@[simp] theorem lastIsRemove_append (changes : List Change) (last : Change) :
    lastIsRemove (changes ++ [last]) = Change.isRemove last := by
  simp [lastIsRemove]

private theorem alternates_snoc {removeNext : Bool} {changes : List Change} {last : Change}
    (alternates : Alternates removeNext changes)
    (next : Change.isRemove last = (changes.getLast?.map fun change => !Change.isRemove change).getD removeNext) :
    Alternates removeNext (changes ++ [last]) := by
  induction changes generalizing removeNext with
  | nil => exact ⟨next, trivial⟩
  | cons change rest ih =>
    obtain ⟨first, alternates⟩ := alternates
    refine ⟨first, ih alternates ?_⟩
    rw [next]
    cases rest with
    | nil => simp [first]
    | cons other rest => simp [List.getLast?_cons]

theorem alternates_append {changes : List Change} {last : Change} (alternates : Alternates true changes)
    (next : Change.isRemove last = !lastIsRemove changes) : Alternates true (changes ++ [last]) := by
  apply alternates_snoc alternates
  rw [next, lastIsRemove]
  cases changes.getLast? <;> rfl

/-- The key is held as unhealthy exactly while its last message is a remove. -/
structure Synced (key : Key) (state : HealthState) : Prop where
  alternates : Alternates true (history key state.sent)
  held : key ∈ state.unhealthyKeys ↔ lastIsRemove (history key state.sent) = true

/-- Every key is in step, and a custom provider's keys are never unhealthy. -/
structure Tracked (state : HealthState) : Prop where
  synced : ∀ key, Synced key state
  noCustom : ∀ key ∈ state.unhealthyKeys, key.inferenceProvider ≠ some .custom

theorem tracked_start : Tracked .start :=
  ⟨fun key => ⟨trivial, by simp [HealthState.start, history, lastIsRemove]⟩, by simp [HealthState.start]⟩

/-- Nothing goes with the target's key, unless the target is of the kind that is never
found unhealthy. -/
structure Simple (target : HealthTarget) : Prop where
  provider : target.key.inferenceProvider = some target.provider
  alone : target.provider ≠ .custom → target.group = [.ok target.key]

private theorem synced_sent {state : HealthState} {change : Change} {keys : Finset Key} {checks : Nat}
    (tracked : Tracked state) (next : Change.isRemove change = !lastIsRemove (history change.key state.sent))
    (own : change.key ∈ keys ↔ Change.isRemove change = true)
    (others : ∀ key, key ≠ change.key → (key ∈ keys ↔ key ∈ state.unhealthyKeys)) (key : Key) :
    Synced key ⟨keys, state.sent ++ [change], checks⟩ := by
  obtain ⟨alternates, held⟩ := tracked.synced key
  by_cases same : key = change.key
  · subst same
    refine ⟨?_, ?_⟩
    · rw [history_append, history_own]
      exact alternates_append alternates next
    · rw [history_append, history_own, lastIsRemove_append]
      exact own
  · have nothing : history key [change] = [] := history_other (Ne.symm same)
    refine ⟨?_, ?_⟩
    · rw [history_append, nothing, List.append_nil]
      exact alternates
    · rw [history_append, nothing, List.append_nil, others key same]
      exact held

def Adds (target : HealthTarget) (state next : HealthState) : Prop :=
  next.sent = state.sent ∨
    ∃ change, next.sent = state.sent ++ [change] ∧ change.key = target.key ∧ target.provider ≠ .custom

def Alternating (state : HealthState) : Prop := ∀ key, Alternates true (history key state.sent)

section Rounds
variable (routerId : RouterId) (routerConfig : RouterConfig) (surroundings : Surroundings)

private theorem tracked_checks {state : HealthState} (tracked : Tracked state) (checks : Nat) :
    Tracked { state with checks := checks } :=
  ⟨fun key => ⟨(tracked.synced key).alternates, (tracked.synced key).held⟩, tracked.noCustom⟩

private theorem Tracked.alternating {state : HealthState} (tracked : Tracked state) : Alternating state :=
  fun key => (tracked.synced key).alternates

private theorem tracked_remove {state : HealthState} {target : HealthTarget} {checks : Nat} (tracked : Tracked state)
    (simple : Simple target) (usual : target.provider ≠ .custom) (absent : target.key ∉ state.unhealthyKeys) :
    Tracked ⟨insert target.key state.unhealthyKeys, state.sent ++ [.remove target.key], checks⟩ := by
  refine ⟨synced_sent tracked ?_ ?_ ?_, ?_⟩
  · have notLast := mt (tracked.synced target.key).held.mpr absent
    simp [Change.isRemove, Change.key, notLast]
  · simp [Change.isRemove, Change.key]
  · intro key different
    simp only [Change.key] at different
    simp [different]
  · intro key member
    rcases Finset.mem_insert.mp member with rfl | member
    · rw [simple.provider]
      exact fun same => usual (Option.some.inj same)
    · exact tracked.noCustom key member

private theorem tracked_insert {state : HealthState} {target : HealthTarget} {checks : Nat} {service : Dispatcher}
    (tracked : Tracked state) (present : target.key ∈ state.unhealthyKeys) :
    Tracked ⟨state.unhealthyKeys.erase target.key, state.sent ++ [.insert target.key service], checks⟩ := by
  refine ⟨synced_sent tracked ?_ ?_ ?_, ?_⟩
  · have last := (tracked.synced target.key).held.mp present
    simp [Change.isRemove, Change.key, last]
  · simp [Change.isRemove, Change.key]
  · intro key different
    simp only [Change.key] at different
    simp [different]
  · intro key member
    exact tracked.noCustom key (Finset.mem_of_mem_erase member)

private theorem checkTarget_ends {target : HealthTarget} (simple : Simple target) {state : HealthState}
    (tracked : Tracked state) :
    Ends (fun next => Tracked next ∧ Adds target state next) (fun next => Alternating next ∧ Adds target state next)
      (checkTarget routerId routerConfig surroundings target state) := by
  have unchanged := tracked_checks tracked (state.checks + 1)
  rcases checkTarget_cases routerId routerConfig surroundings target state with
    ⟨result, same⟩ | ⟨usual, absent, same⟩ | ⟨present, -, same⟩ <;> rw [same]
  · cases result with
    | ok _ => exact ⟨unchanged, .inl rfl⟩
    | error _ => exact ⟨unchanged.alternating, .inl rfl⟩
  · rw [simple.alone usual]
    exact ⟨tracked_remove unchanged simple usual absent, .inr ⟨_, rfl, rfl, usual⟩⟩
  · -- a provider without metrics is never held, so the group is the key alone
    have usual : target.provider ≠ .custom := by
      intro custom
      apply tracked.noCustom _ present
      rw [simple.provider, custom]
    rw [simple.alone usual]
    simp only [forEach, sendInsert]
    cases Dispatcher.new (surroundings.clients state.checks) routerId routerConfig target.provider with
    | ok service => exact ⟨tracked_insert tracked present, .inr ⟨_, rfl, rfl, usual⟩⟩
    | error error => exact ⟨tracked.alternating, .inl rfl⟩

def names (key : Key) (item : Except RuntimeError HealthTarget) : Bool :=
  match item with
  | .ok target => target.key == key && target.provider != .custom
  | .error _ => false

def Sends (items : List (Except RuntimeError HealthTarget)) (state next : HealthState) : Prop :=
  ∃ new, next.sent = state.sent ++ new ∧ ∀ key, (history key new).length ≤ items.countP (names key)

private theorem adds_sends {target : HealthTarget} {state next : HealthState} (adds : Adds target state next) :
    Sends [.ok target] state next := by
  obtain same | ⟨change, same, own, usual⟩ := adds
  · exact ⟨[], by simpa using same, by simp [history]⟩
  · refine ⟨[change], same, fun key => ?_⟩
    by_cases equal : change.key = key
    · have named : names key (.ok target) = true := by simp [names, ← own, equal, usual]
      subst equal
      simp [history_own, named]
    · simp [history_other equal]

private theorem Sends.trans {first last : List (Except RuntimeError HealthTarget)} {state middle next : HealthState}
    (before : Sends first state middle) (after : Sends last middle next) : Sends (first ++ last) state next := by
  obtain ⟨early, sentEarly, fewEarly⟩ := before
  obtain ⟨late, sentLate, fewLate⟩ := after
  refine ⟨early ++ late, by rw [sentLate, sentEarly, List.append_assoc], fun key => ?_⟩
  have := fewEarly key
  have := fewLate key
  rw [history_append, List.length_append, List.countP_append]
  omega

private theorem Sends.refl (items : List (Except RuntimeError HealthTarget)) (state : HealthState) :
    Sends items state state :=
  ⟨[], by simp, by simp [history]⟩

theorem round_ends (items : List (Except RuntimeError HealthTarget))
    (simple : ∀ target, .ok target ∈ items → Simple target) (state : HealthState) (tracked : Tracked state) :
    Ends (fun next => Tracked next ∧ Sends items state next) (fun next => Alternating next ∧ Sends items state next)
      (forEach (checkListed routerId routerConfig surroundings) items state) := by
  induction items generalizing state with
  | nil => exact ⟨tracked, .refl _ _⟩
  | cons item rest ih =>
    cases item with
    | error error => exact ⟨tracked.alternating, .refl _ _⟩
    | ok target =>
      have once := checkTarget_ends routerId routerConfig surroundings (simple target (by simp)) tracked
      simp only [forEach, checkListed]
      generalize checkTarget routerId routerConfig surroundings target state = outcome at once ⊢
      obtain ⟨next, _ | _⟩ := outcome
      · obtain ⟨alternating, adds⟩ := once
        exact ⟨alternating, (adds_sends adds).trans (.refl rest next)⟩
      · obtain ⟨middle, adds⟩ := once
        have remaining := ih (fun other member => simple other (by simp [member])) next middle
        change Ends _ _ (forEach (checkListed routerId routerConfig surroundings) rest next)
        generalize forEach (checkListed routerId routerConfig surroundings) rest next = ending at remaining ⊢
        obtain ⟨final, _ | _⟩ := ending <;> exact ⟨remaining.1, (adds_sends adds).trans remaining.2⟩

end Rounds

/-- The two models have different providers, unless these have no metrics. -/
def DifferentProviders (left right : ModelId) : Prop :=
  left.inferenceProvider = right.inferenceProvider →
    left.inferenceProvider = none ∨ left.inferenceProvider = some .custom

section Unmixed
variable (decimals : DecimalLibrary)

/-- No two targets of one endpoint kind have one provider, in a model strategy, or one
provider and one rounded weight, in the weighted provider strategy. -/
def Unmixed (strategy : Strategy) (balance : BalanceConfigInner) : Prop :=
  match strategy, balance with
  | .providerWeighted, .providerWeighted providers =>
    providers.items.Pairwise fun left right =>
      left.provider = right.provider → left.provider = .custom ∨
        ∀ weight, weightOf decimals left.provider left.weight = .ok weight →
          weightOf decimals right.provider right.weight ≠ .ok weight
  | .modelWeighted, .modelWeighted models =>
    models.items.Pairwise fun left right => DifferentProviders left.model right.model
  | .modelLatency, .modelLatency models => models.items.Pairwise DifferentProviders
  | _, _ => True

def Apart (left right : Except RuntimeError HealthTarget) : Prop :=
  ∀ first second, left = .ok first → right = .ok second → first.provider ≠ .custom → first.key ≠ second.key

private theorem countP_names_le {items : List (Except RuntimeError HealthTarget)} (apart : items.Pairwise Apart)
    (key : Key) : items.countP (names key) ≤ 1 := by
  induction items with
  | nil => simp
  | cons item rest ih =>
    obtain ⟨first, apart⟩ := List.pairwise_cons.mp apart
    rw [List.countP_cons]
    split
    next named =>
      have none : rest.countP (names key) = 0 := by
        rw [List.countP_eq_zero]
        intro other member also
        cases item with
        | error _ => cases named
        | ok target =>
          cases other with
          | error _ => cases also
          | ok second =>
            simp only [names, Bool.and_eq_true, beq_iff_eq, bne_iff_ne] at named also
            exact first _ member target second rfl rfl named.2 (named.1.trans also.1.symm)
      omega
    next => exact ih apart

private theorem filter_label {α β : Type} [BEq β] [LawfulBEq β] (label : α → β) (odd : β → Prop) {items : List α}
    (apart : items.Pairwise fun left right => label left = label right → odd (label left))
    {member : α} (inside : member ∈ items) (usual : ¬ odd (label member)) :
    items.filter (fun other => label other == label member) = [member] := by
  induction items with
  | nil => cases inside
  | cons item rest ih =>
    obtain ⟨first, apart⟩ := List.pairwise_cons.mp apart
    rcases List.mem_cons.mp inside with rfl | inside
    · have others : rest.filter (fun other => label other == label member) = [] := by
        rw [List.filter_eq_nil_iff]
        intro other here same
        exact usual (first other here (beq_iff_eq.mp same).symm)
      simp [others]
    · have different : label item ≠ label member := by
        intro same
        exact usual (same ▸ first member inside same)
      simp [different, ih apart inside]

private theorem liftInit_bind_ok {α β : Type} {first : Except InitError α} {rest : α → Except InitError β} {value : β}
    (done : liftInit (first >>= rest) = .ok value) : ∃ middle, first = .ok middle ∧ liftInit (rest middle) = .ok value := by
  cases first with
  | error error => cases done
  | ok middle => exact ⟨middle, rfl, done⟩

structure Listed (endpointType : EndpointType) (items : List (Except RuntimeError HealthTarget)) : Prop where
  simple : ∀ target, .ok target ∈ items → Simple target
  ofEndpoint : ∀ target, .ok target ∈ items → target.key.endpointType = endpointType
  apart : items.Pairwise Apart

theorem providerWeightedTarget_ok {decimals : DecimalLibrary} {endpointType : EndpointType}
    {listed : WeightedProvider} {target : HealthTarget}
    (done : liftInit (providerWeightedTarget decimals endpointType listed) = .ok target) :
    ∃ weight, weightOf decimals listed.provider listed.weight = .ok weight ∧
      target = ⟨listed.provider, .providerWeighted listed.provider endpointType weight,
        [.ok (.providerWeighted listed.provider endpointType weight)]⟩ := by
  obtain ⟨weight, converted, done⟩ := liftInit_bind_ok done
  cases done
  exact ⟨weight, converted, rfl⟩

private theorem listed_providerWeighted (endpointType : EndpointType) (providers : NESet WeightedProvider)
    (unmixed : Unmixed decimals .providerWeighted (.providerWeighted providers)) :
    Listed endpointType (healthTargets decimals .providerWeighted endpointType (.providerWeighted providers)) := by
  have found : ∀ target, .ok target ∈ healthTargets decimals .providerWeighted endpointType (.providerWeighted providers) →
      ∃ provider weight, target = ⟨provider, .providerWeighted provider endpointType weight,
        [.ok (.providerWeighted provider endpointType weight)]⟩ := by
    intro target member
    obtain ⟨listed, _, done⟩ := List.mem_map.mp member
    obtain ⟨weight, _, rfl⟩ := providerWeightedTarget_ok done
    exact ⟨listed.provider, weight, rfl⟩
  refine ⟨?_, ?_, ?_⟩
  · intro target member
    obtain ⟨provider, weight, rfl⟩ := found target member
    exact ⟨rfl, fun _ => rfl⟩
  · intro target member
    obtain ⟨provider, weight, rfl⟩ := found target member
    rfl
  · refine List.pairwise_map.mpr (List.Pairwise.imp ?_ unmixed)
    intro left right different first second doneFirst doneSecond usual same
    obtain ⟨weight, converted, rfl⟩ := providerWeightedTarget_ok doneFirst
    obtain ⟨other, alsoConverted, rfl⟩ := providerWeightedTarget_ok doneSecond
    simp only [Key.providerWeighted.injEq, true_and] at same
    obtain ⟨provider, rfl⟩ := same
    exact (different provider).elim usual fun never => never weight converted alsoConverted

theorem modelWeightedTarget_ok {decimals : DecimalLibrary} {endpointType : EndpointType}
    {models : List WeightedModel} {listed : WeightedModel} {target : HealthTarget}
    (done : liftInit (modelWeightedTarget decimals endpointType models listed) = .ok target) :
    ∃ provider weight, listed.model.inferenceProvider = some provider ∧
      weightOf decimals provider listed.weight = .ok weight ∧
      target = ⟨provider, .modelWeighted listed.model endpointType weight,
        (models.filter fun other => other.model.inferenceProvider == some provider).map fun other =>
          (weightOf decimals provider other.weight).map fun weight => .modelWeighted other.model endpointType weight⟩ := by
  obtain ⟨provider, recognized, done⟩ := liftInit_bind_ok done
  obtain ⟨key, keyed, done⟩ := liftInit_bind_ok done
  cases done
  cases converted : weightOf decimals provider listed.weight with
  | error error =>
    simp only [converted] at keyed
    cases keyed
  | ok weight =>
    simp only [converted] at keyed
    cases keyed
    exact ⟨provider, weight, providerOf_eq_ok.mp recognized, converted, rfl⟩

private theorem listed_modelWeighted (endpointType : EndpointType) (models : NESet WeightedModel)
    (unmixed : Unmixed decimals .modelWeighted (.modelWeighted models)) :
    Listed endpointType (healthTargets decimals .modelWeighted endpointType (.modelWeighted models)) := by
  refine ⟨?_, ?_, ?_⟩
  · intro target member
    obtain ⟨listed, inside, done⟩ := List.mem_map.mp member
    obtain ⟨provider, weight, recognized, converted, rfl⟩ := modelWeightedTarget_ok done
    refine ⟨recognized, fun usual => ?_⟩
    have alone := filter_label (fun other : WeightedModel => other.model.inferenceProvider)
      (fun label => label = none ∨ label = some .custom) unmixed inside (by simpa [recognized] using usual)
    simp only [recognized] at alone
    simp [alone, converted, Except.map]
  · intro target member
    obtain ⟨listed, _, done⟩ := List.mem_map.mp member
    obtain ⟨provider, weight, _, _, rfl⟩ := modelWeightedTarget_ok done
    rfl
  · refine List.pairwise_map.mpr (List.Pairwise.imp ?_ unmixed)
    intro left right different first second doneFirst doneSecond usual same
    obtain ⟨provider, weight, recognized, _, rfl⟩ := modelWeightedTarget_ok doneFirst
    obtain ⟨other, weight, alsoRecognized, _, rfl⟩ := modelWeightedTarget_ok doneSecond
    simp only [Key.modelWeighted.injEq, true_and] at same
    have odd := different (congrArg ModelId.inferenceProvider same.1)
    rw [recognized] at odd
    simp only [reduceCtorEq, Option.some.injEq, false_or] at odd
    exact usual odd

private theorem listed_providerLatency (endpointType : EndpointType) (providers : NESet InferenceProvider) :
    Listed endpointType (healthTargets decimals .providerLatency endpointType (.balancedLatency providers)) := by
  refine ⟨?_, ?_, ?_⟩
  · intro target member
    obtain ⟨provider, _, done⟩ := List.mem_map.mp member
    cases done
    exact ⟨rfl, fun _ => rfl⟩
  · intro target member
    obtain ⟨provider, _, done⟩ := List.mem_map.mp member
    cases done
    rfl
  · refine List.pairwise_map.mpr (List.Pairwise.imp ?_ providers.nodup)
    intro left right different first second doneFirst doneSecond _ same
    cases doneFirst
    cases doneSecond
    simp only [providerLatencyTarget, Key.providerLatency.injEq, and_true] at same
    exact different same

theorem modelLatencyTarget_ok {endpointType : EndpointType} {models : List ModelId} {listed : ModelId}
    {target : HealthTarget} (done : liftInit (modelLatencyTarget endpointType models listed) = .ok target) :
    ∃ provider, listed.inferenceProvider = some provider ∧
      target = ⟨provider, .modelLatency listed endpointType,
        (models.filter fun other => other.inferenceProvider == some provider).map fun other =>
          .ok (.modelLatency other endpointType)⟩ := by
  obtain ⟨provider, recognized, done⟩ := liftInit_bind_ok done
  cases done
  exact ⟨provider, providerOf_eq_ok.mp recognized, rfl⟩

private theorem listed_modelLatency (endpointType : EndpointType) (models : NESet ModelId)
    (unmixed : Unmixed decimals .modelLatency (.modelLatency models)) :
    Listed endpointType (healthTargets decimals .modelLatency endpointType (.modelLatency models)) := by
  refine ⟨?_, ?_, ?_⟩
  · intro target member
    obtain ⟨listed, inside, done⟩ := List.mem_map.mp member
    obtain ⟨provider, recognized, rfl⟩ := modelLatencyTarget_ok done
    refine ⟨recognized, fun usual => ?_⟩
    have alone := filter_label ModelId.inferenceProvider
      (fun label => label = none ∨ label = some .custom) unmixed inside (by simpa [recognized] using usual)
    simp only [recognized] at alone
    simp [alone]
  · intro target member
    obtain ⟨listed, _, done⟩ := List.mem_map.mp member
    obtain ⟨provider, _, rfl⟩ := modelLatencyTarget_ok done
    rfl
  · refine List.pairwise_map.mpr (List.Pairwise.imp ?_ unmixed)
    intro left right different first second doneFirst doneSecond usual same
    obtain ⟨provider, recognized, rfl⟩ := modelLatencyTarget_ok doneFirst
    obtain ⟨other, alsoRecognized, rfl⟩ := modelLatencyTarget_ok doneSecond
    simp only [Key.modelLatency.injEq, and_true] at same
    have odd := different (congrArg ModelId.inferenceProvider same)
    rw [recognized] at odd
    simp only [reduceCtorEq, Option.some.injEq, false_or] at odd
    exact usual odd

private theorem listed_wrong (endpointType : EndpointType) : Listed endpointType [.error (.internal .internal)] := by
  refine ⟨?_, ?_, List.pairwise_singleton _ _⟩ <;>
  · intro target member
    simp at member

private theorem listed_healthTargets (strategy : Strategy) (endpointType : EndpointType) (balance : BalanceConfigInner)
    (unmixed : Unmixed decimals strategy balance) :
    Listed endpointType (healthTargets decimals strategy endpointType balance) := by
  unfold healthTargets
  split
  next providers => exact listed_providerWeighted decimals endpointType providers unmixed
  next models => exact listed_modelWeighted decimals endpointType models unmixed
  next providers => exact listed_providerLatency decimals endpointType providers
  next models => exact listed_modelLatency decimals endpointType models unmixed
  next => exact listed_wrong endpointType

private theorem round_listed (strategy : Strategy) (routerConfig : RouterConfig)
    (unmixed : ∀ entry ∈ routerConfig.loadBalance.entries, Unmixed decimals strategy entry.2) :
    (∀ target, .ok target ∈ roundTargets decimals routerConfig strategy → Simple target) ∧
      (roundTargets decimals routerConfig strategy).Pairwise Apart := by
  have listed : ∀ entry ∈ routerConfig.loadBalance.entries, Listed entry.1 (healthTargets decimals strategy entry.1 entry.2) :=
    fun entry member => listed_healthTargets decimals strategy entry.1 entry.2 (unmixed entry member)
  refine ⟨?_, List.pairwise_flatMap.mpr ⟨fun entry member => (listed entry member).apart, ?_⟩⟩
  · intro target member
    obtain ⟨entry, inside, member⟩ := List.mem_flatMap.mp member
    exact (listed entry inside).simple target member
  · have different : routerConfig.loadBalance.entries.Pairwise fun left right => left.1 ≠ right.1 :=
      List.pairwise_map.mp routerConfig.loadBalance.distinct
    apply different.imp_of_mem
    rintro left right leftMember rightMember distinct _ here _ there first second rfl rfl _ same
    apply distinct
    rw [← (listed left leftMember).ofEndpoint first here, ← (listed right rightMember).ofEndpoint second there, same]

end Unmixed

section Stream
variable (decimals : DecimalLibrary) (routerId : RouterId) (routerConfig : RouterConfig)

private theorem tracked_rounds (strategy : Strategy)
    (simple : ∀ target, .ok target ∈ roundTargets decimals routerConfig strategy → Simple target)
    (rounds : List Surroundings) :
    Ends Tracked (fun _ => True) (forEach (checkMonitor decimals routerId routerConfig strategy) rounds .start) := by
  refine forEach_ends rounds ?_ _ tracked_start
  intro round _ state tracked
  have ends := round_ends routerId routerConfig round _ simple state tracked
  rw [← checkMonitor_eq] at ends
  generalize checkMonitor decimals routerId routerConfig strategy round state = outcome at ends ⊢
  obtain ⟨next, _ | _⟩ := outcome
  · trivial
  · exact ends.1

/-- For every round of every run: the messages of each key alternate from a remove on, the
round adds at most one of them, and after a round that ends without an error the key is
unhealthy exactly if its last message is a remove. -/
theorem health_stream_alternates (strategy : Strategy)
    (unmixed : ∀ entry ∈ routerConfig.loadBalance.entries, Unmixed decimals strategy entry.2)
    (rounds : List Surroundings) (round : Surroundings) (before after : HealthState) (result : Except RuntimeError Unit)
    (ran : forEach (checkMonitor decimals routerId routerConfig strategy) rounds .start = (before, .ok ()))
    (checked : checkMonitor decimals routerId routerConfig strategy round before = (after, result)) (key : Key) :
    Alternates true (history key after.sent) ∧
      (∃ new, after.sent = before.sent ++ new ∧ (history key new).length ≤ 1) ∧
      (result = .ok () → (key ∈ after.unhealthyKeys ↔ lastIsRemove (history key after.sent) = true)) := by
  obtain ⟨simple, apart⟩ := round_listed decimals strategy routerConfig unmixed
  have tracked : Tracked before := by
    have ends := tracked_rounds decimals routerId routerConfig strategy simple rounds
    rw [ran] at ends
    exact ends
  have ends := round_ends routerId routerConfig round _ simple before tracked
  rw [← checkMonitor_eq, checked] at ends
  have sends : Sends (roundTargets decimals routerConfig strategy) before after := by
    cases result with
    | ok _ => exact ends.2
    | error _ => exact ends.2
  obtain ⟨new, sent, few⟩ := sends
  refine ⟨?_, ⟨new, sent, (few key).trans (countP_names_le apart key)⟩, ?_⟩
  · cases result with
    | ok _ => exact (ends.1.synced key).alternates
    | error _ => exact ends.1 key
  · rintro rfl
    exact (ends.1.synced key).held

end Stream

def everyClient : Clients := ⟨fun _ => none⟩

def steadily (healthy : Bool) : Surroundings := ⟨fun _ => .ok healthy, fun _ => everyClient⟩

def gpt4o : ModelId := .modelIdWithVersion .openAI ⟨"gpt-4o", .implicitLatest⟩
def gpt4oMini : ModelId := .modelIdWithVersion .openAI ⟨"gpt-4o-mini", .implicitLatest⟩
def claude : ModelId := .modelIdWithVersion .anthropic ⟨"claude-3-5-haiku", .implicitLatest⟩

def latencyRouter (models : NESet ModelId) : RouterConfig :=
  ⟨⟨[(.chat, .modelLatency models)], by simp⟩, none⟩

/-- Decimals converted to the nearest binary64 number, and summed exactly. -/
def exactDecimals : DecimalLibrary :=
  ⟨fun weights => ⟨(weights.map fun weight => weight.value).sum⟩, fun decimal => some (Lib.Float64.ofRat decimal.value),
    fun decimal => toString decimal.value⟩

def afterRounds (strategy : Strategy) (routerConfig : RouterConfig) (rounds : List Surroundings) : HealthState :=
  (forEach (checkMonitor exactDecimals ⟨"main"⟩ routerConfig strategy) rounds .start).1

def twoProviders : NESet ModelId := ⟨[gpt4o, claude], by simp, by decide⟩

theorem outage_alternates :
    Alternates true (history (.modelLatency gpt4o .chat)
      (afterRounds .modelLatency (latencyRouter twoProviders) [steadily false, steadily true]).sent) :=
  (health_stream_alternates exactDecimals ⟨"main"⟩ (latencyRouter twoProviders) .modelLatency
    (by
      intro entry member
      obtain rfl := List.mem_singleton.mp member
      simp [Unmixed, twoProviders, DifferentProviders, gpt4o, claude, ModelId.inferenceProvider])
    [steadily false] (steadily true) (afterRounds .modelLatency (latencyRouter twoProviders) [steadily false]) _ (.ok ())
    rfl rfl _).1

def oneProvider : NESet ModelId := ⟨[gpt4o, gpt4oMini], by simp, by decide⟩

/-- With two models of one provider, each of the two checks of the round in which it is
healthy again inserts both keys. -/
theorem model_inserted_twice :
    ¬ ∀ (strategy : Strategy) (routerConfig : RouterConfig) (rounds : List Surroundings) (round : Surroundings)
      (before after : HealthState) (result : Except RuntimeError Unit),
      forEach (checkMonitor exactDecimals ⟨"main"⟩ routerConfig strategy) rounds .start = (before, .ok ()) →
      checkMonitor exactDecimals ⟨"main"⟩ routerConfig strategy round before = (after, result) →
      ∀ key, ∃ new, after.sent = before.sent ++ new ∧ (history key new).length ≤ 1 := by
  intro once
  obtain ⟨new, sent, few⟩ := once .modelLatency (latencyRouter oneProvider) [steadily false] (steadily true)
    (afterRounds .modelLatency (latencyRouter oneProvider) [steadily false])
    (afterRounds .modelLatency (latencyRouter oneProvider) [steadily false, steadily true]) (.ok ()) rfl rfl
    (.modelLatency gpt4o .chat)
  have histories := congrArg (fun changes => (history (.modelLatency gpt4o .chat) changes).length) sent
  simp only [history_append, List.length_append] at histories
  have early : (history (.modelLatency gpt4o .chat)
      (afterRounds .modelLatency (latencyRouter oneProvider) [steadily false]).sent).length = 1 := by decide
  have late : (history (.modelLatency gpt4o .chat)
      (afterRounds .modelLatency (latencyRouter oneProvider) [steadily false, steadily true]).sent).length = 3 := by decide
  omega

end AiGateway.Proofs
