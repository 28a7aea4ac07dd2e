import AiGateway.Proofs.Cooldowns
import AiGateway.Proofs.Discovery
import AiGateway.Proofs.HealthStream

/-! Which events end the rate-limit monitor. The monitor cannot name a key for every event
that the services of its router send, and an event without a key is an error. Where it has a
key, the wait that the event carries may leave no room for the policy's buffer. -/

namespace AiGateway.Proofs
open Lib.Runs Lib.Durations
open SemanticCache (HeaderMap HeaderValue parseU64 visible_of_all)

section Events
variable (decimals : DecimalLibrary) (policy : FallbackPolicyConfig) (routerId : RouterId) (routerConfig : RouterConfig)
  (catalog : Catalog) (strategy : Strategy) (services : List (Key × Dispatcher))
  (parseFromStr : List Char → Option Int64)

def Sendable (event : RateLimitEvent) : Prop :=
  ∃ item ∈ services, ∃ exchange, rateLimitEvent catalog parseFromStr routerConfig item.2 exchange = some event

/-- After every run of the monitor over such events, with restores in between, the next
event is processed without an error. -/
def Survives : Prop :=
  ∀ steps state, (∀ event, .event event ∈ steps → Sendable routerConfig catalog services parseFromStr event) →
    rateLimitMonitor decimals policy routerId routerConfig strategy steps = (state, .ok ()) →
    ∀ event, Sendable routerConfig catalog services parseFromStr event →
      (onEvent decimals policy routerConfig strategy event state).2 = .ok ()

/-- The strategy has a key for the provider's requests of this kind. Model strategies
would need the model, which no event names. -/
def HasKey (endpointType : EndpointType) (provider : InferenceProvider) : Prop :=
  match strategy with
  | .providerLatency => True
  | .providerWeighted =>
    ∃ providers, routerConfig.loadBalance.get endpointType = some (.providerWeighted providers) ∧
      ∃ target ∈ providers.items, target.provider = provider
  | .modelWeighted | .modelLatency => False

/-- Every wait in seconds leaves room for the buffer. -/
def RoomForBuffer : Prop := policy.rateLimit.restoreBuffer.asNanos < nanosPerSec

/-- Every service has a key for each kind of request that the router lets it serve, and any
wait that a provider asks for can be added up. -/
def KeysForServed : Prop :=
  ∀ item ∈ services, ∀ path source model target, routedEndpoint routerConfig path = some source →
    mapRequest catalog item.2 source model = .ok target →
    HasKey routerConfig strategy source.endpointType item.2.provider ∧ RoomForBuffer policy

variable {decimals policy routerId routerConfig catalog strategy services parseFromStr}

private theorem mapRequest_ok {dispatcher : Dispatcher} {source target : ApiEndpoint} {model : Option ModelId}
    (mapping : mapRequest catalog dispatcher source model = .ok target) :
    ApiEndpoint.mapped source dispatcher.provider = .ok target := by
  unfold mapRequest at mapping
  split at mapping
  next => cases mapping
  next found mapped =>
    have same : found = target := by
      split at mapping
      · cases mapping
      · split at mapping
        · split at mapping <;> cases mapping
          rfl
        · split at mapping <;> cases mapping
          rfl
    rw [mapped, same]

private theorem rateLimitEvent_some {dispatcher : Dispatcher} {exchange : Exchange} {event : RateLimitEvent}
    (sent : rateLimitEvent catalog parseFromStr routerConfig dispatcher exchange = some event) :
    ∃ source target retryAfter, routedEndpoint routerConfig exchange.path = some source ∧
      mapRequest catalog dispatcher source exchange.model = .ok target ∧ event = .new target retryAfter := by
  unfold rateLimitEvent at sent
  split at sent
  next => cases sent
  next source routed =>
    split at sent
    next => cases sent
    next target mapping =>
      split at sent
      next =>
        split at sent
        next => cases sent
        next retryAfter _ =>
          cases sent
          exact ⟨source, target, retryAfter, routed, mapping, rfl⟩
      next => cases sent

/-- An answer that asks for a wait in seconds. -/
def limitedFor (path : String) (model : Option ModelId) (text : List Char)
    (plain : ∀ c ∈ text, c = '\t' ∨ (32 ≤ c.toNat ∧ c.toNat < 127)) : Exchange :=
  ⟨path, model, 429, retryAfterHeader text plain, 0⟩

/-- A service that can serve a request can be told any wait. -/
theorem sendable_limitedFor {item : Key × Dispatcher} (member : item ∈ services) {path : String} {source : ApiEndpoint}
    {model : Option ModelId} {target : ApiEndpoint} (routed : routedEndpoint routerConfig path = some source)
    (mapping : mapRequest catalog item.2 source model = .ok target) {text : List Char}
    (plain : ∀ c ∈ text, c = '\t' ∨ (32 ≤ c.toNat ∧ c.toNat < 127)) {seconds : UInt64}
    (number : parseU64 text = some seconds) :
    Sendable routerConfig catalog services parseFromStr (.new target (some seconds)) := by
  have asked : extractRetryAfter parseFromStr 0 (retryAfterHeader text plain) = .ok (some seconds) := by
    rw [extractRetryAfter]
    simp only [retryAfterHeader, if_true, number]
  refine ⟨item, member, limitedFor path model text plain, ?_⟩
  simp only [rateLimitEvent, limitedFor, routed, mapping, if_true, asked]

private theorem weight_converts {clients : Clients} {endpointType : EndpointType} {providers : NESet WeightedProvider}
    {target : WeightedProvider}
    (accepted : discover decimals clients routerId routerConfig .providerWeighted = .ok services)
    (listed : routerConfig.loadBalance.get endpointType = some (.providerWeighted providers))
    (member : target ∈ providers.items) : ∃ number, decimals.toF64 target.weight = some number := by
  obtain ⟨entry, found, same⟩ := Option.map_eq_some_iff.mp listed
  obtain ⟨services, here⟩ := discoverEndpoint_ok accepted (List.mem_of_find?_eq_some found)
  rw [same] at here
  obtain ⟨item, -, done⟩ := result_of_mapM_ok here member
  rcases converted : decimals.toF64 target.weight with _ | number
  · simp only [weightOf, converted] at done
    cases done
  · exact ⟨number, rfl⟩

private theorem createWeightedKey_ok_iff {clients : Clients} {endpoint : ApiEndpoint}
    (accepted : discover decimals clients routerId routerConfig .providerWeighted = .ok services) :
    (∃ key, createWeightedKeyForEndpoint decimals routerConfig endpoint = .ok key) ↔
      HasKey routerConfig .providerWeighted endpoint.endpointType endpoint.provider := by
  unfold createWeightedKeyForEndpoint
  constructor
  · intro ⟨key, created⟩
    split at created
    next providers listed =>
      split at created
      next => cases created
      next target found =>
        have same := List.find?_some found
        exact ⟨providers, listed, target, List.mem_of_find?_eq_some found, eq_of_beq same⟩
    next => cases created
  · intro ⟨providers, listed, target, member, same⟩
    rw [listed]
    rcases found : providers.items.find? fun target => target.provider == endpoint.provider with _ | first
    · have missing := List.find?_eq_none.mp found target member
      exact absurd (beq_iff_eq.mpr same) missing
    · obtain ⟨number, converted⟩ := weight_converts accepted listed (List.mem_of_find?_eq_some found)
      simp only [found, converted]
      exact ⟨_, rfl⟩

theorem createKey_ok_iff {clients : Clients} {endpoint : ApiEndpoint} {retryAfter : Option UInt64}
    (accepted : discover decimals clients routerId routerConfig strategy = .ok services) :
    (∃ key, createKey decimals routerConfig strategy (.new endpoint retryAfter) = .ok key) ↔
      HasKey routerConfig strategy endpoint.endpointType endpoint.provider := by
  cases strategy with
  | providerWeighted => exact createWeightedKey_ok_iff accepted
  | providerLatency => exact ⟨fun _ => trivial, fun _ => ⟨_, rfl⟩⟩
  | modelWeighted | modelLatency =>
    refine ⟨?_, False.elim⟩
    intro ⟨key, created⟩
    cases created

/-- A buffer under a second can be added to every wait. -/
theorem added_of_room (short : RoomForBuffer policy) (retryAfter : Option UInt64) :
    ∃ duration, resolvedRateLimitRestoreAfter policy retryAfter = .ok duration := by
  apply addDurations_of_lt
  have bound := (retryAfter.getD policy.rateLimit.defaultRetryAfterSeconds).toNat_lt
  rw [RoomForBuffer] at short
  simp only [Duration.asNanos_fromSecs, Duration.limit, UInt64.size, nanosPerSec] at short ⊢
  omega

/-- The longest wait leaves room for nothing longer. -/
theorem room_of_added {duration : Duration}
    (added : resolvedRateLimitRestoreAfter policy (some 18446744073709551615) = .ok duration) : RoomForBuffer policy := by
  have bound := (restoreAfter_ok_iff policy 18446744073709551615).mp ⟨duration, added⟩
  have largest : UInt64.toNat 18446744073709551615 = 18446744073709551615 := rfl
  rw [RoomForBuffer]
  simp only [Duration.limit, UInt64.size, nanosPerSec] at bound ⊢
  omega

/-- Of a key that is not limited yet, an event is processed if its wait can be added up. -/
private theorem onEvent_ok_iff {event : RateLimitEvent} {state : RateLimitState} (enabled : policy.shouldRemove = true)
    (fresh : state.rateLimitedProviders = ∅) :
    (onEvent decimals policy routerConfig strategy event state).2 = .ok () ↔
      (∃ key, createKey decimals routerConfig strategy event = .ok key) ∧
        ∃ duration, resolvedRateLimitRestoreAfter policy event.retryAfterSeconds = .ok duration := by
  simp only [onEvent, enabled, Bool.not_true, Bool.false_eq_true, if_false, fresh, Finset.notMem_empty]
  rcases created : createKey decimals routerConfig strategy event with error | key
  · simp
  · rcases added : resolvedRateLimitRestoreAfter policy event.retryAfterSeconds with panic | duration <;> simp

private theorem onEvent_ok {event : RateLimitEvent} {state : RateLimitState}
    (named : policy.shouldRemove = true → ∃ key, createKey decimals routerConfig strategy event = .ok key)
    (added : policy.shouldRemove = true →
      ∃ duration, resolvedRateLimitRestoreAfter policy event.retryAfterSeconds = .ok duration) :
    (onEvent decimals policy routerConfig strategy event state).2 = .ok () := by
  by_cases enabled : policy.shouldRemove = true
  · obtain ⟨key, created⟩ := named enabled
    obtain ⟨duration, fits⟩ := added enabled
    simp only [onEvent, enabled, Bool.not_true, Bool.false_eq_true, if_false, created, fits]
    split <;> rfl
  · simp [onEvent, enabled]

theorem monitor_survives_iff {clients : Clients}
    (accepted : discover decimals clients routerId routerConfig strategy = .ok services) :
    Survives decimals policy routerId routerConfig catalog strategy services parseFromStr ↔
      (policy.shouldRemove = true → KeysForServed policy routerConfig catalog strategy services) := by
  constructor
  · intro survives enabled item member path source model target routed mapping
    have largest : parseU64 "18446744073709551615".toList = some 18446744073709551615 := by rfl
    have sendable : Sendable routerConfig catalog services parseFromStr (.new target (some 18446744073709551615)) :=
      sendable_limitedFor member routed mapping (visible_of_all (by decide)) largest
    have processed := survives [] .start (by simp) rfl _ sendable
    obtain ⟨named, duration, added⟩ := (onEvent_ok_iff enabled rfl).mp processed
    have mapped := mapRequest_ok mapping
    rw [← ApiEndpoint.mapped_endpointType mapped, ← ApiEndpoint.mapped_provider mapped]
    exact ⟨(createKey_ok_iff accepted).mp named, room_of_added added⟩
  · intro keys steps state _ _ event ⟨item, member, exchange, sent⟩
    obtain ⟨source, target, retryAfter, routed, mapping, rfl⟩ := rateLimitEvent_some sent
    have mapped := mapRequest_ok mapping
    apply onEvent_ok
    · intro enabled
      obtain ⟨key, -⟩ := keys enabled item member exchange.path source exchange.model target routed mapping
      rw [← ApiEndpoint.mapped_endpointType mapped, ← ApiEndpoint.mapped_provider mapped] at key
      exact (createKey_ok_iff accepted).mpr key
    · intro enabled
      obtain ⟨-, short⟩ := keys enabled item member exchange.path source exchange.model target routed mapping
      exact added_of_room short retryAfter

end Events

def smallCatalog : Catalog :=
  { providerModels := [(.openAI, [gpt4o, gpt4oMini]), (.anthropic, [claude])]
    defaultModelMapping := ⟨[("gpt-4o", ⟨[claude], by simp, by decide⟩)], by simp, by simp⟩
    providerIsRouterFlags := [] }

def weightedRouter (providers : NESet WeightedProvider) : RouterConfig :=
  ⟨⟨[(.chat, .providerWeighted providers)], by simp⟩, none⟩

def halves : NESet WeightedProvider := ⟨[⟨.openAI, ⟨1 / 2⟩⟩, ⟨.anthropic, ⟨1 / 2⟩⟩], by simp, by decide⟩

theorem half_weight (provider : InferenceProvider) : weightOf exactDecimals provider ⟨1 / 2⟩ = .ok ⟨5000⟩ := by
  have converted : Weight.ofF64 (Lib.Float64.ofRat (1 / 2)) = ⟨5000⟩ := by decide +kernel
  simp only [weightOf, exactDecimals, converted]

def halfServices : List (Key × Dispatcher) :=
  [InferenceProvider.openAI, .anthropic].map fun provider =>
    (.providerWeighted provider .chat ⟨5000⟩, ⟨⟨"main"⟩, provider, .newForRouter (weightedRouter halves)⟩)

private theorem discover_halves :
    discover exactDecimals everyClient ⟨"main"⟩ (weightedRouter halves) .providerWeighted = .ok halfServices := by
  simp only [discover, weightedRouter, halves, List.mapM_cons, List.mapM_nil, discoverEndpoint, half_weight]
  rfl

theorem half_a_second : 500000000 < nanosPerSec := by decide

/-- The default policy but for its buffer of half a second. -/
def halfSecondBuffer : FallbackPolicyConfig :=
  { FallbackPolicyConfig.default with rateLimit := ⟨true, 30, ⟨0, 500000000, half_a_second⟩⟩ }

theorem halves_survive :
    Survives exactDecimals halfSecondBuffer ⟨"main"⟩ (weightedRouter halves) smallCatalog .providerWeighted
      halfServices (fun _ => none) := by
  apply (monitor_survives_iff discover_halves).mpr
  intro _ item member path source model target routed _
  obtain ⟨-, served⟩ := Option.filter_eq_some_iff.mp routed
  have chat : source.endpointType = .chat := by
    revert served
    cases source.endpointType <;> decide
  rw [chat]
  have short : RoomForBuffer halfSecondBuffer := half_a_second
  refine ⟨⟨halves, rfl, ?_⟩, short⟩
  simp only [halfServices, List.map_cons, List.map_nil, List.mem_cons, List.not_mem_nil, or_false] at member
  rcases member with rfl | rfl
  · exact ⟨⟨.openAI, ⟨1 / 2⟩⟩, by simp [halves], rfl⟩
  · exact ⟨⟨.anthropic, ⟨1 / 2⟩⟩, by simp [halves], rfl⟩

/-- Any 429 ends the monitor of a router that balances models. -/
theorem model_router_ends :
    ¬ ∀ (routerConfig : RouterConfig) (strategy : Strategy) (services : List (Key × Dispatcher)),
      discover exactDecimals everyClient ⟨"main"⟩ routerConfig strategy = .ok services →
      Survives exactDecimals .default ⟨"main"⟩ routerConfig smallCatalog strategy services (fun _ => none) := by
  intro survives
  have survive := survives (latencyRouter twoProviders) .modelLatency _ rfl
  have processed := survive [] .start (by simp) rfl (.new (.openAI .chatCompletions) none)
    ⟨_, List.mem_cons_self, ⟨"chat/completions", some gpt4o, 429, ⟨fun _ => none⟩, 1700000000⟩, by decide⟩
  cases processed

end AiGateway.Proofs
