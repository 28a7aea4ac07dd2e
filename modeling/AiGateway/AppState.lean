import AiGateway.Config
import AiGateway.Cooldown
import AiGateway.VirtualKeyStore
import AiGateway.Lib.Entries
import AiGateway.Lib.Runs
import Mathlib.Data.Finset.Card

/-! The keys the gateway holds and the counters it keeps of them and of its routers. The
legacy API keys and the virtual keys are counted by one counter. -/

namespace AiGateway.AppState

open VirtualKeyStore (DbVirtualKey)
open Lib

/-! ## Counters -/

/-- `UpDownCounter<i64>`, the sum it reports for each set of attributes. -/
abbrev Counter := List (String × String) → Int

def Counter.add (counter : Counter) (amount : Int) (attributes : List (String × String)) : Counter :=
  Function.update counter attributes (counter attributes + amount)

structure RouterMetrics where
  routers : Counter
  routerStrategies : Counter
  modelMappings : Counter
  retriesEnabled : Counter
  alephantApiKeys : Counter

/-! ## Keys -/

/-- The map of virtual keys by their hashes. -/
structure KeyMap where
  entries : List (String × DbVirtualKey)
  distinct : (entries.map Prod.fst).Nodup

namespace KeyMap

def empty : KeyMap := ⟨[], List.nodup_nil⟩

def insert (map : KeyMap) (keyHash : String) (vk : DbVirtualKey) : KeyMap :=
  ⟨(keyHash, vk) :: Entries.others map.entries keyHash, Entries.distinct_cons_others map.distinct keyHash vk⟩

def remove (map : KeyMap) (keyHash : String) : KeyMap :=
  ⟨Entries.others map.entries keyHash, Entries.distinct_others map.distinct keyHash⟩

def get (map : KeyMap) (keyHash : String) : Option DbVirtualKey := map.entries.lookup keyHash

def len (map : KeyMap) : Nat := map.entries.length

end KeyMap

/-- Whether the key is new, and the map with it. -/
def upsertVirtualKeyEntry (map : KeyMap) (vk : DbVirtualKey) : Bool × KeyMap :=
  ((map.get vk.keyHash).isNone, map.insert vk.keyHash vk)

/-- Whether there was a key, and the map without it. -/
def removeVirtualKeyEntry (map : KeyMap) (keyHash : String) : Bool × KeyMap :=
  ((map.get keyHash).isSome, map.remove keyHash)

/-- A legacy API key. -/
structure Key where
  keyHash : String
  ownerId : Uuid
  organizationId : Uuid
  deriving DecidableEq, Repr

inductive KeysError where
  | routerApiKeysNotInitialized
  deriving DecidableEq, Repr

end AppState

/-! ## The state -/

structure AppState where
  virtualKeysCache : Option AppState.KeyMap
  alephantApiKeys : Option (Finset AppState.Key)
  metrics : AppState.RouterMetrics

namespace AppState

open VirtualKeyStore (DbVirtualKey)

def setVirtualKey (state : AppState) (vk : DbVirtualKey) : AppState :=
  match state.virtualKeysCache with
  | none => state
  | some map =>
    match upsertVirtualKeyEntry map vk with
    | (true, map) =>
      { state with
        virtualKeysCache := some map
        metrics.alephantApiKeys := state.metrics.alephantApiKeys.add 1 [] }
    | (false, map) => { state with virtualKeysCache := some map }

def removeVirtualKey (state : AppState) (keyHash : String) : AppState :=
  match state.virtualKeysCache with
  | none => state
  | some map =>
    match removeVirtualKeyEntry map keyHash with
    | (true, map) =>
      { state with
        virtualKeysCache := some map
        metrics.alephantApiKeys := state.metrics.alephantApiKeys.add (-1) [] }
    | (false, map) => { state with virtualKeysCache := some map }

/-- What `HashSet::insert` says of the key is dropped. -/
def setAlephantApiKey (state : AppState) (apiKey : Key) : Except KeysError (Option (Finset Key)) × AppState :=
  match state.alephantApiKeys with
  | none => (.error .routerApiKeysNotInitialized, state)
  | some keys =>
    let state := { state with
      alephantApiKeys := some (insert apiKey keys)
      metrics.alephantApiKeys := state.metrics.alephantApiKeys.add 1 [] }
    (.ok state.alephantApiKeys, state)

/-- `retain` keeps the keys of every other hash, and says nothing of how many went. -/
def removeAlephantApiKey (state : AppState) (apiKeyHash : String) :
    Except KeysError (Option (Finset Key)) × AppState :=
  match state.alephantApiKeys with
  | none => (.error .routerApiKeysNotInitialized, state)
  | some keys =>
    let state := { state with
      alephantApiKeys := some (keys.filter fun key => key.keyHash ≠ apiKeyHash)
      metrics.alephantApiKeys := state.metrics.alephantApiKeys.add (-1) [] }
    (.ok state.alephantApiKeys, state)

/-! ## Routers -/

/-- What the counters read of a router's configuration. -/
structure CountedRouterConfig extends RouterConfig where
  retries : Option RetryConfig

def endpointTypeName : EndpointType → String
  | .chat => "chat"
  | .embeddings => "embeddings"
  | .image => "image"
  | .audio => "audio"

def balanceConfigName : BalanceConfigInner → String
  | .providerWeighted _ => "provider-weighted"
  | .balancedLatency _ => "balanced-latency"
  | .modelWeighted _ => "model-weighted"
  | .modelLatency _ => "model-latency"

def printUuid (uuid : Uuid) : String :=
  let digits := (List.range 32).map fun index => (uuid.toNat / 16 ^ (31 - index) % 16).digitChar
  let group (start length : Nat) := String.ofList ((digits.drop start).take length)
  group 0 8 ++ "-" ++ group 8 4 ++ "-" ++ group 12 4 ++ "-" ++ group 16 4 ++ "-" ++ group 20 12

section Routers
variable (state : AppState) (routerId : RouterId) (routerConfig : CountedRouterConfig) (organizationId : Option Uuid)

def routerAttributes : List (String × String) :=
  [("organization_id", (organizationId.map printUuid).getD "unknown"), ("router_id", routerId.named)]

def strategyAttributes (entry : EndpointType × BalanceConfigInner) : List (String × String) :=
  routerAttributes routerId organizationId ++
    [("endpoint_type", endpointTypeName entry.1), ("balance_config", balanceConfigName entry.2)]

/-- The counts of a router, which its arrival and its departure add to in one way but for the
number of routers itself. -/
def countRouter (amount : Int) : AppState :=
  let metrics := state.metrics
  { state with metrics := { metrics with
      routers := metrics.routers.add amount (routerAttributes routerId organizationId)
      routerStrategies := routerConfig.loadBalance.entries.foldl
        (fun counter entry => counter.add 1 (strategyAttributes routerId organizationId entry)) metrics.routerStrategies
      modelMappings :=
        if routerConfig.modelMappings.isSome then metrics.modelMappings.add 1 [("router_id", routerId.named)]
        else metrics.modelMappings
      retriesEnabled :=
        if routerConfig.retries.isSome then metrics.retriesEnabled.add 1 [("router_id", routerId.named)]
        else metrics.retriesEnabled } }

def incrementRouterMetrics : AppState := countRouter state routerId routerConfig organizationId 1

/-- The removal takes one from the routers and adds one everywhere else, as the arrival does. -/
def decrementRouterMetrics : AppState := countRouter state routerId routerConfig organizationId (-1)

end Routers

/-! ## Operations -/

inductive Operation where
  | setVirtualKey (vk : DbVirtualKey)
  | removeVirtualKey (keyHash : String)
  | setAlephantApiKey (apiKey : Key)
  | removeAlephantApiKey (apiKeyHash : String)
  | incrementRouterMetrics (routerId : RouterId) (routerConfig : CountedRouterConfig) (organizationId : Option Uuid)
  | decrementRouterMetrics (routerId : RouterId) (routerConfig : CountedRouterConfig) (organizationId : Option Uuid)

/-- Each operation holds its lock until the counter is written. -/
def step (state : AppState) : Operation → AppState
  | .setVirtualKey vk => state.setVirtualKey vk
  | .removeVirtualKey keyHash => state.removeVirtualKey keyHash
  | .setAlephantApiKey apiKey => (state.setAlephantApiKey apiKey).2
  | .removeAlephantApiKey apiKeyHash => (state.removeAlephantApiKey apiKeyHash).2
  | .incrementRouterMetrics routerId routerConfig organizationId =>
    state.incrementRouterMetrics routerId routerConfig organizationId
  | .decrementRouterMetrics routerId routerConfig organizationId =>
    state.decrementRouterMetrics routerId routerConfig organizationId

def run (state : AppState) (operations : List Operation) : AppState := operations.foldl step state

/-- The keys of both kinds that are stored. -/
def storedKeys (state : AppState) : Nat :=
  (state.virtualKeysCache.elim 0 KeyMap.len) + (state.alephantApiKeys.elim 0 Finset.card)

end AppState

end AiGateway
