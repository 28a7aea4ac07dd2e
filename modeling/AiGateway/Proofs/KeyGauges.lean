import AiGateway.AppState

/-! The counters against what they count. A step keeps the distance between the key counter
and the number of stored keys exactly when it stores or drops what it counts. -/

namespace AiGateway.AppState

open VirtualKeyStore (DbVirtualKey)
open Lib

@[simp] theorem Counter.add_self (counter : Counter) (amount : Int) (attributes : List (String × String)) :
    counter.add amount attributes attributes = counter attributes + amount := by
  simp [Counter.add]

theorem Counter.add_cancel (counter : Counter) (amount : Int) (attributes : List (String × String)) :
    (counter.add amount attributes).add (-amount) attributes = counter := by
  funext other
  by_cases same : other = attributes
  · subst same
    rw [add_self, add_self]
    omega
  · simp [Counter.add, same]

/-! ## Keys -/

section Keys
variable (map : KeyMap) (keyHash : String)

theorem KeyMap.len_insert (vk : DbVirtualKey) : (map.insert keyHash vk).len = (map.remove keyHash).len + 1 := rfl

/-- What is left of a map when a key is taken out. -/
theorem KeyMap.len_remove : (map.remove keyHash).len + (if (map.get keyHash).isSome then 1 else 0) = map.len := by
  have left : (map.remove keyHash).len = _ := Entries.length_others map.distinct keyHash
  rw [left, List.length_erase, KeyMap.get, KeyMap.len, List.length_map]
  by_cases held : keyHash ∈ map.entries.map Prod.fst
  · have stored : 0 < map.entries.length := by simpa using List.length_pos_of_mem held
    rw [if_pos held, if_pos (Entries.lookup_isSome_iff.mpr held)]
    omega
  · rw [if_neg held, if_neg fun found => held (Entries.lookup_isSome_iff.mp found), Nat.add_zero]

end Keys

/-- How far the key counter is from the number of stored keys. -/
def excess (state : AppState) : Int := state.metrics.alephantApiKeys [] - state.storedKeys

/-- The operation changes the number of legacy keys by the one it counts: a key that is set is
new, and a hash that is removed is that of exactly one key. -/
def Counted (state : AppState) : Operation → Prop
  | .setAlephantApiKey apiKey => ∀ keys, state.alephantApiKeys = some keys → apiKey ∉ keys
  | .removeAlephantApiKey apiKeyHash =>
    ∀ keys, state.alephantApiKeys = some keys → (keys.filter fun key => key.keyHash = apiKeyHash).card = 1
  | _ => True

section Step
variable (state : AppState)

/-- The virtual keys are counted by what their map says of each change. -/
theorem excess_setVirtualKey (vk : DbVirtualKey) : (state.setVirtualKey vk).excess = state.excess := by
  rw [setVirtualKey]
  cases cached : state.virtualKeysCache with
  | none => rfl
  | some map =>
    have kept := map.len_remove vk.keyHash
    cases held : map.get vk.keyHash with
    | none =>
      simp only [upsertVirtualKeyEntry, held, Option.isNone_none, excess, storedKeys, cached, Option.elim_some,
        KeyMap.len_insert, Counter.add_self]
      simp only [held, Option.isSome_none, Bool.false_eq_true, if_false] at kept
      omega
    | some _ =>
      simp only [upsertVirtualKeyEntry, held, Option.isNone_some, excess, storedKeys, cached, Option.elim_some,
        KeyMap.len_insert]
      simp only [held, Option.isSome_some, if_true] at kept
      omega

theorem excess_removeVirtualKey (keyHash : String) : (state.removeVirtualKey keyHash).excess = state.excess := by
  rw [removeVirtualKey]
  cases cached : state.virtualKeysCache with
  | none => rfl
  | some map =>
    have kept := map.len_remove keyHash
    cases held : map.get keyHash with
    | none =>
      simp only [removeVirtualKeyEntry, held, Option.isSome_none, excess, storedKeys, cached, Option.elim_some]
      simp only [held, Option.isSome_none, Bool.false_eq_true, if_false] at kept
      omega
    | some _ =>
      simp only [removeVirtualKeyEntry, held, Option.isSome_some, excess, storedKeys, cached, Option.elim_some,
        Counter.add_self]
      simp only [held, Option.isSome_some, if_true] at kept
      omega

theorem excess_setAlephantApiKey (apiKey : Key) :
    (state.setAlephantApiKey apiKey).2.excess = state.excess ↔ Counted state (.setAlephantApiKey apiKey) := by
  rw [setAlephantApiKey, Counted]
  cases held : state.alephantApiKeys with
  | none => simp
  | some keys =>
    simp only [excess, storedKeys, held, Option.elim_some, Counter.add_self, Option.some.injEq, forall_eq']
    by_cases member : apiKey ∈ keys
    · simp only [Finset.card_insert_of_mem member, member, not_true_eq_false, iff_false]
      omega
    · simp only [Finset.card_insert_of_notMem member, member, not_false_eq_true, iff_true]
      omega

/-- The keys of the hash and the others are all there are. -/
theorem excess_removeAlephantApiKey (apiKeyHash : String) :
    (state.removeAlephantApiKey apiKeyHash).2.excess = state.excess ↔
      Counted state (.removeAlephantApiKey apiKeyHash) := by
  rw [removeAlephantApiKey, Counted]
  cases held : state.alephantApiKeys with
  | none => simp
  | some keys =>
    have parts := Finset.card_filter_add_card_filter_not (s := keys) fun key => key.keyHash = apiKeyHash
    simp only [← ne_eq] at parts
    simp only [excess, storedKeys, held, Option.elim_some, Counter.add_self, Option.some.injEq, forall_eq']
    omega

/-- A step keeps the counter and the keys in step exactly when it is counted for what it does. -/
theorem excess_step (operation : Operation) : (state.step operation).excess = state.excess ↔ Counted state operation := by
  cases operation with
  | setVirtualKey vk => exact iff_of_true (excess_setVirtualKey state vk) trivial
  | removeVirtualKey keyHash => exact iff_of_true (excess_removeVirtualKey state keyHash) trivial
  | setAlephantApiKey apiKey => exact excess_setAlephantApiKey state apiKey
  | removeAlephantApiKey apiKeyHash => exact excess_removeAlephantApiKey state apiKeyHash
  | incrementRouterMetrics | decrementRouterMetrics => exact iff_of_true rfl trivial

end Step

/-! ## Routers -/

/-- Each entry counts once under its own attributes. -/
theorem foldl_add_apply {α : Type} (attributes : α → List (String × String)) (entries : List α) (counter : Counter)
    (key : List (String × String)) :
    entries.foldl (fun counter entry => counter.add 1 (attributes entry)) counter key =
      counter key + entries.countP fun entry => attributes entry = key := by
  induction entries generalizing counter with
  | nil => simp
  | cons entry rest ih =>
    rw [List.foldl_cons, ih, List.countP_cons]
    by_cases same : attributes entry = key
    · subst same
      simp
      omega
    · simp [Counter.add, same, Ne.symm same]

section Routers
variable (state : AppState) (routerId : RouterId) (routerConfig : CountedRouterConfig) (organizationId : Option Uuid)

/-- A router whose removal takes back all that its arrival counted. -/
def Uncounted (routerConfig : CountedRouterConfig) : Prop :=
  routerConfig.loadBalance.entries = [] ∧ routerConfig.modelMappings = none ∧ routerConfig.retries = none

theorem decrement_increment_iff :
    ((state.incrementRouterMetrics routerId routerConfig organizationId).decrementRouterMetrics routerId routerConfig
      organizationId).metrics = state.metrics ↔ Uncounted routerConfig := by
  simp only [incrementRouterMetrics, decrementRouterMetrics, countRouter]
  constructor
  · intro same
    refine ⟨?strategies, ?mappings, ?retries⟩
    case strategies =>
      cases entered : routerConfig.loadBalance.entries with
      | nil => rfl
      | cons entry rest =>
        have counted := congrFun (congrArg RouterMetrics.routerStrategies same)
          (strategyAttributes routerId organizationId entry)
        simp only [foldl_add_apply, entered, List.countP_cons, decide_true, if_true] at counted
        omega
    case mappings =>
      have counted := congrFun (congrArg RouterMetrics.modelMappings same) [("router_id", routerId.named)]
      by_contra mapped
      simp only [Option.isSome_iff_ne_none.mpr mapped, if_true, Counter.add_self] at counted
      omega
    case retries =>
      have counted := congrFun (congrArg RouterMetrics.retriesEnabled same) [("router_id", routerId.named)]
      by_contra retried
      simp only [Option.isSome_iff_ne_none.mpr retried, if_true, Counter.add_self] at counted
      omega
  · rintro ⟨entries, mappings, retries⟩
    simp only [entries, mappings, retries, List.foldl_nil, Option.isSome_none, Bool.false_eq_true, if_false,
      Counter.add_cancel]

end Routers

/-- In every run the key counter changes by what the number of stored keys changes by, up to
every state reached, exactly when each operation is counted for what it does; and a router's
departure takes back its arrival exactly when it has neither balance, mappings nor retries. -/
theorem gauges_follow_iff (state : AppState) (operations : List Operation) (routerId : RouterId)
    (routerConfig : CountedRouterConfig) (organizationId : Option Uuid) :
    ((∀ reached, reached <+: operations →
        (state.run reached).metrics.alephantApiKeys [] - state.metrics.alephantApiKeys [] =
          ((state.run reached).storedKeys : Int) - state.storedKeys) ↔
      ∀ before operation after, operations = before ++ operation :: after → Counted (state.run before) operation) ∧
    (((state.incrementRouterMetrics routerId routerConfig organizationId).decrementRouterMetrics routerId routerConfig
      organizationId).metrics = state.metrics ↔ Uncounted routerConfig) := by
  refine ⟨?_, decrement_increment_iff state routerId routerConfig organizationId⟩
  have constant := Runs.constant_iff step excess state operations
  simp only [excess_step] at constant
  refine Iff.trans ?_ constant
  apply forall₂_congr
  intro reached _
  simp only [excess, run]
  omega

/-- No keys, no routers and nothing counted. -/
def idle : AppState := ⟨none, some ∅, ⟨fun _ => 0, fun _ => 0, fun _ => 0, fun _ => 0, fun _ => 0⟩⟩

def legacyKey : Key := ⟨"5d41402abc4b2a76b9719d911017c592", 1, 2⟩

def retriedRouter : CountedRouterConfig := ⟨⟨⟨[], List.nodup_nil⟩, none⟩, some .constant⟩

/-- A key that is announced twice is stored once and counted twice, and a router that retries
is counted a second time when it goes. -/
theorem gauges_drift :
    (idle.run [.setAlephantApiKey legacyKey, .setAlephantApiKey legacyKey]).metrics.alephantApiKeys [] -
        idle.metrics.alephantApiKeys [] = 2 ∧
      ((idle.run [.setAlephantApiKey legacyKey, .setAlephantApiKey legacyKey]).storedKeys : Int) - idle.storedKeys = 1 ∧
      ((idle.incrementRouterMetrics ⟨"default"⟩ retriedRouter none).decrementRouterMetrics ⟨"default"⟩ retriedRouter
        none).metrics.retriesEnabled [("router_id", "default")] = 2 := by
  refine ⟨by decide, by decide, by decide⟩

end AiGateway.AppState
