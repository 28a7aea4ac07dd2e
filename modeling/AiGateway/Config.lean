import AiGateway.Types
import AiGateway.Lib.Float64

/-! A router's configuration: which providers or models each endpoint kind is balanced
over, and with which weights. -/

namespace AiGateway

open Lib.Float64

/-- A decimal number, by its value: equal values are equal decimals, however many places
they are written with. -/
structure Decimal where
  value : ℚ
  deriving DecidableEq

structure DecimalLibrary where
  sum : List Decimal → Decimal
  toF64 : Decimal → Option F64
  print : Decimal → String

/-- A converted number has the sign of the decimal, unless it became zero. -/
def DecimalLibrary.SignFaithful (decimals : DecimalLibrary) : Prop :=
  ∀ decimal number, decimal.value ≤ 0 → decimals.toF64 decimal = some number →
    number = .finite 0 ∨ number.isNegative = true

structure Weight where
  units : UInt32
  deriving DecidableEq

namespace Weight

def min : Weight := ⟨0⟩
def unit : Weight := ⟨10000⟩
def max : Weight := ⟨UInt32.ofNat (2 ^ 32 - 1)⟩

/-- `Weight::from`. -/
def ofF64 (w : F64) : Weight :=
  if w.isNegative || w.isNan then min
  else if w.isInfinite then max
  else ⟨(w.mul (.finite 10000)).round.toU32⟩

end Weight

structure WeightedProvider where
  provider : InferenceProvider
  weight : Decimal
  deriving DecidableEq

structure WeightedModel where
  model : ModelId
  weight : Decimal
  deriving DecidableEq

inductive BalanceConfigInner where
  | providerWeighted (providers : NESet WeightedProvider)
  | balancedLatency (providers : NESet InferenceProvider)
  | modelWeighted (models : NESet WeightedModel)
  | modelLatency (models : NESet ModelId)

/-- The providers of a balance configuration, each once, in first-seen order. -/
def BalanceConfigInner.providers : BalanceConfigInner → List InferenceProvider
  | .providerWeighted providers => (providers.items.map fun target => target.provider).eraseDups
  | .balancedLatency providers => providers.items
  | .modelWeighted models => (models.items.filterMap fun target => target.model.inferenceProvider).eraseDups
  | .modelLatency models => (models.items.filterMap ModelId.inferenceProvider).eraseDups

/-- One balance configuration for each endpoint kind, in the order of iteration. -/
structure BalanceConfig where
  entries : List (EndpointType × BalanceConfigInner)
  distinct : (entries.map fun entry => entry.1).Nodup

def BalanceConfig.get (config : BalanceConfig) (endpointType : EndpointType) : Option BalanceConfigInner :=
  (config.entries.find? fun entry => entry.1 == endpointType).map fun entry => entry.2

/-- The providers of all endpoint kinds, each once. -/
def BalanceConfig.providers (config : BalanceConfig) : List InferenceProvider :=
  (config.entries.flatMap fun entry => entry.2.providers).eraseDups

structure ModelMappingConfig where
  entries : List (String × NESet ModelId)
  nonempty : entries ≠ []
  distinct : (entries.map fun entry => entry.1).Nodup

structure RouterConfig where
  loadBalance : BalanceConfig
  modelMappings : Option ModelMappingConfig

inductive InitError where
  | invalidBalancer (message : String)
  | invalidWeight (provider : InferenceProvider)
  | modelIdNotRecognized (model : String)
  | providerNotConfigured (provider : InferenceProvider)
  deriving DecidableEq, Repr

section Validation
variable (decimals : DecimalLibrary)

def validateWeights (weights : List Decimal) : Except InitError Unit :=
  let total := decimals.sum weights
  if total = ⟨1⟩ then .ok ()
  else .error (.invalidBalancer ("Balance weights dont sum to 1: " ++ decimals.print total))

def BalanceConfigInner.validate : BalanceConfigInner → Except InitError Unit
  | .providerWeighted providers => validateWeights decimals (providers.items.map fun target => target.weight)
  | .modelWeighted models => validateWeights decimals (models.items.map fun target => target.weight)
  | .balancedLatency _ | .modelLatency _ => .ok ()

def RouterConfig.validate (config : RouterConfig) : Except InitError Unit :=
  config.loadBalance.entries.forM fun entry => entry.2.validate decimals

end Validation

end AiGateway
