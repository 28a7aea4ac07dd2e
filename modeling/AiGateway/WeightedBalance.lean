import AiGateway.Config
import AiGateway.Lib.ReadyCache

/-! The weighted balancer: its choice among the services that are ready, and the steps of
`poll_ready` and `call` over the cache of its services. -/

namespace AiGateway

open Lib.Float64

class HasWeight (κ : Type) where
  weight : κ → Weight

/-- `f64::from`. -/
def Weight.toF64 (weight : Weight) : F64 := ofRat (weight.units.toNat / 10000)

/-- What the balancer uses of the random library: `sample_weighted` for one index, with the
generator in some state. No index is an error. -/
structure Sampler where
  sampleWeighted : List F64 → Option Nat

/-- For weights that are numbers and not negative, sampling fails if all of them are zero and
only then, and it never takes an index whose weight is zero. -/
structure Sampler.Lawful (sampler : Sampler) : Prop where
  fails : ∀ weights, (∀ weight ∈ weights, ∃ value, 0 ≤ value ∧ weight = .finite value) →
    (sampler.sampleWeighted weights = none ↔ ∀ weight ∈ weights, weight = .finite 0)
  chooses : ∀ weights index, (∀ weight ∈ weights, ∃ value, 0 ≤ value ∧ weight = .finite value) →
    sampler.sampleWeighted weights = some index → ∃ weight, weights[index]? = some weight ∧ weight ≠ .finite 0

inductive BalanceError where
  | sampleFailed
  deriving DecidableEq, Repr

/-- A service that is the only one is taken whatever its weight. -/
def readyIndex {κ : Type} [HasWeight κ] (sampler : Sampler) (ready : List κ) : Except BalanceError (Option Nat) :=
  match ready with
  | [] => .ok none
  | [_] => .ok (some 0)
  | _ =>
    match sampler.sampleWeighted (ready.map fun key => (HasWeight.weight key).toF64) with
    | none => .error .sampleFailed
    | some chosen => .ok (some chosen)

namespace Balance

open Lib

inductive Change (κ σ : Type) where
  | insert (key : κ) (service : σ)
  | remove (key : κ)

/-- What a service answers when it is polled. -/
inductive Readiness where
  | ready
  | pending
  | failed
  deriving DecidableEq, Repr

/-- Where the balancer stands in `poll_ready`. After an error of the discovery the caller has
to discard it. -/
inductive Phase where
  | idle
  | updating
  | promoting
  | choosing
  | discarded
  deriving DecidableEq, Repr

structure WeightedBalance {κ σ : Type} (library : ReadyLibrary κ σ) where
  services : ReadyCache library
  readyIndex : Option Nat
  phase : Phase

def WeightedBalance.new {κ σ : Type} {library : ReadyLibrary κ σ} : WeightedBalance library := ⟨.empty, none, .idle⟩

/-- `promote` is a pending service that has become ready or has failed; `miss` is an index
that is out of range, where no service is polled. -/
inductive Event (κ σ : Type) where
  | beginPoll
  | change (change : Change κ σ)
  | discoverError
  | endUpdate
  | promote (key : κ) (service : σ) (failed : Bool)
  | endPromote
  | miss
  | check (readiness : Readiness)
  | pick (sampler : Sampler)
  | call

section Steps
variable {κ σ : Type} {library : ReadyLibrary κ σ} [DecidableEq κ] [DecidableEq σ] [HasWeight κ]

/-- The ready service that is polled next, or called. -/
def WeightedBalance.chosen (balance : WeightedBalance library) : Option (κ × σ) :=
  balance.readyIndex.bind fun index => balance.services.ready[index]?

def applyChange (services : ReadyCache library) : Change κ σ → ReadyCache library
  | .remove key => services.evict key
  | .insert key service => services.push key service

/-- `check_ready_index` for a service that was polled. -/
def checked (balance : WeightedBalance library) (index : Nat) : Readiness → WeightedBalance library
  | .ready => { balance with phase := .idle }
  | .pending => { balance with services := balance.services.release index, readyIndex := none }
  | .failed => { balance with services := balance.services.drop index, readyIndex := none }

def step (balance : WeightedBalance library) : Event κ σ → Option (WeightedBalance library)
  | .beginPoll => if balance.phase = .idle then some { balance with phase := .updating } else none
  | .change change =>
    if balance.phase = .updating then some { balance with services := applyChange balance.services change } else none
  | .discoverError => if balance.phase = .updating then some { balance with phase := .discarded } else none
  | .endUpdate => if balance.phase = .updating then some { balance with phase := .promoting } else none
  | .promote key service failed =>
    if balance.phase = .promoting ∧ (key, service) ∈ balance.services.pending then
      let services := if failed then balance.services.fail key else balance.services.promote key service
      some { balance with services := services }
    else none
  | .endPromote => if balance.phase = .promoting then some { balance with phase := .choosing } else none
  | .miss =>
    match balance.phase, balance.readyIndex with
    | .choosing, some index =>
      if balance.services.ready[index]?.isNone then some { balance with readyIndex := none } else none
    | _, _ => none
  | .check readiness =>
    match balance.phase, balance.readyIndex with
    | .choosing, some index =>
      if balance.services.ready[index]?.isSome then some (checked balance index readiness) else none
    | _, _ => none
  | .pick sampler =>
    match balance.phase, balance.readyIndex with
    | .choosing, none =>
      match readyIndex sampler (balance.services.ready.map Prod.fst) with
      | .error _ | .ok none => some { balance with phase := .idle }
      | .ok (some index) => some { balance with readyIndex := some index }
    | _, _ => none
  -- Calling before `poll_ready` has succeeded is a panic.
  | .call =>
    match balance.phase, balance.readyIndex with
    | .idle, some index =>
      if balance.services.ready[index]?.isSome then
        some { balance with services := balance.services.release index, readyIndex := none }
      else none
    | _, _ => none

end Steps

end Balance

end AiGateway
