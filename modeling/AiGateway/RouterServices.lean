import AiGateway.WeightedBalance
import AiGateway.Lib.Comparisons
import Mathlib.Logic.Function.Basic

/-! The two routers over services that a discovery inserts and removes: the one picks the
service of the request's model with the least load, the other the service under the
request's key. -/

namespace AiGateway

open Lib Lib.Comparisons Balance

/-- Where a router stands in `poll_ready`. After an error of the discovery the caller has to
discard it. -/
inductive RouterPhase where
  | idle
  | updating
  | promoting
  | discarded
  deriving DecidableEq, Repr

/-- How a value prints, `{}` for keys and `{:?}` for models. -/
class Prints (α : Type) where
  print : α → String

inductive RouterError where
  | extensionNotFound
  | noServicesAvailable (model : String)
  | routerNotFound (key : String)
  deriving DecidableEq, Repr

def isPending {κ σ : Type} {library : ReadyLibrary κ σ} [DecidableEq κ] [DecidableEq σ] (cache : ReadyCache library) (key : κ) (service : σ) : Bool :=
  cache.pending.any fun entry => entry = (key, service)

theorem isPending_iff {κ σ : Type} {library : ReadyLibrary κ σ} [DecidableEq κ] [DecidableEq σ] {cache : ReadyCache library}
    {key : κ} {service : σ} :
    isPending cache key service = true ↔ (key, service) ∈ cache.pending := by
  simp [isPending]

namespace LatencyRouter

structure Router (μ : Type) {κ σ : Type} (library : ReadyLibrary κ σ) where
  services : μ → Option (ReadyCache library)
  phase : RouterPhase

def Router.new {μ κ σ : Type} {library : ReadyLibrary κ σ} : Router μ library := ⟨fun _ => none, .idle⟩

/-- `load` reads the loads of the services while they are compared. -/
inductive Event (μ κ σ ℓ : Type) where
  | beginPoll
  | change (change : Balance.Change κ σ)
  | discoverError
  | endUpdate
  | promote (key : κ) (service : σ) (failed : Bool)
  | endPromote
  | call (model : Option μ) (load : σ → ℓ) (answer : Except RouterError (κ × σ))

section Steps
variable {μ κ σ ℓ : Type} {library : ReadyLibrary κ σ} [DecidableEq μ] [Prints μ] [DecidableEq κ] [DecidableEq σ] [PartialOrd ℓ] (into : κ → μ)

def applyChange (services : μ → Option (ReadyCache library)) : Balance.Change κ σ → μ → Option (ReadyCache library)
  | .remove key =>
    match services (into key) with
    | none => services
    | some cache => Function.update services (into key) (some (cache.evict key))
  | .insert key service =>
    let cache := (services (into key)).getD .empty
    Function.update services (into key) (some (cache.push key service))

def readyIndex (router : Router μ library) (model : μ) (load : σ → ℓ) : Except RouterError Nat :=
  match router.services model with
  | none => .error (.noServicesAvailable (Prints.print model))
  | some cache =>
    match minBy (orEqual fun entry => load entry.1.2) cache.ready.zipIdx with
    | none => .error (.noServicesAvailable (Prints.print model))
    | some entry => .ok entry.2

/-- No result is the panic of `call_ready_index` at an index that is out of range. -/
def call (router : Router μ library) (model : Option μ) (load : σ → ℓ) :
    Option (Router μ library × Except RouterError (κ × σ)) :=
  match model with
  | none => some (router, .error .extensionNotFound)
  | some model =>
    match readyIndex router model load with
    | .error _ => some (router, .error (.noServicesAvailable (Prints.print model)))
    | .ok index =>
      match router.services model with
      | none => some (router, .error (.noServicesAvailable (Prints.print model)))
      | some cache =>
        match cache.ready[index]? with
        | none => none
        | some entry =>
          let services := Function.update router.services model (some (cache.release index))
          some ({ router with services }, .ok entry)

/-- A pending service has been polled. -/
def promote (cache : ReadyCache library) (key : κ) (service : σ) (failed : Bool) : ReadyCache library :=
  if failed then cache.fail key else cache.promote key service

def step (router : Router μ library) : Event μ κ σ ℓ → Option (Router μ library)
  | .beginPoll => if router.phase = .idle then some { router with phase := .updating } else none
  | .change change =>
    if router.phase = .updating then some { router with services := applyChange into router.services change } else none
  | .discoverError => if router.phase = .updating then some { router with phase := .discarded } else none
  | .endUpdate => if router.phase = .updating then some { router with phase := .promoting } else none
  | .promote key service failed =>
    match router.phase, router.services (into key) with
    | .promoting, some cache =>
      if isPending cache key service then
        let services := Function.update router.services (into key) (some (promote cache key service failed))
        some { router with services }
      else none
    | _, _ => none
  | .endPromote => if router.phase = .promoting then some { router with phase := .idle } else none
  | .call model load answer =>
    if router.phase = .idle then
      match call router model load with
      | none => none
      | some (next, given) => if given = answer then some next else none
    else none

end Steps

end LatencyRouter

namespace DynamicRouter

structure Router {κ σ : Type} (library : ReadyLibrary κ σ) where
  services : ReadyCache library
  phase : RouterPhase

def Router.new {κ σ : Type} {library : ReadyLibrary κ σ} : Router library := ⟨.empty, .idle⟩

inductive Event (κ σ : Type) where
  | beginPoll
  | change (change : Balance.Change κ σ)
  | discoverError
  | endUpdate
  | promote (key : κ) (service : σ) (failed : Bool)
  | endPromote
  | call (key : Option κ) (answer : Except RouterError (κ × σ))

section Steps
variable {κ σ : Type} {library : ReadyLibrary κ σ} [DecidableEq κ] [Prints κ] [DecidableEq σ]

def call (router : Router library) (key : Option κ) : Router library × Except RouterError (κ × σ) :=
  match key with
  | none => (router, .error .extensionNotFound)
  | some key =>
    match router.services.ready.findIdx? fun entry => entry.1 == key with
    | none => (router, .error (.routerNotFound (Prints.print key)))
    | some index =>
      match router.services.ready[index]? with
      | none => (router, .error (.routerNotFound (Prints.print key)))
      | some entry => ({ router with services := router.services.release index }, .ok entry)

def step (router : Router library) : Event κ σ → Option (Router library)
  | .beginPoll => if router.phase = .idle then some { router with phase := .updating } else none
  | .change change =>
    if router.phase = .updating then some { router with services := Balance.applyChange router.services change } else none
  | .discoverError => if router.phase = .updating then some { router with phase := .discarded } else none
  | .endUpdate => if router.phase = .updating then some { router with phase := .promoting } else none
  | .promote key service failed =>
    if router.phase = .promoting ∧ isPending router.services key service then
      let services := if failed then router.services.fail key else router.services.promote key service
      some { router with services }
    else none
  | .endPromote => if router.phase = .promoting then some { router with phase := .idle } else none
  | .call key answer =>
    if router.phase = .idle then
      let (next, given) := call router key
      if given = answer then some next else none
    else none

end Steps

end DynamicRouter

end AiGateway
