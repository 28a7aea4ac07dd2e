import AiGateway.RouterServices
import AiGateway.Lib.Histories
import AiGateway.Lib.SwapCache

/-! Which router a request for a router's key reaches, and when it reaches none. -/

namespace AiGateway.DynamicRouter

open Lib Lib.Runs Lib.Histories ReadyCache

variable {κ σ : Type}

def Event.effect : Event κ σ → Option (Effect κ σ)
  | .change (.insert key service) => some (.push key service)
  | .change (.remove key) => some (.evict key)
  | .promote key service failed => some (if failed then .fail key else .promote key service)
  | .call _ (.ok (key, _)) => some (.call key)
  | _ => none

/-- The service has been found ready, and has not been called, removed or replaced since. -/
def FoundReady (events : List (Event κ σ)) (key : κ) (service : σ) : Prop :=
  Since (fun event => event.effect = some (.promote key service))
    (fun event => ∃ effect, event.effect = some effect ∧ effect.Takes key) events

/-- The discovery has inserted the service, and has not removed its key since. -/
def Offered (events : List (Event κ σ)) (key : κ) (service : σ) : Prop :=
  Since (fun event => event = .change (.insert key service)) (fun event => event = .change (.remove key)) events

variable {library : ReadyLibrary κ σ} [DecidableEq κ] [Prints κ] [DecidableEq σ]

section Steps
variable {router next : Router library} {event : Event κ σ}

omit [DecidableEq σ] in
theorem call_cases (router : Router library) (key : κ) :
    (call router (some key) = (router, .error (.routerNotFound (Prints.print key))) ∧
        ∀ service, (key, service) ∉ router.services.ready) ∨
      ∃ index service, router.services.ready[index]? = some (key, service) ∧
        call router (some key) = ({ router with services := router.services.release index }, .ok (key, service)) := by
  obtain ⟨absent, _⟩ | ⟨index, service, found, _⟩ := callReady_cases router.services key
  · left
    have none : (router.services.ready.findIdx? fun entry => entry.1 == key) = none := by
      simpa using absent
    refine ⟨by rw [call, none], ?_⟩
    exact fun service member => absent _ member rfl
  · right
    refine ⟨index, service, found, ?_⟩
    rw [call, findIdx_ready found]
    dsimp only
    rw [found]

/-- One step changes the cache as its event's effect says. -/
theorem step_effect (taken : step router event = some next) :
    next.services = (match event.effect with
      | none => router.services
      | some effect => router.services.apply effect) ∧
    ∀ key service, event.effect = some (.promote key service) → (key, service) ∈ router.services.pending := by
  cases event with
  | beginPoll | discoverError | endUpdate | endPromote =>
    dsimp only [step] at taken
    split at taken
    next => cases taken; exact ⟨rfl, fun _ _ same => by cases same⟩
    next => cases taken
  | change change =>
    dsimp only [step] at taken
    split at taken
    next => cases taken; cases change <;> exact ⟨rfl, fun _ _ same => by cases same⟩
    next => cases taken
  | promote key service failed =>
    dsimp only [step] at taken
    split at taken
    next waiting =>
      cases taken
      cases failed with
      | true => exact ⟨rfl, fun _ _ same => by cases same⟩
      | false =>
        refine ⟨rfl, ?_⟩
        rintro _ _ ⟨⟩
        exact isPending_iff.mp waiting.2
    next => cases taken
  | call key answer =>
    dsimp only [step] at taken
    split at taken
    next =>
      split at taken
      next answered =>
        cases taken
        cases key with
        | none => cases answered; exact ⟨rfl, fun _ _ same => by cases same⟩
        | some key =>
          obtain ⟨failed, _⟩ | ⟨index, service, found, done⟩ := call_cases router key
          · rw [failed] at answered ⊢
            cases answered
            exact ⟨rfl, fun _ _ same => by cases same⟩
          · rw [done] at answered ⊢
            cases answered
            exact ⟨(callReady_of_ready found).symm, fun _ _ same => by cases same⟩
      next => cases taken
    next => cases taken

theorem ready_step (key : κ) (service : σ) (taken : step router event = some next) :
    (key, service) ∈ next.services.ready ↔ event.effect = some (.promote key service) ∨
      ((key, service) ∈ router.services.ready ∧ ¬ ∃ taking, event.effect = some taking ∧ taking.Takes key) := by
  rw [(step_effect taken).1]
  cases event.effect with
  | none => simp
  | some effect => simp [mem_ready_apply]

theorem contains_step {key : κ} {service : σ} (taken : step router event = some next)
    (inside : (key, service) ∈ next.services.ready ∨ (key, service) ∈ next.services.pending) :
    event = .change (.insert key service) ∨
      (((key, service) ∈ router.services.ready ∨ (key, service) ∈ router.services.pending) ∧ ¬ event = .change (.remove key)) := by
  obtain ⟨changed, waiting⟩ := step_effect taken
  cases moved : event.effect with
  | none =>
    rw [moved] at changed
    rw [changed] at inside
    refine .inr ⟨inside, ?_⟩
    rintro rfl
    cases moved
  | some effect =>
    rw [moved] at changed
    rw [changed] at inside
    obtain rfl | ⟨old, kept⟩ := contains_apply effect (fun key service same => waiting key service (same ▸ moved)) inside
    · left
      cases event with
      | beginPoll | discoverError | endUpdate | endPromote => cases moved
      | change change =>
        cases change with
        | insert other added => cases moved; rfl
        | remove other => cases moved
      | promote other promoted failed => cases failed <;> cases moved
      | call key answer =>
        cases answer with
        | error error => cases moved
        | ok entry => cases moved
    · refine .inr ⟨old, ?_⟩
      rintro rfl
      cases moved
      exact kept rfl

end Steps

section Runs
variable {events : List (Event κ σ)} {router : Router library} {key : κ} {service : σ}

theorem ready_iff_found (ran : run step .new events = some router) (key : κ) (service : σ) :
    (key, service) ∈ router.services.ready ↔ FoundReady events key service :=
  run_since_iff (fun _ => True) (fun router => (key, service) ∈ router.services.ready) trivial (by simp [Router.new])
    (fun _ _ _ _ _ => trivial) (fun _ _ _ _ taken => ready_step key service taken) ran

theorem offered_of_ready (ran : run step .new events = some router) (ready : (key, service) ∈ router.services.ready) :
    Offered events key service :=
  run_since (fun _ => True)
    (fun router => (key, service) ∈ router.services.ready ∨ (key, service) ∈ router.services.pending) trivial
    (by simp [Router.new]) (fun _ _ _ _ _ => trivial) (fun _ _ _ _ taken inside => contains_step taken inside)
    ran (.inl ready)

end Runs

/-- What the answer to a call for the key says of the events before it. -/
def Justified (events : List (Event κ σ)) (key : κ) : Except RouterError (κ × σ) → Prop
  | .ok (own, service) => own = key ∧ FoundReady events key service ∧ Offered events key service
  | .error error => error = .routerNotFound (Prints.print key) ∧ ∀ service, ¬ FoundReady events key service

/-- Every call is answered. It reaches the service under its key exactly when that has been
found ready and not been called, removed or replaced since; and an inserted service stays
with the router until its key is removed or inserted again or it fails when it is polled. -/
theorem dynamic_router_lookup {κ σ : Type} (library : ReadyLibrary κ σ) [DecidableEq κ] [Prints κ] [DecidableEq σ] :
    (∀ (events : List (Event κ σ)) (router : Router library) (key : κ), run step .new events = some router →
      router.phase = .idle → ∃ answer next, step router (.call (some key) answer) = some next ∧ Justified events key answer) ∧
    ∀ (before after : List (Event κ σ)) (key : κ) (service : σ) (inserted final : Router library),
      run step .new (before ++ [.change (.insert key service)]) = some inserted →
      (∀ event ∈ after, ∀ effect, event.effect = some effect → effect.Spares key) →
      run step inserted after = some final → final.services.Holds key service := by
  constructor
  · intro events router key ran idle
    obtain ⟨failed, absent⟩ | ⟨index, service, found, done⟩ := call_cases router key
    · refine ⟨.error (.routerNotFound (Prints.print key)), router, by simp [step, idle, failed], rfl, ?_⟩
      exact fun service ready => absent service ((ready_iff_found ran key service).mpr ready)
    · refine ⟨.ok (key, service), _, by simp [step, idle, done]; rfl, rfl, ?_⟩
      have ready := List.mem_of_getElem? found
      exact ⟨(ready_iff_found ran key service).mp ready, offered_of_ready ran ready⟩
  · intro before after key service inserted final ranBefore spared ranAfter
    obtain ⟨middle, _, ranInsert⟩ := run_append ranBefore
    obtain ⟨_, taken, done⟩ := run_cons ranInsert
    cases done
    have start : inserted.services.Holds key service := by
      rw [(step_effect taken).1]
      exact holds_push _ key service
    have kept (router : Router library) (event : Event κ σ) (next : Router library) (holds : router.services.Holds key service)
        (spares : ∀ effect, event.effect = some effect → effect.Spares key) (taken : step router event = some next) :
        next.services.Holds key service := by
      obtain ⟨changed, waiting⟩ := step_effect taken
      cases moved : event.effect with
      | none =>
        rw [moved] at changed
        rw [changed]
        exact holds
      | some effect =>
        rw [moved] at changed
        rw [changed]
        exact holds.apply (spares effect moved) fun key service same => waiting key service (same ▸ moved)
    exact run_invariant kept start (along_of_forall inserted spared) ranAfter

instance : Prints Nat := ⟨toString⟩

def firstRouter : Router (swapLibrary Nat Nat) := .new

def firstInsert : List (Event Nat Nat) := [.beginPoll, .change (.insert 7 1)]

def firstPoll : List (Event Nat Nat) := [.endUpdate, .promote 7 1 false, .endPromote]

theorem first_lookup_answered :
    ∃ inserted router answer next, run step firstRouter firstInsert = some inserted ∧
      run step firstRouter (firstInsert ++ firstPoll) = some router ∧ step router (.call (some 7) answer) = some next ∧
      Justified (firstInsert ++ firstPoll) 7 answer ∧ router.services.Holds 7 1 := by
  obtain ⟨lookups, keeps⟩ := dynamic_router_lookup (swapLibrary Nat Nat)
  have ran : ∃ inserted router, run step firstRouter firstInsert = some inserted ∧ run step inserted firstPoll = some router ∧
      run step firstRouter (firstInsert ++ firstPoll) = some router ∧ router.phase = .idle := ⟨_, _, rfl, rfl, rfl, rfl⟩
  obtain ⟨inserted, router, ranBefore, ranAfter, ran, idle⟩ := ran
  obtain ⟨answer, next, called, justified⟩ := lookups _ router 7 ran idle
  refine ⟨inserted, router, answer, next, ranBefore, ran, called, justified, ?_⟩
  apply keeps [.beginPoll] firstPoll 7 1 inserted router ranBefore _ ranAfter
  simp [firstPoll, Event.effect, Effect.Spares]

end AiGateway.DynamicRouter
