import AiGateway.WeightedBalance
import AiGateway.Lib.Runs
import AiGateway.Lib.SwapCache

/-! Where the balancer's calls go, and which services stay with it. -/

namespace AiGateway.Balance

open Lib Lib.Runs

variable {κ σ : Type} {library : ReadyLibrary κ σ} [DecidableEq κ] [DecidableEq σ] [HasWeight κ]

section Calls
variable {balance next : WeightedBalance library} {event : Event κ σ}

theorem check_cases {readiness : Readiness} (taken : step balance (.check readiness) = some next) :
    ∃ index entry, balance.phase = .choosing ∧ balance.readyIndex = some index ∧
      balance.services.ready[index]? = some entry ∧ next = checked balance index readiness := by
  dsimp only [step] at taken
  split at taken
  next index choosing chosen =>
    split at taken
    next found =>
      cases taken
      obtain ⟨entry, found⟩ := Option.isSome_iff_exists.mp found
      exact ⟨index, entry, choosing, chosen, found, rfl⟩
    next => cases taken
  next => cases taken

/-- The balancer rests on an index only when the service there has just been found ready. -/
theorem resting_step (taken : step balance event = some next) (idle : next.phase = .idle)
    (resting : next.readyIndex.isSome = true) : event = .check .ready := by
  cases event with
  | beginPoll | endUpdate | endPromote | discoverError =>
    dsimp only [step] at taken
    split at taken
    next => cases taken; cases idle
    next => cases taken
  | change change =>
    dsimp only [step] at taken
    split at taken
    next updating => cases taken; cases updating.symm.trans idle
    next => cases taken
  | promote key service failed =>
    dsimp only [step] at taken
    split at taken
    next promoting => cases taken; cases promoting.1.symm.trans idle
    next => cases taken
  | miss =>
    dsimp only [step] at taken
    split at taken
    next choosing _ =>
      split at taken
      next => cases taken; cases choosing.symm.trans idle
      next => cases taken
    next => cases taken
  | check readiness =>
    obtain ⟨index, entry, _, _, _, rfl⟩ := check_cases taken
    cases readiness with
    | ready => rfl
    | pending | failed => cases resting
  | pick sampler =>
    dsimp only [step] at taken
    split at taken
    next choosing none =>
      split at taken
      next => cases taken; simp [none] at resting
      next => cases taken; simp [none] at resting
      next => cases taken; cases choosing.symm.trans idle
    next => cases taken
  | call =>
    dsimp only [step] at taken
    split at taken
    next =>
      split at taken
      next => cases taken; cases resting
      next => cases taken
    next => cases taken

theorem call_cases (taken : step balance .call = some next) :
    balance.phase = .idle ∧ balance.readyIndex.isSome = true := by
  dsimp only [step] at taken
  split at taken
  next idle chosen => exact ⟨idle, by rw [chosen]; rfl⟩
  next => cases taken

/-- A service that is found ready can be called, and is the one that a call goes to. -/
theorem ready_callable (taken : step balance (.check .ready) = some next) :
    ∃ target, balance.chosen = some target ∧ next.chosen = some target ∧ ∃ final, step next .call = some final := by
  obtain ⟨index, entry, _, chosen, found, rfl⟩ := check_cases taken
  have polled : balance.chosen = some entry := by
    rw [WeightedBalance.chosen, chosen]
    exact found
  refine ⟨entry, polled, polled, ?_⟩
  simp [step, checked, chosen, found]

/-- Every call comes directly after the poll that found its service ready. -/
theorem call_after_check {before : List (Event κ σ)} {final : WeightedBalance library}
    (ran : run step .new (before ++ [.call]) = some final) :
    ∃ earlier polled ready, before = earlier ++ [.check .ready] ∧ run step .new earlier = some polled ∧
      step polled (.check .ready) = some ready ∧ step ready .call = some final := by
  obtain ⟨ready, ranBefore, ranCall⟩ := run_append ran
  obtain ⟨after, called, done⟩ := run_cons ranCall
  cases done
  obtain ⟨idle, resting⟩ := call_cases called
  obtain rfl | ⟨earlier, event, rfl⟩ := List.eq_nil_or_concat' before
  · cases ranBefore
    cases resting
  · obtain ⟨polled, ranEarlier, ranEvent⟩ := run_append ranBefore
    obtain ⟨after, taken, done⟩ := run_cons ranEvent
    cases done
    obtain rfl := resting_step taken idle resting
    exact ⟨earlier, polled, ready, rfl, ranEarlier, taken, called⟩

end Calls

section Keeping
variable {key : κ} {service : σ}

/-- The events that do not take the service from the balancer: not a removal of its key, not
a later insertion under it, and no failure of the service itself. -/
def Spares (key : κ) (service : σ) (balance : WeightedBalance library) : Event κ σ → Prop
  | .change (.remove other) => other ≠ key
  | .change (.insert other _) => other ≠ key
  | .promote other _ failed => failed = true → other ≠ key
  | .check .failed => balance.chosen ≠ some (key, service)
  | _ => True

theorem holds_step (balance : WeightedBalance library) (event : Event κ σ) (next : WeightedBalance library)
    (holds : balance.services.Holds key service) (spares : Spares key service balance event)
    (taken : step balance event = some next) : next.services.Holds key service := by
  cases event with
  | beginPoll | endUpdate | endPromote | discoverError =>
    dsimp only [step] at taken
    split at taken
    next => cases taken; exact holds
    next => cases taken
  | change change =>
    dsimp only [step] at taken
    split at taken
    next =>
      cases taken
      cases change with
      | remove other => exact holds.evict (Ne.symm spares)
      | insert other added => exact holds.push (Ne.symm spares) added
    next => cases taken
  | promote other promoted failed =>
    dsimp only [step] at taken
    split at taken
    next waiting =>
      cases taken
      cases failed with
      | true => exact holds.fail (Ne.symm (spares rfl))
      | false => exact holds.promote waiting.2
    next => cases taken
  | miss =>
    dsimp only [step] at taken
    split at taken
    next =>
      split at taken
      next => cases taken; exact holds
      next => cases taken
    next => cases taken
  | check readiness =>
    obtain ⟨index, ⟨polled, polledService⟩, _, chosen, found, rfl⟩ := check_cases taken
    cases readiness with
    | ready => exact holds
    | pending => exact holds.release found
    | failed =>
      apply holds.drop found
      rintro rfl
      obtain pending | ⟨_, ready⟩ := holds
      · exact pending
      · -- The service that failed would be the one that is held.
        obtain rfl := ReadyCache.ready_unique found ready
        apply absurd _ spares
        rw [WeightedBalance.chosen, chosen]
        exact found
  | pick sampler =>
    dsimp only [step] at taken
    split at taken
    next =>
      split at taken
      next => cases taken; exact holds
      next => cases taken; exact holds
      next => cases taken; exact holds
    next => cases taken
  | call =>
    dsimp only [step] at taken
    split at taken
    next =>
      split at taken
      next found =>
        obtain ⟨entry, found⟩ := Option.isSome_iff_exists.mp found
        cases taken
        exact holds.release found
      next => cases taken
    next => cases taken

theorem inserted_holds {balance next : WeightedBalance library} (taken : step balance (.change (.insert key service)) = some next) :
    next.services.Holds key service := by
  dsimp only [step] at taken
  split at taken
  next => cases taken; exact ReadyCache.holds_push _ key service
  next => cases taken

end Keeping

/-- In every run, a call goes to the service found ready by the poll directly before it, which
can always be called; and an inserted service stays with the balancer until its key is removed
or inserted again or it fails itself. -/
theorem balancer_dispatch {κ σ : Type} (library : ReadyLibrary κ σ) [DecidableEq κ] [DecidableEq σ] [HasWeight κ] :
    (∀ (before : List (Event κ σ)) (final : WeightedBalance library), run step .new (before ++ [.call]) = some final →
      ∃ earlier polled ready target, before = earlier ++ [.check .ready] ∧ run step .new earlier = some polled ∧
        step polled (.check .ready) = some ready ∧ polled.chosen = some target ∧ ready.chosen = some target ∧
        step ready .call = some final) ∧
    (∀ (earlier : List (Event κ σ)) (ready : WeightedBalance library),
      run step .new (earlier ++ [.check .ready]) = some ready → ∃ final, step ready .call = some final) ∧
    ∀ (before : List (Event κ σ)) (key : κ) (service : σ) (inserted : WeightedBalance library) (after : List (Event κ σ))
      (final : WeightedBalance library),
      run step .new (before ++ [.change (.insert key service)]) = some inserted →
      Along step (Spares key service) inserted after → run step inserted after = some final →
        final.services.Holds key service := by
  refine ⟨?_, ?_, ?_⟩
  · intro before final ran
    obtain ⟨earlier, polled, ready, same, ranEarlier, taken, called⟩ := call_after_check ran
    obtain ⟨target, chosen, rests, _⟩ := ready_callable taken
    exact ⟨earlier, polled, ready, target, same, ranEarlier, taken, chosen, rests, called⟩
  · intro earlier ready ran
    obtain ⟨polled, _, ranCheck⟩ := run_append ran
    obtain ⟨after, taken, done⟩ := run_cons ranCheck
    cases done
    obtain ⟨_, _, _, callable⟩ := ready_callable taken
    exact callable
  · intro before key service inserted after final ranBefore along ranAfter
    obtain ⟨_, _, ranInsert⟩ := run_append ranBefore
    obtain ⟨_, taken, done⟩ := run_cons ranInsert
    cases done
    exact run_invariant holds_step (inserted_holds taken) along ranAfter

/-- Keys that are nothing but their weights. -/
instance : HasWeight Weight := ⟨id⟩

def firstBalance : WeightedBalance (swapLibrary Weight String) := .new

def firstInsert : List (Event Weight String) := [.beginPoll, .change (.insert .unit "openai")]

def firstCall : List (Event Weight String) :=
  [.endUpdate, .promote .unit "openai" false, .endPromote, .pick ⟨fun _ => none⟩, .check .ready, .call]

theorem first_call_dispatched :
    ∃ inserted final, run step firstBalance firstInsert = some inserted ∧ run step inserted firstCall = some final ∧
      (∃ earlier polled ready target, firstInsert ++ firstCall.dropLast = earlier ++ [.check .ready] ∧
        run step firstBalance earlier = some polled ∧ step polled (.check .ready) = some ready ∧ polled.chosen = some target ∧
        ready.chosen = some target ∧ step ready .call = some final) ∧
      final.services.Holds .unit "openai" := by
  obtain ⟨calls, _, keeps⟩ := balancer_dispatch (swapLibrary Weight String)
  refine ⟨_, _, rfl, rfl, calls (firstInsert ++ firstCall.dropLast) _ rfl, ?_⟩
  apply keeps [.beginPoll] .unit "openai" _ firstCall _ rfl _ rfl
  exact ⟨trivial, nofun, trivial, trivial, trivial, trivial, trivial⟩

/-- A service whose first poll fails is gone, though nobody has removed it. -/
theorem failed_service_lost :
    ¬ ∀ (before : List (Event Weight String)) (key : Weight) (service : String) (after : List (Event Weight String))
      (final : WeightedBalance (swapLibrary Weight String)),
      run step .new (before ++ .change (.insert key service) :: after) = some final →
      (∀ event ∈ after, ∀ change, event = .change change → change ≠ .remove key) →
        (key, service) ∈ final.services.ready ∨ (key, service) ∈ final.services.pending := by
  intro kept
  have present := kept [.beginPoll] .unit "openai" [.endUpdate, .promote .unit "openai" true] _ rfl (by simp)
  exact absurd present (by decide)

end AiGateway.Balance
