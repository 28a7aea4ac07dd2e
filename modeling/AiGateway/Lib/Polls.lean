import Mathlib.Order.Basic

/-! Futures that are polled until they are ready, and machines whose polls are loops of steps.
A machine that wastes neither steps nor polls is ready in the end. -/

namespace AiGateway.Lib.Polls

inductive Poll (Output : Type) where
  | ready (output : Output)
  | pending
  deriving DecidableEq, Repr

/-- A future that is pending so many times before it has its output. -/
structure Future (Output : Type) where
  waits : Nat
  output : Output
  deriving DecidableEq, Repr

def Future.poll {Output : Type} (future : Future Output) : Poll Output × Future Output :=
  match future.waits with
  | 0 => (.ready future.output, future)
  | waits + 1 => (.pending, { future with waits })

section Machine
variable {σ Output : Type} (step : σ → σ × Option (Poll Output))

/-- One poll: steps until one of them returns. -/
def poll : Nat → σ → Option (Poll Output × σ)
  | 0, _ => none
  | fuel + 1, state =>
    match step state with
    | (next, none) => poll fuel next
    | (next, some returned) => some (returned, next)

/-- Polls until one of them is ready. -/
def blockOn (fuel : Nat) : Nat → σ → Option (Output × σ)
  | 0, _ => none
  | polls + 1, state =>
    match poll step fuel state with
    | none => none
    | some (.ready output, next) => some (output, next)
    | some (.pending, next) => blockOn fuel polls next

/-- A step that goes on brings the poll nearer to its end, and one that is pending the whole. -/
def Advances (kept : σ → Prop) (loops waits : σ → Nat) (done : Output → σ → Prop) (before : σ) :
    σ × Option (Poll Output) → Prop
  | (after, none) => kept after ∧ loops after < loops before ∧ waits after ≤ waits before
  | (after, some .pending) => kept after ∧ loops after ≤ loops before ∧ waits after < waits before
  | (after, some (.ready output)) => done output after

variable {step} {kept : σ → Prop} {loops waits : σ → Nat} {done : Output → σ → Prop}
  (progress : ∀ state, kept state → Advances kept loops waits done state (step state))
include progress

theorem poll_returns {state : σ} {fuel : Nat} (start : kept state) (enough : loops state < fuel) :
    ∃ returned next, poll step fuel state = some (returned, next) ∧
      Advances kept loops waits done state (next, some returned) := by
  induction fuel generalizing state with
  | zero => cases enough
  | succ fuel ih =>
    have advanced := progress state start
    rcases taken : step state with ⟨next, _ | returned⟩
    · rw [taken] at advanced
      obtain ⟨still, fewer, noMore⟩ := advanced
      obtain ⟨returned, final, polled, left⟩ := ih still (by omega)
      refine ⟨returned, final, ?_, ?_⟩
      · rw [poll, taken]
        exact polled
      · cases returned with
        | ready output => exact left
        | pending =>
          obtain ⟨still, rounds, turns⟩ := left
          exact ⟨still, by omega, by omega⟩
    · rw [taken] at advanced
      refine ⟨returned, next, ?_, advanced⟩
      rw [poll, taken]

theorem blockOn_done {state : σ} {fuel polls : Nat} (start : kept state) (enough : loops state < fuel)
    (many : waits state < polls) : ∃ output final, blockOn step fuel polls state = some (output, final) ∧ done output final := by
  induction polls generalizing state with
  | zero => cases many
  | succ polls ih =>
    obtain ⟨returned, next, polled, left⟩ := poll_returns progress start enough
    rw [blockOn, polled]
    cases returned with
    | ready output => exact ⟨output, next, rfl, left⟩
    | pending =>
      obtain ⟨still, noMore, fewer⟩ := left
      exact ih still (by omega) (by omega)

end Machine

end AiGateway.Lib.Polls
