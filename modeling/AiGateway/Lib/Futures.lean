/-! Futures that are polled: one poll looks at the state again and again, until a child is
pending or the result is there. Each look that goes on brings the state nearer to its end. -/

namespace AiGateway.Lib.Futures

inductive Look (σ ρ : Type) where
  | again (next : σ)
  | pending (next : σ)
  | ready (result : ρ)

/-- A future that awaits nothing of its own: it is pending some times, and then has its result. -/
structure Child (α : Type) where
  pending : Nat
  result : α

inductive Polled (α : Type) where
  | pending (next : Child α)
  | ready (result : α)

def Child.poll {α : Type} : Child α → Polled α
  | ⟨0, result⟩ => .ready result
  | ⟨pending + 1, result⟩ => .pending ⟨pending, result⟩

structure Machine (σ ρ : Type) where
  look : σ → Look σ ρ
  rank : σ → Nat
  falls : ∀ {state next}, look state = .again next → rank next < rank state

namespace Machine
variable {σ ρ : Type} (machine : Machine σ ρ)

/-- One poll: the state that is left pending, or the result. -/
def poll (state : σ) : σ ⊕ ρ :=
  match _looked : machine.look state with
  | .again next => poll next
  | .pending next => .inl next
  | .ready result => .inr result
termination_by machine.rank state
decreasing_by exact machine.falls _looked

variable {machine} {state next : σ} {result : ρ}

theorem poll_again (look : machine.look state = .again next) : machine.poll state = machine.poll next := by
  rw [poll]
  split <;> simp_all

theorem poll_pending (look : machine.look state = .pending next) : machine.poll state = .inl next := by
  rw [poll]
  split <;> simp_all

theorem poll_ready (look : machine.look state = .ready result) : machine.poll state = .inr result := by
  rw [poll]
  split <;> simp_all

variable (machine) in
/-- The polls are pending that many times, and the next one gives the result. -/
inductive Answers : σ → Nat → ρ → Prop where
  | now {state : σ} {result : ρ} (polled : machine.poll state = .inr result) : Answers state 0 result
  | later {state next : σ} {pending : Nat} {result : ρ} (polled : machine.poll state = .inl next)
      (rest : Answers next pending result) : Answers state (pending + 1) result

theorem Answers.ready (look : machine.look state = .ready result) : machine.Answers state 0 result :=
  .now (poll_ready look)

theorem Answers.again {pending : Nat} (look : machine.look state = .again next)
    (rest : machine.Answers next pending result) : machine.Answers state pending result := by
  cases rest with
  | now polled => exact .now ((poll_again look).trans polled)
  | later polled rest => exact .later ((poll_again look).trans polled) rest

/-- What is answered, and after how many polls, is settled by the state. -/
theorem Answers.unique {pending other : Nat} {different : ρ} (first : machine.Answers state pending result)
    (second : machine.Answers state other different) : pending = other ∧ result = different := by
  induction first generalizing other with
  | now polled =>
    cases second with
    | now again => exact ⟨rfl, Sum.inr.inj (polled.symm.trans again)⟩
    | later again rest => cases polled.symm.trans again
  | later polled rest ih =>
    cases second with
    | now again => cases polled.symm.trans again
    | later again other =>
      cases Sum.inl.inj (polled.symm.trans again)
      obtain ⟨same, equal⟩ := ih other
      exact ⟨congrArg (· + 1) same, equal⟩

/-- A state that waits for a child is pending as long as the child is. -/
theorem Answers.awaits {α : Type} (wait : Child α → σ)
    (passes : ∀ child next, child.poll = .pending next → machine.look (wait child) = .pending (wait next))
    {value : α} {after : Nat} (rest : machine.Answers (wait ⟨0, value⟩) after result) (pending : Nat) :
    machine.Answers (wait ⟨pending, value⟩) (pending + after) result := by
  induction pending with
  | zero =>
    rw [Nat.zero_add]
    exact rest
  | succ pending ih =>
    rw [Nat.succ_add]
    exact .later (poll_pending (passes ⟨pending + 1, value⟩ ⟨pending, value⟩ rfl)) ih

end Machine

end AiGateway.Lib.Futures
