import AiGateway.Lib.Runs

/-! Machines that ask a remote store while a flag is up. An error of the remote store lowers
the flag and an answered probe raises it again. -/

namespace AiGateway.Lib.Switches

open Runs

/-- `waiting` says that somebody waits for the remote store, `present` that there is one and
`serving` that the machine asks for anything at all. -/
structure Switch (σ ε : Type) where
  step : σ → ε → Option σ
  serving : Bool
  present : σ → Bool
  up : σ → Bool
  waiting : σ → Prop
  answer : ε → Prop
  failure : ε → Prop
  probe : ε → Prop

namespace Switch
variable {σ ε : Type} (switch : Switch σ ε)

/-- Nobody waits unless the machine serves and the remote store is there. -/
def Backed (state : σ) : Prop := switch.waiting state → switch.serving = true ∧ switch.present state = true

structure Lawful : Prop where
  present : ∀ state event next, switch.step state event = some next → switch.present next = switch.present state
  backed : ∀ state event next, switch.Backed state → switch.step state event = some next → switch.Backed next
  answered : ∀ state event next, switch.step state event = some next → switch.answer event → switch.waiting state
  failed : ∀ state event next, switch.step state event = some next → switch.failure event →
    switch.waiting state ∧ switch.up next = false
  lowered : ∀ state event next, switch.up state = false → ¬ switch.probe event →
    switch.step state event = some next → switch.up next = false

section Runs
variable {switch} {start state : σ} {events : List ε}

theorem Lawful.present_run (lawful : switch.Lawful) (ran : run switch.step start events = some state) :
    switch.present state = switch.present start := by
  have kept (middle : σ) (event : ε) (next : σ) (same : switch.present middle = switch.present start) (_ : True)
      (taken : switch.step middle event = some next) : switch.present next = switch.present start :=
    (lawful.present middle event next taken).trans same
  exact run_invariant kept rfl (along_trivial _ _) ran

theorem Lawful.backed_run (lawful : switch.Lawful) (backed : switch.Backed start)
    (ran : run switch.step start events = some state) : switch.Backed state := by
  have kept (middle : σ) (event : ε) (next : σ) (backed : switch.Backed middle) (_ : True)
      (taken : switch.step middle event = some next) : switch.Backed next :=
    lawful.backed middle event next backed taken
  exact run_invariant kept backed (along_trivial _ _) ran

/-- The flag stays down as long as no probe is answered. -/
theorem Lawful.down_run (lawful : switch.Lawful) (down : switch.up start = false)
    (silent : ∀ event ∈ events, ¬ switch.probe event) (ran : run switch.step start events = some state) : switch.up state = false :=
  run_invariant lawful.lowered down (along_of_forall start silent) ran

/-- Without a remote store, or without serving, no answer of it is ever taken. -/
theorem Lawful.never_answered (lawful : switch.Lawful) (backed : switch.Backed start)
    (apart : switch.serving = false ∨ switch.present start = false) (ran : run switch.step start events = some state)
    {event : ε} (member : event ∈ events) : ¬ switch.answer event := by
  intro answer
  obtain ⟨before, after, rfl⟩ := List.append_of_mem member
  obtain ⟨middle, ranBefore, ranAfter⟩ := run_append ran
  obtain ⟨_, taken, _⟩ := run_cons ranAfter
  have waiting := lawful.answered _ _ _ taken answer
  obtain ⟨serving, present⟩ := lawful.backed_run backed ranBefore waiting
  rw [lawful.present_run ranBefore] at present
  obtain idle | absent := apart
  · rw [idle] at serving
    cases serving
  · rw [absent] at present
    cases present

/-- From a failure to the next answered probe the flag is down, in a machine that serves and
has its remote store. -/
theorem Lawful.after_failure (lawful : switch.Lawful) (backed : switch.Backed start) {before after : List ε} {event : ε}
    (ran : run switch.step start (before ++ event :: after) = some state) (failure : switch.failure event)
    (silent : ∀ later ∈ after, ¬ switch.probe later) :
    switch.up state = false ∧ switch.serving = true ∧ switch.present state = true := by
  obtain ⟨middle, ranBefore, ranAfter⟩ := run_append ran
  obtain ⟨failed, taken, ranAfter⟩ := run_cons ranAfter
  obtain ⟨waiting, down⟩ := lawful.failed _ _ _ taken failure
  obtain ⟨serving, present⟩ := lawful.backed_run backed ranBefore waiting
  refine ⟨lawful.down_run down silent ranAfter, serving, ?_⟩
  rw [lawful.present_run ranAfter, lawful.present _ _ _ taken, present]

end Runs

end Switch

end AiGateway.Lib.Switches
