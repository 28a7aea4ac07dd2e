import AiGateway.WorkspaceConcurrency

/-! A workspace's counter is its requests in flight, its decrements still to run, and
what was lost on the way. -/

namespace AiGateway.WorkspaceConcurrency

open Lib.Runs

/-- The workspace whose count this step leaves one too high: an increment that is not
noticed, or that is forgotten, or a decrement that is not made. -/
def leaks (state : State) : Event → Option Uuid
  | .runIncr index => state.requests[index]?.bind fun request => if request.stage = .orphaned then some request.workspace else none
  | .incrReply index false | .expireReply index false | .respond index false | .dropFuture index =>
    state.requests[index]?.bind Request.counted
  | .decrement release false => state.releases[release]?
  | _ => none

/-- The wrapper's flag tells whether the body it wraps has ended. -/
def Request.settled (request : Request) : Bool :=
  match request.stage with
  | .responding body ended => body.released == ended
  | _ => true

def Settled (state : State) : Prop := ∀ request ∈ state.requests, request.settled = true

/-- What a step does to the counts, in terms of the request it moves. -/
inductive Moved (state : State) : Event → State → Prop where
  | arrived (orgId : Option Uuid) :
      Moved state (.arrive orgId)
        { state with requests := state.requests ++ [⟨orgId.getD placeholderWorkspace, .arrived⟩] }
  | quiet {event : Event} {index : Nat} {before after : Request} (found : state.requests[index]? = some before)
      (same : Settled state → after.counted = before.counted ∧ after.settled = true) (keeps : leaks state event = none) :
      Moved state event { state with requests := state.requests.set index after }
  | incremented {event : Event} {index : Nat} {before after : Request} {workspace : Uuid}
      (found : state.requests[index]? = some before) (uncounted : before.counted = none)
      (counted : after.counted = some workspace) (settled : after.settled = true) (keeps : leaks state event = none) :
      Moved state event { state.increment workspace with requests := state.requests.set index after }
  | strayed {event : Event} {index : Nat} {before after : Request} {workspace : Uuid}
      (found : state.requests[index]? = some before) (uncounted : before.counted = none)
      (finished : after.counted = none) (settled : after.settled = true) (lost : leaks state event = some workspace) :
      Moved state event { state.increment workspace with requests := state.requests.set index after }
  | leaked {event : Event} {index : Nat} {before after : Request} {workspace : Uuid}
      (found : state.requests[index]? = some before) (counted : before.counted = some workspace)
      (finished : after.counted = none) (settled : after.settled = true) (lost : leaks state event = some workspace) :
      Moved state event { state with requests := state.requests.set index after }
  | released {event : Event} {index : Nat} {before after : Request} {workspace : Uuid}
      (found : state.requests[index]? = some before) (counted : Settled state → before.counted = some workspace)
      (finished : after.counted = none) (settled : after.settled = true) (keeps : leaks state event = none) :
      Moved state event { state with requests := state.requests.set index after, releases := state.releases ++ [workspace] }
  | decremented {release : Nat} {executed : Bool} {workspace : Uuid} (waiting : state.releases[release]? = some workspace) :
      Moved state (.decrement release executed)
        { state with
          counters := Function.update state.counters workspace
            (if executed then InFlightLimit.decrFloor (state.counters workspace) else state.counters workspace)
          releases := state.releases.eraseIdx release }

section Inversion
variable {configured : Bool} {state next : State}

/-- A request stops being handled before its release was set up. -/
private theorem stopped_moved {event : Event} {index : Nat} {before : Request} {after : Stage}
    (found : state.requests[index]? = some before) (finished : ({ before with stage := after } : Request).counted = none)
    (settled : ({ before with stage := after } : Request).settled = true)
    (lost : leaks state event = before.counted) : Moved state event (state.move index before after) := by
  rcases counted : before.counted with _ | workspace
  · exact .quiet found (fun _ => ⟨finished.trans counted.symm, settled⟩) (lost.trans counted)
  · exact .leaked found counted finished settled (lost.trans counted)

/-- A move of a request that has no response body before it. -/
private theorem plain_moved {event : Event} {index : Nat} {before : Request} {after : Stage}
    (found : state.requests[index]? = some before)
    (same : ({ before with stage := after } : Request).counted = before.counted)
    (settled : ({ before with stage := after } : Request).settled = true)
    (keeps : leaks state event = none) : Moved state event (state.move index before after) :=
  .quiet found (fun _ => ⟨same, settled⟩) keeps

theorem Settled.ended {index : Nat} {request : Request} {body : CountedBody Uuid} {ended : Bool} (settled : Settled state)
    (found : state.requests[index]? = some request) (responding : request.stage = .responding body ended) :
    ended = body.released := by
  have same := settled request (List.mem_of_getElem? found)
  rw [Request.settled, responding] at same
  exact (beq_iff_eq.mp same).symm

private theorem fired_moved {event : Event} {index : Nat} {request : Request} {body : CountedBody Uuid} {ended : Bool}
    {after : Stage} (found : state.requests[index]? = some request) (responding : request.stage = .responding body ended)
    (finished : ({ request with stage := after } : Request).counted = none)
    (settled : ({ request with stage := after } : Request).settled = true) (keeps : leaks state event = none) :
    Moved state event ((state.releaseAny body.drop).move index request after) := by
  obtain ⟨released, workspace⟩ := body
  have counted (before : Settled state) : request.counted = if released then none else some workspace := by
    rw [Request.counted, responding, before.ended found responding]
  cases released with
  | false => exact .released found counted finished settled keeps
  | true => exact .quiet found (fun before => ⟨finished.trans (counted before).symm, settled⟩) keeps

theorem step_moved {event : Event} (taken : step configured state event = some next) : Moved state event next := by
  cases event with
  | arrive orgId => cases taken; exact .arrived orgId
  | poll index =>
    simp only [step] at taken
    split at taken
    next request found =>
      split at taken
      next stage =>
        cases taken
        apply plain_moved found _ _ rfl
        · cases configured <;> simp [Request.counted, stage]
        · cases configured <;> rfl
      next => cases taken
    next => cases taken
  | runIncr index =>
    simp only [step] at taken
    split at taken
    next request found =>
      split at taken
      next stage =>
        cases taken
        exact .incremented found (by simp [Request.counted, stage]) rfl rfl (by simp [leaks, found, stage])
      next stage =>
        cases taken
        exact .strayed found (by simp [Request.counted, stage]) rfl rfl (by simp [leaks, found, stage])
      next => cases taken
    next => cases taken
  | incrReply index ok =>
    simp only [step] at taken
    split at taken
    next request found =>
      split at taken
      next stage =>
        cases taken
        exact plain_moved found (by simp [Request.counted, stage]) rfl rfl
      next ran stage =>
        cases taken
        exact stopped_moved found rfl rfl (by simp [leaks, found])
      next => cases taken
    next => cases taken
  | expireReply index ok =>
    simp only [step] at taken
    split at taken
    next request found =>
      split at taken
      next stage =>
        cases taken
        cases ok with
        | true => exact plain_moved found (by simp [Request.counted, stage]) rfl rfl
        | false => exact stopped_moved found rfl rfl (by simp [leaks, found])
      next => cases taken
    next => cases taken
  | respond index ok =>
    simp only [step] at taken
    split at taken
    next request found =>
      split at taken
      next incrOk stage =>
        cases ok with
        | false => cases taken; exact stopped_moved found rfl rfl (by simp [leaks, found])
        | true =>
          cases incrOk with
          | false => cases taken; exact plain_moved found (by simp [Request.counted, stage]) rfl rfl
          | true => cases taken; exact plain_moved found (by simp [Request.counted, stage, CountedBody.new]) rfl rfl
      next => cases taken
    next => cases taken
  | dropFuture index =>
    simp only [step] at taken
    split at taken
    next request found =>
      split at taken
      all_goals first | (cases taken; exact stopped_moved found rfl rfl (by simp [leaks, found])) | cases taken
    next => cases taken
  | pollFrame index terminate =>
    simp only [step] at taken
    split at taken
    next request found =>
      split at taken
      next body ended stage =>
        cases taken
        cases terminate with
        | false =>
          apply Moved.quiet found _ rfl
          intro settled
          rw [Bool.or_false]
          constructor
          · simp [Request.counted, stage, CountedBody.pollFrame]
          · rw [settled.ended found stage]
            exact BEq.rfl
        | true =>
          rw [Bool.or_true]
          obtain ⟨released, workspace⟩ := body
          cases released
          · exact fired_moved found stage rfl rfl rfl
          · exact fired_moved found stage rfl rfl rfl
      next => cases taken
    next => cases taken
  | dropBody index =>
    simp only [step] at taken
    split at taken
    next request found =>
      split at taken
      next body ended stage => cases taken; exact fired_moved found stage rfl rfl rfl
      next => cases taken
    next => cases taken
  | decrement release executed =>
    simp only [step] at taken
    split at taken
    next workspace waiting => cases taken; exact .decremented waiting
    next => cases taken

theorem settled_set {index : Nat} {after : Request} (settled : Settled state) (kept : after.settled = true) :
    ∀ request ∈ state.requests.set index after, request.settled = true := by
  intro request member
  obtain old | rfl := List.mem_or_eq_of_mem_set member
  · exact settled request old
  · exact kept

/-- A decrement is sent when the body ends, and not before. -/
theorem settled_step {event : Event} (settled : Settled state) (taken : step configured state event = some next) :
    Settled next := by
  cases step_moved taken with
  | arrived orgId =>
    intro request member
    obtain old | new := List.mem_append.mp member
    · exact settled request old
    · cases List.mem_singleton.mp new
      rfl
  | quiet found same => exact settled_set settled (same settled).2
  | incremented found uncounted counted kept => exact settled_set settled kept
  | strayed found uncounted finished kept => exact settled_set settled kept
  | leaked found counted finished kept => exact settled_set settled kept
  | released found counted finished kept => exact settled_set settled kept
  | decremented waiting => exact settled

end Inversion

section Ledger
variable {configured : Bool} {workspace : Uuid}

def Balanced (workspace : Uuid) (state : State) (surplus : Nat) : Prop :=
  Settled state ∧ state.counters workspace = state.inFlight workspace + state.releasing workspace + surplus

private theorem increment_counters (state : State) (raised workspace : Uuid) :
    (state.increment raised).counters workspace = state.counters workspace + if raised = workspace then 1 else 0 := by
  simp only [State.increment]
  by_cases same : raised = workspace
  · subst same
    simp
  · rw [Function.update_of_ne (Ne.symm same), if_neg same, Nat.add_zero]

private theorem counts_some {request : Request} {counted : Uuid} (same : request.counted = some counted) (workspace : Uuid) :
    (request.counted == some workspace) = decide (counted = workspace) := by
  rw [same]
  rfl

private theorem counts_none {request : Request} (same : request.counted = none) (workspace : Uuid) :
    (request.counted == some workspace) = false := by
  rw [same]
  rfl

theorem balanced_step (state : State) (event : Event) (next : State) (surplus : Nat)
    (balanced : Balanced workspace state surplus) (taken : step configured state event = some next) :
    Balanced workspace next (surplus + if leaks state event == some workspace then 1 else 0) := by
  obtain ⟨settled, balanced⟩ := balanced
  refine ⟨settled_step settled taken, ?_⟩
  rw [State.inFlight, State.releasing] at balanced ⊢
  have counts {index : Nat} {before : Request} (found : state.requests[index]? = some before) (after : Request) :=
    countP_set_add (fun request => request.counted == some workspace) found after
  cases step_moved taken with
  | arrived orgId => simpa [leaks, Request.counted] using balanced
  | @quiet event index before after found same keeps =>
    have moved := counts found after
    rw [(same settled).1] at moved
    rw [keeps]
    simp only [Option.none_beq_some, Bool.false_eq_true, if_false]
    omega
  | @incremented event index before after raised found uncounted counted _ keeps =>
    have moved := counts found after
    rw [counts_none uncounted, counts_some counted] at moved
    rw [keeps, increment_counters]
    simp only [Option.none_beq_some, Bool.false_eq_true, if_false, decide_eq_true_eq] at moved ⊢
    simp only [State.increment]
    omega
  | @strayed event index before after raised found uncounted finished _ lost =>
    have moved := counts found after
    rw [counts_none uncounted, counts_none finished] at moved
    rw [lost, increment_counters]
    simp only [Option.some_beq_some, beq_iff_eq, Bool.false_eq_true, if_false] at moved ⊢
    simp only [State.increment]
    omega
  | @leaked event index before after raised found counted finished _ lost =>
    have moved := counts found after
    rw [counts_some counted, counts_none finished] at moved
    rw [lost]
    simp only [Option.some_beq_some, beq_iff_eq, Bool.false_eq_true, if_false, decide_eq_true_eq] at moved ⊢
    omega
  | @released event index before after raised found counted finished _ keeps =>
    have moved := counts found after
    rw [counts_some (counted settled), counts_none finished] at moved
    rw [keeps, List.countP_append]
    simp only [Option.none_beq_some, Bool.false_eq_true, if_false, decide_eq_true_eq, List.countP_singleton,
      beq_iff_eq] at moved ⊢
    omega
  | @decremented release executed lowered waiting =>
    have fewer := countP_eraseIdx_add (fun released => released == workspace) waiting
    simp only [beq_iff_eq] at fewer
    by_cases same : lowered = workspace
    · subst same
      rw [if_pos rfl] at fewer
      cases executed with
      | true =>
        simp only [Function.update_self, leaks, InFlightLimit.decrFloor, if_true, Option.none_beq_some,
          Bool.false_eq_true, if_false]
        rw [if_pos (by omega)]
        omega
      | false =>
        simp only [Function.update_self, leaks, waiting, BEq.rfl, if_true, Bool.false_eq_true, if_false]
        omega
    · have kept : (leaks state (.decrement release executed) == some workspace) = false := by
        cases executed <;> simp [leaks, waiting, same]
      rw [if_neg same] at fewer
      simp only [kept, Function.update_of_ne (Ne.symm same), Bool.false_eq_true, if_false]
      omega

/-- The counter is the number of requests in flight exactly when nothing of the
workspace's was lost so far and no decrement of it is still to run. -/
theorem workspace_counter_exact_iff (configured : Bool) (workspace : Uuid) (events : List Event) (final : State)
    (ran : run (step configured) .start events = some final) :
    final.counters workspace = final.inFlight workspace ↔
      Along (step configured) (fun state event => (leaks state event == some workspace) = false) .start events ∧
        final.releasing workspace = 0 := by
  have empty : Balanced workspace .start 0 := ⟨by simp [Settled, State.start], rfl⟩
  have balanced := (run_ledger balanced_step empty ran).2
  rw [← occurrences_eq_zero_iff]
  omega

/-- One request is answered and its body read; another is still handled. -/
def oneAnswered : List Event :=
  [.arrive (some 7), .poll 0, .runIncr 0, .incrReply 0 true, .expireReply 0 true, .arrive (some 7), .poll 1, .runIncr 1,
    .incrReply 1 true, .expireReply 1 true, .respond 0 true, .pollFrame 0 true, .decrement 0 true]

theorem oneAnswered_counter_exact :
    ((run (step true) .start oneAnswered).map fun final => (final.counters 7, final.inFlight 7)) = some (1, 1) ∧
      ∀ final, run (step true) .start oneAnswered = some final →
        (final.counters 7 = final.inFlight 7 ↔
          Along (step true) (fun state event => (leaks state event == some 7) = false) .start oneAnswered ∧
            final.releasing 7 = 0) :=
  ⟨by decide, fun final ran => workspace_counter_exact_iff true 7 oneAnswered final ran⟩

/-- The lifetime could not be refreshed: the acquire fails, and its increment stays when
the request is over. -/
theorem failed_expire_keeps_increment :
    ¬ ∀ (configured : Bool) (workspace : Uuid) (events : List Event) (final : State),
      run (step configured) .start events = some final → final.releasing workspace = 0 →
        final.counters workspace = final.inFlight workspace := by
  intro exact
  have counted : ((run (step true) .start [.arrive (some 7), .poll 0, .runIncr 0, .incrReply 0 true, .expireReply 0 false,
      .respond 0 true]).map fun final => (final.counters 7, final.inFlight 7, final.releasing 7)) = some (1, 0, 0) := by decide
  obtain ⟨final, ran, values⟩ := Option.map_eq_some_iff.mp counted
  have equal := exact true 7 _ final ran (congrArg (fun value => value.2.2) values)
  have counter := congrArg (fun value => value.1) values
  have none := congrArg (fun value => value.2.1) values
  simp only at counter none
  omega

end Ledger

end AiGateway.WorkspaceConcurrency
