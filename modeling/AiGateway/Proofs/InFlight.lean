import AiGateway.InFlightLimit

/-! What the in-flight limit's two counts say about the requests in flight. -/

namespace AiGateway.InFlightLimit

open Lib.Runs

/-- The future of a request that holds a slot of the process is dropped before the inner
service has responded; nothing gives the slot back. -/
def abandons (state : State) : Event → Bool
  | .dropFuture request => state.requests[request]? == some (.handling .memory)
  | _ => false

/-- The store that admits a request at this step, if one does. -/
def admits (cfg : GatewayInFlightLimitConfig) (state : State) : Event → Option HeldSlot
  | .poll request =>
    match state.requests[request]? with
    | some .arrived =>
      if cfg.enabled && !(state.useRedis && state.redis.isSome) && state.memory < cfg.max then some .memory else none
    | _ => none
  | .reply request delivered =>
    match state.requests[request]?, delivered with
    | some (.evaluated true), true => some .redis
    | some .evaluating, false | some (.evaluated _), false => if state.memory < cfg.max then some .memory else none
    | _, _ => none
  | _ => none

/-- The requests that the count in Redis answers for: granted, or in flight on a slot of
Redis. -/
def Stage.claims : Stage → Bool
  | .evaluated granted => granted
  | stage => stage.slot == some .redis

def Stage.holdsMemory (stage : Stage) : Bool := stage.slot == some .memory

/-- Requests that have turned to Redis. -/
def Stage.usesRedis : Stage → Bool
  | .evaluating | .evaluated _ | .orphaned => true
  | stage => stage.slot == some .redis

/-- The wrapper's flag tells whether the body it wraps has ended. -/
def Stage.settled : Stage → Bool
  | .responding body ended => body.released == ended
  | _ => true

def Settled (state : State) : Prop := ∀ stage ∈ state.requests, stage.settled = true

/-- A move that takes and gives back nothing. -/
structure Quiet (useRedis : Bool) (before after : Stage) : Prop where
  settled : after.settled = true
  memory : after.holdsMemory = before.holdsMemory
  claims : after.claims = true → before.claims = true
  uses : after.usesRedis = true → before.usesRedis = true ∨ useRedis = true
  redis : (after.slot == some .redis) = true → (before.slot == some .redis) = true

/-- Everything a step can do to the counts and to the stage of the one request it moves. -/
inductive Moved (cfg : GatewayInFlightLimitConfig) (state : State) : Event → State → Prop where
  | arrived : Moved cfg state .arrive { state with requests := state.requests ++ [.arrived] }
  | quiet {event : Event} {request : Nat} {before after : Stage} {useRedis : Bool}
      (found : state.requests[request]? = some before) (same : Settled state → Quiet state.useRedis before after)
      (lowered : useRedis = true → state.useRedis = true) (keeps : abandons state event = false) :
      Moved cfg state event ({ state with useRedis := useRedis }.move request after)
  | taken {event : Event} {request : Nat} {before : Stage} {useRedis : Bool}
      (found : state.requests[request]? = some before) (free : before.holdsMemory = false)
      (below : state.memory < cfg.max) (lowered : useRedis = true → state.useRedis = true)
      (keeps : abandons state event = false) (admitted : admits cfg state event = some .memory) :
      Moved cfg state event
        ({ state with memory := state.memory + 1, useRedis := useRedis }.move request (.handling .memory))
  | leaked {request : Nat} (found : state.requests[request]? = some (.handling .memory)) :
      Moved cfg state (.dropFuture request) (state.move request .gone)
  | admitted {request : Nat} (found : state.requests[request]? = some (.evaluated true))
      (admitted : admits cfg state (.reply request true) = some .redis) :
      Moved cfg state (.reply request true) (state.move request (.handling .redis))
  | granted {request count : Nat} (configured : state.redis = some count)
      (found : state.requests[request]? = some .evaluating) (below : count < cfg.max) :
      Moved cfg state (.runScript request) ({ state with redis := some (count + 1) }.move request (.evaluated true))
  | stray {request count raised : Nat} (configured : state.redis = some count)
      (found : state.requests[request]? = some .orphaned) (raises : count ≤ raised) :
      Moved cfg state (.runScript request) ({ state with redis := some raised }.move request .gone)
  | released {event : Event} {request : Nat} {slot : HeldSlot} {before after : Stage}
      (found : state.requests[request]? = some before) (held : Settled state → before.slot = some slot)
      (settled : after.settled = true) (free : after.usesRedis = false) (idle : after.slot = none)
      (keeps : abandons state event = false) :
      Moved cfg state event ((state.release slot).move request after)
  | decremented {executed : Bool} {count pending : Nat} (configured : state.redis = some count)
      (waiting : state.releases = pending + 1) :
      Moved cfg state (.decrement executed)
        { state with redis := some (if executed then decrFloor count else count), releases := pending }
  | recovered : Moved cfg state .recover { state with useRedis := true }
  | expired {count : Nat} (configured : state.redis = some count) :
      Moved cfg state .expire { state with redis := some 0 }

theorem redis_claims {stage : Stage} (redis : (stage.slot == some .redis) = true) : stage.claims = true := by
  cases stage with
  | evaluated granted => cases redis
  | _ => exact redis

theorem holdsMemory_of_slot {stage : Stage} {slot : HeldSlot} (slotted : stage.slot = some slot) :
    stage.holdsMemory = (slot == .memory) := by
  rw [Stage.holdsMemory, slotted]
  cases slot <;> rfl

theorem claims_of_slot {stage : Stage} (slotted : stage.slot = some .redis) : stage.claims = true :=
  redis_claims (by rw [slotted]; rfl)

theorem claims_uses {stage : Stage} (claims : stage.claims = true) : stage.usesRedis = true := by
  cases stage with
  | evaluated granted => rfl
  | handling slot => exact claims
  | responding body ended => exact claims
  | _ => cases claims

section Inversion
variable {cfg : GatewayInFlightLimitConfig} {state next : State}

theorem max_positive (cfg : GatewayInFlightLimitConfig) : 0 < cfg.max := by
  unfold GatewayInFlightLimitConfig.max
  omega

/-- `try_acquire` in the process, for a request that had no slot there. -/
theorem acquireMemory_moved {event : Event} {request : Nat} {before : Stage} {useRedis : Bool}
    (found : state.requests[request]? = some before) (free : before.holdsMemory = false)
    (lowered : useRedis = true → state.useRedis = true) (keeps : abandons state event = false)
    (admitted : state.memory < cfg.max → admits cfg state event = some .memory) :
    Moved cfg state event (acquireMemory cfg { state with useRedis := useRedis } request) := by
  unfold acquireMemory MemoryInFlightLimiter.tryAcquire
  have positive := max_positive cfg
  rw [if_neg (by omega)]
  split
  next full =>
    apply Moved.quiet found _ lowered keeps
    intro _
    refine ⟨rfl, ?_, nofun, nofun, nofun⟩
    rw [free]
    rfl
  next memory taken =>
    split at taken
    next => cases taken
    next below =>
      cases taken
      have below := Nat.lt_of_not_le below
      exact .taken found free below lowered keeps (admitted below)

theorem Settled.ended {request : Nat} {body : CountedBody HeldSlot} {ended : Bool} (settled : Settled state)
    (found : state.requests[request]? = some (.responding body ended)) : ended = body.released :=
  (beq_iff_eq.mp (settled _ (List.mem_of_getElem? found))).symm

theorem released_moved {event : Event} {request : Nat} {body : CountedBody HeldSlot} {ended : Bool} {after : Stage}
    (found : state.requests[request]? = some (.responding body ended)) (settled : after.settled = true)
    (free : after.usesRedis = false) (idle : after.slot = none) (keeps : abandons state event = false) :
    Moved cfg state event ((state.releaseAny body.drop).move request after) := by
  obtain ⟨released, slot⟩ := body
  cases released with
  | false =>
    apply Moved.released found _ settled free idle keeps
    intro before
    rw [before.ended found]
    rfl
  | true =>
    apply Moved.quiet found _ id keeps
    intro before
    rw [before.ended found]
    refine ⟨settled, ?_, ?_, ?_, ?_⟩
    · simp only [Stage.holdsMemory, idle]
      rfl
    · intro claims
      rw [claims_uses claims] at free
      cases free
    · intro uses
      rw [free] at uses
      cases uses
    · intro redis
      rw [idle] at redis
      cases redis

private theorem quiet_plain {event : Event} {request : Nat} {before after : Stage}
    (found : state.requests[request]? = some before) (memory : after.holdsMemory = before.holdsMemory)
    (uses : after.usesRedis = true → state.useRedis = true) (keeps : abandons state event = false)
    (claims : after.claims = false) (settled : after.settled = true) :
    Moved cfg state event (state.move request after) := by
  apply Moved.quiet found _ id keeps
  intro _
  have none (claimed : after.claims = true) : before.claims = true := by
    rw [claims] at claimed
    cases claimed
  refine ⟨settled, memory, none, fun used => .inr (uses used), ?_⟩
  intro redis
  rw [redis_claims redis] at claims
  cases claims

private theorem poll_moved {request : Nat} (taken : step cfg state (.poll request) = some next) :
    Moved cfg state (.poll request) next := by
  dsimp only [step] at taken
  split at taken
  next found =>
    split at taken
    next => cases taken; exact quiet_plain found rfl nofun rfl rfl rfl
    next enabled =>
      split at taken
      next active =>
        cases taken
        exact quiet_plain found rfl (fun _ => (Bool.and_eq_true_iff.mp active).1) rfl rfl rfl
      next inactive =>
        cases taken
        apply acquireMemory_moved found rfl id rfl
        intro below
        simp only [admits, found, below]
        simp_all
  next => cases taken

private theorem runScript_moved {request : Nat} (taken : step cfg state (.runScript request) = some next) :
    Moved cfg state (.runScript request) next := by
  simp only [step, acquireScript] at taken
  split at taken
  next count configured found =>
    cases taken
    by_cases full : cfg.max < count + 1
    · simp only [full, if_true, Nat.add_sub_cancel]
      have same : { state with redis := some count } = state := by
        rw [← configured]
      rw [same]
      apply Moved.quiet found _ id rfl
      exact fun _ => ⟨rfl, rfl, nofun, fun _ => .inl rfl, nofun⟩
    · simp only [full, if_false]
      exact .granted configured found (by omega)
  next count configured found =>
    cases taken
    apply Moved.stray configured found
    split
    · exact Nat.le_of_eq (Nat.add_sub_cancel count 1).symm
    · exact Nat.le_succ count
  next => cases taken

private theorem reply_moved {request : Nat} {delivered : Bool}
    (taken : step cfg state (.reply request delivered) = some next) :
    Moved cfg state (.reply request delivered) next := by
  dsimp only [step] at taken
  split at taken
  next granted found =>
    cases taken
    cases granted with
    | true => exact .admitted found (by simp only [admits, found])
    | false => exact quiet_plain found rfl nofun rfl rfl rfl
  next found =>
    cases taken
    exact acquireMemory_moved found rfl Bool.noConfusion rfl fun below => by simp only [admits, found, below, if_true]
  next found =>
    cases taken
    exact acquireMemory_moved found rfl Bool.noConfusion rfl fun below => by simp only [admits, found, below, if_true]
  next => cases taken

private theorem dropFuture_moved {request : Nat} (taken : step cfg state (.dropFuture request) = some next) :
    Moved cfg state (.dropFuture request) next := by
  dsimp only [step] at taken
  split at taken
  next found =>
    cases taken
    apply Moved.quiet found _ id
    · simp [abandons, found]
    · exact fun _ => ⟨rfl, rfl, nofun, fun _ => .inl rfl, nofun⟩
  next found => cases taken; exact quiet_plain found rfl nofun (by simp [abandons, found]) rfl rfl
  next found => cases taken; exact quiet_plain found rfl nofun (by simp [abandons, found]) rfl rfl
  next slot found =>
    cases taken
    cases slot with
    | memory => exact .leaked found
    | redis => exact quiet_plain found rfl nofun (by simp [abandons, found]) rfl rfl
  next found => cases taken; exact quiet_plain found rfl nofun (by simp [abandons, found]) rfl rfl
  next => cases taken

private theorem respond_moved {request : Nat} (taken : step cfg state (.respond request) = some next) :
    Moved cfg state (.respond request) next := by
  dsimp only [step] at taken
  split at taken
  next slot found =>
    cases taken
    apply Moved.quiet found _ id rfl
    exact fun _ => ⟨rfl, rfl, id, .inl, id⟩
  next => cases taken

private theorem pollFrame_moved {request : Nat} {terminate : Bool}
    (taken : step cfg state (.pollFrame request terminate) = some next) :
    Moved cfg state (.pollFrame request terminate) next := by
  dsimp only [step] at taken
  split at taken
  next body ended found =>
    cases taken
    cases terminate with
    | false =>
      apply Moved.quiet found _ id rfl
      intro settled
      rw [Bool.or_false]
      exact ⟨settled _ (List.mem_of_getElem? found), rfl, id, .inl, id⟩
    | true =>
      rw [Bool.or_true]
      obtain ⟨released, slot⟩ := body
      cases released
      · exact released_moved found rfl rfl rfl rfl
      · exact released_moved found rfl rfl rfl rfl
  next => cases taken

theorem step_moved {event : Event} (taken : step cfg state event = some next) : Moved cfg state event next := by
  cases event with
  | arrive => cases taken; exact .arrived
  | poll request => exact poll_moved taken
  | runScript request => exact runScript_moved taken
  | reply request delivered => exact reply_moved taken
  | respond request => exact respond_moved taken
  | dropFuture request => exact dropFuture_moved taken
  | pollFrame request terminate => exact pollFrame_moved taken
  | dropBody request =>
    dsimp only [step] at taken
    split at taken
    next body ended found => cases taken; exact released_moved found rfl rfl rfl rfl
    next => cases taken
  | decrement executed =>
    dsimp only [step] at taken
    split at taken
    next configured waiting => cases taken; exact .decremented configured waiting
    next => cases taken
  | recover =>
    dsimp only [step] at taken
    split at taken
    next => cases taken; exact .recovered
    next => cases taken
  | expire =>
    dsimp only [step] at taken
    split at taken
    next configured => cases taken; exact .expired configured
    next => cases taken

theorem settled_move {request : Nat} {after : Stage} (settled : Settled state) (kept : after.settled = true) :
    ∀ stage ∈ state.requests.set request after, stage.settled = true := by
  intro stage member
  obtain old | rfl := List.mem_or_eq_of_mem_set member
  · exact settled stage old
  · exact kept

/-- The slot is given back when the body ends, and not before. -/
theorem settled_step {event : Event} (settled : Settled state) (taken : step cfg state event = some next) :
    Settled next := by
  cases step_moved taken with
  | arrived =>
    intro stage member
    obtain old | new := List.mem_append.mp member
    · exact settled stage old
    · cases List.mem_singleton.mp new
      rfl
  | quiet found same => exact settled_move settled (same settled).settled
  | taken | leaked | admitted | granted | stray => exact settled_move settled rfl
  | released found held kept =>
    unfold Settled
    simp only [State.move, State.release_requests]
    exact settled_move settled kept
  | decremented | recovered | expired => exact settled

end Inversion

section Memory
variable {cfg : GatewayInFlightLimitConfig}

/-- The process counts the slots that are held and those that were abandoned. -/
def Balanced (state : State) (surplus : Nat) : Prop :=
  Settled state ∧ state.memory = state.requests.countP Stage.holdsMemory + surplus

theorem balanced_step (state : State) (event : Event) (next : State) (surplus : Nat)
    (balanced : Balanced state surplus) (taken : step cfg state event = some next) :
    Balanced next (surplus + if abandons state event then 1 else 0) := by
  obtain ⟨settled, balanced⟩ := balanced
  refine ⟨settled_step settled taken, ?_⟩
  cases step_moved taken with
  | arrived => simpa [abandons, Stage.holdsMemory, Stage.slot] using balanced
  | quiet found same lowered keeps =>
    simp only [State.move, keeps, Bool.false_eq_true, if_false]
    rw [countP_set_same Stage.holdsMemory found _ (same settled).memory]
    exact balanced
  | taken found free below lowered keeps admitted =>
    simp only [State.move, keeps, Bool.false_eq_true, if_false]
    rw [countP_set_gained Stage.holdsMemory found _ free rfl]
    omega
  | @leaked request found =>
    have abandoned : abandons state (.dropFuture request) = true := by simp [abandons, found]
    have moved := countP_set_lost Stage.holdsMemory found .gone rfl rfl
    simp only [State.move, abandoned, if_true]
    omega
  | admitted found admitted =>
    simp only [State.move, abandons, Bool.false_eq_true, if_false]
    rw [countP_set_same Stage.holdsMemory found (.handling .redis) rfl]
    exact balanced
  | granted configured found below =>
    simp only [State.move, abandons, Bool.false_eq_true, if_false]
    rw [countP_set_same Stage.holdsMemory found (.evaluated true) rfl]
    exact balanced
  | stray configured found raises =>
    simp only [State.move, abandons, Bool.false_eq_true, if_false]
    rw [countP_set_same Stage.holdsMemory found .gone rfl]
    exact balanced
  | @released event request slot before after found held _ free idle keeps =>
    have idle : after.holdsMemory = false := by simp only [Stage.holdsMemory, idle]; rfl
    have held := held settled
    simp only [keeps, Bool.false_eq_true, if_false]
    cases slot with
    | memory =>
      have moved := countP_set_lost Stage.holdsMemory found after (by rw [Stage.holdsMemory, held]; rfl) idle
      simp only [State.move, State.release, MemoryInFlightLimiter.release]
      omega
    | redis =>
      have moved := countP_set_same Stage.holdsMemory found after (by rw [idle, Stage.holdsMemory, held]; rfl)
      simp only [State.move, State.release_requests, State.release_redis_memory]
      omega
  | decremented configured waiting => exact balanced
  | recovered => exact balanced
  | expired configured => exact balanced

/-- No request turns to Redis while the limiter counts in the process. -/
structure InMemory (state : State) : Prop where
  settled : Settled state
  mode : state.useRedis = false
  requests : ∀ stage ∈ state.requests, stage.usesRedis = false

private theorem inMemory_move {requests : List Stage} {request : Nat} {after : Stage}
    (apart : ∀ stage ∈ requests, stage.usesRedis = false) (free : after.usesRedis = false) :
    ∀ stage ∈ requests.set request after, stage.usesRedis = false := by
  intro stage member
  obtain kept | rfl := List.mem_or_eq_of_mem_set member
  · exact apart stage kept
  · exact free

theorem inMemory_step (state : State) (event : Event) (next : State) (memory : InMemory state)
    (stays : event ≠ .recover) (taken : step cfg state event = some next) : InMemory next := by
  obtain ⟨settled, mode, apart⟩ := memory
  have settles := settled_step settled taken
  have none {request : Nat} {before : Stage} (found : state.requests[request]? = some before) :
      before.usesRedis = false := apart before (List.mem_of_getElem? found)
  cases step_moved taken with
  | arrived =>
    refine ⟨settles, mode, ?_⟩
    intro stage member
    obtain kept | new := List.mem_append.mp member
    · exact apart stage kept
    · cases List.mem_singleton.mp new
      rfl
  | @quiet event request before after useRedis found same lowered keeps =>
    refine ⟨settles, ?_, inMemory_move apart ?_⟩
    · exact Bool.eq_false_iff.mpr fun active => absurd (lowered active) (by simp [mode])
    · by_contra uses
      obtain before | active := (same settled).uses (by simpa using uses)
      · rw [none found] at before
        cases before
      · rw [mode] at active
        cases active
  | @taken event request before useRedis found free below lowered keeps admitted =>
    refine ⟨settles, ?_, inMemory_move apart rfl⟩
    exact Bool.eq_false_iff.mpr fun active => absurd (lowered active) (by simp [mode])
  | leaked found => exact ⟨settles, mode, inMemory_move apart rfl⟩
  | admitted found => cases none found
  | granted configured found => cases none found
  | stray configured found => cases none found
  | @released event request slot before after found held _ free idle keeps =>
    refine ⟨settles, ?_, ?_⟩
    · simpa only [State.move, State.release_useRedis] using mode
    · simp only [State.move, State.release_requests]
      exact inMemory_move apart free
  | decremented configured waiting => exact ⟨settles, mode, apart⟩
  | recovered => exact absurd rfl stays
  | expired configured => exact ⟨settles, mode, apart⟩

theorem inMemory_inFlight {state : State} (memory : InMemory state) :
    state.inFlight = state.requests.countP Stage.holdsMemory := by
  apply List.countP_congr
  intro stage member
  have free := memory.requests stage member
  cases stage with
  | handling slot => cases slot <;> simp_all [Stage.holdsMemory, Stage.slot, Stage.usesRedis]
  | responding body ended =>
    obtain ⟨released, slot⟩ := body
    cases ended <;> cases slot <;> simp_all [Stage.holdsMemory, Stage.slot, Stage.usesRedis]
  | _ => simp [Stage.holdsMemory, Stage.slot]

/-- While the limiter counts in the process, its counter is the number of requests in
flight exactly when no handling future was dropped on the way. -/
theorem memory_counter_exact_iff (cfg : GatewayInFlightLimitConfig) (redis : Option Nat) (events : List Event)
    (final : State) (stays : ∀ event ∈ events, event ≠ .recover)
    (ran : run (step cfg) (.start redis false) events = some final) :
    final.memory = final.inFlight ↔
      Along (step cfg) (fun state event => abandons state event = false) (.start redis false) events := by
  have started : InMemory (.start redis false) := ⟨by simp [Settled, State.start], rfl, by simp [State.start]⟩
  have memory : InMemory final := run_invariant inMemory_step started (along_of_forall _ stays) ran
  have empty : Balanced (.start redis false) 0 := ⟨by simp [Settled, State.start], rfl⟩
  have balanced := (run_ledger balanced_step empty ran).2
  rw [inMemory_inFlight memory, ← occurrences_eq_zero_iff]
  omega

/-- Two requests are answered, and one of the bodies is dropped unread. -/
def answered : List Event :=
  [.arrive, .poll 0, .arrive, .poll 1, .respond 0, .pollFrame 0 false, .respond 1, .pollFrame 1 true, .dropBody 1]

theorem answered_counter_exact :
    ((run (step ⟨true, 2⟩) (.start none false) answered).map fun final => (final.memory, final.inFlight)) = some (1, 1) ∧
      ∀ final, run (step ⟨true, 2⟩) (.start none false) answered = some final →
        (final.memory = final.inFlight ↔
          Along (step ⟨true, 2⟩) (fun state event => abandons state event = false) (.start none false) answered) :=
  ⟨by decide, fun final ran => memory_counter_exact_iff ⟨true, 2⟩ none answered final (by decide) ran⟩

/-- The client goes away while its request is handled: the only slot stays taken. -/
theorem dropped_future_keeps_slot :
    ¬ ∀ (cfg : GatewayInFlightLimitConfig) (redis : Option Nat) (events : List Event) (final : State),
      (∀ event ∈ events, event ≠ .recover) → run (step cfg) (.start redis false) events = some final →
        final.memory = final.inFlight := by
  intro exact
  have ran : run (step ⟨true, 1⟩) (.start none false) [.arrive, .poll 0, .dropFuture 0] =
      some ⟨1, none, false, [.gone], 0⟩ := by decide
  have equal := exact ⟨true, 1⟩ none _ _ (by decide) ran
  exact absurd equal (by decide)

end Memory

section Cap
variable {cfg : GatewayInFlightLimitConfig}

/-- The count in Redis answers for every request that claims it and for every release
still to come, unless the key was lost. -/
structure Counted (cfg : GatewayInFlightLimitConfig) (state : State) : Prop where
  settled : Settled state
  held : state.requests.countP Stage.holdsMemory ≤ state.memory
  room : state.memory ≤ cfg.max
  answered : ∀ count, state.redis = some count → state.requests.countP Stage.claims + state.releases ≤ count
  granted : state.requests.countP Stage.claims ≤ cfg.max

/-- Of the requests in flight none has the other store's slot. -/
def Single (state : State) : Prop := state.inFlightIn .memory = 0 ∨ state.inFlightIn .redis = 0

/-- A store admits a request only while none that the other admitted is in flight, and
the key in Redis expires only while it answers for nothing. -/
def OneStore (cfg : GatewayInFlightLimitConfig) (state : State) (event : Event) : Prop :=
  (admits cfg state event = some .memory → state.inFlightIn .redis = 0) ∧
    (admits cfg state event = some .redis → state.inFlightIn .memory = 0) ∧
    (event = .expire → state.requests.countP Stage.claims = 0 ∧ state.releases = 0)

instance (cfg : GatewayInFlightLimitConfig) (state : State) (event : Event) : Decidable (OneStore cfg state event) :=
  inferInstanceAs (Decidable (_ ∧ _ ∧ _))

theorem inFlightIn_redis_le (state : State) : state.inFlightIn .redis ≤ state.requests.countP Stage.claims :=
  List.countP_mono_left fun _ _ redis => redis_claims redis

/-- A move that leaves the counts alone and adds no request to what they answer for. -/
theorem Counted.moved {state next : State} (counted : Counted cfg state) (settled : Settled next)
    (memory : next.requests.countP Stage.holdsMemory ≤ state.requests.countP Stage.holdsMemory)
    (claims : next.requests.countP Stage.claims ≤ state.requests.countP Stage.claims)
    (counter : next.memory = state.memory) (redis : next.redis = state.redis)
    (releases : next.releases = state.releases) : Counted cfg next := by
  obtain ⟨-, held, room, answered, granted⟩ := counted
  refine ⟨settled, by omega, by omega, ?_, by omega⟩
  intro count configured
  have before := answered count (redis.symm.trans configured)
  omega

theorem counted_step (state : State) (event : Event) (next : State) (counted : Counted cfg state)
    (allowed : OneStore cfg state event) (taken : step cfg state event = some next) : Counted cfg next := by
  have kept := counted
  have settles := settled_step counted.settled taken
  obtain ⟨settled, held, room, answered, granted⟩ := counted
  cases step_moved taken with
  | arrived =>
    apply kept.moved settles
    · simp [Stage.holdsMemory, Stage.slot]
    · simp [Stage.claims, Stage.slot]
    all_goals rfl
  | quiet found same lowered keeps =>
    apply kept.moved settles
    · exact Nat.le_of_eq (countP_set_same Stage.holdsMemory found _ (same settled).memory)
    · exact countP_set_le Stage.claims found _ (same settled).claims
    all_goals rfl
  | taken found free below lowered keeps admitted =>
    have memory := countP_set_gained Stage.holdsMemory found (.handling .memory) free rfl
    have claims := countP_set_le Stage.claims found (.handling .memory) nofun
    refine ⟨settles, ?_, below, ?_, ?_⟩
    · simp only [State.move]
      omega
    · intro count configured
      have before := answered count configured
      simp only [State.move]
      omega
    · exact Nat.le_trans claims granted
  | leaked found =>
    apply kept.moved settles
    · exact countP_set_le Stage.holdsMemory found .gone nofun
    · exact countP_set_le Stage.claims found .gone nofun
    all_goals rfl
  | admitted found admitted =>
    apply kept.moved settles
    · exact countP_set_le Stage.holdsMemory found (.handling .redis) nofun
    · exact countP_set_le Stage.claims found (.handling .redis) fun _ => rfl
    all_goals rfl
  | @granted request count configured found below =>
    have memory := countP_set_same Stage.holdsMemory found (.evaluated true) rfl
    have claims := countP_set_gained Stage.claims found (.evaluated true) rfl rfl
    have before := answered count configured
    refine ⟨settles, Nat.le_trans (Nat.le_of_eq memory) held, room, ?_, ?_⟩
    · intro raised same
      cases same
      simp only [State.move]
      omega
    · simp only [State.move]
      omega
  | @stray request count raised configured found raises =>
    have memory := countP_set_same Stage.holdsMemory found .gone rfl
    have claims := countP_set_same Stage.claims found .gone rfl
    have before := answered count configured
    refine ⟨settles, Nat.le_trans (Nat.le_of_eq memory) held, room, ?_, Nat.le_trans (Nat.le_of_eq claims) granted⟩
    intro other same
    cases same
    simp only [State.move]
    omega
  | @released event request slot before after found slotted _ free idle keeps =>
    have slotted := slotted settled
    have unclaimed : after.claims = true → False := fun claims => by rw [claims_uses claims] at free; cases free
    have idle : after.holdsMemory = false := by simp only [Stage.holdsMemory, idle]; rfl
    cases slot with
    | memory =>
      have memory := countP_set_lost Stage.holdsMemory found after (holdsMemory_of_slot slotted) idle
      have claims := countP_set_le Stage.claims found after fun claims => (unclaimed claims).elim
      refine ⟨settles, ?_, ?_, ?_, Nat.le_trans claims granted⟩
      · simp only [State.move, State.release, MemoryInFlightLimiter.release]
        omega
      · simp only [State.move, State.release, MemoryInFlightLimiter.release]
        omega
      · intro count configured
        have before := answered count configured
        simp only [State.move, State.release]
        omega
    | redis =>
      have memory := countP_set_same Stage.holdsMemory found after (idle.trans (holdsMemory_of_slot slotted).symm)
      have claims := countP_set_lost Stage.claims found after (claims_of_slot slotted) (Bool.eq_false_iff.mpr unclaimed)
      refine ⟨settles, ?_, ?_, ?_, ?_⟩
      · simp only [State.move, State.release_requests, State.release_redis_memory]
        omega
      · simpa only [State.move, State.release_redis_memory] using room
      · intro count configured
        simp only [State.move, State.release_redis] at configured
        have before := answered count configured
        simp only [State.move, State.release, configured, Option.isSome_some, if_true]
        omega
      · simp only [State.move, State.release_requests]
        omega
  | @decremented executed count pending configured waiting =>
    have before := answered count configured
    refine ⟨settles, held, room, ?_, granted⟩
    intro lowered same
    cases same
    simp only [decrFloor]
    split
    · rw [if_pos (by omega)]
      omega
    · omega
  | recovered => exact kept.moved settles Nat.le.refl Nat.le.refl rfl rfl rfl
  | expired configured =>
    obtain ⟨none, done⟩ := allowed.2.2 rfl
    refine ⟨settles, held, room, ?_, granted⟩
    intro count same
    cases same
    simp only
    omega

private theorem single_of_le {state next : State} (single : Single state)
    (memory : next.inFlightIn .memory ≤ state.inFlightIn .memory)
    (redis : next.inFlightIn .redis ≤ state.inFlightIn .redis) : Single next := by
  unfold Single at single ⊢
  omega

theorem single_step (state : State) (event : Event) (next : State) (settled : Settled state) (single : Single state)
    (allowed : OneStore cfg state event) (taken : step cfg state event = some next) : Single next := by
  cases step_moved taken with
  | arrived => exact single_of_le single (by simp [State.inFlightIn, Stage.slot]) (by simp [State.inFlightIn, Stage.slot])
  | quiet found same lowered keeps =>
    apply single_of_le single
    · exact Nat.le_of_eq (countP_set_same Stage.holdsMemory found _ (same settled).memory)
    · exact countP_set_le _ found _ (same settled).redis
  | taken found free below lowered keeps admitted =>
    have none := allowed.1 admitted
    have redis := countP_set_le (fun stage => stage.slot == some .redis) found (.handling .memory) nofun
    exact .inr (Nat.le_zero.mp (Nat.le_trans redis (Nat.le_of_eq none)))
  | leaked found =>
    apply single_of_le single
    · exact countP_set_le _ found .gone nofun
    · exact countP_set_le _ found .gone nofun
  | admitted found admitted =>
    have none := allowed.2.1 admitted
    have memory := countP_set_le (fun stage => stage.slot == some .memory) found (.handling .redis) nofun
    exact .inl (Nat.le_zero.mp (Nat.le_trans memory (Nat.le_of_eq none)))
  | granted configured found below =>
    apply single_of_le single
    · exact countP_set_le _ found (.evaluated true) nofun
    · exact countP_set_le _ found (.evaluated true) nofun
  | stray configured found raises =>
    apply single_of_le single
    · exact countP_set_le _ found .gone nofun
    · exact countP_set_le _ found .gone nofun
  | @released event request slot before after found slotted _ free idle keeps =>
    have none (slot : HeldSlot) : (after.slot == some slot) = true → False := by simp [idle]
    apply single_of_le single
    · simp only [State.inFlightIn, State.move, State.release_requests]
      exact countP_set_le _ found after fun held => (none _ held).elim
    · simp only [State.inFlightIn, State.move, State.release_requests]
      exact countP_set_le _ found after fun held => (none _ held).elim
  | decremented configured waiting => exact single
  | recovered => exact single
  | expired configured => exact single

theorem inFlight_eq (state : State) : state.inFlight = state.inFlightIn .memory + state.inFlightIn .redis := by
  unfold State.inFlight State.inFlightIn
  induction state.requests with
  | nil => rfl
  | cons stage rest ih =>
    rw [List.countP_cons, List.countP_cons, List.countP_cons, ih]
    rcases stage.slot with _ | slot
    · simp
    · cases slot <;> simp <;> omega

/-- The cap holds in every state of a run in which the two stores never admit side by
side and the key in Redis is not lost while it is needed. -/
theorem in_flight_capped (cfg : GatewayInFlightLimitConfig) (redis : Option Nat) (useRedis : Bool)
    (events : List Event) (final : State) (ran : run (step cfg) (.start redis useRedis) events = some final)
    (allowed : Along (step cfg) (OneStore cfg) (.start redis useRedis) events) : final.inFlight ≤ cfg.max := by
  have started : Counted cfg (.start redis useRedis) :=
    ⟨by simp [Settled, State.start], Nat.le.refl, Nat.zero_le _, fun _ _ => Nat.zero_le _, Nat.zero_le _⟩
  have kept : ∀ state event next, Counted cfg state ∧ Single state → OneStore cfg state event →
      step cfg state event = some next → Counted cfg next ∧ Single next := by
    rintro state event next ⟨counted, single⟩ allowed taken
    exact ⟨counted_step state event next counted allowed taken,
      single_step state event next counted.settled single allowed taken⟩
  obtain ⟨counted, single⟩ := run_invariant kept ⟨started, .inl rfl⟩ allowed ran
  have memory : final.inFlightIn .memory ≤ cfg.max := Nat.le_trans counted.held counted.room
  have redis := Nat.le_trans (inFlightIn_redis_le final) counted.granted
  rw [inFlight_eq]
  obtain none | none := single
  · omega
  · omega

/-- Redis admits a request and gets its slot back; after that it fails, and the process
admits the next one. -/
def failsWhenIdle : List Event :=
  [.arrive, .poll 0, .runScript 0, .reply 0 true, .respond 0, .dropBody 0, .decrement true,
    .arrive, .poll 1, .reply 1 false]

theorem failsWhenIdle_capped :
    ((run (step ⟨true, 1⟩) (.start (some 0) true) failsWhenIdle).map State.inFlight) = some 1 ∧
      ∀ final, run (step ⟨true, 1⟩) (.start (some 0) true) failsWhenIdle = some final →
        final.inFlight ≤ (⟨true, 1⟩ : GatewayInFlightLimitConfig).max :=
  ⟨by decide, fun final ran => in_flight_capped ⟨true, 1⟩ (some 0) true failsWhenIdle final ran (by decide)⟩

/-- Redis fails while the request it admitted is still handled. -/
theorem failover_exceeds_cap :
    ¬ ∀ (cfg : GatewayInFlightLimitConfig) (redis : Option Nat) (useRedis : Bool) (events : List Event) (final : State),
      run (step cfg) (.start redis useRedis) events = some final → final.inFlight ≤ cfg.max := by
  intro capped
  have ran : run (step ⟨true, 1⟩) (.start (some 0) true)
      [.arrive, .poll 0, .runScript 0, .reply 0 true, .arrive, .poll 1, .reply 1 false] =
        some ⟨1, some 1, false, [.handling .redis, .handling .memory], 0⟩ := by decide
  exact absurd (capped ⟨true, 1⟩ (some 0) true _ _ ran) (by decide)

end Cap

end AiGateway.InFlightLimit
