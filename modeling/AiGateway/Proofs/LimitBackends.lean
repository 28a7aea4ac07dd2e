import AiGateway.Proofs.InFlight
import AiGateway.ClientIpLayer
import AiGateway.Lib.Switches

/-! Which store the two limit layers ask, over whole runs. A request asks Redis only while the
flag is up; the background ping raises it wherever Redis is configured, whatever backend the
layer is configured for. -/

namespace AiGateway.InFlightLimit

open Lib.Runs Lib.Switches

/-- A request that waits for an answer of Redis. -/
def Stage.waits : Stage → Bool
  | .evaluating | .evaluated _ => true
  | _ => false

/-- Requests wait for Redis only in an enabled layer with Redis behind it. -/
def Backed (cfg : GatewayInFlightLimitConfig) (state : State) : Prop :=
  ∀ stage ∈ state.requests, stage.waits = true → cfg.enabled = true ∧ state.redis.isSome = true

section Step
variable {cfg : GatewayInFlightLimitConfig} {state next : State}

theorem Backed.moved (backed : Backed cfg state) {request : Nat} {stage : Stage}
    (set : next.requests = state.requests.set request stage) (kept : next.redis.isSome = state.redis.isSome)
    (fine : stage.waits = true → cfg.enabled = true ∧ state.redis.isSome = true) : Backed cfg next := by
  intro other member waits
  rw [set] at member
  rw [kept]
  obtain old | rfl := List.mem_or_eq_of_mem_set member
  · exact backed other old waits
  · exact fine waits

theorem Backed.settled (backed : Backed cfg state) {request : Nat} {stage : Stage}
    (set : next.requests = state.requests.set request stage) (kept : next.redis.isSome = state.redis.isSome)
    (silent : stage.waits = false) : Backed cfg next := by
  apply backed.moved set kept
  intro waits
  rw [silent] at waits
  cases waits

theorem Backed.unmoved (backed : Backed cfg state) (same : next.requests = state.requests)
    (kept : next.redis.isSome = state.redis.isSome) : Backed cfg next := by
  intro stage member waits
  rw [same] at member
  rw [kept]
  exact backed stage member waits

theorem Backed.acquireMemory (backed : Backed cfg state) (useRedis : Bool) (request : Nat) :
    Backed cfg (acquireMemory cfg { state with useRedis := useRedis } request) := by
  rw [InFlightLimit.acquireMemory]
  split
  · exact backed.settled rfl rfl rfl
  · exact backed.settled rfl rfl rfl

theorem Backed.releaseAny (backed : Backed cfg state) (slot : Option HeldSlot) : Backed cfg (state.releaseAny slot) := by
  cases slot with
  | none => exact backed
  | some slot => exact backed.unmoved (state.release_requests slot) (congrArg Option.isSome (state.release_redis slot))

theorem backed_step (state : State) (event : Event) (next : State) (backed : Backed cfg state)
    (taken : step cfg state event = some next) : Backed cfg next := by
  cases event with
  | arrive =>
    cases taken
    intro stage member waits
    obtain old | new := List.mem_append.mp member
    · exact backed stage old waits
    · rw [List.mem_singleton.mp new] at waits
      cases waits
  | poll request =>
    dsimp only [step] at taken
    split at taken
    next =>
      split at taken
      next => cases taken; exact backed.settled rfl rfl rfl
      next enabled =>
        split at taken
        next active =>
          cases taken
          have on : cfg.enabled = true := by simpa using enabled
          exact backed.moved rfl rfl fun _ => ⟨on, (Bool.and_eq_true_iff.mp active).2⟩
        next => cases taken; exact backed.acquireMemory state.useRedis request
    next => cases taken
  | runScript request =>
    simp only [step] at taken
    split at taken
    next count configured found =>
      cases taken
      exact backed.moved rfl (by rw [configured]; rfl) fun _ => backed _ (List.mem_of_getElem? found) rfl
    next count configured found => cases taken; exact backed.settled rfl (by rw [configured]; rfl) rfl
    next => cases taken
  | reply request delivered =>
    dsimp only [step] at taken
    split at taken
    next granted found =>
      cases taken
      cases granted
      · exact backed.settled rfl rfl rfl
      · exact backed.settled rfl rfl rfl
    next => cases taken; exact backed.acquireMemory false request
    next => cases taken; exact backed.acquireMemory false request
    next => cases taken
  | respond request =>
    dsimp only [step] at taken
    split at taken
    next => cases taken; exact backed.settled rfl rfl rfl
    next => cases taken
  | dropFuture request =>
    dsimp only [step] at taken
    split at taken
    all_goals cases taken
    all_goals exact backed.settled rfl rfl rfl
  | pollFrame request terminate =>
    dsimp only [step] at taken
    split at taken
    next body ended found =>
      cases taken
      exact (backed.releaseAny (body.pollFrame terminate).2).settled rfl rfl rfl
    next => cases taken
  | dropBody request =>
    dsimp only [step] at taken
    split at taken
    next body ended found => cases taken; exact (backed.releaseAny body.drop).settled rfl rfl rfl
    next => cases taken
  | decrement executed =>
    dsimp only [step] at taken
    split at taken
    next count pending configured _ => cases taken; exact backed.unmoved rfl (by rw [configured]; rfl)
    next => cases taken
  | recover =>
    dsimp only [step] at taken
    split at taken
    next => cases taken; exact backed.unmoved rfl rfl
    next => cases taken
  | expire =>
    dsimp only [step] at taken
    split at taken
    next configured => cases taken; exact backed.unmoved rfl (by rw [configured]; rfl)
    next => cases taken

theorem configured_step {event : Event} (taken : step cfg state event = some next) :
    next.redis.isSome = state.redis.isSome := by
  cases step_moved taken with
  | granted configured | stray configured | decremented configured | expired configured =>
    rw [configured]
    rfl
  | released => exact congrArg Option.isSome (state.release_redis _)
  | _ => rfl

/-- Nothing but an answered ping raises the flag. -/
theorem lowered_step (state : State) (event : Event) (next : State) (down : state.useRedis = false)
    (unanswered : event ≠ .recover) (taken : step cfg state event = some next) : next.useRedis = false := by
  cases step_moved taken with
  | quiet found same lowered | taken found free below lowered =>
    apply Bool.eq_false_iff.mpr
    intro raised
    rw [lowered raised] at down
    cases down
  | released => exact (state.release_useRedis _).trans down
  | recovered => exact absurd rfl unanswered
  | _ => exact down

theorem acquireMemory_useRedis (request : Nat) : (acquireMemory cfg state request).useRedis = state.useRedis := by
  rw [acquireMemory]
  split <;> rfl

theorem failure_lowers {request : Nat} (taken : step cfg state (.reply request false) = some next) :
    next.useRedis = false := by
  dsimp only [step] at taken
  split at taken
  next impossible => cases impossible
  next => cases taken; exact acquireMemory_useRedis request
  next => cases taken; exact acquireMemory_useRedis request
  next => cases taken

theorem reply_waits {request : Nat} {delivered : Bool} (taken : step cfg state (.reply request delivered) = some next) :
    ∃ stage ∈ state.requests, stage.waits = true := by
  dsimp only [step] at taken
  split at taken
  next found => exact ⟨_, List.mem_of_getElem? found, rfl⟩
  next found => exact ⟨_, List.mem_of_getElem? found, rfl⟩
  next found => exact ⟨_, List.mem_of_getElem? found, rfl⟩
  next => cases taken

end Step

section Run
variable (cfg : GatewayInFlightLimitConfig) (backend : GatewayInFlightBackend) (redis : Option Nat)

/-- The layer as a switch between Redis and the count of this process. -/
def layerSwitch : Switch State Event where
  step := step cfg
  serving := cfg.enabled
  present state := state.redis.isSome
  up := State.useRedis
  waiting state := ∃ stage ∈ state.requests, stage.waits = true
  answer event := ∃ request, event = .reply request true
  failure event := ∃ request, event = .reply request false
  probe event := event = .recover

theorem layerSwitch_lawful : (layerSwitch cfg).Lawful where
  present _ _ _ taken := configured_step taken
  backed state event next backed taken := by
    intro ⟨stage, member, waits⟩
    exact backed_step state event next (fun other inside waits => backed ⟨other, inside, waits⟩) taken stage member waits
  answered _ _ _ taken answer := by
    obtain ⟨request, rfl⟩ := answer
    exact reply_waits taken
  failed _ _ _ taken failure := by
    obtain ⟨request, rfl⟩ := failure
    exact ⟨reply_waits taken, failure_lowers taken⟩
  lowered := lowered_step

/-- No answer of Redis is taken in any run. -/
def NeverRedis : Prop := ∀ ping events final, run (step cfg) (new cfg backend redis ping) events = some final →
  ∀ request, .reply request true ∉ events

/-- The flag is down; the next ping that is answered raises it, and requests ask Redis again. -/
def Regains (state : State) : Prop :=
  state.useRedis = false ∧ ∃ next, step cfg state .recover = some next ∧ next.useRedis = true ∧
    ∀ request, next.requests[request]? = some .arrived → step cfg next (.poll request) = some (next.move request .evaluating)

/-- After an error of Redis, and after a startup without it, up to the next ping answered. -/
structure Restored : Prop where
  failed : ∀ ping before request after state,
    run (step cfg) (new cfg backend redis ping) (before ++ .reply request false :: after) = some state →
      .recover ∉ after → Regains cfg state
  started : cfg.enabled = true → redis.isSome = true → ∀ events state,
    run (step cfg) (new cfg backend redis false) events = some state → .recover ∉ events → Regains cfg state

variable {cfg backend redis}

theorem new_backed (ping : Bool) : (layerSwitch cfg).Backed (new cfg backend redis ping) :=
  fun waiting => absurd waiting.choose_spec.1 List.not_mem_nil

theorem regains {state : State} (down : state.useRedis = false) (enabled : cfg.enabled = true)
    (configured : state.redis.isSome = true) : Regains cfg state := by
  refine ⟨down, { state with useRedis := true }, ?_, rfl, ?_⟩
  · simp [step, down, configured]
  · intro request arrived
    simp only [step, arrived, enabled, configured]
    rfl

theorem restored : Restored cfg backend redis where
  failed ping before request after state ran unanswered := by
    have silent : ∀ later ∈ after, ¬ (layerSwitch cfg).probe later := by
      rintro later member rfl
      exact unanswered member
    obtain ⟨down, enabled, configured⟩ :=
      (layerSwitch_lawful cfg).after_failure (new_backed ping) ran ⟨request, rfl⟩ silent
    exact regains down enabled configured
  started enabled configured events state ran unanswered := by
    have silent : ∀ later ∈ events, ¬ (layerSwitch cfg).probe later := by
      rintro later member rfl
      exact unanswered member
    have startsDown : (layerSwitch cfg).up (new cfg backend redis false) = false := Bool.and_false _
    have down := (layerSwitch_lawful cfg).down_run startsDown silent ran
    have present := (layerSwitch_lawful cfg).present_run ran
    exact regains down enabled (present.trans configured)

/-- The first ping that is answered, and one request after it. -/
def askingRedis : List Event := [.recover, .arrive, .poll 0, .runScript 0, .reply 0 true]

theorem askingRedis_runs (enabled : cfg.enabled = true) (count : Nat) (ping : Bool) :
    ∃ final, run (step cfg) (new cfg .memory (some count) ping) askingRedis = some final := by
  simp [askingRedis, run, step, new, State.start, State.move, enabled]

/-- With the memory backend the layer keeps off Redis exactly when it has to. -/
theorem neverRedis_iff : NeverRedis cfg .memory redis ↔ cfg.enabled = false ∨ redis = none := by
  constructor
  · intro never
    by_contra asked
    obtain ⟨enabled, configured⟩ := not_or.mp asked
    obtain ⟨count, rfl⟩ := Option.ne_none_iff_exists'.mp configured
    have on : cfg.enabled = true := by simpa using enabled
    obtain ⟨final, ran⟩ := askingRedis_runs on count false
    exact never false askingRedis final ran 0 (by simp [askingRedis])
  · intro apart ping events final ran request member
    have idle : (layerSwitch cfg).serving = false ∨ (layerSwitch cfg).present (new cfg .memory redis ping) = false := by
      apply apart.imp id
      rintro rfl
      rfl
    exact (layerSwitch_lawful cfg).never_answered (new_backed ping) idle ran member ⟨request, rfl⟩

end Run

end AiGateway.InFlightLimit

namespace AiGateway.ClientIpLayer

open Lib.Runs Lib.Switches ClientIpLimit

def Stage.waits : Stage → Bool
  | .evaluating _ | .evaluated _ _ => true
  | _ => false

section Step
variable {firstKey : MemoryLimiter.Map → Option IpAddr} {cfg : ClientIpRateLimitConfig} {state next : State}

/-- Everything a step can do to the flag, to Redis and to who waits for it. -/
inductive Moved (cfg : ClientIpRateLimitConfig) (state : State) : Event → State → Prop where
  | arrived {ip : Option IpAddr} : Moved cfg state (.arrive ip) { state with requests := state.requests ++ [.arrived ip] }
  | asked {request time : Nat} {ip : IpAddr} (enabled : cfg.enabled = true) (configured : state.redis.isSome = true) :
      Moved cfg state (.poll request time) (state.move request (.evaluating ip))
  | checked {event : Event} {request : Nat} {stage : Stage} {memory : MemoryLimiter.Map} (silent : stage.waits = false)
      (unanswered : ∀ request delivered time, event ≠ .reply request delivered time) :
      Moved cfg state event ({ state with memory := memory }.move request stage)
  | ran {request time : Nat} {member : String} {ip : IpAddr} {keys : SlidingScript.Keys} {allowed : Bool}
      (configured : state.redis.isSome = true) (found : state.requests[request]? = some (.evaluating ip)) :
      Moved cfg state (.runScript request time member)
        ({ state with redis := some keys }.move request (.evaluated ip allowed))
  | strayed {request time : Nat} {member : String} {keys : SlidingScript.Keys} (configured : state.redis.isSome = true) :
      Moved cfg state (.runScript request time member) ({ state with redis := some keys }.move request .gone)
  | answered {request time : Nat} {waiting stage : Stage} (found : state.requests[request]? = some waiting)
      (waits : waiting.waits = true) (silent : stage.waits = false) :
      Moved cfg state (.reply request true time) (state.move request stage)
  | failed {request time : Nat} {waiting stage : Stage} {memory : MemoryLimiter.Map}
      (found : state.requests[request]? = some waiting) (waits : waiting.waits = true) (silent : stage.waits = false) :
      Moved cfg state (.reply request false time) ({ state with memory := memory, useRedis := false }.move request stage)
  | ticked {pong : Bool} : Moved cfg state (.tick pong) { state with useRedis := state.useRedis || pong }

theorem verdict_silent (allowed : Bool) : (verdict allowed).waits = false := by cases allowed <;> rfl

theorem step_moved {event : Event} (taken : step firstKey cfg state event = some next) : Moved cfg state event next := by
  cases event with
  | arrive ip => cases taken; exact .arrived
  | poll request time =>
    dsimp only [step] at taken
    split at taken
    next ip found =>
      split at taken
      next => cases taken; exact .checked rfl nofun
      next enabled =>
        split at taken
        next => cases taken; exact .checked rfl nofun
        next ip =>
          split at taken
          next active =>
            cases taken
            exact .asked (by simpa using enabled) (Bool.and_eq_true_iff.mp active).2
          next => cases taken; exact .checked (verdict_silent _) nofun
    next => cases taken
  | runScript request time member =>
    dsimp only [step] at taken
    split at taken
    next keys ip configured found => cases taken; exact .ran (by rw [configured]; rfl) found
    next keys ip configured found => cases taken; exact .strayed (by rw [configured]; rfl)
    next => cases taken
  | reply request delivered time =>
    dsimp only [step] at taken
    split at taken
    next found => cases taken; exact .answered found rfl (verdict_silent _)
    next found => cases taken; exact .failed found rfl (verdict_silent _)
    next found => cases taken; exact .failed found rfl (verdict_silent _)
    next => cases taken
  | dropFuture request =>
    dsimp only [step] at taken
    split at taken
    next => cases taken; exact .checked rfl nofun
    next => cases taken; exact .checked rfl nofun
    next => cases taken; exact .checked rfl nofun
    next => cases taken
  | tick pong =>
    dsimp only [step] at taken
    split at taken
    next => cases taken; exact .ticked
    next => cases taken

theorem reply_waits {request : Nat} {delivered : Bool} {time : Nat}
    (taken : step firstKey cfg state (.reply request delivered time) = some next) :
    ∃ stage ∈ state.requests, stage.waits = true := by
  cases step_moved taken with
  | checked silent unanswered => exact absurd rfl (unanswered request delivered time)
  | answered found waits => exact ⟨_, List.mem_of_getElem? found, waits⟩
  | failed found waits => exact ⟨_, List.mem_of_getElem? found, waits⟩

theorem failure_lowers {request time : Nat} (taken : step firstKey cfg state (.reply request false time) = some next) :
    next.useRedis = false := by
  cases step_moved taken with
  | checked silent unanswered => exact absurd rfl (unanswered request false time)
  | failed => rfl

end Step

section Run
variable (firstKey : MemoryLimiter.Map → Option IpAddr) (cfg : ClientIpRateLimitConfig) (redis : Option SlidingScript.Keys)

def layerSwitch : Switch State Event where
  step := step firstKey cfg
  serving := cfg.enabled
  present state := state.redis.isSome
  up := State.useRedis
  waiting state := ∃ stage ∈ state.requests, stage.waits = true
  answer event := ∃ request time, event = .reply request true time
  failure event := ∃ request time, event = .reply request false time
  probe event := event = .tick true

variable {firstKey cfg redis}

/-- Who waits afterwards waited before, or is the one that asks now. -/
theorem waiting_set {state : State} {request : Nat} {stage : Stage} (silent : stage.waits = false)
    (waiting : ∃ other ∈ state.requests.set request stage, other.waits = true) :
    ∃ other ∈ state.requests, other.waits = true := by
  obtain ⟨other, member, waits⟩ := waiting
  obtain old | rfl := List.mem_or_eq_of_mem_set member
  · exact ⟨other, old, waits⟩
  · rw [silent] at waits
    cases waits

theorem backed_step (state : State) (event : Event) (next : State) (backed : (layerSwitch firstKey cfg).Backed state)
    (taken : step firstKey cfg state event = some next) : (layerSwitch firstKey cfg).Backed next := by
  cases step_moved taken with
  | arrived =>
    intro ⟨stage, member, waits⟩
    obtain old | new := List.mem_append.mp member
    · exact backed ⟨stage, old, waits⟩
    · rw [List.mem_singleton.mp new] at waits
      cases waits
  | asked enabled configured => exact fun _ => ⟨enabled, configured⟩
  | checked silent => exact fun waiting => backed (waiting_set silent waiting)
  | ran configured found => exact fun _ => ⟨(backed ⟨_, List.mem_of_getElem? found, rfl⟩).1, rfl⟩
  | strayed => exact fun waiting => ⟨(backed (waiting_set rfl waiting)).1, rfl⟩
  | answered found waits silent => exact fun waiting => backed (waiting_set silent waiting)
  | failed found waits silent => exact fun waiting => backed (waiting_set silent waiting)
  | ticked => exact backed

theorem layerSwitch_lawful (firstKey : MemoryLimiter.Map → Option IpAddr) (cfg : ClientIpRateLimitConfig) :
    (layerSwitch firstKey cfg).Lawful where
  present state event next taken := by
    cases step_moved taken with
    | ran configured | strayed configured => exact configured.symm
    | _ => rfl
  backed := backed_step
  answered state event next taken answer := by
    obtain ⟨request, time, rfl⟩ := answer
    exact reply_waits taken
  failed state event next taken failure := by
    obtain ⟨request, time, rfl⟩ := failure
    exact ⟨reply_waits taken, failure_lowers taken⟩
  lowered state event next down silent taken := by
    cases step_moved taken with
    | failed => rfl
    | @ticked pong =>
      cases pong with
      | true => exact absurd rfl silent
      | false => exact (Bool.or_false _).trans down
    | _ => exact down

variable (firstKey cfg redis)

/-- No answer of Redis is taken in any run. -/
def NeverRedis : Prop := ∀ ping events final, run (step firstKey cfg) (new cfg redis ping) events = some final →
  ∀ request time, .reply request true time ∉ events

/-- The flag is down; the next ping that is answered raises it, and requests ask Redis again. -/
def Regains (state : State) : Prop :=
  state.useRedis = false ∧ ∃ next, step firstKey cfg state (.tick true) = some next ∧ next.useRedis = true ∧
    ∀ request ip time, next.requests[request]? = some (.arrived (some ip)) →
      step firstKey cfg next (.poll request time) = some (next.move request (.evaluating ip))

/-- After an error of Redis, and after a startup without it, up to the next ping answered. -/
structure Restored : Prop where
  failed : ∀ ping before request time after state,
    run (step firstKey cfg) (new cfg redis ping) (before ++ .reply request false time :: after) = some state →
      .tick true ∉ after → Regains firstKey cfg state
  started : cfg.enabled = true → redis.isSome = true → ∀ events state,
    run (step firstKey cfg) (new cfg redis false) events = some state → .tick true ∉ events → Regains firstKey cfg state

variable {firstKey cfg redis}

theorem new_backed (ping : Bool) : (layerSwitch firstKey cfg).Backed (new cfg redis ping) :=
  fun waiting => absurd waiting.choose_spec.1 List.not_mem_nil

theorem regains {state : State} (down : state.useRedis = false) (enabled : cfg.enabled = true)
    (configured : state.redis.isSome = true) : Regains firstKey cfg state := by
  refine ⟨down, { state with useRedis := true }, ?_, rfl, ?_⟩
  · simp [step, configured]
  · intro request ip time arrived
    simp only [step, arrived, enabled, configured]
    rfl

theorem restored : Restored firstKey cfg redis where
  failed ping before request time after state ran unanswered := by
    have silent : ∀ later ∈ after, ¬ (layerSwitch firstKey cfg).probe later := by
      rintro later member rfl
      exact unanswered member
    obtain ⟨down, enabled, configured⟩ :=
      (layerSwitch_lawful firstKey cfg).after_failure (new_backed ping) ran ⟨request, time, rfl⟩ silent
    exact regains down enabled configured
  started enabled configured events state ran unanswered := by
    have silent : ∀ later ∈ events, ¬ (layerSwitch firstKey cfg).probe later := by
      rintro later member rfl
      exact unanswered member
    have startsDown : (layerSwitch firstKey cfg).up (new cfg redis false) = false := Bool.and_false _
    have down := (layerSwitch_lawful firstKey cfg).down_run startsDown silent ran
    have present := (layerSwitch_lawful firstKey cfg).present_run ran
    exact regains down enabled (present.trans configured)

/-- The first ping that is answered, and one request after it. -/
def askingRedis (ip : IpAddr) : List Event :=
  [.tick true, .arrive (some ip), .poll 0 0, .runScript 0 0 "a", .reply 0 true 0]

theorem askingRedis_runs (enabled : cfg.enabled = true) (keys : SlidingScript.Keys) (ip : IpAddr) (ping : Bool) :
    ∃ final, run (step firstKey cfg) (new cfg (some keys) ping) (askingRedis ip) = some final := by
  simp [askingRedis, run, step, new, State.move, enabled]

/-- With the memory backend the layer keeps off Redis exactly when it has to. -/
theorem neverRedis_iff : NeverRedis firstKey cfg redis ↔ cfg.enabled = false ∨ redis = none := by
  constructor
  · intro never
    by_contra asked
    obtain ⟨enabled, configured⟩ := not_or.mp asked
    obtain ⟨keys, rfl⟩ := Option.ne_none_iff_exists'.mp configured
    have on : cfg.enabled = true := by simpa using enabled
    obtain ⟨final, ran⟩ := askingRedis_runs on keys (.v4 0) false
    exact never false (askingRedis (.v4 0)) final ran 0 0 (by simp [askingRedis])
  · intro apart ping events final ran request time member
    have idle : (layerSwitch firstKey cfg).serving = false ∨
        (layerSwitch firstKey cfg).present (new cfg redis ping) = false := by
      apply apart.imp id
      rintro rfl
      rfl
    exact (layerSwitch_lawful firstKey cfg).never_answered (new_backed ping) idle ran member ⟨request, time, rfl⟩

end Run

end AiGateway.ClientIpLayer

namespace AiGateway.LimitBackends

open ClientIpLimit (MemoryLimiter.Map IpAddr SlidingScript.Keys)
open InFlightLimit (GatewayInFlightLimitConfig GatewayInFlightBackend)
open ClientIpLayer (ClientIpRateLimitConfig)

/-- A layer configured for memory takes no decision from Redis; one configured for Redis goes
back to it with the first ping that is answered after a failure. -/
structure BackendRespected (firstKey : MemoryLimiter.Map → Option IpAddr) (inFlight : GatewayInFlightLimitConfig)
    (backend : GatewayInFlightBackend) (count : Option Nat) (clientIp : ClientIpRateLimitConfig)
    (keys : Option SlidingScript.Keys) : Prop where
  inFlightMemory : backend = .memory → InFlightLimit.NeverRedis inFlight backend count
  clientIpMemory : clientIp.backend = .memory → ClientIpLayer.NeverRedis firstKey clientIp keys
  inFlightRedis : backend = .redis → InFlightLimit.Restored inFlight backend count
  clientIpRedis : clientIp.backend = .redis → ClientIpLayer.Restored firstKey clientIp keys

theorem backend_respected_iff (firstKey : MemoryLimiter.Map → Option IpAddr) (inFlight : GatewayInFlightLimitConfig)
    (backend : GatewayInFlightBackend) (count : Option Nat) (clientIp : ClientIpRateLimitConfig)
    (keys : Option SlidingScript.Keys) :
    BackendRespected firstKey inFlight backend count clientIp keys ↔
      (backend = .memory → inFlight.enabled = false ∨ count = none) ∧
        (clientIp.backend = .memory → clientIp.enabled = false ∨ keys = none) := by
  constructor
  · intro respected
    constructor
    · rintro rfl
      exact InFlightLimit.neverRedis_iff.mp (respected.inFlightMemory rfl)
    · intro memory
      exact ClientIpLayer.neverRedis_iff.mp (respected.clientIpMemory memory)
  · intro ⟨inFlightApart, clientIpApart⟩
    refine ⟨?_, ?_, fun _ => InFlightLimit.restored, fun _ => ClientIpLayer.restored⟩
    · rintro rfl
      exact InFlightLimit.neverRedis_iff.mpr (inFlightApart rfl)
    · intro memory
      exact ClientIpLayer.neverRedis_iff.mpr (clientIpApart memory)

/-- Both layers are configured for memory, and Redis is there for other uses. -/
theorem memory_backends_ask_redis :
    ¬ BackendRespected (fun _ => none) ⟨true, 1⟩ .memory (some 0) ⟨true, 1, .memory⟩ (some fun _ => .empty) := by
  intro respected
  have enabled : (⟨true, 1⟩ : GatewayInFlightLimitConfig).enabled = true := rfl
  obtain ⟨final, ran⟩ := InFlightLimit.askingRedis_runs enabled 0 false
  exact respected.inFlightMemory rfl false InFlightLimit.askingRedis final ran 0 (by simp [InFlightLimit.askingRedis])

end AiGateway.LimitBackends
