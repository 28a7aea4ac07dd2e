import AiGateway.CountedBody
import AiGateway.Lib.Runs

/-! The cap on requests in flight. A request takes a slot before the inner call and gives
it back with its response body. The slots are counted in Redis while Redis answers and in
this process otherwise; an error switches to the process, the background ping back. -/

namespace AiGateway.InFlightLimit

open Lib.Runs

structure GatewayInFlightLimitConfig where
  enabled : Bool
  maxConcurrent : Nat

/-- `cfg.max_concurrent.max(1)`. -/
def GatewayInFlightLimitConfig.max (cfg : GatewayInFlightLimitConfig) : Nat := Max.max cfg.maxConcurrent 1

inductive HeldSlot where
  | memory
  | redis
  deriving DecidableEq, Repr

namespace MemoryInFlightLimiter

/-- The counter after a slot was taken; `none` is the rejection. -/
def tryAcquire (max counter : Nat) : Option Nat :=
  if max = 0 then some counter
  else if max ≤ counter then none
  else some (counter + 1)

def release (counter : Nat) : Nat := counter - 1

end MemoryInFlightLimiter

/-- `acquire_in_flight.lua`: the key's count afterwards, and whether a slot was reserved. -/
def acquireScript (max count : Nat) : Nat × Bool :=
  let n := count + 1
  if max < n then (n - 1, false) else (n, true)

/-- The script of `decr_floor_refresh_ttl`. -/
def decrFloor (count : Nat) : Nat := if 0 < count then count - 1 else count

/-- Where a request stands in `call`. A request that waits for Redis has its script sent
and not run, or run and not answered; when its future is dropped the script sent stays.
`ended` says that the inner body of a response has ended or failed, whatever its wrapper
makes of it. -/
inductive Stage where
  | arrived
  | evaluating
  | evaluated (granted : Bool)
  | orphaned
  | handling (slot : HeldSlot)
  | responding (body : CountedBody HeldSlot) (ended : Bool)
  | passing
  | rejected
  | gone
  deriving DecidableEq, Repr

/-- `redis` is the count under the key, if Redis is configured; a key that does not exist
counts as zero. `releases` are the spawned decrements that have not ended. -/
structure State where
  memory : Nat
  redis : Option Nat
  useRedis : Bool
  requests : List Stage
  releases : Nat
  deriving DecidableEq, Repr

def State.start (redis : Option Nat) (useRedis : Bool) : State := ⟨0, redis, useRedis, [], 0⟩

inductive GatewayInFlightBackend where
  | memory
  | redis
  deriving DecidableEq, Repr

/-- `ping` is the answer at startup, which is only asked for with the Redis backend. -/
def new (cfg : GatewayInFlightLimitConfig) (backend : GatewayInFlightBackend) (redis : Option Nat) (ping : Bool) : State :=
  .start redis (cfg.enabled && backend == .redis && redis.isSome && ping)

/-- `recover` is a ping of the background task that is answered while the flag is down; the
task runs whenever Redis is configured. -/
inductive Event where
  | arrive
  | poll (request : Nat)
  | runScript (request : Nat)
  | reply (request : Nat) (delivered : Bool)
  | respond (request : Nat)
  | dropFuture (request : Nat)
  | pollFrame (request : Nat) (terminate : Bool)
  | dropBody (request : Nat)
  | decrement (executed : Bool)
  | recover
  | expire
  deriving DecidableEq, Repr

namespace State

def move (state : State) (request : Nat) (stage : Stage) : State :=
  { state with requests := state.requests.set request stage }

/-- What `on_release` does for the slot it captured. -/
def release (state : State) : HeldSlot → State
  | .memory => { state with memory := MemoryInFlightLimiter.release state.memory }
  | .redis => if state.redis.isSome then { state with releases := state.releases + 1 } else state

@[simp] theorem release_requests (state : State) (slot : HeldSlot) : (state.release slot).requests = state.requests := by
  cases slot
  · rfl
  · simp only [release]
    split <;> rfl

@[simp] theorem release_redis (state : State) (slot : HeldSlot) : (state.release slot).redis = state.redis := by
  cases slot
  · rfl
  · simp only [release]
    split <;> rfl

@[simp] theorem release_useRedis (state : State) (slot : HeldSlot) : (state.release slot).useRedis = state.useRedis := by
  cases slot
  · rfl
  · simp only [release]
    split <;> rfl

@[simp] theorem release_redis_memory (state : State) : (state.release .redis).memory = state.memory := by
  simp only [release]
  split <;> rfl

def releaseAny (state : State) (slot : Option HeldSlot) : State :=
  match slot with
  | none => state
  | some slot => state.release slot

end State

section Steps
variable (cfg : GatewayInFlightLimitConfig)

/-- `state.memory.try_acquire()`, at the end of the layer's `try_acquire`. -/
def acquireMemory (state : State) (request : Nat) : State :=
  match MemoryInFlightLimiter.tryAcquire cfg.max state.memory with
  | none => state.move request .rejected
  | some memory => { state with memory := memory }.move request (.handling .memory)

def step (state : State) : Event → Option State
  | .arrive => some { state with requests := state.requests ++ [.arrived] }
  | .poll request =>
    match state.requests[request]? with
    | some .arrived =>
      if !cfg.enabled then some (state.move request .passing)
      else if state.useRedis && state.redis.isSome then some (state.move request .evaluating)
      else some (acquireMemory cfg state request)
    | _ => none
  | .runScript request =>
    match state.redis, state.requests[request]? with
    | some count, some .evaluating =>
      let (n, granted) := acquireScript cfg.max count
      some ({ state with redis := some n }.move request (.evaluated granted))
    | some count, some .orphaned =>
      some ({ state with redis := some (acquireScript cfg.max count).1 }.move request .gone)
    | _, _ => none
  | .reply request delivered =>
    match state.requests[request]?, delivered with
    | some (.evaluated granted), true =>
      some (state.move request (if granted then .handling .redis else .rejected))
    | some .evaluating, false | some (.evaluated _), false =>
      some (acquireMemory cfg { state with useRedis := false } request)
    | _, _ => none
  | .respond request =>
    match state.requests[request]? with
    | some (.handling slot) => some (state.move request (.responding (.new slot) false))
    | _ => none
  | .dropFuture request =>
    match state.requests[request]? with
    | some .evaluating => some (state.move request .orphaned)
    | some .arrived | some (.evaluated _) | some (.handling _) | some .passing => some (state.move request .gone)
    | _ => none
  | .pollFrame request terminate =>
    match state.requests[request]? with
    | some (.responding body ended) =>
      let (body, fired) := body.pollFrame terminate
      some ((state.releaseAny fired).move request (.responding body (ended || terminate)))
    | _ => none
  | .dropBody request =>
    match state.requests[request]? with
    | some (.responding body _) => some ((state.releaseAny body.drop).move request .gone)
    | _ => none
  | .decrement executed =>
    match state.redis, state.releases with
    | some count, pending + 1 =>
      some { state with redis := some (if executed then decrFloor count else count), releases := pending }
    | _, _ => none
  | .recover =>
    if state.redis.isSome && !state.useRedis then some { state with useRedis := true } else none
  | .expire =>
    match state.redis with
    | some _ => some { state with redis := some 0 }
    | none => none

end Steps

/-- The slot of a request whose handling future is alive, or whose response body has neither
ended nor been dropped. -/
def Stage.slot : Stage → Option HeldSlot
  | .handling slot => some slot
  | .responding body ended => if ended then none else some body.onRelease
  | _ => none

/-- The admitted requests that are still in flight. -/
def State.inFlight (state : State) : Nat := state.requests.countP fun stage => stage.slot.isSome

def State.inFlightIn (state : State) (slot : HeldSlot) : Nat := state.requests.countP fun stage => stage.slot == some slot

end AiGateway.InFlightLimit
