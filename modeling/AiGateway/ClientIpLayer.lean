import AiGateway.ClientIpLimit

/-! The layer in front of the two per-client limiters. A request asks Redis while the flag is
up and the limiter of this process otherwise; an error of Redis lowers the flag, and a ping
in the background raises it. -/

namespace AiGateway.ClientIpLayer

open ClientIpLimit

inductive ClientIpRateLimitBackend where
  | memory
  | redis
  deriving DecidableEq, Repr

structure ClientIpRateLimitConfig where
  enabled : Bool
  requestsPerSecond : UInt32
  backend : ClientIpRateLimitBackend
  deriving DecidableEq, Repr

/-- Where a request stands in `call`. A request that waits for Redis has its script sent
and not run, or run and not answered; when its future is dropped the script sent stays. -/
inductive Stage where
  | arrived (ip : Option IpAddr)
  | evaluating (ip : IpAddr)
  | evaluated (ip : IpAddr) (allowed : Bool)
  | orphaned (ip : IpAddr)
  | passed
  | limited
  | gone
  deriving DecidableEq, Repr

structure State where
  memory : MemoryLimiter.Map
  redis : Option SlidingScript.Keys
  useRedis : Bool
  requests : List Stage

/-- A request arrives with the address it is counted under, or without a socket address.
Every check has the moment at which it is made. -/
inductive Event where
  | arrive (ip : Option IpAddr)
  | poll (request : Nat) (time : Nat)
  | runScript (request : Nat) (time : Nat) (member : String)
  | reply (request : Nat) (delivered : Bool) (time : Nat)
  | dropFuture (request : Nat)
  | tick (pong : Bool)
  deriving DecidableEq, Repr

def State.move (state : State) (request : Nat) (stage : Stage) : State :=
  { state with requests := state.requests.set request stage }

section Steps
variable (firstKey : MemoryLimiter.Map → Option IpAddr) (cfg : ClientIpRateLimitConfig)

/-- `ping` is the answer at startup, which is only asked for with the Redis backend. -/
def new (redis : Option SlidingScript.Keys) (ping : Bool) : State :=
  ⟨[], redis, cfg.enabled && cfg.backend == .redis && redis.isSome && ping, []⟩

def verdict (allowed : Bool) : Stage := if allowed then .passed else .limited

/-- `state.memory.check(ip)`; the limiter was made with at least one request a second. -/
def checkMemory (state : State) (request : Nat) (ip : IpAddr) (time : Nat) : State :=
  let (memory, allowed) := MemoryLimiter.check firstKey (max cfg.requestsPerSecond 1) state.memory ⟨ip, time, ""⟩
  { state with memory := memory }.move request (verdict allowed)

def step (state : State) : Event → Option State
  | .arrive ip => some { state with requests := state.requests ++ [.arrived ip] }
  | .poll request time =>
    match state.requests[request]? with
    | some (.arrived ip) =>
      if !cfg.enabled then some (state.move request .passed)
      else
        match ip with
        | none => some (state.move request .passed)
        | some ip =>
          if state.useRedis && state.redis.isSome then some (state.move request (.evaluating ip))
          else some (checkMemory firstKey cfg state request ip time)
    | _ => none
  | .runScript request time member =>
    match state.redis, state.requests[request]? with
    | some keys, some (.evaluating ip) =>
      let (keys, allowed) := SlidingScript.run cfg.requestsPerSecond keys ⟨ip, time, member⟩
      some ({ state with redis := some keys }.move request (.evaluated ip allowed))
    | some keys, some (.orphaned ip) =>
      some ({ state with redis := some (SlidingScript.run cfg.requestsPerSecond keys ⟨ip, time, member⟩).1 }.move
        request .gone)
    | _, _ => none
  | .reply request delivered time =>
    match state.requests[request]?, delivered with
    | some (.evaluated _ allowed), true => some (state.move request (verdict allowed))
    | some (.evaluating ip), false | some (.evaluated ip _), false =>
      some (checkMemory firstKey cfg { state with useRedis := false } request ip time)
    | _, _ => none
  | .dropFuture request =>
    match state.requests[request]? with
    | some (.evaluating ip) => some (state.move request (.orphaned ip))
    | some (.arrived _) | some (.evaluated _ _) => some (state.move request .gone)
    | _ => none
  -- The task runs whenever Redis is configured, and pings only while the flag is down.
  | .tick pong =>
    if state.redis.isSome then some { state with useRedis := state.useRedis || pong } else none

end Steps

end AiGateway.ClientIpLayer
