import AiGateway.Lib.Windows
import AiGateway.Lib.Runs
import Mathlib.Algebra.Order.Ring.Nat

/-! The per-client limit of requests in one second, twice: over the moments kept in this
process, and over the members of a sorted set in Redis. -/

namespace AiGateway.ClientIpLimit

inductive IpAddr where
  | v4 (address : BitVec 32)
  | v6 (address : BitVec 128)
  deriving DecidableEq, Repr

/-- A request, with the nanosecond at which it is checked. `member` is what the layer has
made up for it, to be unique in the sorted set. -/
structure Request where
  ip : IpAddr
  time : Nat
  member : String
  deriving DecidableEq, Repr

def maxTrackedIps : Nat := 100000

namespace MemoryLimiter

/-- `Duration::from_secs(1)`. -/
def window : Nat := 1000000000

/-- The deques by client; every client is listed once. -/
abbrev Map := List (IpAddr × List Nat)

def deque (map : Map) (ip : IpAddr) : List Nat := (map.lookup ip).getD []

def insert (map : Map) (ip : IpAddr) (deque : List Nat) : Map :=
  map.filter (fun entry => entry.1 != ip) ++ [(ip, deque)]

/-- `firstKey` is the key that the map's iteration comes to first. -/
def evict (firstKey : Map → Option IpAddr) (map : Map) (ip : IpAddr) : Map :=
  if maxTrackedIps ≤ map.length && !(map.any fun entry => entry.1 == ip) then
    match firstKey map with
    | some key => map.filter fun entry => entry.1 != key
    | none => map
  else map

/-- The moments that are not older than the window. -/
def active (now : Nat) (deque : List Nat) : List Nat := deque.dropWhile fun time => window < now - time

/-- The map afterwards, and whether the request is allowed. -/
def check (firstKey : Map → Option IpAddr) (limit : UInt32) (map : Map) (request : Request) : Map × Bool :=
  if limit = 0 then (map, true)
  else
    let map := evict firstKey map request.ip
    let deque := active request.time (deque map request.ip)
    if limit.toNat ≤ min deque.length (2 ^ 32 - 1) then (insert map request.ip deque, false)
    else (insert map request.ip (deque ++ [request.time]), true)

end MemoryLimiter

namespace SlidingScript

/-- The argument that the layer gives for the window, in milliseconds. -/
def window : Nat := 1000

/-- The members of a key with their scores, and when the key expires. -/
structure SortedSet where
  members : List (String × Nat)
  expireAt : Nat

def SortedSet.empty : SortedSet := ⟨[], 0⟩

abbrev Keys := IpAddr → SortedSet

/-- The script's clock, from the seconds and microseconds of `TIME`. -/
def now (time : Nat) : Nat :=
  let seconds := time / 1000000000
  let microseconds := time % 1000000000 / 1000
  seconds * 1000 + microseconds / 1000

/-- What is left of the set when it is read at `now`, and then after `ZREMRANGEBYSCORE`
from minus infinity to `now - window`. -/
def remaining (set : SortedSet) (now : Nat) : List (String × Nat) :=
  let members := if set.expireAt < now then [] else set.members
  members.filter fun entry => ¬ (entry.2 : Int) ≤ now - window

/-- `ZADD`: a member that is present gets the new score. -/
def zadd (members : List (String × Nat)) (member : String) (score : Nat) : List (String × Nat) :=
  members.filter (fun entry => entry.1 != member) ++ [(member, score)]

/-- `client_ip_sliding.lua`: the keys afterwards, and whether the request is allowed. -/
def run (limit : UInt32) (keys : Keys) (request : Request) : Keys × Bool :=
  let now := now request.time
  let set := keys request.ip
  let members := remaining set now
  if limit.toNat ≤ members.length then (Function.update keys request.ip ⟨members, set.expireAt⟩, false)
  else (Function.update keys request.ip ⟨zadd members request.member now, now + window + 1000⟩, true)

end SlidingScript

section Decisions
variable (firstKey : MemoryLimiter.Map → Option IpAddr) (limit : UInt32)

/-- A limiter's answers to a sequence of requests. -/
def decisions {σ : Type} (check : σ → Request → σ × Bool) : σ → List Request → List Bool
  | _, [] => []
  | state, request :: rest => (check state request).2 :: decisions check (check state request).1 rest

def memoryDecisions (requests : List Request) : List Bool :=
  decisions (MemoryLimiter.check firstKey limit) [] requests

def redisDecisions (requests : List Request) : List Bool :=
  decisions (SlidingScript.run limit) (fun _ => .empty) requests

end Decisions

end AiGateway.ClientIpLimit
