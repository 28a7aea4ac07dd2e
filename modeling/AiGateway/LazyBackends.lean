import AiGateway.KvCache
import Mathlib.Algebra.GroupWithZero.Nat

/-! The lazy cache backends: the Cloudflare one asks no more for a while after a failure, the
TiKV one connects when it is first asked. Times are nanoseconds of the monotonic clock. -/

namespace AiGateway.LazyBackends

open KvCache

def millis (ms : Nat) : Nat := ms * 1000000

section Backoff

def u32Max : Nat := 4294967295

def u64Max : Nat := 18446744073709551615

/-- A shift by 64 bits and more has no result, the product saturates. -/
def nextDelayMs (failures baseMs capMs maxShift : Nat) : Nat :=
  let shift := min failures maxShift
  let mult := if shift < 64 then 2 ^ shift else u64Max
  min (min (baseMs * mult) u64Max) capMs

def defaultBackoffBaseMs : Nat := 200

def defaultBackoffCapMs : Nat := 30000

def defaultBackoffMaxShift : Nat := 16

def defaultDelayMs (failures : Nat) : Nat :=
  nextDelayMs failures defaultBackoffBaseMs defaultBackoffCapMs defaultBackoffMaxShift

/-- Nothing is asked before `openAt`. -/
structure Gate where
  openAt : Nat
  failures : Nat
  deriving DecidableEq, Repr

namespace Gate

def saturatingSucc (failures : Nat) : Nat := min (failures + 1) u32Max

def terminalCfCooldownMs : Nat := 60000

def registerTransientFailure (gate : Gate) (now : Nat) : Gate :=
  let failures := saturatingSucc gate.failures
  ⟨now + millis (defaultDelayMs failures), failures⟩

def registerTerminalFailure (gate : Gate) (now : Nat) : Gate :=
  ⟨now + millis terminalCfCooldownMs, saturatingSucc gate.failures⟩

def registerSuccess (now : Nat) : Gate := ⟨now, 0⟩

end Gate

/-- The delay doubles with every failure up to the cap; no counter or product comes to saturate. -/
theorem defaultDelayMs_eq (failures : Nat) : defaultDelayMs (min failures u32Max) = min (200 * 2 ^ failures) 30000 := by
  have shift : min (min failures u32Max) 16 = min failures 16 := by
    rw [u32Max]
    omega
  rw [defaultDelayMs, nextDelayMs, defaultBackoffMaxShift, shift, defaultBackoffBaseMs, defaultBackoffCapMs, u64Max]
  rw [if_pos (by omega)]
  obtain few | many := Nat.le_total failures 16
  · have bounded : 2 ^ failures ≤ 2 ^ 16 := Nat.pow_le_pow_right (by omega) few
    rw [Nat.min_eq_left few]
    omega
  · have grown : 2 ^ 16 ≤ 2 ^ failures := Nat.pow_le_pow_right (by omega) many
    rw [Nat.min_eq_right many]
    omega

theorem saturatingSucc_min (failures : Nat) : Gate.saturatingSucc (min failures u32Max) = min (failures + 1) u32Max := by
  rw [Gate.saturatingSucc]
  omega

end Backoff

/-! ## Requests to Cloudflare -/

section Cloudflare

/-- How one request goes: it fails on its way, or there is a status and a body, which may
break off. -/
inductive Reply where
  | transport (message : String)
  | status (code : Nat) (body : Except String (List UInt8))

def isSuccess (code : Nat) : Bool := 200 ≤ code && code < 300

def isServerError (code : Nat) : Bool := 500 ≤ code && code < 600

inductive CfKvErrorKind where
  | transient (status : Option Nat) (message : String)
  | terminal (status : Nat) (message : String)
  deriving DecidableEq, Repr

inductive PutClassifiedError where
  | transientExhausted (message : String)
  | terminal (message : String)
  deriving DecidableEq, Repr

/-- `print` is how a status prints. -/
def getKeyClassified (print : Nat → String) : Reply → Except CfKvErrorKind (Option (List UInt8))
  | .transport message => .error (.transient none message)
  | .status code body =>
    if code = 404 then .ok none
    else if isSuccess code then
      match body with
      | .error message => .error (.transient (some code) message)
      | .ok text => .ok (some text)
    else
      let message := "kv get: " ++ print code
      if isServerError code || code = 429 then .error (.transient (some code) message)
      else if 400 ≤ code then .error (.terminal code message)
      else .error (.transient (some code) message)

/-- The answers after which a put is tried again. -/
def isRetried (code : Nat) : Bool := code = 429 || isServerError code

def maxPutAttempts : Nat := 4

/-- The attempts from the given one on, with the milliseconds that are slept between them. -/
def putWithBackoffClassified (print : Nat → String) (replies : Nat → Reply) (attempt : Nat) :
    List Nat × Except PutClassifiedError Unit :=
  match replies attempt with
  | .transport message => ([], .error (.transientExhausted message))
  | .status code _ =>
    if isSuccess code then ([], .ok ())
    else if isRetried code then
      if maxPutAttempts ≤ attempt + 1 then
        ([], .error (.transientExhausted ("put failed after retries: " ++ print code)))
      else
        let (sleeps, result) := putWithBackoffClassified print replies (attempt + 1)
        (2 ^ (attempt + 1) * 500 :: sleeps, result)
    else ([], .error (.terminal ("put failed: " ++ print code)))
termination_by maxPutAttempts - attempt

/-- A value that is too large is skipped, which counts as written. -/
def putRawClassified (print : Nat → String) (replies : Nat → Reply) (value : List UInt8) : Except PutClassifiedError Unit :=
  if maxKvValueBytes < value.length then .ok () else (putWithBackoffClassified print replies 0).2

end Cloudflare

/-! ## The lazy Cloudflare backend -/

/-- What a request that has come back registers at the gate. -/
inductive Settled where
  | success
  | transient
  | terminal
  deriving DecidableEq, Repr

def Settled.ofGet : Except CfKvErrorKind (Option (List UInt8)) → Settled
  | .ok _ => .success
  | .error (.transient _ _) => .transient
  | .error (.terminal _ _) => .terminal

def Settled.ofPut : Except PutClassifiedError Unit → Settled
  | .ok _ => .success
  | .error (.transientExhausted _) => .transient
  | .error (.terminal _) => .terminal

def Gate.settle (gate : Gate) (now : Nat) : Settled → Gate
  | .success => .registerSuccess now
  | .transient => gate.registerTransientFailure now
  | .terminal => gate.registerTerminalFailure now

namespace LazyCloudflare

/-- A call that finds the gate open at `now` and comes back at `later`, with no other between. -/
def get (print : Nat → String) (gate : Gate) (now later : Nat) (reply : Reply) :
    Gate × Except LlmKvCacheError (Option (List UInt8)) :=
  if now < gate.openAt then (gate, .ok none)
  else
    let read := getKeyClassified print reply
    let result := match read with
      | .ok value => .ok value
      | .error _ => .ok none
    (gate.settle later (.ofGet read), result)

def put (print : Nat → String) (gate : Gate) (now later : Nat) (replies : Nat → Reply) (value : List UInt8) :
    Gate × Except LlmKvCacheError Unit :=
  if now < gate.openAt then (gate, .ok ())
  else (gate.settle later (.ofPut (putRawClassified print replies value)), .ok ())

/-- The gate and the number of requests that are out. -/
structure State where
  gate : Gate
  inFlight : Nat
  deriving DecidableEq, Repr

def State.new (now : Nat) : State := ⟨⟨now, 0⟩, 0⟩

/-- `abandon` is a call whose future is dropped while its request is out. -/
inductive Event where
  | enter (now : Nat) (admitted : Bool)
  | settle (now : Nat) (outcome : Settled)
  | abandon
  deriving DecidableEq, Repr

def step (state : State) : Event → Option State
  | .enter now admitted =>
    if admitted = decide (state.gate.openAt ≤ now) then
      some (if admitted then { state with inFlight := state.inFlight + 1 } else state)
    else none
  | .settle now outcome =>
    match state.inFlight with
    | 0 => none
    | inFlight + 1 => some ⟨state.gate.settle now outcome, inFlight⟩
  | .abandon =>
    match state.inFlight with
    | 0 => none
    | inFlight + 1 => some { state with inFlight }

end LazyCloudflare

/-! ## The lazy TiKV backend -/

namespace LazyTikv

/-- Where a call stands in `ensure_client`. From `locked` to `published` it holds the lock. -/
inductive Phase (γ : Type) where
  | started
  | unconnected
  | locking
  | locked
  | unconnectedLocked
  | connecting
  | connected (client : γ)
  | published (client : γ)
  | returned (client : Option γ)
  | cancelled
  deriving DecidableEq, Repr

structure State (γ : Type) where
  inner : Option γ
  connectLock : Option Nat
  gate : Gate
  calls : List (Phase γ)

def State.new {γ : Type} (now : Nat) : State γ := ⟨none, none, ⟨now, 0⟩, []⟩

/-- The awaits of a call; another call's steps may come between any two of them, and its future
may be dropped at any of them. -/
inductive Event (γ : Type) where
  | enter
  | read (call : Nat)
  | checkGate (call now : Nat)
  | lock (call : Nat)
  | readLocked (call : Nat)
  | checkGateLocked (call now : Nat)
  | connectOk (call : Nat) (client : γ)
  | connectErr (call now : Nat)
  | publish (call : Nat)
  | resetGate (call now : Nat)
  | cancel (call : Nat)
  deriving DecidableEq, Repr

section Steps
variable {γ : Type}

def State.moveTo (state : State γ) (call : Nat) (phase : Phase γ) : State γ :=
  { state with calls := state.calls.set call phase }

/-- The call returns and its guard of the lock is dropped. -/
def State.unlockTo (state : State γ) (call : Nat) (phase : Phase γ) : State γ :=
  { state with connectLock := none, calls := state.calls.set call phase }

def step (state : State γ) : Event γ → Option (State γ)
  | .enter => some { state with calls := state.calls ++ [.started] }
  | .read call =>
    match state.calls[call]? with
    | some .started =>
      match state.inner with
      | some client => some (state.moveTo call (.returned (some client)))
      | none => some (state.moveTo call .unconnected)
    | _ => none
  | .checkGate call now =>
    match state.calls[call]? with
    | some .unconnected =>
      some (state.moveTo call (if now < state.gate.openAt then .returned none else .locking))
    | _ => none
  | .lock call =>
    match state.calls[call]?, state.connectLock with
    | some .locking, none => some { state.moveTo call .locked with connectLock := some call }
    | _, _ => none
  | .readLocked call =>
    match state.calls[call]? with
    | some .locked =>
      match state.inner with
      | some client => some (state.unlockTo call (.returned (some client)))
      | none => some (state.moveTo call .unconnectedLocked)
    | _ => none
  | .checkGateLocked call now =>
    match state.calls[call]? with
    | some .unconnectedLocked =>
      if now < state.gate.openAt then some (state.unlockTo call (.returned none))
      else some (state.moveTo call .connecting)
    | _ => none
  | .connectOk call client =>
    match state.calls[call]? with
    | some .connecting => some (state.moveTo call (.connected client))
    | _ => none
  | .connectErr call now =>
    match state.calls[call]? with
    | some .connecting =>
      some { state.unlockTo call (.returned none) with gate := state.gate.registerTransientFailure now }
    | _ => none
  | .publish call =>
    match state.calls[call]? with
    | some (.connected client) => some { state.moveTo call (.published client) with inner := some client }
    | _ => none
  | .resetGate call now =>
    match state.calls[call]? with
    | some (.published client) =>
      some { state.unlockTo call (.returned (some client)) with gate := .registerSuccess now }
    | _ => none
  | .cancel call =>
    match state.calls[call]? with
    | none | some (.returned _) | some .cancelled => none
    | some _ =>
      some (if state.connectLock = some call then state.unlockTo call .cancelled else state.moveTo call .cancelled)

end Steps

end LazyTikv

end AiGateway.LazyBackends
