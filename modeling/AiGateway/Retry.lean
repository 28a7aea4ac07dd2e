import AiGateway.Lib.Polls

/-! A future that makes another attempt after each result that is to be retried, as long as
its backoff has delays left. -/

namespace AiGateway.Retry

open Lib.Polls (Poll Future)

inductive State (T E : Type) where
  | idle
  | polling (future : Future (Except E T))
  | sleeping (sleep : Future Unit)

/-- What the machine asks of the closures it holds. -/
inductive Call (T E Duration : Type) where
  | attempt
  | notify (result : Except E T) (delay : Duration)
  | sleep (delay : Duration)

def Call.isAttempt {T E Duration : Type} : Call T E Duration → Bool
  | .attempt => true
  | .notify _ _ | .sleep _ => false

/-- The closures have a state of their own, so their answers depend on the number of results
there were before. -/
structure RetryWithResult (T E Duration : Type) where
  backoff : List Duration
  futureFn : Nat → Future (Except E T)
  retryableFn : Nat → Except E T → Bool
  adjustFn : Nat → Except E T → Option Duration → Option Duration
  sleepFn : Nat → Duration → Future Unit
  state : State T E
  finished : Nat
  calls : List (Call T E Duration)

namespace RetryWithResult
variable {T E Duration : Type}

def new (sleepFn : Nat → Duration → Future Unit) (futureFn : Nat → Future (Except E T)) (backoff : List Duration) :
    RetryWithResult T E Duration where
  backoff
  futureFn
  retryableFn := fun _ result => !result.isOk
  adjustFn := fun _ _ delay => delay
  sleepFn
  state := .idle
  finished := 0
  calls := []

def when (retry : RetryWithResult T E Duration) (retryable : Nat → Except E T → Bool) : RetryWithResult T E Duration :=
  { retry with retryableFn := retryable }

/-- One round of the loop in `poll`, which goes on until a round returns. -/
def round (retry : RetryWithResult T E Duration) : RetryWithResult T E Duration × Option (Poll (Except E T)) :=
  match retry.state with
  | .idle =>
    ({ retry with state := .polling (retry.futureFn retry.finished), calls := retry.calls ++ [.attempt] }, none)
  | .polling future =>
    match future.poll with
    | (.pending, future) => ({ retry with state := .polling future }, some .pending)
    | (.ready result, future) =>
      let asked := { retry with state := .polling future, finished := retry.finished + 1 }
      if !retry.retryableFn retry.finished result then (asked, some (.ready result))
      else
        let next := { asked with backoff := retry.backoff.tail }
        match retry.adjustFn retry.finished result retry.backoff.head? with
        | none => (next, some (.ready result))
        | some delay =>
          ({ next with
            state := .sleeping (retry.sleepFn retry.finished delay)
            calls := retry.calls ++ [.notify result delay, .sleep delay] }, none)
  | .sleeping sleep =>
    match sleep.poll with
    | (.pending, sleep) => ({ retry with state := .sleeping sleep }, some .pending)
    | (.ready _, _) => ({ retry with state := .idle }, none)

def poll : Nat → RetryWithResult T E Duration → Option (Poll (Except E T) × RetryWithResult T E Duration) :=
  Lib.Polls.poll round

/-- The future awaited: `fuel` rounds for each poll, and so many polls. -/
def await : Nat → Nat → RetryWithResult T E Duration → Option (Except E T × RetryWithResult T E Duration) :=
  Lib.Polls.blockOn round

end RetryWithResult

end AiGateway.Retry
