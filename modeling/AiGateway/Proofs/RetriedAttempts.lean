import AiGateway.Dispatch
import AiGateway.Retry

/-! The machine that is polled makes the attempts of a plain loop, whatever the futures that
it waits for are pending in between. -/

namespace AiGateway.Retry

open Lib.Polls

variable {T E Duration : Type}

section Loop
variable (answers : Nat → Except E T) (retryable : Nat → Except E T → Bool)

/-- What comes after the attempt of the given number: the result of the last attempt, and the calls. -/
def plainLoop : List Duration → Nat → Except E T × List (Call T E Duration)
  | [], number => (answers number, [])
  | delay :: delays, number =>
    if retryable number (answers number) then
      let (result, calls) := plainLoop delays (number + 1)
      (result, .notify (answers number) delay :: .sleep delay :: .attempt :: calls)
    else (answers number, [])

/-- The calls of the retries after the given delays, the first after the attempt of the given number. -/
def retryCalls (delays : List Duration) (number : Nat) : List (Call T E Duration) :=
  (delays.zipIdx number).flatMap fun entry => [.notify (answers entry.2) entry.1, .sleep entry.1, .attempt]

/-- Some of the delays are used, each for a retry of a result that is to be retried. The attempts
stop when there is no delay left, or at a result that is not to be retried, and this is returned. -/
structure Retried (backoff : List Duration) (first : Nat) (result : Except E T) (calls : List (Call T E Duration))
    (retries : Nat) : Prop where
  bounded : retries ≤ backoff.length
  retried : ∀ number, number < retries → retryable (first + number) (answers (first + number)) = true
  stopped : retries = backoff.length ∨ retryable (first + retries) (answers (first + retries)) = false
  last : result = answers (first + retries)
  notified : calls = retryCalls answers (backoff.take retries) first

theorem plainLoop_retried (backoff : List Duration) (first : Nat) :
    ∃ retries, Retried answers retryable backoff first (plainLoop answers retryable backoff first).1
      (plainLoop answers retryable backoff first).2 retries := by
  induction backoff generalizing first with
  | nil => exact ⟨0, Nat.le_refl _, by simp, .inl rfl, rfl, rfl⟩
  | cons delay delays ih =>
    by_cases again : retryable first (answers first) = true
    · obtain ⟨retries, later⟩ := ih (first + 1)
      have moved : ∀ number, first + 1 + number = first + (number + 1) := by omega
      refine ⟨retries + 1, Nat.succ_le_succ later.bounded, ?_, ?_, ?_, ?_⟩
      · intro number inside
        cases number with
        | zero => exact again
        | succ number =>
          rw [← moved]
          exact later.retried number (Nat.lt_of_succ_lt_succ inside)
      · rw [← moved, List.length_cons]
        exact later.stopped.imp (congrArg (· + 1)) id
      · rw [← moved, plainLoop, if_pos again]
        exact later.last
      · rw [plainLoop, if_pos again, List.take_succ_cons]
        simp only [later.notified, retryCalls, List.zipIdx_cons, List.flatMap_cons]
        rfl
    · refine ⟨0, Nat.zero_le _, by simp, .inr (by simpa using again), ?_, ?_⟩
      · rw [plainLoop, if_neg again]
        rfl
      · rw [plainLoop, if_neg again]
        rfl

theorem retryCalls_attempts (delays : List Duration) (number : Nat) :
    (retryCalls answers delays number).countP Call.isAttempt = delays.length := by
  induction delays generalizing number with
  | nil => rfl
  | cons delay delays ih =>
    unfold retryCalls at ih ⊢
    rw [List.zipIdx_cons, List.flatMap_cons, List.countP_append, ih]
    simp [Call.isAttempt, Nat.add_comm]

end Loop

/-- The results of the attempts, in their order. -/
def answersOf (futureFn : Nat → Future (Except E T)) (number : Nat) : Except E T := (futureFn number).output

/-- How often the sleeps and the attempts to come can be pending, after an attempt. -/
def laterWaits (sleepFn : Nat → Duration → Future Unit) (futureFn : Nat → Future (Except E T)) : List Duration → Nat → Nat
  | [], _ => 0
  | delay :: delays, number =>
    (sleepFn number delay).waits + (futureFn (number + 1)).waits + laterWaits sleepFn futureFn delays (number + 1)

namespace RetryWithResult

def waits (retry : RetryWithResult T E Duration) : Nat :=
  laterWaits retry.sleepFn retry.futureFn retry.backoff retry.finished +
    match retry.state with
    | .idle => (retry.futureFn retry.finished).waits
    | .polling future => future.waits
    | .sleeping sleep => sleep.waits + (retry.futureFn retry.finished).waits

/-- How many rounds more one poll can take. -/
def loops (retry : RetryWithResult T E Duration) : Nat :=
  3 * retry.backoff.length +
    match retry.state with
    | .idle => 1
    | .polling _ => 0
    | .sleeping _ => 2

/-- What the plain loop makes of the machine from its state on: the result, and all calls. -/
def expected (retry : RetryWithResult T E Duration) : Except E T × List (Call T E Duration) :=
  let later := plainLoop (answersOf retry.futureFn) retry.retryableFn retry.backoff retry.finished
  match retry.state with
  | .idle | .sleeping _ => (later.1, retry.calls ++ .attempt :: later.2)
  | .polling _ => (later.1, retry.calls ++ later.2)

/-- Delays are not adjusted, an attempt that is polled is the one of its number, and the plain
loop would end the same way from here. -/
structure Follows (outcome : Except E T × List (Call T E Duration)) (retry : RetryWithResult T E Duration) : Prop where
  plain : retry.adjustFn = fun _ _ delay => delay
  current : ∀ future, retry.state = .polling future → future.output = answersOf retry.futureFn retry.finished
  expected : retry.expected = outcome

/-- The machine has returned what the loop would, and has made the same calls. -/
structure Returned (outcome : Except E T × List (Call T E Duration)) (result : Except E T)
    (retry : RetryWithResult T E Duration) : Prop where
  result : result = outcome.1
  calls : retry.calls = outcome.2

section Rounds
variable {retry : RetryWithResult T E Duration} {outcome : Except E T × List (Call T E Duration)}

theorem round_of_idle (follows : Follows outcome retry) (state : retry.state = .idle) :
    Advances (Follows outcome) loops waits (Returned outcome) retry retry.round := by
  rw [round, state]
  refine ⟨⟨follows.plain, ?_, ?_⟩, ?_, ?_⟩
  · intro future polled
    cases polled
    rfl
  · rw [← follows.expected]
    simp [expected, state]
  · simp [loops, state]
  · simp [waits, state]

theorem round_of_sleeping (follows : Follows outcome retry) {sleep : Future Unit} (state : retry.state = .sleeping sleep) :
    Advances (Follows outcome) loops waits (Returned outcome) retry retry.round := by
  obtain ⟨waiting, output⟩ := sleep
  rw [round, state]
  cases waiting with
  | zero =>
    refine ⟨⟨follows.plain, (fun _ polled => nomatch polled), ?_⟩, ?_, ?_⟩
    · rw [← follows.expected]
      simp [expected, state]
    · simp [loops, state]
    · simp [waits, state]
  | succ waiting =>
    refine ⟨⟨follows.plain, (fun _ polled => nomatch polled), ?_⟩, ?_, ?_⟩
    · rw [← follows.expected]
      simp [expected, state]
    · simp [loops, state]
    · simp [waits, state]

theorem round_of_waiting (follows : Follows outcome retry) {waiting : Nat} {output : Except E T}
    (state : retry.state = .polling ⟨waiting + 1, output⟩) :
    Advances (Follows outcome) loops waits (Returned outcome) retry retry.round := by
  have current : output = answersOf retry.futureFn retry.finished := follows.current _ state
  rw [round, state]
  refine ⟨⟨follows.plain, ?_, ?_⟩, ?_, ?_⟩
  · intro future polled
    cases polled
    exact current
  · rw [← follows.expected]
    simp [expected, state]
  · simp [loops, state]
  · simp [waits, state]

theorem round_of_ready (follows : Follows outcome retry) {output : Except E T}
    (state : retry.state = .polling ⟨0, output⟩) :
    Advances (Follows outcome) loops waits (Returned outcome) retry retry.round := by
  have current : output = answersOf retry.futureFn retry.finished := follows.current _ state
  have adjusted : retry.adjustFn retry.finished output retry.backoff.head? = retry.backoff.head? := by rw [follows.plain]
  have ends := follows.expected
  subst current
  simp only [round, state, Future.poll, adjusted]
  simp only [expected, state] at ends
  by_cases again : retry.retryableFn retry.finished (answersOf retry.futureFn retry.finished) = true
  · cases delays : retry.backoff with
    | nil =>
      rw [delays, plainLoop] at ends
      simp only [again, Bool.not_true, Bool.false_eq_true, ↓reduceIte, List.head?_nil]
      exact ⟨congrArg Prod.fst ends, by simpa using congrArg Prod.snd ends⟩
    | cons delay delays =>
      rw [delays, plainLoop, if_pos again] at ends
      simp only [again, Bool.not_true, Bool.false_eq_true, ↓reduceIte, List.head?_cons, List.tail_cons]
      refine ⟨⟨follows.plain, (fun _ polled => nomatch polled), ?_⟩, ?_, ?_⟩
      · rw [← ends]
        simp [expected]
      · simp only [loops, state, delays, List.length_cons]
        omega
      · simp only [waits, state, delays, laterWaits]
        omega
  · have stops : plainLoop (answersOf retry.futureFn) retry.retryableFn retry.backoff retry.finished =
        (answersOf retry.futureFn retry.finished, []) := by
      cases retry.backoff with
      | nil => rfl
      | cons delay delays => rw [plainLoop, if_neg again]
    rw [stops] at ends
    simp only [again, Bool.not_false, ↓reduceIte]
    exact ⟨congrArg Prod.fst ends, by simpa using congrArg Prod.snd ends⟩

theorem round_advances (outcome : Except E T × List (Call T E Duration)) (retry : RetryWithResult T E Duration)
    (follows : Follows outcome retry) : Advances (Follows outcome) loops waits (Returned outcome) retry retry.round := by
  cases state : retry.state with
  | idle => exact round_of_idle follows state
  | sleeping sleep => exact round_of_sleeping follows state
  | polling future =>
    obtain ⟨waiting, output⟩ := future
    cases waiting with
    | zero => exact round_of_ready follows state
    | succ waiting => exact round_of_waiting follows state

end Rounds

section Runs
variable (sleepFn : Nat → Duration → Future Unit) (futureFn : Nat → Future (Except E T)) (backoff : List Duration)
  (retryable : Nat → Except E T → Bool)

theorem await_returns {fuel polls : Nat} (rounds : 3 * backoff.length + 1 < fuel)
    (many : ((new sleepFn futureFn backoff).when retryable).waits < polls) :
    ∃ result final, ((new sleepFn futureFn backoff).when retryable).await fuel polls = some (result, final) ∧
      result = (plainLoop (answersOf futureFn) retryable backoff 0).1 ∧
      final.calls = .attempt :: (plainLoop (answersOf futureFn) retryable backoff 0).2 := by
  let retry := (new sleepFn futureFn backoff).when retryable
  have start : Follows retry.expected retry := ⟨rfl, (fun _ polled => nomatch polled), rfl⟩
  obtain ⟨result, final, awaited, returned⟩ := blockOn_done (round_advances retry.expected) start rounds many
  exact ⟨result, final, awaited, returned.result, returned.calls⟩

/-- As many results are retried as there are delays, or fewer up to the first that is not to be
retried. The last is returned, and each retry is told of the delay that is then slept. -/
structure Contract (answers : Nat → Except E T) (retryable : Nat → Except E T → Bool) (backoff : List Duration)
    (result : Except E T) (calls : List (Call T E Duration)) (retries : Nat) : Prop where
  bounded : retries ≤ backoff.length
  retried : ∀ number, number < retries → retryable number (answers number) = true
  stopped : retries = backoff.length ∨ retryable retries (answers retries) = false
  last : result = answers retries
  attempts : calls.countP Call.isAttempt = retries + 1
  notified : calls = .attempt :: retryCalls answers (backoff.take retries) 0

/-- Attempts that fail twice before they succeed, under a backoff of three delays. -/
def failsTwice (number : Nat) : Future (Except String Nat) := ⟨number, if number < 2 then .error "unavailable" else .ok 200⟩

/-- The loop that the dispatcher's requests are sent by. -/
theorem retryWithResult_eq_plainLoop (answers : Nat → Except E T) (retryable : Except E T → Bool) (delays : List Duration)
    (number : Nat) :
    Dispatch.retryWithResult retryable answers delays.length number =
      (number + 1 + (plainLoop answers (fun _ => retryable) delays number).2.countP Call.isAttempt,
        (plainLoop answers (fun _ => retryable) delays number).1) := by
  induction delays generalizing number with
  | nil => rfl
  | cons delay delays ih =>
    rw [List.length_cons, Dispatch.retryWithResult, plainLoop]
    split
    · rw [ih]
      simp [Call.isAttempt, List.countP_cons]
      omega
    · rfl

theorem await_eq_retryWithResult (retryable : Except E T → Bool) :
    ∃ enough, ∀ fuel polls, 3 * backoff.length + 1 < fuel → enough ≤ polls →
      ∃ result final,
        ((new sleepFn futureFn backoff).when fun _ => retryable).await fuel polls = some (result, final) ∧
          Dispatch.retryWithResult retryable (answersOf futureFn) backoff.length 0 =
            (final.calls.countP Call.isAttempt, result) := by
  refine ⟨((new sleepFn futureFn backoff).when fun _ => retryable).waits + 1, ?_⟩
  intro fuel polls rounds many
  obtain ⟨result, final, awaited, same, calls⟩ := await_returns sleepFn futureFn backoff _ rounds many
  refine ⟨result, final, awaited, ?_⟩
  rw [retryWithResult_eq_plainLoop, same, calls, List.countP_cons]
  simp [Call.isAttempt, Nat.add_comm]

end Runs

end RetryWithResult

end AiGateway.Retry
