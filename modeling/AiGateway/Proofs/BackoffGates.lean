import AiGateway.LazyBackends
import AiGateway.Lib.Histories

/-! The gate of the lazy Cloudflare backend, and what its calls come to for the cache. -/

namespace AiGateway.LazyBackends

section Puts

/-- What the last request of a put makes of it. -/
def verdict (print : Nat → String) : Reply → Except PutClassifiedError Unit
  | .transport message => .error (.transientExhausted message)
  | .status code _ =>
    if isSuccess code then .ok ()
    else if isRetried code then .error (.transientExhausted ("put failed after retries: " ++ print code))
    else .error (.terminal ("put failed: " ++ print code))

def Reply.isRetried : Reply → Bool
  | .transport _ => false
  | .status code _ => !isSuccess code && LazyBackends.isRetried code

theorem put_attempt (print : Nat → String) (replies : Nat → Reply) (attempt : Nat) :
    putWithBackoffClassified print replies attempt =
      if (replies attempt).isRetried = true ∧ attempt + 1 < maxPutAttempts then
        let (sleeps, result) := putWithBackoffClassified print replies (attempt + 1)
        (2 ^ (attempt + 1) * 500 :: sleeps, result)
      else ([], verdict print (replies attempt)) := by
  rw [putWithBackoffClassified]
  cases answered : replies attempt with
  | transport message => rfl
  | status code body =>
    dsimp only [Reply.isRetried, verdict]
    by_cases success : isSuccess code = true
    · simp [success]
    · by_cases retried : isRetried code = true
      · by_cases more : attempt + 1 < maxPutAttempts
        · simp [success, retried, more]
        · simp [success, retried, more]
      · simp [success, retried]

theorem put_from (print : Nat → String) (replies : Nat → Reply) (attempt : Nat) (bounded : attempt < maxPutAttempts) :
    ∃ last, attempt ≤ last ∧ last < maxPutAttempts ∧
      (∀ index, attempt ≤ index → index < last → (replies index).isRetried = true) ∧
      ((replies last).isRetried = true → last + 1 = maxPutAttempts) ∧
      putWithBackoffClassified print replies attempt =
        ((List.range' attempt (last - attempt)).map fun index => 2 ^ (index + 1) * 500, verdict print (replies last)) := by
  induction remaining : maxPutAttempts - attempt generalizing attempt with
  | zero => omega
  | succ fewer ih =>
    rw [put_attempt]
    split
    next again =>
      obtain ⟨last, later, before, retried, exhausted, same⟩ := ih (attempt + 1) again.2 (by omega)
      refine ⟨last, by omega, before, ?_, exhausted, ?_⟩
      · intro index after inside
        obtain rfl | further := Nat.eq_or_lt_of_le after
        · exact again.1
        · exact retried index further inside
      · rw [same, show last - attempt = (last - (attempt + 1)) + 1 by omega, List.range'_succ, List.map_cons]
    next ends =>
      refine ⟨attempt, Nat.le_refl _, bounded, fun index after inside => by omega, ?_, by simp⟩
      intro retried
      by_contra more
      exact ends ⟨retried, by omega⟩

/-- A put makes four requests at most, pausing one, two and four seconds between them. Every
one but the last is answered with 429 or a server error; the last decides, and is of that
kind itself only as the fourth. -/
theorem put_with_backoff (print : Nat → String) (replies : Nat → Reply) :
    ∃ last, last < 4 ∧ (∀ index < last, (replies index).isRetried = true) ∧
      ((replies last).isRetried = true → last = 3) ∧
      putWithBackoffClassified print replies 0 = ([1000, 2000, 4000].take last, verdict print (replies last)) := by
  obtain ⟨last, _, bounded, retried, exhausted, same⟩ := put_from print replies 0 (by decide)
  have four : last < 4 := bounded
  refine ⟨last, four, fun index inside => retried index (Nat.zero_le _) inside, ?_, ?_⟩
  · intro ends
    have := exhausted ends
    rw [maxPutAttempts] at this
    omega
  · rw [same]
    obtain rfl | rfl | rfl | rfl : last = 0 ∨ last = 1 ∨ last = 2 ∨ last = 3 := by omega
    all_goals rfl

end Puts

namespace LazyCloudflare

open Lib.Runs Lib.Histories

section Gates

def Event.isSettle : Event → Bool
  | .settle _ _ => true
  | _ => false

def Event.isAdmitted : Event → Bool
  | .enter _ admitted => admitted
  | _ => false

def Event.isAbandon : Event → Bool
  | .abandon => true
  | _ => false

/-- The failures registered since the last success. -/
def streak (events : List Event) : Nat :=
  events.foldl (fun failures event =>
    match event with
    | .settle _ .success => 0
    | .settle _ _ => failures + 1
    | _ => failures) 0

/-- How long the gate stays closed after the outcome, in milliseconds. -/
def pauseMs (failures : Nat) : Settled → Nat
  | .success => 0
  | .transient => min (200 * 2 ^ failures) 30000
  | .terminal => 60000

theorem pauseMs_bounds {failures : Nat} (counted : 0 < failures) {outcome : Settled} (failed : outcome ≠ .success) :
    400 ≤ pauseMs failures outcome ∧ pauseMs failures outcome ≤ 60000 := by
  cases outcome with
  | success => exact absurd rfl failed
  | terminal => dsimp only [pauseMs]; omega
  | transient =>
    have grown : 2 ^ 1 ≤ 2 ^ failures := Nat.pow_le_pow_right (by omega) counted
    dsimp only [pauseMs]
    omega

theorem settle_gate {gate : Gate} {failures : Nat} (counted : gate.failures = min failures u32Max) (now : Nat) (outcome : Settled) :
    (gate.settle now outcome).failures = min (if outcome = .success then 0 else failures + 1) u32Max ∧
      (gate.settle now outcome).openAt = now + millis (pauseMs (failures + 1) outcome) := by
  cases outcome with
  | success => exact ⟨rfl, by simp [Gate.settle, Gate.registerSuccess, pauseMs, millis]⟩
  | transient =>
    have closed : gate.settle now .transient = ⟨now + millis (defaultDelayMs (Gate.saturatingSucc gate.failures)),
      Gate.saturatingSucc gate.failures⟩ := rfl
    rw [closed, counted, saturatingSucc_min, defaultDelayMs_eq]
    exact ⟨rfl, rfl⟩
  | terminal =>
    have closed : gate.settle now .terminal = ⟨now + millis 60000, Gate.saturatingSucc gate.failures⟩ := rfl
    rw [closed, counted, saturatingSucc_min]
    exact ⟨rfl, rfl⟩

theorem streak_concat (front : List Event) (last : Event) :
    streak (front ++ [last]) = match last with
      | .settle _ .success => 0
      | .settle _ _ => streak front + 1
      | _ => streak front := by
  rw [streak, List.foldl_append]
  rfl

variable {start : Nat} {events : List Event} {state : State}

theorem gate_run (ran : run step (.new start) events = some state) :
    state.gate.failures = min (streak events) u32Max ∧
      ((∀ event ∈ events, event.isSettle = false) → state.gate.openAt = start) ∧
      ∀ earlier time outcome later, events = earlier ++ .settle time outcome :: later →
        (∀ event ∈ later, event.isSettle = false) → state.gate.openAt = time + millis (pauseMs (streak earlier + 1) outcome) := by
  induction events using List.reverseRecOn generalizing state with
  | nil =>
    cases ran
    exact ⟨rfl, fun _ => rfl, fun earlier time outcome later same => by simp at same⟩
  | append_singleton front last ih =>
    obtain ⟨middle, before, after⟩ := run_append ran
    obtain ⟨_, taken, done⟩ := run_cons after
    cases done
    obtain ⟨failures, opened, closed⟩ := ih before
    by_cases settles : last.isSettle = true
    · obtain ⟨now, outcome, rfl⟩ : ∃ now outcome, last = .settle now outcome := by
        cases last <;> first | exact ⟨_, _, rfl⟩ | cases settles
      have gate : state.gate = middle.gate.settle now outcome := by
        dsimp only [step] at taken
        split at taken
        next => cases taken
        next => cases taken; rfl
      obtain ⟨counted, opens⟩ := settle_gate failures now outcome
      rw [gate, streak_concat, counted]
      refine ⟨by cases outcome <;> rfl, fun none => (by cases none (.settle now outcome) (by simp)), ?_⟩
      intro earlier time other later same lasting
      obtain ⟨rfl, event, _⟩ | ⟨rest, rfl, _⟩ := concat_cases same
      · cases event
        exact opens
      · cases lasting (.settle now outcome) (by simp)
    · have gate : state.gate = middle.gate := by
        cases last with
        | settle => exact absurd rfl settles
        | enter now admitted =>
          dsimp only [step] at taken
          split at taken
          next => cases taken; split <;> rfl
          next => cases taken
        | abandon =>
          dsimp only [step] at taken
          split at taken
          next => cases taken
          next => cases taken; rfl
      have same : streak (front ++ [last]) = streak front := by
        rw [streak_concat]
        cases last <;> first | rfl | exact absurd rfl settles
      rw [gate, same]
      refine ⟨failures, fun none => opened fun event member => none event (by simp [member]), ?_⟩
      intro earlier time outcome later same lasting
      obtain ⟨_, event, _⟩ | ⟨rest, rfl, before⟩ := concat_cases same
      · exact absurd (event ▸ rfl) settles
      · exact closed earlier time outcome rest before fun event member => lasting event (by simp [member])

/-- Requests are admitted by the gate, and each comes back or is abandoned once. -/
theorem inFlight_run (ran : run step (.new start) events = some state) :
    state.inFlight + events.countP Event.isSettle + events.countP Event.isAbandon = events.countP Event.isAdmitted := by
  induction events using List.reverseRecOn generalizing state with
  | nil => cases ran; rfl
  | append_singleton front last ih =>
    obtain ⟨middle, before, after⟩ := run_append ran
    obtain ⟨_, taken, done⟩ := run_cons after
    cases done
    have counted := ih before
    simp only [List.countP_append, List.countP_singleton]
    cases last with
    | enter now admitted =>
      dsimp only [step] at taken
      split at taken
      next =>
        cases taken
        cases admitted with
        | true => simp [Event.isSettle, Event.isAbandon, Event.isAdmitted]; omega
        | false => simpa [Event.isSettle, Event.isAbandon, Event.isAdmitted] using counted
      next => cases taken
    | settle now outcome =>
      dsimp only [step] at taken
      split at taken
      next => cases taken
      next one => cases taken; simp [Event.isSettle, Event.isAbandon, Event.isAdmitted]; omega
    | abandon =>
      dsimp only [step] at taken
      split at taken
      next => cases taken
      next one => cases taken; simp [Event.isSettle, Event.isAbandon, Event.isAdmitted]; omega

end Gates

/-- However the calls interleave, a call is let through exactly when the pause after the last
outcome is over: none after a success, a minute after a terminal failure, and after a
transient one a time that doubles with the failures since the last success up to half a
minute. A pause after a failure is between 0.4 and 60 seconds, and every request that was
let through is out, has come back or was abandoned. -/
theorem lazy_gate (start : Nat) (events : List Event) (state next : State) (now : Nat) (admitted : Bool)
    (ran : run step (.new start) events = some state) (entered : step state (.enter now admitted) = some next) :
    ((∀ event ∈ events, event.isSettle = false) → (admitted = true ↔ start ≤ now)) ∧
    (∀ earlier time outcome later, events = earlier ++ .settle time outcome :: later →
      (∀ event ∈ later, event.isSettle = false) →
        (admitted = true ↔ time + millis (pauseMs (streak earlier + 1) outcome) ≤ now) ∧
        (outcome ≠ .success → 400 ≤ pauseMs (streak earlier + 1) outcome ∧ pauseMs (streak earlier + 1) outcome ≤ 60000)) ∧
    next.inFlight + events.countP Event.isSettle + events.countP Event.isAbandon =
      events.countP Event.isAdmitted + if admitted then 1 else 0 := by
  obtain ⟨_, opened, closed⟩ := gate_run ran
  have decided : admitted = true ↔ state.gate.openAt ≤ now := by
    dsimp only [step] at entered
    split at entered
    next same => rw [same, decide_eq_true_iff]
    next => cases entered
  refine ⟨?_, ?_, ?_⟩
  · intro none
    rw [decided, opened none]
  · intro earlier time outcome later same lasting
    rw [decided, closed earlier time outcome later same lasting]
    exact ⟨Iff.rfl, pauseMs_bounds (Nat.succ_pos _)⟩
  · have counted := inFlight_run (run_trans ran (show run step state [.enter now admitted] = some next by simp [run, entered]))
    cases admitted <;> simpa [Event.isSettle, Event.isAbandon, Event.isAdmitted] using counted

/-- One failure, and a call half a second later. -/
def firstFailure : List Event := [.enter 0 true, .settle 5 .transient]

theorem admitted_after_pause :
    ∃ state next, run step (.new 0) firstFailure = some state ∧ step state (.enter 500000000 true) = some next ∧
      5 + millis (pauseMs (streak [.enter 0 true] + 1) .transient) ≤ 500000000 ∧ next.inFlight + 1 + 0 = 1 + 1 := by
  have ran : ∃ state next, run step (.new 0) firstFailure = some state ∧ step state (.enter 500000000 true) = some next :=
    ⟨_, _, rfl, rfl⟩
  obtain ⟨state, next, ran, entered⟩ := ran
  obtain ⟨_, paused, counted⟩ := lazy_gate 0 firstFailure state next 500000000 true ran entered
  exact ⟨state, next, ran, entered, (paused [.enter 0 true] 5 .transient [] rfl nofun).1.mp rfl, counted⟩

section Refinement

open KvCache

/-- The requests of a put that the gate lets through. -/
def putRequests (print : Nat → String) (replies : Nat → Reply) (value : List UInt8) : Nat :=
  if maxKvValueBytes < value.length then 0 else (putWithBackoffClassified print replies 0).1.length + 1

/-- How a get goes for the abstract backend. -/
def getContact (print : Nat → String) (gate : Gate) (now : Nat) (reply : Reply) : Contact :=
  if now < gate.openAt then .heldBack
  else
    match getKeyClassified print reply with
    | .ok _ => .answered
    | .error (.transient _ message) | .error (.terminal _ message) => .failed message false

/-- Whether one of the put's requests has written the value. -/
def putWritten (print : Nat → String) (gate : Gate) (now : Nat) (replies : Nat → Reply) (value : List UInt8)
    (wrote : Nat → Bool) : Bool :=
  if now < gate.openAt then false else (List.range (putRequests print replies value)).any wrote

/-- How a put goes for the abstract backend. -/
def putContact (print : Nat → String) (gate : Gate) (now : Nat) (replies : Nat → Reply) (value : List UInt8)
    (wrote : Nat → Bool) : Contact :=
  if now < gate.openAt then .heldBack
  else
    match putRawClassified print replies value with
    | .ok _ => .answered
    | .error (.transientExhausted message) | .error (.terminal message) =>
      .failed message (putWritten print gate now replies value wrote)

theorem get_refines (print : Nat → String) (gate : Gate) (now later : Nat) (reply : Reply) (stored : Option (List UInt8))
    (honest : ∀ value, getKeyClassified print reply = .ok value → value = stored) :
    (get print gate now later reply).2 = Backend.lazyCloudflare.get (getContact print gate now reply) stored := by
  rw [get, getContact]
  split
  next => rfl
  next =>
    cases read : getKeyClassified print reply with
    | ok value => rw [honest value read]; rfl
    | error error => cases error <;> rfl

theorem put_refines (print : Nat → String) (gate : Gate) (now later : Nat) (replies : Nat → Reply) (value : List UInt8)
    (wrote : Nat → Bool) (honest : ∀ index, verdict print (replies index) = .ok () → wrote index = true) :
    (putWritten print gate now replies value wrote, (put print gate now later replies value).2) =
      Backend.lazyCloudflare.put (putContact print gate now replies value wrote) value := by
  rw [put, putContact, putWritten]
  split
  next => rfl
  next =>
    by_cases large : maxKvValueBytes < value.length
    · simp [putRawClassified, putRequests, large, Backend.put, Backend.maxValueBytes]
    · obtain ⟨last, _, _, _, _, same⟩ := put_from print replies 0 (by decide)
      have requests : putRequests print replies value = last + 1 := by
        rw [putRequests, if_neg large, same]
        simp
      rw [putRawClassified, if_neg large, requests, same]
      dsimp only
      cases decided : verdict print (replies last) with
      | ok done =>
        have written : (List.range (last + 1)).any wrote = true :=
          List.any_eq_true.mpr ⟨last, by simp, honest last decided⟩
        simp [written, Backend.put, Backend.maxValueBytes, large]
      | error error => cases error <;> simp [Backend.put, Backend.maxValueBytes, large]

/-- Every get and put of the lazy backend, at any gate and whatever Cloudflare answers, has the
result that the abstract backend gives for its contact, if Cloudflare answers a get with what
it holds and has written what it says it has. -/
theorem lazy_cloudflare_refines (print : Nat → String) (gate : Gate) (now later : Nat) :
    (∀ (reply : Reply) (stored : Option (List UInt8)), (∀ value, getKeyClassified print reply = .ok value → value = stored) →
      Backend.lazyCloudflare.admits (getContact print gate now reply) = true ∧
      (get print gate now later reply).2 = Backend.lazyCloudflare.get (getContact print gate now reply) stored) ∧
    ∀ (replies : Nat → Reply) (value : List UInt8) (wrote : Nat → Bool),
      (∀ index, verdict print (replies index) = .ok () → wrote index = true) →
      Backend.lazyCloudflare.admits (putContact print gate now replies value wrote) = true ∧
      (putWritten print gate now replies value wrote, (put print gate now later replies value).2) =
        Backend.lazyCloudflare.put (putContact print gate now replies value wrote) value :=
  ⟨fun reply stored honest => ⟨rfl, get_refines print gate now later reply stored honest⟩,
    fun replies value wrote honest => ⟨rfl, put_refines print gate now later replies value wrote honest⟩⟩

end Refinement

end LazyCloudflare

end AiGateway.LazyBackends
