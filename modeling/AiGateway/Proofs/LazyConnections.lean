import AiGateway.LazyBackends
import AiGateway.Lib.Histories

/-! Connections of the lazy TiKV backend, whatever the order of its calls' steps. -/

namespace AiGateway.LazyBackends.LazyTikv

open Lib.Runs Lib.Histories

variable {γ : Type}

namespace Phase

def holdsLock : Phase γ → Bool
  | .locked | .unconnectedLocked | .connecting | .connected _ | .published _ => true
  | .started | .unconnected | .locking | .returned _ | .cancelled => false

/-- The call has seen that there is no client, and holds the lock. -/
def unpublished : Phase γ → Bool
  | .unconnectedLocked | .connecting | .connected _ => true
  | _ => false

def finished : Phase γ → Bool
  | .returned _ | .cancelled => true
  | _ => false

/-- The client that the call has, or is about to return. -/
def client : Phase γ → Option γ
  | .published client | .returned (some client) => some client
  | _ => none

theorem holdsLock_of_unpublished {phase : Phase γ} (unpublished : phase.unpublished = true) : phase.holdsLock = true := by
  cases phase <;> first | rfl | cases unpublished

end Phase

/-- The lock is held by the call that is between taking and leaving it; while a call connects
there is no client, and every client that a call has is the one there is. -/
structure Valid (state : State γ) : Prop where
  lock : ∀ (call : Nat) (phase : Phase γ), state.calls[call]? = some phase → (phase.holdsLock = true ↔ state.connectLock = some call)
  held : ∀ call, state.connectLock = some call → call < state.calls.length
  fresh : ∀ (call : Nat) (phase : Phase γ), state.calls[call]? = some phase → phase.unpublished = true → state.inner = none
  given : ∀ (call : Nat) (phase : Phase γ) (client : γ), state.calls[call]? = some phase → phase.client = some client → state.inner = some client

section Moves
variable {state : State γ} {call : Nat} {before after : Phase γ}

theorem set_cases {calls : List (Phase γ)} {call other : Nat} {after phase : Phase γ}
    (found : (calls.set call after)[other]? = some phase) :
    (call = other ∧ phase = after) ∨ (call ≠ other ∧ calls[other]? = some phase) := by
  rw [List.getElem?_set] at found
  by_cases same : call = other
  · rw [if_pos same] at found
    split at found
    · exact .inl ⟨same, (Option.some.inj found).symm⟩
    · cases found
  · rw [if_neg same] at found
    exact .inr ⟨same, found⟩

theorem Valid.moveTo (valid : Valid state) (found : state.calls[call]? = some before)
    (lock : after.holdsLock = before.holdsLock) (fresh : after.unpublished = true → state.inner = none)
    (given : ∀ client, after.client = some client → state.inner = some client) : Valid (state.moveTo call after) where
  lock := by
    intro other phase held
    obtain ⟨rfl, rfl⟩ | ⟨_, old⟩ := set_cases held
    · rw [lock]
      exact valid.lock call before found
    · exact valid.lock other phase old
  held := by
    intro other locked
    rw [State.moveTo, List.length_set]
    exact valid.held other locked
  fresh := by
    intro other phase held unpublished
    obtain ⟨_, rfl⟩ | ⟨_, old⟩ := set_cases held
    · exact fresh unpublished
    · exact valid.fresh other phase old unpublished
  given := by
    intro other phase client held has
    obtain ⟨_, rfl⟩ | ⟨_, old⟩ := set_cases held
    · exact given client has
    · exact valid.given other phase client old has

theorem Valid.unlockTo (valid : Valid state) (found : state.calls[call]? = some before) (held : before.holdsLock = true)
    (free : after.holdsLock = false) (given : ∀ client, after.client = some client → state.inner = some client) :
    Valid (state.unlockTo call after) where
  lock := by
    intro other phase stored
    obtain ⟨_, rfl⟩ | ⟨different, old⟩ := set_cases stored
    · simp [free, State.unlockTo]
    · have own := (valid.lock call before found).mp held
      have locks := valid.lock other phase old
      rw [own] at locks
      simpa [State.unlockTo, different] using locks
  held := by
    intro other locked
    cases locked
  fresh := by
    intro other phase stored unpublished
    obtain ⟨_, rfl⟩ | ⟨_, old⟩ := set_cases stored
    · rw [Phase.holdsLock_of_unpublished unpublished] at free
      cases free
    · exact valid.fresh other phase old unpublished
  given := by
    intro other phase client stored has
    obtain ⟨_, rfl⟩ | ⟨_, old⟩ := set_cases stored
    · exact given client has
    · exact valid.given other phase client old has

/-- The gate is read and written, but nothing else rests on it. -/
theorem Valid.withGate (valid : Valid state) (gate : Gate) : Valid { state with gate } :=
  ⟨valid.lock, valid.held, valid.fresh, valid.given⟩

theorem Valid.enter (valid : Valid state) : Valid { state with calls := state.calls ++ [.started] } := by
  have entered {other : Nat} {phase : Phase γ} (stored : (state.calls ++ [.started])[other]? = some phase) :
      state.calls[other]? = some phase ∨ (other = state.calls.length ∧ phase = .started) := by
    obtain before | rfl | after := Nat.lt_trichotomy other state.calls.length
    · rw [List.getElem?_append_left before] at stored
      exact .inl stored
    · rw [List.getElem?_concat_length] at stored
      exact .inr ⟨rfl, (Option.some.inj stored).symm⟩
    · rw [List.getElem?_eq_none (by simp; omega)] at stored
      cases stored
  refine ⟨?_, ?_, ?_, ?_⟩
  · intro other phase stored
    obtain old | ⟨rfl, rfl⟩ := entered stored
    · exact valid.lock other phase old
    · constructor
      · intro working
        cases working
      · intro locked
        exact absurd (valid.held _ locked) (Nat.lt_irrefl _)
  · intro other locked
    rw [List.length_append]
    exact Nat.lt_add_right _ (valid.held other locked)
  · intro other phase stored unpublished
    obtain old | ⟨_, rfl⟩ := entered stored
    · exact valid.fresh other phase old unpublished
    · cases unpublished
  · intro other phase client stored has
    obtain old | ⟨_, rfl⟩ := entered stored
    · exact valid.given other phase client old has
    · cases has

theorem Valid.lockTo (valid : Valid state) (found : state.calls[call]? = some .locking) (free : state.connectLock = none) :
    Valid { state.moveTo call .locked with connectLock := some call } := by
  refine ⟨?_, ?_, ?_, ?_⟩
  · intro other phase stored
    obtain ⟨rfl, rfl⟩ | ⟨different, old⟩ := set_cases stored
    · exact iff_of_true rfl rfl
    · refine iff_of_false ?_ fun own => different (Option.some.inj own)
      intro holds
      cases ((valid.lock other phase old).mp holds).symm.trans free
  · rintro other ⟨⟩
    rw [State.moveTo, List.length_set]
    exact (List.getElem?_eq_some_iff.mp found).1
  · intro other phase stored unpublished
    obtain ⟨_, rfl⟩ | ⟨_, old⟩ := set_cases stored
    · cases unpublished
    · exact valid.fresh other phase old unpublished
  · intro other phase client stored has
    obtain ⟨_, rfl⟩ | ⟨_, old⟩ := set_cases stored
    · cases has
    · exact valid.given other phase client old has

theorem Valid.publish (valid : Valid state) {client : γ} (found : state.calls[call]? = some (.connected client)) :
    Valid { state.moveTo call (.published client) with inner := some client } := by
  have absent := valid.fresh call _ found rfl
  refine ⟨?_, ?_, ?_, ?_⟩
  · intro other phase stored
    obtain ⟨rfl, rfl⟩ | ⟨_, old⟩ := set_cases stored
    · exact iff_of_true rfl ((valid.lock call _ found).mp rfl)
    · exact valid.lock other phase old
  · intro other locked
    rw [State.moveTo, List.length_set]
    exact valid.held other locked
  · intro other phase stored unpublished
    obtain ⟨_, rfl⟩ | ⟨different, old⟩ := set_cases stored
    · cases unpublished
    · -- Only the call that publishes holds the lock.
      have own := (valid.lock call _ found).mp rfl
      have other := (valid.lock other phase old).mp (Phase.holdsLock_of_unpublished unpublished)
      exact absurd (Option.some.inj (own.symm.trans other)) different
  · intro other phase given stored has
    obtain ⟨_, rfl⟩ | ⟨_, old⟩ := set_cases stored
    · exact has
    · cases absent.symm.trans (valid.given other phase given old has)

theorem Valid.cancel (valid : Valid state) (found : state.calls[call]? = some before) :
    Valid (if state.connectLock = some call then state.unlockTo call .cancelled else state.moveTo call .cancelled) := by
  have lock := valid.lock call before found
  split
  next locked => exact valid.unlockTo found (lock.mpr locked) rfl nofun
  next unlocked =>
    have free : before.holdsLock = false := by simpa [unlocked] using lock
    exact valid.moveTo found free.symm nofun nofun

end Moves

theorem valid_step (state : State γ) (event : Event γ) (next : State γ) (valid : Valid state)
    (taken : step state event = some next) : Valid next := by
  cases event with
  | enter =>
    cases taken
    exact valid.enter
  | read call =>
    dsimp only [step] at taken
    split at taken
    next found =>
      split at taken
      next client present =>
        cases taken
        exact valid.moveTo found rfl nofun fun _ same => by cases same; exact present
      next absent => cases taken; exact valid.moveTo found rfl nofun nofun
    next => cases taken
  | checkGate call now =>
    dsimp only [step] at taken
    split at taken
    next found =>
      cases taken
      split
      · exact valid.moveTo found rfl nofun nofun
      · exact valid.moveTo found rfl nofun nofun
    next => cases taken
  | lock call =>
    dsimp only [step] at taken
    split at taken
    next found free => cases taken; exact valid.lockTo found free
    next => cases taken
  | readLocked call =>
    dsimp only [step] at taken
    split at taken
    next found =>
      split at taken
      next client present =>
        cases taken
        exact valid.unlockTo found rfl rfl fun _ same => by cases same; exact present
      next absent => cases taken; exact valid.moveTo found rfl (fun _ => absent) nofun
    next => cases taken
  | checkGateLocked call now =>
    dsimp only [step] at taken
    split at taken
    next found =>
      split at taken
      next => cases taken; exact valid.unlockTo found rfl rfl fun _ same => by cases same
      next => cases taken; exact valid.moveTo found rfl (fun _ => valid.fresh call _ found rfl) fun _ same => by cases same
    next => cases taken
  | connectOk call client =>
    dsimp only [step] at taken
    split at taken
    next found => cases taken; exact valid.moveTo found rfl (fun _ => valid.fresh call _ found rfl) nofun
    next => cases taken
  | connectErr call now =>
    dsimp only [step] at taken
    split at taken
    next found => cases taken; exact (valid.unlockTo found rfl rfl fun _ same => by cases same).withGate _
    next => cases taken
  | publish call =>
    dsimp only [step] at taken
    split at taken
    next client found => cases taken; exact valid.publish found
    next => cases taken
  | resetGate call now =>
    dsimp only [step] at taken
    split at taken
    next client found =>
      cases taken
      refine (valid.unlockTo found rfl rfl ?_).withGate _
      rintro _ ⟨⟩
      exact valid.given call _ client found rfl
    next => cases taken
  | cancel call =>
    dsimp only [step] at taken
    split at taken
    next => cases taken
    next => cases taken
    next => cases taken
    next phase _ _ found => cases taken; exact valid.cancel found

theorem valid_new (now : Nat) : Valid (State.new now : State γ) := ⟨nofun, nofun, nofun, nofun⟩

theorem valid_run {now : Nat} {events : List (Event γ)} {state : State γ} (ran : run step (.new now) events = some state) :
    Valid state :=
  run_invariant (fun state event next valid _ => valid_step state event next valid) (valid_new now) (along_trivial _ events) ran

/-- A client that was published stays. -/
theorem inner_kept {state next : State γ} {event : Event γ} {client : γ} (valid : Valid state)
    (present : state.inner = some client) (taken : step state event = some next) : next.inner = some client := by
  cases event with
  | enter => cases taken; exact present
  | publish call =>
    dsimp only [step] at taken
    split at taken
    next other found => cases present.symm.trans (valid.fresh call _ found rfl)
    next => cases taken
  | lock call =>
    dsimp only [step] at taken
    split at taken
    next => cases taken; exact present
    next => cases taken
  | read call | readLocked call | checkGateLocked call now =>
    dsimp only [step] at taken
    split at taken
    next => split at taken <;> cases taken <;> exact present
    next => cases taken
  | checkGate call now | connectOk call other | connectErr call now | resetGate call now =>
    dsimp only [step] at taken
    split at taken
    next => cases taken; exact present
    next => cases taken
  | cancel call =>
    dsimp only [step] at taken
    split at taken
    next => cases taken
    next => cases taken
    next => cases taken
    next => cases taken; split <;> exact present

section Pauses

def Event.isConnectErr : Event γ → Bool
  | .connectErr _ _ => true
  | _ => false

def Event.isPublish : Event γ → Bool
  | .publish _ => true
  | _ => false

/-- What the events do to the gate and to the client, and that a client stays. -/
theorem step_gate {state next : State γ} {event : Event γ} (valid : Valid state) (taken : step state event = some next) :
    (next.inner.isSome = true ↔ event.isPublish = true ∨ state.inner.isSome = true) ∧
      (state.inner = none → next.gate = match event with
        | .connectErr _ now => state.gate.registerTransientFailure now
        | _ => state.gate) := by
  cases event with
  | enter => cases taken; simp [Event.isPublish]
  | read call | readLocked call =>
    dsimp only [step] at taken
    split at taken
    next found =>
      split at taken
      next client present => cases taken; simp [Event.isPublish, State.moveTo, State.unlockTo]
      next absent => cases taken; simp [Event.isPublish, State.moveTo]
    next => cases taken
  | checkGate call now =>
    dsimp only [step] at taken
    split at taken
    next found => cases taken; simp [Event.isPublish, State.moveTo]
    next => cases taken
  | lock call =>
    dsimp only [step] at taken
    split at taken
    next found free => cases taken; simp [Event.isPublish, State.moveTo]
    next => cases taken
  | checkGateLocked call now =>
    dsimp only [step] at taken
    split at taken
    next found =>
      split at taken
      next => cases taken; simp [Event.isPublish, State.unlockTo]
      next => cases taken; simp [Event.isPublish, State.moveTo]
    next => cases taken
  | connectOk call client =>
    dsimp only [step] at taken
    split at taken
    next found => cases taken; simp [Event.isPublish, State.moveTo]
    next => cases taken
  | connectErr call now =>
    dsimp only [step] at taken
    split at taken
    next found => cases taken; simp [Event.isPublish, State.unlockTo]
    next => cases taken
  | publish call =>
    dsimp only [step] at taken
    split at taken
    next client found => cases taken; simp [Event.isPublish, State.moveTo]
    next => cases taken
  | resetGate call now =>
    dsimp only [step] at taken
    split at taken
    next client found =>
      cases taken
      have present := valid.given call _ client found rfl
      simp [Event.isPublish, State.unlockTo, present]
    next => cases taken
  | cancel call =>
    dsimp only [step] at taken
    split at taken
    next => cases taken
    next => cases taken
    next => cases taken
    next phase _ _ found =>
      cases taken
      split
      · simp [Event.isPublish, State.unlockTo]
      · simp [Event.isPublish, State.moveTo]

variable {now : Nat} {events : List (Event γ)} {state : State γ}

theorem inner_iff_published (ran : run step (.new now) events = some state) :
    state.inner.isSome = true ↔ ∃ event ∈ events, event.isPublish = true := by
  have since : state.inner.isSome = true ↔ Since (fun event : Event γ => event.isPublish = true) (fun _ => False) events :=
    run_since_iff Valid (fun state => state.inner.isSome = true) (valid_new now) nofun
      (fun state event next => valid_step state event next)
      (fun state event next valid taken => by simpa using (step_gate valid taken).1) ran
  rw [since]
  constructor
  · rintro ⟨earlier, event, later, rfl, published, _⟩
    exact ⟨event, by simp, published⟩
  · rintro ⟨event, member, published⟩
    obtain ⟨earlier, later, rfl⟩ := List.append_of_mem member
    exact ⟨earlier, event, later, rfl, published, fun _ _ => id⟩

/-- As long as there is no client, the gate is closed since the last failure for the pause
that the number of failures gives. -/
theorem gate_run (ran : run step (.new now) events = some state) (unpublished : ∀ event ∈ events, event.isPublish = false) :
    state.gate.failures = min (events.countP Event.isConnectErr) u32Max ∧
      ∀ earlier call time later, events = earlier ++ .connectErr call time :: later →
        (∀ event ∈ later, event.isConnectErr = false) →
          state.gate.openAt = time + millis (min (200 * 2 ^ (earlier.countP Event.isConnectErr + 1)) 30000) := by
  induction events using List.reverseRecOn generalizing state with
  | nil =>
    cases ran
    exact ⟨rfl, fun earlier call time later same => by simp at same⟩
  | append_singleton front last ih =>
    obtain ⟨middle, before, after⟩ := run_append ran
    obtain ⟨_, taken, done⟩ := run_cons after
    cases done
    have earlier : ∀ event ∈ front, event.isPublish = false := fun event member => unpublished event (by simp [member])
    have absent : middle.inner = none := by
      by_contra present
      obtain ⟨event, member, published⟩ := (inner_iff_published before).mp (Option.isSome_iff_ne_none.mpr present)
      simp [earlier event member] at published
    obtain ⟨failures, opens⟩ := ih before earlier
    have gate := (step_gate (valid_run before) taken).2 absent
    by_cases failed : last.isConnectErr = true
    · obtain ⟨call, time, rfl⟩ : ∃ call time, last = .connectErr call time := by
        cases last <;> first | exact ⟨_, _, rfl⟩ | cases failed
      have closed : state.gate = ⟨time + millis (defaultDelayMs (Gate.saturatingSucc middle.gate.failures)),
        Gate.saturatingSucc middle.gate.failures⟩ := gate
      rw [closed, failures, saturatingSucc_min, defaultDelayMs_eq, List.countP_append]
      refine ⟨rfl, ?_⟩
      intro earlier other when later same lasting
      obtain ⟨rfl, event, _⟩ | ⟨rest, rfl, _⟩ := concat_cases same
      · cases event
        rfl
      · cases lasting (.connectErr call time) (by simp)
    · have kept : state.gate = middle.gate := by
        rw [gate]
        cases last <;> first | rfl | exact absurd rfl failed
      rw [kept, failures, List.countP_append]
      refine ⟨by simp [failed], ?_⟩
      intro earlier other when later same lasting
      obtain ⟨_, event, _⟩ | ⟨rest, rfl, before⟩ := concat_cases same
      · exact absurd (event ▸ rfl) failed
      · exact opens earlier other when rest before fun event member => lasting event (by simp [member])

end Pauses

/-- A step that a call takes by itself. -/
def Event.isProgress : Event γ → Bool
  | .enter | .cancel _ => false
  | _ => true

/-- A call that holds the lock is never held up. -/
theorem holder_enabled {state : State γ} {call : Nat} {phase : Phase γ} (found : state.calls[call]? = some phase)
    (holds : phase.holdsLock = true) : ∃ event next, step state event = some next ∧ event.isProgress = true := by
  cases phase with
  | started | unconnected | locking | returned | cancelled => cases holds
  | locked =>
    refine ⟨.readLocked call, ?_⟩
    cases present : state.inner <;> simp [step, found, present, Event.isProgress]
  | unconnectedLocked =>
    refine ⟨.checkGateLocked call state.gate.openAt, ?_⟩
    simp [step, found, Event.isProgress]
  | connecting => exact ⟨.connectErr call 0, by simp [step, found, Event.isProgress]⟩
  | connected client => exact ⟨.publish call, by simp [step, found, Event.isProgress]⟩
  | published client => exact ⟨.resetGate call 0, by simp [step, found, Event.isProgress]⟩

theorem step_enabled {state : State γ} (valid : Valid state) {call : Nat} {phase : Phase γ}
    (found : state.calls[call]? = some phase) (unfinished : phase.finished = false) :
    ∃ event next, step state event = some next ∧ event.isProgress = true := by
  cases phase with
  | returned | cancelled => cases unfinished
  | started =>
    refine ⟨.read call, ?_⟩
    cases present : state.inner <;> simp [step, found, present, Event.isProgress]
  | unconnected => exact ⟨.checkGate call 0, by simp [step, found, Event.isProgress]⟩
  | locked | unconnectedLocked | connecting | connected | published => exact holder_enabled found rfl
  | locking =>
    cases locked : state.connectLock with
    | none => exact ⟨.lock call, by simp [step, found, locked, Event.isProgress]⟩
    | some holder =>
      have inside := valid.held holder locked
      have stored := List.getElem?_eq_getElem inside
      exact holder_enabled stored ((valid.lock holder _ stored).mpr locked)

/-- However the steps of the calls interleave: no two connections are made at a time; the client
that a call publishes is never replaced, and is what every call returns that returns one; a
connection is only made while there is no client, and not before the pause after the last
failure is over; and while some call has not ended, one of the calls can go on. -/
theorem lazy_tikv_connections (γ : Type) (start : Nat) (events : List (Event γ)) (state : State γ)
    (ran : run step (.new start) events = some state) :
    (∀ first second : Nat, state.calls[first]? = some .connecting → state.calls[second]? = some .connecting → first = second) ∧
    (∀ client, state.inner = some client → ∀ event next, step state event = some next → next.inner = some client) ∧
    (∀ (call : Nat) (client : γ), state.calls[call]? = some (.returned (some client)) → state.inner = some client) ∧
    (∀ call now next, step state (.checkGateLocked call now) = some next → next.calls[call]? = some .connecting →
      (∀ event ∈ events, event.isPublish = false) ∧
      ∀ earlier other time later, events = earlier ++ .connectErr other time :: later →
        (∀ event ∈ later, event.isConnectErr = false) →
          time + millis (min (200 * 2 ^ (earlier.countP Event.isConnectErr + 1)) 30000) ≤ now) ∧
    ∀ (call : Nat) (phase : Phase γ), state.calls[call]? = some phase → phase.finished = false →
      ∃ event next, step state event = some next ∧ event.isProgress = true := by
  have valid := valid_run ran
  refine ⟨?_, ?_, ?_, ?_, ?_⟩
  · intro first second one two
    have own := (valid.lock first _ one).mp rfl
    exact Option.some.inj (own.symm.trans ((valid.lock second _ two).mp rfl))
  · exact fun _ present _ _ taken => inner_kept valid present taken
  · exact fun call client returned => valid.given call _ client returned rfl
  · intro call now next taken connecting
    dsimp only [step] at taken
    split at taken
    next found =>
      split at taken
      next closed =>
        cases taken
        have inside := (List.getElem?_eq_some_iff.mp found).1
        simp [State.unlockTo, inside] at connecting
      next opened =>
        have absent := valid.fresh call _ found rfl
        have unpublished : ∀ event ∈ events, event.isPublish = false := by
          intro event member
          by_contra published
          have present := (inner_iff_published ran).mpr ⟨event, member, by simpa using published⟩
          simp [absent] at present
        refine ⟨unpublished, ?_⟩
        intro earlier other time later same lasting
        rw [← (gate_run ran unpublished).2 earlier other time later same lasting]
        exact Nat.not_lt.mp opened
    next => cases taken
  · exact fun _ _ found unfinished => step_enabled valid found unfinished

/-- A connection that fails, and a second call that is about to connect. -/
def secondAttempt : List (Event String) :=
  [.enter, .read 0, .checkGate 0 0, .lock 0, .readLocked 0, .checkGateLocked 0 0, .connectErr 0 5,
    .enter, .read 1, .checkGate 1 500000000, .lock 1, .readLocked 1]

theorem second_attempt_waits :
    ∃ state, run step (.new 0) secondAttempt = some state ∧
      ∀ now next, step state (.checkGateLocked 1 now) = some next → next.calls[1]? = some .connecting → 5 + millis 400 ≤ now := by
  have ran : ∃ state, run step (.new 0) secondAttempt = some state := ⟨_, rfl⟩
  obtain ⟨state, ran⟩ := ran
  refine ⟨state, ran, fun now next taken connecting => ?_⟩
  obtain ⟨_, _, _, spaced, _⟩ := lazy_tikv_connections String 0 secondAttempt state ran
  exact (spaced 1 now next taken connecting).2 (secondAttempt.take 6) 0 5 (secondAttempt.drop 7) rfl (by decide)

end AiGateway.LazyBackends.LazyTikv
