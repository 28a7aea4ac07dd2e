import Mathlib.Data.List.Induction
import Mathlib.Data.List.Perm.Basic

/-! Runs of a machine that takes one event at a time, and loops that may leave early.
A run stops at the first event its state does not admit. -/

namespace AiGateway.Lib.Runs

section Machine
variable {σ ε : Type} (step : σ → ε → Option σ)

def run : σ → List ε → Option σ
  | state, [] => some state
  | state, event :: rest => (step state event).bind fun next => run next rest

/-- Every event of the run is taken in a state where `allowed` holds of it. -/
def Along (allowed : σ → ε → Prop) : σ → List ε → Prop
  | _, [] => True
  | state, event :: rest =>
    allowed state event ∧
      match step state event with
      | none => True
      | some next => Along allowed next rest

instance Along.decidable (allowed : σ → ε → Prop) [∀ state event, Decidable (allowed state event)] :
    ∀ state events, Decidable (Along step allowed state events)
  | _, [] => .isTrue trivial
  | state, event :: rest =>
    have later : Decidable (match step state event with
        | none => True
        | some next => Along step allowed next rest) :=
      match step state event with
      | none => .isTrue trivial
      | some next => Along.decidable allowed next rest
    @instDecidableAnd _ _ _ later

variable {step}

theorem Along.next {allowed : σ → ε → Prop} {state next : σ} {event : ε} {rest : List ε}
    (along : Along step allowed state (event :: rest)) (taken : step state event = some next) :
    Along step allowed next rest := by
  have later := along.2
  rw [taken] at later
  exact later

theorem run_cons {state final : σ} {event : ε} {rest : List ε} (ran : run step state (event :: rest) = some final) :
    ∃ next, step state event = some next ∧ run step next rest = some final :=
  Option.bind_eq_some_iff.mp ran

theorem run_append {state final : σ} {first last : List ε} (ran : run step state (first ++ last) = some final) :
    ∃ middle, run step state first = some middle ∧ run step middle last = some final := by
  induction first generalizing state with
  | nil => exact ⟨state, rfl, ran⟩
  | cons event rest ih =>
    obtain ⟨next, taken, ran⟩ := run_cons ran
    obtain ⟨middle, before, after⟩ := ih ran
    refine ⟨middle, ?_, after⟩
    rw [run, taken]
    exact before

theorem run_trans {state middle final : σ} {first last : List ε} (before : run step state first = some middle)
    (after : run step middle last = some final) : run step state (first ++ last) = some final := by
  induction first generalizing state with
  | nil => cases before; exact after
  | cons event rest ih =>
    obtain ⟨next, taken, before⟩ := run_cons before
    rw [List.cons_append, run, taken]
    exact ih before

theorem Along.append {allowed : σ → ε → Prop} {state middle : σ} {first last : List ε}
    (along : Along step allowed state (first ++ last)) (ran : run step state first = some middle) :
    Along step allowed state first ∧ Along step allowed middle last := by
  induction first generalizing state with
  | nil => cases ran; exact .intro trivial along
  | cons event rest ih =>
    obtain ⟨next, taken, ran⟩ := run_cons ran
    obtain ⟨before, after⟩ := ih (along.next taken) ran
    refine ⟨⟨along.1, ?_⟩, after⟩
    rw [taken]
    exact before

theorem run_invariant {allowed : σ → ε → Prop} {invariant : σ → Prop}
    (kept : ∀ state event next, invariant state → allowed state event → step state event = some next → invariant next)
    {state final : σ} {events : List ε} (start : invariant state) (along : Along step allowed state events)
    (ran : run step state events = some final) : invariant final := by
  induction events generalizing state with
  | nil => cases ran; exact start
  | cons event rest ih =>
    obtain ⟨next, taken, ran⟩ := run_cons ran
    exact ih (kept state event next start along.1 taken) (along.next taken) ran

theorem along_of_forall {allowed : ε → Prop} (state : σ) {events : List ε} (all : ∀ event ∈ events, allowed event) :
    Along step (fun _ event => allowed event) state events := by
  induction events generalizing state with
  | nil => trivial
  | cons event rest ih =>
    refine ⟨all event (by simp), ?_⟩
    split
    · trivial
    · exact ih _ fun other member => all other (by simp [member])

theorem along_trivial (state : σ) (events : List ε) : Along step (fun _ _ => True) state events :=
  along_of_forall state fun _ _ => trivial

section Ledger
variable (step)

/-- How many events of the run are taken in a state where `counts` holds of them. -/
def occurrences (counts : σ → ε → Bool) : σ → List ε → Nat
  | _, [] => 0
  | state, event :: rest =>
    (if counts state event then 1 else 0) +
      match step state event with
      | none => 0
      | some next => occurrences counts next rest

variable {step}

/-- A balance that every counted event raises by one, and no other event changes. -/
theorem run_ledger {counts : σ → ε → Bool} {balanced : σ → Nat → Prop}
    (kept : ∀ state event next surplus, balanced state surplus → step state event = some next →
      balanced next (surplus + if counts state event then 1 else 0))
    {state final : σ} {events : List ε} {surplus : Nat} (start : balanced state surplus)
    (ran : run step state events = some final) : balanced final (surplus + occurrences step counts state events) := by
  induction events generalizing state surplus with
  | nil => cases ran; exact start
  | cons event rest ih =>
    obtain ⟨next, taken, ran⟩ := run_cons ran
    have later := ih (kept state event next surplus start taken) ran
    simpa only [occurrences, taken, Nat.add_assoc] using later

theorem occurrences_eq_zero_iff (counts : σ → ε → Bool) (state : σ) (events : List ε) :
    occurrences step counts state events = 0 ↔
      Along step (fun state event => counts state event = false) state events := by
  induction events generalizing state with
  | nil => simp [occurrences, Along]
  | cons event rest ih =>
    rw [occurrences, Along, Nat.add_eq_zero_iff]
    apply and_congr
    · cases counts state event <;> simp
    · split
      · simp
      · exact ih _

end Ledger

end Machine

section Total
variable {σ ε : Type}

/-- A value is the same in every state that a run passes through exactly when each of its
steps, in the state it is taken in, keeps the value. -/
theorem constant_iff {β : Type} (step : σ → ε → σ) (value : σ → β) (start : σ) (events : List ε) :
    (∀ reached, reached <+: events → value (reached.foldl step start) = value start) ↔
      ∀ before event after, events = before ++ event :: after →
        value (step (before.foldl step start) event) = value (before.foldl step start) := by
  constructor
  · intro constant before event after passed
    have earlier := constant before ⟨event :: after, passed.symm⟩
    have later := constant (before ++ [event]) ⟨after, by simp [passed]⟩
    rw [List.foldl_append] at later
    exact later.trans earlier.symm
  · intro kept reached
    induction reached using List.reverseRecOn with
    | nil => exact fun _ => rfl
    | append_singleton before event ih =>
      rintro ⟨after, passed⟩
      have earlier := ih ⟨event :: after, by simpa using passed⟩
      have stepped := kept before event after (by simpa using passed.symm)
      rw [List.foldl_append]
      exact stepped.trans earlier

end Total

section Parties
variable {α : Type}

/-- One party of many moves: the others count as before. -/
theorem countP_set_add (p : α → Bool) {parties : List α} {index : Nat} {before : α}
    (found : parties[index]? = some before) (after : α) :
    (parties.set index after).countP p + (if p before then 1 else 0) = parties.countP p + if p after then 1 else 0 := by
  obtain ⟨inside, same⟩ := List.getElem?_eq_some_iff.mp found
  rw [List.countP_set inside, same]
  split
  next counted =>
    have positive : 0 < parties.countP p := List.countP_pos_iff.mpr ⟨before, same ▸ List.getElem_mem inside, counted⟩
    omega
  next => omega

theorem countP_set_same (p : α → Bool) {parties : List α} {index : Nat} {before : α}
    (found : parties[index]? = some before) (after : α) (same : p after = p before) :
    (parties.set index after).countP p = parties.countP p := by
  have moved := countP_set_add p found after
  rw [same] at moved
  omega

theorem countP_set_gained (p : α → Bool) {parties : List α} {index : Nat} {before : α}
    (found : parties[index]? = some before) (after : α) (was : p before = false) (becomes : p after = true) :
    (parties.set index after).countP p = parties.countP p + 1 := by
  have moved := countP_set_add p found after
  rw [was, becomes] at moved
  simpa using moved

theorem countP_set_lost (p : α → Bool) {parties : List α} {index : Nat} {before : α}
    (found : parties[index]? = some before) (after : α) (was : p before = true) (becomes : p after = false) :
    (parties.set index after).countP p + 1 = parties.countP p := by
  have moved := countP_set_add p found after
  rw [was, becomes] at moved
  simpa using moved

theorem countP_set_le (p : α → Bool) {parties : List α} {index : Nat} {before : α}
    (found : parties[index]? = some before) (after : α) (drops : p after = true → p before = true) :
    (parties.set index after).countP p ≤ parties.countP p := by
  have moved := countP_set_add p found after
  by_cases counted : p after = true
  · rw [counted, drops counted] at moved
    omega
  · rw [if_neg counted] at moved
    omega

theorem countP_eraseIdx_add (p : α → Bool) {parties : List α} {index : Nat} {gone : α}
    (found : parties[index]? = some gone) :
    (parties.eraseIdx index).countP p + (if p gone then 1 else 0) = parties.countP p := by
  obtain ⟨inside, same⟩ := List.getElem?_eq_some_iff.mp found
  rw [← (List.getElem_cons_eraseIdx_perm inside).countP_eq p, List.countP_cons, same]

end Parties

section Loop
variable {σ ε α : Type}

/-- A `for` loop whose body may leave with an error. What was written before the error
stays written. -/
def forEach (body : α → σ → σ × Except ε Unit) : List α → σ → σ × Except ε Unit
  | [], state => (state, .ok ())
  | item :: rest, state =>
    match body item state with
    | (next, .ok _) => forEach body rest next
    | (next, .error error) => (next, .error error)

theorem forEach_append (body : α → σ → σ × Except ε Unit) (first last : List α) (state : σ) :
    forEach body (first ++ last) state =
      match forEach body first state with
      | (next, .ok _) => forEach body last next
      | (next, .error error) => (next, .error error) := by
  induction first generalizing state with
  | nil => rfl
  | cons item rest ih =>
    simp only [List.cons_append, forEach]
    split
    · exact ih _
    · rfl

theorem forEach_flatMap {β : Type} (body : β → σ → σ × Except ε Unit) (inner : α → List β) (items : List α) (state : σ) :
    forEach (fun item => forEach body (inner item)) items state = forEach body (items.flatMap inner) state := by
  induction items generalizing state with
  | nil => rfl
  | cons item rest ih =>
    simp only [forEach, List.flatMap_cons, forEach_append, ih]

def Ends (kept failed : σ → Prop) : σ × Except ε Unit → Prop
  | (state, .ok _) => kept state
  | (state, .error _) => failed state

/-- What the body keeps while it succeeds holds when the loop ends; what it leaves behind
when it fails holds when the loop fails. -/
theorem forEach_ends {body : α → σ → σ × Except ε Unit} {kept failed : σ → Prop} (items : List α)
    (step : ∀ item ∈ items, ∀ state, kept state → Ends kept failed (body item state))
    (state : σ) (start : kept state) : Ends kept failed (forEach body items state) := by
  induction items generalizing state with
  | nil => exact start
  | cons item rest ih =>
    have once := step item (by simp) state start
    simp only [forEach]
    rcases equal : body item state with ⟨next, result⟩
    rw [equal] at once
    cases result with
    | ok _ => exact ih (fun other member => step other (by simp [member])) next once
    | error _ => exact once

theorem bind_ok {β : Type} {first : Except ε α} {rest : α → Except ε β} {value : β}
    (done : (first >>= rest) = .ok value) : ∃ middle, first = .ok middle ∧ rest middle = .ok value := by
  cases first with
  | error error => cases done
  | ok middle => exact ⟨middle, rfl, done⟩

theorem check_ok {refused : Prop} [Decidable refused] {error : ε} {rest : Except ε α} {value : α}
    (done : (if refused then .error error else rest) = .ok value) : ¬refused ∧ rest = .ok value := by
  split at done
  next => cases done
  next passed => exact ⟨passed, done⟩

theorem map_ok {β : Type} {f : α → β} {read : Except ε α} {result : β} (accepted : read.map f = .ok result) :
    ∃ value, read = .ok value ∧ f value = result := by
  cases read with
  | error => cases accepted
  | ok value => cases accepted; exact ⟨value, rfl, rfl⟩

theorem mapError_ok_iff {ε' : Type} {result : Except ε α} {f : ε → ε'} {value : α} :
    result.mapError f = .ok value ↔ result = .ok value := by
  cases result with
  | error error => simp [Except.mapError]
  | ok other => simp [Except.mapError]

theorem map_ok_iff {β : Type} {f : α → β} (injective : ∀ first second, f first = f second → first = second)
    {read : Except ε α} {value : α} : read.map f = .ok (f value) ↔ read = .ok value := by
  constructor
  · intro accepted
    obtain ⟨other, rfl, same⟩ := map_ok accepted
    rw [injective other value same]
  · rintro rfl
    rfl

theorem forM_ok_iff {body : α → Except ε Unit} {items : List α} :
    items.forM body = .ok () ↔ ∀ item ∈ items, body item = .ok () := by
  induction items with
  | nil => simp [List.forM, pure, Except.pure]
  | cons item rest ih =>
    rw [List.forall_mem_cons, ← ih]
    constructor
    · intro done
      obtain ⟨_, first, later⟩ := bind_ok done
      exact ⟨first, later⟩
    · intro ⟨first, later⟩
      rw [← later]
      show (body item >>= fun _ => rest.forM body) = rest.forM body
      rw [first]
      rfl

/-- A fold whose steps succeed under a condition on the item alone. -/
theorem foldlM_ok_iff {σ : Type} {step : σ → α → Except ε σ} {admits : α → Prop} {apply : σ → α → σ}
    (steps : ∀ state item next, step state item = .ok next ↔ admits item ∧ next = apply state item) {items : List α}
    {start final : σ} :
    items.foldlM step start = .ok final ↔ (∀ item ∈ items, admits item) ∧ final = items.foldl apply start := by
  induction items generalizing start with
  | nil => simp [pure, Except.pure, eq_comm]
  | cons item rest ih =>
    rw [List.forall_mem_cons, List.foldlM_cons, List.foldl_cons]
    constructor
    · intro done
      obtain ⟨next, first, later⟩ := bind_ok done
      obtain ⟨admitted, rfl⟩ := (steps _ _ _).mp first
      obtain ⟨all, ends⟩ := ih.mp later
      exact ⟨⟨admitted, all⟩, ends⟩
    · intro ⟨⟨admitted, all⟩, ends⟩
      rw [(steps _ _ _).mpr ⟨admitted, rfl⟩]
      exact ih.mpr ⟨all, ends⟩

private theorem map_of_mapM_ok {β : Type} {f : α → Except ε β} {items : List α} {results : List β}
    (done : items.mapM f = .ok results) : items.map f = results.map .ok := by
  induction items generalizing results with
  | nil => cases done; rfl
  | cons item rest ih =>
    rw [List.mapM_cons] at done
    rcases first : f item with error | result
    · rw [first] at done
      cases done
    · rcases later : rest.mapM f with error | others
      · rw [first, later] at done
        cases done
      · rw [first, later] at done
        cases done
        rw [List.map_cons, List.map_cons, first, ih later]

theorem result_of_mapM_ok {β : Type} {f : α → Except ε β} {items : List α} {results : List β}
    (done : items.mapM f = .ok results) {item : α} (member : item ∈ items) : ∃ result ∈ results, f item = .ok result := by
  have listed := List.mem_map_of_mem (f := f) member
  rw [map_of_mapM_ok done] at listed
  obtain ⟨result, inside, same⟩ := List.mem_map.mp listed
  exact ⟨result, inside, same.symm⟩

theorem item_of_mapM_ok {β : Type} {f : α → Except ε β} {items : List α} {results : List β}
    (done : items.mapM f = .ok results) {result : β} (member : result ∈ results) : ∃ item ∈ items, f item = .ok result := by
  have listed := List.mem_map_of_mem (f := fun result => (.ok result : Except ε β)) member
  rw [← map_of_mapM_ok done] at listed
  exact List.mem_map.mp listed

end Loop

end AiGateway.Lib.Runs
