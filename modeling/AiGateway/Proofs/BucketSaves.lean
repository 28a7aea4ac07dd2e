import AiGateway.KvCache

/-! Concurrent saves into one bucket. A call puts where its own probe found a slot empty,
and nothing keeps another call from doing the same. Calls whose probes and put no other put
comes between each have a slot to themselves. -/

namespace AiGateway.Proofs
open KvCache Lib.Runs

def Quiet (json : Except LlmKvCacheError (List UInt8)) : Phase → Prop
  | .probing _ => True
  | .putting _ text => json = .ok text
  | .returned none result => result ≠ .ok true
  | .returned (some _) _ => False

private theorem chooseSlot_quiet (json : Except LlmKvCacheError (List UInt8))
    (outs : List (Except LlmKvCacheError (Option (List UInt8)))) : Quiet json (chooseSlot json outs) := by
  rw [chooseSlot]
  split
  · simp [Quiet]
  · split
    · simp [Quiet]
    · split
      · simp [Quiet]
      · rfl

def putStore (store : List UInt8 → Option (List UInt8)) (key json : List UInt8) (written : Bool) :
    List UInt8 → Option (List UInt8) :=
  if written then Function.update store key (some json) else store

section Steps
variable {backend : Backend} {bucket : Bucket}

/-- A probing call notes an answer or makes its choice, or a call makes its put. -/
theorem saveStep_moves {state next : BucketState} {event : BucketEvent}
    (taken : saveStep backend bucket state event = some next) :
    (∃ index slot contact call key answers, event = .probe index slot contact ∧ state.calls[index]? = some call ∧
        call.phase = .probing answers ∧ bucket.keys[slot]? = some key ∧
        next = state.setPhase index call (.probing (answers.set slot (some (backend.get contact (state.store key)))))) ∨
      (∃ index call answers, event = .choose index ∧ state.calls[index]? = some call ∧ call.phase = .probing answers ∧
        answers.all Option.isSome = true ∧
        next = state.setPhase index call (chooseSlot call.json (answers.filterMap id))) ∨
      ∃ index contact call slot json key, event = .put index contact ∧ state.calls[index]? = some call ∧
        call.phase = .putting slot json ∧ bucket.keys[slot]? = some key ∧
        next = { state with store := putStore state.store key json (backend.put contact json).1 }.setPhase index call
          (.returned (some slot) ((backend.put contact json).2.map fun _ => true)) := by
  cases event with
  | probe index slot contact =>
    simp only [saveStep] at taken
    split at taken
    next call key found located _ =>
      split at taken
      next answers probing =>
        split at taken <;> cases taken
        exact .inl ⟨index, slot, contact, call, key, answers, rfl, found, probing, located, rfl⟩
      next => cases taken
    next => cases taken
  | choose index =>
    simp only [saveStep] at taken
    split at taken
    next => cases taken
    next call found =>
      split at taken
      next answers probing =>
        split at taken <;> cases taken
        next answered => exact .inr (.inl ⟨index, call, answers, rfl, found, probing, answered, rfl⟩)
      next => cases taken
  | put index contact =>
    simp only [saveStep] at taken
    split at taken
    next call found _ =>
      split at taken
      next slot json putting =>
        split at taken
        next => cases taken
        next key located =>
          cases taken
          exact .inr (.inr ⟨index, contact, call, slot, json, key, rfl, found, putting, located, rfl⟩)
      next => cases taken
    next => cases taken

/-- A step either moves one probing call and leaves the store, or is one call's put. -/
theorem saveStep_cases {state next : BucketState} {event : BucketEvent}
    (taken : saveStep backend bucket state event = some next) :
    (∃ index call answers phase, state.calls[index]? = some call ∧ call.phase = .probing answers ∧
        Quiet call.json phase ∧ next = state.setPhase index call phase) ∨
      ∃ index contact call slot json key, event = .put index contact ∧ state.calls[index]? = some call ∧
        call.phase = .putting slot json ∧ bucket.keys[slot]? = some key ∧
        next = { state with store := putStore state.store key json (backend.put contact json).1 }.setPhase index call
          (.returned (some slot) ((backend.put contact json).2.map fun _ => true)) := by
  obtain ⟨index, _, _, call, _, answers, _, found, probing, _, rfl⟩ |
    ⟨index, call, answers, _, found, probing, _, rfl⟩ | put := saveStep_moves taken
  · exact .inl ⟨index, call, answers, .probing _, found, probing, trivial, rfl⟩
  · exact .inl ⟨index, call, answers, _, found, probing, chooseSlot_quiet _ _, rfl⟩
  · exact .inr put

end Steps

private theorem calls_set {calls : List SaveCall} {index i : Nat} {changed found : SaveCall}
    (got : (calls.set index changed)[i]? = some found) :
    (i = index ∧ found = changed) ∨ (i ≠ index ∧ calls[i]? = some found) := by
  rw [List.getElem?_set] at got
  split at got
  next same =>
    split at got <;> cases got
    exact .inl ⟨same.symm, rfl⟩
  next different => exact .inr ⟨fun same => different same.symm, got⟩

private theorem countP_set_of_not {calls : List SaveCall} {index : Nat} {call changed : SaveCall}
    (p : SaveCall → Bool) (found : calls[index]? = some call) (before : p call = false) :
    (calls.set index changed).countP p = calls.countP p + if p changed then 1 else 0 := by
  have moved := countP_set_add p found changed
  rw [before] at moved
  simpa using moved

private theorem countP_update (keys : List (List UInt8)) (nodup : keys.Nodup)
    (store : List UInt8 → Option (List UInt8)) {key : List UInt8} (member : key ∈ keys) (json : List UInt8) :
    keys.countP (fun other => (Function.update store key (some json) other).isSome) =
      keys.countP (fun other => (store other).isSome) + if (store key).isSome then 0 else 1 := by
  induction keys with
  | nil => cases member
  | cons first rest ih =>
    obtain ⟨absent, nodup⟩ := List.nodup_cons.mp nodup
    by_cases same : key = first
    · subst same
      have others : rest.countP (fun other => (Function.update store key (some json) other).isSome) =
          rest.countP (fun other => (store other).isSome) := by
        apply List.countP_congr
        intro other inside
        have different : other ≠ key := fun equal => absent (equal ▸ inside)
        rw [Function.update_of_ne different]
      rw [List.countP_cons, List.countP_cons, others, Function.update_self]
      cases (store key) <;> simp
    · have inside : key ∈ rest := (List.mem_cons.mp member).resolve_left same
      rw [List.countP_cons, List.countP_cons, ih nodup inside, Function.update_of_ne (Ne.symm same)]
      omega

private theorem occupied_put (bucket : Bucket) (state : BucketState) {slot : Nat} {key : List UInt8}
    (located : bucket.keys[slot]? = some key) (json : List UInt8) (written : Bool) (calls : List SaveCall) :
    occupied bucket ⟨putStore state.store key json written, calls⟩ =
      occupied bucket state + if written && !(state.store key).isSome then 1 else 0 := by
  have member := List.mem_of_getElem? located
  cases written with
  | false => simp [occupied, putStore]
  | true =>
    simp only [occupied, putStore, if_true, countP_update bucket.keys bucket.nodup state.store member json]
    cases (state.store key) <;> simp

section Bound
variable {backend : Backend} {bucket : Bucket}

private theorem quiet_not_reachedPut {call : SaveCall} {phase : Phase} (quiet : Quiet call.json phase) :
    SaveCall.reachedPut { call with phase := phase } = false := by
  match phase, quiet with
  | .probing _, _ => rfl
  | .putting _ _, _ => rfl
  | .returned none _, _ => rfl

private theorem bounded_step {start : Nat} (state : BucketState) (event : BucketEvent) (next : BucketState)
    (bounded : occupied bucket state ≤ start + state.calls.countP SaveCall.reachedPut)
    (taken : saveStep backend bucket state event = some next) :
    occupied bucket next ≤ start + next.calls.countP SaveCall.reachedPut := by
  obtain ⟨index, call, answers, phase, found, probing, quiet, rfl⟩ |
    ⟨index, contact, call, slot, json, key, _, found, putting, located, rfl⟩ := saveStep_cases taken
  · have before : SaveCall.reachedPut call = false := by simp [SaveCall.reachedPut, probing]
    simp only [BucketState.setPhase, countP_set_of_not SaveCall.reachedPut found before, quiet_not_reachedPut quiet]
    exact bounded
  · have before : SaveCall.reachedPut call = false := by simp [SaveCall.reachedPut, putting]
    simp only [BucketState.setPhase, countP_set_of_not SaveCall.reachedPut found before,
      occupied_put bucket state located]
    simp only [SaveCall.reachedPut, if_true]
    split <;> omega

end Bound

section Probes
variable (backend : Backend) (bucket : Bucket)

/-- A probe calls no slot empty that is not; an acknowledged put is written, and a failed one
is not. -/
def honest (state : BucketState) : BucketEvent → Bool
  | .probe _ slot contact =>
    match bucket.keys[slot]? with
    | some key => !(backend.get contact (state.store key) matches .ok none) || (state.store key).isNone
    | none => true
  | .choose _ => true
  | .put index contact =>
    match state.calls[index]? with
    | some ⟨_, .putting _ json⟩ =>
      match backend.put contact json with
      | (written, .ok _) => written
      | (written, .error _) => !written
    | _ => true

def isProbeOf (call : Nat) : BucketEvent → Bool
  | .probe other _ _ => other == call
  | _ => false

def isPut : BucketEvent → Bool
  | .put _ _ => true
  | _ => false

/-- A put has been made since the call made its first probe. -/
def overtaken (call : Nat) : List BucketEvent → Bool
  | [] => false
  | event :: rest => (isProbeOf call event && rest.any isPut) || overtaken call rest

/-- No other put comes between a call's probes and its put. -/
def Undisturbed (events : List BucketEvent) : Prop :=
  ∀ index < events.length, match events[index]? with
    | some (.put call _) => overtaken call (events.take index) = false
    | _ => True

instance (events : List BucketEvent) : Decidable (Undisturbed events) :=
  @Nat.decidableBallLT events.length _ fun index _ =>
    match events[index]? with
    | some (.put call _) => inferInstanceAs (Decidable (overtaken call (events.take index) = false))
    | some (.probe _ _ _) | some (.choose _) | none => .isTrue trivial

theorem overtaken_concat (call : Nat) (events : List BucketEvent) (last : BucketEvent) :
    overtaken call (events ++ [last]) = (overtaken call events || (isPut last && events.any (isProbeOf call))) := by
  induction events with
  | nil => simp [overtaken]
  | cons event rest ih =>
    rw [List.cons_append, overtaken, overtaken, ih, List.any_append, List.any_cons, List.any_cons, List.any_nil]
    cases isProbeOf call event <;> cases isPut last <;> cases rest.any isPut <;> cases overtaken call rest <;> rfl

theorem Undisturbed.concat {events : List BucketEvent} {last : BucketEvent} (undisturbed : Undisturbed (events ++ [last])) :
    Undisturbed events ∧ ∀ call contact, last = .put call contact → overtaken call events = false := by
  constructor
  · intro index inside
    have here := undisturbed index (by rw [List.length_append]; omega)
    rwa [List.getElem?_append_left inside, List.take_append_of_le_length (Nat.le_of_lt inside)] at here
  · rintro call contact rfl
    have here := undisturbed events.length (by simp)
    simpa using here

variable {backend bucket}

/-- The slots that the call has found empty are empty. -/
def FoundEmpty (bucket : Bucket) (store : List UInt8 → Option (List UInt8)) : Phase → Prop
  | .probing answers => ∀ (slot : Nat) (key : List UInt8), answers[slot]? = some (some (.ok none)) → bucket.keys[slot]? = some key → store key = none
  | .putting slot _ => ∀ key, bucket.keys[slot]? = some key → store key = none
  | .returned _ _ => True

/-- No slot has answered the call. -/
def Unprobed : Phase → Prop
  | .probing answers => ∀ (slot : Nat) (answer : Except LlmKvCacheError (Option (List UInt8))),
      answers[slot]? ≠ some (some answer)
  | .putting _ _ => False
  | .returned _ _ => True

theorem Unprobed.foundEmpty {phase : Phase} (unprobed : Unprobed phase) (store : List UInt8 → Option (List UInt8)) :
    FoundEmpty bucket store phase := by
  match phase, unprobed with
  | .probing _, unprobed => exact fun slot _ answered => absurd answered (unprobed slot _)
  | .returned _ _, _ => trivial

theorem map_some_of_all {α : Type} {answers : List (Option α)} (answered : answers.all Option.isSome = true) :
    answers = (answers.filterMap id).map some := by
  induction answers with
  | nil => rfl
  | cons answer rest ih =>
    rw [List.all_cons, Bool.and_eq_true] at answered
    obtain ⟨value, rfl⟩ := Option.isSome_iff_exists.mp answered.1
    rw [List.filterMap_cons_some (show id (some value) = some value from rfl), List.map_cons, ← ih answered.2]

/-- One more answer of a slot, empty only if the slot is. -/
theorem FoundEmpty.note {store : List UInt8 → Option (List UInt8)} {slot : Nat} {key : List UInt8}
    {answers : List (Option (Except LlmKvCacheError (Option (List UInt8))))}
    {answer : Except LlmKvCacheError (Option (List UInt8))} (clean : FoundEmpty bucket store (.probing answers))
    (located : bucket.keys[slot]? = some key) (told : answer = .ok none → store key = none) :
    FoundEmpty bucket store (.probing (answers.set slot (some answer))) := by
  intro place other empty there
  rw [List.getElem?_set] at empty
  split at empty
  next same =>
    subst same
    rw [located] at there
    cases there
    split at empty
    next => exact told (Option.some.inj (Option.some.inj empty))
    next => cases empty
  next => exact clean place other empty there

/-- The chosen slot is one that has answered empty. -/
theorem chooseSlot_foundEmpty {store : List UInt8 → Option (List UInt8)} {json : Except LlmKvCacheError (List UInt8)}
    {answers : List (Option (Except LlmKvCacheError (Option (List UInt8))))} (answered : answers.all Option.isSome = true)
    (clean : FoundEmpty bucket store (.probing answers)) : FoundEmpty bucket store (chooseSlot json (answers.filterMap id)) := by
  rw [chooseSlot]
  split
  next => trivial
  next =>
    split
    next => trivial
    next slot free =>
      split
      next => trivial
      next =>
        obtain ⟨inside, empty, _⟩ := List.findIdx?_eq_some_iff_getElem.mp free
        have probed : (answers.filterMap id)[slot]? = some (.ok none) := by
          rw [List.getElem?_eq_getElem inside]
          split at empty
          next same => rw [same]
          next => cases empty
        intro key located
        refine clean slot key ?_ located
        rw [map_some_of_all answered, List.getElem?_map, probed]
        rfl

theorem chooseSlot_unprobed {json : Except LlmKvCacheError (List UInt8)}
    {answers : List (Option (Except LlmKvCacheError (Option (List UInt8))))} (answered : answers.all Option.isSome = true)
    (unprobed : Unprobed (.probing answers)) : Unprobed (chooseSlot json (answers.filterMap id)) := by
  cases answers with
  | nil => trivial
  | cons answer rest =>
    rw [List.all_cons, Bool.and_eq_true] at answered
    obtain ⟨value, rfl⟩ := Option.isSome_iff_exists.mp answered.1
    exact absurd rfl (unprobed 0 value)

/-- A call that no put has overtaken knows the slots that it has probed. -/
structure Informed (bucket : Bucket) (events : List BucketEvent) (state : BucketState) : Prop where
  unprobed : ∀ (i : Nat) (call : SaveCall), state.calls[i]? = some call → events.any (isProbeOf i) = false → Unprobed call.phase
  clean : ∀ (i : Nat) (call : SaveCall), state.calls[i]? = some call → overtaken i events = false →
    FoundEmpty bucket state.store call.phase

theorem informed_step {events : List BucketEvent} {state next : BucketState} {event : BucketEvent}
    (informed : Informed bucket events state) (truthful : honest backend bucket state event = true)
    (taken : saveStep backend bucket state event = some next) : Informed bucket (events ++ [event]) next := by
  have before {i : Nat} (none : (events ++ [event]).any (isProbeOf i) = false) :
      events.any (isProbeOf i) = false ∧ isProbeOf i event = false := by simpa using none
  have earlier {i : Nat} (alone : overtaken i (events ++ [event]) = false) :
      overtaken i events = false ∧ (isPut event && events.any (isProbeOf i)) = false := by
    simpa only [overtaken_concat, Bool.or_eq_false_iff] using alone
  obtain ⟨index, slot, contact, call, key, answers, rfl, found, probing, located, rfl⟩ |
    ⟨index, call, answers, rfl, found, probing, answered, rfl⟩ |
    ⟨index, contact, call, slot, json, key, rfl, found, putting, located, rfl⟩ := saveStep_moves taken
  · constructor
    · intro i other got none
      obtain ⟨rfl, rfl⟩ | ⟨_, got⟩ := calls_set got
      · cases (before none).2.symm.trans (beq_self_eq_true i)
      · exact informed.unprobed i other got (before none).1
    · intro i other got alone
      obtain ⟨rfl, rfl⟩ | ⟨_, got⟩ := calls_set got
      · have clean := informed.clean i call found (earlier alone).1
        rw [probing] at clean
        refine clean.note located fun said => ?_
        simpa [honest, located, said] using truthful
      · exact informed.clean i other got (earlier alone).1
  · constructor
    · intro i other got none
      obtain ⟨rfl, rfl⟩ | ⟨_, got⟩ := calls_set got
      · have unprobed := informed.unprobed i call found (before none).1
        rw [probing] at unprobed
        exact chooseSlot_unprobed answered unprobed
      · exact informed.unprobed i other got (before none).1
    · intro i other got alone
      obtain ⟨rfl, rfl⟩ | ⟨_, got⟩ := calls_set got
      · have clean := informed.clean i call found (earlier alone).1
        rw [probing] at clean
        exact chooseSlot_foundEmpty answered clean
      · exact informed.clean i other got (earlier alone).1
  · constructor
    · intro i other got none
      obtain ⟨rfl, rfl⟩ | ⟨_, got⟩ := calls_set got
      · trivial
      · exact informed.unprobed i other got (before none).1
    · intro i other got alone
      obtain ⟨rfl, rfl⟩ | ⟨_, got⟩ := calls_set got
      · trivial
      · -- a call that has probed nothing yet is not overtaken by the put
        exact (informed.unprobed i other got (by simpa [isPut] using (earlier alone).2)).foundEmpty _

theorem informed_start (store : List UInt8 → Option (List UInt8)) (entries : List (Except LlmKvCacheError (List UInt8))) :
    Informed bucket [] (.start bucket store entries) := by
  have unprobed : ∀ (i : Nat) (call : SaveCall), (BucketState.start bucket store entries).calls[i]? = some call →
      Unprobed call.phase := by
    intro i call got
    simp only [BucketState.start, List.getElem?_map] at got
    obtain ⟨json, _, rfl⟩ := Option.map_eq_some_iff.mp got
    intro slot answer answered
    rw [List.getElem?_replicate] at answered
    split at answered <;> cases answered
  exact ⟨fun i call got _ => unprobed i call got, fun i call got _ => (unprobed i call got).foundEmpty _⟩

theorem honest_put {state : BucketState} {index slot : Nat} {contact : Contact} {call : SaveCall} {json : List UInt8}
    (found : state.calls[index]? = some call) (putting : call.phase = .putting slot json)
    (truthful : honest backend bucket state (.put index contact) = true) :
    ((backend.put contact json).1 = true ∧ (backend.put contact json).2 = .ok ()) ∨
      ∃ error, (backend.put contact json).1 = false ∧ (backend.put contact json).2 = .error error := by
  obtain ⟨entry, phase⟩ := call
  subst putting
  rcases outcome : backend.put contact json with ⟨written, result⟩
  simp only [honest, found, outcome] at truthful
  cases result with
  | ok _ => exact .inl ⟨truthful, rfl⟩
  | error error => exact .inr ⟨error, by simpa using truthful, rfl⟩

end Probes

/-- Every save so far is in a slot of its own, and accounts for one more occupied slot. -/
structure Filed (bucket : Bucket) (start : Nat) (state : BucketState) : Prop where
  serialized : ∀ (i : Nat) (call : SaveCall) slot json, state.calls[i]? = some call →
    call.phase = .putting slot json → call.json = .ok json
  slotted : ∀ (i : Nat) (call : SaveCall), state.calls[i]? = some call → call.phase ≠ .returned none (.ok true)
  stored : ∀ (i : Nat) (call : SaveCall) slot, state.calls[i]? = some call →
    call.phase = .returned (some slot) (.ok true) →
    ∃ key json, bucket.keys[slot]? = some key ∧ call.json = .ok json ∧ state.store key = some json
  apart : ∀ (i j : Nat) (left right : SaveCall) slot, state.calls[i]? = some left → state.calls[j]? = some right →
    left.phase = .returned (some slot) (.ok true) → right.phase = .returned (some slot) (.ok true) → i = j
  counted : occupied bucket state = start + state.calls.countP SaveCall.saved

section Filing
variable {backend : Backend} {bucket : Bucket} {start : Nat} {state : BucketState} {index : Nat} {call : SaveCall}

private theorem Filed.move {phase : Phase} (filed : Filed bucket start state) (found : state.calls[index]? = some call)
    (unsaved : call.saved = false) (serialized : ∀ slot json, phase = .putting slot json → call.json = .ok json)
    (notSaved : ∀ slot, phase ≠ .returned slot (.ok true)) : Filed bucket start (state.setPhase index call phase) := by
  have after : SaveCall.saved { call with phase := phase } = false := by
    match phase, notSaved with
    | .probing _, _ => rfl
    | .putting _ _, _ => rfl
    | .returned slot (.ok true), notSaved => exact absurd rfl (notSaved slot)
    | .returned _ (.ok false), _ => rfl
    | .returned _ (.error _), _ => rfl
  refine ⟨?_, ?_, ?_, ?_, ?_⟩
  · intro i other slot json got putting
    obtain ⟨rfl, rfl⟩ | ⟨_, got⟩ := calls_set got
    · exact serialized slot json putting
    · exact filed.serialized i other slot json got putting
  · intro i other got done
    obtain ⟨rfl, rfl⟩ | ⟨_, got⟩ := calls_set got
    · exact notSaved none done
    · exact filed.slotted i other got done
  · intro i other slot got done
    obtain ⟨rfl, rfl⟩ | ⟨_, got⟩ := calls_set got
    · exact absurd done (notSaved (some slot))
    · exact filed.stored i other slot got done
  · intro i j left right slot gotLeft gotRight doneLeft doneRight
    obtain ⟨rfl, rfl⟩ | ⟨_, gotLeft⟩ := calls_set gotLeft
    · exact absurd doneLeft (notSaved (some slot))
    obtain ⟨rfl, rfl⟩ | ⟨_, gotRight⟩ := calls_set gotRight
    · exact absurd doneRight (notSaved (some slot))
    exact filed.apart i j left right slot gotLeft gotRight doneLeft doneRight
  · have counted := filed.counted
    simp only [BucketState.setPhase, countP_set_of_not SaveCall.saved found unsaved, after]
    exact counted

private theorem Filed.save {slot : Nat} {key json : List UInt8} (filed : Filed bucket start state)
    (found : state.calls[index]? = some call) (putting : call.phase = .putting slot json)
    (located : bucket.keys[slot]? = some key) (free : state.store key = none) :
    Filed bucket start ({ state with store := putStore state.store key json true }.setPhase index call
      (.returned (some slot) (.ok true))) := by
  have elsewhere : ∀ other, (state.store other).isSome → other ≠ key := by
    rintro other occupied rfl
    rw [free] at occupied
    cases occupied
  have fresh : ∀ (i : Nat) (other : SaveCall), state.calls[i]? = some other → other.phase ≠ .returned (some slot) (.ok true) := by
    intro i other got done
    obtain ⟨taken, _, there, _, full⟩ := filed.stored i other slot got done
    rw [located] at there
    cases there
    rw [free] at full
    cases full
  refine ⟨?_, ?_, ?_, ?_, ?_⟩
  · intro i other slot json got putting
    obtain ⟨rfl, rfl⟩ | ⟨_, got⟩ := calls_set got
    · cases putting
    · exact filed.serialized i other slot json got putting
  · intro i other got done
    obtain ⟨rfl, rfl⟩ | ⟨_, got⟩ := calls_set got
    · cases done
    · exact filed.slotted i other got done
  · intro i other otherSlot got done
    obtain ⟨rfl, rfl⟩ | ⟨_, got⟩ := calls_set got
    · cases done
      exact ⟨key, json, located, filed.serialized _ call slot json found putting, by simp [putStore, BucketState.setPhase]⟩
    · obtain ⟨there, text, at', same, full⟩ := filed.stored i other otherSlot got done
      refine ⟨there, text, at', same, ?_⟩
      have different := elsewhere there (by simp [full])
      simpa [putStore, BucketState.setPhase, Function.update_of_ne different] using full
  · intro i j left right otherSlot gotLeft gotRight doneLeft doneRight
    obtain ⟨atLeft, rfl⟩ | ⟨_, gotLeft⟩ := calls_set gotLeft <;>
      obtain ⟨atRight, rfl⟩ | ⟨_, gotRight⟩ := calls_set gotRight
    · rw [atLeft, atRight]
    · cases doneLeft
      exact absurd doneRight (fresh j right gotRight)
    · cases doneRight
      exact absurd doneLeft (fresh i left gotLeft)
    · exact filed.apart i j left right otherSlot gotLeft gotRight doneLeft doneRight
  · have counted := filed.counted
    have unsaved : call.saved = false := by simp [SaveCall.saved, putting]
    simp only [BucketState.setPhase, countP_set_of_not SaveCall.saved found unsaved, occupied_put bucket state located,
      free]
    simp only [SaveCall.saved, counted]
    simp
    omega

private theorem filed_step {events : List BucketEvent} {event : BucketEvent} {next : BucketState}
    (filed : Filed bucket start state) (informed : Informed bucket events state)
    (truthful : honest backend bucket state event = true)
    (alone : ∀ call contact, event = .put call contact → overtaken call events = false)
    (taken : saveStep backend bucket state event = some next) : Filed bucket start next := by
  obtain ⟨index, call, answers, phase, found, probing, quiet, rfl⟩ |
    ⟨index, contact, call, slot, json, key, rfl, found, putting, located, rfl⟩ := saveStep_cases taken
  · have unsaved : call.saved = false := by simp [SaveCall.saved, probing]
    refine filed.move found unsaved ?_ ?_
    · rintro slot json rfl
      exact quiet
    · rintro (_ | slot) rfl
      · exact quiet rfl
      · exact quiet
  · obtain ⟨written, acknowledged⟩ | ⟨error, unwritten, refused⟩ := honest_put found putting truthful
    · have clean := informed.clean index call found (alone index contact rfl)
      rw [putting] at clean
      rw [written, acknowledged]
      exact filed.save found putting located (clean key located)
    · rw [unwritten, refused]
      have unsaved : call.saved = false := by simp [SaveCall.saved, putting]
      exact filed.move found unsaved (fun slot json other => by cases other) (fun slot done => by cases done)

private theorem filed_start (bucket : Bucket) (store : List UInt8 → Option (List UInt8))
    (entries : List (Except LlmKvCacheError (List UInt8))) :
    Filed bucket (occupied bucket (.start bucket store entries)) (.start bucket store entries) := by
  have fresh : ∀ (i : Nat) (call : SaveCall), (BucketState.start bucket store entries).calls[i]? = some call →
      call.phase = .probing (List.replicate bucket.keys.length none) := by
    intro i call got
    simp only [BucketState.start, List.getElem?_map] at got
    obtain ⟨json, _, rfl⟩ := Option.map_eq_some_iff.mp got
    rfl
  refine ⟨?_, ?_, ?_, ?_, ?_⟩
  · intro i call slot json got putting
    rw [fresh i call got] at putting
    cases putting
  · intro i call got done
    rw [fresh i call got] at done
    cases done
  · intro i call slot got done
    rw [fresh i call got] at done
    cases done
  · intro i j left right slot got _ done
    rw [fresh i left got] at done
    cases done
  · simp [BucketState.start, List.countP_map, SaveCall.saved, Function.comp_def]

theorem filed_run {store : List UInt8 → Option (List UInt8)} {entries : List (Except LlmKvCacheError (List UInt8))}
    {events : List BucketEvent} {final : BucketState}
    (ran : run (saveStep backend bucket) (.start bucket store entries) events = some final)
    (truthful : Along (saveStep backend bucket) (fun state event => honest backend bucket state event = true)
      (.start bucket store entries) events) (undisturbed : Undisturbed events) :
    Filed bucket (occupied bucket (.start bucket store entries)) final ∧ Informed bucket events final := by
  induction events using List.reverseRecOn generalizing final with
  | nil => cases ran; exact ⟨filed_start bucket store entries, informed_start store entries⟩
  | append_singleton front last ih =>
    obtain ⟨middle, before, after⟩ := run_append ran
    obtain ⟨_, taken, done⟩ := run_cons after
    cases done
    obtain ⟨along, here⟩ := truthful.append before
    obtain ⟨earlier, alone⟩ := undisturbed.concat
    obtain ⟨filed, informed⟩ := ih before along earlier
    exact ⟨filed_step filed informed here.1 alone taken, informed_step informed here.1 taken⟩

end Filing

/-- In every interleaving a put adds at most one occupied slot. Where no put comes between the
probes and the put of another call, and the backend says of slots and puts how it is, every save
has a slot of its own at the end and is one more occupied slot. -/
theorem bucket_saves (backend : Backend) (bucket : Bucket) (store : List UInt8 → Option (List UInt8))
    (entries : List (Except LlmKvCacheError (List UInt8))) (events : List BucketEvent) (final : BucketState)
    (ran : run (saveStep backend bucket) (.start bucket store entries) events = some final) :
    occupied bucket final ≤ occupied bucket (.start bucket store entries) + final.calls.countP SaveCall.reachedPut ∧
      (Undisturbed events →
        Along (saveStep backend bucket) (fun state event => honest backend bucket state event = true)
          (.start bucket store entries) events →
        occupied bucket final = occupied bucket (.start bucket store entries) + final.calls.countP SaveCall.saved ∧
        ∀ (i : Nat) (call : SaveCall), final.calls[i]? = some call → call.saved = true →
          ∃ slot key json, call.phase = .returned (some slot) (.ok true) ∧ bucket.keys[slot]? = some key ∧
            call.json = .ok json ∧ final.store key = some json ∧
            ∀ (j : Nat) (other : SaveCall), final.calls[j]? = some other → other.phase = .returned (some slot) (.ok true) → j = i) := by
  constructor
  · refine run_invariant (fun state event next bounded _ => bounded_step state event next bounded) ?_
      (along_trivial _ events) ran
    exact Nat.le_add_right _ _
  · intro undisturbed truthful
    have filed := (filed_run ran truthful undisturbed).1
    refine ⟨filed.counted, fun i call got saved => ?_⟩
    have returned : ∃ slot, call.phase = .returned slot (.ok true) := by
      simp only [SaveCall.saved] at saved
      split at saved
      next slot done => exact ⟨slot, done⟩
      next => cases saved
    obtain ⟨slot | slot, done⟩ := returned
    · exact absurd done (filed.slotted i call got)
    · obtain ⟨key, json, located, serialized, full⟩ := filed.stored i call slot got done
      exact ⟨slot, key, json, done, located, serialized, full,
        fun j other there also => filed.apart j i other call slot there got also done⟩

def twoSlots : Bucket := ⟨[[1], [2]], by decide⟩

def inTurn : List BucketEvent :=
  [.probe 0 0 .answered, .probe 0 1 .answered, .choose 0, .put 0 .answered,
    .probe 1 1 .answered, .probe 1 0 .answered, .choose 1, .put 1 .answered]

def together : List BucketEvent :=
  [.probe 0 0 .answered, .probe 1 0 .answered, .probe 0 1 .answered, .probe 1 1 .answered,
    .choose 0, .choose 1, .put 0 .answered, .put 1 .answered]

def savedInTurn : BucketState :=
  ⟨Function.update (Function.update (fun _ => none) [1] (some [10])) [2] (some [20]),
    [⟨.ok [10], .returned (some 0) (.ok true)⟩, ⟨.ok [20], .returned (some 1) (.ok true)⟩]⟩

theorem saves_in_turn : occupied twoSlots savedInTurn = 0 + 2 :=
  ((bucket_saves .cloudflare twoSlots (fun _ => none) [.ok [10], .ok [20]] inTurn savedInTurn rfl).2 (by decide) (by decide)).1

theorem saves_together_overwritten :
    ¬ ∀ (backend : Backend) (bucket : Bucket) (store : List UInt8 → Option (List UInt8))
      (entries : List (Except LlmKvCacheError (List UInt8))) (events : List BucketEvent) (final : BucketState),
      run (saveStep backend bucket) (.start bucket store entries) events = some final →
        occupied bucket final = occupied bucket (.start bucket store entries) + final.calls.countP SaveCall.saved := by
  intro kept
  have counts : (run (saveStep .cloudflare twoSlots) (.start twoSlots (fun _ => none) [.ok [10], .ok [20]]) together).map
      (fun final => (occupied twoSlots final, final.calls.countP SaveCall.saved)) = some (1, 2) := by decide
  obtain ⟨final, ran, same⟩ := Option.map_eq_some_iff.mp counts
  have equal := kept _ _ _ _ _ _ ran
  simp only [Prod.mk.injEq] at same
  rw [same.1, same.2] at equal
  exact absurd equal (by decide)

end AiGateway.Proofs
