import AiGateway.CacheTee

/-! What the save task can know. It collects exactly the chunks the client was given, and
learns nothing of why the channel closed: an entry is whole only if the client was given
the whole body without an error. -/

namespace AiGateway.Proofs
open CacheTee KvCache Lib.Utf8 Lib.Runs

def chunksOf (items : List (Except ApiError (List UInt8))) : List (List UInt8) :=
  items.filterMap fun item =>
    match item with
    | .ok chunk => some chunk
    | .error _ => none

@[simp] theorem chunksOf_map_ok (chunks : List (List UInt8)) : chunksOf (chunks.map .ok) = chunks := by
  simp [chunksOf, List.filterMap_map]

theorem tap_eq (item : Except ApiError (List UInt8)) (channel : List (List UInt8)) :
    tap item channel = channel ++ chunksOf [item] := by
  cases item <;> simp [tap, chunksOf]

/-- The task's part of the invariant. An entry is only made after the body was dropped. -/
def TaskHolds (state : TeeState) : Prop :=
  match state.task with
  | .collecting bodyChunks =>
    ∃ received, received ++ state.channel = chunksOf state.delivered ∧ bodyChunks = received.map Text.ofBytesLossy
  | .ended saved =>
    ∀ request, saved = some request →
      state.bodyHeld = false ∧ request.entry.body = (chunksOf state.delivered).map Text.ofBytesLossy

/-- Whatever the order of polls, drops and receipts, nothing is lost between the client's
side of the tee and the task. -/
structure Teed (whole : List (Except ApiError (List UInt8))) (state : TeeState) : Prop where
  split : state.delivered ++ state.upstream = whole
  task : TaskHolds state

theorem teed_start (config : SaveConfig) (upstream : List (Except ApiError (List UInt8))) :
    Teed upstream (.start config upstream) := by
  refine ⟨rfl, ?_⟩
  simp only [TaskHolds, TeeState.start]
  split
  next bodyChunks collecting =>
    split at collecting <;> cases collecting
    exact ⟨[], rfl, rfl⟩
  next saved ended =>
    split at ended <;> cases ended
    intro request nothing
    cases nothing

private theorem saveRequest_body {config : SaveConfig} {bodyChunks : List Text} {latency : UInt64}
    {request : SaveRequest} (made : saveRequest config bodyChunks latency = some request) :
    request.entry.body = bodyChunks := by
  unfold saveRequest at made
  split at made
  next =>
    obtain ⟨keys, _, rfl⟩ := Option.map_eq_some_iff.mp made
    rfl
  next => cases made

private theorem taskHolds_poll {state : TeeState} {item : Except ApiError (List UInt8)}
    {rest : List (Except ApiError (List UInt8))} (held : state.bodyHeld = true) (task : TaskHolds state) :
    TaskHolds { state with
      upstream := rest, delivered := state.delivered ++ [item], channel := tap item state.channel } := by
  unfold TaskHolds at task ⊢
  simp only
  split
  next bodyChunks collecting =>
    rw [collecting] at task
    obtain ⟨received, joined, collected⟩ := task
    refine ⟨received, ?_, collected⟩
    rw [tap_eq, ← List.append_assoc, joined]
    simp [chunksOf]
  next saved ended =>
    rw [ended] at task
    intro request some
    rw [held] at task
    cases (task request some).1

theorem teed_step (config : SaveConfig) {whole : List (Except ApiError (List UInt8))} (state : TeeState)
    (event : TeeEvent) (next : TeeState) (teed : Teed whole state) (taken : teeStep config state event = some next) :
    Teed whole next := by
  obtain ⟨split, task⟩ := teed
  cases event with
  | poll =>
    simp only [teeStep] at taken
    split at taken
    next item rest held upstream =>
      cases taken
      exact ⟨by simpa [upstream] using split, taskHolds_poll held task⟩
    next => cases taken; exact ⟨split, task⟩
    next => cases taken
  | dropBody =>
    simp only [teeStep] at taken
    split at taken <;> cases taken
    refine ⟨split, ?_⟩
    unfold TaskHolds at task ⊢
    simp only
    split
    next collecting => rw [collecting] at task; exact task
    next ended => rw [ended] at task; exact fun request some => ⟨trivial, (task request some).2⟩
  | dispatchReturns =>
    simp only [teeStep] at taken
    split at taken <;> cases taken
    exact ⟨split, task⟩
  | receive =>
    simp only [teeStep] at taken
    split at taken
    next bodyChunks chunk rest collecting channel =>
      cases taken
      refine ⟨split, ?_⟩
      simp only [TaskHolds, collecting] at task ⊢
      obtain ⟨received, joined, rfl⟩ := task
      exact ⟨received ++ [chunk], by rw [← joined, channel]; simp, by simp⟩
    next => cases taken
  | closed latency =>
    simp only [teeStep] at taken
    split at taken
    next bodyChunks collecting channel senders =>
      cases taken
      refine ⟨split, ?_⟩
      simp only [TaskHolds, collecting] at task ⊢
      obtain ⟨received, joined, rfl⟩ := task
      intro request made
      rw [channel, List.append_nil] at joined
      exact ⟨(Bool.or_eq_false_iff.mp senders).1, by rw [saveRequest_body made, joined]⟩
    next => cases taken

/-- A saved entry holds exactly what the client was given. -/
theorem saved_is_delivered {config : SaveConfig} {upstream : List (Except ApiError (List UInt8))}
    {events : List TeeEvent} {final : TeeState} {request : SaveRequest}
    (ran : run (teeStep config) (.start config upstream) events = some final)
    (saved : final.task = .ended (some request)) :
    final.delivered ++ final.upstream = upstream ∧
      request.entry.body = (chunksOf final.delivered).map Text.ofBytesLossy := by
  have teed : Teed upstream final :=
    run_invariant (fun state event next teed _ => teed_step config state event next teed)
      (teed_start config upstream) (along_trivial _ events) ran
  have task := teed.task
  rw [TaskHolds, saved] at task
  exact ⟨teed.split, (task request rfl).2⟩

/-- The provider's stream yields no error, and the client keeps the body until the stream
has nothing more to yield. -/
def undisturbed (state : TeeState) : TeeEvent → Bool
  | .poll => state.upstream.head?.all Except.isOk
  | .dropBody => state.upstream.isEmpty
  | _ => true

/-- The entry holds every chunk of a body that ended without an error. -/
def Complete (upstream : List (Except ApiError (List UInt8))) (entry : LlmCacheEntry) : Prop :=
  ∃ chunks : List (List UInt8), upstream = chunks.map .ok ∧ entry.body = chunks.map Text.ofBytesLossy

structure Untroubled (state : TeeState) : Prop where
  delivered : ∃ chunks : List (List UInt8), state.delivered = chunks.map Except.ok
  dropped : state.bodyHeld = false → state.upstream = []
  ended : ∀ request, state.task = .ended (some request) → state.bodyHeld = false

private theorem untroubled_step (config : SaveConfig) (state : TeeState) (event : TeeEvent) (next : TeeState)
    (untroubled : Untroubled state) (calm : undisturbed state event = true)
    (taken : teeStep config state event = some next) : Untroubled next := by
  obtain ⟨⟨chunks, delivered⟩, dropped, ended⟩ := untroubled
  cases event with
  | poll =>
    simp only [teeStep] at taken
    split at taken
    next item rest held upstream =>
      cases taken
      cases item with
      | error error =>
        simp only [undisturbed, upstream] at calm
        cases calm
      | ok chunk =>
        refine ⟨⟨chunks ++ [chunk], by simp [delivered]⟩, fun gone => ?_, ended⟩
        rw [held] at gone
        cases gone
    next => cases taken; exact ⟨⟨chunks, delivered⟩, dropped, ended⟩
    next => cases taken
  | dropBody =>
    simp only [teeStep] at taken
    split at taken <;> cases taken
    exact ⟨⟨chunks, delivered⟩, fun _ => List.isEmpty_iff.mp calm, fun _ _ => rfl⟩
  | dispatchReturns =>
    simp only [teeStep] at taken
    split at taken <;> cases taken
    exact ⟨⟨chunks, delivered⟩, dropped, ended⟩
  | receive =>
    simp only [teeStep] at taken
    split at taken <;> cases taken
    exact ⟨⟨chunks, delivered⟩, dropped, fun request done => by cases done⟩
  | closed latency =>
    simp only [teeStep] at taken
    split at taken
    next senders =>
      cases taken
      exact ⟨⟨chunks, delivered⟩, dropped, fun _ _ => (Bool.or_eq_false_iff.mp senders).1⟩
    next => cases taken

private theorem untroubled_start (config : SaveConfig) (upstream : List (Except ApiError (List UInt8))) :
    Untroubled (.start config upstream) := by
  refine ⟨⟨[], rfl⟩, fun gone => (by cases gone), fun request done => ?_⟩
  simp only [TeeState.start] at done
  split at done <;> cases done

/-- In every run of undisturbed steps, whatever is saved is complete. -/
theorem saved_entry_complete (config : SaveConfig) (upstream : List (Except ApiError (List UInt8)))
    (events : List TeeEvent) (final : TeeState) (request : SaveRequest)
    (ran : run (teeStep config) (.start config upstream) events = some final)
    (calm : Along (teeStep config) (fun state event => undisturbed state event = true) (.start config upstream) events)
    (saved : final.task = .ended (some request)) : Complete upstream request.entry := by
  obtain ⟨split, body⟩ := saved_is_delivered ran saved
  obtain ⟨⟨chunks, delivered⟩, dropped, ended⟩ : Untroubled final :=
    run_invariant (untroubled_step config) (untroubled_start config upstream) calm ran
  rw [dropped (ended request saved), delivered, List.append_nil] at split
  rw [delivered, chunksOf_map_ok] at body
  exact ⟨chunks, split.symm, body⟩

def writingConfig : SaveConfig := ⟨true, true, some [[107]], []⟩

def savedBody (chunks : List (List UInt8)) : SaveRequest :=
  ⟨[[107]], ⟨[], 7, chunks.map Text.ofBytesLossy⟩⟩

theorem two_chunks_complete : Complete [.ok [104], .ok [105]] (savedBody [[104], [105]]).entry :=
  saved_entry_complete writingConfig _
    [.poll, .dispatchReturns, .receive, .poll, .poll, .dropBody, .receive, .closed 7]
    ⟨[], [.ok [104], .ok [105]], false, false, [], .ended (some (savedBody [[104], [105]]))⟩ _
    rfl (by decide) rfl

/-- The channel closes after an error as it does after the last chunk. -/
theorem truncated_entry_saved :
    ¬ ∀ (config : SaveConfig) (upstream : List (Except ApiError (List UInt8))) (events : List TeeEvent)
      (final : TeeState) (request : SaveRequest),
      run (teeStep config) (.start config upstream) events = some final → final.task = .ended (some request) →
        Complete upstream request.entry := by
  intro complete
  obtain ⟨chunks, whole, _⟩ := complete writingConfig [.ok [104], .error (.streamError "connection reset")]
    [.poll, .poll, .dropBody, .dispatchReturns, .receive, .closed 7]
    ⟨[], [.ok [104], .error (.streamError "connection reset")], false, false, [], .ended (some (savedBody [[104]]))⟩
    (savedBody [[104]]) rfl rfl
  have failed : Except.error (.streamError "connection reset") ∈ chunks.map (Except.ok (ε := ApiError)) := by
    rw [← whole]
    simp
  simp at failed

end AiGateway.Proofs
