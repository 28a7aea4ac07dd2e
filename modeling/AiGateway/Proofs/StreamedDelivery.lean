import AiGateway.StreamedResponses
import AiGateway.Proofs.CacheCompleteness

/-! The client is given the provider's stream up to its end: the messages in order, each
once, and an error in the place where it came up. -/

namespace AiGateway.StreamedResponses
open Lib.Runs Lib.Utf8 CacheTee

/-- What ends a stream: the message `[DONE]`, the source's own end, or a response whose body
cannot be read. -/
def terminates : Except SourceError SseEvent → Bool
  | .ok (.message data) => isDone data
  | .error .streamEnded => true
  | .error (.invalidStatusCode none) => true
  | _ => false

def itemOf : Except SourceError SseEvent → Option Item
  | .ok (.message data) => if isDone data then none else some (.ok data.bytes)
  | .error (.invalidStatusCode (some body)) => some (.ok body)
  | .error (.other message) => some (.error (.streamError message))
  | _ => none

def beforeEnd (source : List (Except SourceError SseEvent)) : List Item :=
  (source.takeWhile fun event => !terminates event).filterMap itemOf

/-- The first event does not end the stream, even where it would. -/
def whole : List (Except SourceError SseEvent) → List Item
  | first :: rest => (itemOf first).toList ++ beforeEnd rest
  | [] => []

theorem handleEvent_eq (event : Except SourceError SseEvent) : handleEvent event = (itemOf event, !terminates event) := by
  match event with
  | .ok .opened => rfl
  | .ok (.message data) => simp only [handleEvent, itemOf, terminates]; cases isDone data <;> rfl
  | .error .streamEnded => rfl
  | .error (.invalidStatusCode (some _)) => rfl
  | .error (.invalidStatusCode none) => rfl
  | .error (.other _) => rfl

theorem itemOf_of_terminates {event : Except SourceError SseEvent} (last : terminates event = true) : itemOf event = none := by
  match event with
  | .ok .opened => cases last
  | .ok (.message data) => exact if_pos last
  | .error .streamEnded => rfl
  | .error (.invalidStatusCode (some _)) => cases last
  | .error (.invalidStatusCode none) => rfl
  | .error (.other _) => cases last

theorem beforeEnd_cons (event : Except SourceError SseEvent) (rest : List (Except SourceError SseEvent)) :
    beforeEnd (event :: rest) = (itemOf event).toList ++ if terminates event then [] else beforeEnd rest := by
  unfold beforeEnd
  rw [List.takeWhile_cons]
  cases last : terminates event with
  | true => rw [itemOf_of_terminates last]; rfl
  | false => cases item : itemOf event <;> simp [item]

theorem dispatchStream_eq {source : List (Except SourceError SseEvent)} {start : State}
    (started : dispatchStream source = .ok start) :
    ∃ items rest, start = .start true .firstModelToken items rest ∧ items ++ beforeEnd rest = whole source := by
  match source with
  | [] => cases started; exact ⟨[], [], rfl, rfl⟩
  | .ok .opened :: rest => cases started; exact ⟨[], rest, rfl, rfl⟩
  | .ok (.message data) :: rest =>
    cases started
    refine ⟨_, rest, rfl, ?_⟩
    simp only [whole, itemOf]
    cases isDone data <;> rfl
  | .error error :: rest => cases started

/-- Nothing is lost between the source and a client that still listens, and one that has
left was given the front of the stream. -/
structure Streamed (whole : List Item) (state : State) : Prop where
  front : state.delivered <+: whole
  split : state.bodyHeld = true →
    state.delivered ++ state.items ++ (if state.sending then beforeEnd state.source else []) = whole
  ended : state.ended = true → state.delivered = whole

variable {serde : JsonText} {isStream : Bool}

theorem streamed_start (appendNewlines : Bool) (trigger : TfftTrigger) (items : List Item)
    (source : List (Except SourceError SseEvent)) :
    Streamed (items ++ beforeEnd source) (.start appendNewlines trigger items source) :=
  ⟨List.nil_prefix, fun _ => rfl, nofun⟩

theorem streamed_step {all : List Item} (state : State) (event : Event) (next : State) (streamed : Streamed all state)
    (taken : step serde isStream state event = some next) : Streamed all next := by
  obtain ⟨front, split, ended⟩ := streamed
  cases event with
  | forward =>
    simp only [step] at taken
    split at taken
    next first rest sending source =>
      rw [handleEvent_eq] at taken
      split at taken
      next held =>
        cases taken
        refine ⟨front, fun _ => ?_, ended⟩
        have whole := split held
        rw [sending, source, if_pos rfl, beforeEnd_cons] at whole
        rw [← whole]
        cases terminates first <;> simp
      next gone =>
        cases taken
        exact ⟨front, fun held => absurd held gone, ended⟩
    next sending source =>
      cases taken
      refine ⟨front, fun held => ?_, ended⟩
      have whole := split held
      rw [sending, source] at whole
      exact whole
    next => cases taken
  | poll =>
    simp only [step] at taken
    split at taken
    next item rest held items =>
      cases taken
      have whole := split held
      rw [items] at whole
      refine ⟨⟨rest ++ if state.sending then beforeEnd state.source else [], ?_⟩, fun _ => ?_, fun finished => ?_⟩
      · simpa using whole
      · simpa using whole
      · -- the client has seen the end, so nothing is left to give
        rw [ended finished] at whole
        simp at whole
    next held items =>
      split at taken
      next => cases taken; exact ⟨front, split, ended⟩
      next quiet =>
        cases taken
        have whole := split held
        rw [items, if_neg quiet, List.append_nil, List.append_nil] at whole
        exact ⟨front, fun _ => split held, fun _ => whole⟩
    next => cases taken
  | dropBody =>
    simp only [step] at taken
    split at taken <;> cases taken
    exact ⟨front, nofun, ended⟩
  | read =>
    simp only [step] at taken
    split at taken
    next => cases taken; exact ⟨front, split, ended⟩
    next => split at taken <;> cases taken <;> exact ⟨front, split, ended⟩
    next => cases taken

theorem streamed_run {all : List Item} {state final : State} {events : List Event} (streamed : Streamed all state)
    (ran : run (step serde isStream) state events = some final) : Streamed all final :=
  run_invariant (fun state event next streamed _ => streamed_step state event next streamed) streamed
    (along_trivial _ events) ran

/-- The task comes to the end of the source without the client's help. -/
theorem forwards_finish (state : State) (held : state.bodyHeld = true) :
    ∃ events final, run (step serde isStream) state events = some final ∧ final.bodyHeld = true ∧ final.sending = false := by
  obtain ⟨source, sending, items, bodyHeld, delivered, ended, channel, reader, frames, signals, log⟩ := state
  obtain rfl : bodyHeld = true := held
  induction source generalizing sending items with
  | nil =>
    cases sending with
    | false => exact ⟨[], _, rfl, rfl, rfl⟩
    | true => exact ⟨[.forward], _, rfl, rfl, rfl⟩
  | cons event rest ih =>
    cases sending with
    | false => exact ⟨[], _, rfl, rfl, rfl⟩
    | true =>
      obtain ⟨events, final, ran, finished⟩ := ih (handleEvent event).2 (items ++ (handleEvent event).1.toList)
      exact ⟨.forward :: events, final, ran, finished⟩

/-- Once the task has ended, the client's polls empty its channel and see the end. -/
theorem polls_finish (state : State) (held : state.bodyHeld = true) (quiet : state.sending = false) :
    ∃ events final, run (step serde isStream) state events = some final ∧ final.ended = true := by
  obtain ⟨source, sending, items, bodyHeld, delivered, ended, channel, reader, frames, signals, log⟩ := state
  obtain rfl : bodyHeld = true := held
  obtain rfl : sending = false := quiet
  induction items generalizing delivered channel with
  | nil => exact ⟨[.poll], _, rfl, rfl⟩
  | cons item rest ih =>
    obtain ⟨events, final, ran, finished⟩ := ih (delivered ++ [item]) (tap item channel)
    exact ⟨.poll :: events, final, ran, finished⟩

/-- However the task, the client and the logger take turns, the client has been given the
front of the provider's stream, all of it if it has seen the end; and as long as it has not
turned away it can still come to the end. -/
theorem streamed_delivery {source : List (Except SourceError SseEvent)} {start final : State} {events : List Event}
    (started : dispatchStream source = .ok start) (ran : run (step serde isStream) start events = some final) :
    final.delivered <+: whole source ∧ (final.ended = true → final.delivered = whole source) ∧
      (final.bodyHeld = true →
        ∃ more last, run (step serde isStream) final more = some last ∧ last.ended = true ∧ last.delivered = whole source) := by
  obtain ⟨items, rest, rfl, whole⟩ := dispatchStream_eq started
  have streamed := streamed_run (streamed_start true .firstModelToken items rest) ran
  rw [whole] at streamed
  refine ⟨streamed.front, streamed.ended, fun held => ?_⟩
  obtain ⟨forwards, middle, forwarded, listening, quiet⟩ := @forwards_finish serde isStream final held
  obtain ⟨polls, last, polled, finished⟩ := @polls_finish serde isStream middle listening quiet
  have reached := run_trans forwarded polled
  exact ⟨_, last, reached, finished, (streamed_run streamed reached).ended finished⟩

def sampleMessage (data : List UInt8) (ascii : isAscii data = true) : Except SourceError SseEvent :=
  .ok (.message ⟨data, valid_ascii ascii⟩)

def sampleSource : List (Except SourceError SseEvent) :=
  [.ok .opened, sampleMessage [0x61] (by decide), .error (.other "reset"),
    sampleMessage [0x5B, 0x44, 0x4F, 0x4E, 0x45, 0x5D] (by decide), sampleMessage [0x62] (by decide)]

theorem two_items_given :
    ∃ start final, dispatchStream sampleSource = .ok start ∧
      run (step .sample true) start [.forward, .poll, .forward, .forward, .poll, .poll] = some final ∧
      final.ended = true ∧ final.delivered = [.ok [0x61], .error (.streamError "reset")] ∧
      final.delivered = whole sampleSource :=
  have ⟨start, started⟩ : ∃ start, dispatchStream sampleSource = .ok start := ⟨_, rfl⟩
  have ⟨final, ran, finished, given⟩ : ∃ final,
      run (step .sample true) start [.forward, .poll, .forward, .forward, .poll, .poll] = some final ∧
        final.ended = true ∧ final.delivered = [.ok [0x61], .error (.streamError "reset")] := by
    cases started
    exact ⟨_, rfl, rfl, rfl⟩
  ⟨start, final, started, ran, finished, given, (streamed_delivery started ran).2.1 finished⟩

end AiGateway.StreamedResponses
