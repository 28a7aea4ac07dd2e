import AiGateway.ResponsesBridge
import Mathlib.Data.List.Basic

/-! When the bridge's output is a well-formed chat stream. -/

namespace AiGateway.ResponsesBridge

open OpenAi BridgeStreamState

/-- What a client takes a record for. -/
inductive Shape where
  | role
  | content (delta : String)
  | refusal (delta : String)
  | finish
  | error
  | done
  | other
  deriving DecidableEq, Repr

def chunkShape (chunk : CreateChatCompletionStreamResponse) : Shape :=
  match chunk.choices with
  | [⟨0, ⟨some _, none, none, none⟩, none⟩] => .role
  | [⟨0, ⟨none, some delta, none, none⟩, none⟩] => .content delta
  | [⟨0, ⟨none, none, none, some delta⟩, none⟩] => .refusal delta
  | [⟨0, ⟨none, none, none, none⟩, some _⟩] => .finish
  | _ => .other

def SseRecord.shape : SseRecord → Shape
  | .chunk payload => chunkShape payload
  | .error _ _ _ => .error
  | .done => .done

namespace Shape

/-- A chunk of the answer, which has to stand after the role. -/
def isAnswer : Shape → Bool
  | .content _ | .refusal _ | .finish => true
  | _ => false

def content? : Shape → Option String
  | .content delta => some delta
  | _ => none

def refusal? : Shape → Option String
  | .refusal delta => some delta
  | _ => none

end Shape

section Upstream
variable (event : Json)

def eventType : String := (event.getStr "type").getD ""

def eventDelta : String := (event.getStr "delta").getD ""

def isText : Bool :=
  ["response.output_text.delta", "response.reasoning_text.delta", "response.reasoning_summary_text.delta"].contains
    (eventType event)

def isRefusal : Bool := eventType event == "response.refusal.delta"

def upstreamContent : String := if isText event then eventDelta event else ""

def upstreamRefusal : String := if isRefusal event then eventDelta event else ""

/-- The events that end the answer. -/
def finishes : Bool := eventType event == "response.completed" || eventType event == "response.failed"

/-- A delta with text in it, or an error. -/
def speaks : Bool :=
  ((isText event || isRefusal event) && eventDelta event != "") || eventType event == "error"

end Upstream

/-- One role chunk before every chunk of the answer, the upstream's text and refusal, and
at the end one finish chunk and one `[DONE]`. -/
structure WellFormed (events : List Json) (shapes : List Shape) : Prop where
  known : .other ∉ shapes
  role : ∃ before after, shapes = before ++ .role :: after ∧ .role ∉ before ∧ .role ∉ after ∧
    ∀ shape ∈ before, shape.isAnswer = false
  content : String.join (shapes.filterMap Shape.content?) = String.join (events.map upstreamContent)
  refusal : String.join (shapes.filterMap Shape.refusal?) = String.join (events.map upstreamRefusal)
  ending : ∃ front, shapes = front ++ [.finish, .done] ∧ .finish ∉ front ∧ .done ∉ front

/-- One event ends the answer, and nothing is said after it. -/
def FinishesOnce (events : List Json) : Prop :=
  ∃ before last after, events = before ++ last :: after ∧ finishes last = true ∧
    (∀ event ∈ before, finishes event = false) ∧ ∀ event ∈ after, finishes event = false ∧ speaks event = false

/-- The records of one event, without the role. -/
def shapesOf (event : Json) : List Shape :=
  if finishes event then [.finish, .done]
  else if eventType event = "error" then [.error]
  else if speaks event then [if isText event then .content (eventDelta event) else .refusal (eventDelta event)]
  else []

/-- The role goes before the first record that is not an error. -/
def withRole : Bool → List Shape → List Shape
  | true, shapes => shapes
  | false, [] => []
  | false, .error :: rest => .error :: withRole false rest
  | false, shape :: rest => .role :: shape :: rest

@[simp] theorem withRole_nil (sent : Bool) : withRole sent [] = [] := by cases sent <;> rfl

@[simp] theorem withRole_true (shapes : List Shape) : withRole true shapes = shapes := by
  cases shapes <;> rfl

theorem withRole_answer {shape : Shape} (answer : shape ≠ .error) (rest : List Shape) :
    withRole false (shape :: rest) = .role :: shape :: rest := by
  cases shape with
  | error => exact absurd rfl answer
  | _ => rfl

section Emission
variable (state : BridgeStreamState)

@[simp] theorem shape_role : SseRecord.shape (state.respond [buildRoleChoice 0 .assistant] none) = .role := rfl

@[simp] theorem shape_text (delta : String) : SseRecord.shape (state.respond [buildTextChoice 0 delta] none) = .content delta :=
  rfl

@[simp] theorem shape_refusal (delta : String) : SseRecord.shape (state.respond [refusalChoice delta] none) = .refusal delta :=
  rfl

@[simp] theorem shape_finish (usage : Option CompletionUsage) : (state.finishChunk usage).shape = .finish := rfl

@[simp] theorem shape_done : SseRecord.done.shape = .done := rfl

@[simp] theorem ingest_roleSent (response : Option Json) : (state.ingestResponseSnapshot response).roleSent = state.roleSent := by
  cases response <;> rfl

theorem emit_shapes (choice : ChatChoiceStream) {shape : Shape}
    (shaped : ∀ state : BridgeStreamState, SseRecord.shape (state.respond [choice] none) = shape) (answer : shape ≠ .error) :
    (state.emit choice).1.map SseRecord.shape = withRole state.roleSent [shape] ∧ (state.emit choice).2.roleSent = true := by
  cases sent : state.roleSent <;> cases shape <;> simp_all [emit, pushRoleIfNeeded, withRole]

theorem finish_shapes (usage : Option CompletionUsage) :
    (state.finish usage).1.map SseRecord.shape = withRole state.roleSent [.finish, .done] ∧
      (state.finish usage).2.roleSent = true := by
  cases sent : state.roleSent <;> simp [finish, pushRoleIfNeeded, withRole, sent]

end Emission

/-- A delta of either kind; an empty one is not passed on. -/
theorem delta_shapes (state : BridgeStreamState) (delta : String) (choice : ChatChoiceStream) {shape : Shape}
    (shaped : ∀ state : BridgeStreamState, SseRecord.shape (state.respond [choice] none) = shape) (answer : shape ≠ .error) :
    (if delta.isEmpty then ([], state) else state.emit choice).1.map SseRecord.shape =
        withRole state.roleSent (if delta != "" then [shape] else []) ∧
      (if delta.isEmpty then ([], state) else state.emit choice).2.roleSent =
        (state.roleSent || (if delta != "" then [shape] else []).any fun shape => shape != .error) := by
  by_cases empty : delta = ""
  · subst empty
    simp
  · have present : delta.isEmpty = false := by simpa using empty
    obtain ⟨emitted, sent⟩ := emit_shapes state choice shaped answer
    simp [present, empty, emitted, sent, answer]

/-- What one event emits, up to the role, and whether the role is sent after it. -/
theorem processEvent_shapes (state : BridgeStreamState) (event : Json) :
    (state.processEvent event).1.map SseRecord.shape = withRole state.roleSent (shapesOf event) ∧
      (state.processEvent event).2.roleSent = (state.roleSent || (shapesOf event).any fun shape => shape != .error) := by
  have answered : [Shape.finish, .done].any (fun shape => shape != .error) = true := rfl
  rw [processEvent]
  split
  iterate 2
    next kind => simp [shapesOf, finishes, speaks, isText, isRefusal, eventType, kind]
  iterate 3
    next kind =>
      have shapes : shapesOf event = if eventDelta event != "" then [.content (eventDelta event)] else [] := by
        simp [shapesOf, finishes, speaks, isText, isRefusal, eventType, kind]
      rw [shapes]
      exact delta_shapes state _ _ (fun _ => rfl) nofun
  next kind =>
    have shapes : shapesOf event = if eventDelta event != "" then [.refusal (eventDelta event)] else [] := by
      simp [shapesOf, finishes, speaks, isText, isRefusal, eventType, kind]
    rw [shapes]
    exact delta_shapes state _ _ (fun _ => rfl) nofun
  next kind =>
    have shapes : shapesOf event = [.finish, .done] := by simp [shapesOf, finishes, eventType, kind]
    rw [shapes, answered, Bool.or_true, ← ingest_roleSent state (event.get "response")]
    exact finish_shapes _ _
  next kind =>
    have shapes : shapesOf event = [.error] := by simp [shapesOf, finishes, eventType, kind]
    rw [shapes]
    cases state.roleSent <;> simp [withRole, SseRecord.shape]
  next kind =>
    have shapes : shapesOf event = [.finish, .done] := by simp [shapesOf, finishes, eventType, kind]
    rw [shapes, answered, Bool.or_true, ← ingest_roleSent state (event.get "response")]
    exact finish_shapes _ _
  next => simp_all [shapesOf, finishes, speaks, isText, isRefusal, eventType]

section Role

theorem withRole_append (sent : Bool) (first second : List Shape) :
    withRole sent (first ++ second) =
      withRole sent first ++ withRole (sent || first.any fun shape => shape != .error) second := by
  cases sent with
  | true => simp
  | false =>
    induction first with
    | nil => rfl
    | cons shape rest ih =>
      by_cases error : shape = .error
      · subst error
        simpa [withRole] using ih
      · have answer : (shape != .error) = true := by simpa using error
        simp [withRole_answer error, answer]

/-- The role is the only shape added. -/
theorem filter_withRole (sent : Bool) {shapes : List Shape} (unroled : .role ∉ shapes) :
    (withRole sent shapes).filter (fun shape => shape != .role) = shapes := by
  have kept : ∀ {rest : List Shape}, .role ∉ rest → rest.filter (fun shape => shape != .role) = rest := by
    intro rest absent
    apply List.filter_eq_self.mpr
    intro shape member
    have different : shape ≠ .role := fun same => absent (same ▸ member)
    simpa using different
  cases sent with
  | true => simpa using kept unroled
  | false =>
    induction shapes with
    | nil => rfl
    | cons shape rest ih =>
      have later : .role ∉ rest := fun member => unroled (List.mem_cons_of_mem shape member)
      by_cases error : shape = .error
      · subst error
        simp [withRole, ih later]
      · rw [withRole_answer error, List.filter_cons_of_neg (by simp)]
        exact kept unroled

/-- Where something is not an error, the role stands once, and only errors before it. -/
theorem withRole_once {shapes : List Shape} (unroled : .role ∉ shapes) (some : ∃ shape ∈ shapes, shape ≠ .error) :
    ∃ before after, withRole false shapes = before ++ .role :: after ∧ (∀ shape ∈ before, shape = .error) ∧ .role ∉ after ∧
      shapes = before ++ after := by
  induction shapes with
  | nil =>
    obtain ⟨_, member, _⟩ := some
    cases member
  | cons shape rest ih =>
    by_cases error : shape = .error
    · subst error
      have later : .role ∉ rest := fun member => unroled (List.mem_cons_of_mem _ member)
      have someLater : ∃ shape ∈ rest, shape ≠ .error := by simpa using some
      obtain ⟨before, after, split, errors, once, whole⟩ := ih later someLater
      refine ⟨.error :: before, after, ?_, ?_, once, ?_⟩
      · rw [withRole, split, List.cons_append]
      · simpa using errors
      · rw [whole, List.cons_append]
    · exact ⟨[], shape :: rest, withRole_answer error rest, nofun, unroled, rfl⟩

end Role

variable {fromSlice : List UInt8 → Option Json}

theorem processStream_cons {raw : List UInt8} {event : Json} (read : fromSlice raw = some event) (state : BridgeStreamState)
    (rest : List (List UInt8)) :
    state.processStream fromSlice (raw :: rest) =
      ((state.processEvent event).2.processStream fromSlice rest).map fun later => (state.processEvent event).1 ++ later := by
  have sentOn : (if (state.processEvent event).1.isEmpty then none else some (state.processEvent event).1).getD [] =
      (state.processEvent event).1 := by
    split
    next empty => simpa using empty.symm
    next => rfl
  simp only [processStream, processUpstreamSseJson, read, sentOn]

theorem processStream_shapes {raws : List (List UInt8)} {events : List Json} (parsed : raws.mapM fromSlice = some events)
    (state : BridgeStreamState) : ∃ records, state.processStream fromSlice raws = .ok records ∧
      records.map SseRecord.shape = withRole state.roleSent (events.flatMap shapesOf) := by
  induction raws generalizing events state with
  | nil =>
    cases parsed
    exact ⟨[], rfl, by simp⟩
  | cons raw rest ih =>
    rw [List.mapM_cons] at parsed
    obtain ⟨event, read, others⟩ := Option.bind_eq_some_iff.mp parsed
    obtain ⟨later, readLater, same⟩ := Option.bind_eq_some_iff.mp others
    cases same
    obtain ⟨shapes, sent⟩ := processEvent_shapes state event
    obtain ⟨records, ran, rest⟩ := ih readLater (state.processEvent event).2
    refine ⟨(state.processEvent event).1 ++ records, ?_, ?_⟩
    · rw [processStream_cons read, ran]
      rfl
    · rw [List.map_append, List.flatMap_cons, withRole_append, shapes, rest, sent]

/-- The bridge emits no role of its own accord and no chunk it does not know. -/
theorem shapesOf_plain (event : Json) : .role ∉ shapesOf event ∧ .other ∉ shapesOf event := by
  rw [shapesOf]
  split
  · simp
  · split
    · simp
    · split
      · split <;> simp
      · simp

theorem flatMap_plain (events : List Json) : .role ∉ events.flatMap shapesOf ∧ .other ∉ events.flatMap shapesOf := by
  constructor
  all_goals
    intro member
    obtain ⟨event, _, inside⟩ := List.mem_flatMap.mp member
  · exact (shapesOf_plain event).1 inside
  · exact (shapesOf_plain event).2 inside

/-- A list that ends in its only finish chunk and its only `[DONE]`. -/
def EndsOnce (shapes : List Shape) : Prop := ∃ front, shapes = front ++ [.finish, .done] ∧ .finish ∉ front ∧ .done ∉ front

theorem endsOnce_withRole {shapes : List Shape} (unroled : .role ∉ shapes) :
    EndsOnce (withRole false shapes) ↔ EndsOnce shapes := by
  constructor
  · intro ⟨front, ends, unfinished, undone⟩
    refine ⟨front.filter fun shape => shape != .role, ?_, ?_, ?_⟩
    · rw [← filter_withRole false unroled, ends, List.filter_append]
      rfl
    · exact fun member => unfinished (List.mem_filter.mp member).1
    · exact fun member => undone (List.mem_filter.mp member).1
  · rintro ⟨front, rfl, unfinished, undone⟩
    have finish : Shape.finish ∈ front ++ [.finish, .done] := by simp
    obtain ⟨before, after, split, errors, once, whole⟩ := withRole_once unroled ⟨.finish, finish, nofun⟩
    -- the finish chunk is not among the errors, so the end lies after the role
    have inside : ∃ rest, after = rest ++ [.finish, .done] ∧ front = before ++ rest := by
      obtain ⟨rest, first, last⟩ | ⟨rest, first, last⟩ := List.append_eq_append_iff.mp whole
      · cases rest with
        | nil => exact ⟨[], last.symm, by simpa using first.symm⟩
        | cons shape rest =>
          have early : Shape.finish ∈ before := by
            rw [List.cons_append, List.cons.injEq] at last
            rw [first, ← last.1]
            simp
          cases errors _ early
      · exact ⟨rest, last, first⟩
    obtain ⟨rest, rfl, rfl⟩ := inside
    refine ⟨before ++ .role :: rest, ?_, ?_, ?_⟩
    · rw [split, List.append_assoc, List.cons_append]
    · simpa using unfinished
    · simpa using undone

section Events

theorem shapesOf_unfinished {event : Json} (unfinished : finishes event = false) :
    .finish ∉ shapesOf event ∧ .done ∉ shapesOf event := by
  rw [shapesOf]
  rw [unfinished]
  split
  · contradiction
  · split
    · simp
    · split
      · split <;> simp
      · simp

theorem shapesOf_eq_nil_iff (event : Json) : shapesOf event = [] ↔ finishes event = false ∧ speaks event = false := by
  rw [shapesOf]
  cases finishes event with
  | true => simp
  | false =>
    by_cases failed : eventType event = "error"
    · simp [failed, speaks]
    · cases speaks event <;> simp [failed]

theorem flatMap_unfinished {events : List Json} (unfinished : ∀ event ∈ events, finishes event = false) :
    .finish ∉ events.flatMap shapesOf ∧ .done ∉ events.flatMap shapesOf := by
  constructor
  all_goals
    intro member
    obtain ⟨event, present, inside⟩ := List.mem_flatMap.mp member
    have absent := shapesOf_unfinished (unfinished event present)
  · exact absent.1 inside
  · exact absent.2 inside

/-- The events up to the first that ends the answer. -/
theorem first_finish {events : List Json} (ends : ∃ event ∈ events, finishes event = true) :
    ∃ before last after, events = before ++ last :: after ∧ finishes last = true ∧ ∀ event ∈ before, finishes event = false := by
  induction events with
  | nil =>
    obtain ⟨_, member, _⟩ := ends
    cases member
  | cons event rest ih =>
    cases here : finishes event with
    | true => exact ⟨[], event, rest, rfl, here, nofun⟩
    | false =>
      have later : ∃ event ∈ rest, finishes event = true := by simpa [here] using ends
      obtain ⟨before, last, after, rfl, finish, unfinished⟩ := ih later
      exact ⟨event :: before, last, after, rfl, finish, by simpa [here] using unfinished⟩

theorem endsOnce_iff (events : List Json) : EndsOnce (events.flatMap shapesOf) ↔ FinishesOnce events := by
  have finished : ∀ {last : Json}, finishes last = true → shapesOf last = [.finish, .done] := by
    intro last finish
    simp [shapesOf, finish]
  constructor
  · intro ⟨front, ends, unfinished, undone⟩
    have some : ∃ event ∈ events, finishes event = true := by
      by_contra never
      have unfinishing : ∀ event ∈ events, finishes event = false := by simpa using never
      have absent := (flatMap_unfinished unfinishing).1
      rw [ends] at absent
      simp at absent
    obtain ⟨before, last, after, rfl, finish, early⟩ := first_finish some
    refine ⟨before, last, after, rfl, finish, early, ?_⟩
    have whole : (front ++ [.finish]) ++ .done :: [] = (before.flatMap shapesOf ++ [.finish]) ++ .done :: after.flatMap shapesOf := by
      have cut := ends
      rw [List.flatMap_append, List.flatMap_cons, finished finish] at cut
      simpa using cut.symm
    have undoneFront : Shape.done ∉ front ++ [.finish] := by simpa using undone
    have silent := ((List.append_cons_inj_of_notMem undoneFront List.not_mem_nil).mp whole).2.2.symm
    intro event member
    have quiet : shapesOf event = [] := List.flatMap_eq_nil_iff.mp silent event member
    exact (shapesOf_eq_nil_iff event).mp quiet
  · rintro ⟨before, last, after, rfl, finish, early, silent⟩
    have quiet : after.flatMap shapesOf = [] :=
      List.flatMap_eq_nil_iff.mpr fun event member => (shapesOf_eq_nil_iff event).mpr (silent event member)
    obtain ⟨unfinished, undone⟩ := flatMap_unfinished early
    refine ⟨before.flatMap shapesOf, ?_, unfinished, undone⟩
    rw [List.flatMap_append, List.flatMap_cons, finished finish, quiet, List.append_nil]

end Events

section Deltas

theorem join_content (event : Json) : String.join ((shapesOf event).filterMap Shape.content?) = upstreamContent event := by
  rw [shapesOf, upstreamContent]
  split
  · next finish =>
    have other : isText event = false := by
      simp only [finishes, Bool.or_eq_true, beq_iff_eq] at finish
      obtain kind | kind := finish <;> simp [isText, kind]
    simp [other, Shape.content?, List.filterMap_cons]
  · split
    · next kind => simp [isText, kind, Shape.content?, List.filterMap_cons]
    · next kind =>
      cases text : isText event <;> by_cases empty : eventDelta event = "" <;>
        cases refusal : isRefusal event <;> simp [speaks, text, empty, refusal, kind, Shape.content?, List.filterMap_cons]

theorem isRefusal_of_isText {event : Json} (text : isText event = true) : isRefusal event = false := by
  simp only [isText, List.contains_cons, List.contains_nil, Bool.or_false, Bool.or_eq_true, beq_iff_eq] at text
  obtain kind | kind | kind := text <;> simp [isRefusal, kind]

theorem join_refusal (event : Json) : String.join ((shapesOf event).filterMap Shape.refusal?) = upstreamRefusal event := by
  rw [shapesOf, upstreamRefusal]
  split
  · next finish =>
    have other : isRefusal event = false := by
      simp only [finishes, Bool.or_eq_true, beq_iff_eq] at finish
      obtain kind | kind := finish <;> simp [isRefusal, kind]
    simp [other, Shape.refusal?, List.filterMap_cons]
  · split
    · next kind => simp [isRefusal, kind, Shape.refusal?, List.filterMap_cons]
    · next kind =>
      have apart : isText event = true → isRefusal event = false := isRefusal_of_isText
      cases text : isText event <;> by_cases empty : eventDelta event = "" <;>
        cases refusal : isRefusal event <;> simp_all [speaks, Shape.refusal?, List.filterMap_cons]

/-- What is picked out of the records is what is picked out of each event's. -/
theorem join_withRole {pick : Shape → Option String} {upstream : Json → String} (unroled : pick .role = none)
    (picked : ∀ event, String.join ((shapesOf event).filterMap pick) = upstream event) (sent : Bool) (events : List Json) :
    String.join ((withRole sent (events.flatMap shapesOf)).filterMap pick) = String.join (events.map upstream) := by
  have kept : (withRole sent (events.flatMap shapesOf)).filterMap pick = (events.flatMap shapesOf).filterMap pick := by
    conv_rhs => rw [← filter_withRole sent (flatMap_plain events).1, List.filterMap_filter]
    congr 1
    funext shape
    by_cases role : shape = .role
    · subst role
      simp [unroled]
    · simp [role]
  rw [kept]
  clear kept
  induction events with
  | nil => rfl
  | cons event rest ih =>
    rw [List.flatMap_cons, List.filterMap_append, String.join_append, picked, List.map_cons, String.join_cons, ih]

end Deltas

/-- The output is a well-formed chat stream exactly when one event ends the answer and
nothing is said after it. -/
theorem processStream_wellFormed_iff (fromSlice : List UInt8 → Option Json) (raws : List (List UInt8)) (events : List Json)
    (parsed : raws.mapM fromSlice = some events) :
    ∃ records, BridgeStreamState.default.processStream fromSlice raws = .ok records ∧
      (WellFormed events (records.map SseRecord.shape) ↔ FinishesOnce events) := by
  obtain ⟨records, ran, shaped⟩ := processStream_shapes parsed .default
  obtain ⟨unroled, known⟩ := flatMap_plain events
  refine ⟨records, ran, ?_⟩
  rw [shaped, ← endsOnce_iff, ← endsOnce_withRole unroled]
  refine ⟨WellFormed.ending, fun ends => ⟨?_, ?_, ?_, ?_, ends⟩⟩
  · intro member
    apply known
    rw [← filter_withRole false unroled]
    exact List.mem_filter.mpr ⟨member, rfl⟩
  · obtain ⟨front, plain, _, _⟩ := (endsOnce_withRole unroled).mp ends
    have finish : Shape.finish ∈ events.flatMap shapesOf := by simp [plain]
    obtain ⟨before, after, split, errors, once, _⟩ := withRole_once unroled ⟨.finish, finish, nofun⟩
    refine ⟨before, after, split, ?_, once, ?_⟩
    · intro member
      cases errors _ member
    · intro shape member
      rw [errors shape member]
      rfl
  · exact join_withRole rfl join_content false events
  · exact join_withRole rfl join_refusal false events

def rawBytes (text : String) : List UInt8 := text.toList.map fun char => UInt8.ofNat char.toNat

def rawDelta : List UInt8 := rawBytes "\x7b\"type\":\"response.output_text.delta\",\"delta\":\"hi\"\x7d"

def rawCompleted : List UInt8 := rawBytes "\x7b\"type\":\"response.completed\"\x7d"

def rawIncomplete : List UInt8 := rawBytes "\x7b\"type\":\"response.incomplete\"\x7d"

def deltaEvent : Json := .object [("type", .string "response.output_text.delta"), ("delta", .string "hi")]

def completedEvent : Json := .object [("type", .string "response.completed")]

def incompleteEvent : Json := .object [("type", .string "response.incomplete")]

/-- `serde_json` on these three texts. -/
def sampleParse (raw : List UInt8) : Option Json :=
  if raw = rawDelta then some deltaEvent
  else if raw = rawCompleted then some completedEvent
  else if raw = rawIncomplete then some incompleteEvent
  else none

theorem completed_stream_wellFormed :
    ∃ records, BridgeStreamState.default.processStream sampleParse [rawDelta, rawCompleted] = .ok records ∧
      WellFormed [deltaEvent, completedEvent] (records.map SseRecord.shape) := by
  have parsed : [rawDelta, rawCompleted].mapM sampleParse = some [deltaEvent, completedEvent] := rfl
  obtain ⟨records, ran, wellFormed⟩ := processStream_wellFormed_iff sampleParse _ _ parsed
  refine ⟨records, ran, wellFormed.mpr ⟨[deltaEvent], completedEvent, [], rfl, rfl, ?_, nofun⟩⟩
  intro event member
  rw [List.mem_singleton.mp member]
  rfl

/-- An incomplete response ends the upstream's stream and not the client's. -/
theorem incomplete_stream_unfinished :
    ¬ ∀ (fromSlice : List UInt8 → Option Json) (raws : List (List UInt8)) (events : List Json),
      raws.mapM fromSlice = some events →
        (∃ last, events.getLast? = some last ∧
          eventType last ∈ ["response.completed", "response.incomplete", "response.failed"]) →
          ∃ records, BridgeStreamState.default.processStream fromSlice raws = .ok records ∧
            WellFormed events (records.map SseRecord.shape) := by
  intro always
  obtain ⟨records, ran, wellFormed⟩ := always sampleParse [rawDelta, rawIncomplete] [deltaEvent, incompleteEvent] rfl
    ⟨incompleteEvent, rfl, by decide⟩
  have output : BridgeStreamState.default.processStream sampleParse [rawDelta, rawIncomplete] =
      .ok [respond .default [buildRoleChoice 0 .assistant] none, respond .default [buildTextChoice 0 "hi"] none] := rfl
  rw [output] at ran
  cases ran
  obtain ⟨front, ends, _, _⟩ := wellFormed.ending
  have last := congrArg List.getLast? ends
  simp at last

end AiGateway.ResponsesBridge
