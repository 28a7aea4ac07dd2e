import AiGateway.Proofs.RenderedPrompts

/-! Which of the typed variables in the messages have been held against their inputs, once all
messages are processed. -/

namespace AiGateway.PromptTemplates

open Lib.Matches Lib.Runs

section Occurrences

/-- The texts of a message in which variables are replaced. -/
def messageTexts (message : Json) : List String :=
  match message.get "content" with
  | some (.string text) => [text]
  | some (.array parts) => parts.filterMap fun part => part.getStr "text"
  | _ => []

def typedIn (text : String) : List TypedVariable := (typedVariable.hits text.toList).map Prod.snd

/-- The typed variables of the messages, as often and in the order in which they occur. -/
def occurrences (messages : List Json) : List TypedVariable := (messages.flatMap messageTexts).flatMap typedIn

variable {display : Number → List Char} {inputs : Inputs}

theorem foldlM_append_ok {σ α : Type} {step : σ → α → Except String σ} {first second : List α} {start middle final : σ}
    (left : first.foldlM step start = .ok middle) (right : second.foldlM step middle = .ok final) :
    (first ++ second).foldlM step start = .ok final := by
  rw [List.foldlM_append, left]
  exact right

theorem replaceText_ok {key text : String} {value after : Json} {validated next : List (List Char)}
    (done : replaceText display inputs key value text validated = .ok (after, next)) :
    (typedIn text).foldlM (validateTyped display inputs) validated = .ok next := by
  rw [replaceText] at done
  obtain ⟨⟨processed, middle⟩, replaced, done⟩ := bind_ok done
  cases done
  exact (replaceVariables_ok replaced).1

theorem processParts_ok {parts after : List Json} {validated next : List (List Char)}
    (done : processParts display inputs parts validated = .ok (after, next)) :
    ((parts.filterMap fun part => part.getStr "text").flatMap typedIn).foldlM (validateTyped display inputs) validated =
      .ok next := by
  induction parts generalizing validated after with
  | nil =>
    cases done
    rfl
  | cons part rest ih =>
    rw [processParts] at done
    obtain ⟨⟨changed, middle⟩, first, done⟩ := bind_ok done
    obtain ⟨⟨later, last⟩, second, done⟩ := bind_ok done
    cases done
    rw [processPart] at first
    rw [List.filterMap_cons]
    cases held : part.getStr "text" with
    | none =>
      rw [held] at first
      cases first
      exact ih second
    | some text =>
      rw [held] at first
      dsimp only
      rw [List.flatMap_cons]
      exact foldlM_append_ok (replaceText_ok first) (ih second)

theorem processMessageVariables_ok {message after : Json} {validated next : List (List Char)}
    (done : processMessageVariables display inputs message validated = .ok (after, next)) :
    ((messageTexts message).flatMap typedIn).foldlM (validateTyped display inputs) validated = .ok next := by
  rw [processMessageVariables] at done
  rw [messageTexts]
  cases held : message.get "content" with
  | none =>
    rw [held] at done
    cases done
    rfl
  | some content =>
    rw [held] at done
    cases content with
    | string text =>
      rw [List.flatMap_singleton]
      exact replaceText_ok done
    | array parts =>
      obtain ⟨⟨changed, middle⟩, inner, done⟩ := bind_ok done
      cases done
      exact processParts_ok inner
    | _ =>
      cases done
      rfl

/-- The names go through all the messages, from one variable to the next. -/
theorem processMessages_ok {messages after : List Json} {validated next : List (List Char)}
    (done : processMessages display inputs messages validated = .ok (after, next)) :
    (occurrences messages).foldlM (validateTyped display inputs) validated = .ok next := by
  induction messages generalizing validated after with
  | nil =>
    cases done
    rfl
  | cons message rest ih =>
    rw [processMessages] at done
    obtain ⟨⟨changed, middle⟩, first, done⟩ := bind_ok done
    obtain ⟨⟨later, last⟩, second, done⟩ := bind_ok done
    cases done
    rw [occurrences]
    rw [List.flatMap_cons, List.flatMap_append]
    exact foldlM_append_ok (processMessageVariables_ok first) (ih second)

end Occurrences

section Validation
variable {display : Number → List Char} {inputs : Inputs}

variable (display) in
/-- A value that a type takes. -/
def Accepts (value : Json) (type : List Char) : Prop := ∃ shown, validateVariableType display value type = .ok shown

/-- Each name is validated where it occurs first. -/
theorem first_validated {named : List TypedVariable} {validated after : List (List Char)} {name : List Char}
    {first : TypedVariable} (done : named.foldlM (validateTyped display inputs) validated = .ok after)
    (fresh : name ∉ validated) (found : named.find? (fun other => other.name == name) = some first) :
    ∃ value, inputs.get name = some value ∧ Accepts display value first.type := by
  induction named generalizing validated with
  | nil => cases found
  | cons other rest ih =>
    rw [List.foldlM_cons] at done
    obtain ⟨middle, step, done⟩ := bind_ok done
    by_cases same : other.name = name
    · rw [List.find?_cons_of_pos (by simpa using same)] at found
      cases found
      obtain ⟨seen, _⟩ | ⟨value, shown, held, accepted, _⟩ := validateTyped_ok step
      · exact absurd (same ▸ seen) fresh
      · exact ⟨value, same ▸ held, shown, accepted⟩
    · rw [List.find?_cons_of_neg (by simpa using same)] at found
      apply ih done _ found
      obtain ⟨_, rfl⟩ | ⟨_, _, _, _, rfl⟩ := validateTyped_ok step
      · exact fresh
      · intro member
        obtain head | tail := List.mem_cons.mp member
        · exact same head.symm
        · exact fresh tail

/-- Every occurrence has an input that its own type takes, where there is one. -/
def ValidatedCompletely (display : Number → List Char) (inputs : Inputs) (messages : List Json) : Prop :=
  ∀ found ∈ occurrences messages, ∀ value, inputs.get found.name = some value → Accepts display value found.type

/-- Once the messages have passed, what is left to hold against the inputs are the occurrences
of a name with another type than that of its first. -/
theorem validated_completely_iff {messages : List Json} {after : Json}
    (done : processMessagesValue display inputs (.array messages) = .ok after) :
    ValidatedCompletely display inputs messages ↔
      ∀ first found, found ∈ occurrences messages →
        (occurrences messages).find? (fun other => other.name == found.name) = some first → first.type ≠ found.type →
        ∀ value, inputs.get found.name = some value → Accepts display value found.type := by
  rw [processMessagesValue] at done
  obtain ⟨⟨items, validated⟩, ran, _⟩ := bind_ok done
  have folded := processMessages_ok ran
  constructor
  · intro complete first found member _ _ value held
    exact complete found member value held
  · intro repeated found member value held
    obtain ⟨first, leads⟩ : ∃ first, (occurrences messages).find? (fun other => other.name == found.name) = some first := by
      apply Option.isSome_iff_exists.mp
      rw [List.find?_isSome]
      exact ⟨found, member, by simp⟩
    by_cases same : first.type = found.type
    · obtain ⟨other, given, accepted⟩ := first_validated folded List.not_mem_nil leads
      rw [held] at given
      cases given
      exact same ▸ accepted
    · exact repeated first found member leads same value held

end Validation

section Ages

def ageInputs (age : Json) : Inputs := [("age", age)]

def ageMessages : List Json :=
  [.object [("role", .string "user"), ("content", .string "\x7b\x7bhc:age:string\x7d\x7d, or \x7b\x7bhc:age:number\x7d\x7d")]]

theorem age_occurrences :
    occurrences ageMessages = [⟨"age".toList, "string".toList⟩, ⟨"age".toList, "number".toList⟩] := by
  rfl

theorem numeric_age_validated :
    ValidatedCompletely wholeNumbers (ageInputs (.number (.posInt 30))) ageMessages := by
  have done : ∃ after, processMessagesValue wholeNumbers (ageInputs (.number (.posInt 30))) (.array ageMessages) = .ok after :=
    ⟨_, rfl⟩
  obtain ⟨after, done⟩ := done
  apply (validated_completely_iff done).mpr
  intro first found member _ _ value held
  rw [age_occurrences] at member
  simp only [List.mem_cons, List.not_mem_nil, or_false] at member
  obtain rfl | rfl := member <;> cases held
  · exact ⟨_, rfl⟩
  · exact ⟨_, rfl⟩

/-- The text passes as the string it is used for first, and is used for a number after that. -/
theorem text_age_not_validated :
    (∃ after, processMessagesValue wholeNumbers (ageInputs (.string "abc")) (.array ageMessages) = .ok after) ∧
      ¬ ValidatedCompletely wholeNumbers (ageInputs (.string "abc")) ageMessages := by
  refine ⟨⟨_, rfl⟩, ?_⟩
  intro complete
  have number : (⟨"age".toList, "number".toList⟩ : TypedVariable) ∈ occurrences ageMessages := by
    rw [age_occurrences]
    simp
  obtain ⟨shown, accepted⟩ := complete _ number (.string "abc") rfl
  cases accepted

end Ages

end AiGateway.PromptTemplates
