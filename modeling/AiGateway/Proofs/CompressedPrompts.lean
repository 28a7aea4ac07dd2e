import AiGateway.PromptCompression
import AiGateway.Lib.Words
import AiGateway.Proofs.TruncatedTexts

/-! What compression leaves of a chat request: the words of its texts, and all else. -/

namespace AiGateway.PromptCompression

open LargeContext
open Lib.Words (words)

section Texts
variable (text : List Char)

theorem normalizeText_eq_words : normalizeText text = [' '].intercalate (words isWhitespace text) := rfl

theorem words_normalizeText : words isWhitespace (normalizeText text) = words isWhitespace text := by
  rw [normalizeText_eq_words]
  exact Lib.Words.words_intercalate (by decide) fun _ => Lib.Words.word_of_mem

theorem normalizeText_normalizeText : normalizeText (normalizeText text) = normalizeText text := by
  rw [normalizeText_eq_words, words_normalizeText, ← normalizeText_eq_words]

def nonBlank (text : List Char) : List Char := text.filter fun c => !isWhitespace c

theorem nonBlank_normalizeText : nonBlank (normalizeText text) = nonBlank text := by
  rw [nonBlank, nonBlank, ← Lib.Words.flatten_words, words_normalizeText, Lib.Words.flatten_words]

end Texts

section Messages

/-- A message beside what compression makes of it. -/
structure Collapsed (message after : Json) : Prop where
  others : withoutText after = withoutText message
  characters : (after.getStr "content").map (fun text => nonBlank text.toList) =
    (message.getStr "content").map fun text => nonBlank text.toList

theorem get_normalizeContent (message : Json) :
    (normalizeContent message).get "content" =
      (message.get "content").map (Json.overText fun text => String.ofList (normalizeText text.toList)) :=
  Json.get_modify_self message

theorem getStr_normalizeContent (message : Json) :
    (normalizeContent message).getStr "content" =
      (message.getStr "content").map fun text => String.ofList (normalizeText text.toList) := by
  rw [Json.getStr, get_normalizeContent, Json.getStr]
  cases message.get "content" with
  | none => rfl
  | some content => exact Json.asStr_overText _ content

theorem normalizeContent_collapsed (message : Json) : Collapsed message (normalizeContent message) where
  others := by
    rw [withoutText, withoutText, normalizeContent, Json.modify_modify]
    apply Json.modify_congr
    intro content _
    cases content <;> rfl
  characters := by
    rw [getStr_normalizeContent, Option.map_map]
    apply congrArg (Option.map · _)
    funext text
    simp [nonBlank_normalizeText]

theorem normalizeContent_normalizeContent (message : Json) :
    normalizeContent (normalizeContent message) = normalizeContent message := by
  rw [normalizeContent, normalizeContent, Json.modify_modify]
  apply Json.modify_congr
  intro content _
  rw [Function.comp_apply, Json.overText_overText]
  cases content with
  | string text =>
    simp only [Json.overText, Function.comp_apply, String.toList_ofList]
    rw [normalizeText_normalizeText]
  | _ => simp only [Json.overText]

/-- A message whose content is no text stays as it is. -/
theorem normalizeContent_of_no_text {message : Json} (none : message.getStr "content" = none) :
    normalizeContent message = message := by
  apply Json.modify_eq_self
  intro content held
  rw [Json.getStr, held, Option.bind_some] at none
  cases content with
  | string text => cases none
  | _ => rfl

/-- The loop over the messages with texts does to every message what it does to those. -/
theorem foldl_normalizeContent (before items : List Json) :
    (parseMessages before.length items).1.foldl (fun items message => items.modify message.index normalizeContent)
      (before ++ items) = before ++ items.map normalizeContent := by
  induction items generalizing before with
  | nil => rfl
  | cons message rest ih =>
    have later := ih (before ++ [normalizeContent message])
    rw [List.length_append, List.append_assoc, List.append_assoc] at later
    rw [parseMessages_cons, List.foldl_append, List.map_cons]
    cases held : message.getStr "content" with
    | none =>
      have same := normalizeContent_of_no_text held
      rw [textRef, held, same]
      rw [same] at later
      exact later
    | some content =>
      have moved : (before ++ message :: rest).modify before.length normalizeContent =
          before ++ normalizeContent message :: rest := by
        rw [List.modify_eq_take_drop, List.take_left, List.drop_left]
        rfl
      rw [textRef, held, Option.map_some, Option.toList_some, List.foldl_cons, List.foldl_nil, moved]
      exact later

/-- The same messages have texts, and the same have other contents. -/
theorem parseMessages_normalized (index : Nat) (items : List Json) :
    (parseMessages index (items.map normalizeContent)).1.length = (parseMessages index items).1.length ∧
      (parseMessages index (items.map normalizeContent)).2 = (parseMessages index items).2 := by
  induction items generalizing index with
  | nil => exact ⟨rfl, rfl⟩
  | cons message rest ih =>
    obtain ⟨fewer, others⟩ := ih (index + 1)
    rw [List.map_cons]
    constructor
    · rw [parseMessages_cons, parseMessages_cons, List.length_append, List.length_append, fewer, textRef, textRef,
        getStr_normalizeContent]
      cases message.getStr "content" <;> rfl
    · have read := get_normalizeContent message
      cases message with
      | object members =>
        rw [normalizeContent, Json.modify] at read ⊢
        simp only [parseMessages, read]
        cases (Json.object members).get "content" with
        | none => exact others
        | some content => cases content <;> simp [Json.overText, others]
      | _ => rfl

end Messages

section Bodies
variable {fromSlice : List UInt8 → Except String Json} {toVec : Json → List UInt8}
  {estimateInputTokens : ChatCompletionsPayload → String → Option InferenceProvider → Option UInt32}

def payloadOf (raw : Json) (items : List Json) : ChatCompletionsPayload where
  raw
  model := (raw.get "model").bind trimmedString
  messages := (parseMessages 0 items).1
  hasNonTextMessageContent := (parseMessages 0 items).2
  tools := raw.get "tools"
  requestedCompletionTokens := completionBudgetFromObject raw

theorem parsed_of_messages {body : List UInt8} {raw : Json} {items : List Json} (read : fromSlice body = .ok raw)
    (listed : raw.get "messages" = some (.array items)) :
    parseChatCompletionsPayload fromSlice body = .ok (some (payloadOf raw items)) := by
  simp only [parseChatCompletionsPayload, read, bind, Except.bind, listed, Option.bind_some, Json.asArray]
  rfl

theorem messages_of_parsed {body : List UInt8} {payload : ChatCompletionsPayload}
    (parsed : parseChatCompletionsPayload fromSlice body = .ok (some payload)) :
    ∃ raw items, fromSlice body = .ok raw ∧ raw.get "messages" = some (.array items) ∧ payload = payloadOf raw items := by
  obtain ⟨items, listed, _⟩ := parsed_messages parsed
  cases read : fromSlice body with
  | error reason => simp [parseChatCompletionsPayload, read, bind, Except.bind] at parsed
  | ok raw =>
    have same : payload.raw = raw := by
      simp only [parseChatCompletionsPayload, read, bind, Except.bind] at parsed
      split at parsed
      · cases parsed
      · cases parsed
        rfl
    subst same
    refine ⟨payload.raw, items, rfl, listed, ?_⟩
    rw [parsed_of_messages read listed] at parsed
    exact (Option.some.inj (Except.ok.inj parsed)).symm

def compressed (raw : Json) (items : List Json) : Json :=
  raw.modify "messages" fun _ => .array (items.map normalizeContent)

variable {raw : Json} {items : List Json}

theorem patchMessagesWhitespace_payloadOf (listed : raw.get "messages" = some (.array items)) :
    patchMessagesWhitespace raw (payloadOf raw items) = compressed raw items := by
  apply Json.modify_congr
  intro messages held
  rw [listed] at held
  cases held
  exact congrArg Json.array (foldl_normalizeContent [] items)

theorem compressed_listed (listed : raw.get "messages" = some (.array items)) :
    (compressed raw items).get "messages" = some (.array (items.map normalizeContent)) := by
  rw [compressed, Json.get_modify_self, listed]
  rfl

theorem compressed_compressed : compressed (compressed raw items) (items.map normalizeContent) = compressed raw items := by
  rw [compressed, compressed, Json.modify_modify]
  apply Json.modify_congr
  intro messages _
  have same : normalizeContent ∘ normalizeContent = normalizeContent := funext normalizeContent_normalizeContent
  rw [Function.comp_apply, List.map_map, same]

theorem resolvePrimaryModel_compressed (headerModel : Option String) :
    resolvePrimaryModel (payloadOf (compressed raw items) (items.map normalizeContent)).model headerModel =
      resolvePrimaryModel (payloadOf raw items).model headerModel := by
  have same : (compressed raw items).get "model" = raw.get "model" := Json.get_modify_ne (by decide) raw
  rw [payloadOf, payloadOf, same]

/-- A second pass over a rewritten body, where the library reads what it wrote. -/
theorem applyChatCompletions_again (listed : raw.get "messages" = some (.array items)) {parts : Parts}
    {headers : ModelSupport.LargeContextHeaders} {primary : String} {after : UInt32} {provider : InferenceProvider}
    (headed : ModelSupport.parseLargeContextHeaders parts.headers = .ok headers)
    (resolved : resolvePrimaryModel (payloadOf raw items).model headers.modelOverride = some primary)
    (fit : ¬((payloadOf raw items).hasNonTextMessageContent ∨ (payloadOf raw items).messages.isEmpty))
    (counted : ∃ payload, parseChatCompletionsPayload fromSlice (toVec (compressed raw items)) = .ok (some payload) ∧
      estimateInputTokens payload primary (some provider) = some after)
    (read : fromSlice (toVec (compressed raw items)) = .ok (compressed raw items)) :
    applyChatCompletions fromSlice toVec estimateInputTokens parts (toVec (compressed raw items)) provider =
      (.ok (toVec (compressed raw items)), { parts with tokenPair := some ⟨after, after⟩ }) := by
  let once := payloadOf (compressed raw items) (items.map normalizeContent)
  have listedOnce := compressed_listed listed
  have parsed : parseChatCompletionsPayload fromSlice (toVec (compressed raw items)) = .ok (some once) :=
    parsed_of_messages read listedOnce
  have estimated : estimateInputTokens once primary (some provider) = some after := by
    obtain ⟨payload, again, estimated⟩ := counted
    rw [parsed] at again
    cases again
    exact estimated
  have model : resolvePrimaryModel once.model headers.modelOverride = some primary :=
    (resolvePrimaryModel_compressed headers.modelOverride).trans resolved
  have fitOnce : ¬(once.hasNonTextMessageContent ∨ once.messages.isEmpty) := by
    obtain ⟨count, others⟩ := parseMessages_normalized 0 items
    rw [List.isEmpty_iff_length_eq_zero] at fit ⊢
    show ¬((parseMessages 0 (items.map normalizeContent)).2 = true ∨ (parseMessages 0 (items.map normalizeContent)).1.length = 0)
    rw [count, others]
    exact fit
  have patched : patchMessagesWhitespace once.raw once = compressed raw items :=
    (patchMessagesWhitespace_payloadOf listedOnce).trans compressed_compressed
  rw [applyChatCompletions]
  simp only [parsed, headed, model, if_neg fitOnce, estimated, patched]

/-- A request whose texts alone are changed, each to one with the same characters but for the
blanks. -/
def SameButBlanks (value after : Json) : Prop :=
  ∃ items collapsed, value.get "messages" = some (.array items) ∧
    after = value.modify "messages" (fun _ => .array collapsed) ∧ List.Forall₂ Collapsed items collapsed

theorem compressed_sameButBlanks (listed : raw.get "messages" = some (.array items)) :
    SameButBlanks raw (compressed raw items) := by
  refine ⟨items, items.map normalizeContent, listed, rfl, ?_⟩
  rw [List.forall₂_map_right_iff]
  exact List.forall₂_same.mpr fun message _ => normalizeContent_collapsed message

end Bodies

section Requests
variable (fromSlice : List UInt8 → Except String Json) (toVec : Json → List UInt8)
  (estimateInputTokens : ChatCompletionsPayload → String → Option InferenceProvider → Option UInt32)

/-- The way to the rewritten body. -/
theorem applyChatCompletions_cases (parts : Parts) (body : List UInt8) (provider : InferenceProvider) :
    (∃ error, ModelSupport.parseLargeContextHeaders parts.headers = .error error ∧
      applyChatCompletions fromSlice toVec estimateInputTokens parts body provider = (.error error, parts)) ∨
    applyChatCompletions fromSlice toVec estimateInputTokens parts body provider = (.ok body, parts) ∨
    ∃ raw items headers primary before after,
      fromSlice body = .ok raw ∧ raw.get "messages" = some (.array items) ∧
      ModelSupport.parseLargeContextHeaders parts.headers = .ok headers ∧
      resolvePrimaryModel (payloadOf raw items).model headers.modelOverride = some primary ∧
      ¬((payloadOf raw items).hasNonTextMessageContent ∨ (payloadOf raw items).messages.isEmpty) ∧
      (∃ payload, parseChatCompletionsPayload fromSlice (toVec (compressed raw items)) = .ok (some payload) ∧
        estimateInputTokens payload primary (some provider) = some after) ∧
      applyChatCompletions fromSlice toVec estimateInputTokens parts body provider =
        (.ok (toVec (compressed raw items)), { parts with tokenPair := some ⟨before, after⟩ }) := by
  rw [applyChatCompletions]
  rcases parsed : parseChatCompletionsPayload fromSlice body with reason | _ | payload
  · exact .inr (.inl rfl)
  · exact .inr (.inl rfl)
  obtain ⟨raw, items, read, listed, rfl⟩ := messages_of_parsed parsed
  rcases headed : ModelSupport.parseLargeContextHeaders parts.headers with error | headers
  · exact .inl ⟨error, rfl, rfl⟩
  rcases resolved : resolvePrimaryModel (payloadOf raw items).model headers.modelOverride with _ | primary
  · refine .inr (.inl ?_)
    simp only [resolved]
  by_cases unfit : (payloadOf raw items).hasNonTextMessageContent ∨ (payloadOf raw items).messages.isEmpty
  · refine .inr (.inl ?_)
    simp only [resolved, if_pos unfit]
  rcases first : estimateInputTokens (payloadOf raw items) primary (some provider) with _ | before
  · refine .inr (.inl ?_)
    simp only [resolved, if_neg unfit, first]
  have patched : patchMessagesWhitespace (payloadOf raw items).raw (payloadOf raw items) = compressed raw items :=
    patchMessagesWhitespace_payloadOf listed
  rcases again : parseChatCompletionsPayload fromSlice (toVec (compressed raw items)) with reason | _ | payload
  · refine .inr (.inl ?_)
    simp only [resolved, if_neg unfit, first, patched, again]
  · refine .inr (.inl ?_)
    simp only [resolved, if_neg unfit, first, patched, again]
  rcases second : estimateInputTokens payload primary (some provider) with _ | after
  · refine .inr (.inl ?_)
    simp only [resolved, if_neg unfit, first, patched, again, second]
  refine .inr (.inr ⟨raw, items, headers, primary, before, after, read, listed, rfl, resolved, unfit,
    ⟨payload, again, second⟩, ?_⟩)
  simp only [resolved, if_neg unfit, first, patched, again, second]

/-- A request is refused for its large-context headers, or its body is given back with nothing
noted, or it is rewritten in the blanks of its texts alone, so that a second pass changes
nothing where the library reads what it wrote. -/
theorem compression_collapses_blanks (parts : Parts) (body : List UInt8) (provider : InferenceProvider) :
    (∃ error, ModelSupport.parseLargeContextHeaders parts.headers = .error error ∧
      applyChatCompletions fromSlice toVec estimateInputTokens parts body provider = (.error error, parts)) ∨
    applyChatCompletions fromSlice toVec estimateInputTokens parts body provider = (.ok body, parts) ∨
    ∃ value items pair, fromSlice body = .ok value ∧ value.get "messages" = some (.array items) ∧
      SameButBlanks value (compressed value items) ∧
      applyChatCompletions fromSlice toVec estimateInputTokens parts body provider =
        (.ok (toVec (compressed value items)), { parts with tokenPair := some pair }) ∧
      (fromSlice (toVec (compressed value items)) = .ok (compressed value items) →
        ∀ again : Parts, again.headers = parts.headers →
          (applyChatCompletions fromSlice toVec estimateInputTokens again (toVec (compressed value items)) provider).1 =
            .ok (toVec (compressed value items))) := by
  rcases applyChatCompletions_cases fromSlice toVec estimateInputTokens parts body provider with refused | kept | rewritten
  · exact .inl refused
  · exact .inr (.inl kept)
  · obtain ⟨raw, items, headers, primary, before, after, read, listed, headed, resolved, fit, counted, outcome⟩ := rewritten
    refine .inr (.inr ⟨raw, items, ⟨before, after⟩, read, listed, compressed_sameButBlanks listed, outcome, ?_⟩)
    intro reread again same
    rw [applyChatCompletions_again listed (same ▸ headed) resolved fit counted reread]

/-- One question with blanks around and between its words. -/
def paddedRequest (question : String) : Json :=
  .object [("model", .string "openai/gpt-4o-mini"),
    ("messages", .array [.object [("role", .string "user"), ("content", .string question)]])]

/-- The JSON of the request. -/
def paddedJson (question : String) : List UInt8 :=
  asciiBytes ("\x7b\"model\":\"openai/gpt-4o-mini\",\"messages\":[\x7b\"role\":\"user\",\"content\":\"" ++ question ++
    "\"\x7d]\x7d")

/-- A library that knows the request before and after. -/
def paddedFromSlice (body : List UInt8) : Except String Json :=
  if body = paddedJson "  a   b  " then .ok (paddedRequest "  a   b  ")
  else if body = paddedJson "a b" then .ok (paddedRequest "a b")
  else .error "expected value"

def paddedToVec (value : Json) : List UInt8 :=
  match (value.get "messages").bind Json.asArray with
  | some [message] => paddedJson ((message.getStr "content").getD "")
  | _ => []

def oneTokenPerMessage (payload : ChatCompletionsPayload) (_ : String) (_ : Option InferenceProvider) : Option UInt32 :=
  some payload.messages.length.toUInt32

def plainParts : Parts := ⟨⟨fun _ => none⟩, none⟩

def unknownHandlerParts : Parts where
  headers.get key :=
    if key = "Alephant-Token-Limit-Exception-Handler" then
      some (.visible "shrink".toList (SemanticCache.visible_of_all (by decide)))
    else none
  tokenPair := none

def paddedBody : List UInt8 := paddedJson "  a   b  "

def collapsedBody : List UInt8 := paddedJson "a b"

def paddedMessages (question : String) : List Json :=
  [.object [("role", .string "user"), ("content", .string question)]]

theorem paddedMessages_listed (question : String) :
    (paddedRequest question).get "messages" = some (.array (paddedMessages question)) := rfl

theorem compressed_padded :
    compressed (paddedRequest "  a   b  ") (paddedMessages "  a   b  ") = paddedRequest "a b" := by rfl

theorem paddedToVec_collapsed : paddedToVec (paddedRequest "a b") = collapsedBody := by rfl

theorem paddedFromSlice_padded : paddedFromSlice paddedBody = .ok (paddedRequest "  a   b  ") := if_pos rfl

theorem paddedFromSlice_collapsed : paddedFromSlice collapsedBody = .ok (paddedRequest "a b") := by
  have longer : collapsedBody ≠ paddedBody := fun same => absurd (congrArg List.length same) (by decide)
  exact (if_neg longer).trans (if_pos rfl)

theorem padded_question_compressed :
    applyChatCompletions paddedFromSlice paddedToVec oneTokenPerMessage plainParts paddedBody .openAI =
        (.ok collapsedBody, { plainParts with tokenPair := some ⟨1, 1⟩ }) ∧
      (applyChatCompletions paddedFromSlice paddedToVec oneTokenPerMessage plainParts collapsedBody .openAI).1 =
        .ok collapsedBody := by
  have outcome : applyChatCompletions paddedFromSlice paddedToVec oneTokenPerMessage plainParts paddedBody .openAI =
      (.ok collapsedBody, { plainParts with tokenPair := some ⟨1, 1⟩ }) := by rfl
  refine ⟨outcome, ?_⟩
  rcases compression_collapses_blanks paddedFromSlice paddedToVec oneTokenPerMessage plainParts paddedBody .openAI with
    ⟨error, _, refused⟩ | kept | ⟨value, items, pair, read, listed, _, _, again⟩
  · rw [outcome] at refused
    cases refused
  · rw [outcome] at kept
    have noted : some (⟨1, 1⟩ : PromptCompressionTokenPair) = none := congrArg (fun result => result.2.tokenPair) kept
    cases noted
  · obtain rfl := Except.ok.inj (paddedFromSlice_padded.symm.trans read)
    obtain rfl := Json.array.inj (Option.some.inj ((paddedMessages_listed _).symm.trans listed))
    rw [compressed_padded, paddedToVec_collapsed] at again
    exact again paddedFromSlice_collapsed plainParts rfl

/-- The request is well formed and is not given back. -/
theorem unknown_handler_refused :
    applyChatCompletions paddedFromSlice paddedToVec oneTokenPerMessage unknownHandlerParts paddedBody .openAI =
      (.error (.invalidLargeContextHandler "shrink"), unknownHandlerParts) := by
  rfl

end Requests

end AiGateway.PromptCompression
