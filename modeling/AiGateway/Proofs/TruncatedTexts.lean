import AiGateway.LargeContext
import AiGateway.Lib.Words

/-! The two strategies that cut texts keep to the characters they are given, leave of each text
as much as its share takes, and touch nothing of a message but its text. -/

namespace AiGateway.LargeContext

open Lib.Words

section Shortened

inductive CutStrategy where
  | truncate
  | middleOut

namespace CutStrategy

def shorten : CutStrategy → List Char → Nat → List Char
  | truncate => truncateTextToLimit
  | middleOut => middleOutTextToLimit

def apply (budgetChars : UInt32 → String → Nat) : CutStrategy → ChatCompletionsPayload → String → UInt32 → Option Json
  | truncate => applyTruncate budgetChars
  | middleOut => applyMiddleOut budgetChars

/-- The largest share without room for the mark. -/
def room : CutStrategy → Nat
  | truncate => 3
  | middleOut => 5

/-- What is put for a text that is too long for its share: a front of it and the mark, or, on the
two sides of the mark, a front and a back of it. The front ends with a word where one ends within
the last 32 bytes, so that it may miss the share by these. -/
def Marked (normalized : List Char) (share : Nat) (result : List Char) : CutStrategy → Prop
  | truncate => ∃ front, front <+: normalized ∧ front ≠ [] ∧ front.length + 3 ≤ share ∧
      share ≤ byteLength front + 35 ∧ result = front ++ ellipsis
  | middleOut => ∃ front back, front <+: normalized ∧ back <:+ normalized ∧ front.length + back.length + 3 = share ∧
      (front.length = back.length ∨ front.length = back.length + 1) ∧ result = front ++ ellipsis ++ back

/-- What is left of a text in its share. A text that fits is kept, up to its blanks. -/
structure Shortened (strategy : CutStrategy) (text : List Char) (share : Nat) (result : List Char) : Prop where
  kept : (normalizeText text).length ≤ share → result = normalizeText text
  bare : share < (normalizeText text).length → share ≤ strategy.room → result = (normalizeText text).take share
  marked : share < (normalizeText text).length → strategy.room < share →
    strategy.Marked (normalizeText text) share result

theorem Shortened.length_le {strategy : CutStrategy} {text : List Char} {share : Nat} {result : List Char}
    (shortened : strategy.Shortened text share result) : result.length ≤ share := by
  by_cases fits : (normalizeText text).length ≤ share
  · rw [shortened.kept fits]
    exact fits
  · have long := Nat.lt_of_not_le fits
    by_cases small : share ≤ strategy.room
    · rw [shortened.bare long small]
      exact List.length_take_le _ _
    · have marked := shortened.marked long (Nat.lt_of_not_le small)
      have marks : ellipsis.length = 3 := rfl
      cases strategy with
      | truncate =>
        obtain ⟨front, -, -, bound, -, rfl⟩ := marked
        rw [List.length_append]
        omega
      | middleOut =>
        obtain ⟨front, back, -, -, whole, -, rfl⟩ := marked
        rw [List.length_append, List.length_append]
        omega

end CutStrategy

theorem length_le_byteLength (text : List Char) : text.length ≤ byteLength text := by
  induction text with
  | nil => exact Nat.le_refl 0
  | cons c rest ih =>
    have size := c.utf8Size_pos
    rw [byteLength, List.map_cons, List.sum_cons, List.length_cons]
    rw [byteLength] at ih
    omega

theorem trimEnd_of_last {front : List Char} {last : Char} (filled : isWhitespace last = false) :
    trimEnd (front ++ [last]) = front ++ [last] := by
  rw [trimEnd, List.reverse_append, List.reverse_singleton, List.singleton_append,
    List.dropWhile_cons_of_neg (by simp [filled]), List.reverse_cons, List.reverse_reverse]

theorem beforeLastBlank_cases (text : List Char) :
    (beforeLastBlank text = none ∧ ∀ c ∈ text, isWhitespace c = false) ∨
      ∃ before blank after, beforeLastBlank text = some before ∧ text = before ++ blank :: after ∧
        isWhitespace blank = true ∧ ∀ c ∈ after, isWhitespace c = false := by
  have whole := List.takeWhile_append_dropWhile (p := fun c => !isWhitespace c) (l := text.reverse)
  have filled : ∀ c ∈ text.reverse.takeWhile fun c => !isWhitespace c, isWhitespace c = false := by
    intro c member
    simpa using List.mem_takeWhile_imp member
  have stopped := List.head?_dropWhile_not (fun c => !isWhitespace c) text.reverse
  unfold beforeLastBlank
  generalize text.reverse.takeWhile (fun c => !isWhitespace c) = ending at whole filled
  cases rest : text.reverse.dropWhile fun c => !isWhitespace c with
  | nil =>
    rw [rest, List.append_nil] at whole
    exact Or.inl ⟨rfl, fun c member => filled c (whole ▸ List.mem_reverse.mpr member)⟩
  | cons blank before =>
    rw [rest] at whole stopped
    refine Or.inr ⟨before.reverse, blank, ending.reverse, rfl, ?_, ?_, ?_⟩
    · rw [← List.reverse_reverse text, ← whole]
      simp
    · simpa using stopped
    · exact fun c member => filled c (List.mem_reverse.mp member)

theorem byteLength_append (before after : List Char) :
    byteLength (before ++ after) = byteLength before + byteLength after := by
  simp [byteLength]

/-- Where a front of joined words stops at a blank, it ends with a word; and a front that is cut
where no blank is near ends with none either. -/
theorem truncate_cut {text : List Char} {rawLimit : Nat} (positive : 0 < rawLimit)
    (long : rawLimit ≤ (normalizeText text).length) :
    let candidate := (normalizeText text).take rawLimit
    let cut := ((beforeLastBlank candidate).filter fun before => rawLimit - 32 ≤ byteLength before).getD candidate
    cut <+: normalizeText text ∧ cut.length ≤ rawLimit ∧ rawLimit ≤ byteLength cut + 32 ∧
      ∃ front last, cut = front ++ [last] ∧ isWhitespace last = false := by
  intro candidate cut
  have prefixed : candidate <+: normalizeText text := List.take_prefix _ _
  have size : candidate.length = rawLimit := by rw [List.length_take, Nat.min_eq_left long]
  have bytes := length_le_byteLength candidate
  have ending : ∃ front last, candidate = front ++ [last] :=
    ⟨candidate.dropLast, candidate.getLast (List.ne_nil_of_length_pos (by omega)),
      (List.dropLast_append_getLast _).symm⟩
  obtain ⟨none, filled⟩ | ⟨before, blank, after, found, parts, isBlank, filled⟩ := beforeLastBlank_cases candidate
  · have uncut : cut = candidate := by simp only [cut, none, Option.filter_none, Option.getD_none]
    obtain ⟨front, last, whole⟩ := ending
    rw [uncut]
    exact ⟨prefixed, by omega, by omega, front, last, whole, filled last (by simp [whole])⟩
  · by_cases near : rawLimit - 32 ≤ byteLength before
    · have kept : cut = before := by simp only [cut, found, Option.filter_some, near, decide_true, if_true, Option.getD_some]
      obtain ⟨after', rest⟩ := prefixed
      have each (piece : List Char) (member : piece ∈ words isWhitespace text) : Word isWhitespace piece :=
        word_of_mem member
      have words := word_before_blank each
        (show [' '].intercalate (words isWhitespace text) = before ++ blank :: (after ++ after') by
          rw [← List.cons_append, ← List.append_assoc, ← parts, rest]; rfl) isBlank
      have short : before.length ≤ rawLimit := by
        rw [← size, parts, List.length_append]
        omega
      rw [kept]
      exact ⟨⟨_, by rw [← rest, parts, List.append_assoc]⟩, short, by omega, words⟩
    · have uncut : cut = candidate := by
        simp only [cut, found, Option.filter_some, near, decide_false, Bool.false_eq_true, if_false, Option.getD_none]
      obtain ⟨front, last, whole⟩ := ending
      rw [uncut]
      refine ⟨prefixed, by omega, by omega, front, last, whole, ?_⟩
      -- The last character is no blank: one there would be near.
      rcases List.eq_nil_or_concat after with rfl | ⟨others, final, rfl⟩
      · have small := blank.utf8Size_le_four
        rw [parts, byteLength_append] at bytes
        rw [parts, List.length_append, List.length_singleton] at size
        simp only [byteLength, List.map_cons, List.map_nil, List.sum_cons, List.sum_nil] at bytes near
        rw [List.length_append, List.length_singleton] at bytes
        omega
      · have same : front ++ [last] = (before ++ blank :: others) ++ [final] := by
          rw [← whole, parts, List.concat_eq_append]
          simp
        cases (List.append_inj' same rfl).2
        exact filled last (by simp)

theorem truncateTextToLimit_shortened (text : List Char) (share : Nat) :
    CutStrategy.truncate.Shortened text share (truncateTextToLimit text share) := by
  have marks : ellipsis.length = 3 := rfl
  have room : CutStrategy.truncate.room = 3 := rfl
  unfold truncateTextToLimit
  extract_lets normalized rawLimit candidate cut trimmed
  constructor
  · intro fits
    split
    · next zero => exact (List.length_eq_zero_iff.mp (by omega)).symm
    · rfl
  · intro long small
    split
    · next zero => rw [zero, List.take_zero]
    · rw [if_neg (Nat.not_le_of_lt long), if_pos (by omega)]
  · intro long large
    rw [if_neg (by omega), if_neg (Nat.not_le_of_lt long), if_neg (by omega)]
    have positive : 0 < rawLimit := by omega
    have below : rawLimit ≤ (normalizeText text).length := by omega
    obtain ⟨prefixed, short, bytes, front, last, whole, filled⟩ :
        cut <+: normalizeText text ∧ cut.length ≤ rawLimit ∧ rawLimit ≤ byteLength cut + 32 ∧
          ∃ front last, cut = front ++ [last] ∧ isWhitespace last = false := truncate_cut positive below
    have uncut : trimmed = cut := by
      show trimEnd cut = cut
      rw [whole, trimEnd_of_last filled]
    have nonempty : cut ≠ [] := by simp [whole]
    rw [uncut, if_neg (by simpa using nonempty)]
    exact ⟨cut, prefixed, nonempty, by omega, by omega, rfl⟩

theorem middleOutTextToLimit_shortened (text : List Char) (share : Nat) :
    CutStrategy.middleOut.Shortened text share (middleOutTextToLimit text share) := by
  have marks : ellipsis.length = 3 := rfl
  have room : CutStrategy.middleOut.room = 5 := rfl
  unfold middleOutTextToLimit
  extract_lets normalized visibleChars headChars tailChars
  constructor
  · intro fits
    split
    · next zero => exact (List.length_eq_zero_iff.mp (by omega)).symm
    · rfl
  · intro long small
    split
    · next zero => rw [zero, List.take_zero]
    · rw [if_neg (Nat.not_le_of_lt long), if_pos (by omega)]
  · intro long large
    rw [if_neg (by omega), if_neg (Nat.not_le_of_lt long), if_neg (by omega)]
    have long' : share < normalized.length := long
    have head : (normalized.take headChars).length = headChars := by rw [List.length_take]; omega
    have tail : (normalized.reverse.take tailChars).reverse.length = tailChars := by
      rw [List.length_reverse, List.length_take, List.length_reverse]
      omega
    refine ⟨_, _, List.take_prefix _ _, ?_, ?_, ?_, rfl⟩
    · rw [← List.reverse_prefix, List.reverse_reverse]
      exact List.take_prefix _ _
    · rw [head, tail]
      omega
    · rw [head, tail]
      omega

theorem CutStrategy.shorten_shortened (strategy : CutStrategy) (text : List Char) (share : Nat) :
    strategy.Shortened text share (strategy.shorten text share) := by
  cases strategy with
  | truncate => exact truncateTextToLimit_shortened text share
  | middleOut => exact middleOutTextToLimit_shortened text share

end Shortened

section Shares

theorem saturatingMul_le (first second : Nat) : saturatingMul first second ≤ first * second := by
  rw [saturatingMul]
  split <;> omega

theorem budgetsFrom_length (messages : List ChatMessageTextRef) (remaining source : Nat) :
    (budgetsFrom remaining source messages).length = messages.length := by
  induction messages generalizing remaining source with
  | nil => rfl
  | cons message rest ih => simp [budgetsFrom, ih]

/-- What is left of the source is never less than the messages that are left. -/
theorem budgetsFrom_sum_le {messages : List ChatMessageTextRef} {remaining source : Nat}
    (left : (messages.map messageChars).sum ≤ source) : (budgetsFrom remaining source messages).sum ≤ remaining := by
  induction messages generalizing remaining source with
  | nil => exact Nat.zero_le _
  | cons message rest ih =>
    rw [List.map_cons, List.sum_cons] at left
    have spent : (if rest.isEmpty then remaining else if source = 0 then 0
        else saturatingMul (messageChars message) remaining / source) ≤ remaining := by
      split
      · exact Nat.le_refl _
      split
      · exact Nat.zero_le _
      · calc saturatingMul (messageChars message) remaining / source
            ≤ messageChars message * remaining / source := Nat.div_le_div_right (saturatingMul_le _ _)
          _ ≤ source * remaining / source := Nat.div_le_div_right (Nat.mul_le_mul_right _ (by omega))
          _ = remaining := Nat.mul_div_cancel_left _ (by omega)
    have rest_le : (rest.map messageChars).sum ≤ source - messageChars message := by omega
    rw [budgetsFrom, List.sum_cons]
    apply Nat.le_trans (Nat.add_le_add_left (ih rest_le) _)
    omega

variable (payload : ChatCompletionsPayload) (budget : Nat)

theorem proportionalCharBudgets_length : (proportionalCharBudgets payload budget).length = payload.messages.length := by
  unfold proportionalCharBudgets
  extract_lets totalChars
  split
  · exact List.length_replicate
  · apply budgetsFrom_length

theorem proportionalCharBudgets_sum_le : (proportionalCharBudgets payload budget).sum ≤ budget := by
  unfold proportionalCharBudgets
  extract_lets totalChars
  split
  · simp
  · exact budgetsFrom_sum_le (Nat.le_refl _)

end Shares

section Messages

/-- The reference to a message's text, where it has one. -/
def textRef (index : Nat) (message : Json) : Option ChatMessageTextRef :=
  (message.getStr "content").map fun content => ⟨index, (message.get "role").bind trimmedString, content.toList⟩

theorem parseMessages_cons (index : Nat) (message : Json) (rest : List Json) :
    (parseMessages index (message :: rest)).1 = (textRef index message).toList ++ (parseMessages (index + 1) rest).1 := by
  cases message with
  | object members =>
    simp only [parseMessages, textRef, Json.getStr]
    split
    · next content found => simp [found, Json.asStr]
    · next found => simp [found, Json.asStr]
    · next found => simp [found]
    · next content other notNull found =>
      simp only [found, Option.bind_some]
      cases content with
      | string text => exact absurd rfl (other text)
      | _ => rfl
  | _ => rfl

def withText (text : List Char) (message : Json) : Json :=
  message.modify "content" fun _ => .string (String.ofList text)

/-- A message with its text left out. -/
def withoutText (message : Json) : Json := message.modify "content" (Json.overText fun _ => "")

theorem withoutText_withText {message : Json} {content : String} (held : message.getStr "content" = some content)
    (text : List Char) : withoutText (withText text message) = withoutText message := by
  rw [withoutText, withText]
  rw [Json.modify_modify]
  apply Json.modify_congr
  intro member found
  rw [Json.getStr, found, Option.bind_some] at held
  cases member with
  | string old => rfl
  | _ => cases held

theorem textRef_withText {message : Json} {content : String} (held : message.getStr "content" = some content)
    (index : Nat) (text : List Char) :
    textRef index (withText text message) = some ⟨index, (message.get "role").bind trimmedString, text⟩ := by
  have role : (withText text message).get "role" = message.get "role" := Json.get_modify_ne (by decide) message
  have cut : (withText text message).getStr "content" = some (String.ofList text) := by
    obtain ⟨member, found, _⟩ := Option.bind_eq_some_iff.mp held
    rw [Json.getStr, withText]
    rw [Json.get_modify_self, found]
    rfl
  simp [textRef, role, cut]

theorem setContent_append (before rest : List Json) (message : Json) (text : List Char) :
    setContent (before ++ message :: rest) before.length text = (before ++ [withText text message]) ++ rest := by
  rw [setContent, List.modify_eq_take_drop, List.take_left, List.drop_left]
  simp [withText]

variable (shorten : List Char → Nat → List Char)

def cutTo (message : ChatMessageTextRef) (share : Nat) : ChatMessageTextRef :=
  { message with content := shorten message.content share }

/-- The messages before the first one of the loop are as they were; the others differ in their
texts only, and each text is its old one cut to its share. -/
theorem foldl_setContent {items : List Json} (before : List Json) (shares : List Nat)
    (each : shares.length = (parseMessages before.length items).1.length) :
    ∃ cut,
      ((parseMessages before.length items).1.zip shares).foldl
          (fun items entry => setContent items entry.1.index (shorten entry.1.content entry.2)) (before ++ items) =
        before ++ cut ∧
      (parseMessages before.length cut).1 = List.zipWith (cutTo shorten) (parseMessages before.length items).1 shares ∧
      cut.map withoutText = items.map withoutText := by
  induction items generalizing before shares with
  | nil => exact ⟨[], rfl, rfl, rfl⟩
  | cons message rest ih =>
    cases held : message.getStr "content" with
    | none =>
      have unread : textRef before.length message = none := by rw [textRef, held]; rfl
      rw [parseMessages_cons, unread] at each ⊢
      have moved := ih (before ++ [message]) shares
      rw [List.length_append, List.append_assoc] at moved
      obtain ⟨cut, folded, parsed, others⟩ := moved each
      refine ⟨message :: cut, ?_, ?_, ?_⟩
      · simpa using folded
      · rw [parseMessages_cons, unread]
        exact parsed
      · rw [List.map_cons, List.map_cons, others]
    | some content =>
      have read : textRef before.length message =
          some ⟨before.length, (message.get "role").bind trimmedString, content.toList⟩ := by rw [textRef, held]; rfl
      rw [parseMessages_cons, read] at each ⊢
      cases shares with
      | nil => simp at each
      | cons share shares =>
        let text := shorten content.toList share
        have moved := ih (before ++ [withText text message]) shares
        rw [List.length_append] at moved
        obtain ⟨cut, folded, parsed, others⟩ := moved (by simpa using each)
        refine ⟨withText text message :: cut, ?_, ?_, ?_⟩
        · simp only [Option.toList_some, List.singleton_append, List.zip_cons_cons, List.foldl_cons]
          rw [setContent_append]
          simpa using folded
        · rw [parseMessages_cons, textRef_withText held]
          simp only [Option.toList_some, List.singleton_append, List.zipWith_cons_cons]
          exact congrArg (_ :: ·) parsed
        · rw [List.map_cons, List.map_cons, others, withoutText_withText held]

end Messages

section Payloads

theorem parsed_messages {fromSlice : List UInt8 → Except String Json} {body : List UInt8} {payload : ChatCompletionsPayload}
    (parsed : parseChatCompletionsPayload fromSlice body = .ok (some payload)) :
    ∃ items, payload.raw.get "messages" = some (.array items) ∧ payload.messages = (parseMessages 0 items).1 := by
  rw [parseChatCompletionsPayload] at parsed
  cases read : fromSlice body with
  | error reason => simp [read, bind, Except.bind] at parsed
  | ok raw =>
    simp only [read, bind, Except.bind] at parsed
    split at parsed
    · simp [pure, Except.pure] at parsed
    · next items found =>
      obtain ⟨member, held, array⟩ := Option.bind_eq_some_iff.mp found
      cases member with
      | array values =>
        cases array
        simp only [pure, Except.pure, Except.ok.injEq, Option.some.injEq] at parsed
        subst parsed
        exact ⟨items, held, rfl⟩
      | _ => cases array

theorem get_valueWithModel_ne {key : String} (different : key ≠ "model") (raw : Json) (model : String) :
    (valueWithModel raw model).get key = raw.get key := by
  cases raw with
  | object members => exact Json.lookup_insertMember_ne members "model" (.string model) different
  | _ => rfl

theorem get_valueWithModel_model {raw member : Json} {key : String} (object : raw.get key = some member) (model : String) :
    (valueWithModel raw model).get "model" = some (.string model) := by
  cases raw with
  | object members => exact Json.lookup_insertMember_self members "model" (.string model)
  | _ => cases object

/-- The texts to be cut are more than what fits, and there is nothing but texts. -/
structure Oversized (payload : ChatCompletionsPayload) (budget : Nat) : Prop where
  textOnly : payload.hasNonTextMessageContent = false
  some : payload.messages ≠ []
  positive : 0 < budget
  more : budget < totalMessageChars payload

/-- The messages after the texts are cut, beside those before. -/
structure CutMessages (strategy : CutStrategy) (payload : ChatCompletionsPayload) (budget : Nat) (items cut : List Json) :
    Prop where
  texts : List.Forall₂ (fun (entry : ChatMessageTextRef × Nat) message =>
      message.index = entry.1.index ∧ strategy.Shortened entry.1.content entry.2 message.content)
    ((parseMessages 0 items).1.zip (proportionalCharBudgets payload budget)) (parseMessages 0 cut).1
  total : ((parseMessages 0 cut).1.map fun message => message.content.length).sum ≤ budget
  shares : List.Forall₂ (fun message share => message.content.length ≤ share) (parseMessages 0 cut).1
    (proportionalCharBudgets payload budget)
  others : cut.map withoutText = items.map withoutText

/-- A body with another model and its texts cut, beside the body it is made from. -/
structure CutPayload (strategy : CutStrategy) (payload : ChatCompletionsPayload) (primaryModel : String) (budget : Nat)
    (result : Json) : Prop where
  messages : ∃ items cut, payload.raw.get "messages" = some (.array items) ∧ result.get "messages" = some (.array cut) ∧
    CutMessages strategy payload budget items cut
  model : result.get "model" = some (.string primaryModel)
  others : ∀ key, key ≠ "messages" → key ≠ "model" → result.get key = payload.raw.get key

theorem forall₂_cutTo (strategy : CutStrategy) {messages : List ChatMessageTextRef} {shares : List Nat}
    (each : shares.length = messages.length) :
    List.Forall₂ (fun (entry : ChatMessageTextRef × Nat) message =>
        message.index = entry.1.index ∧ strategy.Shortened entry.1.content entry.2 message.content)
      (messages.zip shares) (List.zipWith (cutTo strategy.shorten) messages shares) := by
  induction messages generalizing shares with
  | nil => exact .nil
  | cons message rest ih =>
    cases shares with
    | nil => cases each
    | cons share shares =>
      exact .cons ⟨rfl, strategy.shorten_shortened message.content share⟩ (ih (Nat.succ.inj each))

/-- Texts that are shortened to their shares fit them. -/
theorem shares_of_texts {strategy : CutStrategy} {messages cut : List ChatMessageTextRef} {shares : List Nat}
    (each : shares.length = messages.length)
    (texts : List.Forall₂ (fun (entry : ChatMessageTextRef × Nat) message =>
        message.index = entry.1.index ∧ strategy.Shortened entry.1.content entry.2 message.content)
      (messages.zip shares) cut) :
    List.Forall₂ (fun message share => message.content.length ≤ share) cut shares := by
  induction messages generalizing shares cut with
  | nil =>
    cases List.length_eq_zero_iff.mp each
    cases texts
    exact .nil
  | cons message rest ih =>
    cases shares with
    | nil => cases each
    | cons share shares =>
      cases texts with
      | cons here later => exact .cons here.2.length_le (ih (Nat.succ.inj each) later)

theorem sum_le_of_forall₂ {messages : List ChatMessageTextRef} {shares : List Nat}
    (within : List.Forall₂ (fun message share => message.content.length ≤ share) messages shares) :
    (messages.map fun message => message.content.length).sum ≤ shares.sum := by
  induction within with
  | nil => exact Nat.le_refl _
  | cons here _ ih => exact Nat.add_le_add here ih

theorem cutMessages (strategy : CutStrategy) {payload : ChatCompletionsPayload} {items : List Json}
    (read : payload.messages = (parseMessages 0 items).1) (budget : Nat) :
    ∃ cut, (payload.messages.zip (proportionalCharBudgets payload budget)).foldl
        (fun items entry => setContent items entry.1.index (strategy.shorten entry.1.content entry.2)) items = cut ∧
      CutMessages strategy payload budget items cut := by
  have each := proportionalCharBudgets_length payload budget
  rw [read] at each ⊢
  obtain ⟨cut, folded, parsed, others⟩ := foldl_setContent strategy.shorten [] (proportionalCharBudgets payload budget) each
  have texts := parsed ▸ forall₂_cutTo strategy each
  have within := shares_of_texts each texts
  refine ⟨cut, folded, texts, ?_, within, others⟩
  exact Nat.le_trans (sum_le_of_forall₂ within) (proportionalCharBudgets_sum_le payload budget)

end Payloads

section Strategies
variable {fromSlice : List UInt8 → Except String Json} {body : List UInt8} {payload : ChatCompletionsPayload}
  {budgetChars : UInt32 → String → Nat}

theorem CutStrategy.apply_eq (strategy : CutStrategy) : strategy.apply budgetChars = applyWith budgetChars strategy.shorten := by
  cases strategy <;> rfl

/-- A strategy does something only to what is oversized. -/
theorem applyWith_of_not_oversized {shorten : List Char → Nat → List Char} {primaryModel : String} {tokens : UInt32}
    (fitting : ¬Oversized payload (budgetChars tokens primaryModel)) :
    applyWith budgetChars shorten payload primaryModel tokens = none := by
  rw [applyWith]
  split
  · rfl
  · next plain =>
    rw [not_or] at plain
    extract_lets totalBudgetChars
    split
    · rfl
    split
    · rfl
    · next positive more =>
      refine absurd ⟨?_, ?_, Nat.pos_of_ne_zero positive, Nat.lt_of_not_le more⟩ fitting
      · simpa using plain.1
      · simpa using plain.2

theorem apply_of_oversized (strategy : CutStrategy)
    (parsed : parseChatCompletionsPayload fromSlice body = .ok (some payload)) {primaryModel : String} {tokens : UInt32}
    (oversized : Oversized payload (budgetChars tokens primaryModel)) :
    ∃ result, strategy.apply budgetChars payload primaryModel tokens = some result ∧
      CutPayload strategy payload primaryModel (budgetChars tokens primaryModel) result := by
  obtain ⟨items, held, read⟩ := parsed_messages parsed
  obtain ⟨cut, folded, messages⟩ := cutMessages strategy read (budgetChars tokens primaryModel)
  have here : (valueWithModel payload.raw primaryModel).get "messages" = some (.array items) := by
    rw [get_valueWithModel_ne (by decide), held]
  have ready : ¬(payload.hasNonTextMessageContent = true ∨ payload.messages.isEmpty = true) := by
    simp [oversized.textOnly, oversized.some]
  refine ⟨(valueWithModel payload.raw primaryModel).modify "messages" fun _ => .array cut, ?_, ?_, ?_, ?_⟩
  · rw [strategy.apply_eq, applyWith]
    rw [if_neg ready, if_neg (Nat.ne_of_gt oversized.positive), if_neg (Nat.not_le_of_lt oversized.more)]
    simp only [here, Option.bind_some, Json.asArray, Option.map_some, folded]
  · refine ⟨items, cut, held, ?_, messages⟩
    rw [Json.get_modify_self, here]
    rfl
  · rw [Json.get_modify_ne (by decide)]
    exact get_valueWithModel_model held primaryModel
  · intro key notMessages notModel
    rw [Json.get_modify_ne notMessages, get_valueWithModel_ne notModel]

/-- A request that names a second model to fall back on. -/
def twoModelRequest : Json :=
  .object [("model", .string "openai/gpt-4o-mini,openai/gpt-4o"),
    ("messages", .array [.object [("role", .string "user"), ("content", .string "x")],
      .object [("role", .string "user"), ("content", .string "a\tb")]])]

def twoModelBody : List UInt8 :=
  asciiBytes ("\x7b\"model\":\"openai/gpt-4o-mini,openai/gpt-4o\",\"messages\":[\x7b\"role\":\"user\",\"content\":\"x\"\x7d," ++
    "\x7b\"role\":\"user\",\"content\":\"a\\tb\"\x7d]\x7d")

/-- What the parser makes of that request. -/
def twoModelSlice (body : List UInt8) : Except String Json :=
  if body = twoModelBody then .ok twoModelRequest else .error "expected value"

def twoModelPayload : ChatCompletionsPayload where
  raw := twoModelRequest
  model := some "openai/gpt-4o-mini,openai/gpt-4o"
  messages := [⟨0, some "user", "x".toList⟩, ⟨1, some "user", "a\tb".toList⟩]
  hasNonTextMessageContent := false
  tools := none
  requestedCompletionTokens := none

/-- Four characters a token, of which nine tenths are used. -/
def fourPerToken (tokens : UInt32) (_ : String) : Nat := tokens.toNat * 18 / 5

theorem twoModelBody_parsed : parseChatCompletionsPayload twoModelSlice twoModelBody = .ok (some twoModelPayload) := by
  rw [parseChatCompletionsPayload, twoModelSlice, if_pos rfl]
  rfl

theorem twoModelPayload_oversized : Oversized twoModelPayload 3 := by
  refine ⟨rfl, ?_, by decide, ?_⟩
  · exact List.cons_ne_nil _ _
  · decide +kernel

def contents (value : Json) : List (Option String) :=
  (((value.get "messages").bind Json.asArray).getD []).map fun message => message.getStr "content"

end Strategies

end AiGateway.LargeContext
