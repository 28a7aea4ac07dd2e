import AiGateway.DefaultModel
import Mathlib.Algebra.GroupWithZero.Nat

/-! Chat requests that are too large for their model: their texts are cut, each to its share
of the characters that the model takes. -/

namespace AiGateway.LargeContext

structure ChatMessageTextRef where
  index : Nat
  role : Option String
  content : List Char
  deriving DecidableEq, Repr

structure ChatCompletionsPayload where
  raw : Json
  model : Option String
  messages : List ChatMessageTextRef
  hasNonTextMessageContent : Bool
  tools : Option Json
  requestedCompletionTokens : Option UInt32

section Parse

def trimmedString (value : Json) : Option String :=
  (value.asStr.map DefaultModel.trimmed).filter fun text => !text.isEmpty

def completionBudgetFromObject (object : Json) : Option UInt32 :=
  ["max_completion_tokens", "max_tokens", "max_output_tokens"].findSome? fun key =>
    ((object.get key).bind Json.asU64).bind fun value => if value.toNat < UInt32.size then some value.toUInt32 else none

/-- The messages with a text, from the index of the first on, and whether others have contents
that are none. -/
def parseMessages : Nat → List Json → List ChatMessageTextRef × Bool
  | _, [] => ([], false)
  | index, message :: rest =>
    let (messages, nonText) := parseMessages (index + 1) rest
    match message with
    | .object _ =>
      match message.get "content" with
      | some (.string content) => (⟨index, (message.get "role").bind trimmedString, content.toList⟩ :: messages, nonText)
      | some .null | none => (messages, nonText)
      | some _ => (messages, true)
    | _ => (messages, true)

variable (fromSlice : List UInt8 → Except String Json)

def parseChatCompletionsPayload (body : List UInt8) : Except String (Option ChatCompletionsPayload) := do
  let raw ← fromSlice body
  match (raw.get "messages").bind Json.asArray with
  | none => pure none
  | some items =>
    let (messages, hasNonTextMessageContent) := parseMessages 0 items
    pure (some {
      raw, messages, hasNonTextMessageContent
      model := (raw.get "model").bind trimmedString
      tools := raw.get "tools"
      requestedCompletionTokens := completionBudgetFromObject raw })

end Parse

section Texts

def normalizeText (text : List Char) : List Char :=
  [' '].intercalate ((text.splitOnP isWhitespace).filter fun word => !word.isEmpty)

def messageChars (message : ChatMessageTextRef) : Nat := (normalizeText message.content).length

def totalMessageChars (payload : ChatCompletionsPayload) : Nat := (payload.messages.map messageChars).sum

def ellipsis : List Char := "...".toList

def byteLength (text : List Char) : Nat := (text.map Char.utf8Size).sum

/-- What stands before the last blank. -/
def beforeLastBlank (text : List Char) : Option (List Char) :=
  match text.reverse.dropWhile fun c => !isWhitespace c with
  | [] => none
  | _ :: before => some before.reverse

def trimEnd (text : List Char) : List Char := (text.reverse.dropWhile isWhitespace).reverse

/-- The place of the last blank is in bytes, and is compared with a number of characters. -/
def truncateTextToLimit (text : List Char) (maxChars : Nat) : List Char :=
  let normalized := normalizeText text
  if maxChars = 0 then []
  else if normalized.length ≤ maxChars then normalized
  else if maxChars ≤ ellipsis.length then normalized.take maxChars
  else
    let rawLimit := maxChars - ellipsis.length
    let candidate := normalized.take rawLimit
    let cut := ((beforeLastBlank candidate).filter fun before => rawLimit - 32 ≤ byteLength before).getD candidate
    let trimmed := trimEnd cut
    (if trimmed.isEmpty then candidate else trimmed) ++ ellipsis

def middleOutTextToLimit (text : List Char) (maxChars : Nat) : List Char :=
  let normalized := normalizeText text
  if maxChars = 0 then []
  else if normalized.length ≤ maxChars then normalized
  else if maxChars ≤ ellipsis.length + 2 then normalized.take maxChars
  else
    let visibleChars := maxChars - ellipsis.length
    let headChars := (visibleChars + 1) / 2
    let tailChars := visibleChars / 2
    normalized.take headChars ++ ellipsis ++ (normalized.reverse.take tailChars).reverse

end Texts

section Budgets

def maxUsize : Nat := 18446744073709551615

def saturatingMul (first second : Nat) : Nat := if first * second ≤ maxUsize then first * second else maxUsize

/-- The last message gets all that is left. -/
def budgetsFrom : Nat → Nat → List ChatMessageTextRef → List Nat
  | _, _, [] => []
  | remainingChars, remainingSourceChars, message :: rest =>
    let chars := messageChars message
    let budget :=
      if rest.isEmpty then remainingChars
      else if remainingSourceChars = 0 then 0
      else saturatingMul chars remainingChars / remainingSourceChars
    budget :: budgetsFrom (remainingChars - budget) (remainingSourceChars - chars) rest

def proportionalCharBudgets (payload : ChatCompletionsPayload) (totalBudgetChars : Nat) : List Nat :=
  let totalChars := totalMessageChars payload
  if totalChars = 0 ∨ totalBudgetChars = 0 then List.replicate payload.messages.length 0
  else budgetsFrom totalBudgetChars totalChars payload.messages

end Budgets

section Strategies
variable (budgetChars : UInt32 → String → Nat)

def valueWithModel (raw : Json) (model : String) : Json :=
  match raw with
  | .object members => .object (Json.insertMember members "model" (.string model))
  | other => other

/-- `messages_array[index]["content"] = text`, for a message with a content. -/
def setContent (items : List Json) (index : Nat) (text : List Char) : List Json :=
  items.modify index fun message => message.modify "content" fun _ => .string (String.ofList text)

/-- The texts of the messages cut to their budgets. Nothing is done where one content is no
text, or where all of it fits. -/
def applyWith (shorten : List Char → Nat → List Char) (payload : ChatCompletionsPayload) (primaryModel : String)
    (inputBudgetTokens : UInt32) : Option Json :=
  if payload.hasNonTextMessageContent ∨ payload.messages.isEmpty then none
  else
    let totalBudgetChars := budgetChars inputBudgetTokens primaryModel
    if totalBudgetChars = 0 then none
    else if totalMessageChars payload ≤ totalBudgetChars then none
    else
      let cloned := valueWithModel payload.raw primaryModel
      ((cloned.get "messages").bind Json.asArray).map fun items =>
        let items := (payload.messages.zip (proportionalCharBudgets payload totalBudgetChars)).foldl
          (fun items entry => setContent items entry.1.index (shorten entry.1.content entry.2)) items
        cloned.modify "messages" fun _ => .array items

def applyTruncate : ChatCompletionsPayload → String → UInt32 → Option Json := applyWith budgetChars truncateTextToLimit

def applyMiddleOut : ChatCompletionsPayload → String → UInt32 → Option Json := applyWith budgetChars middleOutTextToLimit

end Strategies

end AiGateway.LargeContext
