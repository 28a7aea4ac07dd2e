import AiGateway.Types
import AiGateway.Json
import AiGateway.Lib.Sequences

/-! Prompt templates: the variables that stand in the messages and schemas of a body, and the
inputs that are put in their place. -/

namespace AiGateway.PromptTemplates

open Lib.Matches Lib.Sequences

section Patterns

def startsName (c : Char) : Bool := c.isAlpha || c == '_' || c == '-'

def continuesName (c : Char) : Bool := c.isAlphanum || c == '_' || c == '-'

def blanks : Stretch Char := .skip isWhitespace

def variableName : Stretch Char := .word startsName continuesName

def openingBraces : List (Stretch Char) := [.exactly '{', .exactly '{']

def closingBraces : List (Stretch Char) := [.exactly '}', .exactly '}']

/-- What follows the braces of a typed variable: the mark, a name and a type. -/
def typedTail : List (Stretch Char) :=
  [blanks, .exactly 'h', .exactly 'c', blanks, .exactly ':', blanks, variableName, blanks, .exactly ':', blanks,
    variableName, blanks] ++ closingBraces

def legacyTail : List (Stretch Char) := [blanks, variableName, blanks] ++ closingBraces

structure TypedVariable where
  name : List Char
  type : List Char
  deriving DecidableEq, Repr

def typedFront (text : List Char) : Option (Nat × TypedVariable) :=
  match read (openingBraces ++ typedTail) text with
  | some ([name, type], rest) => some (text.length - rest.length, ⟨name, type⟩)
  | _ => none

def legacyFront (text : List Char) : Option (Nat × List Char) :=
  match read (openingBraces ++ legacyTail) text with
  | some ([name], rest) => some (text.length - rest.length, name)
  | _ => none

theorem typedFront_bounded {text : List Char} {width : Nat} {capture : TypedVariable}
    (matched : typedFront text = some (width, capture)) : 0 < width ∧ width ≤ text.length := by
  unfold typedFront at matched
  split at matched
  · next done =>
    have shorter := read_shorter done
    cases matched
    omega
  · cases matched

theorem legacyFront_bounded {text : List Char} {width : Nat} {capture : List Char}
    (matched : legacyFront text = some (width, capture)) : 0 < width ∧ width ≤ text.length := by
  unfold legacyFront at matched
  split at matched
  · next done =>
    have shorter := read_shorter done
    cases matched
    omega
  · cases matched

def typedVariable : Pattern Char TypedVariable := ⟨typedFront, typedFront_bounded⟩

def legacyVariable : Pattern Char (List Char) := ⟨legacyFront, legacyFront_bounded⟩

end Patterns

section Texts

def hexDigit (value : Nat) : Char := "0123456789abcdef".toList.getD value '0'

/-- A character of a string, as it is written in JSON. -/
def escaped (c : Char) : List Char :=
  match c with
  | '"' => ['\\', '"']
  | '\\' => ['\\', '\\']
  | '\x08' => ['\\', 'b']
  | '\t' => ['\\', 't']
  | '\n' => ['\\', 'n']
  | '\x0c' => ['\\', 'f']
  | '\r' => ['\\', 'r']
  | c => if c.toNat < 32 then ['\\', 'u', '0', '0', hexDigit (c.toNat / 16), hexDigit (c.toNat % 16)] else [c]

def quoted (text : List Char) : List Char := '"' :: (text.flatMap escaped ++ ['"'])

variable (display : Number → List Char)

mutual

/-- `Value::to_string`. -/
def toText : Json → List Char
  | .null => "null".toList
  | .bool value => if value then "true".toList else "false".toList
  | .number value => display value
  | .string text => quoted text.toList
  | .array items => '[' :: (itemTexts items ++ [']'])
  | .object members => '{' :: (memberTexts members ++ ['}'])

def itemTexts : List Json → List Char
  | [] => []
  | [item] => toText item
  | item :: rest => toText item ++ ',' :: itemTexts rest

def memberTexts : List (String × Json) → List Char
  | [] => []
  | [(name, member)] => quoted name.toList ++ ':' :: toText member
  | (name, member) :: rest => quoted name.toList ++ ':' :: (toText member ++ ',' :: memberTexts rest)

end

def legacyValueToString : Json → List Char
  | .string text => text.toList
  | value => toText display value

end Texts

section Types

def exponent (text : List Char) : Bool :=
  let digits := match text with
    | '+' :: rest | '-' :: rest => rest
    | _ => text
  !digits.isEmpty && digits.all Char.isDigit

def decimal (text : List Char) : Bool :=
  let whole := text.takeWhile Char.isDigit
  let (fraction, rest) := match text.dropWhile Char.isDigit with
    | '.' :: rest => (rest.takeWhile Char.isDigit, rest.dropWhile Char.isDigit)
    | rest => ([], rest)
  if whole.isEmpty && fraction.isEmpty then false
  else
    match rest with
    | [] => true
    | mark :: power => mark.toLower == 'e' && exponent power

/-- Whether `str::parse::<f64>` takes a text. -/
def parsesF64 (text : List Char) : Bool :=
  let unsigned := match text with
    | '+' :: rest | '-' :: rest => rest
    | _ => text
  ["inf", "infinity", "nan"].any (fun name => name.toList == unsigned.map Char.toLower) || decimal unsigned

variable (display : Number → List Char)

/-- No character but the ASCII letters has one of the letters of the four words as its
lowercase. -/
def validateVariableType (value : Json) (expectedType : List Char) : Except String (List Char) :=
  let valueString := toText display value
  if expectedType = "number".toList then
    if value matches .number _ then .ok valueString
    else if parsesF64 valueString then .ok valueString
    else .error ("Variable value '" ++ String.ofList valueString ++ "' cannot be converted to number")
  else if expectedType = "boolean".toList then
    if value matches .bool _ then .ok valueString
    else if ["true", "false", "yes", "no"].any (fun word => word.toList == valueString.map Char.toLower) then .ok valueString
    else
      .error ("Variable value '" ++ String.ofList valueString ++
        "' is not a valid boolean (expected: true, false, yes, no)")
  else .ok valueString

end Types

/-- The members of a body's inputs. -/
abbrev Inputs := List (String × Json)

def Inputs.get (inputs : Inputs) (name : List Char) : Option Json := inputs.lookup (String.ofList name)

def missingInput (name : List Char) : String := "Missing prompt input: " ++ String.ofList name

section Replace
variable (display : Number → List Char) (inputs : Inputs)

/-- A name that was validated before is not looked at again. -/
def validateTyped (validated : List (List Char)) (found : TypedVariable) : Except String (List (List Char)) :=
  if validated.contains found.name then .ok validated
  else
    match inputs.get found.name with
    | none => .error (missingInput found.name)
    | some value => (validateVariableType display value found.type).map fun _ => found.name :: validated

def isMissing (name : List Char) : Bool := name != "hc".toList && (inputs.get name).isNone

def checkLegacy (names : List (List Char)) : Except String Unit :=
  match names.find? (isMissing inputs) with
  | some name => .error (missingInput name)
  | none => .ok ()

def typedReplacement (matched : List Char) (found : TypedVariable) : List Char :=
  ((inputs.get found.name).map (toText display)).getD matched

def legacyReplacement (matched name : List Char) : List Char :=
  if name = "hc".toList then matched else ((inputs.get name).map (legacyValueToString display)).getD matched

/-- The names validated so far go through the texts of all messages. -/
def replaceVariables (text : List Char) (validated : List (List Char)) : Except String (List Char × List (List Char)) := do
  let validated ← ((typedVariable.hits text).map Prod.snd).foldlM (validateTyped display inputs) validated
  checkLegacy inputs ((legacyVariable.hits text).map Prod.snd)
  let typedProcessed := typedVariable.replaceAll (typedReplacement display inputs) text
  pure (legacyVariable.replaceAll (legacyReplacement display inputs) typedProcessed, validated)

end Replace

section Messages
variable (display : Number → List Char) (inputs : Inputs)

/-- A text replaced under a key, where the value has one. -/
def replaceText (key : String) (value : Json) (text : String) (validated : List (List Char)) :
    Except String (Json × List (List Char)) := do
  let (processed, validated) ← replaceVariables display inputs text.toList validated
  pure (value.modify key fun _ => .string (String.ofList processed), validated)

def processPart (part : Json) (validated : List (List Char)) : Except String (Json × List (List Char)) :=
  match part.getStr "text" with
  | some text => replaceText display inputs "text" part text validated
  | none => .ok (part, validated)

def processParts : List Json → List (List Char) → Except String (List Json × List (List Char))
  | [], validated => .ok ([], validated)
  | part :: rest, validated => do
    let (part, validated) ← processPart display inputs part validated
    let (rest, validated) ← processParts rest validated
    pure (part :: rest, validated)

def processMessageVariables (message : Json) (validated : List (List Char)) : Except String (Json × List (List Char)) :=
  match message.get "content" with
  | some (.string text) => replaceText display inputs "content" message text validated
  | some (.array parts) => do
    let (parts, validated) ← processParts display inputs parts validated
    pure (message.modify "content" fun _ => .array parts, validated)
  | _ => .ok (message, validated)

def processMessages : List Json → List (List Char) → Except String (List Json × List (List Char))
  | [], validated => .ok ([], validated)
  | message :: rest, validated => do
    let (message, validated) ← processMessageVariables display inputs message validated
    let (rest, validated) ← processMessages rest validated
    pure (message :: rest, validated)

def processMessagesValue (messages : Json) : Except String Json :=
  match messages with
  | .array items => do
    let (items, _) ← processMessages display inputs items []
    pure (.array items)
  | other => .ok other

end Messages

section Schemas
variable (display : Number → List Char) (inputs : Inputs)

/-- The capture of a first match that is the whole text. -/
def wholeCapture {β : Type} (pattern : Pattern Char β) (text : List Char) : Option β :=
  (pattern.first text).bind fun captures => if captures.1 = text then some captures.2 else none

def requireInput (name : List Char) : Except String Json := (inputs.get name).elim (.error (missingInput name)) .ok

def processString (text : List Char) : Except String Json :=
  match wholeCapture typedVariable text with
  | some found => do
    let value ← requireInput inputs found.name
    let _ ← validateVariableType display value found.type
    pure value
  | none =>
    match wholeCapture legacyVariable text with
    | some name => requireInput inputs name
    | none => do
      let (processed, _) ← replaceVariables display inputs text []
      pure (.string (String.ofList processed))

def keyText (name : List Char) (value : Json) : Except String String :=
  match value with
  | .string text => .ok text
  | other =>
    .error ("Variable '" ++ String.ofList name ++ "' in object schema key must be a string, got: " ++
      String.ofList (toText display other))

def processKey (key : List Char) : Except String String :=
  match wholeCapture typedVariable key with
  | some found => do
    let value ← requireInput inputs found.name
    let _ ← validateVariableType display value found.type
    keyText display found.name value
  | none =>
    match wholeCapture legacyVariable key with
    | some name => do
      let value ← requireInput inputs name
      keyText display name value
    | none => do
      let (processed, _) ← replaceVariables display inputs key []
      pure (String.ofList processed)

mutual

def processPromptSchema : Json → Except String Json
  | .string text => processString display inputs text.toList
  | .array items => do
    let items ← processItems items
    pure (.array items)
  | .object members => do
    let members ← processMembers members []
    pure (.object members)
  | other => .ok other

def processItems : List Json → Except String (List Json)
  | [] => .ok []
  | item :: rest => do
    let item ← processPromptSchema item
    let rest ← processItems rest
    pure (item :: rest)

def processMembers : List (String × Json) → List (String × Json) → Except String (List (String × Json))
  | [], processed => .ok processed
  | (key, value) :: rest, processed => do
    let key ← processKey display inputs key.toList
    let value ← processPromptSchema value
    processMembers rest (Json.insertMember processed key value)

end

end Schemas

section Bodies

def hasVariable (text : List Char) : Bool := (typedVariable.first text).isSome || (legacyVariable.first text).isSome

mutual

def containsPromptVariables : Json → Bool
  | .string text => hasVariable text.toList
  | .array items => itemsContainVariables items
  | .object members => membersContainVariables members
  | _ => false

def itemsContainVariables : List Json → Bool
  | [] => false
  | item :: rest => containsPromptVariables item || itemsContainVariables rest

def membersContainVariables : List (String × Json) → Bool
  | [] => false
  | (key, value) :: rest =>
    hasVariable key.toList || containsPromptVariables value || membersContainVariables rest

end

variable (display : Number → List Char)

/-- The member under a key, processed. -/
def processMember (key : String) (process : Json → Except String Json) (body : Json) : Except String Json :=
  match body.get key with
  | none => .ok body
  | some value => do
    let value ← process value
    pure (body.modify key fun _ => value)

def inputsOf (body : Json) : Option Inputs :=
  match body.get "inputs" with
  | some (.object members) => some members
  | _ => none

def applyPromptInputsToBody (body : Json) : Except String Json :=
  match body with
  | .object _ =>
    let hasTemplateVariables :=
      (["messages", "response_format", "tools"].filterMap body.get).any containsPromptVariables
    match inputsOf body with
    | none =>
      if hasTemplateVariables then .error "Prompt inputs are required for template variables" else .ok body
    | some inputs => do
      let body ← processMember "messages" (processMessagesValue display inputs) body
      let body ← processMember "response_format" (processPromptSchema display inputs) body
      processMember "tools" (processPromptSchema display inputs) body
  | other => .ok other

end Bodies

end AiGateway.PromptTemplates
