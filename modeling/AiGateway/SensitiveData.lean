import AiGateway.Json
import AiGateway.Lib.Utf8
import AiGateway.ModelIds
import AiGateway.Security
import Mathlib.Data.Finset.Basic

/-! The plugin against sensitive data. It looks for the names of fields in the text of a request,
and masks their values in the JSON of a response. -/

namespace AiGateway.SensitiveData

open Lib
open Security (Bytes ResponseData SecurityContext SecurityError SecurityPlugin)

/-- `str::to_lowercase`, as far as quotes, colons and the letters of ASCII go: a quote takes no
part in the lowercase of what stands around it, and a colon at the front neither. -/
structure UnicodeLowercase where
  lower : List Char → List Char
  around_quote : ∀ before after, lower (before ++ '"' :: after) = lower before ++ '"' :: lower after
  after_colon : ∀ after, lower (':' :: after) = ':' :: lower after
  no_new_quote : ∀ text, '"' ∈ lower text → '"' ∈ text
  no_new_colon : ∀ text rest, lower text = ':' :: rest → ∃ after, text = ':' :: after
  ignores_ascii_case : ∀ text other, eqIgnoreAsciiCase text other = true → lower text = lower other

inductive SensitivityLevel where
  | «public»
  | sensitive
  | confidential
  deriving DecidableEq, Repr

def SensitivityLevel.mustNotPersist : SensitivityLevel → Bool
  | .confidential => true
  | .public | .sensitive => false

def SensitivityLevel.defaultForField (lowercase : UnicodeLowercase) (field : String) : SensitivityLevel :=
  match String.ofList (lowercase.lower field.toList) with
  | "password" | "token" | "secret" | "api_key" | "apikey" | "private_key" => .confidential
  | "phone" | "tel" | "mobile" | "email" | "id_card" | "idcard" | "passport" | "ssn" => .sensitive
  | "bank_account" | "bankaccount" | "credit_card" | "creditcard" | "card_number" => .confidential
  | "medical" | "health" | "legal" | "court" => .sensitive
  | _ => .public

/-- The regex patterns of the configuration are read by nothing. -/
structure SensitiveDataDetectorConfig where
  fields : List String
  fieldLevels : Finset String

def SensitiveDataDetectorConfig.default : SensitiveDataDetectorConfig where
  fields := ["password", "token", "secret", "api_key", "apikey", "phone", "tel", "mobile", "email", "id_card", "idcard",
    "passport", "ssn", "bank_account", "bankaccount", "credit_card", "creditcard", "card_number"]
  fieldLevels := ∅

section Requests
variable (lowercase : UnicodeLowercase) (config : SensitiveDataDetectorConfig)

def level (field : String) : SensitivityLevel :=
  if field ∈ config.fieldLevels then .confidential else .defaultForField lowercase field

/-- A field's name in quotes, with the colon right after it. -/
def pattern (field : String) : List Char := '"' :: lowercase.lower field.toList ++ ['"', ':']

def checkField (bodyStr : List Char) (field : String) : Except SecurityError Unit :=
  if pattern lowercase field <:+: lowercase.lower bodyStr then
    if (level lowercase config field).mustNotPersist then
      .error (.sensitiveDataDetected ("confidential field detected: " ++ field))
    else .ok ()
  else .ok ()

def checkJsonForSensitive (body : Bytes) : Except SecurityError Unit :=
  config.fields.forM (checkField lowercase config (Utf8.chars body))

def checkRequest (ctx : SecurityContext) : Except SecurityError Unit :=
  if ctx.requestBody.isEmpty then .ok () else checkJsonForSensitive lowercase config ctx.requestBody

end Requests

section Responses

/-- `serde_json::from_str` and `serde_json::to_string`. -/
structure JsonStrings where
  parse : Utf8.Text → Option Json
  print : Json → Utf8.Text

def maskText : Json := .string "***MASKED***"

mutual

def maskJsonValue (field : String) : Json → Json
  | .object members => .object (maskMembers field members)
  | .array items => .array (maskItems field items)
  | other => other

def maskMembers (field : String) : List (String × Json) → List (String × Json)
  | [] => []
  | (key, value) :: rest =>
    (key, if eqIgnoreAsciiCase key.toList field.toList then maskText else maskJsonValue field value) ::
      maskMembers field rest

def maskItems (field : String) : List Json → List Json
  | [] => []
  | item :: rest => maskJsonValue field item :: maskItems field rest

end

variable (json : JsonStrings)

/-- Printing a value does not fail. -/
def maskJsonStringField (input : Utf8.Text) (field : String) : Utf8.Text :=
  match json.parse input with
  | none => input
  | some value => json.print (maskJsonValue field value)

def maskSensitiveJson (body : Bytes) (fields : List String) : Utf8.Text :=
  fields.foldl (maskJsonStringField json) (.ofBytesLossy body)

def maskResponse (config : SensitiveDataDetectorConfig) (data : ResponseData) : Except SecurityError ResponseData :=
  if data.body.isEmpty then .ok data
  else .ok { data with body := (maskSensitiveJson json data.body config.fields).bytes }

end Responses

def sensitiveDataDetector (lowercase : UnicodeLowercase) (json : JsonStrings) (config : SensitiveDataDetectorConfig) :
    SecurityPlugin where
  name := "sensitive_data_detector"
  priority := 10
  checkRequest := checkRequest lowercase config
  maskResponse := maskResponse json config

end AiGateway.SensitiveData
