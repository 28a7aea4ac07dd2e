import AiGateway.Types
import AiGateway.Json

/-! The roles of a chat completion, mended before the answer is read into its strict type. -/

namespace AiGateway.ChatRoles

def allowedRoles : List String := ["system", "user", "assistant", "tool", "function"]

structure NormalizeRoleStats where
  emptyNormalized : UInt32 := 0
  unknownNormalized : UInt32 := 0
  deriving DecidableEq, Repr

def containerKey (streamChunk : Bool) : String := if streamChunk then "delta" else "message"

/-- The text of a role slot, where the choice, its container and the slot are what they should be. -/
def roleText (key : String) (choice : Json) : Option String := (choice.get key).bind fun container => container.getStr "role"

def setRole (key : String) (choice : Json) (role : String) : Json :=
  choice.modify key fun container => container.modify "role" fun _ => .string role

def normalizeChoice (key : String) (choice : Json) (stats : NormalizeRoleStats) : Json × NormalizeRoleStats :=
  match roleText key choice with
  | none => (choice, stats)
  | some text =>
    let trimmed := trim text.toList
    if trimmed.isEmpty then
      (setRole key choice "assistant", { stats with emptyNormalized := stats.emptyNormalized + 1 })
    -- The trimmed text is looked for, and the slot is left as it is.
    else if allowedRoles.any fun role => role.toList = trimmed then (choice, stats)
    else (setRole key choice "assistant", { stats with unknownNormalized := stats.unknownNormalized + 1 })

def normalizeChoices (key : String) : List Json → NormalizeRoleStats → List Json × NormalizeRoleStats
  | [], stats => ([], stats)
  | choice :: rest, stats =>
    let (choice, stats) := normalizeChoice key choice stats
    let (rest, stats) := normalizeChoices key rest stats
    (choice :: rest, stats)

def normalizeChatCompletionRolesInPlace (root : Json) (streamChunk : Bool) : Json × NormalizeRoleStats :=
  match (root.get "choices").bind Json.asArray with
  | none => (root, {})
  | some choices =>
    let (choices, stats) := normalizeChoices (containerKey streamChunk) choices {}
    (root.modify "choices" fun _ => .array choices, stats)

end AiGateway.ChatRoles
