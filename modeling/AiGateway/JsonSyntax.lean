import AiGateway.Json

/-! The texts of JSON: white space, strings with their escapes, and values of any nesting, with
the value that a text spells. -/

namespace AiGateway.JsonSyntax

section Strings

inductive Escape where
  | quote | backslash | slash | backspace | formFeed | lineFeed | carriageReturn | tab
  deriving DecidableEq, Repr

def Escape.letter : Escape → Char
  | .quote => '"'
  | .backslash => '\\'
  | .slash => '/'
  | .backspace => 'b'
  | .formFeed => 'f'
  | .lineFeed => 'n'
  | .carriageReturn => 'r'
  | .tab => 't'

def Escape.char : Escape → Char
  | .quote => '"'
  | .backslash => '\\'
  | .slash => '/'
  | .backspace => '\x08'
  | .formFeed => '\x0c'
  | .lineFeed => '\n'
  | .carriageReturn => '\r'
  | .tab => '\t'

inductive HexDigit where
  | decimal (digit : Fin 10)
  | lower (digit : Fin 6)
  | upper (digit : Fin 6)
  deriving DecidableEq, Repr

def HexDigit.char : HexDigit → Char
  | .decimal digit => Char.ofNat ('0'.toNat + digit.val)
  | .lower digit => Char.ofNat ('a'.toNat + digit.val)
  | .upper digit => Char.ofNat ('A'.toNat + digit.val)

def HexDigit.value : HexDigit → Nat
  | .decimal digit => digit.val
  | .lower digit | .upper digit => 10 + digit.val

/-- The four digits after a `\u`. -/
structure CodeUnit where
  first : HexDigit
  second : HexDigit
  third : HexDigit
  fourth : HexDigit
  deriving DecidableEq, Repr

def CodeUnit.text (unit : CodeUnit) : List Char :=
  ['\\', 'u'] ++ [unit.first, unit.second, unit.third, unit.fourth].map HexDigit.char

def CodeUnit.value (unit : CodeUnit) : Nat :=
  ((unit.first.value * 16 + unit.second.value) * 16 + unit.third.value) * 16 + unit.fourth.value

/-- What stands for one character of a string. A surrogate stands only in a pair. -/
inductive Piece where
  | plain (c : Char) (unescaped : 32 ≤ c.toNat ∧ c ≠ '"' ∧ c ≠ '\\')
  | escape (sign : Escape)
  | unicode (unit : CodeUnit) (scalar : unit.value < 0xD800 ∨ 0xE000 ≤ unit.value)
  | pair (high low : CodeUnit) (isHigh : 0xD800 ≤ high.value ∧ high.value < 0xDC00)
      (isLow : 0xDC00 ≤ low.value ∧ low.value < 0xE000)
  deriving DecidableEq

def Piece.text : Piece → List Char
  | .plain c _ => [c]
  | .escape sign => ['\\', sign.letter]
  | .unicode unit _ => unit.text
  | .pair high low _ _ => high.text ++ low.text

def Piece.char : Piece → Char
  | .plain c _ => c
  | .escape sign => sign.char
  | .unicode unit _ => Char.ofNat unit.value
  | .pair high low _ _ => Char.ofNat (0x10000 + (high.value - 0xD800) * 0x400 + (low.value - 0xDC00))

/-- What is written between the quotes of a string. -/
def raw (pieces : List Piece) : List Char := pieces.flatMap Piece.text

/-- The string that is meant. -/
def spelled (pieces : List Piece) : String := String.ofList (pieces.map Piece.char)

end Strings

section Values

structure Gap where
  blanks : List Char
  blank : ∀ c ∈ blanks, c ∈ [' ', '\t', '\n', '\r']
  deriving DecidableEq

def Gap.none : Gap := ⟨[], List.forall_mem_nil _⟩

/-- A number by the signs it is written with. Which of their sequences are numbers, and what they
are worth, is the reader's. -/
structure NumberText where
  signs : List Char
  numeric : ∀ c ∈ signs, c ∈ "0123456789+-.eE".toList
  value : Number

structure Element (α : Type) where
  before : Gap
  value : α
  after : Gap

structure Member (α : Type) where
  before : Gap
  key : List Piece
  gap : Gap
  between : Gap
  value : α
  after : Gap

/-- An array or object without members may have white space in it. -/
inductive Value where
  | null
  | bool (value : Bool)
  | number (number : NumberText)
  | string (pieces : List Piece)
  | blankArray (gap : Gap)
  | array (elements : List (Element Value))
  | blankObject (gap : Gap)
  | object (members : List (Member Value))

/-- Of a text, its strings and the signs that stand outside them. -/
inductive Chunk where
  | string (pieces : List Piece)
  | mark (c : Char)

def Chunk.text : Chunk → List Char
  | .string pieces => '"' :: (raw pieces ++ ['"'])
  | .mark c => [c]

def render (chunks : List Chunk) : List Char := chunks.flatMap Chunk.text

def marks (text : List Char) : List Chunk := text.map Chunk.mark

def Gap.chunks (gap : Gap) : List Chunk := marks gap.blanks

def commaSeparated (items : List (List Chunk)) : List Chunk := [Chunk.mark ','].intercalate items

mutual

def Value.chunks : Value → List Chunk
  | .null => marks "null".toList
  | .bool value => marks (if value then "true".toList else "false".toList)
  | .number number => marks number.signs
  | .string pieces => [.string pieces]
  | .blankArray gap => .mark '[' :: gap.chunks ++ [.mark ']']
  | .array elements => .mark '[' :: commaSeparated (elementsChunks elements) ++ [.mark ']']
  | .blankObject gap => .mark '\x7b' :: gap.chunks ++ [.mark '\x7d']
  | .object members => .mark '\x7b' :: commaSeparated (membersChunks members) ++ [.mark '\x7d']

def elementsChunks : List (Element Value) → List (List Chunk)
  | [] => []
  | ⟨before, value, after⟩ :: rest => (before.chunks ++ value.chunks ++ after.chunks) :: elementsChunks rest

def membersChunks : List (Member Value) → List (List Chunk)
  | [] => []
  | ⟨before, key, gap, between, value, after⟩ :: rest =>
    (before.chunks ++ (.string key :: gap.chunks ++ [.mark ':']) ++ (between.chunks ++ value.chunks ++ after.chunks)) ::
      membersChunks rest

end

/-- The members of an object, the last of each name. -/
def collected (members : List (String × Json)) : List (String × Json) :=
  members.foldl (fun held member => Json.insertMember held member.1 member.2) []

mutual

def Value.json : Value → Json
  | .null => .null
  | .bool value => .bool value
  | .number number => .number number.value
  | .string pieces => .string (spelled pieces)
  | .blankArray _ => .array []
  | .array elements => .array (elementsJson elements)
  | .blankObject _ => .object []
  | .object members => .object (collected (membersJson members))

def elementsJson : List (Element Value) → List Json
  | [] => []
  | ⟨_, value, _⟩ :: rest => value.json :: elementsJson rest

def membersJson : List (Member Value) → List (String × Json)
  | [] => []
  | ⟨_, key, _, _, value, _⟩ :: rest => (spelled key, value.json) :: membersJson rest

end

def elementChunks (element : Element Value) : List Chunk :=
  element.before.chunks ++ element.value.chunks ++ element.after.chunks

/-- A text is a value with white space around it. -/
def text (document : Element Value) : List Char := render (elementChunks document)

end Values

end AiGateway.JsonSyntax
