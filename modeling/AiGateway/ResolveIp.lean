import AiGateway.ClientIpLimit
import AiGateway.Types

/-! Which address a request is counted under: that of the peer, or behind a trusted proxy the
first one that its `X-Forwarded-For` header names. -/

namespace AiGateway.ResolveIp

open ClientIpLimit (IpAddr)

section Parser

/-! `IpAddr::from_str`: each reader gives what it has read and what is left, or leaves the text
as it was. -/

def toDigit (radix : Nat) (c : Char) : Option Nat :=
  let digit :=
    if '0' ≤ c ∧ c ≤ '9' then c.toNat - '0'.toNat
    else if 'a' ≤ c ∧ c ≤ 'z' then c.toNat - 'a'.toNat + 10
    else if 'A' ≤ c ∧ c ≤ 'Z' then c.toNat - 'A'.toNat + 10
    else radix
  if digit < radix then some digit else none

/-- A number of at most so many digits, below a bound. -/
def readNumber (radix maxDigits bound : Nat) (allowZeroPrefix : Bool) (text : List Char) : Option (Nat × List Char) :=
  let digits := text.takeWhile fun c => (toDigit radix c).isSome
  let value := digits.foldl (fun value c => value * radix + (toDigit radix c).getD 0) 0
  if digits.isEmpty ∨ maxDigits < digits.length then none
  else if !allowZeroPrefix && digits.head? == some '0' && 1 < digits.length then none
  else if value < bound then some (value, text.drop digits.length)
  else none

def readGivenChar (expected : Char) : List Char → Option (List Char)
  | c :: rest => if c = expected then some rest else none
  | [] => none

/-- The separator stands before every item but the first. -/
def readSeparator {α : Type} (separator : Char) (index : Nat) (inner : List Char → Option (α × List Char))
    (text : List Char) : Option (α × List Char) :=
  if index = 0 then inner text else (readGivenChar separator text).bind inner

def readOctet : List Char → Option (Nat × List Char) := readNumber 10 3 256 false

def readIpv4Addr (text : List Char) : Option ((Nat × Nat × Nat × Nat) × List Char) := do
  let (one, text) ← readSeparator '.' 0 readOctet text
  let (two, text) ← readSeparator '.' 1 readOctet text
  let (three, text) ← readSeparator '.' 2 readOctet text
  let (four, text) ← readSeparator '.' 3 readOctet text
  pure ((one, two, three, four), text)

/-- Groups up to so many, the last two of which may be written as an IPv4 address; whether they
are, and the rest of the text. -/
def readGroups : Nat → Nat → List Char → List Nat × Bool × List Char
  | 0, _, text => ([], false, text)
  | remaining + 1, index, text =>
    match if remaining = 0 then none else readSeparator ':' index readIpv4Addr text with
    | some ((one, two, three, four), rest) => ([one * 256 + two, three * 256 + four], true, rest)
    | none =>
      match readSeparator ':' index (readNumber 16 4 65536 true) text with
      | some (group, rest) =>
        let (groups, ipv4, rest) := readGroups remaining (index + 1) rest
        (group :: groups, ipv4, rest)
      | none => ([], false, text)

def readIpv6Addr (text : List Char) : Option (List Nat × List Char) :=
  let (head, headIpv4, text) := readGroups 8 0 text
  if head.length = 8 then some (head, text)
  else if headIpv4 then none
  else do
    let text ← readGivenChar ':' text
    let text ← readGivenChar ':' text
    let (tail, _, text) := readGroups (8 - (head.length + 1)) 0 text
    pure (head ++ List.replicate (8 - head.length - tail.length) 0 ++ tail, text)

def readIpAddr (text : List Char) : Option (IpAddr × List Char) :=
  match readIpv4Addr text with
  | some ((one, two, three, four), rest) =>
    some (.v4 (BitVec.ofNat 32 (((one * 256 + two) * 256 + three) * 256 + four)), rest)
  | none =>
    (readIpv6Addr text).map fun (groups, rest) =>
      (.v6 (BitVec.ofNat 128 (groups.foldl (fun value group => value * 65536 + group) 0)), rest)

def parseIpAddr (text : List Char) : Option IpAddr :=
  match readIpAddr text with
  | some (ip, []) => some ip
  | _ => none

end Parser

/-- `HeaderValue::to_str`: the text of a value of visible characters, blanks and tabs. -/
def toStr (value : List UInt8) : Option (List Char) :=
  if value.all fun byte => (32 ≤ byte && byte < 127) || byte == 9 then
    some (value.map fun byte => Char.ofNat byte.toNat)
  else none

section Resolve
variable {ν : Type} (contains : ν → IpAddr → Bool)

/-- What the first element of a header's value is read as. -/
def firstAddress (value : List UInt8) : Option IpAddr :=
  (toStr value).bind fun raw => parseIpAddr (trim (raw.takeWhile fun c => c ≠ ','))

def effectiveClientIp (peerIp : IpAddr) (forwardedFor : Option (List UInt8)) (trusted : List ν) : IpAddr :=
  if trusted.any fun network => contains network peerIp then (forwardedFor.bind firstAddress).getD peerIp
  else peerIp

end Resolve

end AiGateway.ResolveIp
