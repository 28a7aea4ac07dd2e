import AiGateway.SemanticCache
import AiGateway.ModelPolicy
import AiGateway.Lib.Matches

/-! The settings of the response cache that a request's headers give, and how long an entry is
kept by them. -/

namespace AiGateway.CacheControl

open Lib.Matches
open SemanticCache (HeaderMap parseU64)

structure CacheSettings where
  shouldRead : Bool
  shouldWrite : Bool
  cacheControlValue : List Char
  bucketSize : UInt8
  cacheSeed : Option (List Char)
  deriving DecidableEq, Repr

def maxCacheAge : UInt64 := 60 * 60 * 24 * 365

def defaultCacheAge : UInt64 := 60 * 60 * 24 * 7

section Regex

def numberFront (label text : List Char) : Option (Nat × List Char) :=
  if label.isPrefixOf text then
    let digits := (text.drop label.length).takeWhile Char.isDigit
    if digits.isEmpty then none else some (label.length + digits.length, digits)
  else none

theorem numberFront_bounded {label text : List Char} {width : Nat} {digits : List Char}
    (matched : numberFront label text = some (width, digits)) : 0 < width ∧ width ≤ text.length := by
  unfold numberFront at matched
  split at matched
  · next starts =>
    dsimp only at matched
    split at matched
    · cases matched
    · next nonempty =>
      injection matched with pair
      injection pair with size captured
      have long := (List.isPrefixOf_iff_prefix.mp starts).length_le
      have taken := (List.takeWhile_prefix (l := text.drop label.length) Char.isDigit).length_le
      have some : 0 < ((text.drop label.length).takeWhile Char.isDigit).length :=
        List.length_pos_iff.mpr (List.isEmpty_eq_false_iff.mp (Bool.eq_false_of_not_eq_true nonempty))
      rw [List.length_drop] at taken
      omega
  · cases matched

/-- The pattern of a label and the decimal digits after it. The texts it is searched in are
those of headers, which have no other digits than these ten. -/
def numberAfter (label : List Char) : Pattern Char (List Char) := ⟨numberFront label, numberFront_bounded⟩

/-- A number too large for the type is none, and no further match is looked for. -/
def regexOnce (label hay : List Char) : Option UInt64 :=
  ((numberAfter label).first hay).bind fun captures => parseU64 captures.2

end Regex

section Settings

def buildCacheControl (cacheControl : List Char) : List Char :=
  let sMax := regexOnce "s-maxage=".toList cacheControl
  let max := regexOnce "max-age=".toList cacheControl
  let sec := (sMax.or max).getD defaultCacheAge
  let sec := if sec ≤ maxCacheAge then sec else maxCacheAge
  "public, max-age=".toList ++ Nat.toDigits 10 sec.toNat

def parseMaxAgeSeconds (cacheControl : List Char) : Option UInt64 := regexOnce "max-age=".toList cacheControl

def lowerGet (headers : HeaderMap) (name : String) : Option (List Char) :=
  match headers.get name with
  | some (.visible text _) => some text
  | some .binary | none => none

def isTrue (headers : HeaderMap) (name : String) : Bool :=
  (lowerGet headers name).any fun text => eqIgnoreAsciiCase text "true".toList

/-- `str::parse::<u8>`. -/
def parseU8 (text : List Char) : Option UInt8 :=
  (parseU64 text).bind fun value => if value < 256 then some value.toUInt8 else none

def CacheSettings.parse (headers : HeaderMap) : Except String CacheSettings :=
  let enabled := isTrue headers "Alephant-Cache-Enabled"
  let save := isTrue headers "Alephant-Cache-Save"
  let read := isTrue headers "Alephant-Cache-Read"
  let bucket := ((lowerGet headers "Alephant-Cache-Bucket-Max-Size").bind parseU8).getD 1
  if bucket = 0 ∨ 20 < bucket then
    .error ("Cache bucket size must be 1..=20, got " ++ toString bucket.toNat)
  else
    let seed := lowerGet headers "Alephant-Cache-Seed"
    let cacheControl := (lowerGet headers "Alephant-Cache-Control").getD []
    .ok ⟨enabled || read, enabled || save, buildCacheControl cacheControl, bucket, seed⟩

def CacheSettings.expirationTtlSecs (settings : CacheSettings) : UInt64 :=
  (parseMaxAgeSeconds settings.cacheControlValue).getD 60

end Settings

end AiGateway.CacheControl
