import Mathlib.Data.List.Basic

/-! Base64 with its padding. Four letters are three bytes, and only the last four may be padded. -/

namespace AiGateway.Lib.Base64

/-- What can be relied on in a decoder of padded base64: texts are ASCII, no letter is worth more
than six bits, and whole groups at the front can be decoded on their own. -/
structure Decoder where
  decode : List Char → Option (List UInt8)
  ascii : ∀ {text bytes}, decode text = some bytes → ∀ c ∈ text, c.utf8Size = 1
  bounded : ∀ {text bytes}, decode text = some bytes → 4 * bytes.length ≤ 3 * text.length
  front : ∀ {text bytes groups}, decode text = some bytes → 4 * groups < text.length →
    decode (text.take (4 * groups)) = some (bytes.take (3 * groups))

def sextet (c : Char) : Option Nat :=
  if 'A' ≤ c ∧ c ≤ 'Z' then some (c.toNat - 65)
  else if 'a' ≤ c ∧ c ≤ 'z' then some (c.toNat - 71)
  else if '0' ≤ c ∧ c ≤ '9' then some (c.toNat + 4)
  else if c = '+' then some 62
  else if c = '/' then some 63
  else none

/-- The last group, where it is padded. The bits that are left over are zero. -/
def padded (a b c : Char) : Option (List UInt8) := do
  let first ← sextet a
  let second ← sextet b
  let byte := UInt8.ofNat (4 * first + second / 16)
  if c = '=' then
    if second % 16 = 0 then some [byte] else none
  else
    let third ← sextet c
    if third % 4 = 0 then some [byte, .ofNat (second % 16 * 16 + third / 4)] else none

def group (a b c d : Char) : Option (List UInt8) := do
  let first ← sextet a
  let second ← sextet b
  let third ← sextet c
  let fourth ← sextet d
  some [.ofNat (4 * first + second / 16), .ofNat (second % 16 * 16 + third / 4), .ofNat (third % 4 * 64 + fourth)]

def decode : List Char → Option (List UInt8)
  | [] => some []
  | a :: b :: c :: d :: rest =>
    if d = '=' ∧ rest = [] then padded a b c
    else do
      let front ← group a b c d
      let back ← decode rest
      some (front ++ back)
  | _ => none

theorem utf8Size_of_le {c : Char} (low : c ≤ 'z') : c.utf8Size = 1 :=
  Char.utf8Size_eq_one_iff.mpr (UInt32.le_trans (Char.le_def.mp low) (by decide))

theorem sextet_ascii {c : Char} {value : Nat} (read : sextet c = some value) : c.utf8Size = 1 ∧ c ≠ '=' := by
  refine ⟨utf8Size_of_le ?_, ?_⟩
  · unfold sextet at read
    split at read
    next upper => exact Char.le_trans upper.2 (by decide)
    next =>
      split at read
      next lower => exact lower.2
      next =>
        split at read
        next digit => exact Char.le_trans digit.2 (by decide)
        next =>
          split at read
          next plus => rw [plus]; decide
          next =>
            split at read
            next slash => rw [slash]; decide
            next => cases read
  · rintro rfl
    cases read

theorem padded_spec {a b c : Char} {bytes : List UInt8} (read : padded a b c = some bytes) :
    bytes.length ≤ 2 ∧ ∀ letter ∈ [a, b, c], letter.utf8Size = 1 := by
  rw [padded] at read
  obtain ⟨first, readA, read⟩ := Option.bind_eq_some_iff.mp read
  obtain ⟨second, readB, read⟩ := Option.bind_eq_some_iff.mp read
  by_cases pad : c = '='
  · subst pad
    rw [if_pos rfl] at read
    obtain ⟨_, read⟩ := Option.ite_none_right_eq_some.mp read
    cases read
    refine ⟨Nat.le_succ 1, ?_⟩
    simp [(sextet_ascii readA).1, (sextet_ascii readB).1, show '='.utf8Size = 1 from rfl]
  · rw [if_neg pad] at read
    obtain ⟨third, readC, read⟩ := Option.bind_eq_some_iff.mp read
    obtain ⟨_, read⟩ := Option.ite_none_right_eq_some.mp read
    cases read
    refine ⟨Nat.le_refl 2, ?_⟩
    simp [(sextet_ascii readA).1, (sextet_ascii readB).1, (sextet_ascii readC).1]

theorem group_spec {a b c d : Char} {bytes : List UInt8} (read : group a b c d = some bytes) :
    bytes.length = 3 ∧ d ≠ '=' ∧ ∀ letter ∈ [a, b, c, d], letter.utf8Size = 1 := by
  rw [group] at read
  obtain ⟨first, readA, read⟩ := Option.bind_eq_some_iff.mp read
  obtain ⟨second, readB, read⟩ := Option.bind_eq_some_iff.mp read
  obtain ⟨third, readC, read⟩ := Option.bind_eq_some_iff.mp read
  obtain ⟨fourth, readD, read⟩ := Option.bind_eq_some_iff.mp read
  cases read
  refine ⟨rfl, (sextet_ascii readD).2, ?_⟩
  simp [(sextet_ascii readA).1, (sextet_ascii readB).1, (sextet_ascii readC).1, (sextet_ascii readD).1]

/-- The text is read group by group as these bytes. -/
inductive Encodes : List Char → List UInt8 → Prop where
  | nil : Encodes [] []
  | last {a b c bytes} (ending : padded a b c = some bytes) : Encodes [a, b, c, '='] bytes
  | more {a b c d rest front back} (grouped : group a b c d = some front) (later : Encodes rest back) :
      Encodes (a :: b :: c :: d :: rest) (front ++ back)

theorem decode_eq_some_iff {text : List Char} {bytes : List UInt8} : decode text = some bytes ↔ Encodes text bytes := by
  constructor
  · intro read
    induction text using decode.induct generalizing bytes with
    | case1 =>
      cases read
      exact .nil
    | case2 a b c d rest last =>
      obtain ⟨rfl, rfl⟩ := last
      rw [decode, if_pos ⟨rfl, rfl⟩] at read
      exact .last read
    | case3 a b c d rest filled ih =>
      rw [decode, if_neg filled] at read
      obtain ⟨front, grouped, read⟩ := Option.bind_eq_some_iff.mp read
      obtain ⟨back, later, read⟩ := Option.bind_eq_some_iff.mp read
      cases read
      exact .more grouped (ih later)
    | case4 text short long =>
      unfold decode at read
      split at read
      · exact absurd rfl short
      · exact absurd rfl (long _ _ _ _ _)
      · cases read
  · intro encodes
    induction encodes with
    | nil => rfl
    | last ending => rw [decode, if_pos ⟨rfl, rfl⟩, ending]
    | more grouped later ih =>
      have filled := (group_spec grouped).2.1
      rw [decode, if_neg fun last => filled last.1, grouped, ih]
      rfl

theorem Encodes.ascii {text : List Char} {bytes : List UInt8} (encodes : Encodes text bytes) :
    ∀ c ∈ text, c.utf8Size = 1 := by
  induction encodes with
  | nil => exact fun c none => nomatch none
  | last ending =>
    have letters := (padded_spec ending).2
    simp only [List.forall_mem_cons] at letters ⊢
    exact ⟨letters.1, letters.2.1, letters.2.2.1, rfl, letters.2.2.2⟩
  | more grouped later ih =>
    have letters := (group_spec grouped).2.2
    simp only [List.forall_mem_cons] at letters ⊢
    exact ⟨letters.1, letters.2.1, letters.2.2.1, letters.2.2.2.1, ih⟩

theorem Encodes.bounded {text : List Char} {bytes : List UInt8} (encodes : Encodes text bytes) :
    4 * bytes.length ≤ 3 * text.length := by
  induction encodes with
  | nil => exact Nat.le_refl 0
  | last ending =>
    have short := (padded_spec ending).1
    simp only [List.length_cons, List.length_nil]
    omega
  | more grouped later ih =>
    have three := (group_spec grouped).1
    simp only [List.length_cons, List.length_append]
    omega

/-- Groups before the last one are read on their own. -/
theorem Encodes.front {text : List Char} {bytes : List UInt8} (encodes : Encodes text bytes) (groups : Nat)
    (inside : 4 * groups < text.length) : Encodes (text.take (4 * groups)) (bytes.take (3 * groups)) := by
  induction encodes generalizing groups with
  | nil => exact absurd inside (Nat.not_lt_zero _)
  | last ending =>
    have none : groups = 0 := by
      simp only [List.length_cons, List.length_nil] at inside
      omega
    subst none
    exact .nil
  | @more a b c d rest front back grouped later ih =>
    cases groups with
    | zero => exact .nil
    | succ groups =>
      have three := (group_spec grouped).1
      have letters : (a :: b :: c :: d :: rest).take (4 * (groups + 1)) = a :: b :: c :: d :: rest.take (4 * groups) := rfl
      have decoded : (front ++ back).take (3 * (groups + 1)) = front ++ back.take (3 * groups) := by
        rw [List.take_append, three, List.take_of_length_le (by omega), Nat.mul_succ, Nat.add_sub_cancel]
      rw [letters, decoded]
      exact .more grouped (ih groups (by simp only [List.length_cons] at inside; omega))

section Encoding

def alphabet : List Char := "ABCDEFGHIJKLMNOPQRSTUVWXYZabcdefghijklmnopqrstuvwxyz0123456789+/".toList

def letter (value : Nat) : Char := alphabet.getD value '='

def encode : List UInt8 → List Char
  | [] => []
  | [first] => [letter (first.toNat / 4), letter (first.toNat % 4 * 16), '=', '=']
  | [first, second] =>
    [letter (first.toNat / 4), letter (first.toNat % 4 * 16 + second.toNat / 16), letter (second.toNat % 16 * 4), '=']
  | first :: second :: third :: rest =>
    letter (first.toNat / 4) :: letter (first.toNat % 4 * 16 + second.toNat / 16) ::
      letter (second.toNat % 16 * 4 + third.toNat / 64) :: letter (third.toNat % 64) :: encode rest

theorem sextet_letter {value : Nat} (small : value < 64) : sextet (letter value) = some value := by
  have each : ∀ value : Fin 64, sextet (letter value) = some value.val := by decide +kernel
  exact each ⟨value, small⟩

theorem letter_ne_pad {value : Nat} (small : value < 64) : letter value ≠ '=' :=
  (sextet_ascii (sextet_letter small)).2

theorem ofNat_of_eq {value : Nat} {byte : UInt8} (same : value = byte.toNat) : UInt8.ofNat value = byte := by
  rw [same, UInt8.ofNat_toNat]

/-- What is encoded is read back. -/
theorem encodes_encode (bytes : List UInt8) : Encodes (encode bytes) bytes := by
  induction bytes using encode.induct with
  | case1 => exact .nil
  | case2 first =>
    have bound := first.toNat_lt
    apply Encodes.last
    rw [padded, sextet_letter (by omega), sextet_letter (by omega)]
    have whole : 4 * (first.toNat / 4) + first.toNat % 4 * 16 / 16 = first.toNat := by omega
    have spare : first.toNat % 4 * 16 % 16 = 0 := by omega
    simp only [Option.bind_eq_bind, Option.bind_some, if_pos, spare, ofNat_of_eq whole]
  | case3 first second =>
    have bound := first.toNat_lt
    have bound' := second.toNat_lt
    apply Encodes.last
    rw [padded, sextet_letter (by omega), sextet_letter (by omega), sextet_letter (by omega)]
    have whole : 4 * (first.toNat / 4) + (first.toNat % 4 * 16 + second.toNat / 16) / 16 = first.toNat := by omega
    have whole' : (first.toNat % 4 * 16 + second.toNat / 16) % 16 * 16 + second.toNat % 16 * 4 / 4 = second.toNat := by
      omega
    have spare : second.toNat % 16 * 4 % 4 = 0 := by omega
    have filled : letter (second.toNat % 16 * 4) ≠ '=' := letter_ne_pad (by omega)
    simp only [Option.bind_eq_bind, Option.bind_some, if_neg filled, if_pos spare, ofNat_of_eq whole, ofNat_of_eq whole']
  | case4 first second third rest ih =>
    have bound := first.toNat_lt
    have bound' := second.toNat_lt
    have bound'' := third.toNat_lt
    have whole : 4 * (first.toNat / 4) + (first.toNat % 4 * 16 + second.toNat / 16) / 16 = first.toNat := by omega
    have whole' : (first.toNat % 4 * 16 + second.toNat / 16) % 16 * 16 +
        (second.toNat % 16 * 4 + third.toNat / 64) / 4 = second.toNat := by
      omega
    have whole'' : (second.toNat % 16 * 4 + third.toNat / 64) % 4 * 64 + third.toNat % 64 = third.toNat := by omega
    have grouped : group (letter (first.toNat / 4)) (letter (first.toNat % 4 * 16 + second.toNat / 16))
        (letter (second.toNat % 16 * 4 + third.toNat / 64)) (letter (third.toNat % 64)) =
          some [first, second, third] := by
      rw [group, sextet_letter (by omega), sextet_letter (by omega), sextet_letter (by omega), sextet_letter (by omega)]
      simp only [Option.bind_eq_bind, Option.bind_some, ofNat_of_eq whole, ofNat_of_eq whole', ofNat_of_eq whole'']
    exact .more grouped ih

theorem decode_encode (bytes : List UInt8) : decode (encode bytes) = some bytes :=
  decode_eq_some_iff.mpr (encodes_encode bytes)

end Encoding

def standard : Decoder where
  decode := decode
  ascii read := (decode_eq_some_iff.mp read).ascii
  bounded read := (decode_eq_some_iff.mp read).bounded
  front read inside := decode_eq_some_iff.mpr ((decode_eq_some_iff.mp read).front _ inside)

end AiGateway.Lib.Base64
