import Mathlib.Data.List.Basic

/-! Bytes as text. A decoder looks at the front of a byte string and finds either one
scalar value or the longest prefix no scalar value starts with. The lossy conversion
copies the former and writes U+FFFD for the latter, one replacement for each prefix. -/

namespace AiGateway.Lib.Utf8

inductive Front where
  | scalar (width : Nat)
  | broken (width : Nat)
  deriving DecidableEq, Repr

def continuation (byte : UInt8) : Bool := 0x80 ≤ byte && byte ≤ 0xBF

/-- The width a first byte announces; zero where no scalar value starts with it. -/
def charWidth (first : UInt8) : Nat :=
  if first < 0x80 then 1
  else if first < 0xC2 then 0
  else if first < 0xE0 then 2
  else if first < 0xF0 then 3
  else if first < 0xF5 then 4
  else 0

/-- The second byte excludes overlong forms, surrogates and values above U+10FFFF. -/
def secondByte (first second : UInt8) : Bool :=
  if first = 0xE0 then 0xA0 ≤ second && second ≤ 0xBF
  else if first = 0xED then 0x80 ≤ second && second ≤ 0x9F
  else if first = 0xF0 then 0x90 ≤ second && second ≤ 0xBF
  else if first = 0xF4 then 0x80 ≤ second && second ≤ 0x8F
  else continuation second

def front (first : UInt8) (rest : List UInt8) : Front :=
  match charWidth first, rest with
  | 1, _ => .scalar 1
  | 2, second :: _ => if continuation second then .scalar 2 else .broken 1
  | 3, second :: rest =>
    if secondByte first second then
      match rest with
      | third :: _ => if continuation third then .scalar 3 else .broken 2
      | [] => .broken 2
    else .broken 1
  | 4, second :: rest =>
    if secondByte first second then
      match rest with
      | third :: rest =>
        if continuation third then
          match rest with
          | fourth :: _ => if continuation fourth then .scalar 4 else .broken 3
          | [] => .broken 3
        else .broken 2
      | [] => .broken 2
    else .broken 1
  | _, _ => .broken 1

def replacement : List UInt8 := [0xEF, 0xBF, 0xBD]

def valid : List UInt8 → Bool
  | [] => true
  | first :: rest =>
    match front first rest with
    | .scalar width => valid (rest.drop (width - 1))
    | .broken _ => false
termination_by bytes => bytes.length
decreasing_by simp only [List.length_drop, List.length_cons]; omega

def lossy : List UInt8 → List UInt8
  | [] => []
  | first :: rest =>
    match front first rest with
    | .scalar width => first :: rest.take (width - 1) ++ lossy (rest.drop (width - 1))
    | .broken width => replacement ++ lossy (rest.drop (width - 1))
termination_by bytes => bytes.length
decreasing_by all_goals (simp only [List.length_drop, List.length_cons]; omega)

theorem front_scalar {first : UInt8} {rest : List UInt8} {width : Nat} (found : front first rest = .scalar width) :
    width - 1 ≤ rest.length ∧ ∀ other, front first (rest.take (width - 1) ++ other) = .scalar width := by
  unfold front at found
  split at found
  next announced => cases found; exact ⟨by simp, fun other => by simp [front, announced]⟩
  next second rest announced =>
    split at found <;> cases found
    next continues => exact ⟨by simp, fun other => by simp [front, announced, continues]⟩
  next second rest announced =>
    split at found
    next accepted =>
      split at found
      next third rest =>
        split at found <;> cases found
        next continues => exact ⟨by simp, fun other => by simp [front, announced, accepted, continues]⟩
      next => cases found
    next => cases found
  next second rest announced =>
    split at found
    next accepted =>
      split at found
      next third rest =>
        split at found
        next continues =>
          split at found
          next fourth rest =>
            split at found <;> cases found
            next last => exact ⟨by simp, fun other => by simp [front, announced, accepted, continues, last]⟩
          next => cases found
        next => cases found
      next => cases found
    next => cases found
  next => cases found

theorem front_broken {first : UInt8} {rest : List UInt8} {width : Nat} (found : front first rest = .broken width) :
    width ≤ 3 := by
  unfold front at found
  split at found
  next => cases found
  next => split at found <;> cases found; omega
  next =>
    split at found
    next =>
      split at found
      next => split at found <;> cases found; omega
      next => cases found; omega
    next => cases found; omega
  next =>
    split at found
    next =>
      split at found
      next =>
        split at found
        next =>
          split at found
          next => split at found <;> cases found; omega
          next => cases found; omega
        next => cases found; omega
      next => cases found; omega
    next => cases found; omega
  next => cases found; omega

theorem front_replacement (rest : List UInt8) : front 0xEF (0xBF :: 0xBD :: rest) = .scalar 3 := rfl

theorem valid_lossy (bytes : List UInt8) : valid (lossy bytes) = true := by
  induction bytes using lossy.induct with
  | case1 => simp [lossy, valid]
  | case2 first rest width found ih =>
    obtain ⟨fits, local'⟩ := front_scalar found
    rw [lossy, found]
    simp only [List.cons_append]
    rw [valid, local']
    simpa [List.drop_append, fits] using ih
  | case3 first rest width found ih =>
    rw [lossy, found]
    simp only [replacement, List.cons_append, List.nil_append]
    rw [valid, front_replacement]
    simpa using ih

theorem lossy_of_valid (bytes : List UInt8) (accepted : valid bytes = true) : lossy bytes = bytes := by
  induction bytes using lossy.induct with
  | case1 => rw [lossy]
  | case2 first rest width found ih =>
    rw [valid, found] at accepted
    rw [lossy, found]
    simp only [ih accepted, List.cons_append, List.take_append_drop]
  | case3 first rest width found ih =>
    rw [valid, found] at accepted
    cases accepted

theorem length_le_lossy (bytes : List UInt8) : bytes.length ≤ (lossy bytes).length := by
  induction bytes using lossy.induct with
  | case1 => simp
  | case2 first rest width found ih =>
    rw [lossy, found]
    simp only [List.length_append, List.length_cons, List.length_take, List.length_drop] at ih ⊢
    omega
  | case3 first rest width found ih =>
    have short := front_broken found
    rw [lossy, found]
    simp only [replacement, List.length_append, List.length_cons, List.length_nil, List.length_drop] at ih ⊢
    omega

/-- The conversion keeps the bytes exactly when they are text. -/
theorem lossy_eq_iff (bytes : List UInt8) : lossy bytes = bytes ↔ valid bytes = true :=
  ⟨fun same => same ▸ valid_lossy bytes, lossy_of_valid bytes⟩

theorem length_flatten_le (pieces : List (List UInt8)) :
    pieces.flatten.length ≤ (pieces.flatMap lossy).length := by
  induction pieces with
  | nil => simp
  | cons piece rest ih =>
    have head := length_le_lossy piece
    simp only [List.flatten_cons, List.flatMap_cons, List.length_append]
    omega

/-- Converting piece by piece keeps the whole exactly when every piece is text on its
own: no piece can make up for the bytes another one lost, because none gets shorter. -/
theorem flatMap_lossy_eq_iff (pieces : List (List UInt8)) :
    pieces.flatMap lossy = pieces.flatten ↔ ∀ piece ∈ pieces, valid piece = true := by
  induction pieces with
  | nil => simp
  | cons piece rest ih =>
    have grows := length_flatten_le rest
    simp only [List.flatMap_cons, List.flatten_cons, List.forall_mem_cons]
    constructor
    · intro same
      have lengths := congrArg List.length same
      have head := length_le_lossy piece
      simp only [List.length_append] at lengths
      obtain ⟨first, last⟩ := List.append_inj same (by omega)
      exact ⟨(lossy_eq_iff piece).mp first, ih.mp last⟩
    · intro ⟨first, last⟩
      rw [lossy_of_valid piece first, ih.mpr last]

/-- The scalar value that these bytes encode. -/
def scalarValue : List UInt8 → Char
  | [one] => Char.ofNat one.toNat
  | [one, two] => Char.ofNat (one.toNat % 32 * 64 + two.toNat % 64)
  | [one, two, three] => Char.ofNat ((one.toNat % 16 * 64 + two.toNat % 64) * 64 + three.toNat % 64)
  | [one, two, three, four] =>
    Char.ofNat (((one.toNat % 8 * 64 + two.toNat % 64) * 64 + three.toNat % 64) * 64 + four.toNat % 64)
  | _ => '\uFFFD'

/-- The characters of the lossy conversion. -/
def chars : List UInt8 → List Char
  | [] => []
  | first :: rest =>
    match front first rest with
    | .scalar width => scalarValue (first :: rest.take (width - 1)) :: chars (rest.drop (width - 1))
    | .broken width => '\uFFFD' :: chars (rest.drop (width - 1))
termination_by bytes => bytes.length
decreasing_by all_goals (simp only [List.length_drop, List.length_cons]; omega)

theorem front_ascii {first : UInt8} (ascii : first < 0x80) (rest : List UInt8) : front first rest = .scalar 1 := by
  have one : charWidth first = 1 := if_pos ascii
  simp only [front, one]

def isAscii (bytes : List UInt8) : Bool := bytes.all (· < 0x80)

theorem isAscii_cons {first : UInt8} {rest : List UInt8} (ascii : isAscii (first :: rest) = true) :
    first < 0x80 ∧ isAscii rest = true := by
  rw [isAscii, List.all_cons, Bool.and_eq_true, decide_eq_true_eq] at ascii
  exact ascii

theorem chars_ascii {bytes : List UInt8} (ascii : isAscii bytes = true) :
    chars bytes = bytes.map fun byte => Char.ofNat byte.toNat := by
  induction bytes with
  | nil => rw [chars]; rfl
  | cons first rest ih =>
    obtain ⟨one, others⟩ := isAscii_cons ascii
    rw [chars, front_ascii one]
    exact congrArg (Char.ofNat first.toNat :: ·) (ih others)

theorem valid_ascii {bytes : List UInt8} (ascii : isAscii bytes = true) : valid bytes = true := by
  induction bytes with
  | nil => rw [valid]
  | cons first rest ih =>
    obtain ⟨one, others⟩ := isAscii_cons ascii
    rw [valid, front_ascii one]
    exact ih others

structure Text where
  bytes : List UInt8
  isText : valid bytes = true
  deriving DecidableEq

def Text.ofBytesLossy (bytes : List UInt8) : Text := ⟨lossy bytes, valid_lossy bytes⟩

end AiGateway.Lib.Utf8
