import Mathlib.Data.Rat.Floor
import Mathlib.Data.Int.Log

/-! Binary64 as the rational numbers it can hold. Arithmetic rounds the exact result to
the nearest representable value, ties to even. Signed zeros are one value here: nothing
that reads a number in this form can tell them apart. -/

namespace AiGateway.Lib.Float64

inductive F64 where
  | nan
  | infinite (negative : Bool)
  | finite (value : ℚ)
  deriving DecidableEq

def roundHalfEven (q : ℚ) : ℤ :=
  let low := ⌊q⌋
  if q - low < 1 / 2 then low
  else if 1 / 2 < q - low then low + 1
  else if low % 2 = 0 then low else low + 1

/-- The spacing of representable values around `q`, as a power of two: 53 significant
bits, and no finer than the subnormals. -/
def exponent (q : ℚ) : ℤ := max (-1074) (Int.log 2 |q| - 52)

def ofRat (q : ℚ) : F64 :=
  if q = 0 then .finite 0
  else
    let rounded := roundHalfEven (q / 2 ^ exponent q) * (2 : ℚ) ^ exponent q
    if 2 ^ 1024 ≤ |rounded| then .infinite (q < 0) else .finite rounded

namespace F64

def isNan : F64 → Bool
  | .nan => true
  | _ => false

def isInfinite : F64 → Bool
  | .infinite _ => true
  | _ => false

def isNegative : F64 → Bool
  | .nan => false
  | .infinite negative => negative
  | .finite value => value < 0

def mul : F64 → F64 → F64
  | .finite a, .finite b => ofRat (a * b)
  | .nan, _ | _, .nan => .nan
  | .infinite s, .infinite t => .infinite (s ^^ t)
  | .infinite s, .finite b => if b = 0 then .nan else .infinite (s ^^ decide (b < 0))
  | .finite a, .infinite t => if a = 0 then .nan else .infinite (decide (a < 0) ^^ t)

/-- To the nearest integer, halves away from zero. -/
def round : F64 → F64
  | .finite value => .finite (if 0 ≤ value then (⌊value + 1 / 2⌋ : ℤ) else -(⌊-value + 1 / 2⌋ : ℤ))
  | other => other

/-- The saturating cast to 32 unsigned bits. -/
def toU32 : F64 → UInt32
  | .nan => 0
  | .infinite negative => if negative then 0 else UInt32.ofNat (2 ^ 32 - 1)
  | .finite value => UInt32.ofNat (min ⌊value⌋.toNat (2 ^ 32 - 1))

end F64

private theorem roundHalfEven_bounds (q : ℚ) : ⌊q⌋ ≤ roundHalfEven q ∧ roundHalfEven q ≤ ⌊q⌋ + 1 := by
  unfold roundHalfEven
  dsimp only
  split_ifs <;> omega

theorem ofRat_positive {q : ℚ} (normal : (2 : ℚ) ^ (-1022 : ℤ) ≤ q) (bounded : q < 2 ^ 1023) :
    ∃ value, 0 < value ∧ ofRat q = .finite value := by
  have positive : 0 < q := lt_of_lt_of_le (zpow_pos (by norm_num) _) normal
  have spacing : exponent q = Int.log 2 q - 52 := by
    have least := (Int.zpow_le_iff_le_log (b := 2) (by norm_num) positive).mp (by exact_mod_cast normal)
    rw [exponent, abs_of_pos positive]
    omega
  have unit : (0 : ℚ) < 2 ^ exponent q := zpow_pos (by norm_num) _
  have atLeastOne : 1 ≤ q / 2 ^ exponent q := by
    rw [le_div_iff₀ unit, one_mul]
    have below := Int.zpow_log_le_self (b := 2) (by norm_num) positive
    refine le_trans ?_ below
    rw [spacing]
    push_cast
    exact zpow_le_zpow_right₀ (by norm_num) (by omega)
  obtain ⟨low, high⟩ := roundHalfEven_bounds (q / 2 ^ exponent q)
  have one : 1 ≤ ⌊q / 2 ^ exponent q⌋ := Int.le_floor.mpr (by exact_mod_cast atLeastOne)
  have rounded : (0 : ℚ) < roundHalfEven (q / 2 ^ exponent q) := by exact_mod_cast one.trans low
  have result : (0 : ℚ) < roundHalfEven (q / 2 ^ exponent q) * 2 ^ exponent q := mul_pos rounded unit
  have twice : (roundHalfEven (q / 2 ^ exponent q) : ℚ) * 2 ^ exponent q ≤ 2 * q := by
    have step : (roundHalfEven (q / 2 ^ exponent q) : ℚ) ≤ 2 * (q / 2 ^ exponent q) := by
      have floor := Int.floor_le (q / 2 ^ exponent q)
      have : (roundHalfEven (q / 2 ^ exponent q) : ℚ) ≤ ⌊q / 2 ^ exponent q⌋ + 1 := by exact_mod_cast high
      linarith
    calc (roundHalfEven (q / 2 ^ exponent q) : ℚ) * 2 ^ exponent q
        ≤ 2 * (q / 2 ^ exponent q) * 2 ^ exponent q := by gcongr
      _ = 2 * q := by field_simp
  refine ⟨_, result, ?_⟩
  have small : ¬ (2 : ℚ) ^ 1024 ≤ |(roundHalfEven (q / 2 ^ exponent q) : ℚ) * 2 ^ exponent q| := by
    rw [abs_of_pos result, not_le]
    apply lt_of_le_of_lt twice
    rw [pow_succ']
    exact mul_lt_mul_of_pos_left bounded (by norm_num)
  simp only [ofRat, positive.ne', if_false, small]
theorem ofRat_nonpositive {q : ℚ} (nonpositive : q ≤ 0) : ofRat q = .finite 0 ∨ (ofRat q).isNegative = true := by
  rcases nonpositive.eq_or_lt with rfl | negative
  · exact .inl (by simp [ofRat])
  · have unit : (0 : ℚ) < 2 ^ exponent q := zpow_pos (by norm_num) _
    have below : ⌊q / 2 ^ exponent q⌋ < 0 := Int.floor_lt.mpr (by exact_mod_cast div_neg_of_neg_of_pos negative unit)
    obtain ⟨-, high⟩ := roundHalfEven_bounds (q / 2 ^ exponent q)
    have rounded : (roundHalfEven (q / 2 ^ exponent q) : ℚ) ≤ 0 := by exact_mod_cast high.trans below
    have result := mul_nonpos_of_nonpos_of_nonneg rounded unit.le
    simp only [ofRat, negative.ne, if_false]
    split
    · exact .inr (by simp [F64.isNegative, negative])
    · rcases result.eq_or_lt with zero | less
      · exact .inl (by rw [zero])
      · exact .inr (by simp [F64.isNegative, less])

example : ofRat (1 / 2) = .finite (1 / 2) := by decide +kernel
example : ofRat (1 / 10) = .finite (3602879701896397 / 2 ^ 55) := by decide +kernel

end AiGateway.Lib.Float64
