import Mathlib.Data.BitVec

/-!
# Floats

A `float8` is kept as its IEEE 754 binary64 bit pattern. C's `==` on doubles is IEEE equality:
false when either side is a NaN, true for the two zeros, and otherwise equality of the bit
patterns. The trigonometric wrappers of `float.c` guard the C library's functions, which are
parameters here: a NaN argument gives the canonical NaN, `sin` and `cos` refuse an infinite
argument, and an infinite result is reported as an overflow, so none of them returns an infinity.
-/

namespace PgCall

/-- A `float8`, as its IEEE 754 binary64 bit pattern. -/
structure Float8 where
  bits : BitVec 64
deriving DecidableEq

namespace Float8

/-- `isnan`: every exponent bit set and a nonzero fraction. -/
def isNan (x : Float8) : Bool := x.bits.toNat / 2 ^ 52 % 2 ^ 11 = 2047 && x.bits.toNat % 2 ^ 52 ≠ 0

/-- `+0.0` or `-0.0`: every bit but the sign clear. -/
def isZero (x : Float8) : Bool := x.bits.toNat % 2 ^ 63 = 0

/-- `isinf`: every exponent bit set and a zero fraction. -/
def isInf (x : Float8) : Bool := x.bits.toNat / 2 ^ 52 % 2 ^ 11 = 2047 && x.bits.toNat % 2 ^ 52 = 0

theorem isInf_of_isNan {x : Float8} (h : x.isNan = true) : x.isInf = false := by
  simp only [isNan, Bool.and_eq_true, decide_eq_true_eq] at h
  simp only [isInf, Bool.and_eq_false_iff, decide_eq_false_iff_not]
  omega

end Float8

/-- C's `==` on `float8`: IEEE 754 equality. -/
def ieeeEq (x y : Float8) : Bool := !x.isNan && !y.isNan && (x.bits == y.bits || x.isZero && y.isZero)

/-- `get_float8_nan`: `(float8) NAN`, the default quiet NaN. -/
def getFloat8Nan : Float8 := ⟨0x7FF8000000000000⟩

theorem Float8.isNan_of_isZero {x : Float8} (h : x.isZero = true) : x.isNan = false := by
  have := x.bits.isLt
  simp only [Float8.isZero, Float8.isNan, decide_eq_true_eq] at h ⊢
  simp only [Bool.and_eq_false_iff, decide_eq_false_iff_not]
  omega

theorem ieeeEq_zero_iff (a : Float8) : ieeeEq a ⟨0⟩ = true ↔ a.isZero = true := by
  have hz : (⟨0⟩ : Float8).isZero = true := rfl
  have hn : (⟨0⟩ : Float8).isNan = false := rfl
  constructor
  · intro h
    simp only [ieeeEq, hn, hz, Bool.and_true, Bool.and_eq_true, Bool.not_eq_true', Bool.or_eq_true,
      beq_iff_eq, Bool.not_false] at h
    rcases h with ⟨-, h | h⟩
    · simp [Float8.isZero, h]
    · exact h
  · intro h
    simp only [ieeeEq, Float8.isNan_of_isZero h, hn, hz, h, Bool.not_false, Bool.and_self,
      Bool.or_true, Bool.true_and]

/-! ## Trigonometric functions -/

/-- The `float_overflow_error` test on an infinite result. -/
def checkFloatResult (result : Float8) : Except String Float8 :=
  if result.isInf then throw "value out of range: overflow" else pure result

/-- The body shared by `pg_dsin` and `pg_dcos`, for the C library's function `libm`, which also
tells whether it set `errno`. -/
def periodicTrig (libm : Float8 → Float8 × Bool) (arg1 : Float8) : Except String Float8 :=
  if arg1.isNan then pure getFloat8Nan else
  let (result, errno) := libm arg1
  if errno || arg1.isInf then throw "input is out of range" else checkFloatResult result

/-- `pg_dsin`. -/
def pgDsin (sin : Float8 → Float8 × Bool) (arg1 : Float8) : Except String Float8 :=
  periodicTrig sin arg1

/-- `pg_dcos`. -/
def pgDcos (cos : Float8 → Float8 × Bool) (arg1 : Float8) : Except String Float8 :=
  periodicTrig cos arg1

/-- `pg_datan`: the principal branch of `atan` is bounded, so no argument is refused. -/
def pgDatan (atan : Float8 → Float8) (arg1 : Float8) : Except String Float8 :=
  if arg1.isNan then pure getFloat8Nan else checkFloatResult (atan arg1)

/-- `pg_datan2`. -/
def pgDatan2 (atan2 : Float8 → Float8 → Float8) (arg1 arg2 : Float8) : Except String Float8 :=
  if arg1.isNan || arg2.isNan then pure getFloat8Nan else checkFloatResult (atan2 arg1 arg2)

theorem checkFloatResult_ok {x r : Float8} (h : checkFloatResult x = .ok r) :
    r = x ∧ r.isInf = false := by
  unfold checkFloatResult at h
  split_ifs at h with hi
  obtain rfl := Except.ok.inj h
  exact ⟨rfl, by simpa using hi⟩

theorem getFloat8Nan_ok {r : Float8} (h : (pure getFloat8Nan : Except String Float8) = .ok r) :
    r = getFloat8Nan ∧ r.isInf = false := by
  obtain rfl := Except.ok.inj h
  exact ⟨rfl, by decide⟩

/-- `pg_dsin` and `pg_dcos` refuse an infinite argument and never return an infinity; a NaN
argument gives the canonical NaN. -/
theorem periodicTrig_ok {libm : Float8 → Float8 × Bool} {arg1 r : Float8}
    (h : periodicTrig libm arg1 = .ok r) :
    arg1.isInf = false ∧ r.isInf = false ∧ (arg1.isNan = true → r = getFloat8Nan) := by
  unfold periodicTrig at h
  split_ifs at h with hn
  · obtain ⟨hr, hi⟩ := getFloat8Nan_ok h
    exact ⟨Float8.isInf_of_isNan hn, hi, fun _ => hr⟩
  · obtain ⟨result, errno⟩ := libm arg1
    dsimp only at h
    split_ifs at h with he
    simp only [Bool.or_eq_true, not_or, Bool.not_eq_true] at he
    exact ⟨he.2, (checkFloatResult_ok h).2, fun h' => absurd h' hn⟩

/-- `pg_datan` never returns an infinity; a NaN argument gives the canonical NaN. -/
theorem pgDatan_ok {atan : Float8 → Float8} {arg1 r : Float8} (h : pgDatan atan arg1 = .ok r) :
    r.isInf = false ∧ (arg1.isNan = true → r = getFloat8Nan) := by
  unfold pgDatan at h
  split_ifs at h with hn
  · exact ⟨(getFloat8Nan_ok h).2, fun _ => (getFloat8Nan_ok h).1⟩
  · exact ⟨(checkFloatResult_ok h).2, fun h' => absurd h' hn⟩

/-- `pg_datan2` never returns an infinity; a NaN argument gives the canonical NaN. -/
theorem pgDatan2_ok {atan2 : Float8 → Float8 → Float8} {arg1 arg2 r : Float8}
    (h : pgDatan2 atan2 arg1 arg2 = .ok r) :
    r.isInf = false ∧ (arg1.isNan = true ∨ arg2.isNan = true → r = getFloat8Nan) := by
  unfold pgDatan2 at h
  split_ifs at h with hn
  · exact ⟨(getFloat8Nan_ok h).2, fun _ => (getFloat8Nan_ok h).1⟩
  · exact ⟨(checkFloatResult_ok h).2, fun h' => absurd (Bool.or_eq_true _ _ ▸ h') hn⟩

end PgCall
