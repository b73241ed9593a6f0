import Mathlib.Tactic.Positivity

/-!
# C integers of a fixed width

The integer types of `pg_call.c` (`int`, `int32`, `int64`, `Timestamp`, `INT128`) are kept
as their values, an integer in the two's complement range of the width. Every operation
stores its exact result back through `wrap`: signed overflow wraps (PostgreSQL and its
extensions are built with `-fwrapv`), and a conversion to a narrower type keeps the low
bits. `/` and `%` truncate toward zero, as in C99.
-/

namespace PgCall

/-- The values of a `bits`-bit two's complement integer. -/
def InRange (bits : ℕ) (x : ℤ) : Prop := -2 ^ (bits - 1) ≤ x ∧ x < 2 ^ (bits - 1)

instance (bits : ℕ) (x : ℤ) : Decidable (InRange bits x) := inferInstanceAs (Decidable (_ ∧ _))

/-- Two's complement wrap of `x` into `bits` bits. -/
def wrap (bits : ℕ) (x : ℤ) : ℤ := (x + 2 ^ (bits - 1)) % 2 ^ bits - 2 ^ (bits - 1)

private theorem two_pow_le_two_mul (bits : ℕ) : (2 : ℤ) ^ bits ≤ 2 * 2 ^ (bits - 1) := by
  cases bits with
  | zero => decide
  | succ n => simp [pow_succ]; omega

theorem two_pow_eq_two_mul {bits : ℕ} (hb : 0 < bits) :
    (2 : ℤ) ^ bits = 2 * 2 ^ (bits - 1) := by
  rw [← pow_succ']; congr 1; omega

theorem wrap_inRange (bits : ℕ) (x : ℤ) : InRange bits (wrap bits x) := by
  have h0 := Int.emod_nonneg (x + 2 ^ (bits - 1)) (by positivity : (2 : ℤ) ^ bits ≠ 0)
  have h1 := Int.emod_lt_of_pos (x + 2 ^ (bits - 1)) (by positivity : (0 : ℤ) < 2 ^ bits)
  have h2 := two_pow_le_two_mul bits
  unfold InRange wrap; omega

theorem wrap_eq_self {bits : ℕ} {x : ℤ} (hb : 0 < bits) (h : InRange bits x) : wrap bits x = x := by
  have := two_pow_eq_two_mul hb
  unfold InRange at h; unfold wrap
  rw [Int.emod_eq_of_lt (by omega) (by omega)]; omega

private theorem wrap_add_mul (bits : ℕ) (x k : ℤ) : wrap bits (x + k * 2 ^ bits) = wrap bits x := by
  unfold wrap; rw [add_right_comm, Int.add_mul_emod_self]

theorem wrap_eq_of_eq_add_mul {bits : ℕ} {x y : ℤ} (hb : 0 < bits) (h : InRange bits y) (k : ℤ)
    (hx : x = y + k * 2 ^ bits) : wrap bits x = y := by
  rw [hx, wrap_add_mul, wrap_eq_self hb h]

theorem wrap_add_wrap (bits : ℕ) (x y : ℤ) : wrap bits (x + wrap bits y) = wrap bits (x + y) := by
  unfold wrap
  rw [add_assoc, sub_add_cancel, Int.add_emod_emod, ← add_assoc]

/-- A C signed integer of `bits` bits: its value, which the type keeps in range. -/
structure SInt (bits : ℕ) where
  val : ℤ
  inRange : InRange bits val
deriving DecidableEq

/-- C `int` and `int32`. -/
abbrev Int32 := SInt 32
/-- C `int64`, and `Timestamp`, `TimestampTz` and `TimeOffset`. -/
abbrev Int64 := SInt 64
/-- PostgreSQL's `INT128`. -/
abbrev Int128 := SInt 128

namespace SInt

variable {bits : ℕ}

/-- Storing an integer into the type (a C conversion, or the result of an operation). -/
def ofInt (x : ℤ) : SInt bits := ⟨wrap bits x, wrap_inRange bits x⟩

/-- A C conversion between two integer types. -/
def resize {b : ℕ} (a : SInt b) : SInt bits := ofInt a.val

instance {n : ℕ} : OfNat (SInt bits) n := ⟨ofInt n⟩
instance : Add (SInt bits) := ⟨fun a b => ofInt (a.val + b.val)⟩
instance : Sub (SInt bits) := ⟨fun a b => ofInt (a.val - b.val)⟩
instance : Mul (SInt bits) := ⟨fun a b => ofInt (a.val * b.val)⟩
instance : Neg (SInt bits) := ⟨fun a => ofInt (-a.val)⟩
instance : Div (SInt bits) := ⟨fun a b => ofInt (a.val.tdiv b.val)⟩
instance : Mod (SInt bits) := ⟨fun a b => ofInt (a.val.tmod b.val)⟩
instance : ToString (SInt bits) := ⟨fun a => toString a.val⟩

@[simp] theorem val_ofInt (x : ℤ) : (ofInt x : SInt bits).val = wrap bits x := rfl
@[simp] theorem val_resize {b : ℕ} (a : SInt b) : (a.resize : SInt bits).val = wrap bits a.val := rfl
theorem val_ofNat (n : ℕ) : (no_index (OfNat.ofNat n) : SInt bits).val = wrap bits n := rfl

@[simp] theorem val_ofNat_of_lt {n : ℕ} (hb : 0 < bits) (h : (n : ℤ) < 2 ^ (bits - 1)) :
    (no_index (OfNat.ofNat n) : SInt bits).val = n :=
  wrap_eq_self hb ⟨by have : (0 : ℤ) < 2 ^ (bits - 1) := by positivity
                      omega, h⟩
@[simp] theorem val_add (a b : SInt bits) : (a + b).val = wrap bits (a.val + b.val) := rfl
@[simp] theorem val_sub (a b : SInt bits) : (a - b).val = wrap bits (a.val - b.val) := rfl
@[simp] theorem val_mul (a b : SInt bits) : (a * b).val = wrap bits (a.val * b.val) := rfl
@[simp] theorem val_neg (a : SInt bits) : (-a).val = wrap bits (-a.val) := rfl
@[simp] theorem val_div (a b : SInt bits) : (a / b).val = wrap bits (a.val.tdiv b.val) := rfl
@[simp] theorem val_mod (a b : SInt bits) : (a % b).val = wrap bits (a.val.tmod b.val) := rfl

theorem val_inj {a b : SInt bits} : a.val = b.val ↔ a = b := by
  cases a; cases b; simp

theorem range (a : SInt bits) : -2 ^ (bits - 1) ≤ a.val ∧ a.val < 2 ^ (bits - 1) := a.inRange

theorem wrap_add_cases (hb : 0 < bits) (a b : SInt bits) :
    InRange bits (a.val + b.val) ∧ wrap bits (a.val + b.val) = a.val + b.val ∨
      2 ^ (bits - 1) ≤ a.val + b.val ∧ wrap bits (a.val + b.val) = a.val + b.val - 2 ^ bits ∨
      a.val + b.val < -2 ^ (bits - 1) ∧ wrap bits (a.val + b.val) = a.val + b.val + 2 ^ bits := by
  have ha := a.range
  have hb' := b.range
  have hN : (2 : ℤ) ^ bits = 2 * 2 ^ (bits - 1) := two_pow_eq_two_mul hb
  by_cases h : InRange bits (a.val + b.val)
  · exact .inl ⟨h, wrap_eq_self hb h⟩
  · unfold InRange at h
    by_cases h' : a.val + b.val < 2 ^ (bits - 1)
    · exact .inr (.inr ⟨by omega, wrap_eq_of_eq_add_mul hb (by unfold InRange; omega) (-1) (by omega)⟩)
    · exact .inr (.inl ⟨by omega, wrap_eq_of_eq_add_mul hb (by unfold InRange; omega) 1 (by omega)⟩)

end SInt

theorem bind_eq_ok {ε α β : Type} {x : Except ε α} {f : α → Except ε β} {b : β} :
    x >>= f = .ok b ↔ ∃ a, x = .ok a ∧ f a = .ok b := by
  cases x <;> simp [bind, Except.bind]

theorem tdiv_of_pos (a : ℤ) {b : ℤ} (hb : 0 < b) :
    a.tdiv b = if 0 ≤ a then a / b else -((-a) / b) := by
  split
  · exact Int.tdiv_eq_ediv ‹_› hb.le
  · rw [← Int.tdiv_eq_ediv (by omega) hb.le, Int.neg_tdiv, Int.neg_neg]

end PgCall
