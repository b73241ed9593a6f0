import PgCall.CInt
import Mathlib.Data.BitVec

/-!
# Hashing integers

`hash_bytes_uint32` and `hash_bytes_uint32_extended` are the `mix`/`final` hash of one 32-bit word,
as `pg_call.c` defines them; `hash_uint32` and `hash_uint32_extended` call them. `pg_hashint8`
folds the high half of an `int8` into the low half, so that it hashes an `int4` value like the
`int4` hash does, and the 64-bit variant with seed 0 agrees with the 32-bit one on its low
half.
-/

namespace PgCall

/-- `rot(x,k)`: rotate a `uint32` left by `k` bits. -/
def rot (x : BitVec 32) (k : ℕ) : BitVec 32 := (x <<< k) ||| (x >>> (32 - k))

/-- `mix(a,b,c)`. -/
def mix (a b c : BitVec 32) : BitVec 32 × BitVec 32 × BitVec 32 :=
  let a := (a - c) ^^^ rot c 4;  let c := c + b
  let b := (b - a) ^^^ rot a 6;  let a := a + c
  let c := (c - b) ^^^ rot b 8;  let b := b + a
  let a := (a - c) ^^^ rot c 16; let c := c + b
  let b := (b - a) ^^^ rot a 19; let a := a + c
  let c := (c - b) ^^^ rot b 4;  let b := b + a
  (a, b, c)

/-- `final(a,b,c)`. -/
def final (a b c : BitVec 32) : BitVec 32 × BitVec 32 × BitVec 32 :=
  let c := (c ^^^ b) - rot b 14
  let a := (a ^^^ c) - rot c 11
  let b := (b ^^^ a) - rot a 25
  let c := (c ^^^ b) - rot b 16
  let a := (a ^^^ c) - rot c 4
  let b := (b ^^^ a) - rot a 14
  let c := (c ^^^ b) - rot b 24
  (a, b, c)

/-- The initial state `0x9e3779b9 + (uint32) sizeof(uint32) + 3923095` of the three words. -/
def hashInit : BitVec 32 := 0x9e3779b9 + 4 + 3923095

/-- `hash_bytes_uint32`. -/
def hashBytesUint32 (k : BitVec 32) : BitVec 32 :=
  (final (hashInit + k) hashInit hashInit).2.2

/-- `hash_bytes_uint32_extended`. -/
def hashBytesUint32Extended (k : BitVec 32) (seed : BitVec 64) : BitVec 64 :=
  let (a, b, c) := if seed ≠ 0 then
      mix (hashInit + (seed >>> 32).setWidth 32) (hashInit + seed.setWidth 32) hashInit
    else (hashInit, hashInit, hashInit)
  let (_, b, c) := final (a + k) b c
  (b.setWidth 64 <<< 32) ||| c.setWidth 64

/-- `hash_uint32` of `common/hashfn.h`. -/
def hashUint32 (k : BitVec 32) : BitVec 32 := hashBytesUint32 k

/-- `hash_uint32_extended` of `common/hashfn.h`. -/
def hashUint32Extended (k : BitVec 32) (seed : BitVec 64) : BitVec 64 :=
  hashBytesUint32Extended k seed

/-- The word `pg_hashint8` and `pg_hashint8extended` hash: the low half of `val`, xor the high
half when `val` is not negative and its complement when it is. `val >> 32` shifts in copies of
the sign bit, a division by `2 ^ 32` rounding down. -/
def hashint8Fold (val : Int64) : BitVec 32 :=
  let lohalf : BitVec 32 := .ofInt 32 val.val
  let hihalf : BitVec 32 := .ofInt 32 (val.val / 2 ^ 32)
  lohalf ^^^ (if val.val ≥ 0 then hihalf else ~~~hihalf)

/-- `pg_hashint8`. -/
def pgHashint8 (val : Int64) : BitVec 32 := hashUint32 (hashint8Fold val)

/-- `pg_hashint8extended`. -/
def pgHashint8extended (val : Int64) (seed : BitVec 64) : BitVec 64 :=
  hashUint32Extended (hashint8Fold val) seed

private theorem setWidth_shiftLeft_or (b c : BitVec 32) :
    ((b.setWidth 64 <<< 32) ||| c.setWidth 64).setWidth 32 = c := by
  ext i
  simp

/-- With seed 0 the extended hash skips `mix` and runs the same `final` as `hash_bytes_uint32`,
whose result is its low half. -/
theorem hashBytesUint32Extended_zero (k : BitVec 32) :
    (hashBytesUint32Extended k 0).setWidth 32 = hashBytesUint32 k := by
  simp only [hashBytesUint32Extended, ne_eq, not_true_eq_false, if_false]
  exact setWidth_shiftLeft_or _ _

theorem hashint8Fold_of_inRange {val : Int64} (h : InRange 32 val.val) :
    hashint8Fold val = .ofInt 32 (val.resize : Int32).val := by
  unfold InRange at h
  rw [SInt.val_resize, wrap_eq_self (by decide) h, hashint8Fold]
  split_ifs with hv
  · rw [show val.val / 2 ^ 32 = 0 by omega]
    exact BitVec.xor_zero
  · rw [show val.val / 2 ^ 32 = -1 by omega]
    exact BitVec.xor_zero

theorem pgHashint8_agreement :
    (∀ k : BitVec 32, (hashBytesUint32Extended k 0).setWidth 32 = hashBytesUint32 k) ∧
      (∀ v : Int64, (pgHashint8extended v 0).setWidth 32 = pgHashint8 v) ∧
      ∀ v : Int64, InRange 32 v.val → pgHashint8 v = hashBytesUint32 (.ofInt 32 (v.resize : Int32).val) :=
  ⟨hashBytesUint32Extended_zero, fun _ => hashBytesUint32Extended_zero _,
    fun _ h => congrArg hashBytesUint32 (hashint8Fold_of_inRange h)⟩

/-- `-1` is an `int4` value: both agreements hold there, through the complemented high half. -/
theorem pgHashint8_agreement_at_minus_one :
    InRange 32 (-1 : Int64).val ∧ (pgHashint8extended (-1) 0).setWidth 32 = pgHashint8 (-1) ∧
      pgHashint8 (-1) = hashBytesUint32 (.ofInt 32 ((-1 : Int64).resize : Int32).val) :=
  ⟨by decide, pgHashint8_agreement.2.1 _, pgHashint8_agreement.2.2 _ (by decide)⟩

end PgCall
