import PgCall.Float

/-!
# Hashing floats and texts

`pg_hashfloat8` hashes the eight bytes of the key with `hash_any` after sending both zeros to 0 and
every NaN to one NaN, so values that compare equal hash equal, whatever `hash_any` is.
-/

namespace PgCall

namespace Float8

/-- The eight bytes of the key in memory, lowest address first (little-endian). -/
def bytes (x : Float8) : List (BitVec 8) := (List.range 8).map fun i => x.bits.extractLsb' (8 * i) 8

end Float8

/-- `pg_hashfloat8`, for a byte hash `hashAny` standing for `hash_any`. -/
def pgHashfloat8 (hashAny : List (BitVec 8) → BitVec 32) (key : Float8) : BitVec 32 :=
  if ieeeEq key ⟨0⟩ then 0 else
  let key := if key.isNan then getFloat8Nan else key
  hashAny key.bytes

/-- `pg_hashtext`: `hash_any` of the bytes of a text, its varlena header left out. -/
def pgHashtext (hashAny : List (BitVec 8) → BitVec 32) (key : List (BitVec 8)) : BitVec 32 :=
  hashAny key

/-- Equal floats hash equal: IEEE-equal ones, the two zeros among them, and any two NaNs. -/
theorem pgHashfloat8_eq_of_eq (hashAny : List (BitVec 8) → BitVec 32) {a b : Float8}
    (h : ieeeEq a b = true ∨ (a.isNan = true ∧ b.isNan = true)) :
    pgHashfloat8 hashAny a = pgHashfloat8 hashAny b := by
  rcases h with h | ⟨ha, hb⟩
  · simp only [ieeeEq, Bool.and_eq_true, Bool.not_eq_true', Bool.or_eq_true, beq_iff_eq] at h
    obtain ⟨-, h | ⟨ha, hb⟩⟩ := h
    · rw [show a = b by cases a; cases b; simp_all]
    · simp only [pgHashfloat8, (ieeeEq_zero_iff a).2 ha, (ieeeEq_zero_iff b).2 hb, if_true]
  · have ha' : ieeeEq a ⟨0⟩ = false := by simp [ieeeEq, ha]
    have hb' : ieeeEq b ⟨0⟩ = false := by simp [ieeeEq, hb]
    simp only [pgHashfloat8, ha, hb, ha', hb', if_true]

/-- `+0.0` and `-0.0` hash equal under a byte hash that reads every byte. -/
theorem pgHashfloat8_signed_zeros :
    pgHashfloat8 (fun bytes => bytes.foldl (fun h b => h * 31 + b.setWidth 32) 0) ⟨0⟩ =
      pgHashfloat8 (fun bytes => bytes.foldl (fun h b => h * 31 + b.setWidth 32) 0)
        ⟨0x8000000000000000⟩ :=
  pgHashfloat8_eq_of_eq _ (.inl (by decide))

end PgCall
