import PgCall.DateTime

/-!
# Rounding a timestamp to a precision

`AdjustTimestampForTypmodError` rounds a finite timestamp to `typmod` fractional digits. Over
the integers it adds half a unit to the magnitude and truncates the magnitude to a multiple of
the unit (`roundHalfAway`); no step overflows for a timestamp in range, so the function
returns the multiple of the unit nearest to its input, a tie going away from zero
(`IsNearestMultiple`). The rounding is idempotent and monotone.
-/

namespace PgCall

/-- `MAX_TIMESTAMP_PRECISION`. -/
def maxTimestampPrecision : Int32 := 6

@[simp] private theorem maxTimestampPrecision_val : maxTimestampPrecision.val = 6 := rfl

/-- `TimestampScales`. -/
def timestampScales : List Int64 := [1000000, 100000, 10000, 1000, 100, 10, 1]

/-- `TimestampOffsets`. -/
def timestampOffsets : List Int64 := [500000, 50000, 5000, 500, 50, 5, 0]

/-- `AdjustTimestampForTypmodError`. The result is the return value, the new `*time` and the
new `*error` (`none` for a NULL pointer); an `elog(ERROR)` is `.error`. -/
def adjustTimestampForTypmodError (time : Int64) (typmod : Int32) (error : Option Bool) :
    Except String (Bool × Int64 × Option Bool) :=
  if ¬TimestampNotFinite time ∧ typmod.val ≠ -1 ∧ typmod.val ≠ maxTimestampPrecision.val then
    if typmod.val < 0 ∨ typmod.val > maxTimestampPrecision.val then
      match error with
      | some _ => pure (false, time, some true)
      | none => throw s!"timestamp({typmod}) precision must be between 0 and 6"
    else
      let scale := timestampScales.getD typmod.val.toNat 0
      let offset := timestampOffsets.getD typmod.val.toNat 0
      if time.val ≥ 0 then pure (true, (time + offset) / scale * scale, error)
      else pure (true, -((-time + offset) / scale * scale), error)
  else pure (true, time, error)

/-- `AdjustTimestampForTypmod`: the same with a NULL `error`. -/
def adjustTimestampForTypmod (time : Int64) (typmod : Int32) : Except String Int64 := do
  let (_, time, _) ← adjustTimestampForTypmodError time typmod none
  pure time

/-! ## Rounding over the integers -/

/-- Round a magnitude half up to a multiple of `s`. -/
def roundUp (s n : ℤ) : ℤ := (n + s / 2) / s * s

/-- Round half away from zero to a multiple of `s`: the arithmetic of
`AdjustTimestampForTypmodError` without the machine. -/
def roundHalfAway (s t : ℤ) : ℤ := if 0 ≤ t then roundUp s t else -roundUp s (-t)

/-- `r` is a multiple of `s` nearest to `t`, and of two equally near it is the one away from
zero. -/
def IsNearestMultiple (s t r : ℤ) : Prop :=
  s ∣ r ∧ -s ≤ 2 * (t - r) ∧ 2 * (t - r) ≤ s ∧ (2 * (t - r) = s → t < 0) ∧ (2 * (r - t) = s → 0 < t)

instance (s t r : ℤ) : Decidable (IsNearestMultiple s t r) :=
  inferInstanceAs (Decidable (_ ∧ _ ∧ _ ∧ (_ → _) ∧ (_ → _)))

section
variable {s : ℤ} (hs : 0 < s)
include hs

theorem roundUp_zero : roundUp s 0 = 0 := by
  unfold roundUp
  rw [zero_add, Int.ediv_eq_zero_of_lt (by omega) (by omega), zero_mul]

theorem roundUp_mono {n m : ℤ} (h : n ≤ m) : roundUp s n ≤ roundUp s m :=
  Int.mul_le_mul_of_nonneg_right (Int.ediv_le_ediv hs (by omega)) hs.le

theorem roundUp_of_dvd {n : ℤ} (hd : s ∣ n) : roundUp s n = n := by
  obtain ⟨k, rfl⟩ := hd
  unfold roundUp
  rw [Int.mul_comm s k, Int.add_comm, Int.add_mul_ediv_right _ _ hs.ne',
    Int.ediv_eq_zero_of_lt (by omega) (by omega), zero_add]

theorem roundHalfAway_of_dvd {t : ℤ} (hd : s ∣ t) : roundHalfAway s t = t := by
  unfold roundHalfAway
  split_ifs
  · exact roundUp_of_dvd hs hd
  · rw [roundUp_of_dvd hs ((Int.dvd_neg).2 hd), neg_neg]

variable (he : 2 ∣ s)
include he

theorem roundUp_spec (n : ℤ) (hn : 0 ≤ n) :
    s ∣ roundUp s n ∧ -s ≤ 2 * (n - roundUp s n) ∧ 2 * (n - roundUp s n) < s ∧ 0 ≤ roundUp s n := by
  obtain ⟨h, rfl⟩ := he
  have e1 := Int.emod_add_ediv (n + h) (2 * h)
  rw [Int.mul_comm (2 * h)] at e1
  have e2 := Int.emod_nonneg (n + h) hs.ne'
  have e3 := Int.emod_lt_of_pos (n + h) hs
  have e4 := Int.mul_nonneg (Int.ediv_nonneg (by omega : 0 ≤ n + h) hs.le) hs.le
  unfold roundUp
  rw [show 2 * h / 2 = h by omega]
  exact ⟨Dvd.intro_left _ rfl, by omega, by omega, by omega⟩

theorem roundHalfAway_isNearestMultiple (t : ℤ) : IsNearestMultiple s t (roundHalfAway s t) := by
  unfold roundHalfAway IsNearestMultiple
  split_ifs with ht
  · obtain ⟨h1, h2, h3, -⟩ := roundUp_spec hs he t ht
    have hz : t = 0 → roundUp s t = 0 := fun h => h ▸ roundUp_zero hs
    exact ⟨h1, h2, h3.le, by omega, by omega⟩
  · obtain ⟨h1, h2, h3, -⟩ := roundUp_spec hs he (-t) (by omega)
    exact ⟨(Int.dvd_neg).2 h1, by omega, by omega, by omega, by omega⟩

theorem roundHalfAway_idem (t : ℤ) : roundHalfAway s (roundHalfAway s t) = roundHalfAway s t :=
  roundHalfAway_of_dvd hs (roundHalfAway_isNearestMultiple hs he t).1

theorem roundHalfAway_mono {t u : ℤ} (h : t ≤ u) : roundHalfAway s t ≤ roundHalfAway s u := by
  unfold roundHalfAway
  have ht := fun h => (roundUp_spec hs he (-t) h).2.2.2
  have hu := fun h => (roundUp_spec hs he u h).2.2.2
  split_ifs with h1 h2 h2
  · exact roundUp_mono hs h
  · omega
  · have := ht (by omega); have := hu h2; omega
  · exact neg_le_neg (roundUp_mono hs (by omega))

end

/-! ## The machine computation -/

private theorem timestampScales_getD {p : Int32} (h0 : 0 ≤ p.val) (h6 : p.val < 6) :
    (timestampScales.getD p.val.toNat 0).val = 10 ^ (6 - p.val.toNat) ∧
      (timestampOffsets.getD p.val.toNat 0).val = 10 ^ (6 - p.val.toNat) / 2 := by
  have key : ∀ k : Fin 6, (timestampScales.getD k 0).val = 10 ^ (6 - (k : ℕ)) ∧
      (timestampOffsets.getD k 0).val = 10 ^ (6 - (k : ℕ)) / 2 := by decide
  exact key ⟨p.val.toNat, by omega⟩

private theorem ediv_mul_bounds {n s : ℤ} (hn : 0 ≤ n) (hs : 0 < s) :
    0 ≤ n / s ∧ n / s ≤ n ∧ 0 ≤ n / s * s ∧ n / s * s ≤ n :=
  ⟨Int.ediv_nonneg hn hs.le, Int.ediv_le_self s hn, Int.mul_nonneg (Int.ediv_nonneg hn hs.le) hs.le,
    Int.ediv_mul_le n hs.ne'⟩

private theorem timestampUnit_facts {p : Int32} (h0 : 0 ≤ p.val) (h6 : p.val < 6) :
    (0 : ℤ) < 10 ^ (6 - p.val.toNat) ∧ 2 ∣ (10 : ℤ) ^ (6 - p.val.toNat) ∧
      (10 : ℤ) ^ (6 - p.val.toNat) ∣ 10 ^ 6 :=
  ⟨by positivity, dvd_pow (by decide) (by omega), pow_dvd_pow 10 (by omega)⟩

/-- For a precision below `MAX_TIMESTAMP_PRECISION` and a timestamp half a second inside the
`int64` range, `AdjustTimestampForTypmodError` computes `roundHalfAway` with no overflow. -/
theorem adjustTimestampForTypmodError_eq (error : Option Bool) {t : Int64} {p : Int32}
    (ht : -9223372036854275807 ≤ t.val ∧ t.val ≤ 9223372036854275807) (h0 : 0 ≤ p.val)
    (h6 : p.val < 6) :
    ∃ r : Int64, adjustTimestampForTypmodError t p error = .ok (true, r, error) ∧
      r.val = roundHalfAway (10 ^ (6 - p.val.toNat)) t.val := by
  obtain ⟨hs, ho⟩ := timestampScales_getD h0 h6
  obtain ⟨hs0, -, hd⟩ := timestampUnit_facts h0 h6
  have hs1 := Int.le_of_dvd (by norm_num) hd
  unfold adjustTimestampForTypmodError roundHalfAway roundUp
  rw [if_pos ⟨by rw [timestampNotFinite_iff]; omega, by omega, by rw [maxTimestampPrecision_val]; omega⟩,
    if_neg (by rw [maxTimestampPrecision_val]; omega)]
  generalize (10 : ℤ) ^ (6 - p.val.toNat) = s at *
  split_ifs with h
  · have := ediv_mul_bounds (by omega : 0 ≤ t.val + s / 2) hs0
    refine ⟨_, rfl, ?_⟩
    simp (disch := first | decide | omega | (unfold InRange; omega)) only [SInt.val_mul,
      SInt.val_div, SInt.val_add, hs, ho, wrap_eq_self, Int.tdiv_eq_ediv]
  · have := ediv_mul_bounds (by omega : 0 ≤ -t.val + s / 2) hs0
    refine ⟨_, rfl, ?_⟩
    simp (disch := first | decide | omega | (unfold InRange; omega)) only [SInt.val_mul,
      SInt.val_div, SInt.val_add, SInt.val_neg, hs, ho, wrap_eq_self, Int.tdiv_eq_ediv]

theorem adjustTimestampForTypmodError_skip (error : Option Bool) {t : Int64} {p : Int32}
    (h : p.val = -1 ∨ p.val = 6 ∨ TimestampNotFinite t) :
    adjustTimestampForTypmodError t p error = .ok (true, t, error) := by
  unfold adjustTimestampForTypmodError
  rw [if_neg fun ⟨hf, h1, h6⟩ => h.elim h1 (·.elim h6 hf)]
  rfl

theorem adjustTimestampForTypmodError_bad {t : Int64} {p : Int32} (hf : ¬TimestampNotFinite t)
    (hp : p.val < -1 ∨ 6 < p.val) :
    adjustTimestampForTypmodError t p none =
      .error s!"timestamp({p}) precision must be between 0 and 6" := by
  unfold adjustTimestampForTypmodError
  rw [if_pos ⟨hf, by omega, by rw [maxTimestampPrecision_val]; omega⟩,
    if_pos (by rw [maxTimestampPrecision_val]; omega)]
  rfl

theorem adjustTimestampForTypmodError_valid (error : Option Bool) {t : Int64} {p : Int32}
    (ht : IsValidTimestamp t) (h0 : 0 ≤ p.val) (h6 : p.val < 6) :
    ∃ r : Int64, adjustTimestampForTypmodError t p error = .ok (true, r, error) ∧
      r.val = roundHalfAway (10 ^ (6 - p.val.toNat)) t.val :=
  adjustTimestampForTypmodError_eq error (by rw [isValidTimestamp_iff] at ht; omega) h0 h6

theorem adjustTimestampForTypmod_of_ok {t r : Int64} {p : Int32} {b : Bool} {e : Option Bool}
    (h : adjustTimestampForTypmodError t p none = .ok (b, r, e)) :
    adjustTimestampForTypmod t p = .ok r := by
  simp only [adjustTimestampForTypmod, h]
  rfl

theorem adjustTimestampForTypmodError_rounds (error : Option Bool) :
    (∀ (t : Int64) (p : Int32), IsValidTimestamp t → 0 ≤ p.val → p.val < 6 →
      ∃ r : Int64, adjustTimestampForTypmodError t p error = .ok (true, r, error) ∧
        IsNearestMultiple (10 ^ (6 - p.val.toNat)) t.val r.val ∧
        adjustTimestampForTypmodError r p error = .ok (true, r, error)) ∧
    (∀ (t : Int64) (p : Int32), p.val = -1 ∨ p.val = 6 ∨ TimestampNotFinite t →
      adjustTimestampForTypmodError t p error = .ok (true, t, error)) ∧
    (∀ (t₁ t₂ r₁ r₂ : Int64) (p : Int32), IsValidTimestamp t₁ → IsValidTimestamp t₂ →
      0 ≤ p.val → p.val < 6 → t₁.val ≤ t₂.val →
      adjustTimestampForTypmodError t₁ p error = .ok (true, r₁, error) →
      adjustTimestampForTypmodError t₂ p error = .ok (true, r₂, error) → r₁.val ≤ r₂.val) := by
  refine ⟨fun t p ht h0 h6 => ?_, fun t p => adjustTimestampForTypmodError_skip error,
    fun t₁ t₂ r₁ r₂ p ht₁ ht₂ h0 h6 hle e₁ e₂ => ?_⟩
  · obtain ⟨hs, he, hd⟩ := timestampUnit_facts h0 h6
    have := Int.le_of_dvd (by norm_num) hd
    obtain ⟨r, hr, hv⟩ := adjustTimestampForTypmodError_valid error ht h0 h6
    have hn := roundHalfAway_isNearestMultiple hs he t.val
    rw [← hv] at hn
    rw [isValidTimestamp_iff] at ht
    -- the rounded value is again half a second inside the range, and rounds to itself
    obtain ⟨r', hr', hv'⟩ := adjustTimestampForTypmodError_eq error
      (by unfold IsNearestMultiple at hn; omega) h0 h6 (t := r)
    rw [hv, roundHalfAway_idem hs he, ← hv, SInt.val_inj] at hv'
    exact ⟨r, hr, hn, hv' ▸ hr'⟩
  · obtain ⟨hs, he, -⟩ := timestampUnit_facts h0 h6
    obtain ⟨r, hr, hv⟩ := adjustTimestampForTypmodError_valid error ht₁ h0 h6
    obtain ⟨r', hr', hv'⟩ := adjustTimestampForTypmodError_valid error ht₂ h0 h6
    rw [e₁] at hr
    rw [e₂] at hr'
    cases hr
    cases hr'
    rw [hv, hv']
    exact roundHalfAway_mono hs he hle

/-- The tie `-1.5` seconds at precision 0 rounds away from zero, to `-2` seconds, which rounds to
itself. -/
theorem adjustTimestampForTypmodError_rounds_at_tie :
    IsValidTimestamp (.ofInt (-1500000)) ∧ 0 ≤ (0 : Int32).val ∧ (0 : Int32).val < 6 ∧
      adjustTimestampForTypmodError (.ofInt (-1500000)) 0 none = .ok (true, .ofInt (-2000000), none) ∧
      ∃ r : Int64, adjustTimestampForTypmodError (.ofInt (-1500000)) 0 none = .ok (true, r, none) ∧
        IsNearestMultiple (10 ^ (6 - (0 : Int32).val.toNat)) (SInt.ofInt (-1500000) : Int64).val r.val ∧
        adjustTimestampForTypmodError r 0 none = .ok (true, r, none) :=
  ⟨by decide, by decide, by decide, rfl,
    (adjustTimestampForTypmodError_rounds none).1 _ _ (by decide) (by decide) (by decide)⟩

/-- Rounding keeps a timestamp in range or on its sentinel, except that it may round up onto
`END_TIMESTAMP`: both ends of the range are whole seconds, and rounding is monotone. -/
theorem adjustTimestampForTypmod_range {t r : Int64} {p : Int32}
    (ht : IsValidTimestamp t ∨ TimestampNotFinite t) (h : adjustTimestampForTypmod t p = .ok r) :
    IsValidTimestamp r ∨ TimestampNotFinite r ∨ r = endTimestamp := by
  by_cases hskip : p.val = -1 ∨ p.val = 6 ∨ TimestampNotFinite t
  · rw [adjustTimestampForTypmod_of_ok (adjustTimestampForTypmodError_skip none hskip)] at h
    obtain rfl := Except.ok.inj h
    exact ht.imp_right .inl
  obtain ⟨hm1, hm6, hf⟩ : p.val ≠ -1 ∧ p.val ≠ 6 ∧ ¬TimestampNotFinite t := by
    simpa only [not_or] using hskip
  have hv := ht.resolve_right hf
  by_cases hp : 0 ≤ p.val ∧ p.val < 6
  · obtain ⟨hs, he, hd⟩ := timestampUnit_facts hp.1 hp.2
    obtain ⟨r', hr, hr'⟩ := adjustTimestampForTypmodError_valid none hv hp.1 hp.2
    rw [adjustTimestampForTypmod_of_ok hr] at h
    obtain rfl := Except.ok.inj h
    rw [isValidTimestamp_iff] at hv
    have lo := roundHalfAway_mono hs he hv.1
    have hi := roundHalfAway_mono hs he hv.2.le
    rw [roundHalfAway_of_dvd hs (t := -211813488000000000) (dvd_trans hd ⟨-211813488000, by norm_num⟩),
      ← hr'] at lo
    rw [roundHalfAway_of_dvd hs (t := 9223371331200000000) (dvd_trans hd ⟨9223371331200, by norm_num⟩),
      ← hr'] at hi
    rcases hi.lt_or_eq with hlt | heq
    · exact .inl (isValidTimestamp_iff.2 ⟨lo, hlt⟩)
    · exact .inr (.inr (SInt.val_inj.1 (by rw [heq]; rfl)))
  · obtain ⟨_, h1, -⟩ := bind_eq_ok.1 h
    rw [adjustTimestampForTypmodError_bad hf (by omega)] at h1
    cases h1

end PgCall
