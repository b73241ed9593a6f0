import PgCall.DateTime

/-!
# The calendar of `j2date`

`j2date` computes in `unsigned int`. From Julian day 0 up to `INT_MAX` none of its steps wraps,
so it computes the calendar `ymdOfCycleDays` of the day count `cycleDays` over the natural
numbers (`j2date_val`). The ranges of its year, month and day follow, and with them those of
every broken-down time `timestamp2tm` returns (`timestamp2tm_bounds`). `day_tab` holds the month
lengths of the proleptic Gregorian calendar (`dayTabAt_eq`).
-/

namespace PgCall

/-! ## Unsigned arithmetic -/

/-- `BitVec.toNat_add`, proved by rewriting: `simp` takes a lemma proved by `rfl` as a definitional
step, and the kernel then re-checks it by unfolding `BitVec` addition on `j2date`'s literals one unit
at a time. -/
private theorem toNat_add_mod {w : ℕ} (x y : BitVec w) : (x + y).toNat = (x.toNat + y.toNat) % 2 ^ w := by
  rw [BitVec.toNat_add]

/-- `BitVec.toNat_mul`, proved by rewriting for the same reason. -/
private theorem toNat_mul_mod {w : ℕ} (x y : BitVec w) : (x * y).toNat = (x.toNat * y.toNat) % 2 ^ w := by
  rw [BitVec.toNat_mul]

private theorem mod_two_pow_32 {a : ℕ} (h : a < 4294967296) : a % 4294967296 = a := Nat.mod_eq_of_lt h

private theorem add_sub_mod_two_pow_32 {a b : ℕ} (h : b ≤ a) (ha : a < 4294967296) :
    (a + (4294967296 - b)) % 4294967296 = a - b := by
  rw [show a + (4294967296 - b) = a - b + 4294967296 by omega, Nat.add_mod_right,
    Nat.mod_eq_of_lt (by omega)]

/-! ## The steps of `j2date` -/

/-- The first steps of `j2date`: from the Julian day, a day count whose four-year cycles are all
1461 days long, the three leap days each 400-year cycle skips put back. -/
def j2dateCycle (julian : BitVec 32) : BitVec 32 :=
  let julian := julian + 32044
  let quad := julian / 146097
  let extra := (julian - quad * 146097) * 4 + 3
  julian + (60 + quad * 3 + extra / 146097)

/-- The rest of `j2date`, from that day count. -/
def j2dateFrom (julian : BitVec 32) : Int32 × Int32 × Int32 :=
  let quad := julian / 1461
  let julian := julian - quad * 1461
  let y : Int32 := .ofInt (julian * 4 / 1461).toNat
  let julian := (if y.val ≠ 0 then (julian + 305) % 365 else (julian + 306) % 366) + 123
  let y : Int32 := .ofInt (BitVec.ofInt 32 y.val + quad * 4).toNat
  let quad := julian * 2141 / 65536
  (y - 4800, .ofInt ((quad + 10) % 12 + 1).toNat, .ofInt (julian - 7834 * quad / 256).toNat)

theorem j2date_eq_from (jd : Int32) : j2date jd = j2dateFrom (j2dateCycle (.ofInt 32 jd.val)) := rfl

/-! ## The calendar over the natural numbers -/

/-- The day count of `j2dateCycle`, over the naturals. -/
def cycleDays (n : ℕ) : ℕ :=
  n + 32044 + (60 + (n + 32044) / 146097 * 3 + ((n + 32044) % 146097 * 4 + 3) / 146097)

/-- The day of a March-based year, from the day of a four-year cycle that starts with a leap year
on January 1. -/
def marchDay (r : ℕ) : ℕ :=
  if r * 4 / 1461 ≠ 0 then (r + 305) % 365 else (r + 306) % 366

/-- `j2dateFrom` over the naturals: the year offset by 4800, the month and the day. -/
def ymdOfCycleDays (days : ℕ) : ℕ × ℕ × ℕ :=
  let julian := marchDay (days % 1461) + 123
  let month := julian * 2141 / 65536
  (days % 1461 * 4 / 1461 + days / 1461 * 4, (month + 10) % 12 + 1, julian - 7834 * month / 256)

theorem marchDay_le (r : ℕ) : marchDay r ≤ 365 := by
  unfold marchDay; split_ifs <;> omega

/-- The month and day of a day `d` of a March-based year: `m3` counts months from March as 3, so
January and February of the next calendar year are 14 and 15. -/
theorem month_layer {d m3 : ℕ} (hd : d ≤ 365) (hm3 : (d + 123) * 2141 / 65536 = m3) :
    7834 * m3 / 256 + 1 ≤ d + 123 ∧ d + 123 ≤ 7834 * m3 / 256 + 31 ∧ m3 ≤ 15 ∧
      (d < 306 → 2 < (m3 + 10) % 12 + 1 ∧ (m3 + 10) % 12 + 1 + 1 = m3) ∧
      (306 ≤ d → (m3 + 10) % 12 + 1 ≤ 2 ∧ (m3 + 10) % 12 + 1 + 13 = m3) := by
  have h4 : 4 ≤ m3 := by omega
  have h15 : m3 ≤ 15 := by omega
  have hmar : d < 306 ↔ m3 ≤ 13 := by omega
  refine ⟨by omega, by omega, h15, fun h => ?_, fun h => ?_⟩
  · have := hmar.1 h; clear hm3; omega
  · have : 13 < m3 := by omega
    clear hm3; omega

theorem cycleDays_lt {n : ℕ} (h : n < 2147483648) : cycleDays n < 2147600000 := by
  unfold cycleDays; omega

theorem ymdOfCycleDays_bounds {days : ℕ} (h : days < 2147600000) :
    (ymdOfCycleDays days).1 < 5879812 ∧
      1 ≤ (ymdOfCycleDays days).2.1 ∧ (ymdOfCycleDays days).2.1 ≤ 12 ∧
      1 ≤ (ymdOfCycleDays days).2.2 ∧ (ymdOfCycleDays days).2.2 ≤ 31 := by
  obtain ⟨h1, h2, -⟩ := month_layer (marchDay_le (days % 1461)) rfl
  have hy : days % 1461 * 4 / 1461 ≤ 3 := by omega
  have hq : days / 1461 ≤ 1469952 := by omega
  unfold ymdOfCycleDays
  dsimp only
  omega

/-! ## `j2date` computes that calendar -/

private theorem j2dateCycle_toNat {j : BitVec 32} (h : j.toNat < 2147483648) :
    (j2dateCycle j).toNat = cycleDays j.toNat := by
  unfold j2dateCycle cycleDays
  simp (disch := omega) only [toNat_add_mod, toNat_mul_mod, BitVec.toNat_sub',
    BitVec.toNat_udiv, BitVec.toNat_ofNat, BitVec.ofNat_eq_ofNat, Nat.reducePow, Nat.reduceMod,
    add_sub_mod_two_pow_32, mod_two_pow_32]
  omega

/-! The last three statements of `j2date`, each over the natural numbers. -/

theorem j2date_year_val {y : Int32} {quad : BitVec 32} {a q : ℕ}
    (hy : (BitVec.ofInt 32 y.val).toNat = a) (hq : quad.toNat = q) (ha : a < 4) (hq' : q < 1470000) :
    (SInt.ofInt (BitVec.ofInt 32 y.val + quad * 4).toNat - 4800 : Int32).val = (a + q * 4 : ℕ) - 4800 := by
  simp only [SInt.val_sub, SInt.val_ofInt, toNat_add_mod, toNat_mul_mod, hy, hq, BitVec.toNat_ofNat,
    BitVec.ofNat_eq_ofNat, Nat.reducePow, Nat.reduceMod]
  simp (disch := omega) only [mod_two_pow_32]
  simp (disch := first | decide | omega | (unfold InRange; omega)) only [wrap_eq_self,
    SInt.val_ofNat_of_lt, Nat.cast_ofNat]

theorem j2date_month_val {m3 : BitVec 32} (h : m3.toNat ≤ 15) :
    (SInt.ofInt ((m3 + 10) % 12 + 1).toNat : Int32).val = ((m3.toNat + 10) % 12 + 1 : ℕ) := by
  simp only [SInt.val_ofInt, toNat_add_mod, BitVec.toNat_umod, BitVec.toNat_ofNat,
    BitVec.ofNat_eq_ofNat, Nat.reducePow, Nat.reduceMod]
  simp (disch := omega) only [mod_two_pow_32]
  simp (disch := first | omega | (unfold InRange; omega)) only [wrap_eq_self]

theorem j2date_mday_val {day m3 : BitVec 32} (h : 7834 * m3.toNat / 256 ≤ day.toNat + 123)
    (hd : day.toNat ≤ 365) (hm : m3.toNat ≤ 15) :
    (SInt.ofInt (day + 123 - 7834 * m3 / 256).toNat : Int32).val =
      (day.toNat + 123 - 7834 * m3.toNat / 256 : ℕ) := by
  simp only [SInt.val_ofInt, toNat_add_mod, toNat_mul_mod, BitVec.toNat_sub', BitVec.toNat_udiv,
    BitVec.toNat_ofNat, BitVec.ofNat_eq_ofNat, Nat.reducePow, Nat.reduceMod]
  simp (disch := omega) only [mod_two_pow_32, add_sub_mod_two_pow_32]
  simp (disch := first | omega | (unfold InRange; omega)) only [wrap_eq_self]

private theorem j2dateFrom_val {j : BitVec 32} (h : j.toNat < 2147600000) :
    (j2dateFrom j).1.val = ((ymdOfCycleDays j.toNat).1 : ℤ) - 4800 ∧
      (j2dateFrom j).2.1.val = (ymdOfCycleDays j.toNat).2.1 ∧
      (j2dateFrom j).2.2.val = (ymdOfCycleDays j.toNat).2.2 := by
  have hq : (j / 1461).toNat = j.toNat / 1461 := by
    simp only [BitVec.toNat_udiv, BitVec.toNat_ofNat, BitVec.ofNat_eq_ofNat, Nat.reducePow,
      Nat.reduceMod]
  have hr : (j - j / 1461 * 1461).toNat = j.toNat % 1461 := by
    simp (disch := omega) only [BitVec.toNat_sub', toNat_mul_mod, BitVec.toNat_udiv,
      BitVec.toNat_ofNat, BitVec.ofNat_eq_ofNat, Nat.reducePow, Nat.reduceMod, mod_two_pow_32,
      add_sub_mod_two_pow_32]
    omega
  have hq' : j.toNat / 1461 < 1470000 := by omega
  unfold j2dateFrom ymdOfCycleDays
  dsimp only
  -- name the value of each statement of `j2date`, one after the other
  generalize j / 1461 = quad at *
  generalize j - quad * 1461 = julian at *
  have hr' := Nat.mod_lt j.toNat (by decide : 1461 > 0)
  generalize j.toNat % 1461 = r at *
  generalize j.toNat / 1461 = q at *
  have hy : (SInt.ofInt (julian * 4 / 1461).toNat : Int32).val = (r * 4 / 1461 : ℕ) := by
    simp (disch := first | omega | (unfold InRange; omega)) only [SInt.val_ofInt, toNat_mul_mod,
      BitVec.toNat_udiv, BitVec.toNat_ofNat, BitVec.ofNat_eq_ofNat, Nat.reducePow, Nat.reduceMod,
      mod_two_pow_32, hr, wrap_eq_self]
  have hy' : (BitVec.ofInt 32 (SInt.ofInt (julian * 4 / 1461).toNat : Int32).val).toNat =
      r * 4 / 1461 := by
    rw [BitVec.toNat_ofInt, hy]; omega
  have ha : r * 4 / 1461 < 4 := by omega
  generalize (SInt.ofInt (julian * 4 / 1461).toNat : Int32) = y at *
  have hm : (if y.val ≠ 0 then (julian + 305) % 365 else (julian + 306) % 366).toNat = marchDay r := by
    unfold marchDay
    simp only [hy, ne_eq, Nat.cast_eq_zero]
    split_ifs <;> simp (disch := omega) only [toNat_add_mod, BitVec.toNat_umod, BitVec.toNat_ofNat,
      BitVec.ofNat_eq_ofNat, Nat.reducePow, Nat.reduceMod, mod_two_pow_32, hr]
  have hm' := marchDay_le r
  generalize (if y.val ≠ 0 then (julian + 305) % 365 else (julian + 306) % 366) = day at *
  have hm3 : ((day + 123) * 2141 / 65536).toNat = (marchDay r + 123) * 2141 / 65536 := by
    simp (disch := omega) only [toNat_add_mod, toNat_mul_mod, BitVec.toNat_udiv, BitVec.toNat_ofNat,
      BitVec.ofNat_eq_ofNat, Nat.reducePow, Nat.reduceMod, mod_two_pow_32, hm]
  obtain ⟨hd1, -, h15, -⟩ := month_layer hm' rfl
  refine ⟨j2date_year_val hy' hq ha hq', ?_, ?_⟩
  · rw [← hm3]; exact j2date_month_val (by rw [hm3]; exact h15)
  · rw [← hm3, ← hm]
    exact j2date_mday_val (by rw [hm3, hm]; exact Nat.le_of_succ_le hd1) (by rw [hm]; exact hm')
      (by rw [hm3]; exact h15)

/-- From Julian day 0 on, `j2date` is the calendar over the natural numbers. -/
theorem j2date_val {jd : Int32} (h : 0 ≤ jd.val) :
    (j2date jd).1.val = ((ymdOfCycleDays (cycleDays jd.val.toNat)).1 : ℤ) - 4800 ∧
      (j2date jd).2.1.val = (ymdOfCycleDays (cycleDays jd.val.toNat)).2.1 ∧
      (j2date jd).2.2.val = (ymdOfCycleDays (cycleDays jd.val.toNat)).2.2 := by
  have hr := jd.range
  have h0 : (BitVec.ofInt 32 jd.val).toNat = jd.val.toNat := by
    simp only [BitVec.toNat_ofInt]; omega
  rw [j2date_eq_from, ← h0, ← j2dateCycle_toNat (by omega)]
  exact j2dateFrom_val (by rw [j2dateCycle_toNat (by omega), h0]; exact cycleDays_lt (by omega))

/-! ## Ranges -/

theorem j2date_bounds {jd : Int32} (h : 0 ≤ jd.val) :
    -4800 ≤ (j2date jd).1.val ∧ (j2date jd).1.val < 5875012 ∧
      1 ≤ (j2date jd).2.1.val ∧ (j2date jd).2.1.val ≤ 12 ∧
      1 ≤ (j2date jd).2.2.val ∧ (j2date jd).2.2.val ≤ 31 := by
  obtain ⟨e1, e2, e3⟩ := j2date_val h
  have := (ymdOfCycleDays_bounds (cycleDays_lt (n := jd.val.toNat) (by have := jd.range; omega)))
  rw [e1, e2, e3]
  omega

theorem timestamp2tm_bounds {t : Int64} {tm : PgTm} {fsec : Int32}
    (h : timestamp2tm t = some (tm, fsec)) :
    -4800 ≤ tm.tmYear.val ∧ tm.tmYear.val < 5875012 ∧ 1 ≤ tm.tmMon.val ∧ tm.tmMon.val ≤ 12 ∧
      1 ≤ tm.tmMday.val ∧ tm.tmMday.val ≤ 31 := by
  unfold timestamp2tm at h
  generalize splitTimestamp t = split at h
  obtain ⟨time, date⟩ := split
  dsimp only at h
  split_ifs at h with hd
  have hj : 0 ≤ ((date + postgresEpochJdate.resize).resize : Int32).val := by
    simp (disch := first | decide | (unfold InRange; omega)) only [SInt.val_resize, wrap_eq_self]
    omega
  have hb := j2date_bounds hj
  generalize j2date _ = ymd at h hb
  obtain ⟨year, mon, mday⟩ := ymd
  obtain ⟨hour, min, sec, fsec'⟩ := dt2time time
  cases h
  exact hb

/-! ## Month lengths -/

/-- The length of month `m` of year `y` in the proleptic Gregorian calendar. -/
def daysInMonth (y m : ℤ) : ℤ :=
  if m = 2 then (if 4 ∣ y ∧ (¬100 ∣ y ∨ 400 ∣ y) then 29 else 28)
  else if m = 4 ∨ m = 6 ∨ m = 9 ∨ m = 11 then 30 else 31

theorem daysInMonth_bounds (y m : ℤ) : 28 ≤ daysInMonth y m ∧ daysInMonth y m ≤ 31 := by
  unfold daysInMonth; split_ifs <;> omega

theorem dayTab_row_length (b : Bool) : (dayTab.getD (if b then 1 else 0) []).length = 13 := by
  cases b <;> rfl

private theorem wrap_tmod_eq_zero_iff (a : ℤ) {k : ℤ} (hk : 0 < k) (hk' : k ≤ 400) :
    wrap 32 (a.tmod k) = 0 ↔ k ∣ a := by
  have hq := tdiv_of_pos a hk
  have hr : InRange 32 (a.tmod k) := by
    have := Int.emod_def a k
    have := Int.emod_def (-a) k
    have := Int.emod_lt_of_pos a hk
    have := Int.emod_lt_of_pos (-a) hk
    have := Int.emod_nonneg a hk.ne'
    have := Int.emod_nonneg (-a) hk.ne'
    rw [Int.tmod_def, hq]
    unfold InRange
    split_ifs
    · constructor <;> omega
    · rw [mul_neg]; constructor <;> omega
  rw [wrap_eq_self (by decide) hr, Int.dvd_iff_tmod_eq_zero]

/-- `isleap`, with C's truncating `%`, is the Gregorian rule, for negative years too. -/
theorem isleap_iff (y : Int32) : isleap y = true ↔ 4 ∣ y.val ∧ (¬100 ∣ y.val ∨ 400 ∣ y.val) := by
  simp only [isleap, SInt.val_mod, Bool.and_eq_true, Bool.or_eq_true, decide_eq_true_eq, ne_eq]
  rw [SInt.val_ofNat_of_lt (by decide) (by decide), SInt.val_ofNat_of_lt (by decide) (by decide),
    SInt.val_ofNat_of_lt (by decide) (by decide), wrap_tmod_eq_zero_iff _ (by decide) (by decide),
    wrap_tmod_eq_zero_iff _ (by decide) (by decide), wrap_tmod_eq_zero_iff _ (by decide) (by decide)]
  norm_cast

private theorem dayTab_getD (b : Bool) (k : Fin 12) :
    ((dayTab.getD (if b then 1 else 0) []).getD k 0).val =
      if (k : ℤ) + 1 = 2 then (if b = true then 29 else 28)
      else if (k : ℤ) + 1 = 4 ∨ (k : ℤ) + 1 = 6 ∨ (k : ℤ) + 1 = 9 ∨ (k : ℤ) + 1 = 11 then 30 else 31 := by
  revert b k
  decide

theorem dayTabAt_eq (y m : Int32) (h1 : 1 ≤ m.val) (h12 : m.val ≤ 12) :
    (dayTabAt y m).val = daysInMonth y.val m.val := by
  have hm : (m - 1).val = m.val - 1 := by
    simp (disch := first | decide | (unfold InRange; omega)) only [SInt.val_sub,
      SInt.val_ofNat_of_lt, Nat.cast_one, wrap_eq_self]
  unfold dayTabAt daysInMonth
  rw [hm]
  simp only [← isleap_iff]
  obtain ⟨k, hk, e⟩ : ∃ k : ℕ, k < 12 ∧ m.val = k + 1 := ⟨(m.val - 1).toNat, by omega, by omega⟩
  rw [e, add_sub_cancel_right, Int.toNat_natCast]
  exact dayTab_getD (isleap y) ⟨k, hk⟩

end PgCall
