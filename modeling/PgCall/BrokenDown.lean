import PgCall.CivilTime

/-!
# Timestamps and broken-down times

`timestamp2tm` splits a timestamp into a Julian day and a time of day and takes both apart with
`j2date` and `dt2time`; `tm2timestamp` puts a broken-down time back together with `date2j` and
`time2t`. A broken-down time stands for a civil time (`PgTm.toCivil`), and `tm2timestamp`
computes its timestamp and refuses exactly the values out of range (`tm2timestamp_spec`): its
`IS_VALID_JULIAN` test is a range check on the Julian day (`isValidJulian_iff`), and its two
overflow tests catch every product and sum that leaves `int64`. What `timestamp2tm` gives is a
date of the calendar and a time of day whose value is the timestamp (`timestamp2tm_spec`), and
`timestamp2tm` takes the timestamp of such a broken-down time back to it
(`timestamp2tm_toTimestamp`).
-/

namespace PgCall

/-! ## `IS_VALID_JULIAN` -/

private theorem leapDays_bounds (y : ℤ) :
    97 * y - 1200 ≤ 400 * (y / 4 - y / 100 + y / 100 / 4) ∧
      400 * (y / 4 - y / 100 + y / 100 / 4) ≤ 97 * y + 1200 := by
  omega

theorem isValidJulian_iff {y m d : Int32} (hm : 1 ≤ m.val ∧ m.val ≤ 12) (hd : 1 ≤ d.val ∧ d.val ≤ 31) :
    IsValidJulian y m d ↔ -23 ≤ date2jInt y.val m.val d.val ∧ date2jInt y.val m.val d.val ≤ 2147483644 := by
  unfold IsValidJulian date2jInt
  dsimp only
  rcases lt_trichotomy y.val (-4713) with h | h | h
  · have := leapDays_bounds (y.val + 4800)
    have := leapDays_bounds (y.val + 4799)
    split_ifs <;> omega
  · rw [h]; split_ifs <;> omega
  rcases lt_trichotomy y.val 5874898 with h' | h' | h'
  · have := leapDays_bounds (y.val + 4800)
    have := leapDays_bounds (y.val + 4799)
    split_ifs <;> omega
  · rw [h']; split_ifs <;> omega
  · have := leapDays_bounds (y.val + 4800)
    have := leapDays_bounds (y.val + 4799)
    split_ifs <;> omega

/-! ## `tm2timestamp` -/

/-- A broken-down time whose fields are in their ranges: a month of the year, a day from 1 to 31
and a time of day. -/
structure PgTm.FieldsValid (tm : PgTm) (fsec : Int32) : Prop where
  mon : 1 ≤ tm.tmMon.val ∧ tm.tmMon.val ≤ 12
  mday : 1 ≤ tm.tmMday.val ∧ tm.tmMday.val ≤ 31
  hour : 0 ≤ tm.tmHour.val ∧ tm.tmHour.val < 24
  min : 0 ≤ tm.tmMin.val ∧ tm.tmMin.val < 60
  sec : 0 ≤ tm.tmSec.val ∧ tm.tmSec.val < 60
  fsec : 0 ≤ fsec.val ∧ fsec.val < 1000000

instance (tm : PgTm) (fsec : Int32) : Decidable (tm.FieldsValid fsec) :=
  decidable_of_iff ((1 ≤ tm.tmMon.val ∧ tm.tmMon.val ≤ 12) ∧ (1 ≤ tm.tmMday.val ∧ tm.tmMday.val ≤ 31) ∧
      (0 ≤ tm.tmHour.val ∧ tm.tmHour.val < 24) ∧ (0 ≤ tm.tmMin.val ∧ tm.tmMin.val < 60) ∧
      (0 ≤ tm.tmSec.val ∧ tm.tmSec.val < 60) ∧ (0 ≤ fsec.val ∧ fsec.val < 1000000))
    ⟨fun ⟨a, b, c, d, e, f⟩ => ⟨a, b, c, d, e, f⟩, fun ⟨a, b, c, d, e, f⟩ => ⟨a, b, c, d, e, f⟩⟩

/-- The civil time a broken-down time stands for: its date, and its time of day in
microseconds. -/
def PgTm.toCivil (tm : PgTm) (fsec : Int32) : CivilTime :=
  ⟨tm.tmYear.val, tm.tmMon.val, tm.tmMday.val,
    ((tm.tmHour.val * 60 + tm.tmMin.val) * 60 + tm.tmSec.val) * 1000000 + fsec.val⟩

theorem PgTm.toCivil_valid {tm : PgTm} {fsec : Int32} (h : tm.FieldsValid fsec)
    (hdim : tm.tmMday.val ≤ daysInMonth tm.tmYear.val tm.tmMon.val) : (tm.toCivil fsec).Valid := by
  obtain ⟨hm, hd, hh, hmi, hs, hf⟩ := h
  exact ⟨hm, ⟨hd.1, hdim⟩, by dsimp only [toCivil]; omega⟩

/-- `tm2timestamp` without a zone computes the timestamp of the civil time and refuses exactly
the results out of range: its `IS_VALID_JULIAN` test and its two overflow tests reject nothing in
range. -/
theorem tm2timestamp_spec {tm : PgTm} {fsec : Int32} (h : tm.FieldsValid fsec) :
    tm2timestamp tm fsec none =
      if TimestampInRange (tm.toCivil fsec).toTimestamp
      then some (.ofInt (tm.toCivil fsec).toTimestamp) else none := by
  obtain ⟨hm, hd, hh, hmi, hs, hf⟩ := h
  have hτ := time2t_val hh hmi hs hf
  have hjv := isValidJulian_iff (y := tm.tmYear) hm hd
  simp only [PgTm.toCivil, CivilTime.toTimestamp, timestampInRange_iff]
  by_cases hj : IsValidJulian tm.tmYear tm.tmMon tm.tmMday
  swap
  · rw [tm2timestamp, if_pos hj, if_neg]
    rw [hjv] at hj
    omega
  have hJ := hjv.1 hj
  have e := @date2j_val tm.tmYear tm.tmMon tm.tmMday (by unfold IsValidJulian at hj; omega)
    (by unfold IsValidJulian at hj; omega) hm (by omega) (by omega)
  have hdate : ((date2j tm.tmYear tm.tmMon tm.tmMday - postgresEpochJdate).resize : Int64).val =
      date2jInt tm.tmYear.val tm.tmMon.val tm.tmMday.val - 2451545 := by
    simp (disch := first | decide | omega | (unfold InRange; omega)) only [SInt.val_resize,
      SInt.val_sub, postgresEpochJdate_val, e, wrap_eq_self]
  have hτb : 0 ≤ (time2t tm.tmHour tm.tmMin tm.tmSec fsec).val ∧
      (time2t tm.tmHour tm.tmMin tm.tmSec fsec).val < 86400000000 := by omega
  simp only [tm2timestamp, hj, not_true_eq_false, if_false]
  generalize ((date2j tm.tmYear tm.tmMon tm.tmMday - postgresEpochJdate).resize : Int64) = date
    at hdate ⊢
  generalize time2t tm.tmHour tm.tmMin tm.tmSec fsec = time at hτ hτb ⊢
  generalize date2jInt tm.tmYear.val tm.tmMon.val tm.tmMday.val = J at hJ hdate ⊢
  generalize ((tm.tmHour.val * 60 + tm.tmMin.val) * 60 + tm.tmSec.val) * 1000000 + fsec.val = τ
    at hτ ⊢
  by_cases hfit : (J - 2451545) * 86400000000 + τ < 9223372036854775808
  · have hres : (date * usecsPerDay + time).val = (J - 2451545) * 86400000000 + τ := by
      rw [SInt.val_add, SInt.val_mul, usecsPerDay_val, hdate, hτ,
        @wrap_eq_self 64 ((J - 2451545) * 86400000000) (by decide) (by unfold InRange; omega),
        wrap_eq_self (by decide) (by unfold InRange; omega)]
    have hsub : ((date * usecsPerDay + time - time) / usecsPerDay).val = J - 2451545 := by
      rw [SInt.val_div, SInt.val_sub, usecsPerDay_val, hres, hτ, add_sub_cancel_right,
        @wrap_eq_self 64 ((J - 2451545) * 86400000000) (by decide) (by unfold InRange; omega),
        Int.mul_tdiv_cancel _ (by decide), wrap_eq_self (by decide) (by unfold InRange; omega)]
    have hr : date * usecsPerDay + time = .ofInt ((J - 2451545) * 86400000000 + τ) :=
      SInt.val_inj.1 (hres.trans (wrap_eq_self (by decide) (by unfold InRange; omega)).symm)
    have hv : IsValidTimestamp (date * usecsPerDay + time) ↔
        -211813488000000000 ≤ (J - 2451545) * 86400000000 + τ ∧
          (J - 2451545) * 86400000000 + τ < 9223371331200000000 := by
      unfold IsValidTimestamp; rw [hres, minTimestamp_val, endTimestamp_val]
    rw [hsub, hdate, if_neg (not_not.2 rfl), hres, if_neg (by omega)]
    by_cases hc : -211813488000000000 ≤ (J - 2451545) * 86400000000 + τ ∧
        (J - 2451545) * 86400000000 + τ < 9223371331200000000
    · rw [if_pos hc, if_neg (not_not.2 (hv.2 hc)), hr]
    · rw [if_neg hc, if_pos (mt hv.1 hc)]
  · conv_rhs => rw [if_neg (by omega)]
    by_cases hmaj : J - 2451545 ≤ 106751991
    · have hres : (date * usecsPerDay + time).val = (J - 2451545) * 86400000000 + τ - 2 ^ 64 := by
        rw [SInt.val_add, SInt.val_mul, usecsPerDay_val, hdate, hτ,
          @wrap_eq_self 64 ((J - 2451545) * 86400000000) (by decide) (by unfold InRange; omega)]
        exact wrap_eq_of_eq_add_mul (by decide) (by unfold InRange; omega) 1 (by ring)
      have hB : (date * usecsPerDay + time).val < 0 ∧ date.val > 0 ∨
          (date * usecsPerDay + time).val > 0 ∧ date.val < -1 :=
        .inl ⟨by rw [hres]; omega, by rw [hdate]; omega⟩
      rw [if_pos hB, ite_self]
    · obtain ⟨-, -, -, hq1, hq2⟩ := tdiv_usecsPerDay (date * usecsPerDay + time - time)
      have hq : ((date * usecsPerDay + time - time) / usecsPerDay).val =
          (date * usecsPerDay + time - time).val.tdiv 86400000000 := by
        rw [SInt.val_div, usecsPerDay_val, wrap_eq_self (by decide) (by unfold InRange; omega)]
      rw [if_pos (by rw [hq, hdate]; omega)]

theorem tm2timestamp_dt2time {y m d : Int32} {time : Int64} (hm : 1 ≤ m.val ∧ m.val ≤ 12)
    (hd : 1 ≤ d.val ∧ d.val ≤ 31) (ht : 0 ≤ time.val ∧ time.val < 86400000000) :
    tm2timestamp ⟨(dt2time time).2.2.1, (dt2time time).2.1, (dt2time time).1, d, m, y⟩
        (dt2time time).2.2.2 none =
      if TimestampInRange ((date2jInt y.val m.val d.val - 2451545) * 86400000000 + time.val)
      then some (.ofInt ((date2jInt y.val m.val d.val - 2451545) * 86400000000 + time.val))
      else none := by
  obtain ⟨e1, e2, e3, e4⟩ := dt2time_val ht.1 ht.2
  generalize dt2time time = hms at e1 e2 e3 e4 ⊢
  obtain ⟨hour, min, sec, fsec⟩ := hms
  dsimp only at e1 e2 e3 e4 ⊢
  have h : PgTm.FieldsValid ⟨sec, min, hour, d, m, y⟩ fsec := by
    refine ⟨hm, hd, ?_, ?_, ?_, ?_⟩ <;> dsimp only <;> omega
  have hX : (PgTm.toCivil ⟨sec, min, hour, d, m, y⟩ fsec).toTimestamp =
      (date2jInt y.val m.val d.val - 2451545) * 86400000000 + time.val := by
    simp only [PgTm.toCivil, CivilTime.toTimestamp, e1, e2, e3, e4]
    omega
  rw [tm2timestamp_spec h, hX]

theorem tm2timestamp_of_julian {jd : Int32} {time r : Int64} (hj : 0 ≤ jd.val ∧ jd.val ≤ 2147483644)
    (ht : 0 ≤ time.val ∧ time.val < 86400000000)
    (hr : r.val = (jd.val - 2451545) * 86400000000 + time.val) (hv : IsValidTimestamp r) :
    tm2timestamp ⟨(dt2time time).2.2.1, (dt2time time).2.1, (dt2time time).1,
        (j2date jd).2.2, (j2date jd).2.1, (j2date jd).1⟩ (dt2time time).2.2.2 none = some r := by
  obtain ⟨-, -, hm1, hm2, hd1, hd2⟩ := j2date_bounds hj.1
  rw [tm2timestamp_dt2time ⟨hm1, hm2⟩ ⟨hd1, hd2⟩ ht, date2jInt_j2date hj.1, ← hr,
    if_pos (isValidTimestamp_iff_inRange.1 hv)]
  exact congrArg some (SInt.val_inj.1 (wrap_eq_self (by decide) r.inRange))

/-! ## `timestamp2tm` -/

theorem timestamp2tm_eq {t : Int64} (h : minTimestamp.val ≤ t.val) :
    ∃ jd : Int32, ∃ time : Int64, jd.val = t.val / 86400000000 + 2451545 ∧
      time.val = t.val % 86400000000 ∧
      timestamp2tm t = some (⟨(dt2time time).2.2.1, (dt2time time).2.1, (dt2time time).1,
        (j2date jd).2.2, (j2date jd).2.1, (j2date jd).1⟩, (dt2time time).2.2.2) := by
  have ht := t.range
  obtain ⟨e1, e2⟩ := splitTimestamp_val t
  unfold timestamp2tm
  generalize splitTimestamp t = split at e1 e2
  obtain ⟨time, date⟩ := split
  dsimp only at e1 e2 ⊢
  have hd : (date + postgresEpochJdate.resize).val = t.val / 86400000000 + 2451545 := by
    simp (disch := first | decide | omega | (unfold InRange; omega)) only [SInt.val_add,
      SInt.val_resize, postgresEpochJdate_val, e2, wrap_eq_self]
  rw [minTimestamp_val] at h
  rw [if_neg (by rw [hd]; omega)]
  refine ⟨_, time, ?_, e1, rfl⟩
  rw [SInt.val_resize, hd, wrap_eq_self (by decide) (by unfold InRange; omega)]

/-- What `timestamp2tm` gives is a broken-down time with its fields in range and a day of its
month, whose timestamp over the integers is the timestamp it was given. -/
theorem timestamp2tm_spec {t : Int64} {tm : PgTm} {fsec : Int32}
    (e : timestamp2tm t = some (tm, fsec)) :
    tm.FieldsValid fsec ∧ tm.tmMday.val ≤ daysInMonth tm.tmYear.val tm.tmMon.val ∧
      (tm.toCivil fsec).toTimestamp = t.val := by
  have hmin := timestamp2tm_isSome_iff.1 (by rw [e]; rfl)
  obtain ⟨jd, time, hjd, htime, e0⟩ := @timestamp2tm_eq t hmin
  rw [minTimestamp_val] at hmin
  have hj0 : 0 ≤ jd.val := by omega
  have ht0 : 0 ≤ time.val ∧ time.val < 86400000000 := by omega
  obtain ⟨-, -, hm1, hm2, hd1, hd2⟩ := j2date_bounds hj0
  have hdim := j2date_mday_le hj0
  have hJ := date2jInt_j2date hj0
  obtain ⟨eh, em, es, ef⟩ := dt2time_val ht0.1 ht0.2
  rw [e] at e0
  generalize j2date jd = ymd at hm1 hm2 hd1 hd2 hdim hJ e0
  generalize dt2time time = hms at eh em es ef e0
  obtain ⟨year, mon, mday⟩ := ymd
  obtain ⟨hour, min, sec, fs⟩ := hms
  obtain ⟨rfl, rfl⟩ := Prod.mk.inj_iff.1 (Option.some.inj e0)
  dsimp only at hm1 hm2 hd1 hd2 hdim hJ eh em es ef
  refine ⟨⟨⟨hm1, hm2⟩, ⟨hd1, hd2⟩, ?_, ?_, ?_, ?_⟩, hdim, ?_⟩ <;> dsimp only
  · omega
  · omega
  · omega
  · omega
  · dsimp only [PgTm.toCivil, CivilTime.toTimestamp]
    rw [hJ, eh, em, es, ef, hjd]
    omega

theorem timestamp2tm_toCivil {t : Int64} {c : CivilTime} (ht : IsValidTimestamp t) (hc : c.Valid)
    (hct : c.toTimestamp = t.val) : ∃ tm fsec, timestamp2tm t = some (tm, fsec) ∧ tm.toCivil fsec = c := by
  obtain ⟨⟨tm, fsec⟩, e⟩ := Option.isSome_iff_exists.1 (timestamp2tm_isSome_iff.2 ht.1)
  obtain ⟨hv, hdim, hts⟩ := timestamp2tm_spec e
  exact ⟨tm, fsec, e, CivilTime.eq_of_toTimestamp_eq (PgTm.toCivil_valid hv hdim) hc (hts.trans hct.symm)
    (by rw [hts]; exact ht)⟩

theorem CivilTime.exists_of_isValidTimestamp {t : Int64} (ht : IsValidTimestamp t) :
    ∃ c : CivilTime, c.Valid ∧ c.toTimestamp = t.val := by
  obtain ⟨⟨tm, fsec⟩, e⟩ := Option.isSome_iff_exists.1 (timestamp2tm_isSome_iff.2 ht.1)
  obtain ⟨hv, hdim, hts⟩ := timestamp2tm_spec e
  exact ⟨_, PgTm.toCivil_valid hv hdim, hts⟩

theorem tm2timestamp_of_date {y m d : Int32} {time r : Int64} (hm : 1 ≤ m.val ∧ m.val ≤ 12)
    (hd : 1 ≤ d.val ∧ d.val ≤ daysInMonth y.val m.val) (ht : 0 ≤ time.val ∧ time.val < 86400000000)
    (hr : r.val = (date2jInt y.val m.val d.val - 2451545) * 86400000000 + time.val)
    (hv : IsValidTimestamp r) :
    tm2timestamp ⟨(dt2time time).2.2.1, (dt2time time).2.1, (dt2time time).1, d, m, y⟩
        (dt2time time).2.2.2 none = some r ∧
      timestamp2tm r = some (⟨(dt2time time).2.2.1, (dt2time time).2.1, (dt2time time).1, d, m, y⟩,
        (dt2time time).2.2.2) := by
  have hrv := isValidTimestamp_iff.1 hv
  have hb := daysInMonth_bounds y.val m.val
  -- a valid timestamp lies between Julian days 0 and 109203528
  have hj : 0 ≤ date2jInt y.val m.val d.val ∧ date2jInt y.val m.val d.val < 109203528 := by omega
  have hjj := j2date_date2j_of_range hm hd ⟨hj.1, by omega⟩
  have hy := year_bounds_of_date2jInt hm (by omega) ⟨hj.1, by omega⟩
  have e := @date2j_val y m d (by omega) hy.2 hm (by omega) (by omega)
  constructor
  · have h := @tm2timestamp_of_julian (date2j y m d) time r ⟨by omega, by omega⟩ ht
      (by rw [e]; exact hr) hv
    rwa [hjj] at h
  · obtain ⟨jd, time', hjd, htime, e'⟩ := @timestamp2tm_eq r (by rw [minTimestamp_val]; omega)
    have h1 : jd = date2j y m d := by rw [← SInt.val_inj, hjd, e, hr]; omega
    have h2 : time' = time := by rw [← SInt.val_inj, htime, hr]; omega
    rw [e', h1, h2, hjj]

/-- A broken-down time of the calendar whose timestamp is in range is what `timestamp2tm` gives
for that timestamp. -/
theorem timestamp2tm_toTimestamp {tm : PgTm} {fsec : Int32} (h : tm.FieldsValid fsec)
    (hdim : tm.tmMday.val ≤ daysInMonth tm.tmYear.val tm.tmMon.val)
    (hv : TimestampInRange (tm.toCivil fsec).toTimestamp) :
    timestamp2tm (.ofInt (tm.toCivil fsec).toTimestamp) = some (tm, fsec) := by
  obtain ⟨sec, min, hour, mday, mon, year⟩ := tm
  obtain ⟨hmon, hmday, hh, hm, hs, hf⟩ := h
  dsimp only at hmon hmday hh hm hs hf hdim
  rw [timestampInRange_iff] at hv
  have e := time2t_val hh hm hs hf
  have hr : (SInt.ofInt (PgTm.toCivil ⟨sec, min, hour, mday, mon, year⟩ fsec).toTimestamp : Int64).val =
      (PgTm.toCivil ⟨sec, min, hour, mday, mon, year⟩ fsec).toTimestamp :=
    wrap_eq_self (by decide) (by unfold InRange; omega)
  have h2 := (@tm2timestamp_of_date year mon mday (time2t hour min sec fsec) _ hmon ⟨hmday.1, hdim⟩
    (by omega) (by rw [hr, e]; rfl) (by rw [isValidTimestamp_iff, hr]; omega)).2
  rwa [dt2time_time2t hh hm hs hf] at h2

end PgCall
