import PgCall.TimestampIn
import PgCall.Calendar
import PgCall.BrokenDown

/-!
# Timestamp arithmetic

`pg_timestamp_pl_interval` adds the months of an interval on the calendar (clamping the day of
month), then its days through Julian day numbers, then its microseconds, refusing a result out
of range. Each step has its spec over the integers (`plMonths_spec`, `plDays_spec`), and from a
valid timestamp the whole function computes `plIntervalExact`, the arithmetic on civil times,
whenever no `int32` or `int64` step wraps (`pgTimestampPlInterval_exact`).
`pg_timestamp_mi_interval` adds the negated interval, and `pg_timestamp_mi` subtracts two
timestamps into a justified interval. Every result the first two return is in range or a
sentinel. Without months the three compose as the integers do while every timestamp met on the
way is in range: adding a difference gives back the first timestamp, subtracting an interval
undoes adding it, and adding two intervals in turn is adding their sum.

None of the three guards its last `int64` or `int32` step against wrapping, and the wrapped value
can land back in range; nor does the day step test the Julian day it reaches, and before Julian
day 0 `j2date` names a wrong date in range. The results at the end of this file are such inputs.
-/

namespace PgCall

/-- The month step of `pg_timestamp_pl_interval`. -/
def plMonths (timestamp : Int64) (month : Int32) : Except String Int64 := do
  let some (tm, fsec) := timestamp2tm timestamp | throw "timestamp out of range"
  let tm := { tm with tmMon := tm.tmMon + month }
  let tm :=
    if tm.tmMon.val > monthsPerYear.val then
      { tm with tmYear := tm.tmYear + (tm.tmMon - 1) / monthsPerYear,
                tmMon := (tm.tmMon - 1) % monthsPerYear + 1 }
    else if tm.tmMon.val < 1 then
      { tm with tmYear := tm.tmYear + (tm.tmMon / monthsPerYear - 1),
                tmMon := tm.tmMon % monthsPerYear + monthsPerYear }
    else tm
  -- adjust for end of month boundary problems
  let tm := if tm.tmMday.val > (dayTabAt tm.tmYear tm.tmMon).val
    then { tm with tmMday := dayTabAt tm.tmYear tm.tmMon } else tm
  let some timestamp := tm2timestamp tm fsec none | throw "timestamp out of range"
  pure timestamp

/-- The day step of `pg_timestamp_pl_interval`. -/
def plDays (timestamp : Int64) (day : Int32) : Except String Int64 := do
  let some (tm, fsec) := timestamp2tm timestamp | throw "timestamp out of range"
  let (year, mon, mday) := j2date (date2j tm.tmYear tm.tmMon tm.tmMday + day)
  let some timestamp := tm2timestamp { tm with tmYear := year, tmMon := mon, tmMday := mday } fsec
    none | throw "timestamp out of range"
  pure timestamp

/-- `pg_timestamp_pl_interval`. -/
def pgTimestampPlInterval (timestamp : Int64) (span : Interval) : Except String Int64 :=
  if TimestampNotFinite timestamp then pure timestamp else
    (if span.month.val ≠ 0 then plMonths timestamp span.month else pure timestamp) >>= fun timestamp =>
    (if span.day.val ≠ 0 then plDays timestamp span.day else pure timestamp) >>= fun timestamp =>
    let timestamp := timestamp + span.time
    if IsValidTimestamp timestamp then pure timestamp else throw "timestamp out of range"

/-- `pg_timestamp_mi_interval`. -/
def pgTimestampMiInterval (timestamp : Int64) (span : Interval) : Except String Int64 :=
  pgTimestampPlInterval timestamp ⟨-span.time, -span.day, -span.month⟩

/-- `pg_timestamp_mi`. -/
def pgTimestampMi (dt1 dt2 : Int64) : Except String Interval :=
  if TimestampNotFinite dt1 ∨ TimestampNotFinite dt2 then throw "cannot subtract infinite timestamps"
  else pure (pgIntervalJustifyHours ⟨dt1 - dt2, 0, 0⟩)

/-- Every timestamp `pg_timestamp_pl_interval` returns is in range, or is the sentinel it was
given. -/
theorem pgTimestampPlInterval_valid {t r : Int64} {span : Interval}
    (h : pgTimestampPlInterval t span = .ok r) : (TimestampNotFinite t ∧ r = t) ∨ IsValidTimestamp r := by
  unfold pgTimestampPlInterval at h
  by_cases hf : TimestampNotFinite t
  · rw [if_pos hf] at h
    exact .inl ⟨hf, (Except.ok.inj h).symm⟩
  · rw [if_neg hf] at h
    obtain ⟨_, -, h⟩ := bind_eq_ok.1 h
    obtain ⟨_, -, h⟩ := bind_eq_ok.1 h
    dsimp only at h
    split_ifs at h with hv
    exact .inr ((Except.ok.inj h) ▸ hv)

theorem pgTimestampMiInterval_valid {t r : Int64} {span : Interval}
    (h : pgTimestampMiInterval t span = .ok r) : (TimestampNotFinite t ∧ r = t) ∨ IsValidTimestamp r :=
  pgTimestampPlInterval_valid h

/-- For two finite timestamps whose difference fits in `int64`, `pg_timestamp_mi` returns the
difference as a justified interval of no months. -/
theorem pgTimestampMi_spec {dt1 dt2 : Int64} (h1 : ¬TimestampNotFinite dt1)
    (h2 : ¬TimestampNotFinite dt2) (h : InRange 64 (dt1.val - dt2.val)) :
    ∃ r, pgTimestampMi dt1 dt2 = .ok r ∧ r.month.val = 0 ∧ r.IsJustified ∧
      r.day.val * 86400000000 + r.time.val = dt1.val - dt2.val := by
  have hd : (dt1 - dt2).val = dt1.val - dt2.val := wrap_eq_self (by decide) h
  obtain ⟨-, -, -, hq1, hq2⟩ := tdiv_usecsPerDay (dt1 - dt2)
  obtain ⟨hm, hj, hl⟩ := pgIntervalJustifyHours_spec ⟨dt1 - dt2, 0, 0⟩
    (by simp (disch := decide) only [SInt.val_ofNat_of_lt]; unfold InRange; omega)
  refine ⟨_, if_neg (by tauto), by rw [hm]; rfl, hj, ?_⟩
  rw [hl, ← hd]
  simp

/-- Swapping the two timestamps of `pg_timestamp_mi` negates every field of the interval it
returns, while both differences fit `int64`: the justified interval of a value is unique, and the
negation of a justified interval is justified. -/
theorem pgTimestampMi_swap {dt1 dt2 : Int64} (h1 : ¬TimestampNotFinite dt1)
    (h2 : ¬TimestampNotFinite dt2) (h : InRange 64 (dt1.val - dt2.val))
    (h' : InRange 64 (dt2.val - dt1.val)) :
    ∃ r, pgTimestampMi dt1 dt2 = .ok r ∧ pgTimestampMi dt2 dt1 = .ok ⟨-r.time, -r.day, -r.month⟩ := by
  obtain ⟨r, e, hm, ⟨j1, j2, j3, j4⟩, hl⟩ := pgTimestampMi_spec h1 h2 h
  obtain ⟨r', e', hm', hj', hl'⟩ := pgTimestampMi_spec h2 h1 h'
  have := r.day.range
  unfold InRange at h
  have nt : (-r.time).val = -r.time.val := wrap_eq_self (by decide) (by unfold InRange; omega)
  have nd : (-r.day).val = -r.day.val := wrap_eq_self (by decide) (by unfold InRange; omega)
  have nm : (-r.month).val = 0 := by rw [SInt.val_neg, hm]; rfl
  refine ⟨r, e, e'.trans (congrArg _ (hj'.eq ⟨?_, ?_, ?_, ?_⟩ (SInt.val_inj.1 ?_) ?_))⟩ <;>
    dsimp only <;> omega

/-- A day and an hour apart, in either order. -/
theorem pgTimestampMi_swap_day_and_hour :
    ¬TimestampNotFinite 90000000000 ∧ ¬TimestampNotFinite 0 ∧
      InRange 64 ((90000000000 : Int64).val - (0 : Int64).val) ∧
      InRange 64 ((0 : Int64).val - (90000000000 : Int64).val) ∧
      pgTimestampMi 90000000000 0 = .ok ⟨3600000000, 1, 0⟩ ∧
      ∃ r, pgTimestampMi 90000000000 0 = .ok r ∧ pgTimestampMi 0 90000000000 = .ok ⟨-r.time, -r.day, -r.month⟩ :=
  ⟨by decide, by decide, by decide, by decide, rfl,
    pgTimestampMi_swap (by decide) (by decide) (by decide) (by decide)⟩

/-! ## The month step -/

/-- Lines 602-611 of `pg_timestamp_pl_interval`: with the months added, `tm_mon` is brought back
into 1..12 and the whole years it held are carried into `tm_year`, with C's truncating `/` and `%`. -/
def normalizeMonth (tm : PgTm) : PgTm :=
  if tm.tmMon.val > monthsPerYear.val then
    { tm with tmYear := tm.tmYear + (tm.tmMon - 1) / monthsPerYear,
              tmMon := (tm.tmMon - 1) % monthsPerYear + 1 }
  else if tm.tmMon.val < 1 then
    { tm with tmYear := tm.tmYear + (tm.tmMon / monthsPerYear - 1),
              tmMon := tm.tmMon % monthsPerYear + monthsPerYear }
  else tm

/-- Lines 614-615: a day past the end of its month becomes the last day of the month. -/
def clampMday (tm : PgTm) : PgTm :=
  if tm.tmMday.val > (dayTabAt tm.tmYear tm.tmMon).val
  then { tm with tmMday := dayTabAt tm.tmYear tm.tmMon } else tm

theorem plMonths_eq (timestamp : Int64) (month : Int32) :
    plMonths timestamp month = (do
      let some (tm, fsec) := timestamp2tm timestamp | throw "timestamp out of range"
      let some timestamp :=
        tm2timestamp (clampMday (normalizeMonth { tm with tmMon := tm.tmMon + month })) fsec none
        | throw "timestamp out of range"
      pure timestamp) := rfl

theorem normalizeMonth_spec {tm : PgTm} (hy : -4800 ≤ tm.tmYear.val ∧ tm.tmYear.val < 5875012) :
    1 ≤ (normalizeMonth tm).tmMon.val ∧ (normalizeMonth tm).tmMon.val ≤ 12 ∧
      12 * (normalizeMonth tm).tmYear.val + (normalizeMonth tm).tmMon.val =
        12 * tm.tmYear.val + tm.tmMon.val ∧
      (normalizeMonth tm).tmMday = tm.tmMday := by
  have hM := tm.tmMon.range
  have h12 : monthsPerYear.val = 12 := rfl
  unfold normalizeMonth
  simp only [h12]
  split_ifs with h1 h2
  · have hq : (tm.tmMon.val - 1).tdiv 12 = (tm.tmMon.val - 1) / 12 :=
      Int.tdiv_eq_ediv (by omega) (by decide)
    have hr : (tm.tmMon.val - 1).tmod 12 = (tm.tmMon.val - 1) % 12 :=
      Int.tmod_eq_emod (by omega) (by decide)
    simp (disch := first | decide | omega | (unfold InRange; omega)) only [SInt.val_add,
      SInt.val_sub, SInt.val_div, SInt.val_mod, SInt.val_ofNat_of_lt, Nat.cast_one, h12,
      wrap_eq_self, hq, hr, and_true]
    omega
  · have hq : tm.tmMon.val.tdiv 12 = -((-tm.tmMon.val) / 12) := by
      rw [tdiv_of_pos _ (by decide)]; split_ifs <;> omega
    have hr : tm.tmMon.val.tmod 12 = tm.tmMon.val + 12 * ((-tm.tmMon.val) / 12) := by
      rw [Int.tmod_def, hq]; ring
    simp (disch := first | decide | omega | (unfold InRange; omega)) only [SInt.val_add,
      SInt.val_sub, SInt.val_div, SInt.val_mod, SInt.val_ofNat_of_lt, Nat.cast_one, h12,
      wrap_eq_self, hq, hr, and_true]
    omega
  · exact ⟨by omega, by omega, rfl, rfl⟩

theorem clampMday_spec {tm : PgTm} (hm : 1 ≤ tm.tmMon.val ∧ tm.tmMon.val ≤ 12) (hd : 1 ≤ tm.tmMday.val) :
    (clampMday tm).tmYear = tm.tmYear ∧ (clampMday tm).tmMon = tm.tmMon ∧
      1 ≤ (clampMday tm).tmMday.val ∧ (clampMday tm).tmMday.val ≤ daysInMonth tm.tmYear.val tm.tmMon.val := by
  have e := dayTabAt_eq tm.tmYear tm.tmMon hm.1 hm.2
  have hb := daysInMonth_bounds tm.tmYear.val tm.tmMon.val
  unfold clampMday
  split_ifs with hc
  · exact ⟨rfl, rfl, by dsimp only; omega, by dsimp only; omega⟩
  · exact ⟨rfl, rfl, hd, by omega⟩

/-- The month step on a broken-down time `timestamp2tm` returns, whatever value `M` `tm_mon` holds
once the months are added: `normalizeMonth` leaves a month of the year and keeps the absolute
month count `12 * tm_year + tm_mon` between integer values, so `tm_year` does not wrap; the index
into `day_tab` is in bounds, and `clampMday` leaves a day of that month of that year. -/
theorem normalizeMonth_clampMday_valid {t : Int64} {tm : PgTm} {fsec : Int32}
    (h : timestamp2tm t = some (tm, fsec)) (M : Int32) :
    let tm' := normalizeMonth { tm with tmMon := M }
    1 ≤ tm'.tmMon.val ∧ tm'.tmMon.val ≤ 12 ∧
      12 * tm'.tmYear.val + tm'.tmMon.val = 12 * tm.tmYear.val + M.val ∧
      0 ≤ (tm'.tmMon - 1).val ∧
      (tm'.tmMon - 1).val < (dayTab.getD (if isleap tm'.tmYear then 1 else 0) []).length ∧
      (clampMday tm').tmYear = tm'.tmYear ∧ (clampMday tm').tmMon = tm'.tmMon ∧
      1 ≤ (clampMday tm').tmMday.val ∧
      (clampMday tm').tmMday.val ≤ daysInMonth tm'.tmYear.val tm'.tmMon.val := by
  obtain ⟨hy1, hy2, -, -, hd1, -⟩ := timestamp2tm_bounds h
  obtain ⟨hm1, hm2, hcount, hmday⟩ := @normalizeMonth_spec { tm with tmMon := M } ⟨hy1, hy2⟩
  dsimp only
  generalize normalizeMonth { tm with tmMon := M } = tm' at *
  have hi : (tm'.tmMon - 1).val = tm'.tmMon.val - 1 := by
    simp (disch := first | decide | (unfold InRange; omega)) only [SInt.val_sub,
      SInt.val_ofNat_of_lt, Nat.cast_one, wrap_eq_self]
  rw [dayTab_row_length, hi]
  exact ⟨hm1, hm2, hcount, by omega, by omega, clampMday_spec ⟨hm1, hm2⟩ (hmday ▸ hd1)⟩

theorem normalizeMonth_clampMday_valid_at_2000 :
    timestamp2tm 0 = some (⟨0, 0, 0, 1, 1, 2000⟩, 0) ∧
      let tm' := normalizeMonth { (⟨0, 0, 0, 1, 1, 2000⟩ : PgTm) with tmMon := -12 }
      1 ≤ tm'.tmMon.val ∧ tm'.tmMon.val ≤ 12 ∧
        12 * tm'.tmYear.val + tm'.tmMon.val = 12 * (2000 : Int32).val + (-12 : Int32).val ∧
        0 ≤ (tm'.tmMon - 1).val ∧
        (tm'.tmMon - 1).val < (dayTab.getD (if isleap tm'.tmYear then 1 else 0) []).length ∧
        (clampMday tm').tmYear = tm'.tmYear ∧ (clampMday tm').tmMon = tm'.tmMon ∧
        1 ≤ (clampMday tm').tmMday.val ∧
        (clampMday tm').tmMday.val ≤ daysInMonth tm'.tmYear.val tm'.tmMon.val :=
  ⟨by decide, @normalizeMonth_clampMday_valid 0 _ 0 (by decide) (-12)⟩

/-- One month back from January 2000 is December 1999: `tm_mon` holds 0, a multiple of 12. -/
example : (normalizeMonth { (⟨0, 0, 0, 1, 1, 2000⟩ : PgTm) with tmMon := 1 + (-1) }).tmYear = 1999 ∧
    (normalizeMonth { (⟨0, 0, 0, 1, 1, 2000⟩ : PgTm) with tmMon := 1 + (-1) }).tmMon = 12 := by
  decide

private theorem clampMday_mday {tm : PgTm} (hm : 1 ≤ tm.tmMon.val ∧ tm.tmMon.val ≤ 12) :
    (clampMday tm).tmMday.val = min tm.tmMday.val (daysInMonth tm.tmYear.val tm.tmMon.val) := by
  have e := dayTabAt_eq tm.tmYear tm.tmMon hm.1 hm.2
  unfold clampMday
  split_ifs with hc
  · dsimp only; omega
  · omega

private theorem clampMday_normalizeMonth_time (tm : PgTm) :
    clampMday (normalizeMonth tm) = ⟨tm.tmSec, tm.tmMin, tm.tmHour,
      (clampMday (normalizeMonth tm)).tmMday, (clampMday (normalizeMonth tm)).tmMon,
      (clampMday (normalizeMonth tm)).tmYear⟩ := by
  unfold clampMday normalizeMonth; split_ifs <;> rfl

theorem clampMday_normalizeMonth_toCivil {t : Int64} {tm : PgTm} {fsec month : Int32}
    (e : timestamp2tm t = some (tm, fsec)) (hmonth : month.val ≤ 2147483635) :
    (clampMday (normalizeMonth { tm with tmMon := tm.tmMon + month })).FieldsValid fsec ∧
      (clampMday (normalizeMonth { tm with tmMon := tm.tmMon + month })).toCivil fsec =
        (tm.toCivil fsec).addMonths month.val := by
  obtain ⟨⟨hm, hd, hh, hmi, hs, hf⟩, -, -⟩ := timestamp2tm_spec e
  obtain ⟨hy1, hy2, -⟩ := timestamp2tm_bounds e
  have hM : (tm.tmMon + month).val = tm.tmMon.val + month.val := by
    have := month.range
    rw [SInt.val_add, wrap_eq_self (by decide) (by unfold InRange; omega)]
  obtain ⟨hm1, hm2, hcount, hmday⟩ := @normalizeMonth_spec { tm with tmMon := tm.tmMon + month } ⟨hy1, hy2⟩
  have hclamp := @clampMday_mday (normalizeMonth { tm with tmMon := tm.tmMon + month }) ⟨hm1, hm2⟩
  obtain ⟨hcy, hcm, hc1, hc2⟩ := @clampMday_spec (normalizeMonth { tm with tmMon := tm.tmMon + month })
    ⟨hm1, hm2⟩ (by rw [hmday]; exact hd.1)
  have htime := clampMday_normalizeMonth_time { tm with tmMon := tm.tmMon + month }
  dsimp only at hcount hmday htime hM
  rw [hmday] at hclamp
  rw [hM] at hcount
  have hb := daysInMonth_bounds (normalizeMonth { tm with tmMon := tm.tmMon + month }).tmYear.val
    (normalizeMonth { tm with tmMon := tm.tmMon + month }).tmMon.val
  rw [htime]
  generalize normalizeMonth { tm with tmMon := tm.tmMon + month } = tm'' at *
  generalize clampMday tm'' = tm' at *
  refine ⟨⟨by dsimp only; rw [hcm]; exact ⟨hm1, hm2⟩, by dsimp only; omega, hh, hmi, hs, hf⟩, ?_⟩
  have hy : (12 * tm.tmYear.val + (tm.tmMon.val - 1) + month.val) / 12 = tm''.tmYear.val := by omega
  have hmo : (12 * tm.tmYear.val + (tm.tmMon.val - 1) + month.val) % 12 + 1 = tm''.tmMon.val := by omega
  simp only [PgTm.toCivil, CivilTime.addMonths, hy, hmo, hcy, hcm, hclamp]

/-- `plMonths` on a broken-down time `timestamp2tm` returns, with `tm2timestamp` kept abstract
while the match is reduced (as in `plDays_eq`). -/
theorem plMonths_eq_of {t : Int64} {month : Int32} {tm : PgTm} {fsec : Int32}
    (e : timestamp2tm t = some (tm, fsec)) :
    plMonths t month =
      match tm2timestamp (clampMday (normalizeMonth { tm with tmMon := tm.tmMon + month })) fsec none with
      | some timestamp => pure timestamp
      | _ => throw "timestamp out of range" := by
  rewrite [plMonths_eq, e]
  generalize tm2timestamp = T
  revert T
  exact id fun T => rfl

/-- The month step from a broken-down time `timestamp2tm` gives, while `tm_mon + month` does not
wrap: the timestamp of the civil time `month` months later, refused exactly when it is out of
range. -/
theorem plMonths_spec {t : Int64} {tm : PgTm} {fsec month : Int32}
    (e : timestamp2tm t = some (tm, fsec)) (hmonth : month.val ≤ 2147483635) :
    plMonths t month =
      if TimestampInRange ((tm.toCivil fsec).addMonths month.val).toTimestamp
      then .ok (.ofInt ((tm.toCivil fsec).addMonths month.val).toTimestamp)
      else .error "timestamp out of range" := by
  obtain ⟨hv, hc⟩ := clampMday_normalizeMonth_toCivil e hmonth
  rewrite [plMonths_eq_of e, tm2timestamp_spec hv, hc]
  split_ifs <;> rfl


/-! ## The day step -/

/-- `plDays` on a broken-down time `timestamp2tm` returns. The calendar routines are kept abstract
while the matches of `plDays` are reduced: reducing the match on `j2date` in place makes the kernel
evaluate `j2date`. -/
theorem plDays_eq {t : Int64} {day sec min hour mday mon year fsec : Int32}
    (e : timestamp2tm t = some (⟨sec, min, hour, mday, mon, year⟩, fsec)) :
    plDays t day =
      match tm2timestamp ⟨sec, min, hour, (j2date (date2j year mon mday + day)).2.2,
          (j2date (date2j year mon mday + day)).2.1, (j2date (date2j year mon mday + day)).1⟩
          fsec none with
      | some timestamp => pure timestamp
      | _ => throw "timestamp out of range" := by
  unfold plDays
  rewrite [e]
  generalize j2date = J
  generalize date2j = D
  generalize tm2timestamp = T
  revert J D T
  exact id fun J D T => rfl

/-- The day step is exact: from a valid timestamp, whenever the timestamp `day` days later is
valid, `plDays` returns it. The date goes through `date2j` and back through `j2date`, and the
time of day through `dt2time` and back through `time2t`, without loss. -/
theorem plDays_exact {t r : Int64} {day : Int32} (ht : IsValidTimestamp t)
    (hr : r.val = t.val + day.val * 86400000000) (hv : IsValidTimestamp r) :
    plDays t day = .ok r := by
  have htv := isValidTimestamp_iff.1 ht
  have hrv := isValidTimestamp_iff.1 hv
  obtain ⟨jd, time, hjd, htime, e⟩ := @timestamp2tm_eq t (by rw [minTimestamp_val]; omega)
  have hday : (jd + day).val = jd.val + day.val := by
    have := day.range
    rw [SInt.val_add, wrap_eq_self (by decide) (by unfold InRange; omega)]
  rewrite [plDays_eq e, date2j_j2date (by omega : 0 ≤ jd.val),
    tm2timestamp_of_julian (by omega) (by omega) (by omega) hv]
  rfl

/-- The day step from a valid timestamp, while the Julian day it reaches is a non-negative `int`:
the timestamp `day` days later, refused exactly when it is out of range. -/
theorem plDays_spec {t : Int64} {day : Int32} (ht : IsValidTimestamp t)
    (hj : 0 ≤ julianOfTimestamp t.val + day.val ∧ julianOfTimestamp t.val + day.val < 2147483648) :
    plDays t day =
      if TimestampInRange (t.val + day.val * 86400000000)
      then .ok (.ofInt (t.val + day.val * 86400000000)) else .error "timestamp out of range" := by
  have htv := isValidTimestamp_iff.1 ht
  obtain ⟨jd, time, hjd, htime, e⟩ := @timestamp2tm_eq t (by rw [minTimestamp_val]; omega)
  unfold julianOfTimestamp at hj
  have hday : (jd + day).val = jd.val + day.val := by
    have := day.range
    rw [SInt.val_add, wrap_eq_self (by decide) (by unfold InRange; omega)]
  obtain ⟨-, -, hm1, hm2, hd1, hd2⟩ := j2date_bounds (by omega : 0 ≤ (jd + day).val)
  have hX : (date2jInt (j2date (jd + day)).1.val (j2date (jd + day)).2.1.val (j2date (jd + day)).2.2.val -
      2451545) * 86400000000 + time.val = t.val + day.val * 86400000000 := by
    rw [date2jInt_j2date (by omega), hday]
    omega
  rewrite [plDays_eq e, date2j_j2date (by omega : 0 ≤ jd.val),
    tm2timestamp_dt2time ⟨hm1, hm2⟩ ⟨hd1, hd2⟩ (by omega), hX]
  split_ifs <;> rfl

theorem pgTimestampPlInterval_of_days {t : Int64} {span : Interval} (ht : IsValidTimestamp t)
    (hm : span.month.val = 0) (hd : TimestampInRange (t.val + span.day.val * 86400000000)) :
    pgTimestampPlInterval t span =
      if IsValidTimestamp (.ofInt (t.val + span.day.val * 86400000000) + span.time)
      then .ok (.ofInt (t.val + span.day.val * 86400000000) + span.time)
      else .error "timestamp out of range" := by
  have hr : (SInt.ofInt (t.val + span.day.val * 86400000000) : Int64).val =
      t.val + span.day.val * 86400000000 :=
    wrap_eq_self (by decide) (by rw [timestampInRange_iff] at hd; unfold InRange; omega)
  have hdays : (if span.day.val ≠ 0 then plDays t span.day else pure t) =
      pure (SInt.ofInt (t.val + span.day.val * 86400000000)) := by
    split_ifs with h0
    · exact plDays_exact ht hr (by rwa [isValidTimestamp_iff_inRange, hr])
    · rw [SInt.val_inj.1 (hr.trans (by rw [not_not.1 h0]; ring) : _ = t.val)]
  unfold pgTimestampPlInterval
  simp only [if_neg ht.finite, hm, ne_eq, not_true_eq_false, if_false, pure_bind, hdays]
  rfl

theorem pgTimestampPlInterval_days {t : Int64} {span : Interval} (ht : IsValidTimestamp t)
    (hm : span.month.val = 0) (hd : TimestampInRange (t.val + span.day.val * 86400000000))
    (h : InRange 64 (t.val + span.day.val * 86400000000 + span.time.val)) :
    pgTimestampPlInterval t span =
      if TimestampInRange (t.val + span.day.val * 86400000000 + span.time.val)
      then .ok (.ofInt (t.val + span.day.val * 86400000000 + span.time.val))
      else .error "timestamp out of range" := by
  have hsum : SInt.ofInt (t.val + span.day.val * 86400000000) + span.time =
      SInt.ofInt (t.val + span.day.val * 86400000000 + span.time.val) := by
    rw [← SInt.val_inj, SInt.val_add, SInt.val_ofInt, SInt.val_ofInt, add_comm (wrap 64 _),
      wrap_add_wrap, add_comm span.time.val]
  rw [pgTimestampPlInterval_of_days ht hm hd, hsum]
  simp only [isValidTimestamp_iff_inRange, SInt.val_ofInt, wrap_eq_self (by decide : 0 < 64) h]

/-! ## The whole computation -/

private theorem plMonthsStep_eq {t : Int64} {c : CivilTime} {month : Int32} (ht : IsValidTimestamp t)
    (hc : c.Valid) (hct : c.toTimestamp = t.val) (hmonth : month.val ≤ 2147483635) :
    (if month.val ≠ 0 then plMonths t month else pure t) =
      if TimestampInRange (plMonthsExact c month.val) then pure (.ofInt (plMonthsExact c month.val))
      else throw "timestamp out of range" := by
  unfold plMonthsExact
  by_cases h0 : month.val = 0
  · simp only [h0, ne_eq, not_true_eq_false, if_false, hct, if_pos (isValidTimestamp_iff_inRange.1 ht)]
    exact congrArg pure (SInt.val_inj.1 (wrap_eq_self (by decide) t.inRange)).symm
  · obtain ⟨tm, fsec, e, rfl⟩ := timestamp2tm_toCivil ht hc hct
    rw [if_pos h0, if_pos h0, plMonths_spec e hmonth]
    rfl

private theorem plDaysStep_eq {r : Int64} {day : Int32} (hr : IsValidTimestamp r)
    (hj : 0 ≤ julianOfTimestamp r.val + day.val ∧ julianOfTimestamp r.val + day.val < 2147483648) :
    (if day.val ≠ 0 then plDays r day else pure r) =
      if TimestampInRange (plDaysExact r.val day.val) then pure (.ofInt (plDaysExact r.val day.val))
      else throw "timestamp out of range" := by
  unfold plDaysExact
  by_cases h0 : day.val = 0
  · simp only [h0, ne_eq, not_true_eq_false, if_false, if_pos (isValidTimestamp_iff_inRange.1 hr)]
    exact congrArg pure (SInt.val_inj.1 (wrap_eq_self (by decide) r.inRange)).symm
  · rw [if_pos h0, if_pos h0, plDays_spec hr hj]
    rfl

/-- From a valid timestamp of civil time `c`, `pg_timestamp_pl_interval` computes
`plIntervalExact`, the months on the calendar, then the days, then the microseconds over the
integers, failing exactly when the result or an intermediate result is out of range, provided
no step wraps: `tm_mon + month` fits `int`, the Julian day the day step reaches is a
non-negative `int`, and the last sum fits `int64`. -/
theorem pgTimestampPlInterval_exact {t : Int64} {span : Interval} {c : CivilTime}
    (ht : IsValidTimestamp t) (hc : c.Valid) (hct : c.toTimestamp = t.val)
    (hmonth : span.month.val ≤ 2147483635)
    (hday : TimestampInRange (plMonthsExact c span.month.val) →
      0 ≤ julianOfTimestamp (plMonthsExact c span.month.val) + span.day.val ∧
        julianOfTimestamp (plMonthsExact c span.month.val) + span.day.val < 2147483648)
    (htime : TimestampInRange (plDaysExact (plMonthsExact c span.month.val) span.day.val) →
      InRange 64 (plDaysExact (plMonthsExact c span.month.val) span.day.val + span.time.val)) :
    pgTimestampPlInterval t span =
      match plIntervalExact c span.month.val span.day.val span.time.val with
      | some r => .ok (.ofInt r)
      | none => .error "timestamp out of range" := by
  unfold pgTimestampPlInterval plIntervalExact
  dsimp only
  rw [if_neg ht.finite, plMonthsStep_eq ht hc hct hmonth]
  generalize plMonthsExact c span.month.val = r1 at hday htime ⊢
  by_cases h1 : TimestampInRange r1
  swap
  · rw [if_neg h1, if_neg (fun h => h1 h.1)]
    rfl
  have hr1 : (SInt.ofInt r1 : Int64).val = r1 := wrap_eq_self (by decide) (by
    rw [timestampInRange_iff] at h1; unfold InRange; omega)
  have := @plDaysStep_eq (.ofInt r1) span.day (by rwa [isValidTimestamp_iff_inRange, hr1])
    (by rw [hr1]; exact hday h1)
  rw [if_pos h1, pure_bind, this, hr1]
  generalize plDaysExact r1 span.day.val = r2 at htime ⊢
  by_cases h2 : TimestampInRange r2
  swap
  · rw [if_neg h2, if_neg (fun h => h2 h.2.1)]
    rfl
  have hr2 : (SInt.ofInt r2 : Int64).val = r2 := wrap_eq_self (by decide) (by
    rw [timestampInRange_iff] at h2; unfold InRange; omega)
  have hr3 : SInt.ofInt r2 + span.time = .ofInt (r2 + span.time.val) := by
    rw [← SInt.val_inj, SInt.val_add, hr2, SInt.val_ofInt]
  rw [if_pos h2, pure_bind, hr3]
  simp only [isValidTimestamp_iff_inRange, SInt.val_ofInt, wrap_eq_self (by decide : 0 < 64) (htime h2)]
  by_cases h3 : TimestampInRange (r2 + span.time.val)
  · rw [if_pos h3, if_pos ⟨h1, h2, h3⟩]
    rfl
  · rw [if_neg h3, if_neg (fun h => h3 h.2.2)]
    rfl

/-- One month after 2000-01-31 is the leap day 2000-02-29: the day of month is clamped. -/
theorem pgTimestampPlInterval_exact_jan31 :
    IsValidTimestamp 2592000000000 ∧ (⟨2000, 1, 31, 0⟩ : CivilTime).Valid ∧
      (⟨2000, 1, 31, 0⟩ : CivilTime).toTimestamp = (2592000000000 : Int64).val ∧
      (⟨0, 0, 1⟩ : Interval).month.val ≤ 2147483635 ∧
      (TimestampInRange (plMonthsExact ⟨2000, 1, 31, 0⟩ 1) →
        0 ≤ julianOfTimestamp (plMonthsExact ⟨2000, 1, 31, 0⟩ 1) + 0 ∧
          julianOfTimestamp (plMonthsExact ⟨2000, 1, 31, 0⟩ 1) + 0 < 2147483648) ∧
      (TimestampInRange (plDaysExact (plMonthsExact ⟨2000, 1, 31, 0⟩ 1) 0) →
        InRange 64 (plDaysExact (plMonthsExact ⟨2000, 1, 31, 0⟩ 1) 0 + 0)) ∧
      plIntervalExact ⟨2000, 1, 31, 0⟩ 1 0 0 = some 5097600000000 ∧
      pgTimestampPlInterval 2592000000000 ⟨0, 0, 1⟩ =
        match plIntervalExact ⟨2000, 1, 31, 0⟩ (⟨0, 0, 1⟩ : Interval).month.val
          (⟨0, 0, 1⟩ : Interval).day.val (⟨0, 0, 1⟩ : Interval).time.val with
        | some r => .ok (.ofInt r)
        | none => .error "timestamp out of range" :=
  ⟨by decide, by decide, by decide, by decide, by decide, by decide, by decide,
    @pgTimestampPlInterval_exact 2592000000000 ⟨0, 0, 1⟩ ⟨2000, 1, 31, 0⟩ (by decide) (by decide)
      (by decide) (by decide) (by decide) (by decide)⟩

/-! ## Composing the operations

Without months, the interval arithmetic is exact on timestamps, and its operations compose as
the integers do, provided every timestamp met on the way is in range. -/

/-- Adding to `dt2` the interval `pg_timestamp_mi` returns for `dt1 - dt2` gives back `dt1`, for
any two valid timestamps whose difference fits `int64`: the justified days reach a timestamp
between the two, and the time of day covers the rest. -/
theorem pgTimestampPlInterval_pgTimestampMi {dt1 dt2 : Int64} (h1 : IsValidTimestamp dt1)
    (h2 : IsValidTimestamp dt2) (h : InRange 64 (dt1.val - dt2.val)) :
    ∃ span, pgTimestampMi dt1 dt2 = .ok span ∧ pgTimestampPlInterval dt2 span = .ok dt1 := by
  obtain ⟨span, hmi, hm, ⟨-, -, hj1, hj2⟩, hl⟩ := pgTimestampMi_spec h1.finite h2.finite h
  refine ⟨span, hmi, ?_⟩
  have e : dt2.val + span.day.val * 86400000000 + span.time.val = dt1.val := by omega
  have hv1 := isValidTimestamp_iff.1 h1
  have hv2 := isValidTimestamp_iff.1 h2
  rw [pgTimestampPlInterval_days h2 hm (by rw [timestampInRange_iff]; omega) (e ▸ dt1.inRange), e,
    if_pos (isValidTimestamp_iff_inRange.1 h1)]
  exact congrArg _ (SInt.val_inj.1 (wrap_eq_self (by decide) dt1.inRange : (SInt.ofInt dt1.val : Int64).val = dt1.val))

/-- Noon on 2000-03-01 less midnight on 2000-01-31, added back. -/
theorem pgTimestampPlInterval_pgTimestampMi_across_leap_day :
    IsValidTimestamp 5227200000000 ∧ IsValidTimestamp 2592000000000 ∧
      InRange 64 ((5227200000000 : Int64).val - (2592000000000 : Int64).val) ∧
      ∃ span, pgTimestampMi 5227200000000 2592000000000 = .ok span ∧
        pgTimestampPlInterval 2592000000000 span = .ok 5227200000000 :=
  ⟨by decide, by decide, by decide,
    pgTimestampPlInterval_pgTimestampMi (by decide) (by decide) (by decide)⟩

/-- For an interval without months, `pg_timestamp_mi_interval` undoes `pg_timestamp_pl_interval`
whenever the timestamps met on the way there (`span.day` days on) and on the way back
(`span.time` on) are in range. The negation of `span.time` may wrap, but only by `2 ^ 64`, which
the `int64` sum takes off again. -/
theorem pgTimestampMiInterval_pgTimestampPlInterval {t : Int64} {span : Interval}
    (ht : IsValidTimestamp t) (hm : span.month.val = 0)
    (hd : TimestampInRange (t.val + span.day.val * 86400000000))
    (hu : TimestampInRange (t.val + span.time.val))
    (hr : TimestampInRange (t.val + span.day.val * 86400000000 + span.time.val)) :
    ∃ r, pgTimestampPlInterval t span = .ok r ∧ pgTimestampMiInterval r span = .ok t := by
  have := span.day.range
  have htv := isValidTimestamp_iff.1 ht
  rw [timestampInRange_iff] at hd hu hr
  have er : (SInt.ofInt (t.val + span.day.val * 86400000000) + span.time : Int64).val =
      t.val + span.day.val * 86400000000 + span.time.val := by
    simp (disch := first | decide | (unfold InRange; omega)) only [SInt.val_add, SInt.val_ofInt,
      wrap_eq_self]
  have hr' : IsValidTimestamp (.ofInt (t.val + span.day.val * 86400000000) + span.time) := by
    rw [isValidTimestamp_iff, er]; omega
  refine ⟨_, by rw [pgTimestampPlInterval_of_days ht hm hd, if_pos hr'], ?_⟩
  -- the way back: `-span` has no months and exactly `-span.day` days
  have hnm : (-span.month).val = 0 := by rw [SInt.val_neg, hm]; rfl
  have hnd : (-span.day).val = -span.day.val := wrap_eq_self (by decide) (by unfold InRange; omega)
  have eb : (SInt.ofInt ((SInt.ofInt (t.val + span.day.val * 86400000000) + span.time).val +
      (-span.day).val * 86400000000) + -span.time : Int64) = t := by
    rw [← SInt.val_inj, SInt.val_add, SInt.val_ofInt, er, hnd,
      show t.val + span.day.val * 86400000000 + span.time.val + -span.day.val * 86400000000 =
        t.val + span.time.val by ring,
      wrap_eq_self (x := t.val + span.time.val) (by decide) (by unfold InRange; omega), SInt.val_neg,
      wrap_add_wrap, add_neg_cancel_right, wrap_eq_self (by decide) t.inRange]
  unfold pgTimestampMiInterval
  rw [pgTimestampPlInterval_of_days hr' hnm (by rw [timestampInRange_iff, hnd, er]; omega), eb, if_pos ht]

/-- One day and one hour after midnight on 2000-02-28, and back. -/
theorem pgTimestampMiInterval_pgTimestampPlInterval_at_feb28 :
    IsValidTimestamp 5011200000000 ∧ (⟨3600000000, 1, 0⟩ : Interval).month.val = 0 ∧
      TimestampInRange ((5011200000000 : Int64).val + (⟨3600000000, 1, 0⟩ : Interval).day.val * 86400000000) ∧
      TimestampInRange ((5011200000000 : Int64).val + (⟨3600000000, 1, 0⟩ : Interval).time.val) ∧
      TimestampInRange ((5011200000000 : Int64).val +
        (⟨3600000000, 1, 0⟩ : Interval).day.val * 86400000000 + (⟨3600000000, 1, 0⟩ : Interval).time.val) ∧
      ∃ r, pgTimestampPlInterval 5011200000000 ⟨3600000000, 1, 0⟩ = .ok r ∧
        pgTimestampMiInterval r ⟨3600000000, 1, 0⟩ = .ok 5011200000000 :=
  ⟨by decide, by decide, by decide, by decide, by decide,
    pgTimestampMiInterval_pgTimestampPlInterval (by decide) (by decide) (by decide) (by decide) (by decide)⟩

/-- For intervals without months, adding `a` and then `b` is adding their sum by `pg_interval_pl`,
whenever the timestamps met on the way (the days of `a`, then the rest of `a`, then the days of
`b`, and the days of the sum) are in range: both ways end with the same `int64` sum, and the
same range test of it. -/
theorem pgTimestampPlInterval_pgIntervalPl {t : Int64} {a b s : Interval} (ht : IsValidTimestamp t)
    (ha : a.month.val = 0) (hb : b.month.val = 0) (hs : pgIntervalPl a b = .ok s)
    (h1 : TimestampInRange (t.val + a.day.val * 86400000000))
    (h2 : TimestampInRange (t.val + a.day.val * 86400000000 + a.time.val))
    (h3 : TimestampInRange (t.val + a.day.val * 86400000000 + a.time.val + b.day.val * 86400000000))
    (h4 : TimestampInRange (t.val + (a.day.val + b.day.val) * 86400000000)) :
    (pgTimestampPlInterval t a >>= fun r => pgTimestampPlInterval r b) = pgTimestampPlInterval t s := by
  rw [pgIntervalPl_eq] at hs
  split_ifs at hs with hfit
  obtain rfl := Except.ok.inj hs
  obtain ⟨hfm, hfd, hft⟩ := hfit
  rw [timestampInRange_iff] at h1 h2 h3 h4
  have er : (SInt.ofInt (t.val + a.day.val * 86400000000) + a.time : Int64).val =
      t.val + a.day.val * 86400000000 + a.time.val := by
    simp (disch := first | decide | (unfold InRange; omega)) only [SInt.val_add, SInt.val_ofInt,
      wrap_eq_self]
  have hr : IsValidTimestamp (.ofInt (t.val + a.day.val * 86400000000) + a.time) := by
    rw [isValidTimestamp_iff, er]; omega
  have hsd : (a.day + b.day).val = a.day.val + b.day.val := wrap_eq_self (by decide) hfd
  -- both ways store `t + (a.day + b.day) * USECS_PER_DAY + a.time + b.time`
  have e : (SInt.ofInt ((SInt.ofInt (t.val + a.day.val * 86400000000) + a.time).val +
      b.day.val * 86400000000) + b.time : Int64) =
      .ofInt (t.val + (a.day + b.day).val * 86400000000) + (a.time + b.time) := by
    rw [← SInt.val_inj, er, hsd]
    simp only [SInt.val_add, SInt.val_ofInt, wrap_eq_self (by decide) hft,
      wrap_eq_self (x := t.val + a.day.val * 86400000000 + a.time.val + b.day.val * 86400000000)
        (by decide : 0 < 64) (by unfold InRange; omega),
      wrap_eq_self (x := t.val + (a.day.val + b.day.val) * 86400000000) (by decide : 0 < 64)
        (by unfold InRange; omega)]
    congr 1
    ring
  rw [pgTimestampPlInterval_of_days ht ha (by rwa [timestampInRange_iff]), if_pos hr]
  show pgTimestampPlInterval _ b = _
  rw [pgTimestampPlInterval_of_days hr hb (by rw [timestampInRange_iff, er]; exact h3), e,
    pgTimestampPlInterval_of_days ht (by rw [SInt.val_add, ha, hb]; rfl)
      (by rw [timestampInRange_iff, hsd]; exact h4)]

/-- An hour and a day, then two hours and two days, from midnight on 2000-01-01. -/
theorem pgTimestampPlInterval_pgIntervalPl_from_2000 :
    IsValidTimestamp 0 ∧ (⟨3600000000, 1, 0⟩ : Interval).month.val = 0 ∧
      (⟨7200000000, 2, 0⟩ : Interval).month.val = 0 ∧
      pgIntervalPl ⟨3600000000, 1, 0⟩ ⟨7200000000, 2, 0⟩ = .ok ⟨10800000000, 3, 0⟩ ∧
      TimestampInRange ((0 : Int64).val + (1 : Int32).val * 86400000000) ∧
      TimestampInRange ((0 : Int64).val + (1 : Int32).val * 86400000000 + (3600000000 : Int64).val) ∧
      TimestampInRange ((0 : Int64).val + (1 : Int32).val * 86400000000 + (3600000000 : Int64).val +
        (2 : Int32).val * 86400000000) ∧
      TimestampInRange ((0 : Int64).val + ((1 : Int32).val + (2 : Int32).val) * 86400000000) ∧
      (pgTimestampPlInterval 0 ⟨3600000000, 1, 0⟩ >>= fun r => pgTimestampPlInterval r ⟨7200000000, 2, 0⟩) =
        pgTimestampPlInterval 0 ⟨10800000000, 3, 0⟩ :=
  ⟨by decide, by decide, by decide, rfl, by decide, by decide, by decide, by decide,
    @pgTimestampPlInterval_pgIntervalPl 0 ⟨3600000000, 1, 0⟩ ⟨7200000000, 2, 0⟩ ⟨10800000000, 3, 0⟩
      (by decide) (by decide) (by decide) rfl (by decide) (by decide) (by decide) (by decide)⟩

/-- With months only, from a valid timestamp of civil time `c`, `pg_timestamp_pl_interval`
returns the timestamp `span.month` months later on the calendar, refused when it is out of
range, while `tm_mon + span.month` does not wrap. -/
theorem pgTimestampPlInterval_months {t : Int64} {span : Interval} {c : CivilTime}
    (ht : IsValidTimestamp t) (hc : c.Valid) (hct : c.toTimestamp = t.val) (hd : span.day.val = 0)
    (hu : span.time.val = 0) (hmonth : span.month.val ≤ 2147483635) :
    pgTimestampPlInterval t span =
      if TimestampInRange (c.addMonths span.month.val).toTimestamp
      then .ok (.ofInt (c.addMonths span.month.val).toTimestamp) else .error "timestamp out of range" := by
  unfold pgTimestampPlInterval
  rw [if_neg ht.finite, plMonthsStep_eq ht hc hct hmonth, plMonthsExact_eq hc]
  by_cases hr : TimestampInRange (c.addMonths span.month.val).toTimestamp
  · have hv : (SInt.ofInt (c.addMonths span.month.val).toTimestamp : Int64).val =
        (c.addMonths span.month.val).toTimestamp :=
      wrap_eq_self (by decide) (by rw [timestampInRange_iff] at hr; unfold InRange; omega)
    have h0 : SInt.ofInt (c.addMonths span.month.val).toTimestamp + span.time =
        .ofInt (c.addMonths span.month.val).toTimestamp := by
      rw [← SInt.val_inj, SInt.val_add, hu, add_zero, hv]
      exact hv
    simp only [if_pos hr, pure_bind, hd, ne_eq, not_true_eq_false, if_false, h0,
      isValidTimestamp_iff_inRange, hv]
    rfl
  · rw [if_neg hr, if_neg hr]
    rfl

/-- For intervals of months only, adding `a` and then `b` is adding their sum by `pg_interval_pl`,
whenever the first step does not clamp the day of month, its result is in range, and no
`tm_mon + month` wraps. Where the first step clamps, the second starts from the clamped day. -/
theorem pgTimestampPlInterval_pgIntervalPl_months {t : Int64} {c : CivilTime} {a b s : Interval}
    (ht : IsValidTimestamp t) (hc : c.Valid) (hct : c.toTimestamp = t.val)
    (ha : a.day.val = 0 ∧ a.time.val = 0) (hb : b.day.val = 0 ∧ b.time.val = 0)
    (hs : pgIntervalPl a b = .ok s) (hma : a.month.val ≤ 2147483635) (hmb : b.month.val ≤ 2147483635)
    (hms : a.month.val + b.month.val ≤ 2147483635)
    (hclamp : c.day ≤ daysInMonth (c.addMonths a.month.val).year (c.addMonths a.month.val).month)
    (hr : TimestampInRange (c.addMonths a.month.val).toTimestamp) :
    (pgTimestampPlInterval t a >>= fun r => pgTimestampPlInterval r b) = pgTimestampPlInterval t s := by
  rw [pgIntervalPl_eq] at hs
  split_ifs at hs with hfit
  obtain rfl := Except.ok.inj hs
  obtain ⟨hfm, hfd, hft⟩ := hfit
  have hv : (SInt.ofInt (c.addMonths a.month.val).toTimestamp : Int64).val =
      (c.addMonths a.month.val).toTimestamp :=
    wrap_eq_self (by decide) (by rw [timestampInRange_iff] at hr; unfold InRange; omega)
  have hsm : (a.month + b.month).val = a.month.val + b.month.val := wrap_eq_self (by decide) hfm
  rw [pgTimestampPlInterval_months ht hc hct ha.1 ha.2 hma, if_pos hr]
  show pgTimestampPlInterval _ b = _
  rw [pgTimestampPlInterval_months (by rwa [isValidTimestamp_iff_inRange, hv]) (CivilTime.addMonths_valid hc _) hv.symm
      hb.1 hb.2 hmb, CivilTime.addMonths_addMonths c _ _ hclamp,
    pgTimestampPlInterval_months ht hc hct (by rw [SInt.val_add, ha.1, hb.1]; rfl)
      (by rw [SInt.val_add, ha.2, hb.2]; rfl) (by rw [hsm]; exact hms), hsm]

/-- A month and a month from 2000-01-15 is two months. -/
theorem pgTimestampPlInterval_pgIntervalPl_months_from_jan15 :
    IsValidTimestamp 1209600000000 ∧ (⟨2000, 1, 15, 0⟩ : CivilTime).Valid ∧
      (⟨2000, 1, 15, 0⟩ : CivilTime).toTimestamp = (1209600000000 : Int64).val ∧
      pgIntervalPl ⟨0, 0, 1⟩ ⟨0, 0, 1⟩ = .ok ⟨0, 0, 2⟩ ∧
      (15 : ℤ) ≤ daysInMonth (CivilTime.addMonths ⟨2000, 1, 15, 0⟩ 1).year
        (CivilTime.addMonths ⟨2000, 1, 15, 0⟩ 1).month ∧
      TimestampInRange (CivilTime.addMonths ⟨2000, 1, 15, 0⟩ 1).toTimestamp ∧
      (pgTimestampPlInterval 1209600000000 ⟨0, 0, 1⟩ >>= fun r => pgTimestampPlInterval r ⟨0, 0, 1⟩) =
        pgTimestampPlInterval 1209600000000 ⟨0, 0, 2⟩ :=
  ⟨by decide, by decide, by decide, rfl, by decide, by decide,
    @pgTimestampPlInterval_pgIntervalPl_months 1209600000000 ⟨2000, 1, 15, 0⟩ ⟨0, 0, 1⟩ ⟨0, 0, 1⟩ ⟨0, 0, 2⟩
      (by decide) (by decide) (by decide) ⟨by decide, by decide⟩ ⟨by decide, by decide⟩ rfl (by decide)
      (by decide) (by decide) (by decide) (by decide)⟩

/-- Where the first month clamps, the two ways part: a month and a month from 2000-01-31 is
2000-03-29, two months is 2000-03-31. -/
theorem pgTimestampPlInterval_months_clamped_twice :
    (pgTimestampPlInterval 2592000000000 ⟨0, 0, 1⟩ >>= fun r => pgTimestampPlInterval r ⟨0, 0, 1⟩) =
        .ok 7603200000000 ∧
      pgTimestampPlInterval 2592000000000 ⟨0, 0, 2⟩ = .ok 7776000000000 :=
  ⟨rfl, rfl⟩

/-- With months only, `pg_timestamp_pl_interval` keeps the order of valid timestamps, except that
two days of one month both clamped onto the last day of the month reached keep their times of
day, and may swap within that day. -/
theorem pgTimestampPlInterval_months_mono {t₁ t₂ r₁ r₂ : Int64} {span : Interval}
    (h₁ : IsValidTimestamp t₁) (h₂ : IsValidTimestamp t₂) (hd : span.day.val = 0)
    (hu : span.time.val = 0) (hmonth : span.month.val ≤ 2147483635) (hle : t₁.val ≤ t₂.val)
    (e₁ : pgTimestampPlInterval t₁ span = .ok r₁) (e₂ : pgTimestampPlInterval t₂ span = .ok r₂) :
    r₁.val ≤ r₂.val ∨ r₁.val / 86400000000 = r₂.val / 86400000000 := by
  obtain ⟨c₁, hc₁, hct₁⟩ := CivilTime.exists_of_isValidTimestamp h₁
  obtain ⟨c₂, hc₂, hct₂⟩ := CivilTime.exists_of_isValidTimestamp h₂
  rw [pgTimestampPlInterval_months h₁ hc₁ hct₁ hd hu hmonth] at e₁
  rw [pgTimestampPlInterval_months h₂ hc₂ hct₂ hd hu hmonth] at e₂
  split_ifs at e₁ e₂ with hr₁ hr₂
  cases e₁
  cases e₂
  rw [timestampInRange_iff] at hr₁ hr₂
  rw [SInt.val_ofInt, SInt.val_ofInt, wrap_eq_self (by decide) (by unfold InRange; omega),
    wrap_eq_self (x := (c₂.addMonths span.month.val).toTimestamp) (by decide) (by unfold InRange; omega)]
  rcases CivilTime.addMonths_mono hc₁ hc₂ (by rw [hct₁, hct₂]; exact hle) span.month.val with h | h
  · exact .inl h
  · unfold julianOfTimestamp at h
    exact .inr (by omega)

/-- Noon on 2000-01-30 comes before 08:00 on 2000-01-31; a month later both are on 2000-02-29,
noon after 08:00. -/
theorem pgTimestampPlInterval_months_mono_across_clamp :
    IsValidTimestamp 2548800000000 ∧ IsValidTimestamp 2620800000000 ∧
      (⟨0, 0, 1⟩ : Interval).day.val = 0 ∧ (⟨0, 0, 1⟩ : Interval).time.val = 0 ∧
      (⟨0, 0, 1⟩ : Interval).month.val ≤ 2147483635 ∧
      (2548800000000 : Int64).val ≤ (2620800000000 : Int64).val ∧
      pgTimestampPlInterval 2548800000000 ⟨0, 0, 1⟩ = .ok 5140800000000 ∧
      pgTimestampPlInterval 2620800000000 ⟨0, 0, 1⟩ = .ok 5126400000000 ∧
      (5126400000000 : Int64).val < (5140800000000 : Int64).val ∧
      ((5140800000000 : Int64).val ≤ (5126400000000 : Int64).val ∨
        (5140800000000 : Int64).val / 86400000000 = (5126400000000 : Int64).val / 86400000000) :=
  ⟨by decide, by decide, by decide, by decide, by decide, by decide, rfl, rfl, by decide,
    @pgTimestampPlInterval_months_mono 2548800000000 2620800000000 5140800000000 5126400000000
      ⟨0, 0, 1⟩ (by decide) (by decide) (by decide) (by decide) (by decide) (by decide) rfl rfl⟩

/-! ## Where a step wraps -/

/-- Adding `INT64_MAX` microseconds to the last microsecond of the range wraps around `int64`
onto a timestamp in range, where the exact sum is far past `END_TIMESTAMP`. -/
theorem pgTimestampPlInterval_time_wraps :
    pgTimestampPlInterval (endTimestamp - 1) ⟨9223372036854775807, 0, 0⟩ = .ok (.ofInt (-705654775810)) ∧
      IsValidTimestamp (.ofInt (-705654775810)) ∧ endTimestamp.val ≤ (endTimestamp - 1).val + 9223372036854775807 :=
  ⟨rfl, by decide, by decide⟩

/-- Subtracting `INT64_MIN` microseconds: the negation wraps back to `INT64_MIN`, so the interval
is added instead, and the result lands in range, where the exact difference is past
`END_TIMESTAMP`. -/
theorem pgTimestampMiInterval_negation_wraps :
    pgTimestampMiInterval (endTimestamp - 1) ⟨.ofInt (-9223372036854775808), 0, 0⟩ =
        pgTimestampPlInterval (endTimestamp - 1) ⟨.ofInt (-9223372036854775808), 0, 0⟩ ∧
      pgTimestampMiInterval (endTimestamp - 1) ⟨.ofInt (-9223372036854775808), 0, 0⟩ =
        .ok (.ofInt (-705654775809)) ∧
      IsValidTimestamp (.ofInt (-705654775809)) ∧
      endTimestamp.val ≤ (endTimestamp - 1).val - (-9223372036854775808) :=
  ⟨rfl, rfl, by decide, by decide⟩

/-- The difference of the two ends of the range does not fit in `int64`: it wraps, and the
interval returned is negative, far from the exact difference. -/
theorem pgTimestampMi_wraps :
    pgTimestampMi (endTimestamp - 1) minTimestamp =
        .ok ⟨.ofInt (-28909551617), .ofInt (-104300454), 0⟩ ∧
      (-104300454) * 86400000000 + (-28909551617) ≠ (endTimestamp - 1).val - minTimestamp.val :=
  ⟨rfl, by decide⟩

/-! ## Before Julian day 0

`j2date` computes the calendar from Julian day 0 on only, and the day step of
`pg_timestamp_pl_interval` does not test the Julian day it reaches. -/

/-- Moving `MIN_TIMESTAMP`, 4714-11-24 BC at Julian day 0, back 32045 days reaches Julian day
-32045, where `j2date` names 4560-08-16 BC: a day in range and after the start, which
`pg_timestamp_pl_interval` returns. The exact result lies before the range. -/
theorem pgTimestampPlInterval_before_julian_zero :
    j2date (.ofInt (-32045)) = (.ofInt (-4559), 8, 16) ∧
      pgTimestampPlInterval minTimestamp ⟨0, .ofInt (-32045), 0⟩ = .ok (.ofInt (-206962387200000000)) ∧
      IsValidTimestamp (.ofInt (-206962387200000000)) ∧
      minTimestamp.val < (SInt.ofInt (-206962387200000000) : Int64).val ∧
      ¬TimestampInRange (minTimestamp.val + (-32045) * 86400000000) :=
  ⟨by decide, rfl, by decide, by decide, by decide⟩

end PgCall
