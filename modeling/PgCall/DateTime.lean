import PgCall.Interval

/-!
# PostgreSQL's calendar routines

`pg_call.c` reaches the calendar through PostgreSQL's own `date2j`, `j2date`, `time2t`,
`dt2time`, `tm2timestamp` and `timestamp2tm`, and the macros of `datatype/timestamp.h`. They
are not part of this repository; they are transcribed from PostgreSQL 14, the version the
MEOS build pins, keeping the integer types of their C text (`j2date` computes in `unsigned
int`).
-/

namespace PgCall

/-! ## Constants and tests of `datatype/timestamp.h` -/

/-- `USECS_PER_HOUR`. -/
def usecsPerHour : Int64 := 3600000000
/-- `USECS_PER_MINUTE`. -/
def usecsPerMinute : Int64 := 60000000
/-- `USECS_PER_SEC`. -/
def usecsPerSec : Int64 := 1000000

/-- `MONTHS_PER_YEAR`. -/
def monthsPerYear : Int32 := 12
/-- `POSTGRES_EPOCH_JDATE`, `date2j(2000, 1, 1)`. -/
def postgresEpochJdate : Int32 := 2451545

@[simp] theorem postgresEpochJdate_val : postgresEpochJdate.val = 2451545 := rfl

/-- `DT_NOBEGIN`, the timestamp `-infinity`. -/
def dtNobegin : Int64 := .ofInt (-9223372036854775808)
/-- `DT_NOEND`, the timestamp `infinity`. -/
def dtNoend : Int64 := 9223372036854775807
/-- `MIN_TIMESTAMP`, 4714-11-24 BC. -/
def minTimestamp : Int64 := .ofInt (-211813488000000000)
/-- `END_TIMESTAMP`, 294277-01-01, the first timestamp out of range. -/
def endTimestamp : Int64 := 9223371331200000000

@[simp] theorem dtNobegin_val : dtNobegin.val = -9223372036854775808 := rfl
@[simp] theorem dtNoend_val : dtNoend.val = 9223372036854775807 := rfl
@[simp] theorem minTimestamp_val : minTimestamp.val = -211813488000000000 := rfl
@[simp] theorem endTimestamp_val : endTimestamp.val = 9223371331200000000 := rfl

/-- `TIMESTAMP_NOT_FINITE(j)`: one of the two sentinels. -/
def TimestampNotFinite (j : Int64) : Prop := j.val = dtNobegin.val ∨ j.val = dtNoend.val

/-- `IS_VALID_TIMESTAMP(t)`. -/
def IsValidTimestamp (t : Int64) : Prop := minTimestamp.val ≤ t.val ∧ t.val < endTimestamp.val

instance (j : Int64) : Decidable (TimestampNotFinite j) := inferInstanceAs (Decidable (_ ∨ _))
instance (t : Int64) : Decidable (IsValidTimestamp t) := inferInstanceAs (Decidable (_ ∧ _))

theorem isValidTimestamp_iff {t : Int64} :
    IsValidTimestamp t ↔ -211813488000000000 ≤ t.val ∧ t.val < 9223371331200000000 := Iff.rfl

theorem timestampNotFinite_iff {t : Int64} :
    TimestampNotFinite t ↔ t.val = -9223372036854775808 ∨ t.val = 9223372036854775807 := Iff.rfl

theorem IsValidTimestamp.finite {t : Int64} (h : IsValidTimestamp t) : ¬TimestampNotFinite t := by
  rw [timestampNotFinite_iff]; rw [isValidTimestamp_iff] at h; omega

/-- `IS_VALID_JULIAN(y,m,d)`: from 4713-11 BC up to 5874898-06 (the day is not tested). -/
def IsValidJulian (y m _d : Int32) : Prop :=
  (y.val > -4713 ∨ (y.val = -4713 ∧ m.val ≥ 11)) ∧ (y.val < 5874898 ∨ (y.val = 5874898 ∧ m.val < 6))

instance (y m d : Int32) : Decidable (IsValidJulian y m d) := inferInstanceAs (Decidable (_ ∧ _))

/-- `struct pg_tm`, with the fields the modelled routines read and write. -/
structure PgTm where
  tmSec : Int32
  tmMin : Int32
  tmHour : Int32
  tmMday : Int32
  tmMon : Int32
  tmYear : Int32
deriving DecidableEq

/-! ## Julian days -/

/-- `date2j`: the Julian day number of a date. -/
def date2j (y m d : Int32) : Int32 :=
  let (y, m) : Int32 × Int32 := if m.val > 2 then (y + 4800, m + 1) else (y + 4799, m + 13)
  let century := y / 100
  let julian := y * 365 - 32167
  let julian := julian + (y / 4 - century + century / 4)
  julian + (7834 * m / 256 + d)

/-- `j2date`: the year, month and day of a Julian day number, computed in `unsigned int`. -/
def j2date (jd : Int32) : Int32 × Int32 × Int32 :=
  let julian : BitVec 32 := .ofInt 32 jd.val
  let julian := julian + 32044
  let quad := julian / 146097
  let extra := (julian - quad * 146097) * 4 + 3
  let julian := julian + (60 + quad * 3 + extra / 146097)
  let quad := julian / 1461
  let julian := julian - quad * 1461
  let y : Int32 := .ofInt (julian * 4 / 1461).toNat
  let julian := (if y.val ≠ 0 then (julian + 305) % 365 else (julian + 306) % 366) + 123
  let y : Int32 := .ofInt (BitVec.ofInt 32 y.val + quad * 4).toNat
  let quad := julian * 2141 / 65536
  (y - 4800, .ofInt ((quad + 10) % 12 + 1).toNat, .ofInt (julian - 7834 * quad / 256).toNat)

/-- `day_tab`: the length of each month, in a common and in a leap year. -/
def dayTab : List (List Int32) :=
  [[31, 28, 31, 30, 31, 30, 31, 31, 30, 31, 30, 31, 0],
   [31, 29, 31, 30, 31, 30, 31, 31, 30, 31, 30, 31, 0]]

/-- `isleap(y)`, with C's truncating `%`. -/
def isleap (y : Int32) : Bool := (y % 4).val = 0 && ((y % 100).val ≠ 0 || (y % 400).val = 0)

/-- `day_tab[isleap(y)][m - 1]`. -/
def dayTabAt (y m : Int32) : Int32 :=
  ((dayTab.getD (if isleap y then 1 else 0) []).getD (m - 1).val.toNat 0)

/-! ## Times of day -/

/-- `time2t`: microseconds since midnight. -/
def time2t (hour min sec fsec : Int32) : Int64 :=
  (((hour * 60 + min) * 60 + sec).resize * usecsPerSec) + fsec.resize

/-- `dt2time`: the hour, minute, second and microseconds of a time of day. -/
def dt2time (jd : Int64) : Int32 × Int32 × Int32 × Int32 :=
  let time := jd
  let hour : Int32 := (time / usecsPerHour).resize
  let time := time - hour.resize * usecsPerHour
  let min : Int32 := (time / usecsPerMinute).resize
  let time := time - min.resize * usecsPerMinute
  let sec : Int32 := (time / usecsPerSec).resize
  (hour, min, sec, (time - sec.resize * usecsPerSec).resize)

/-- `dt2local`: move a timestamp by a zone offset in seconds. -/
def dt2local (dt : Int64) (tz : Int32) : Int64 := dt - tz.resize * usecsPerSec

/-! ## Timestamps -/

/-- `tm2timestamp`: the timestamp of a broken-down time, `none` where the C function returns
-1. With a zone `tzp` the local time is moved to UTC. -/
def tm2timestamp (tm : PgTm) (fsec : Int32) (tzp : Option Int32) : Option Int64 :=
  if ¬IsValidJulian tm.tmYear tm.tmMon tm.tmMday then none else
  let date : Int64 := (date2j tm.tmYear tm.tmMon tm.tmMday - postgresEpochJdate).resize
  let time := time2t tm.tmHour tm.tmMin tm.tmSec fsec
  let result := date * usecsPerDay + time
  -- check for major overflow
  if ((result - time) / usecsPerDay).val ≠ date.val then none else
  -- check for just-barely overflow (okay except time-of-day wraps)
  if (result.val < 0 ∧ date.val > 0) ∨ (result.val > 0 ∧ date.val < -1) then none else
  let result := match tzp with
    | some tz => dt2local result (-tz)
    | none => result
  if ¬IsValidTimestamp result then none else some result

/-- The first steps of `timestamp2tm`: the time of day and the day relative to 2000-01-01, the
time made nonnegative by borrowing a day. -/
def splitTimestamp (dt : Int64) : Int64 × Int64 :=
  let split := tmodulo dt usecsPerDay
  if split.1.val < 0 then (split.1 + usecsPerDay, split.2 - 1) else split

/-- `timestamp2tm` with `tzp = NULL`, as `pg_call.c` calls it: the broken-down UTC time and the
fractional seconds, `none` where the C function returns -1. -/
def timestamp2tm (dt : Int64) : Option (PgTm × Int32) :=
  let (time, date) := splitTimestamp dt
  let date := date + postgresEpochJdate.resize
  if date.val < 0 ∨ date.val > 2147483647 then none else
  let (year, mon, mday) := j2date date.resize
  let (hour, min, sec, fsec) := dt2time time
  some (⟨sec, min, hour, mday, mon, year⟩, fsec)

/-- `GetEpochTime`: 1970-01-01 00:00:00. -/
def getEpochTime : PgTm := ⟨0, 0, 0, 1, 1, 1970⟩

/-- `SetEpochTimestamp`, which does not test the status of `tm2timestamp` (its result is 0 on
failure). -/
def setEpochTimestamp : Int64 := (tm2timestamp getEpochTime 0 none).getD 0

theorem tm2timestamp_valid {tm : PgTm} {fsec : Int32} {tzp : Option Int32} {r : Int64}
    (h : tm2timestamp tm fsec tzp = some r) : IsValidTimestamp r := by
  simp only [tm2timestamp, ite_not, Option.ite_none_left_eq_some, Option.ite_none_right_eq_some] at h
  obtain ⟨-, -, -, hv, hr⟩ := h
  exact Option.some.inj hr ▸ hv

example : tm2timestamp ⟨59, 59, 23, 31, 12, 294276⟩ 999999 none = some (endTimestamp - 1) := by
  decide

theorem splitTimestamp_val (t : Int64) :
    (splitTimestamp t).1.val = t.val % 86400000000 ∧ (splitTimestamp t).2.val = t.val / 86400000000 := by
  obtain ⟨h1, h2, h3, h4, h5⟩ := tdiv_usecsPerDay t
  obtain ⟨e1, e2⟩ := tmodulo_usecsPerDay t
  unfold splitTimestamp
  dsimp only
  split_ifs with hn
  · simp (disch := first | decide | omega | (unfold InRange; omega)) only [SInt.val_add,
      SInt.val_sub, SInt.val_ofNat_of_lt, usecsPerDay_val, e1, e2, wrap_eq_self]
    omega
  · omega

/-- `timestamp2tm` succeeds exactly from `MIN_TIMESTAMP` on: below it the Julian day is negative,
and no `int64` reaches past `INT_MAX` days. -/
theorem timestamp2tm_isSome_iff {t : Int64} : (timestamp2tm t).isSome ↔ minTimestamp.val ≤ t.val := by
  obtain ⟨-, e⟩ := splitTimestamp_val t
  have ht := t.range
  unfold timestamp2tm
  generalize splitTimestamp t = split at e
  obtain ⟨time, date⟩ := split
  dsimp only at e ⊢
  have hd : (date + postgresEpochJdate.resize).val = t.val / 86400000000 + 2451545 := by
    simp (disch := first | decide | omega | (unfold InRange; omega)) only [SInt.val_add,
      SInt.val_resize, postgresEpochJdate_val, e, wrap_eq_self]
  rw [minTimestamp_val, hd]
  split_ifs with h
  · simp only [Option.isSome_none, Bool.false_eq_true, false_iff]
    omega
  · obtain ⟨year, mon, mday⟩ := j2date _
    obtain ⟨hour, min, sec, fsec⟩ := dt2time time
    simp only [Option.isSome_some, true_iff]
    omega

example : timestamp2tm minTimestamp = some (⟨0, 0, 0, 24, 11, .ofInt (-4713)⟩, 0) := by decide
example : timestamp2tm (endTimestamp - 1) = some (⟨59, 59, 23, 31, 12, 294276⟩, 999999) := by
  decide
example : date2j 2000 1 1 = 2451545 := by decide
example : setEpochTimestamp.val = -946684800000000 := by decide

end PgCall
