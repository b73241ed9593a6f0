import PgCall.TimestampArith

/-!
# Printing a timestamp and a date

`timestamp_out_common` spells the two sentinels out and otherwise prints the broken-down time
`timestamp2tm` gives, in UTC or, with a zone, in the session zone; where `timestamp2tm` fails it
raises `timestamp out of range`. PostgreSQL's formatters `EncodeDateTime` and `EncodeDateOnly`
and its zone database `pg_localtime` are parameters: they lie outside this repository, and
neither can raise an error. The printer refuses exactly the finite values below
`MIN_TIMESTAMP` (`timestampOutCommon_ok_iff`).

Printing and reading back are inverse wherever the parser reads the formatter's text as the fields
it was given: a valid timestamp or date printed and read back is unchanged
(`pgTimestampIn_pgTimestampOut`, `pgDateIn_pgDateOut`), and a text read as a date of the calendar
in range is printed from the fields that were read (`pgTimestampOut_pgTimestampIn`,
`pgDateOut_pgDateIn`). With a zone the same holds wherever the zone database is right about the
local time (`pgTimestamptzIn_pgTimestamptzOut`): the offset printed and the offset read back are
applied with opposite signs.
-/

namespace PgCall

/-- `EARLY`, the text of `-infinity`. -/
def early : String := "-infinity"
/-- `LATE`, the text of `infinity`. -/
def late : String := "infinity"

/-- `USE_ISO_DATES`. -/
def useIsoDates : Int32 := 1
/-- The global `DateStyle` of `pg_call.c`. -/
def dateStyle : Int32 := useIsoDates

/-- `UNIX_EPOCH_JDATE`, `date2j(1970, 1, 1)`. -/
def unixEpochJdate : Int32 := 2440588
/-- `SECS_PER_DAY`. -/
def secsPerDay : Int32 := 86400

/-- `EncodeSpecialTimestamp`. -/
def encodeSpecialTimestamp (dt : Int64) : Except String String :=
  if dt.val = dtNobegin.val then pure early
  else if dt.val = dtNoend.val then pure late
  else throw "invalid argument for EncodeSpecialTimestamp"

/-- What `pg_localtime` gives for a Unix time in the session zone: the broken-down local time
(years counted from 1900, months from 0), the offset east of UTC in seconds and the zone's
abbreviation. -/
structure PgLocalTime where
  tm : PgTm
  gmtoff : Int64
  zone : String

/-- `timestamp2tm` with a zone (`tzp` not NULL, the session zone): the UTC result is replaced by
the local time `pg_localtime` gives, and the zone offset `-tm_gmtoff` and abbreviation are
returned with it. `pg_time_t` is `int64`, so the test that the Unix time converts without loss
always holds. -/
def timestamp2tmTz (localtime : Int64 → PgLocalTime) (dt : Int64) :
    Option (PgTm × Int32 × Int32 × String) :=
  match timestamp2tm dt with
  | none => none
  | some (_, fsec) =>
    let utime := (dt - fsec.resize) / usecsPerSec +
      ((postgresEpochJdate - unixEpochJdate) * secsPerDay).resize
    let tx := localtime utime
    some (⟨tx.tm.tmSec, tx.tm.tmMin, tx.tm.tmHour, tx.tm.tmMday, tx.tm.tmMon + 1,
      tx.tm.tmYear + 1900⟩, fsec, (-tx.gmtoff).resize, tx.zone)

/-- `timestamp_out_common`, with `EncodeDateTime` given as `encodeDateTime` (the broken-down time,
the fractional seconds, whether to print the zone, its offset, its abbreviation and the date
style) and `pg_localtime` as `localtime`. -/
def timestampOutCommon (encodeDateTime : PgTm → Int32 → Bool → Int32 → Option String → Int32 → String)
    (localtime : Int64 → PgLocalTime) (dt : Int64) (withtz : Bool) : Except String String :=
  if TimestampNotFinite dt then encodeSpecialTimestamp dt
  else if withtz then
    match timestamp2tmTz localtime dt with
    | some (tm, fsec, tz, tzn) => pure (encodeDateTime tm fsec true tz (some tzn) dateStyle)
    | none => throw "timestamp out of range"
  else
    match timestamp2tm dt with
    | some (tm, fsec) => pure (encodeDateTime tm fsec false 0 none dateStyle)
    | none => throw "timestamp out of range"

/-- `pg_timestamp_out`; without a zone the session zone is not read. -/
def pgTimestampOut (encodeDateTime : PgTm → Int32 → Bool → Int32 → Option String → Int32 → String)
    (localtime : Int64 → PgLocalTime) (dt : Int64) : Except String String :=
  timestampOutCommon encodeDateTime localtime dt false

theorem encodeSpecialTimestamp_ok {dt : Int64} (h : TimestampNotFinite dt) :
    ∃ s, encodeSpecialTimestamp dt = .ok s := by
  unfold encodeSpecialTimestamp
  split_ifs
  · exact ⟨_, rfl⟩
  · exact ⟨_, rfl⟩
  · unfold TimestampNotFinite at h; tauto

theorem timestamp2tmTz_isSome (localtime : Int64 → PgLocalTime) (dt : Int64) :
    (timestamp2tmTz localtime dt).isSome = (timestamp2tm dt).isSome := by
  unfold timestamp2tmTz
  split <;> simp_all

/-- `timestamp_out_common` prints the sentinels and every value from `MIN_TIMESTAMP` on, with or
without a zone, and refuses every other value. -/
theorem timestampOutCommon_ok_iff
    (encodeDateTime : PgTm → Int32 → Bool → Int32 → Option String → Int32 → String)
    (localtime : Int64 → PgLocalTime) (dt : Int64) (withtz : Bool) :
    (∃ s, timestampOutCommon encodeDateTime localtime dt withtz = .ok s) ↔
      TimestampNotFinite dt ∨ minTimestamp.val ≤ dt.val := by
  unfold timestampOutCommon
  by_cases hf : TimestampNotFinite dt
  · simp only [if_pos hf, hf, true_or, iff_true]
    exact encodeSpecialTimestamp_ok hf
  rw [if_neg hf, ← timestamp2tm_isSome_iff, or_iff_right hf]
  cases withtz
  · cases timestamp2tm dt
    · simp
    · exact iff_of_true ⟨_, rfl⟩ rfl
  · rw [← timestamp2tmTz_isSome localtime]
    cases timestamp2tmTz localtime dt
    · simp
    · exact iff_of_true ⟨_, rfl⟩ rfl

/-! ## Round trips of the text of a timestamp -/

section TimestampRoundTrip
variable (decode : String → Except Int32 DecodedDateTime)
  (encodeDateTime : PgTm → Int32 → Bool → Int32 → Option String → Int32 → String)
  (localtime : Int64 → PgLocalTime)

theorem pgTimestampIn_of_date {s : String} {tm : PgTm} {fsec z typmod : Int32}
    (hdec : decode s = .ok ⟨dtkDate, tm, fsec, z⟩) (h : tm.FieldsValid fsec)
    (hp : typmod.val = -1 ∨ typmod.val = 6) :
    pgTimestampIn decode s typmod =
      if TimestampInRange (tm.toCivil fsec).toTimestamp then .ok (.ofInt (tm.toCivil fsec).toTimestamp)
      else .error s!"timestamp out of range: \"{s}\"" := by
  unfold pgTimestampIn timestampInCommon decodeDateTime timestampOfDecoded
  rw [hdec]
  simp only [if_false, Bool.false_eq_true, pure_bind, if_true, tm2timestamp_spec h]
  by_cases hr : TimestampInRange (tm.toCivil fsec).toTimestamp
  · rw [if_pos hr, if_pos hr]
    exact adjustTimestampForTypmod_of_ok (adjustTimestampForTypmodError_skip none (hp.imp_right .inl))
  · rw [if_neg hr, if_neg hr]
    rfl

theorem pgTimestampOut_eq {t : Int64} {tm : PgTm} {fsec : Int32} (hf : ¬TimestampNotFinite t)
    (e : timestamp2tm t = some (tm, fsec)) :
    pgTimestampOut encodeDateTime localtime t = .ok (encodeDateTime tm fsec false 0 none dateStyle) := by
  unfold pgTimestampOut timestampOutCommon
  rw [if_neg hf, if_neg Bool.false_ne_true, e]
  rfl

/-- Text printed by `pg_timestamp_out` is read back by `pg_timestamp_in` as the same timestamp:
for every valid timestamp, whenever the parser reads the formatter's text as the fields it was
given, and at a precision that does not round. -/
theorem pgTimestampIn_pgTimestampOut {t : Int64} {tm : PgTm} {fsec z typmod : Int32}
    (ht : IsValidTimestamp t) (e : timestamp2tm t = some (tm, fsec))
    (hdec : decode (encodeDateTime tm fsec false 0 none dateStyle) = .ok ⟨dtkDate, tm, fsec, z⟩)
    (hp : typmod.val = -1 ∨ typmod.val = 6) :
    pgTimestampOut encodeDateTime localtime t = .ok (encodeDateTime tm fsec false 0 none dateStyle) ∧
      pgTimestampIn decode (encodeDateTime tm fsec false 0 none dateStyle) typmod = .ok t := by
  obtain ⟨h, -, hval⟩ := timestamp2tm_spec e
  refine ⟨pgTimestampOut_eq encodeDateTime localtime ht.finite e, ?_⟩
  rw [pgTimestampIn_of_date decode hdec h hp, hval, if_pos (isValidTimestamp_iff_inRange.1 ht)]
  exact congrArg _ (SInt.val_inj.1 (wrap_eq_self (by decide) t.inRange))

/-- A text `pg_timestamp_in` reads as a date of the calendar and a time of day, in range, is
printed by `pg_timestamp_out` from the same fields. -/
theorem pgTimestampOut_pgTimestampIn {s : String} {tm : PgTm} {fsec z typmod : Int32}
    (hdec : decode s = .ok ⟨dtkDate, tm, fsec, z⟩) (h : tm.FieldsValid fsec)
    (hdim : tm.tmMday.val ≤ daysInMonth tm.tmYear.val tm.tmMon.val)
    (hr : TimestampInRange (tm.toCivil fsec).toTimestamp) (hp : typmod.val = -1 ∨ typmod.val = 6) :
    pgTimestampIn decode s typmod = .ok (.ofInt (tm.toCivil fsec).toTimestamp) ∧
      pgTimestampOut encodeDateTime localtime (.ofInt (tm.toCivil fsec).toTimestamp) =
        .ok (encodeDateTime tm fsec false 0 none dateStyle) := by
  have hv : (SInt.ofInt (tm.toCivil fsec).toTimestamp : Int64).val = (tm.toCivil fsec).toTimestamp :=
    wrap_eq_self (by decide) (by rw [timestampInRange_iff] at hr; unfold InRange; omega)
  have hv' : IsValidTimestamp (.ofInt (tm.toCivil fsec).toTimestamp) := by
    rwa [isValidTimestamp_iff_inRange, hv]
  exact ⟨by rw [pgTimestampIn_of_date decode hdec h hp, if_pos hr],
    pgTimestampOut_eq encodeDateTime localtime hv'.finite (timestamp2tm_toTimestamp h hdim hr)⟩

end TimestampRoundTrip

/-- The first day of 2000, printed and read back. -/
theorem pgTimestampIn_pgTimestampOut_at_2000 :
    IsValidTimestamp 0 ∧ timestamp2tm 0 = some (⟨0, 0, 0, 1, 1, 2000⟩, 0) ∧
      ((-1 : Int32).val = -1 ∨ (-1 : Int32).val = 6) ∧
      pgTimestampOut (fun _ _ _ _ _ _ => "2000-01-01 00:00:00")
          (fun _ => ⟨⟨0, 0, 0, 1, 0, 100⟩, 0, "UTC"⟩) 0 = .ok "2000-01-01 00:00:00" ∧
        pgTimestampIn (fun _ => .ok ⟨dtkDate, ⟨0, 0, 0, 1, 1, 2000⟩, 0, 0⟩) "2000-01-01 00:00:00" (-1) =
          .ok 0 :=
  ⟨by decide, by decide, by decide,
    @pgTimestampIn_pgTimestampOut (fun _ => .ok ⟨dtkDate, ⟨0, 0, 0, 1, 1, 2000⟩, 0, 0⟩)
      (fun _ _ _ _ _ _ => "2000-01-01 00:00:00") (fun _ => ⟨⟨0, 0, 0, 1, 0, 100⟩, 0, "UTC"⟩) 0
      ⟨0, 0, 0, 1, 1, 2000⟩ 0 0 (-1) (by decide) (by decide) rfl (by decide)⟩

/-- The text `2000-02-29`, read as a date of a leap year, is printed from the same fields. -/
theorem pgTimestampOut_pgTimestampIn_at_leap_day :
    (⟨0, 0, 0, 29, 2, 2000⟩ : PgTm).FieldsValid 0 ∧ (29 : Int32).val ≤ daysInMonth 2000 2 ∧
      TimestampInRange (PgTm.toCivil ⟨0, 0, 0, 29, 2, 2000⟩ 0).toTimestamp ∧
      pgTimestampIn (fun _ => .ok ⟨dtkDate, ⟨0, 0, 0, 29, 2, 2000⟩, 0, 0⟩) "2000-02-29" (-1) =
          .ok (.ofInt (PgTm.toCivil ⟨0, 0, 0, 29, 2, 2000⟩ 0).toTimestamp) ∧
        pgTimestampOut (fun tm _ _ _ _ _ => toString tm.tmMday) (fun _ => ⟨⟨0, 0, 0, 1, 0, 100⟩, 0, "UTC"⟩)
            (.ofInt (PgTm.toCivil ⟨0, 0, 0, 29, 2, 2000⟩ 0).toTimestamp) = .ok "29" :=
  ⟨by decide, by decide, by decide,
    @pgTimestampOut_pgTimestampIn (fun _ => .ok ⟨dtkDate, ⟨0, 0, 0, 29, 2, 2000⟩, 0, 0⟩)
      (fun tm _ _ _ _ _ => toString tm.tmMday) (fun _ => ⟨⟨0, 0, 0, 1, 0, 100⟩, 0, "UTC"⟩) "2000-02-29"
      ⟨0, 0, 0, 29, 2, 2000⟩ 0 0 (-1) rfl (by decide)
      (by decide) (by decide) (by decide)⟩

/-! ## Dates -/

/-- `DATE_NOT_FINITE(j)`: one of the two date sentinels. -/
def DateNotFinite (d : Int32) : Prop := d.val = dateNobegin.val ∨ d.val = dateNoend.val

instance (d : Int32) : Decidable (DateNotFinite d) := inferInstanceAs (Decidable (_ ∨ _))

/-- `EncodeSpecialDate`. -/
def encodeSpecialDate (dt : Int32) : Except String String :=
  if dt.val = dateNobegin.val then pure early
  else if dt.val = dateNoend.val then pure late
  else throw "invalid argument for EncodeSpecialDate"

/-- `pg_date_out`, with `EncodeDateOnly` given as `encodeDateOnly`, which reads the year, month and
day of the broken-down time and the date style. -/
def pgDateOut (encodeDateOnly : Int32 → Int32 → Int32 → Int32 → String) (date : Int32) :
    Except String String :=
  if DateNotFinite date then encodeSpecialDate date
  else
    let (year, mon, mday) := j2date (date + postgresEpochJdate)
    pure (encodeDateOnly year mon mday dateStyle)

/-- `pg_date_out` never raises: the error of `EncodeSpecialDate` is out of its reach. -/
theorem pgDateOut_ok (encodeDateOnly : Int32 → Int32 → Int32 → Int32 → String) (date : Int32) :
    ∃ s, pgDateOut encodeDateOnly date = .ok s := by
  unfold pgDateOut encodeSpecialDate
  split_ifs with h h1 h2
  · exact ⟨_, rfl⟩
  · exact ⟨_, rfl⟩
  · unfold DateNotFinite at h; tauto
  · exact ⟨_, rfl⟩

/-! ## Round trips of the text of a date -/

section DateRoundTrip
variable (decode : String → Except Int32 DecodedDateTime)
  (encodeDateOnly : Int32 → Int32 → Int32 → Int32 → String)

/-- `pg_date_out` of a finite date prints the year, month and day `j2date` gives for it. The
destructuring of `j2date`'s result is reduced with `j2date` kept abstract. -/
theorem pgDateOut_eq {date y m d : Int32} (hf : ¬DateNotFinite date)
    (hj : j2date (date + postgresEpochJdate) = (y, m, d)) :
    pgDateOut encodeDateOnly date = .ok (encodeDateOnly y m d dateStyle) := by
  unfold pgDateOut
  rw [if_neg hf]
  rewrite [hj]
  rfl

theorem pgDateIn_of_date {s : String} {tm : PgTm} {fsec z : Int32}
    (hdec : decode s = .ok ⟨dtkDate, tm, fsec, z⟩) (hm : 1 ≤ tm.tmMon.val ∧ tm.tmMon.val ≤ 12)
    (hd : 1 ≤ tm.tmMday.val ∧ tm.tmMday.val ≤ 31) :
    pgDateIn decode s =
      if 0 ≤ date2jInt tm.tmYear.val tm.tmMon.val tm.tmMday.val ∧
        date2jInt tm.tmYear.val tm.tmMon.val tm.tmMday.val < 2147483494
      then .ok (.ofInt (date2jInt tm.tmYear.val tm.tmMon.val tm.tmMday.val - 2451545))
      else .error s!"date out of range: \"{s}\"" := by
  have hjv := isValidJulian_iff (y := tm.tmYear) hm hd
  unfold pgDateIn decodeDateTime dateFromTm
  rw [hdec]
  simp only [pure_bind, if_true]
  by_cases hv : IsValidJulian tm.tmYear tm.tmMon tm.tmMday
  · have hJ := hjv.1 hv
    have e := @date2j_val tm.tmYear tm.tmMon tm.tmMday (by unfold IsValidJulian at hv; omega)
      (by unfold IsValidJulian at hv; omega) hm (by omega) (by omega)
    have hdate : date2j tm.tmYear tm.tmMon tm.tmMday - postgresEpochJdate =
        .ofInt (date2jInt tm.tmYear.val tm.tmMon.val tm.tmMday.val - 2451545) := by
      rw [← SInt.val_inj, SInt.val_sub, SInt.val_ofInt, e, postgresEpochJdate_val]
    rw [if_neg (not_not.2 hv), hdate]
    have hval : (SInt.ofInt (date2jInt tm.tmYear.val tm.tmMon.val tm.tmMday.val - 2451545) : Int32).val =
        date2jInt tm.tmYear.val tm.tmMon.val tm.tmMday.val - 2451545 :=
      wrap_eq_self (by decide) (by unfold InRange; omega)
    by_cases hr : 0 ≤ date2jInt tm.tmYear.val tm.tmMon.val tm.tmMday.val ∧
        date2jInt tm.tmYear.val tm.tmMon.val tm.tmMday.val < 2147483494
    · rw [if_pos hr, if_pos (by unfold IsValidDate; rw [hval, postgresEpochJdate_val]; omega)]
      rfl
    · rw [if_neg hr, if_neg (by unfold IsValidDate; rw [hval, postgresEpochJdate_val]; omega)]
      rfl
  · rw [if_pos hv, if_neg (by rw [hjv] at hv; omega)]
    rfl

/-- Text printed by `pg_date_out` is read back by `pg_date_in` as the same date: for every valid
date, whenever the parser reads the formatter's text as the year, month and day it was given. -/
theorem pgDateIn_pgDateOut {date y m d : Int32} {tm : PgTm} {fsec z : Int32} (hv : IsValidDate date)
    (hj : j2date (date + postgresEpochJdate) = (y, m, d))
    (hdec : decode (encodeDateOnly y m d dateStyle) = .ok ⟨dtkDate, tm, fsec, z⟩)
    (htm : tm.tmYear = y ∧ tm.tmMon = m ∧ tm.tmMday = d) :
    pgDateOut encodeDateOnly date = .ok (encodeDateOnly y m d dateStyle) ∧
      pgDateIn decode (encodeDateOnly y m d dateStyle) = .ok date := by
  unfold IsValidDate at hv
  rw [postgresEpochJdate_val] at hv
  have hf : ¬DateNotFinite date := by
    unfold DateNotFinite
    rw [show dateNobegin.val = -2147483648 from rfl, show dateNoend.val = 2147483647 from rfl]
    omega
  have hjd : (date + postgresEpochJdate).val = date.val + 2451545 := by
    rw [SInt.val_add, postgresEpochJdate_val, wrap_eq_self (by decide) (by unfold InRange; omega)]
  obtain ⟨-, -, hm1, hm2, hd1, hd2⟩ := j2date_bounds (by omega : 0 ≤ (date + postgresEpochJdate).val)
  have hJ := date2jInt_j2date (by omega : 0 ≤ (date + postgresEpochJdate).val)
  rw [hj] at hm1 hm2 hd1 hd2 hJ
  obtain ⟨rfl, rfl, rfl⟩ := htm
  refine ⟨pgDateOut_eq encodeDateOnly hf hj, ?_⟩
  rw [pgDateIn_of_date decode hdec ⟨hm1, hm2⟩ ⟨hd1, hd2⟩]
  dsimp only at hJ
  rw [hJ, hjd, if_pos (by omega), add_sub_cancel_right]
  exact congrArg _ (SInt.val_inj.1 (wrap_eq_self (by decide) date.inRange))

/-- A text `pg_date_in` reads as a date of the calendar in the date range is printed by
`pg_date_out` from the same year, month and day. -/
theorem pgDateOut_pgDateIn {s : String} {tm : PgTm} {fsec z : Int32}
    (hdec : decode s = .ok ⟨dtkDate, tm, fsec, z⟩) (hm : 1 ≤ tm.tmMon.val ∧ tm.tmMon.val ≤ 12)
    (hd : 1 ≤ tm.tmMday.val ∧ tm.tmMday.val ≤ daysInMonth tm.tmYear.val tm.tmMon.val)
    (hr : 0 ≤ date2jInt tm.tmYear.val tm.tmMon.val tm.tmMday.val ∧
      date2jInt tm.tmYear.val tm.tmMon.val tm.tmMday.val < 2147483494) :
    pgDateIn decode s = .ok (.ofInt (date2jInt tm.tmYear.val tm.tmMon.val tm.tmMday.val - 2451545)) ∧
      pgDateOut encodeDateOnly (.ofInt (date2jInt tm.tmYear.val tm.tmMon.val tm.tmMday.val - 2451545)) =
        .ok (encodeDateOnly tm.tmYear tm.tmMon tm.tmMday dateStyle) := by
  have hb := daysInMonth_bounds tm.tmYear.val tm.tmMon.val
  have hy := year_bounds_of_date2jInt hm (by omega) ⟨hr.1, by omega⟩
  have hval : (SInt.ofInt (date2jInt tm.tmYear.val tm.tmMon.val tm.tmMday.val - 2451545) : Int32).val =
      date2jInt tm.tmYear.val tm.tmMon.val tm.tmMday.val - 2451545 :=
    wrap_eq_self (by decide) (by unfold InRange; omega)
  have hf : ¬DateNotFinite (.ofInt (date2jInt tm.tmYear.val tm.tmMon.val tm.tmMday.val - 2451545)) := by
    unfold DateNotFinite
    rw [hval, show dateNobegin.val = -2147483648 from rfl, show dateNoend.val = 2147483647 from rfl]
    omega
  have hjd : SInt.ofInt (date2jInt tm.tmYear.val tm.tmMon.val tm.tmMday.val - 2451545) + postgresEpochJdate =
      date2j tm.tmYear tm.tmMon tm.tmMday := by
    rw [← SInt.val_inj, SInt.val_add, hval, postgresEpochJdate_val, sub_add_cancel,
      @date2j_val tm.tmYear tm.tmMon tm.tmMday (by omega) hy.2 hm (by omega) (by omega),
      wrap_eq_self (by decide) (by unfold InRange; omega)]
  refine ⟨by rw [pgDateIn_of_date decode hdec hm ⟨hd.1, by omega⟩, if_pos hr], ?_⟩
  exact pgDateOut_eq encodeDateOnly hf (by rw [hjd, j2date_date2j_of_range hm hd ⟨hr.1, by omega⟩])

end DateRoundTrip

/-- The date 2000-01-01, printed and read back. -/
theorem pgDateIn_pgDateOut_at_2000 :
    IsValidDate 0 ∧ j2date (0 + postgresEpochJdate) = (2000, 1, 1) ∧
      pgDateOut (fun _ _ _ _ => "2000-01-01") 0 = .ok "2000-01-01" ∧
      pgDateIn (fun _ => .ok ⟨dtkDate, ⟨0, 0, 0, 1, 1, 2000⟩, 0, 0⟩) "2000-01-01" = .ok 0 :=
  ⟨by decide, by decide,
    @pgDateIn_pgDateOut (fun _ => .ok ⟨dtkDate, ⟨0, 0, 0, 1, 1, 2000⟩, 0, 0⟩) (fun _ _ _ _ => "2000-01-01")
      0 2000 1 1 ⟨0, 0, 0, 1, 1, 2000⟩ 0 0 (by decide) (by decide) rfl ⟨rfl, rfl, rfl⟩⟩

/-- The text `2000-02-29`, read as the leap day, is printed from the same year, month and day. -/
theorem pgDateOut_pgDateIn_at_leap_day :
    (1 ≤ (2 : Int32).val ∧ (2 : Int32).val ≤ 12) ∧
      (1 ≤ (29 : Int32).val ∧ (29 : Int32).val ≤ daysInMonth (2000 : Int32).val (2 : Int32).val) ∧
      (0 ≤ date2jInt (2000 : Int32).val (2 : Int32).val (29 : Int32).val ∧
        date2jInt (2000 : Int32).val (2 : Int32).val (29 : Int32).val < 2147483494) ∧
      pgDateIn (fun _ => .ok ⟨dtkDate, ⟨0, 0, 0, 29, 2, 2000⟩, 0, 0⟩) "2000-02-29" = .ok 59 ∧
      pgDateOut (fun y m d _ => s!"{y}-{m}-{d}") 59 = .ok "2000-2-29" :=
  ⟨by decide, by decide, by decide,
    @pgDateOut_pgDateIn (fun _ => .ok ⟨dtkDate, ⟨0, 0, 0, 29, 2, 2000⟩, 0, 0⟩) (fun y m d _ => s!"{y}-{m}-{d}")
      "2000-02-29" ⟨0, 0, 0, 29, 2, 2000⟩ 0 0 rfl (by decide) (by decide) (by decide)⟩

end PgCall
