import PgCall.Typmod

/-!
# Reading a timestamp

`timestamp_in_common` hands the string to PostgreSQL's `ParseDateTime` and `DecodeDateTime`,
turns the decoded fields into a timestamp with `tm2timestamp` (whose range check rejects the
out-of-range dates) and only then rounds it to the requested precision. The parser is a
parameter here: it is general date/time parsing outside this repository. Rounding after the
range check lets the last microsecond of the range, read at precision 0, round up onto
`END_TIMESTAMP`.
-/

namespace PgCall

/-- `DTERR_BAD_FORMAT`. -/
def dterrBadFormat : Int32 := .ofInt (-1)
/-- `DTERR_FIELD_OVERFLOW`. -/
def dterrFieldOverflow : Int32 := .ofInt (-2)
/-- `DTERR_MD_FIELD_OVERFLOW`. -/
def dterrMdFieldOverflow : Int32 := .ofInt (-3)
/-- `DTERR_INTERVAL_OVERFLOW`. -/
def dterrIntervalOverflow : Int32 := .ofInt (-4)
/-- `DTERR_TZDISP_OVERFLOW`. -/
def dterrTzdispOverflow : Int32 := .ofInt (-5)

/-- `DTK_DATE`. -/
def dtkDate : Int32 := 2
/-- `DTK_EARLY`, the literal `-infinity`. -/
def dtkEarly : Int32 := 9
/-- `DTK_LATE`, the literal `infinity`. -/
def dtkLate : Int32 := 10
/-- `DTK_EPOCH`, the literal `epoch`. -/
def dtkEpoch : Int32 := 11

/-- What `ParseDateTime` and `DecodeDateTime` leave for `timestamp_in_common`: the kind of value
read, the broken-down time, the fractional seconds and the zone displacement. -/
structure DecodedDateTime where
  dtype : Int32
  tm : PgTm
  fsec : Int32
  tz : Int32

/-- `DateTimeParseError`: the message of a decoding error. -/
def dateTimeParseError (dterr : Int32) (str datatype : String) : String :=
  if dterr = dterrFieldOverflow then s!"date/time field value out of range: \"{str}\""
  else if dterr = dterrMdFieldOverflow then s!"date/time field value out of range: \"{str}\""
  else if dterr = dterrIntervalOverflow then s!"interval field value out of range: \"{str}\""
  else if dterr = dterrTzdispOverflow then s!"time zone displacement out of range: \"{str}\""
  else s!"invalid input syntax for type {datatype}: \"{str}\""

/-- `ParseDateTime` and `DecodeDateTime`, given as `decode`, which returns a `DTERR_*` code or the
decoded fields; a code is reported by `DateTimeParseError` for the type `datatype`. -/
def decodeDateTime (decode : String → Except Int32 DecodedDateTime) (str datatype : String) :
    Except String DecodedDateTime :=
  match decode str with
  | .ok d => pure d
  | .error dterr => throw (dateTimeParseError dterr str datatype)

/-- The `switch (dtype)` of `timestamp_in_common`: the timestamp the decoded fields name. -/
def timestampOfDecoded (d : DecodedDateTime) (str : String) (withtz : Bool) : Except String Int64 :=
  if d.dtype = dtkDate then
    match tm2timestamp d.tm d.fsec (if withtz then some d.tz else none) with
    | some result => pure result
    | none => throw s!"timestamp out of range: \"{str}\""
  else if d.dtype = dtkEpoch then pure setEpochTimestamp
  else if d.dtype = dtkLate then pure dtNoend
  else if d.dtype = dtkEarly then pure dtNobegin
  else
    let tz := if withtz then "tz" else ""
    throw s!"unexpected dtype {d.dtype} while parsing timestamp{tz} \"{str}\""

/-- `timestamp_in_common`. -/
def timestampInCommon (decode : String → Except Int32 DecodedDateTime) (str : String)
    (typmod : Int32) (withtz : Bool) : Except String Int64 :=
  decodeDateTime decode str (if withtz then "timestamp with time zone" else "timestamp") >>= fun d =>
  timestampOfDecoded d str withtz >>= fun result =>
  adjustTimestampForTypmod result typmod

/-- `pg_timestamp_in`. -/
def pgTimestampIn (decode : String → Except Int32 DecodedDateTime) (str : String)
    (typmod : Int32) : Except String Int64 :=
  timestampInCommon decode str typmod false

theorem timestampOfDecoded_range {d : DecodedDateTime} {str : String} {withtz : Bool} {r : Int64}
    (h : timestampOfDecoded d str withtz = .ok r) : IsValidTimestamp r ∨ TimestampNotFinite r := by
  unfold timestampOfDecoded at h
  generalize (if withtz then some d.tz else none) = tzp at h
  split_ifs at h
  · split at h
    · rename_i hr
      exact .inl (Except.ok.inj h ▸ tm2timestamp_valid hr)
    · cases h
  · exact .inl (Except.ok.inj h ▸ by decide)
  · exact .inr (.inr (Except.ok.inj h ▸ rfl))
  · exact .inr (.inl (Except.ok.inj h ▸ rfl))

/-- Every timestamp `timestamp_in_common` returns is in range, a sentinel, or `END_TIMESTAMP`, where
the rounding to the precision lifts the last fraction of a second of the range. -/
theorem timestampInCommon_range {decode : String → Except Int32 DecodedDateTime} {str : String}
    {typmod : Int32} {withtz : Bool} {r : Int64} (h : timestampInCommon decode str typmod withtz = .ok r) :
    IsValidTimestamp r ∨ TimestampNotFinite r ∨ r = endTimestamp := by
  obtain ⟨d, -, h⟩ := bind_eq_ok.1 h
  obtain ⟨t, ht, h⟩ := bind_eq_ok.1 h
  exact adjustTimestampForTypmod_range (timestampOfDecoded_range ht) h

/-! ## Dates -/

/-- `DATE_NOBEGIN`, the date `-infinity`. -/
def dateNobegin : Int32 := .ofInt (-2147483648)
/-- `DATE_NOEND`, the date `infinity`. -/
def dateNoend : Int32 := 2147483647

/-- `IS_VALID_DATE(d)`: from Julian day 0 up to `DATE_END_JULIAN` (5874898-01-01), excluded. -/
def IsValidDate (d : Int32) : Prop := 0 - postgresEpochJdate.val ≤ d.val ∧ d.val < 2147483494 - postgresEpochJdate.val

instance (d : Int32) : Decidable (IsValidDate d) := inferInstanceAs (Decidable (_ ∧ _))

/-- The end of `pg_date_in` once a broken-down date is known: the date relative to 2000-01-01,
refused out of range. -/
def dateFromTm (tm : PgTm) (str : String) : Except String Int32 :=
  -- prevent overflow in Julian-day routines
  if ¬IsValidJulian tm.tmYear tm.tmMon tm.tmMday then throw s!"date out of range: \"{str}\"" else
  let date := date2j tm.tmYear tm.tmMon tm.tmMday - postgresEpochJdate
  -- now check for just-out-of-range dates
  if IsValidDate date then pure date else throw s!"date out of range: \"{str}\""

/-- `pg_date_in`. -/
def pgDateIn (decode : String → Except Int32 DecodedDateTime) (str : String) :
    Except String Int32 :=
  decodeDateTime decode str "date" >>= fun d =>
  if d.dtype = dtkDate then dateFromTm d.tm str
  else if d.dtype = dtkEpoch then dateFromTm getEpochTime str
  else if d.dtype = dtkLate then pure dateNoend
  else if d.dtype = dtkEarly then pure dateNobegin
  else throw (dateTimeParseError dterrBadFormat str "date")

theorem dateFromTm_valid {tm : PgTm} {str : String} {date : Int32}
    (h : dateFromTm tm str = .ok date) : IsValidDate date := by
  unfold dateFromTm at h
  dsimp only at h
  split_ifs at h with h1 h2
  exact (Except.ok.inj h) ▸ h2

/-- Every date `pg_date_in` returns is in range or a sentinel. -/
theorem pgDateIn_valid {decode : String → Except Int32 DecodedDateTime} {str : String}
    {date : Int32} (h : pgDateIn decode str = .ok date) :
    IsValidDate date ∨ date = dateNobegin ∨ date = dateNoend := by
  unfold pgDateIn at h
  obtain ⟨d, -, h⟩ := bind_eq_ok.1 h
  split_ifs at h
  · exact .inl (dateFromTm_valid h)
  · exact .inl (dateFromTm_valid h)
  · exact .inr (.inr (Except.ok.inj h).symm)
  · exact .inr (.inl (Except.ok.inj h).symm)

/-- The fields `DecodeDateTime` reads from `294276-12-31 23:59:59.999999`, the last microsecond
of the timestamp range. -/
def lastMicrosecond : DecodedDateTime := ⟨dtkDate, ⟨59, 59, 23, 31, 12, 294276⟩, 999999, 0⟩

/-- Read at precision 0, the last microsecond of the range passes the range check of
`tm2timestamp` and then rounds up onto `END_TIMESTAMP`, which is neither in range nor a
sentinel. -/
theorem timestampInCommon_rounds_onto_end (decode : String → Except Int32 DecodedDateTime)
    (h : decode "294276-12-31 23:59:59.999999" = .ok lastMicrosecond) :
    timestampInCommon decode "294276-12-31 23:59:59.999999" 0 false = .ok endTimestamp ∧
      ¬IsValidTimestamp endTimestamp ∧ ¬TimestampNotFinite endTimestamp := by
  refine ⟨?_, by decide, by decide⟩
  simp only [timestampInCommon, decodeDateTime, h]
  rfl

theorem timestampInCommon_rounds_onto_end_of_decoded :
    timestampInCommon (fun _ => .ok lastMicrosecond) "294276-12-31 23:59:59.999999" 0 false =
        .ok endTimestamp ∧
      ¬IsValidTimestamp endTimestamp ∧ ¬TimestampNotFinite endTimestamp :=
  timestampInCommon_rounds_onto_end _ rfl

end PgCall
