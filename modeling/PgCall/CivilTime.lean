import PgCall.RoundTrip

/-!
# Civil time

The calendar first: `nextDay` is the day after a date, and `date2j` numbers consecutive days
consecutively (`date2jInt_nextDay`), so two dates of the calendar with one Julian day are one
date (`date2jInt_inj`), and `j2date` steps through the calendar one day at a time
(`j2date_succ`). The first days of the months come in order, so an earlier month has smaller
Julian days (`date2jInt_lt_of_month_lt`).

Then the abstract level of the timestamp arithmetic: a date of the calendar and a time of day in
microseconds, over the integers. `CivilTime.toTimestamp` counts the microseconds from
2000-01-01 00:00 with `date2jInt`, the day count of `date2j`, and a valid civil time is the only
one with its timestamp (`CivilTime.eq_of_toTimestamp_eq`). `CivilTime.addMonths` moves the
month count `12 * year + month` and clamps the day to the length of the month it reaches; it
keeps the order of civil times except where two days are clamped onto one
(`CivilTime.addMonths_mono`).

`plIntervalExact` is what adding an interval to a timestamp means, step by step as
`pg_timestamp_pl_interval` documents it: the months on the calendar, then the days, then the
microseconds, each over the integers, failing when the result or an intermediate result leaves
the range of timestamps.
-/

namespace PgCall

/-! ## Consecutive days -/

private theorem date2jInt_next_year (y : ℤ) : date2jInt (y + 1) 1 1 = date2jInt y 12 31 + 1 := by
  unfold date2jInt
  dsimp only
  rw [if_neg (by decide), if_neg (by decide), if_pos (by decide), if_pos (by decide),
    show y + 1 + 4799 = y + 4800 by ring]
  omega

private theorem date2jInt_add_days (y m d k : ℤ) : date2jInt y m (d + k) = date2jInt y m d + k := by
  unfold date2jInt; ring

/-- The day after `(y, m, d)` on the calendar, the abstract successor the Julian day numbers
follow. -/
def nextDay (y m d : ℤ) : ℤ × ℤ × ℤ :=
  if d < daysInMonth y m then (y, m, d + 1) else if m < 12 then (y, m + 1, 1) else (y + 1, 1, 1)

theorem nextDay_valid {y m d : ℤ} (hm : 1 ≤ m ∧ m ≤ 12) (hd : 1 ≤ d ∧ d ≤ daysInMonth y m) :
    1 ≤ (nextDay y m d).2.1 ∧ (nextDay y m d).2.1 ≤ 12 ∧ 1 ≤ (nextDay y m d).2.2 ∧
      (nextDay y m d).2.2 ≤ daysInMonth (nextDay y m d).1 (nextDay y m d).2.1 := by
  unfold nextDay
  split_ifs with h1 h2 <;> dsimp only
  · omega
  · have := daysInMonth_bounds y (m + 1); omega
  · have := daysInMonth_bounds (y + 1) 1; omega

theorem date2jInt_nextDay {y m d : ℤ} (hm : 1 ≤ m ∧ m ≤ 12) (hd : d ≤ daysInMonth y m) :
    date2jInt (nextDay y m d).1 (nextDay y m d).2.1 (nextDay y m d).2.2 = date2jInt y m d + 1 := by
  unfold nextDay
  split_ifs with h1 h2 <;> dsimp only
  · exact date2jInt_add_days y m d 1
  · rw [← date2jInt_add_days, date2jInt_next_month ⟨hm.1, by omega⟩, show d = daysInMonth y m by omega,
      add_sub_cancel_left]
  · obtain rfl : m = 12 := by omega
    obtain rfl : d = 31 := by unfold daysInMonth at hd h1; norm_num at hd h1; omega
    exact date2jInt_next_year y

theorem date2jInt_inj {y m d y' m' d' : ℤ} (hm : 1 ≤ m ∧ m ≤ 12) (hd : 1 ≤ d ∧ d ≤ daysInMonth y m)
    (hm' : 1 ≤ m' ∧ m' ≤ 12) (hd' : 1 ≤ d' ∧ d' ≤ daysInMonth y' m')
    (h : date2jInt y m d = date2jInt y' m' d')
    (hJ : 0 ≤ date2jInt y m d ∧ date2jInt y m d < 2147483648) : y = y' ∧ m = m' ∧ d = d' := by
  have hy := year_bounds_of_date2jInt hm (by have := daysInMonth_bounds y m; omega) hJ
  have hy' := year_bounds_of_date2jInt hm' (by have := daysInMonth_bounds y' m'; omega) (h ▸ hJ)
  have e := ymdOfCycleDays_date2jInt (by omega) hm hd hJ.1
  rw [h, ymdOfCycleDays_date2jInt (by omega) hm' hd' (h ▸ hJ.1), Prod.mk.injEq, Prod.mk.injEq] at e
  omega

theorem j2date_succ {jd : Int32} (h0 : 0 ≤ jd.val) (h1 : jd.val < 2147483647) :
    ((j2date (jd + 1)).1.val, (j2date (jd + 1)).2.1.val, (j2date (jd + 1)).2.2.val) =
      nextDay (j2date jd).1.val (j2date jd).2.1.val (j2date jd).2.2.val := by
  have e : (jd + 1).val = jd.val + 1 := by
    simp (disch := first | decide | (unfold InRange; omega)) only [SInt.val_add, SInt.val_ofNat_of_lt,
      Nat.cast_one, wrap_eq_self]
  have h0' : 0 ≤ (jd + 1).val := by omega
  obtain ⟨-, -, hm1, hm2, hd1, -⟩ := j2date_bounds h0
  obtain ⟨-, -, hm1', hm2', hd1', -⟩ := j2date_bounds h0'
  have hdim := j2date_mday_le h0
  have hdim' := j2date_mday_le h0'
  have hJ := date2jInt_j2date h0
  have hJ' := date2jInt_j2date h0'
  -- the calendar routine is kept abstract from here on: reducing its projections would make the
  -- kernel evaluate it
  generalize j2date jd = p at *
  generalize j2date (jd + 1) = q at *
  obtain ⟨y, m, d⟩ := p
  obtain ⟨y', m', d'⟩ := q
  dsimp only at *
  have hn := date2jInt_nextDay ⟨hm1, hm2⟩ hdim
  obtain ⟨hv1, hv2, hv3, hv4⟩ := nextDay_valid ⟨hm1, hm2⟩ ⟨hd1, hdim⟩
  obtain ⟨ey, em, ed⟩ := date2jInt_inj ⟨hm1', hm2'⟩ ⟨hd1', hdim'⟩ ⟨hv1, hv2⟩ ⟨hv3, hv4⟩
    (by rw [hn, hJ, hJ', e]) (by rw [hJ', e]; omega)
  rw [ey, em, ed]

/-- The day after 2000-02-28 is the leap day. -/
theorem j2date_succ_at_feb28 :
    0 ≤ (2451603 : Int32).val ∧ (2451603 : Int32).val < 2147483647 ∧
      j2date 2451603 = (2000, 2, 28) ∧ j2date (2451603 + 1) = (2000, 2, 29) ∧
      ((j2date (2451603 + 1)).1.val, (j2date (2451603 + 1)).2.1.val, (j2date (2451603 + 1)).2.2.val) =
        nextDay (j2date 2451603).1.val (j2date 2451603).2.1.val (j2date 2451603).2.2.val :=
  ⟨by decide, by decide, by decide, by decide, j2date_succ (by decide) (by decide)⟩

private theorem date2jInt_first_succ (n : ℤ) :
    date2jInt ((n + 1) / 12) ((n + 1) % 12 + 1) 1 =
      date2jInt (n / 12) (n % 12 + 1) 1 + daysInMonth (n / 12) (n % 12 + 1) := by
  have hm : 1 ≤ n % 12 + 1 ∧ n % 12 + 1 ≤ 12 := by omega
  have hn := date2jInt_nextDay hm (le_refl (daysInMonth (n / 12) (n % 12 + 1)))
  have hs : nextDay (n / 12) (n % 12 + 1) (daysInMonth (n / 12) (n % 12 + 1)) =
      ((n + 1) / 12, (n + 1) % 12 + 1, 1) := by
    unfold nextDay
    rw [if_neg (lt_irrefl _)]
    split_ifs with h
    · rw [Prod.mk.injEq, Prod.mk.injEq]; omega
    · rw [Prod.mk.injEq, Prod.mk.injEq]; omega
  rw [hs] at hn
  dsimp only at hn
  rw [hn, show daysInMonth (n / 12) (n % 12 + 1) = 1 + (daysInMonth (n / 12) (n % 12 + 1) - 1) by ring,
    date2jInt_add_days]
  ring

private theorem date2jInt_first_le {n n' : ℤ} (h : n < n') :
    date2jInt (n / 12) (n % 12 + 1) 1 + daysInMonth (n / 12) (n % 12 + 1) ≤
      date2jInt (n' / 12) (n' % 12 + 1) 1 := by
  obtain ⟨k, rfl⟩ : ∃ k : ℕ, n' = n + 1 + k := ⟨(n' - n - 1).toNat, by omega⟩
  clear h
  induction k with
  | zero => rw [Nat.cast_zero, add_zero, date2jInt_first_succ]
  | succ k ih =>
    rw [Nat.cast_succ, ← add_assoc, date2jInt_first_succ (n + 1 + k)]
    have := daysInMonth_bounds ((n + 1 + k) / 12) ((n + 1 + k) % 12 + 1)
    omega

theorem date2jInt_lt_of_month_lt {y m d y' m' d' : ℤ} (hm : 1 ≤ m ∧ m ≤ 12)
    (hd : 1 ≤ d ∧ d ≤ daysInMonth y m) (hm' : 1 ≤ m' ∧ m' ≤ 12) (hd' : 1 ≤ d')
    (h : 12 * y + m < 12 * y' + m') : date2jInt y m d < date2jInt y' m' d' := by
  have e : ∀ {y m : ℤ}, 1 ≤ m ∧ m ≤ 12 → (12 * y + m - 1) / 12 = y ∧ (12 * y + m - 1) % 12 + 1 = m :=
    fun _ => ⟨by omega, by omega⟩
  have hle := @date2jInt_first_le (12 * y + m - 1) (12 * y' + m' - 1) (by omega)
  rw [(e hm).1, (e hm).2, (e hm').1, (e hm').2] at hle
  have a := date2jInt_add_days y m 1 (d - 1)
  have a' := date2jInt_add_days y' m' 1 (d' - 1)
  rw [add_sub_cancel] at a a'
  omega

/-! ## Civil time -/

/-- A date and a time of day in microseconds, over the integers. -/
structure CivilTime where
  year : ℤ
  month : ℤ
  day : ℤ
  usec : ℤ
deriving DecidableEq, Repr

/-- A date of the calendar and a time of day. -/
structure CivilTime.Valid (c : CivilTime) : Prop where
  month : 1 ≤ c.month ∧ c.month ≤ 12
  day : 1 ≤ c.day ∧ c.day ≤ daysInMonth c.year c.month
  usec : 0 ≤ c.usec ∧ c.usec < 86400000000

instance (c : CivilTime) : Decidable c.Valid :=
  decidable_of_iff ((1 ≤ c.month ∧ c.month ≤ 12) ∧ (1 ≤ c.day ∧ c.day ≤ daysInMonth c.year c.month) ∧
      (0 ≤ c.usec ∧ c.usec < 86400000000))
    ⟨fun ⟨hm, hd, hu⟩ => ⟨hm, hd, hu⟩, fun ⟨hm, hd, hu⟩ => ⟨hm, hd, hu⟩⟩

/-- The microseconds from 2000-01-01 00:00, Julian day `POSTGRES_EPOCH_JDATE`. -/
def CivilTime.toTimestamp (c : CivilTime) : ℤ :=
  (date2jInt c.year c.month c.day - 2451545) * 86400000000 + c.usec

/-- `IS_VALID_TIMESTAMP` over the integers. -/
def TimestampInRange (t : ℤ) : Prop := minTimestamp.val ≤ t ∧ t < endTimestamp.val

instance (t : ℤ) : Decidable (TimestampInRange t) := inferInstanceAs (Decidable (_ ∧ _))

theorem timestampInRange_iff {t : ℤ} :
    TimestampInRange t ↔ -211813488000000000 ≤ t ∧ t < 9223371331200000000 := Iff.rfl

theorem isValidTimestamp_iff_inRange {t : Int64} : IsValidTimestamp t ↔ TimestampInRange t.val :=
  Iff.rfl

/-- The Julian day of a timestamp: its whole days from 2000-01-01, rounded down. -/
def julianOfTimestamp (t : ℤ) : ℤ := t / 86400000000 + 2451545

theorem CivilTime.julianOfTimestamp_toTimestamp {c : CivilTime} (hc : c.Valid) :
    julianOfTimestamp c.toTimestamp = date2jInt c.year c.month c.day ∧
      c.toTimestamp % 86400000000 = c.usec := by
  obtain ⟨hq, hr⟩ : c.toTimestamp / 86400000000 = date2jInt c.year c.month c.day - 2451545 ∧
      c.toTimestamp % 86400000000 = c.usec :=
    (Int.ediv_emod_unique (by decide)).2 ⟨by unfold toTimestamp; ring, hc.usec.1, hc.usec.2⟩
  exact ⟨by rw [julianOfTimestamp, hq]; ring, hr⟩

/-- A timestamp in range is the timestamp of one valid civil time at most. -/
theorem CivilTime.eq_of_toTimestamp_eq {c c' : CivilTime} (hc : c.Valid) (hc' : c'.Valid)
    (h : c.toTimestamp = c'.toTimestamp) (hr : TimestampInRange c.toTimestamp) : c = c' := by
  obtain ⟨hj, hu⟩ := julianOfTimestamp_toTimestamp hc
  obtain ⟨hj', hu'⟩ := julianOfTimestamp_toTimestamp hc'
  rw [h] at hj hu
  have eJ : date2jInt c.year c.month c.day = date2jInt c'.year c'.month c'.day := hj.symm.trans hj'
  -- a timestamp in range falls on a Julian day from 0 on, where `j2date`'s calendar inverts
  -- `date2jInt`
  have hJ : 0 ≤ date2jInt c.year c.month c.day ∧ date2jInt c.year c.month c.day < 2147483648 := by
    have := hc.usec
    rw [timestampInRange_iff] at hr
    unfold toTimestamp at hr
    omega
  obtain ⟨ey, em, ed⟩ := date2jInt_inj hc.month hc.day hc'.month hc'.day eJ hJ
  have eu : c.usec = c'.usec := hu.symm.trans hu'
  cases c
  cases c'
  simp only [CivilTime.mk.injEq] at ey em ed eu ⊢
  exact ⟨ey, em, ed, eu⟩

/-! ## Adding months -/

/-- Adding `months` to the month count `12 * year + month - 1`, and clamping the day of month to
the length of the month reached. -/
def CivilTime.addMonths (c : CivilTime) (months : ℤ) : CivilTime :=
  let n := 12 * c.year + (c.month - 1) + months
  { c with year := n / 12, month := n % 12 + 1, day := min c.day (daysInMonth (n / 12) (n % 12 + 1)) }

theorem CivilTime.addMonths_valid {c : CivilTime} (hc : c.Valid) (months : ℤ) :
    (c.addMonths months).Valid := by
  have := daysInMonth_bounds ((12 * c.year + (c.month - 1) + months) / 12)
    ((12 * c.year + (c.month - 1) + months) % 12 + 1)
  exact ⟨by dsimp only [addMonths]; omega, by dsimp only [addMonths]; have := hc.day; omega, hc.usec⟩

theorem CivilTime.monthCount_addMonths (c : CivilTime) (months : ℤ) :
    12 * (c.addMonths months).year + (c.addMonths months).month = 12 * c.year + c.month + months := by
  dsimp only [addMonths]
  omega

theorem CivilTime.addMonths_zero {c : CivilTime} (hc : c.Valid) : c.addMonths 0 = c := by
  obtain ⟨hm, hd, -⟩ := hc
  have hy : (12 * c.year + (c.month - 1) + 0) / 12 = c.year := by omega
  have hmo : (12 * c.year + (c.month - 1) + 0) % 12 + 1 = c.month := by omega
  simp only [addMonths, hy, hmo, min_eq_left hd.2]

/-- Adding months in two steps is adding them at once, unless the first step clamps the day of
month. -/
theorem CivilTime.addMonths_addMonths (c : CivilTime) (m1 m2 : ℤ)
    (h : c.day ≤ daysInMonth (c.addMonths m1).year (c.addMonths m1).month) :
    (c.addMonths m1).addMonths m2 = c.addMonths (m1 + m2) := by
  have hn : 12 * (c.addMonths m1).year + ((c.addMonths m1).month - 1) + m2 =
      12 * c.year + (c.month - 1) + (m1 + m2) := by
    have := monthCount_addMonths c m1; omega
  have hd : (c.addMonths m1).day = c.day := min_eq_left h
  rw [addMonths, hn, hd]
  rfl

theorem CivilTime.toTimestamp_lt_of_date_lt {c c' : CivilTime} (hc : c.Valid) (hc' : c'.Valid)
    (h : date2jInt c.year c.month c.day < date2jInt c'.year c'.month c'.day) :
    c.toTimestamp < c'.toTimestamp := by
  have := hc.usec
  have := hc'.usec
  unfold toTimestamp
  omega

/-- `addMonths` keeps the order of valid civil times, except that two days of one month both
clamped to its last day meet, keeping their times of day. -/
theorem CivilTime.addMonths_mono {c₁ c₂ : CivilTime} (h₁ : c₁.Valid) (h₂ : c₂.Valid)
    (h : c₁.toTimestamp ≤ c₂.toTimestamp) (k : ℤ) :
    (c₁.addMonths k).toTimestamp ≤ (c₂.addMonths k).toTimestamp ∨
      julianOfTimestamp (c₁.addMonths k).toTimestamp = julianOfTimestamp (c₂.addMonths k).toTimestamp := by
  have v₁ := addMonths_valid h₁ k
  have v₂ := addMonths_valid h₂ k
  have n₁ := monthCount_addMonths c₁ k
  have n₂ := monthCount_addMonths c₂ k
  have hm₁ := h₁.month
  have hm₂ := h₂.month
  rcases lt_trichotomy (12 * c₁.year + c₁.month) (12 * c₂.year + c₂.month) with hlt | heq | hgt
  · -- an earlier month stays an earlier month
    exact .inl (toTimestamp_lt_of_date_lt v₁ v₂
      (date2jInt_lt_of_month_lt v₁.month v₁.day v₂.month v₂.day.1 (by omega))).le
  swap
  · exact absurd h (not_le.2 (toTimestamp_lt_of_date_lt h₂ h₁
      (date2jInt_lt_of_month_lt h₂.month h₂.day h₁.month h₁.day.1 hgt)))
  -- one month: the days compare as they did, and meet where both are clamped
  obtain ⟨y, m, d₁, u₁⟩ := c₁
  obtain ⟨y', m', d₂, u₂⟩ := c₂
  obtain ⟨rfl, rfl⟩ : y = y' ∧ m = m' := by dsimp only at heq hm₁ hm₂; omega
  have a₁ := date2jInt_add_days y m 1 (d₁ - 1)
  have a₂ := date2jInt_add_days y m 1 (d₂ - 1)
  rw [add_sub_cancel] at a₁ a₂
  have hd : d₁ ≤ d₂ := by
    have hu₁ := h₁.usec
    have hu₂ := h₂.usec
    unfold toTimestamp at h
    dsimp only at h hu₁ hu₂
    omega
  obtain ⟨j₁, -⟩ := julianOfTimestamp_toTimestamp v₁
  obtain ⟨j₂, -⟩ := julianOfTimestamp_toTimestamp v₂
  rw [j₁, j₂]
  dsimp only [addMonths] at v₁ v₂ ⊢
  generalize (12 * y + (m - 1) + k) / 12 = Y at v₁ v₂ ⊢
  generalize (12 * y + (m - 1) + k) % 12 + 1 = M at v₁ v₂ ⊢
  rcases (min_le_min_right (daysInMonth Y M) hd).lt_or_eq with hlt | heq'
  · refine .inl (toTimestamp_lt_of_date_lt v₁ v₂ ?_).le
    dsimp only
    have b₁ := date2jInt_add_days Y M 1 (min d₁ (daysInMonth Y M) - 1)
    have b₂ := date2jInt_add_days Y M 1 (min d₂ (daysInMonth Y M) - 1)
    rw [add_sub_cancel] at b₁ b₂
    omega
  · exact .inr (by rw [heq'])

/-! ## Adding an interval -/

/-- The month step of adding an interval: the timestamp `months` months later on the calendar,
with the day of month clamped and the time of day kept. -/
def plMonthsExact (c : CivilTime) (months : ℤ) : ℤ :=
  if months ≠ 0 then (c.addMonths months).toTimestamp else c.toTimestamp

theorem plMonthsExact_eq {c : CivilTime} (hc : c.Valid) (months : ℤ) :
    plMonthsExact c months = (c.addMonths months).toTimestamp := by
  unfold plMonthsExact
  split_ifs with h
  · rfl
  · rw [not_not.1 h, CivilTime.addMonths_zero hc]

/-- The day step: `days` whole days later. -/
def plDaysExact (t days : ℤ) : ℤ :=
  if days ≠ 0 then t + days * 86400000000 else t

/-- Adding an interval of `months`, `days` and `usecs` to the timestamp of `c`, over the
integers: months first, then days, then microseconds, failing when the result or one of the two
intermediate results is out of range. -/
def plIntervalExact (c : CivilTime) (months days usecs : ℤ) : Option ℤ :=
  let r1 := plMonthsExact c months
  let r2 := plDaysExact r1 days
  if TimestampInRange r1 ∧ TimestampInRange r2 ∧ TimestampInRange (r2 + usecs) then some (r2 + usecs)
  else none

end PgCall
