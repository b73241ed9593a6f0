import PgCall.CInt
import Mathlib.Tactic.Ring

/-!
# Intervals

PostgreSQL's `Interval` keeps months, days and microseconds apart. Comparison puts the three
on one linear scale, a day being 24 hours and a month 30 days (`Interval.linear`). This file
models the interval routines of `pg_call.c`: `interval_cmp_value` computes that scale exactly,
`pg_interval_pl` refuses exactly the sums that do not fit, and `pg_interval_justify_hours`
keeps the linear value unless the day count it folds into overflows. Justified intervals are
canonical forms: justification is idempotent, and for intervals of the same months it gives equal
results exactly when `pg_interval_cmp` finds them equal.
-/

namespace PgCall

/-- `USECS_PER_DAY`. -/
def usecsPerDay : Int64 := 86400000000

@[simp] theorem usecsPerDay_val : usecsPerDay.val = 86400000000 := rfl

/-- PostgreSQL's `Interval`. -/
structure Interval where
  time : Int64
  day : Int32
  month : Int32
deriving DecidableEq

namespace Interval

/-- The linear value in microseconds that `interval_relop` compares: a month of 30 days, a
day of 24 hours. -/
def linear (i : Interval) : ℤ :=
  i.month.val * 30 * 86400000000 + i.day.val * 86400000000 + i.time.val

end Interval

/-! ## Addition -/

/-- `SAMESIGN(a,b)`. -/
def sameSign {bits : ℕ} (a b : SInt bits) : Bool := decide (a.val < 0) == decide (b.val < 0)

/-- One field of `pg_interval_pl`: the wrapped sum, refused when it has left the sign its
operands share (the overflow check copied from `int4pl`). -/
def addField {bits : ℕ} (a b : SInt bits) : Except String (SInt bits) :=
  let result := a + b
  if sameSign a b && !sameSign result a then throw "interval out of range" else pure result

/-- `pg_interval_pl`. -/
def pgIntervalPl (span1 span2 : Interval) : Except String Interval := do
  let month ← addField span1.month span2.month
  let day ← addField span1.day span2.day
  let time ← addField span1.time span2.time
  pure ⟨time, day, month⟩

private theorem sameSign_overflow {bits : ℕ} (hb : 0 < bits) (a b : SInt bits) :
    (sameSign a b && !sameSign (a + b) a) = !decide (InRange bits (a.val + b.val)) := by
  have ha := a.range
  have hb' := b.range
  have hN := two_pow_eq_two_mul hb
  rcases SInt.wrap_add_cases hb a b with ⟨h0, h⟩ | ⟨h0, h⟩ | ⟨h0, h⟩ <;> unfold InRange at * <;>
    simp only [sameSign, SInt.val_add, h] <;> rw [Bool.eq_iff_iff] <;>
    simp only [sub_neg, Bool.and_eq_true, beq_iff_eq, decide_eq_decide, Bool.not_eq_eq_eq_not,
      Bool.not_true, beq_eq_false_iff_ne, ne_eq, Bool.decide_and, Bool.not_and, Bool.or_eq_true,
      decide_eq_false_iff_not, not_le, not_lt] <;>
    omega

private theorem addField_eq {bits : ℕ} (hb : 0 < bits) (a b : SInt bits) :
    addField a b = if InRange bits (a.val + b.val) then .ok (a + b)
      else .error "interval out of range" := by
  simp only [addField, sameSign_overflow hb]
  split_ifs <;> simp_all <;> rfl

/-- Under the hypotheses of `pg_interval_pl`'s fields, the sum is the three exact sums, or
"interval out of range" when one of them does not fit. -/
theorem pgIntervalPl_eq (span1 span2 : Interval) :
    pgIntervalPl span1 span2 =
      if InRange 32 (span1.month.val + span2.month.val) ∧ InRange 32 (span1.day.val + span2.day.val) ∧
          InRange 64 (span1.time.val + span2.time.val)
      then .ok ⟨span1.time + span2.time, span1.day + span2.day, span1.month + span2.month⟩
      else .error "interval out of range" := by
  simp only [pgIntervalPl, addField_eq (by decide : 0 < 32), addField_eq (by decide : 0 < 64)]
  by_cases h1 : InRange 32 (span1.month.val + span2.month.val) <;>
    by_cases h2 : InRange 32 (span1.day.val + span2.day.val) <;>
    by_cases h3 : InRange 64 (span1.time.val + span2.time.val) <;> simp [h1, h2, h3] <;> rfl

/-! ## Comparison -/

/-- `interval_cmp_value`: the linear value, computed with an `int64` day count and widened to
128 bits. -/
def intervalCmpValue (interval : Interval) : Int128 :=
  let dayfraction := interval.time % usecsPerDay
  let days := interval.time / usecsPerDay
  let days := days + interval.month.resize * (30 : Int64)
  let days := days + interval.day.resize
  let span : Int128 := dayfraction.resize
  span + days.resize * usecsPerDay.resize

/-- `int128_compare`. -/
def int128Compare (x y : Int128) : Int32 :=
  if x.val < y.val then -1 else if x.val > y.val then 1 else 0

/-- `pg_interval_cmp`. -/
def pgIntervalCmp (interval1 interval2 : Interval) : Int32 :=
  int128Compare (intervalCmpValue interval1) (intervalCmpValue interval2)

theorem tdiv_usecsPerDay (t : Int64) :
    t.val.tmod 86400000000 + 86400000000 * t.val.tdiv 86400000000 = t.val ∧
      -86400000000 < t.val.tmod 86400000000 ∧ t.val.tmod 86400000000 < 86400000000 ∧
      -106751991 ≤ t.val.tdiv 86400000000 ∧ t.val.tdiv 86400000000 ≤ 106751991 := by
  have := t.range
  rw [Int.tmod_def, tdiv_of_pos _ (by norm_num)]
  split <;> omega

/-- No step of `interval_cmp_value` overflows, and the truncating split of `time` loses
nothing: the result is the exact linear value. -/
theorem intervalCmpValue_val (i : Interval) : (intervalCmpValue i).val = i.linear := by
  have hm := i.month.range
  have hd := i.day.range
  obtain ⟨h1, h2, h3, h4, h5⟩ := tdiv_usecsPerDay i.time
  simp (disch := first | decide | (unfold InRange; omega)) only [intervalCmpValue, Interval.linear,
    SInt.val_add, SInt.val_mul, SInt.val_resize, SInt.val_div, SInt.val_mod, SInt.val_ofNat_of_lt,
    usecsPerDay_val, wrap_eq_self]
  omega

private theorem int128Compare_val (x y : Int128) :
    (int128Compare x y).val = if x.val < y.val then -1 else if x.val > y.val then 1 else 0 := by
  unfold int128Compare
  split_ifs <;> rfl

theorem pgIntervalCmp_linear :
    (∀ i, (intervalCmpValue i).val = i.linear) ∧
      ∀ a b, ((pgIntervalCmp a b).val < 0 ↔ a.linear < b.linear) ∧
        ((pgIntervalCmp a b).val = 0 ↔ a.linear = b.linear) ∧
        (0 < (pgIntervalCmp a b).val ↔ b.linear < a.linear) := by
  refine ⟨intervalCmpValue_val, fun a b => ?_⟩
  simp only [pgIntervalCmp, int128Compare_val, intervalCmpValue_val]
  rcases lt_trichotomy a.linear b.linear with h | h | h
  · simp [h, h.not_lt, h.ne]
  · simp [h]
  · simp [h, h.not_lt, h.ne']

/-- One month counts as 30 days, so it orders below 31 days. -/
example : (pgIntervalCmp ⟨0, 0, 1⟩ ⟨0, 31, 0⟩).val = -1 := by decide

/-- `pg_interval_pl` refuses exactly the sums with a field that does not fit, and otherwise
adds field by field and so adds the linear values. -/
theorem pgIntervalPl_exact (a b : Interval) :
    (pgIntervalPl a b = .error "interval out of range" ↔
      ¬(InRange 32 (a.month.val + b.month.val) ∧ InRange 32 (a.day.val + b.day.val) ∧
        InRange 64 (a.time.val + b.time.val))) ∧
    (InRange 32 (a.month.val + b.month.val) → InRange 32 (a.day.val + b.day.val) →
      InRange 64 (a.time.val + b.time.val) →
      ∃ r, pgIntervalPl a b = .ok r ∧ r.month.val = a.month.val + b.month.val ∧
        r.day.val = a.day.val + b.day.val ∧ r.time.val = a.time.val + b.time.val) ∧
    ∀ r, pgIntervalPl a b = .ok r →
      (intervalCmpValue r).val = (intervalCmpValue a).val + (intervalCmpValue b).val := by
  refine ⟨?_, fun h1 h2 h3 => ?_, fun r hr => ?_⟩
  · rw [pgIntervalPl_eq]
    split_ifs with h <;> simp [h]
  · rw [pgIntervalPl_eq, if_pos ⟨h1, h2, h3⟩]
    exact ⟨_, rfl, wrap_eq_self (by decide) h1, wrap_eq_self (by decide) h2,
      wrap_eq_self (by decide) h3⟩
  · rw [pgIntervalPl_eq] at hr
    split_ifs at hr with h
    obtain ⟨h1, h2, h3⟩ := h
    cases hr
    simp only [intervalCmpValue_val, Interval.linear, SInt.val_add, wrap_eq_self (by decide) h1,
      wrap_eq_self (by decide) h2, wrap_eq_self (by decide) h3]
    ring

/-! ## Justification -/

/-- `TMODULO(t,q,u)`: `t` reduced to its remainder by `u`, and the quotient `q`. -/
def tmodulo (t u : Int64) : Int64 × Int64 :=
  let q := t / u
  (if q.val ≠ 0 then t - q * u else t, q)

/-- `pg_interval_justify_hours`. The day count is summed in `int64` and stored back into the
`int32` field. -/
def pgIntervalJustifyHours (span : Interval) : Interval :=
  let split := tmodulo span.time usecsPerDay
  let day : Int32 := (span.day.resize + split.2 : Int64).resize
  if 0 < day.val ∧ split.1.val < 0 then ⟨split.1 + usecsPerDay, day - 1, span.month⟩
  else if day.val < 0 ∧ 0 < split.1.val then ⟨split.1 - usecsPerDay, day + 1, span.month⟩
  else ⟨split.1, day, span.month⟩

theorem tmodulo_usecsPerDay (t : Int64) :
    (tmodulo t usecsPerDay).1.val = t.val.tmod 86400000000 ∧
      (tmodulo t usecsPerDay).2.val = t.val.tdiv 86400000000 := by
  obtain ⟨h1, h2, h3, h4, h5⟩ := tdiv_usecsPerDay t
  have := t.range
  have hq : (t / usecsPerDay).val = t.val.tdiv 86400000000 := by
    simp only [SInt.val_div, usecsPerDay_val]
    exact wrap_eq_self (by decide) (by unfold InRange; omega)
  refine ⟨?_, hq⟩
  unfold tmodulo
  dsimp only
  split_ifs with h0
  · simp (disch := first | decide | (unfold InRange; omega)) only [SInt.val_sub, SInt.val_mul, hq,
      usecsPerDay_val, wrap_eq_self]
    omega
  · omega

/-- What justification promises of `time`: less than a day, of the sign of `day`. -/
def Interval.IsJustified (i : Interval) : Prop :=
  -86400000000 < i.time.val ∧ i.time.val < 86400000000 ∧ ¬(0 < i.day.val ∧ i.time.val < 0) ∧
    ¬(i.day.val < 0 ∧ 0 < i.time.val)

instance (i : Interval) : Decidable i.IsJustified := inferInstanceAs (Decidable (_ ∧ _ ∧ _ ∧ _))

/-- While the folded day count fits its `int32` field, justification keeps the month and the
linear value and leaves a justified interval. -/
theorem pgIntervalJustifyHours_spec (span : Interval)
    (h : InRange 32 (span.day.val + span.time.val.tdiv 86400000000)) :
    (pgIntervalJustifyHours span).month = span.month ∧ (pgIntervalJustifyHours span).IsJustified ∧
      (pgIntervalJustifyHours span).day.val * 86400000000 + (pgIntervalJustifyHours span).time.val =
        span.day.val * 86400000000 + span.time.val := by
  obtain ⟨h1, h2, h3, -, -⟩ := tdiv_usecsPerDay span.time
  obtain ⟨e1, e2⟩ := tmodulo_usecsPerDay span.time
  have := span.day.range
  unfold InRange at h
  unfold pgIntervalJustifyHours Interval.IsJustified
  simp (disch := first | decide | (unfold InRange; omega)) only [SInt.val_resize, SInt.val_add,
    e1, e2, wrap_eq_self]
  split_ifs <;> simp (disch := first | decide | (unfold InRange; omega)) only [SInt.val_add,
    SInt.val_sub, SInt.val_ofNat_of_lt, usecsPerDay_val, SInt.val_resize, e1, e2, wrap_eq_self,
    true_and] <;> omega

/-- Whatever its input, `pg_interval_justify_hours` returns a justified interval, also when the
day count wrapped: the remainder of `time` is less than a day, and the fix-up moves one day of
it against the sign of a positive or negative day count, which cannot wrap. -/
theorem pgIntervalJustifyHours_justified (span : Interval) : (pgIntervalJustifyHours span).IsJustified := by
  obtain ⟨-, h2, h3, -, -⟩ := tdiv_usecsPerDay span.time
  obtain ⟨e1, -⟩ := tmodulo_usecsPerDay span.time
  unfold pgIntervalJustifyHours Interval.IsJustified
  dsimp only
  generalize (SInt.resize (span.day.resize + (tmodulo span.time usecsPerDay).2) : Int32) = day
  have := day.range
  split_ifs <;> simp (disch := first | decide | (unfold InRange; omega)) only [SInt.val_add,
    SInt.val_sub, SInt.val_ofNat_of_lt, usecsPerDay_val, e1, wrap_eq_self] <;> omega

/-- A justified interval is left unchanged: its `time` is less than a day, so no day is folded
out of it, and its signs already agree. -/
theorem pgIntervalJustifyHours_of_justified {i : Interval} (h : i.IsJustified) :
    pgIntervalJustifyHours i = i := by
  obtain ⟨h1, h2, h3, h4⟩ := h
  obtain ⟨hl, -, -, -, -⟩ := tdiv_usecsPerDay i.time
  obtain ⟨e1, e2⟩ := tmodulo_usecsPerDay i.time
  have hq : i.time.val.tdiv 86400000000 = 0 := by
    rw [tdiv_of_pos _ (by norm_num)]; split <;> omega
  have et : (tmodulo i.time usecsPerDay).1 = i.time := SInt.val_inj.1 (by omega)
  have := i.day.range
  have ed : (SInt.resize (i.day.resize + (tmodulo i.time usecsPerDay).2) : Int32) = i.day := by
    rw [← SInt.val_inj]
    simp (disch := first | decide | (unfold InRange; omega)) only [SInt.val_resize, SInt.val_add, e2,
      hq, add_zero, wrap_eq_self]
  unfold pgIntervalJustifyHours
  dsimp only
  rw [ed, et, if_neg h3, if_neg h4]

/-- Justification puts every interval in justified form, also when its day count wraps, and
returns an interval already in that form unchanged; so justifying twice is justifying once. -/
theorem pgIntervalJustifyHours_idem :
    (∀ span, (pgIntervalJustifyHours span).IsJustified) ∧
      (∀ i : Interval, i.IsJustified → pgIntervalJustifyHours i = i) ∧
      ∀ span, pgIntervalJustifyHours (pgIntervalJustifyHours span) = pgIntervalJustifyHours span :=
  ⟨pgIntervalJustifyHours_justified, fun _ => pgIntervalJustifyHours_of_justified,
    fun span => pgIntervalJustifyHours_of_justified (pgIntervalJustifyHours_justified span)⟩

/-- Where the day count wraps, the result is still justified, and justifying it again changes
nothing. -/
theorem pgIntervalJustifyHours_idem_at_day_overflow :
    pgIntervalJustifyHours ⟨usecsPerDay, 2147483647, 0⟩ = ⟨0, .ofInt (-2147483648), 0⟩ ∧
      (pgIntervalJustifyHours ⟨usecsPerDay, 2147483647, 0⟩).IsJustified ∧
      pgIntervalJustifyHours (pgIntervalJustifyHours ⟨usecsPerDay, 2147483647, 0⟩) =
        pgIntervalJustifyHours ⟨usecsPerDay, 2147483647, 0⟩ :=
  ⟨by decide, pgIntervalJustifyHours_idem.1 _, pgIntervalJustifyHours_idem.2.2 _⟩

/-- A justified interval is determined by its months and its value `day * USECS_PER_DAY + time`:
justified intervals are canonical forms. -/
theorem Interval.IsJustified.eq {a b : Interval} (ha : a.IsJustified) (hb : b.IsJustified)
    (hm : a.month = b.month) (h : a.day.val * 86400000000 + a.time.val = b.day.val * 86400000000 + b.time.val) :
    a = b := by
  obtain ⟨a1, a2, a3, a4⟩ := ha
  obtain ⟨b1, b2, b3, b4⟩ := hb
  have hd : a.day = b.day := SInt.val_inj.1 (by omega)
  have ht : a.time = b.time := SInt.val_inj.1 (by omega)
  cases a
  cases b
  simp only [Interval.mk.injEq] at hm hd ht ⊢
  exact ⟨ht, hd, hm⟩

/-- For intervals of the same months whose folded day counts fit `int32`, justification gives
equal intervals exactly when `pg_interval_cmp` finds them equal. -/
theorem pgIntervalJustifyHours_eq_iff_cmp {a b : Interval} (hm : a.month = b.month)
    (ha : InRange 32 (a.day.val + a.time.val.tdiv 86400000000))
    (hb : InRange 32 (b.day.val + b.time.val.tdiv 86400000000)) :
    pgIntervalJustifyHours a = pgIntervalJustifyHours b ↔ (pgIntervalCmp a b).val = 0 := by
  obtain ⟨am, aj, al⟩ := pgIntervalJustifyHours_spec a ha
  obtain ⟨bm, bj, bl⟩ := pgIntervalJustifyHours_spec b hb
  have hc : (pgIntervalCmp a b).val = 0 ↔ a.linear = b.linear := by
    rw [pgIntervalCmp, int128Compare_val, intervalCmpValue_val, intervalCmpValue_val]
    split_ifs with h1 h2
    · exact iff_of_false id h1.ne
    · exact iff_of_false (by decide) (ne_of_gt h2)
    · exact iff_of_true rfl (by omega)
  rw [hc]
  unfold Interval.linear
  rw [hm]
  constructor
  · intro e
    rw [e] at al
    omega
  · intro e
    exact aj.eq bj (by rw [am, bm, hm]) (by rw [al, bl]; omega)

/-- A day of microseconds and one day compare equal, and justify alike. -/
theorem pgIntervalJustifyHours_eq_iff_cmp_one_day :
    (⟨86400000000, 0, 0⟩ : Interval).month = (⟨0, 1, 0⟩ : Interval).month ∧
      InRange 32 ((⟨86400000000, 0, 0⟩ : Interval).day.val +
        (⟨86400000000, 0, 0⟩ : Interval).time.val.tdiv 86400000000) ∧
      InRange 32 ((⟨0, 1, 0⟩ : Interval).day.val + (⟨0, 1, 0⟩ : Interval).time.val.tdiv 86400000000) ∧
      (pgIntervalCmp ⟨86400000000, 0, 0⟩ ⟨0, 1, 0⟩).val = 0 ∧
      pgIntervalJustifyHours ⟨86400000000, 0, 0⟩ = ⟨0, 1, 0⟩ ∧
      (pgIntervalJustifyHours ⟨86400000000, 0, 0⟩ = pgIntervalJustifyHours ⟨0, 1, 0⟩ ↔
        (pgIntervalCmp ⟨86400000000, 0, 0⟩ ⟨0, 1, 0⟩).val = 0) :=
  ⟨rfl, by decide, by decide, by decide, by decide,
    @pgIntervalJustifyHours_eq_iff_cmp ⟨86400000000, 0, 0⟩ ⟨0, 1, 0⟩ rfl (by decide) (by decide)⟩

/-- Folding one day into `INT32_MAX` days wraps the `int32` day count around to `INT32_MIN`: the
result no longer compares equal to its input. -/
theorem pgIntervalJustifyHours_day_overflow :
    pgIntervalJustifyHours ⟨usecsPerDay, 2147483647, 0⟩ = ⟨0, .ofInt (-2147483648), 0⟩ ∧
      (pgIntervalCmp (pgIntervalJustifyHours ⟨usecsPerDay, 2147483647, 0⟩)
        ⟨usecsPerDay, 2147483647, 0⟩).val = -1 := by
  decide

end PgCall
