import PgCall.Calendar
import Mathlib.Tactic.LinearCombination

/-!
# Round trips of the calendar routines

`date2j` counts the days of a March-based year, of its four-year cycles and of the leap days the
Gregorian centuries skip; `j2date` takes a day count apart in the same layers. Over the integers
`date2j` is `date2jInt`, and `date2jInt` of the calendar `ymdOfCycleDays` of a day is that day
(`date2jInt_ymdOfCycleDays`), one layer at a time: the four-year cycles (`julian_layer`), the
centuries (`gregorian_layer`) and the month table (`month_layer`). So from Julian day 0 on the
Julian day of the date `j2date` gives is the day it was given (`date2j_j2date`).

Layer by layer the converse holds too (`month_layer_inv`, `gregorian_layer_inv`,
`julian_layer_inv`): a date of the calendar whose Julian day is a non-negative `int` comes back
from its Julian day unchanged (`j2date_date2j_of_range`).

Every date `j2date` gives is a date of the calendar (`j2date_mday_le`): a day past the end of a
month would be a day of the next month with the same count (`date2jInt_next_month`).
`dt2time` takes apart the time of day `time2t` puts together (`dt2time_time2t`).
-/

namespace PgCall

/-! ## `date2j` over the integers -/

/-- `date2j` over the integers: the same steps, none of them wrapping. -/
def date2jInt (y m d : ℤ) : ℤ :=
  let y' := if m > 2 then y + 4800 else y + 4799
  let m' := if m > 2 then m + 1 else m + 13
  y' * 365 - 32167 + (y' / 4 - y' / 100 + y' / 100 / 4) + (7834 * m' / 256 + d)

private theorem date2j_body_val {y m d : Int32} (hy : 0 ≤ y.val) (hy' : y.val ≤ 5879698)
    (hm : 3 ≤ m.val ∧ m.val ≤ 15) (hd : 0 ≤ d.val ∧ d.val ≤ 31)
    (hj : y.val * 365 - 32167 + (y.val / 4 - y.val / 100 + y.val / 100 / 4) +
      (7834 * m.val / 256 + d.val) < 2147483648) :
    (y * 365 - 32167 + (y / 4 - y / 100 + y / 100 / 4) + (7834 * m / 256 + d)).val =
      y.val * 365 - 32167 + (y.val / 4 - y.val / 100 + y.val / 100 / 4) +
        (7834 * m.val / 256 + d.val) := by
  simp (disch := first | decide | omega | (unfold InRange; omega)) only [SInt.val_add,
    SInt.val_sub, SInt.val_mul, SInt.val_div, SInt.val_ofNat_of_lt, wrap_eq_self,
    Int.tdiv_eq_ediv, Nat.cast_ofNat]

theorem date2j_val {y m d : Int32} (hy : 0 ≤ y.val + 4799) (hy' : y.val + 4800 ≤ 5879698)
    (hm : 1 ≤ m.val ∧ m.val ≤ 12) (hd : 0 ≤ d.val ∧ d.val ≤ 31)
    (hj : date2jInt y.val m.val d.val < 2147483648) :
    (date2j y m d).val = date2jInt y.val m.val d.val := by
  have hadd : ∀ {a : Int32} {k : ℕ}, -4800 ≤ a.val → a.val + k ≤ 5879698 →
      (a + OfNat.ofNat k).val = a.val + k := fun {a k} ha hk => by
    have := a.range
    rw [SInt.val_add, SInt.val_ofNat_of_lt (by decide) (by omega),
      wrap_eq_self (by decide) (by unfold InRange; omega)]
  unfold date2j date2jInt at *
  dsimp only at hj ⊢
  split_ifs at * with h
  · have e1 : (y + 4800).val = y.val + 4800 := @hadd y 4800 (by omega) (by omega)
    have e2 : (m + 1).val = m.val + 1 := @hadd m 1 (by omega) (by omega)
    rw [date2j_body_val (by rw [e1]; omega) (by rw [e1]; omega) (by rw [e2]; omega) hd
      (by rw [e1, e2]; exact hj), e1, e2]
  · have e1 : (y + 4799).val = y.val + 4799 := @hadd y 4799 (by omega) (by omega)
    have e2 : (m + 13).val = m.val + 13 := @hadd m 13 (by omega) (by omega)
    rw [date2j_body_val (by rw [e1]; omega) (by rw [e1]; omega) (by rw [e2]; omega) hd
      (by rw [e1, e2]; exact hj), e1, e2]

/-! ## The layers of the calendar -/

/-- A day count whose four-year cycles are 1461 days long is `365 M + M / 4 + d + 60`, for the
March-based year `M` and its day `d`: `M` is the year `ymdOfCycleDays` gives, one less from day
`306` of the March-based year on (January and February). -/
private theorem julian_layer (J2 : ℕ) :
    (marchDay (J2 % 1461) < 306 → (J2 : ℤ) = 365 * ((J2 % 1461 * 4 / 1461 + J2 / 1461 * 4 : ℕ) : ℤ) +
      ((J2 % 1461 * 4 / 1461 + J2 / 1461 * 4 : ℕ) : ℤ) / 4 + marchDay (J2 % 1461) + 60) ∧
    (306 ≤ marchDay (J2 % 1461) → (J2 : ℤ) =
      365 * (((J2 % 1461 * 4 / 1461 + J2 / 1461 * 4 : ℕ) : ℤ) - 1) +
      (((J2 % 1461 * 4 / 1461 + J2 / 1461 * 4 : ℕ) : ℤ) - 1) / 4 + marchDay (J2 % 1461) + 60) := by
  obtain ⟨q, r, rfl, hr⟩ : ∃ q r, J2 = 1461 * q + r ∧ r < 1461 :=
    ⟨J2 / 1461, J2 % 1461, (Nat.div_add_mod J2 1461).symm, Nat.mod_lt _ (by decide)⟩
  rw [show (1461 * q + r) % 1461 = r by omega, show (1461 * q + r) / 1461 = q by omega]
  unfold marchDay
  rcases (by omega : r * 4 / 1461 = 0 ∨ r * 4 / 1461 = 1 ∨ r * 4 / 1461 = 2 ∨ r * 4 / 1461 = 3)
    with hk | hk | hk | hk <;> simp only [hk] <;> split_ifs <;> omega

/-- A day `r1` of a 400-year cycle, after the `c` leap days the cycle has skipped before it, lies
in century `c` of the cycle: the year `M` of `365 M + M / 4 + d` skips `M / 100 - M / 100 / 4` leap
days. -/
private theorem gregorian_layer {q1 r1 c M d : ℤ} (hr1 : 0 ≤ r1) (hr1' : r1 < 146097)
    (hc : c = (r1 * 4 + 3) / 146097) (hd : 0 ≤ d) (hd' : d ≤ 365)
    (hJ : 146100 * q1 + r1 + c = 365 * M + M / 4 + d) :
    M / 100 - M / 100 / 4 = q1 * 3 + c := by
  obtain ⟨m, rfl⟩ : ∃ m, M = m + q1 * 100 * 4 := ⟨M - q1 * 100 * 4, by ring⟩
  rw [Int.add_mul_ediv_right _ _ (by decide)] at hJ
  have hm : 0 ≤ m ∧ m < 400 := by omega
  have hc' : m / 100 = c := by
    rcases (by omega : c = 0 ∨ c = 1 ∨ c = 2 ∨ c = 3) with rfl | rfl | rfl | rfl <;> omega
  rw [show m + q1 * 100 * 4 = m + q1 * 4 * 100 by ring, Int.add_mul_ediv_right _ _ (by decide), hc']
  omega

private theorem cycleDays_eq (n : ℕ) : ∃ q1 r1 c, n + 32044 = 146097 * q1 + r1 ∧ r1 < 146097 ∧
    c = (r1 * 4 + 3) / 146097 ∧ cycleDays n = 146100 * q1 + r1 + c + 60 :=
  ⟨(n + 32044) / 146097, (n + 32044) % 146097, _, by omega, Nat.mod_lt _ (by decide), rfl,
    by unfold cycleDays; omega⟩

/-! ## The round trip -/

theorem date2jInt_ymdOfCycleDays (n : ℕ) :
    date2jInt (((ymdOfCycleDays (cycleDays n)).1 : ℤ) - 4800) (ymdOfCycleDays (cycleDays n)).2.1
      (ymdOfCycleDays (cycleDays n)).2.2 = n := by
  obtain ⟨q1, r1, c, hq, hr1, hc, hJ⟩ := cycleDays_eq n
  obtain ⟨hlo, hhi⟩ := julian_layer (cycleDays n)
  have hd := marchDay_le (cycleDays n % 1461)
  unfold date2jInt ymdOfCycleDays
  dsimp only
  generalize cycleDays n = J2 at *
  generalize marchDay (J2 % 1461) = d at *
  generalize J2 % 1461 * 4 / 1461 + J2 / 1461 * 4 = Y at *
  subst hJ
  obtain ⟨h1, -, -, hlow, hhigh⟩ := month_layer hd rfl
  generalize (d + 123) * 2141 / 65536 = m3 at *
  have hc' : (c : ℤ) = ((r1 : ℤ) * 4 + 3) / 146097 := by rw [hc]; push_cast; rfl
  have hday : ((d + 123 - 7834 * m3 / 256 : ℕ) : ℤ) = d + 123 - 7834 * (m3 : ℤ) / 256 := by
    rw [Nat.cast_sub (Nat.le_of_succ_le h1)]; push_cast; rfl
  have hq' : (n : ℤ) + 32044 = 146097 * q1 + r1 := by exact_mod_cast hq
  rw [hday]
  by_cases hd3 : d < 306
  · -- March to December: the year of the calendar is the March-based year
    have hY := hlo hd3
    push_cast at hY
    obtain ⟨hm2, hm⟩ := hlow hd3
    have hg := @gregorian_layer q1 r1 c Y d (by positivity) (by exact_mod_cast hr1) hc'
      (by positivity) (by exact_mod_cast hd) (by linear_combination hY)
    rw [if_pos (by exact_mod_cast hm2), if_pos (by exact_mod_cast hm2), sub_add_cancel,
      show (((m3 + 10) % 12 + 1 : ℕ) : ℤ) + 1 = m3 by exact_mod_cast hm]
    linear_combination -hY - hg - hq'
  · -- January and February: the March-based year is one less
    have hY := hhi (by omega)
    push_cast at hY
    obtain ⟨hm2, hm⟩ := hhigh (by omega)
    have hg := @gregorian_layer q1 r1 c (Y - 1) d (by positivity) (by exact_mod_cast hr1) hc'
      (by positivity) (by exact_mod_cast hd) (by linear_combination hY)
    rw [if_neg (by exact_mod_cast Nat.not_lt.2 hm2), if_neg (by exact_mod_cast Nat.not_lt.2 hm2),
      show (Y : ℤ) - 4800 + 4799 = Y - 1 by ring,
      show (((m3 + 10) % 12 + 1 : ℕ) : ℤ) + 13 = m3 by exact_mod_cast hm]
    linear_combination -hY - hg - hq'

/-- From Julian day 0 on, `date2j` inverts `j2date`: the Julian day of the date `j2date` gives is
the day it was given. -/
theorem date2j_j2date {jd : Int32} (h : 0 ≤ jd.val) :
    date2j (j2date jd).1 (j2date jd).2.1 (j2date jd).2.2 = jd := by
  have hr := jd.range
  obtain ⟨e1, e2, e3⟩ := j2date_val h
  have hc : 32104 ≤ cycleDays jd.val.toNat ∧ cycleDays jd.val.toNat ≤ 2147559851 := by
    unfold cycleDays; omega
  have hb := ymdOfCycleDays_bounds (by omega : cycleDays jd.val.toNat < 2147600000)
  have hY : 1 ≤ (ymdOfCycleDays (cycleDays jd.val.toNat)).1 ∧
      (ymdOfCycleDays (cycleDays jd.val.toNat)).1 ≤ 5879698 := by
    unfold ymdOfCycleDays; dsimp only; omega
  have hid := date2jInt_ymdOfCycleDays jd.val.toNat
  rw [← SInt.val_inj, date2j_val (by omega) (by omega) (by omega) (by omega)
    (by rw [e1, e2, e3, hid]; omega), e1, e2, e3, hid]
  omega

/-! ## The converse: `j2date` inverts `date2j` -/

private theorem month_layer_inv {m d m' : ℕ} (hm : 1 ≤ m ∧ m ≤ 12) (hd1 : 1 ≤ d)
    (hd : d ≤ if m = 2 then 29 else if m = 4 ∨ m = 6 ∨ m = 9 ∨ m = 11 then 30 else 31)
    (hm' : m' = if 2 < m then m + 1 else m + 13) :
    7834 * m' / 256 + d - 123 ≤ 365 ∧ (7834 * m' / 256 + d - 123 < 306 ↔ 2 < m) ∧
      (7834 * m' / 256 + d - 123 = 365 → m = 2) ∧
      (7834 * m' / 256 + d - 123 + 123) * 2141 / 65536 = m' := by
  rcases (by omega : m = 1 ∨ m = 2 ∨ m = 3 ∨ m = 4 ∨ m = 5 ∨ m = 6 ∨ m = 7 ∨ m = 8 ∨ m = 9 ∨
    m = 10 ∨ m = 11 ∨ m = 12) with rfl | rfl | rfl | rfl | rfl | rfl | rfl | rfl | rfl | rfl | rfl | rfl <;>
    simp only [Nat.reduceLT, Nat.reduceEqDiff, ite_true, ite_false, false_or, or_false, or_self,
      Nat.reduceAdd] at hd hm' <;> subst hm' <;> omega

private theorem gregorian_layer_inv {n M d : ℕ} (hd : d ≤ 365)
    (hleap : d = 365 → M % 100 = 99 → M % 400 = 399)
    (hn : n + 32044 = 365 * M + M / 4 - M / 100 + M / 100 / 4 + d) :
    cycleDays n = 365 * M + M / 4 + d + 60 := by
  unfold cycleDays
  rw [hn]
  clear hn
  obtain ⟨j, k, Q, rfl, hj, hk⟩ : ∃ j k Q, M = j + 100 * k + 400 * Q ∧ j < 100 ∧ k < 4 :=
    ⟨M % 100, M % 400 / 100, M / 400, by omega, Nat.mod_lt _ (by decide), by omega⟩
  have h4 : (j + 100 * k + 400 * Q) / 4 = j / 4 + 25 * k + 100 * Q := by clear * - hj; omega
  have h100 : (j + 100 * k + 400 * Q) / 100 = k + 4 * Q := by clear * - hj; omega
  have h400 : (k + 4 * Q) / 4 = Q := by clear * - hk; omega
  replace hleap : d = 365 → j = 99 → k = 3 := fun h h' => by have := hleap h; clear * - this h' hj hk; omega
  have hS : k ≤ 4 * (365 * j + j / 4 + d) + 3 ∧ 4 * (365 * j + j / 4 + d) + 3 < 146097 + k := by
    clear * - hleap hd hj hk
    omega
  have hN : 365 * (j + 100 * k + 400 * Q) + (j / 4 + 25 * k + 100 * Q) - (k + 4 * Q) + Q + d =
      (36524 * k + (365 * j + j / 4 + d)) + 146097 * Q := by clear * -; omega
  rw [h4, h100, h400]
  have hc : ((36524 * k + (365 * j + j / 4 + d)) * 4 + 3) / 146097 = k :=
    Nat.div_eq_of_lt_le (by omega) (by omega)
  have hR : 36524 * k + (365 * j + j / 4 + d) < 146097 := by omega
  rw [hN, Nat.add_mul_div_left _ _ (by decide), Nat.add_mul_mod_self_left, Nat.div_eq_of_lt hR,
    Nat.mod_eq_of_lt hR, hc]
  ring

private theorem julian_layer_inv {M d : ℕ} (hd : d ≤ 365) (hleap : d = 365 → M % 4 = 3) :
    marchDay ((365 * M + M / 4 + d + 60) % 1461) = d ∧
      (365 * M + M / 4 + d + 60) % 1461 * 4 / 1461 + (365 * M + M / 4 + d + 60) / 1461 * 4 =
        if d < 306 then M else M + 1 := by
  obtain ⟨a, P, rfl, ha⟩ : ∃ a P, M = a + 4 * P ∧ a < 4 := ⟨M % 4, M / 4, by omega, Nat.mod_lt _ (by decide)⟩
  replace hleap : d = 365 → a = 3 := fun h => by have := hleap h; omega
  rw [show 365 * (a + 4 * P) + (a + 4 * P) / 4 + d + 60 = 365 * a + d + 60 + 1461 * P by omega]
  unfold marchDay
  by_cases hd3 : d < 306
  · -- March to December: the day of the four-year cycle is `365 a + d + 60`
    have hr : 365 * a + d + 60 < 1461 := by omega
    have hk : (365 * a + d + 60) * 4 / 1461 = a := by omega
    rw [Nat.add_mul_mod_self_left, Nat.mod_eq_of_lt hr, Nat.add_mul_div_left _ _ (by decide),
      Nat.div_eq_of_lt hr, if_pos hd3, hk]
    split_ifs <;> omega
  by_cases ha3 : a = 3
  · -- January and February after the leap day: the next cycle
    subst ha3
    have hr : d - 306 < 1461 := by omega
    rw [show 365 * 3 + d + 60 + 1461 * P = d - 306 + 1461 * (P + 1) by omega,
      Nat.add_mul_mod_self_left, Nat.mod_eq_of_lt hr, Nat.add_mul_div_left _ _ (by decide),
      Nat.div_eq_of_lt hr, if_neg hd3, show (d - 306) * 4 / 1461 = 0 by omega, if_neg (by decide)]
    omega
  · -- January and February of the other years
    have hr : 365 * a + d + 60 < 1461 := by omega
    have hk : (365 * a + d + 60) * 4 / 1461 = a + 1 := by omega
    rw [Nat.add_mul_mod_self_left, Nat.mod_eq_of_lt hr, Nat.add_mul_div_left _ _ (by decide),
      Nat.div_eq_of_lt hr, if_neg hd3, hk, if_pos (by omega)]
    omega

private theorem daysInMonth_le {Y m d : ℕ} (h : (d : ℤ) ≤ daysInMonth (Y - 4800) m) :
    (d ≤ if m = 2 then 29 else if m = 4 ∨ m = 6 ∨ m = 9 ∨ m = 11 then 30 else 31) ∧
      (m = 2 → d = 29 → 4 ∣ Y ∧ (¬100 ∣ Y ∨ 400 ∣ Y)) := by
  have e2 : (m : ℤ) = 2 ↔ m = 2 := by omega
  have e30 : ((m : ℤ) = 4 ∨ (m : ℤ) = 6 ∨ (m : ℤ) = 9 ∨ (m : ℤ) = 11) ↔
      (m = 4 ∨ m = 6 ∨ m = 9 ∨ m = 11) := by omega
  unfold daysInMonth at h
  simp only [e2, e30] at h
  split_ifs at h ⊢ <;> omega

theorem ymdOfCycleDays_date2jInt {y m d : ℤ} (hy : -4800 < y) (hm : 1 ≤ m ∧ m ≤ 12)
    (hd : 1 ≤ d ∧ d ≤ daysInMonth y m) (h0 : 0 ≤ date2jInt y m d) :
    ymdOfCycleDays (cycleDays (date2jInt y m d).toNat) = ((y + 4800).toNat, m.toNat, d.toNat) := by
  obtain ⟨Y, rfl⟩ : ∃ Y : ℕ, y = Y - 4800 := ⟨(y + 4800).toNat, by omega⟩
  obtain ⟨m, rfl⟩ : ∃ m' : ℕ, m = m' := ⟨m.toNat, by omega⟩
  obtain ⟨d, rfl⟩ : ∃ d' : ℕ, d = d' := ⟨d.toNat, by omega⟩
  have hY : 1 ≤ Y := by omega
  obtain ⟨hlen, hleap⟩ := daysInMonth_le hd.2
  -- the March-based year `M`, month `m'` and day `d'` that `date2j` counts
  obtain ⟨h1, h2, h3, h4⟩ := month_layer_inv (by omega) (by omega) hlen rfl
  generalize hm' : (if 2 < m then m + 1 else m + 13) = m' at h1 h2 h3 h4
  have hT : 7834 * m' / 256 + d - 123 + 123 = 7834 * m' / 256 + d := by
    have hm4 : 4 ≤ m' := by split_ifs at hm' <;> omega
    have hd1 : 1 ≤ d := by omega
    clear * - hm4 hd1
    omega
  generalize hd' : 7834 * m' / 256 + d - 123 = d' at h1 h2 h3 h4 hT
  obtain ⟨M, hM⟩ : ∃ M : ℕ, M = if 2 < m then Y else Y - 1 := ⟨_, rfl⟩
  have hleap' : d' = 365 → M % 4 = 3 ∧ (M % 100 = 99 → M % 400 = 399) := by
    intro h
    obtain rfl := h3 h
    simp only [Nat.reduceLT, ite_false] at hM hm'
    have := hleap rfl (by clear * - hd' hm' h; omega)
    clear * - this hM hY
    omega
  have hdate : date2jInt (Y - 4800) m d =
      M * 365 - 32167 + ((M : ℤ) / 4 - (M : ℤ) / 100 + (M : ℤ) / 100 / 4) + (7834 * (m' : ℤ) / 256 + d) := by
    unfold date2jInt
    simp only [gt_iff_lt, Nat.ofNat_lt_cast]
    split_ifs at hM hm' ⊢ with h
    · subst hM hm'
      push_cast
      rw [sub_add_cancel]
    · subst hM hm'
      push_cast [Nat.cast_sub hY]
      rw [show (Y : ℤ) - 4800 + 4799 = Y - 1 by ring]
  have hn : (date2jInt (Y - 4800) m d).toNat + 32044 = 365 * M + M / 4 - M / 100 + M / 100 / 4 + d' := by
    have hle : M / 100 ≤ 365 * M + M / 4 := by omega
    rw [← Int.ofNat_inj]
    push_cast [Int.toNat_of_nonneg h0, Nat.cast_sub hle]
    rw [hdate]
    have hT' : (d' : ℤ) + 123 = 7834 * m' / 256 + d := by exact_mod_cast hT
    linear_combination -hT'
  rw [gregorian_layer_inv h1 (fun h => (hleap' h).2) hn]
  obtain ⟨j1, j2⟩ := julian_layer_inv h1 (fun h => (hleap' h).1)
  unfold ymdOfCycleDays
  dsimp only
  rw [j1, j2, h4, sub_add_cancel, Int.toNat_ofNat, Int.toNat_ofNat, Int.toNat_ofNat]
  clear hlen hleap hleap' hd h0 hdate hn j1 j2
  refine Prod.ext ?_ (Prod.ext ?_ ?_) <;> dsimp only
  · split_ifs at hM ⊢ <;> omega
  · split_ifs at hm' <;> omega
  · omega

theorem year_bounds_of_date2jInt {y m d : ℤ} (hm : 1 ≤ m ∧ m ≤ 12) (hd : 1 ≤ d ∧ d ≤ 31)
    (hj : 0 ≤ date2jInt y m d ∧ date2jInt y m d < 2147483648) : -4800 < y ∧ y + 4800 ≤ 5879698 := by
  unfold date2jInt at hj
  dsimp only at hj
  split_ifs at hj <;> omega

/-- `j2date` inverts `date2j` on every date whose Julian day is a nonnegative `int`. -/
theorem j2date_date2j_of_range {y m d : Int32} (hm : 1 ≤ m.val ∧ m.val ≤ 12)
    (hd : 1 ≤ d.val ∧ d.val ≤ daysInMonth y.val m.val)
    (hj : 0 ≤ date2jInt y.val m.val d.val ∧ date2jInt y.val m.val d.val < 2147483648) :
    j2date (date2j y m d) = (y, m, d) := by
  have hb := daysInMonth_bounds y.val m.val
  have hy := year_bounds_of_date2jInt hm (by omega) hj
  have e := date2j_val (by omega) hy.2 hm (by omega) hj.2
  obtain ⟨e1, e2, e3⟩ := j2date_val (by rw [e]; exact hj.1)
  rw [e, ymdOfCycleDays_date2jInt hy.1 hm hd hj.1] at e1 e2 e3
  dsimp only at e1 e2 e3
  refine Prod.ext ?_ (Prod.ext ?_ ?_) <;> rw [← SInt.val_inj] <;> dsimp only
  · rw [e1]; omega
  · rw [e2]; omega
  · rw [e3]; omega

private theorem daysInMonth_eq_step {y m : ℤ} (h3 : 3 ≤ m) (h11 : m ≤ 11) :
    daysInMonth y m = 7834 * (m + 1 + 1) / 256 - 7834 * (m + 1) / 256 := by
  unfold daysInMonth
  obtain rfl | rfl | rfl | rfl | rfl | rfl | rfl | rfl | rfl :
    m = 3 ∨ m = 4 ∨ m = 5 ∨ m = 6 ∨ m = 7 ∨ m = 8 ∨ m = 9 ∨ m = 10 ∨ m = 11 := by omega
  all_goals rw [if_neg (by decide)]; decide

theorem date2jInt_next_month {y m d : ℤ} (hm : 1 ≤ m ∧ m ≤ 11) :
    date2jInt y m d = date2jInt y (m + 1) (d - daysInMonth y m) := by
  rcases (by omega : m = 1 ∨ m = 2 ∨ 3 ≤ m) with rfl | rfl | hm3
  · unfold date2jInt daysInMonth
    norm_num
    omega
  · -- February: from March on, `y / 4 - y / 100 + y / 100 / 4` counts the leap day of `y`
    unfold date2jInt daysInMonth
    norm_num
    split_ifs <;> omega
  · unfold date2jInt
    simp only [if_pos (by omega : m > 2), if_pos (by omega : m + 1 > 2), daysInMonth_eq_step hm3 hm.2]
    ring

private theorem ymdOfCycleDays_mday_le {n : ℕ} (hn : n < 2147483648) :
    ((ymdOfCycleDays (cycleDays n)).2.2 : ℤ) ≤
      daysInMonth ((ymdOfCycleDays (cycleDays n)).1 - 4800) (ymdOfCycleDays (cycleDays n)).2.1 := by
  obtain ⟨-, hm1, hm2, hd1, hd2⟩ := ymdOfCycleDays_bounds (cycleDays_lt hn)
  have hY : 84 ≤ (ymdOfCycleDays (cycleDays n)).1 := by
    unfold ymdOfCycleDays cycleDays
    dsimp only
    omega
  have hid := date2jInt_ymdOfCycleDays n
  generalize hp : ymdOfCycleDays (cycleDays n) = p at hm1 hm2 hd1 hd2 hY hid ⊢
  obtain ⟨Y, M, D⟩ := p
  dsimp only at hm1 hm2 hd1 hd2 hY hid ⊢
  by_contra hlt
  have hb := daysInMonth_bounds (Y - 4800) M
  have hb' := daysInMonth_bounds (Y - 4800) (M + 1)
  have hM : (M : ℤ) ≤ 11 := by
    unfold daysInMonth at hlt
    split_ifs at hlt <;> omega
  have e := date2jInt_next_month (y := (Y : ℤ) - 4800) (d := D) ⟨by omega, hM⟩
  have h := ymdOfCycleDays_date2jInt (y := (Y : ℤ) - 4800) (m := (M : ℤ) + 1)
    (d := D - daysInMonth (Y - 4800) M) (by omega) (by omega) ⟨by omega, by omega⟩
    (by rw [← e, hid]; positivity)
  rw [← e, hid, Int.toNat_ofNat, hp] at h
  have := congrArg (fun p => p.2.1) h
  dsimp only at this
  omega

theorem j2date_mday_le {jd : Int32} (h : 0 ≤ jd.val) :
    (j2date jd).2.2.val ≤ daysInMonth (j2date jd).1.val (j2date jd).2.1.val := by
  obtain ⟨e1, e2, e3⟩ := j2date_val h
  rw [e1, e2, e3]
  exact ymdOfCycleDays_mday_le (by have := jd.range; omega)

theorem date2jInt_j2date {jd : Int32} (h : 0 ≤ jd.val) :
    date2jInt (j2date jd).1.val (j2date jd).2.1.val (j2date jd).2.2.val = jd.val := by
  obtain ⟨e1, e2, e3⟩ := j2date_val h
  rw [e1, e2, e3, date2jInt_ymdOfCycleDays]
  omega

/-! ## Times of day -/

private theorem dt2time_digit {x u : Int64} {U : ℤ} (hu : u.val = U) (hU : 1000000 ≤ U)
    (hx : 0 ≤ x.val ∧ x.val < 86400000000) (hq : x.val / U < 86400) :
    ((x / u).resize : Int32).val = x.val / U ∧
      (x - ((x / u).resize : Int32).resize * u).val = x.val % U := by
  have h0 : 0 ≤ x.val / U := Int.ediv_nonneg hx.1 (by omega)
  have hq' : ((x / u).resize : Int32).val = x.val / U := by
    rw [SInt.val_resize, SInt.val_div, hu, Int.tdiv_eq_ediv hx.1 (by omega),
      @wrap_eq_self 64 _ (by decide) (by unfold InRange; omega),
      wrap_eq_self (by decide) (by unfold InRange; omega)]
  refine ⟨hq', ?_⟩
  have hr := Int.emod_add_ediv' x.val U
  have hd : 0 ≤ x.val / U * U := mul_nonneg h0 (by omega)
  have hr0 := Int.emod_nonneg x.val (by omega : U ≠ 0)
  have hr1 := Int.emod_lt_of_pos x.val (by omega : 0 < U)
  rw [SInt.val_sub, SInt.val_mul, SInt.val_resize, hq', hu,
    @wrap_eq_self 64 (x.val / U) (by decide) (by unfold InRange; omega),
    @wrap_eq_self 64 (x.val / U * U) (by decide) (by unfold InRange; omega),
    wrap_eq_self (by decide) (by unfold InRange; omega)]
  omega

theorem dt2time_val {time : Int64} (h0 : 0 ≤ time.val) (h1 : time.val < 86400000000) :
    (dt2time time).1.val = time.val / 3600000000 ∧
      (dt2time time).2.1.val = time.val % 3600000000 / 60000000 ∧
      (dt2time time).2.2.1.val = time.val % 3600000000 % 60000000 / 1000000 ∧
      (dt2time time).2.2.2.val = time.val % 3600000000 % 60000000 % 1000000 := by
  obtain ⟨eh, et1⟩ := @dt2time_digit time usecsPerHour 3600000000 rfl (by decide) ⟨h0, h1⟩ (by omega)
  unfold dt2time
  dsimp only
  rw [eh]
  generalize time - ((time / usecsPerHour).resize : Int32).resize * usecsPerHour = t1 at *
  obtain ⟨em, et2⟩ := @dt2time_digit t1 usecsPerMinute 60000000 rfl (by decide) (by omega) (by omega)
  rw [em]
  generalize t1 - ((t1 / usecsPerMinute).resize : Int32).resize * usecsPerMinute = t2 at *
  obtain ⟨es, et3⟩ := @dt2time_digit t2 usecsPerSec 1000000 rfl (by decide) (by omega) (by omega)
  rw [es, SInt.val_resize, et3, wrap_eq_self (by decide) (by unfold InRange; omega), et2, et1]
  exact ⟨rfl, rfl, rfl, rfl⟩

theorem time2t_val {hour min sec fsec : Int32} (hh : 0 ≤ hour.val ∧ hour.val < 24)
    (hm : 0 ≤ min.val ∧ min.val < 60) (hs : 0 ≤ sec.val ∧ sec.val < 60)
    (hf : 0 ≤ fsec.val ∧ fsec.val < 1000000) :
    (time2t hour min sec fsec).val = ((hour.val * 60 + min.val) * 60 + sec.val) * 1000000 + fsec.val := by
  simp (disch := first | decide | omega | (unfold InRange; omega)) only [time2t,
    SInt.val_add, SInt.val_mul, SInt.val_resize, SInt.val_ofNat_of_lt, wrap_eq_self,
    Nat.cast_ofNat, usecsPerSec]

private theorem timeOfDay_digits {h m s f : ℤ} (hm : 0 ≤ m ∧ m < 60) (hs : 0 ≤ s ∧ s < 60)
    (hf : 0 ≤ f ∧ f < 1000000) :
    (((h * 60 + m) * 60 + s) * 1000000 + f) / 3600000000 = h ∧
      (((h * 60 + m) * 60 + s) * 1000000 + f) % 3600000000 / 60000000 = m ∧
      (((h * 60 + m) * 60 + s) * 1000000 + f) % 3600000000 % 60000000 / 1000000 = s ∧
      (((h * 60 + m) * 60 + s) * 1000000 + f) % 3600000000 % 60000000 % 1000000 = f := by
  obtain ⟨d1, d1'⟩ : (((h * 60 + m) * 60 + s) * 1000000 + f) / 3600000000 = h ∧
      (((h * 60 + m) * 60 + s) * 1000000 + f) % 3600000000 = m * 60000000 + (s * 1000000 + f) :=
    (Int.ediv_emod_unique (by decide)).2 ⟨by ring, by omega, by omega⟩
  obtain ⟨d2, d2'⟩ : (m * 60000000 + (s * 1000000 + f)) / 60000000 = m ∧
      (m * 60000000 + (s * 1000000 + f)) % 60000000 = s * 1000000 + f :=
    (Int.ediv_emod_unique (by decide)).2 ⟨by ring, by omega, by omega⟩
  rw [d1', d2']
  exact ⟨d1, d2, (Int.ediv_emod_unique (by decide)).2 ⟨by ring, hf.1, hf.2⟩⟩

/-- `dt2time` inverts `time2t` on the fields of a time of day. -/
theorem dt2time_time2t {hour min sec fsec : Int32} (hh : 0 ≤ hour.val ∧ hour.val < 24)
    (hm : 0 ≤ min.val ∧ min.val < 60) (hs : 0 ≤ sec.val ∧ sec.val < 60)
    (hf : 0 ≤ fsec.val ∧ fsec.val < 1000000) :
    dt2time (time2t hour min sec fsec) = (hour, min, sec, fsec) := by
  have e := time2t_val hh hm hs hf
  obtain ⟨e1, e2, e3, e4⟩ := @dt2time_val (time2t hour min sec fsec) (by omega) (by omega)
  obtain ⟨d1, d2, d3, d4⟩ := timeOfDay_digits hm hs hf
  rw [e, d1] at e1
  rw [e, d2] at e2
  rw [e, d3] at e3
  rw [e, d4] at e4
  generalize dt2time (time2t hour min sec fsec) = p at e1 e2 e3 e4
  obtain ⟨h', m', s', f'⟩ := p
  rw [← SInt.val_inj.1 e1, ← SInt.val_inj.1 e2, ← SInt.val_inj.1 e3, ← SInt.val_inj.1 e4]

end PgCall
