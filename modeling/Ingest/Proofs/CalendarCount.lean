import Ingest.Time.DateTime

/-!
# Counting days and microseconds back to a date

`ofOrdinal` reads an ordinal as cycles of 400, 100, 4 and 1 years and a day of the year, and
`ordinal` counts the days back: from day 1 on, one undoes the other (`ordinal_ofOrdinal`).
The cycles are what carries the proof: in a year written by its cycles, the days before it and
whether it is a leap year are linear in the cycle counts (`daysBeforeYear_cycle`,
`isLeap_cycle`), and the month and day of a day of the year are a finite table
(`monthDay_spec`, `monthDay_mem_month`). So every ordinal names a month and a day of that month
(`ofOrdinal_valid`), in a year up to 9999 when the ordinal is at most the last of that year
(`ofOrdinal_year_le`).

On top of that, `DateTime.ofLocalMicros` turns every count of microseconds in the years 1 to
9999 into a date and time whose own count is the one it was given
(`DateTime.ofLocalMicros_localMicros`).
-/

namespace Ingest.Time

/-! ## Years written by their cycles -/

/-- The days before a year given by its cycles of 400, 100, 4 and 1 years are those cycles'
days: the leap days of the 4-year cycles, less the century years, plus the 400th. -/
theorem daysBeforeYear_cycle (n400 : Int) {n100 n4 n1 : Nat} (h100 : n100 < 4) (h4 : n4 < 25)
    (h1 : n1 < 4) :
    daysBeforeYear (n400 * 400 + 1 + n100 * 100 + n4 * 4 + n1) =
      n400 * 146097 + n100 * 36524 + n4 * 1461 + n1 * 365 := by
  unfold daysBeforeYear
  dsimp only
  omega

/-- A year given by its cycles is a leap year when it is the last of its four-year cycle, unless
that cycle ends a century that does not end a 400-year cycle. -/
theorem isLeap_cycle (n400 : Int) {n100 n4 n1 : Nat} (h100 : n100 < 4) (h4 : n4 < 25)
    (h1 : n1 < 4) :
    isLeap (n400 * 400 + 1 + n100 * 100 + n4 * 4 + n1) = (n1 == 3 && (n4 != 24 || n100 == 3)) := by
  unfold isLeap
  rw [Bool.eq_iff_iff]
  simp only [Bool.and_eq_true, Bool.or_eq_true, beq_iff_eq, bne_iff_ne, ne_eq]
  omega

/-- The month of a day of the year is a month, and its days before the first of that month and
the day itself add up to the day of the year, counted from one. -/
theorem monthDay_spec (leap : Bool) : ∀ r < 365,
    daysBeforeMonthTable.getD (monthDay leap r).1 0 +
      (if (monthDay leap r).1 > 2 && leap then 1 else 0) + (monthDay leap r).2 = r + 1 ∧
    1 ≤ (monthDay leap r).1 ∧ (monthDay leap r).1 ≤ 12 := by
  cases leap <;> decide +kernel

/-- The days of a month depend on the year only through whether it is a leap year. -/
theorem daysInMonth_congr {y y' : Int} (h : isLeap y = isLeap y') (m : Nat) :
    daysInMonth y m = daysInMonth y' m := by
  unfold daysInMonth
  rw [h]

/-- The day of a day of the year is a day of its month, in a year of the kind `leap` says. -/
theorem monthDay_mem_month {y : Int} {leap : Bool} (hy : isLeap y = leap) {r : Nat}
    (hr : r < 365) :
    1 ≤ (monthDay leap r).2 ∧ (monthDay leap r).2 ≤ daysInMonth y (monthDay leap r).1 := by
  -- year 4 stands for every leap year and year 1 for every common year
  have htable : ∀ r < 365, 1 ≤ (monthDay leap r).2 ∧
      (monthDay leap r).2 ≤ daysInMonth (if leap then 4 else 1) (monthDay leap r).1 := by
    cases leap <;> decide +kernel
  have hkind : isLeap y = isLeap (if leap then 4 else 1) := by
    rw [hy]
    cases leap <;> rfl
  rw [daysInMonth_congr hkind]
  exact htable r hr

/-! ## Ordinals -/

/-- From day 1 on, the date of an ordinal is a date of a year from 1 on whose ordinal is the
one it was read from. -/
theorem ordinal_ofOrdinal {ord : Int} (h : 1 ≤ ord) :
    1 ≤ (ofOrdinal ord).1 ∧
      ordinal (ofOrdinal ord).1 (ofOrdinal ord).2.1 (ofOrdinal ord).2.2 = ord := by
  unfold ofOrdinal daysIn400Years daysIn100Years daysIn4Years
  dsimp only
  -- the cycles of 400, 100, 4 and 1 years, and the day of the year
  generalize hq : (ord - 1) / ((146097 : Nat) : Int) = n400
  generalize hr : ((ord - 1) % ((146097 : Nat) : Int)).toNat = r
  generalize hn100 : r / 36524 = n100
  generalize hn4 : r % 36524 / 1461 = n4
  generalize hn1 : r % 36524 % 1461 / 365 = n1
  generalize hr4 : r % 36524 % 1461 % 365 = r4
  have htable : daysBeforeMonthTable.getD 12 0 = 334 := rfl
  split
  · -- the last day of a leap year: the fourth year of a four-year cycle, or the last year of a
    -- 400-year cycle; either way the year before the one the cycles name
    rename_i hend
    simp only [Bool.or_eq_true, beq_iff_eq] at hend
    obtain ⟨m100, m4, hm100, hm4, hleap, hy, hord⟩ : ∃ m100 m4 : Nat, m100 < 4 ∧ m4 < 25 ∧
        (m4 ≠ 24 ∨ m100 = 3) ∧
        n400 * 400 + 1 + ↑n100 * 100 + ↑n4 * 4 + ↑n1 - 1 =
          n400 * 400 + 1 + ↑m100 * 100 + ↑m4 * 4 + ((3 : Nat) : Int) ∧
        ord = n400 * 146097 + m100 * 36524 + m4 * 1461 + 3 * 365 + 366 := by
      rcases hend with h1 | h100
      · exact ⟨n100, n4, by omega, by omega, by omega, by omega, by omega⟩
      · exact ⟨3, 24, by omega, by omega, by omega, by omega, by omega⟩
    have hl : isLeap (n400 * 400 + 1 + ↑m100 * 100 + ↑m4 * 4 + ((3 : Nat) : Int)) = true := by
      rw [isLeap_cycle n400 hm100 hm4 (by decide)]
      rcases hleap with h | h <;> simp [h]
    refine ⟨by omega, ?_⟩
    rw [hy]
    simp only [ordinal, daysBeforeMonth,
      daysBeforeYear_cycle n400 hm100 hm4 (show (3 : Nat) < 4 by decide), htable, hl,
      Nat.reduceGT, decide_true, Bool.and_self, if_true]
    omega
  · -- a day within the year the cycles name
    rename_i hend
    simp only [Bool.or_eq_true, beq_iff_eq, not_or] at hend
    have h100 : n100 < 4 := by omega
    have h4 : n4 < 25 := by omega
    have h1 : n1 < 4 := by omega
    obtain ⟨hsum, -, -⟩ := monthDay_spec (n1 == 3 && (n4 != 24 || n100 == 3)) r4 (by omega)
    refine ⟨by omega, ?_⟩
    simp only [ordinal, daysBeforeMonth, daysBeforeYear_cycle n400 h100 h4 h1,
      isLeap_cycle n400 h100 h4 h1]
    omega

/-- The date of every ordinal has a month of the year and a day of that month. -/
theorem ofOrdinal_valid (ord : Int) :
    1 ≤ (ofOrdinal ord).2.1 ∧ (ofOrdinal ord).2.1 ≤ 12 ∧ 1 ≤ (ofOrdinal ord).2.2 ∧
      (ofOrdinal ord).2.2 ≤ daysInMonth (ofOrdinal ord).1 (ofOrdinal ord).2.1 := by
  unfold ofOrdinal daysIn400Years daysIn100Years daysIn4Years
  dsimp only
  generalize (ord - 1) / ((146097 : Nat) : Int) = n400
  generalize hr : ((ord - 1) % ((146097 : Nat) : Int)).toNat = r
  split
  · -- the 31st of December
    dsimp only
    exact ⟨by decide, by decide, by decide, by simp [daysInMonth]⟩
  · rename_i hend
    simp only [Bool.or_eq_true, beq_iff_eq, not_or] at hend
    have hkind := isLeap_cycle n400 (show r / 36524 < 4 by omega)
      (show r % 36524 / 1461 < 25 by omega) (show r % 36524 % 1461 / 365 < 4 by omega)
    obtain ⟨-, hm₁, hm₂⟩ := monthDay_spec (r % 36524 % 1461 / 365 == 3 &&
      (r % 36524 / 1461 != 24 || r / 36524 == 3)) (r % 36524 % 1461 % 365) (by omega)
    exact ⟨hm₁, hm₂, monthDay_mem_month hkind (by omega)⟩

/-- The ordinals up to the last day of year 9999 are ordinals of years up to 9999. -/
theorem ofOrdinal_year_le {ord : Int} (h₁ : 1 ≤ ord) (h₂ : ord ≤ maxOrdinal) :
    (ofOrdinal ord).1 ≤ 9999 := by
  obtain ⟨-, hord⟩ := ordinal_ofOrdinal h₁
  obtain ⟨-, -, hd, -⟩ := ofOrdinal_valid ord
  generalize ofOrdinal ord = p at hord hd
  obtain ⟨y, m, d⟩ := p
  dsimp only at hord hd ⊢
  -- year 10000 starts after the last ordinal
  have hbefore : 10000 ≤ y → 3652059 ≤ daysBeforeYear y := by
    intro hy
    unfold daysBeforeYear
    dsimp only
    omega
  unfold ordinal at hord
  unfold maxOrdinal at h₂
  omega

/-! ## Counts of microseconds -/

namespace DateTime

/-- Every count of microseconds from the start of year 1 to the end of year 9999 is the count
of the date and time `ofLocalMicros` makes of it, whose microsecond field is the count's
remainder in a second. -/
theorem ofLocalMicros_localMicros {x : Int} (h₀ : 0 ≤ x) (h₁ : x < maxOrdinal * dayMicros)
    (z : Option Zone) : ∃ t, ofLocalMicros x z = .ok t ∧ t.localMicros = x ∧
      t.zone = z ∧ (t.micro : Int) = x % secondMicros := by
  have hday : 1 ≤ x / (dayMicros : Int) + 1 := by
    have : 0 ≤ x / (dayMicros : Int) := Int.ediv_nonneg h₀ (by decide)
    omega
  obtain ⟨hy, hord⟩ := ordinal_ofOrdinal hday
  unfold ofLocalMicros
  dsimp only
  rw [if_neg (by
    unfold maxOrdinal dayMicros secondMicros at *
    simp only [Bool.or_eq_true, decide_eq_true_eq, not_or]
    omega)]
  generalize ofOrdinal (x / (dayMicros : Int) + 1) = p at hy hord
  obtain ⟨y, m, d⟩ := p
  refine ⟨_, rfl, ?_, rfl, ?_⟩
  · -- whole days, then hours, minutes, seconds and microseconds of the rest
    dsimp only at hy hord ⊢
    unfold localMicros
    dsimp only
    rw [Int.toNat_of_nonneg (by omega), hord]
    unfold dayMicros secondMicros at *
    omega
  · dsimp only
    unfold dayMicros secondMicros
    omega

end DateTime

end Ingest.Time
