import Mathlib.Tactic.IntervalCases
import SourceReview.Calendar.Date

/-!
# Days and dates

Every number of days belongs to a date (`isValid_ofDays`), and that date lies as many days after
the first of January 1970 (`toDays_ofDays`).

Years are taken to begin with March. An era of 400 years has four centuries of 36524 days, of which
the last has a day more; a century has 25 cycles of 1461 days, of which the last lacks a day unless
the century has one more; and a cycle has four years of 365 days, of which the last has a day more
unless the cycle lacks it. So a day of an era has a place in its century, cycle and year
(`exists_eraPlace`), from which the leap days up to its year can be counted.
-/

namespace SourceReview.Calendar

/-- The place of a day in an era: the day is `day` in the year `year` of the cycle `cycle` of the
century `century`. -/
structure EraPlace (dayOfEra century cycle year day : Int) : Prop where
  century_nonneg : 0 ≤ century
  century_le : century ≤ 3
  cycle_nonneg : 0 ≤ cycle
  cycle_le : cycle ≤ 24
  year_nonneg : 0 ≤ year
  year_le : year ≤ 3
  day_nonneg : 0 ≤ day
  day_le : day ≤ 365
  /-- Only the last year of a cycle has a leap day, and in the last cycle of a century only that of
  the last century. -/
  leap : day = 365 → year = 3 ∧ (cycle < 24 ∨ century = 3)
  dayOfEra_eq : dayOfEra = 36524 * century + 1461 * cycle + 365 * year + day

theorem exists_eraPlace {dayOfEra : Int} (h₀ : 0 ≤ dayOfEra) (h₁ : dayOfEra < 146097) :
    ∃ century cycle year day, EraPlace dayOfEra century cycle year day := by
  -- The last day of an era would be the first of a fifth century, and the last day of a cycle the
  -- first of a fifth year.
  obtain ⟨century, hcentury⟩ : ∃ century, century = min 3 (dayOfEra / 36524) := ⟨_, rfl⟩
  obtain ⟨dayOfCentury, hdayOfCentury⟩ : ∃ n, n = dayOfEra - 36524 * century := ⟨_, rfl⟩
  obtain ⟨cycle, hcycle⟩ : ∃ cycle, cycle = dayOfCentury / 1461 := ⟨_, rfl⟩
  obtain ⟨dayOfCycle, hdayOfCycle⟩ : ∃ n, n = dayOfCentury - 1461 * cycle := ⟨_, rfl⟩
  obtain ⟨year, hyear⟩ : ∃ year, year = min 3 (dayOfCycle / 365) := ⟨_, rfl⟩
  have hcentury_day : 0 ≤ dayOfCentury ∧ dayOfCentury ≤ 36524 ∧
      (dayOfCentury = 36524 → century = 3) := by omega
  have hcycle_day : 0 ≤ dayOfCycle ∧ dayOfCycle ≤ 1460 ∧ 0 ≤ cycle ∧ cycle ≤ 24 ∧
      (dayOfCycle = 1460 → cycle < 24 ∨ dayOfCentury = 36524) := by omega
  refine ⟨century, cycle, year, dayOfCycle - 365 * year, ?_, ?_, ?_, ?_, ?_, ?_, ?_, ?_, ?_, ?_⟩
  all_goals omega

namespace EraPlace

variable {dayOfEra century cycle year day : Int}

/-- The year of an era in which a day lies, from the number of days without leap days. -/
theorem yearOfEra_eq (h : EraPlace dayOfEra century cycle year day) :
    (dayOfEra - dayOfEra / 1460 + dayOfEra / 36524 - dayOfEra / 146096) / 365
      = 100 * century + 4 * cycle + year := by
  obtain ⟨hc₀, hc₁, hq₀, hq₁, hy₀, hy₁, hd₀, hd₁, hleap, heq⟩ := h
  -- On the last day of an era there are one century and one era more, and these cancel.
  have hrest : 1461 * cycle + 365 * year + day < 36524 ∨ century = 3 ∧ dayOfEra = 146096 := by
    by_cases hday : day = 365
    · obtain ⟨hyear, hcycle | hcentury⟩ := hleap hday <;> omega
    · omega
  have hcenturies : dayOfEra / 36524 - dayOfEra / 146096 = century := by
    rcases hrest with hrest | ⟨rfl, rfl⟩
    · have hinside : dayOfEra / 36524 = century := by omega
      have hbefore : dayOfEra / 146096 = 0 := by omega
      omega
    · rfl
  have hcycles : dayOfEra / 1460
      = 25 * century + cycle + (24 * century + cycle + 365 * year + day) / 1460 := by omega
  have hover : (24 * century + cycle + 365 * year + day) / 1460 ≤ 1 ∧
      0 ≤ (24 * century + cycle + 365 * year + day) / 1460 := by omega
  omega

/-- The days of the years before. -/
theorem daysBefore_eq (h : EraPlace dayOfEra century cycle year day) :
    365 * (100 * century + 4 * cycle + year) + (100 * century + 4 * cycle + year) / 4
        - (100 * century + 4 * cycle + year) / 100 = dayOfEra - day := by
  obtain ⟨hc₀, hc₁, hq₀, hq₁, hy₀, hy₁, -, -, -, heq⟩ := h
  have hcycles : (100 * century + 4 * cycle + year) / 4 = 25 * century + cycle := by omega
  have hcenturies : (100 * century + 4 * cycle + year) / 100 = century := by omega
  omega

end EraPlace

/-- The month and the day in it, for months that are counted from March on. All months have 30 or 31
days, except that the last one has 29, the last of which is the last day of a leap year. -/
theorem month_of_dayOfYear {n : Nat} (hn : n ≤ 365) :
    let month := (5 * n + 2) / 153
    let day := n - (153 * month + 2) / 5 + 1
    month ≤ 11 ∧ (153 * month + 2) / 5 + day - 1 = n ∧ day ≤ 31 ∧
      (month = 1 ∨ month = 3 ∨ month = 6 ∨ month = 8 → day ≤ 30) ∧
      (month = 11 → day ≤ 29 ∧ (day = 29 → n = 365)) := by
  intro month day
  have hmonth : month ≤ 11 := by omega
  interval_cases hm : month <;> omega

theorem daysIn_le (year : Int) (month : Nat) : daysIn year month ≤ 31 := by
  unfold daysIn
  split
  · split <;> decide
  · split <;> decide

namespace Date

/-- The year of a date if years begin with March. -/
def marchYear (d : Date) : Int := if d.month ≤ 2 then d.year - 1 else d.year

/-- The month of a date if years begin with March, counted from zero. -/
def marchMonth (d : Date) : Nat := (d.month + 9) % 12

/-- The date with given parts if years begin with March. -/
theorem march_of_parts (year : Int) {month : Nat} (hmonth : month ≤ 11) (day : Nat) :
    let d : Date := if month < 10 then ⟨year, month + 3, day⟩ else ⟨year + 1, month - 9, day⟩
    d.marchYear = year ∧ 1 ≤ d.month ∧ d.month ≤ 12 ∧ d.marchMonth = month ∧ d.day = day := by
  intro d
  unfold marchYear marchMonth d
  by_cases hlate : month < 10
  · have hafter : ¬ month + 3 ≤ 2 := by omega
    simp only [if_pos hlate, if_neg hafter, and_true, true_and]
    omega
  · have hbefore : month - 9 ≤ 2 := by omega
    simp only [if_neg hlate, if_pos hbefore, and_true]
    omega

/-- The parts of the date of a number of days if years begin with March. -/
theorem exists_march_ofDays (days : Int) :
    ∃ era yearOfEra : Int, ∃ dayOfYear : Nat, 0 ≤ yearOfEra ∧ yearOfEra < 400 ∧ dayOfYear ≤ 365 ∧
      (dayOfYear = 365 → isLeap (era * 400 + yearOfEra + 1) = true) ∧
      days = era * 146097 + (365 * yearOfEra + yearOfEra / 4 - yearOfEra / 100 + dayOfYear) - 719468 ∧
      (ofDays days).marchYear = era * 400 + yearOfEra ∧
      1 ≤ (ofDays days).month ∧ (ofDays days).month ≤ 12 ∧
      (ofDays days).marchMonth = (5 * dayOfYear + 2) / 153 ∧
      (ofDays days).day = dayOfYear - (153 * ((5 * dayOfYear + 2) / 153) + 2) / 5 + 1 := by
  obtain ⟨era, hera⟩ : ∃ era, era = (days + 719468) / 146097 := ⟨_, rfl⟩
  obtain ⟨dayOfEra, hdayOfEra⟩ : ∃ n, n = (days + 719468) % 146097 := ⟨_, rfl⟩
  have hnonneg : 0 ≤ dayOfEra := by omega
  obtain ⟨century, cycle, year, day, h⟩ := exists_eraPlace hnonneg (by omega)
  obtain ⟨yearOfEra, hyearOfEra⟩ : ∃ n, n = 100 * century + 4 * cycle + year := ⟨_, rfl⟩
  have hbefore := h.daysBefore_eq
  have hyear := h.yearOfEra_eq
  rw [← hyearOfEra] at hbefore hyear
  obtain ⟨hc₀, hc₁, hq₀, hq₁, hy₀, hy₁, hd₀, hd₁, hleap, -⟩ := h
  refine ⟨era, yearOfEra, day.toNat, by omega, by omega, by omega, ?_, by omega, ?_⟩
  · intro hday
    obtain ⟨hyear, hcycle⟩ := hleap (by omega)
    unfold isLeap
    simp only [Bool.and_eq_true, Bool.or_eq_true, beq_iff_eq, bne_iff_ne]
    omega
  · have hday : dayOfEra - (dayOfEra - day) = day := by omega
    unfold ofDays
    simp only [← hera, ← hdayOfEra, hyear, hbefore, hday, Int.add_comm yearOfEra]
    exact march_of_parts _ (by omega) _

theorem toDays_ofDays (days : Int) : (ofDays days).toDays = days := by
  obtain ⟨era, yearOfEra, dayOfYear, h₀, h₁, hday, -, hdays, hyear, -, -, hmonth, hdate⟩ :=
    exists_march_ofDays days
  obtain ⟨-, hplace, -⟩ := month_of_dayOfYear hday
  rw [← hdate, ← hmonth] at hplace
  have hera : (era * 400 + yearOfEra) / 400 = era := by omega
  have hrest : (era * 400 + yearOfEra) % 400 = yearOfEra := by omega
  show (ofDays days).marchYear / 400 * 146097 + (ofDays days).marchYear % 400 * 365
      + (ofDays days).marchYear % 400 / 4 - (ofDays days).marchYear % 400 / 100
      + ((153 * (ofDays days).marchMonth + 2) / 5 + (ofDays days).day - 1 : Nat) - 719468 = days
  rw [hplace, hyear, hera, hrest, hdays]
  omega

theorem isValid_ofDays (days : Int) : (ofDays days).isValid = true := by
  obtain ⟨era, yearOfEra, dayOfYear, -, -, hday, hleap, -, hyear, hfirst, hlast, hmonth, hdate⟩ :=
    exists_march_ofDays days
  obtain ⟨-, -, hlong, hshort, hfebruary⟩ := month_of_dayOfYear hday
  rw [← hdate] at hlong hshort hfebruary
  rw [← hmonth] at hshort hfebruary
  unfold marchMonth at hshort hfebruary
  unfold isValid daysIn
  simp only [Bool.and_eq_true, decide_eq_true_eq]
  refine ⟨⟨⟨hfirst, hlast⟩, by omega⟩, ?_⟩
  by_cases htwo : (ofDays days).month = 2
  · rw [if_pos htwo]
    obtain ⟨hmost, hleapDay⟩ := hfebruary (by omega)
    split
    · exact hmost
    · -- The 29th of February is the last day of a leap year.
      rename_i hcommon
      have hnext : (ofDays days).year = era * 400 + yearOfEra + 1 := by
        rw [← hyear, marchYear, if_pos (by omega)]
        omega
      rw [hnext] at hcommon
      have hless : dayOfYear ≠ 365 := fun h => hcommon (hleap h)
      omega
  · rw [if_neg htwo]
    split
    · rename_i hthirty
      simp only [Bool.or_eq_true, decide_eq_true_eq] at hthirty
      exact hshort (by omega)
    · exact hlong

end Date

end SourceReview.Calendar
