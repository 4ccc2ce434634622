import Mathlib.Data.Nat.Init
import StaticPage.Calendar.Date

/-!
# Dates in the order of their days

The number of a day counts the days of the years, the months and the month before it. A date that exists lies
inside its month, and the month inside its year, so that the numbers go up with the year, within a year with the
month and within a month with the day.
-/

namespace StaticPage.Date

variable {d e : Date} {year : Int} {month : Nat}

def Valid (d : Date) : Prop :=
  1 ≤ d.day ∧ d.day ≤ daysInMonth d.year d.month

instance : Decidable d.Valid :=
  inferInstanceAs (Decidable (_ ∧ _))

def Before (d e : Date) : Prop :=
  d.year < e.year ∨ d.year = e.year ∧ (d.month < e.month ∨ d.month = e.month ∧ d.day < e.day)

theorem Valid.month_range (h : d.Valid) : 1 ≤ d.month ∧ d.month ≤ 12 := by
  obtain ⟨hfirst, hlast⟩ := h
  unfold daysInMonth at hlast
  split at hlast <;> omega

theorem before_trichotomy (d e : Date) : d.Before e ∨ d = e ∨ e.Before d := by
  obtain ⟨year, month, day⟩ := d
  obtain ⟨year', month', day'⟩ := e
  simp only [Before, mk.injEq]
  omega

/-! ### Months -/

theorem daysBeforeMonth_succ (hmonth : 1 ≤ month) :
    daysBeforeMonth year (month + 1) = daysBeforeMonth year month + daysInMonth year month := by
  obtain ⟨k, rfl⟩ : ∃ k, month = k + 1 := ⟨month - 1, by omega⟩
  simp [daysBeforeMonth, List.range_succ]

theorem daysBeforeMonth_mono {month' : Nat} (hmonth : 1 ≤ month) (h : month ≤ month') :
    daysBeforeMonth year month ≤ daysBeforeMonth year month' := by
  induction month', h using Nat.le_induction with
  | base => exact Nat.le_refl _
  | succ n hn ih =>
      rw [daysBeforeMonth_succ (by omega)]
      omega

theorem daysBeforeMonth_end (year : Int) :
    daysBeforeMonth year 13 = if isLeap year then 366 else 365 := by
  have hrange : List.range 12 = [0, 1, 2, 3, 4, 5, 6, 7, 8, 9, 10, 11] := by decide
  rw [daysBeforeMonth, hrange]
  cases hleap : isLeap year <;> simp [daysInMonth, hleap]

theorem Valid.lt_daysBeforeMonth (h : d.Valid) :
    daysBeforeMonth d.year d.month + (d.day - 1) < daysBeforeMonth d.year (d.month + 1) := by
  have hmonth := h.month_range
  obtain ⟨hfirst, hlast⟩ := h
  rw [daysBeforeMonth_succ hmonth.1]
  omega

/-! ### Years -/

def yearStart (year : Int) : Int :=
  365 * (year - 1) + (year - 1) / 4 - (year - 1) / 100 + (year - 1) / 400

theorem dayNumber_eq (d : Date) :
    d.dayNumber = yearStart d.year + daysBeforeMonth d.year d.month + (d.day - 1 : Nat) := rfl

theorem yearStart_succ (year : Int) :
    yearStart (year + 1) = yearStart year + (if isLeap year then 366 else 365 : Nat) := by
  have hleap : isLeap year = true ↔ year % 4 = 0 ∧ (year % 100 ≠ 0 ∨ year % 400 = 0) := by
    simp [isLeap]
  unfold yearStart
  split
  · rename_i h
    have := hleap.1 h
    omega
  · rename_i h
    have := mt hleap.2 h
    omega

theorem yearStart_mono {year' : Int} (h : year ≤ year') : yearStart year ≤ yearStart year' := by
  unfold yearStart
  omega

theorem Valid.dayNumber_bounds (h : d.Valid) :
    yearStart d.year ≤ d.dayNumber ∧ d.dayNumber < yearStart (d.year + 1) := by
  have hmonth := h.month_range
  have hend := h.lt_daysBeforeMonth
  have hlast : daysBeforeMonth d.year (d.month + 1) ≤ daysBeforeMonth d.year 13 :=
    daysBeforeMonth_mono (by omega) (by omega)
  rw [daysBeforeMonth_end] at hlast
  rw [yearStart_succ, dayNumber_eq]
  omega

/-! ### The order of days -/

theorem dayNumber_lt_of_before (hd : d.Valid) (he : e.Valid) (h : d.Before e) :
    d.dayNumber < e.dayNumber := by
  rcases h with hyear | ⟨hyear, hmonth | ⟨hmonth, hday⟩⟩
  · have hmono : yearStart (d.year + 1) ≤ yearStart e.year := yearStart_mono (by omega)
    have hbefore := hd.dayNumber_bounds
    have hafter := he.dayNumber_bounds
    omega
  · have hend := hd.lt_daysBeforeMonth
    have hmono : daysBeforeMonth d.year (d.month + 1) ≤ daysBeforeMonth d.year e.month :=
      daysBeforeMonth_mono (by omega) hmonth
    rw [dayNumber_eq, dayNumber_eq, ← hyear]
    omega
  · have hfirst := hd.1
    rw [dayNumber_eq, dayNumber_eq, ← hyear, ← hmonth]
    omega

/-- The days of valid dates are in the order of year, month and day. -/
theorem dayNumber_lt_iff (hd : d.Valid) (he : e.Valid) : d.dayNumber < e.dayNumber ↔ d.Before e := by
  refine ⟨fun hlt => ?_, dayNumber_lt_of_before hd he⟩
  rcases before_trichotomy d e with h | rfl | h
  · exact h
  · omega
  · have := dayNumber_lt_of_before he hd h
    omega

theorem dayNumber_inj (hd : d.Valid) (he : e.Valid) : d.dayNumber = e.dayNumber ↔ d = e := by
  refine ⟨fun heq => ?_, fun heq => heq ▸ rfl⟩
  rcases before_trichotomy d e with h | h | h
  · have := dayNumber_lt_of_before hd he h
    omega
  · exact h
  · have := dayNumber_lt_of_before he hd h
    omega

end StaticPage.Date
