/-
The calendar leaves out no day. Every day has a date that exists and falls on it, in the year in which the day
lies.
-/
import CircuitBreaker.Time.Calendar
import Mathlib.Algebra.GroupWithZero.Nat
import Mathlib.Tactic.SplitIfs

namespace CircuitBreaker.Date

/-! ## Years -/

theorem isLeapYear_iff {year : Int} :
    isLeapYear year = true ↔ year % 4 = 0 ∧ (year % 100 ≠ 0 ∨ year % 400 = 0) := by
  simp [isLeapYear]

/-- A year has 365 days, and a leap year one more. -/
theorem daysBeforeYear_succ (year : Int) :
    daysBeforeYear (year + 1) = daysBeforeYear year + 365 + if isLeapYear year then 1 else 0 := by
  unfold daysBeforeYear
  split_ifs with h
  · rw [isLeapYear_iff] at h
    omega
  · rw [isLeapYear_iff] at h
    omega

theorem daysBeforeYear_mono {year later : Int} (h : year ≤ later) :
    daysBeforeYear year ≤ daysBeforeYear later := by
  unfold daysBeforeYear
  omega

/-- The estimate by the mean length of a year is not late, and less than three years early. -/
theorem estimate_bounds (number : Int) :
    daysBeforeYear (number * 400 / 146097 - 1) ≤ number ∧
      number < daysBeforeYear (number * 400 / 146097 - 1 + 3) := by
  unfold daysBeforeYear
  omega

/-- A day lies in its year. -/
theorem yearOfDay_bounds (number : Int) :
    daysBeforeYear (yearOfDay number) ≤ number ∧ number < daysBeforeYear (yearOfDay number + 1) := by
  obtain ⟨hlow, hhigh⟩ := estimate_bounds number
  unfold yearOfDay
  dsimp only
  generalize number * 400 / 146097 - 1 = low at hlow hhigh
  split_ifs with hfirst hsecond
  · exact ⟨hlow, hfirst⟩
  · exact ⟨Int.not_lt.1 hfirst, by rwa [Int.add_assoc]⟩
  · exact ⟨Int.not_lt.1 hsecond, by rwa [Int.add_assoc]⟩

/-! ## Months -/

/-- The months of a year fill it. -/
theorem sum_monthLengths (year : Int) :
    daysBeforeYear (year + 1) = daysBeforeYear year + (monthLengths year).sum := by
  rw [daysBeforeYear_succ, monthLengths]
  split_ifs
  · simp
    omega
  · simp

/-- There are twelve months, none of them longer than 31 days. -/
theorem monthLength_le (year : Int) (month : Nat) :
    monthLength year month ≤ 31 ∧ (0 < monthLength year month → 1 ≤ month ∧ month ≤ 12) := by
  unfold monthLength
  split_ifs with hmonth
  · simp
  · have hlengths : ∀ length ∈ monthLengths year, length ≤ 31 := by
      unfold monthLengths
      split_ifs <;> simp
    cases h : (monthLengths year)[month - 1]? with
    | none => simp
    | some length =>
      have hindex : month - 1 < 12 := (List.getElem?_eq_some_iff.1 h).1
      exact ⟨hlengths length (List.mem_of_getElem? h), by omega⟩

theorem Valid.month_bounds {date : Date} (h : date.Valid) : 1 ≤ date.month ∧ date.month ≤ 12 :=
  (monthLength_le date.year date.month).2 (Nat.lt_of_lt_of_le h.1 h.2)

theorem Valid.day_le {date : Date} (h : date.Valid) : date.day ≤ 31 :=
  Nat.le_trans h.2 (monthLength_le date.year date.month).1

/-- A day within the months is found in one of them, behind all days of those before it. -/
theorem locateMonth_spec (month : Nat) (lengths : List Nat) (rest : Nat) (h : rest < lengths.sum) :
    ∃ before length, (locateMonth month lengths rest).1 = month + before ∧
      lengths[before]? = some length ∧ (locateMonth month lengths rest).2 < length ∧
      (lengths.take before).sum + (locateMonth month lengths rest).2 = rest := by
  induction lengths generalizing month rest with
  | nil => simp at h
  | cons length lengths ih =>
    rw [List.sum_cons] at h
    unfold locateMonth
    split_ifs with hlt
    · exact ⟨0, length, rfl, rfl, hlt, by simp⟩
    · obtain ⟨before, found, hmonth, hfound, hindex, hsum⟩ := ih (month + 1) (rest - length) (by omega)
      refine ⟨before + 1, found, by omega, hfound, hindex, ?_⟩
      rw [List.take_succ_cons, List.sum_cons]
      omega

/-! ## Dates -/

/-- Every day has a date, which exists and falls on that day. -/
theorem ofDayNumber_spec (number : Int) :
    (ofDayNumber number).Valid ∧ (ofDayNumber number).dayNumber = number := by
  obtain ⟨hlow, hhigh⟩ := yearOfDay_bounds number
  have hfill := sum_monthLengths (yearOfDay number)
  obtain ⟨before, length, hmonth, hlength, hindex, hsum⟩ :=
    locateMonth_spec 1 (monthLengths (yearOfDay number)) (number - daysBeforeYear (yearOfDay number)).toNat (by omega)
  unfold ofDayNumber
  dsimp only
  generalize locateMonth 1 _ _ = located at hmonth hindex hsum
  obtain ⟨month, index⟩ := located
  dsimp only at hmonth hindex hsum ⊢
  constructor
  · refine ⟨by simp, ?_⟩
    simp only [monthLength]
    rw [if_neg (by omega), hmonth, Nat.add_sub_cancel_left, hlength]
    exact hindex
  · simp only [dayNumber, daysBeforeMonth, hmonth, Nat.add_sub_cancel_left, Nat.add_sub_cancel]
    rw [← List.sum_eq_foldr]
    omega

/-- The thousandth day before the year 0 began. -/
example : ofDayNumber (-1000) = ⟨-3, 4, 6⟩ := by decide

/-- The year of a day is among those that its number lies between. -/
theorem year_ofDayNumber {number first last : Int} (hfirst : daysBeforeYear first ≤ number)
    (hlast : number < daysBeforeYear (last + 1)) :
    first ≤ (ofDayNumber number).year ∧ (ofDayNumber number).year ≤ last := by
  obtain ⟨hlow, hhigh⟩ := yearOfDay_bounds number
  show first ≤ yearOfDay number ∧ yearOfDay number ≤ last
  constructor
  · refine Int.not_lt.1 fun hc => ?_
    have hnext := daysBeforeYear_mono (show yearOfDay number + 1 ≤ first by omega)
    omega
  · refine Int.not_lt.1 fun hc => ?_
    have hnext := daysBeforeYear_mono (show last + 1 ≤ yearOfDay number by omega)
    omega

end CircuitBreaker.Date
