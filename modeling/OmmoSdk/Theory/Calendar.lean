/-
# Theory.Calendar — the proleptic Gregorian calendar

Days are numbered from 1 January of the year 1, over all integers; `Date` is a date that
exists.  `Date.toDays` counts the days of the years and months before a date, `Date.ofDays`
finds the date of a day: the year by the cycles of 400, 100, 4 and 1 years, the month by
walking through the months of that year.  `toDays_ofDays` says that nothing is lost.

`le_yearOfDay_iff` compares years by their first days.
-/
import Mathlib.Data.List.GetD
import Mathlib.Tactic

namespace OmmoSdk.Theory

set_option autoImplicit false

/-! ## Years and months -/

def IsLeap (year : Int) : Prop := year % 4 = 0 ∧ (year % 100 ≠ 0 ∨ year % 400 = 0)

instance (year : Int) : Decidable (IsLeap year) :=
  inferInstanceAs (Decidable (year % 4 = 0 ∧ (year % 100 ≠ 0 ∨ year % 400 = 0)))

/-- The months of a year, January first. -/
def monthLengths (year : Int) : List Nat :=
  [31, if IsLeap year then 29 else 28, 31, 30, 31, 30, 31, 31, 30, 31, 30, 31]

/-- The number of the first day of a year. -/
def daysBeforeYear (year : Int) : Int :=
  365 * (year - 1) + (year - 1) / 4 - (year - 1) / 100 + (year - 1) / 400

theorem sum_monthLengths (year : Int) :
    (monthLengths year).sum = if IsLeap year then 366 else 365 := by
  unfold monthLengths
  split <;> rfl

theorem monthLength_le (year : Int) : ∀ length ∈ monthLengths year, length ≤ 31 := by
  unfold monthLengths
  split <;> decide

/-- The formula counts the days of all months. -/
theorem daysBeforeYear_succ (year : Int) :
    daysBeforeYear (year + 1) = daysBeforeYear year + (monthLengths year).sum := by
  rw [sum_monthLengths, daysBeforeYear, daysBeforeYear]
  split
  · rename_i leap
    unfold IsLeap at leap
    omega
  · rename_i common
    unfold IsLeap at common
    omega

theorem daysBeforeYear_mono {first later : Int} (le : first ≤ later) :
    daysBeforeYear first ≤ daysBeforeYear later := by
  unfold daysBeforeYear
  omega

/-- The year of a day.  The last of the four centuries of a cycle, and the last of four
years, may be a day longer than the others. -/
def yearOfDay (n : Int) : Int :=
  let inCycle := n % 146097
  let century := min (inCycle / 36524) 3
  let inCentury := inCycle - 36524 * century
  let inFour := inCentury % 1461
  400 * (n / 146097) + 100 * century + 4 * (inCentury / 1461) + min (inFour / 365) 3 + 1

/-- The first day of a year, by the cycles it is in. -/
theorem daysBeforeYear_cycles (cycle : Int) {century four one : Int}
    (centuries : 0 ≤ century ∧ century ≤ 3) (fours : 0 ≤ four ∧ four ≤ 24)
    (ones : 0 ≤ one ∧ one ≤ 3) :
    daysBeforeYear (400 * cycle + 100 * century + 4 * four + one + 1) =
      146097 * cycle + 36524 * century + 1461 * four + 365 * one := by
  unfold daysBeforeYear
  omega

/-- The last of four years is a leap year, unless it ends a century that does not end a
cycle. -/
theorem isLeap_cycles (cycle : Int) {century four : Int} (fours : 0 ≤ four ∧ four ≤ 24)
    (leap : four < 24 ∨ century = 3) :
    IsLeap (400 * cycle + 100 * century + 4 * four + 3 + 1) := by
  unfold IsLeap
  omega

theorem yearOfDay_spec (n : Int) :
    daysBeforeYear (yearOfDay n) ≤ n ∧ n < daysBeforeYear (yearOfDay n + 1) := by
  obtain ⟨century, isCentury⟩ : ∃ century, century = min (n % 146097 / 36524) 3 := ⟨_, rfl⟩
  obtain ⟨inCentury, isInCentury⟩ : ∃ d, d = n % 146097 - 36524 * century := ⟨_, rfl⟩
  obtain ⟨four, isFour⟩ : ∃ four, four = inCentury / 1461 := ⟨_, rfl⟩
  obtain ⟨one, isOne⟩ : ∃ one, one = min (inCentury % 1461 / 365) 3 := ⟨_, rfl⟩
  have year : yearOfDay n = 400 * (n / 146097) + 100 * century + 4 * four + one + 1 := by
    rw [isOne, isFour, isInCentury, isCentury]
    rfl
  have centuries : 0 ≤ century ∧ century ≤ 3 := by omega
  have fours : 0 ≤ four ∧ four ≤ 24 := by omega
  have ones : 0 ≤ one ∧ one ≤ 3 := by omega
  rw [daysBeforeYear_succ, sum_monthLengths, year, daysBeforeYear_cycles _ centuries fours ones]
  split
  · omega
  · rename_i common
    -- the 366th day would be the last of four years
    have notLast : ¬ (one = 3 ∧ (four < 24 ∨ century = 3)) := by
      rintro ⟨rfl, leap⟩
      exact common (isLeap_cycles _ fours leap)
    omega

theorem le_yearOfDay_iff {year n : Int} : year ≤ yearOfDay n ↔ daysBeforeYear year ≤ n := by
  obtain ⟨begun, notOver⟩ := yearOfDay_spec n
  constructor
  · exact fun le => (daysBeforeYear_mono le).trans begun
  · intro le
    by_contra later
    have next : daysBeforeYear (yearOfDay n + 1) ≤ daysBeforeYear year :=
      daysBeforeYear_mono (by omega)
    omega

/-! ## Consecutive segments -/

/-- The segment that a position falls into, and the position within it. -/
def locate : List Nat → Nat → Nat × Nat
  | [], n => (0, n)
  | length :: lengths, n =>
      if n < length then (0, n)
      else ((locate lengths (n - length)).1 + 1, (locate lengths (n - length)).2)

theorem locate_spec {lengths : List Nat} {n : Nat} (inside : n < lengths.sum) :
    (locate lengths n).2 < lengths.getD (locate lengths n).1 0 ∧
      (lengths.take (locate lengths n).1).sum + (locate lengths n).2 = n := by
  induction lengths generalizing n with
  | nil => exact absurd inside (Nat.not_lt_zero n)
  | cons length lengths ih =>
      rw [locate]
      split
      · rename_i first
        exact ⟨first, Nat.zero_add n⟩
      · rename_i later
        have inRest : n - length < lengths.sum := by
          rw [List.sum_cons] at inside
          omega
        obtain ⟨within, before⟩ := ih inRest
        refine ⟨within, ?_⟩
        rw [List.take_succ_cons, List.sum_cons]
        omega

/-! ## Dates -/

/-- Month and day count from 1. -/
def IsDate (year : Int) (month day : Nat) : Prop :=
  1 ≤ month ∧ 1 ≤ day ∧ day ≤ (monthLengths year).getD (month - 1) 0

instance (year : Int) (month day : Nat) : Decidable (IsDate year month day) :=
  inferInstanceAs (Decidable (1 ≤ month ∧ 1 ≤ day ∧ day ≤ _))

structure Date where
  year : Int
  month : Nat
  day : Nat
  valid : IsDate year month day

namespace Date

def toDays (date : Date) : Int :=
  daysBeforeYear date.year + ((monthLengths date.year).take (date.month - 1)).sum + (date.day - 1)

/-- A day lies within its year. -/
theorem dayOfYear_lt (n : Int) :
    (n - daysBeforeYear (yearOfDay n)).toNat < (monthLengths (yearOfDay n)).sum := by
  obtain ⟨begun, notOver⟩ := yearOfDay_spec n
  rw [daysBeforeYear_succ] at notOver
  omega

def ofDays (n : Int) : Date where
  year := yearOfDay n
  month := (locate (monthLengths (yearOfDay n)) (n - daysBeforeYear (yearOfDay n)).toNat).1 + 1
  day := (locate (monthLengths (yearOfDay n)) (n - daysBeforeYear (yearOfDay n)).toNat).2 + 1
  valid := ⟨Nat.le_add_left _ _, Nat.le_add_left _ _, (locate_spec (dayOfYear_lt n)).1⟩

theorem toDays_ofDays (n : Int) : (ofDays n).toDays = n := by
  have begun := (yearOfDay_spec n).1
  have counted := (locate_spec (dayOfYear_lt n)).2
  rw [toDays, ofDays]
  simp only [Nat.add_sub_cancel]
  omega

theorem month_le (date : Date) : date.month ≤ 12 := by
  obtain ⟨-, dayPos, dayLe⟩ := date.valid
  by_contra later
  have beyond : (monthLengths date.year).length ≤ date.month - 1 := by
    show 12 ≤ date.month - 1
    omega
  rw [List.getD_eq_default _ _ beyond] at dayLe
  omega

theorem day_le (date : Date) : date.day ≤ 31 := by
  obtain ⟨monthPos, -, dayLe⟩ := date.valid
  have within : date.month - 1 < (monthLengths date.year).length := by
    show date.month - 1 < 12
    have := date.month_le
    omega
  rw [List.getD_eq_getElem _ _ within] at dayLe
  exact dayLe.trans (monthLength_le date.year _ (List.getElem_mem within))

end Date

end OmmoSdk.Theory
