import Mathlib.Data.Int.Init
import Mathlib.Tactic.Common

/-! Weeks on a line of days, numbered anew from the first week of each year. A year is given by
the day its first week starts on. -/

namespace Weeks

/-- The day that starts the week of a day; weeks start on the days of one remainder. -/
def start (remainder day : Int) : Int := day - (day - remainder) % 7

/-- The years follow each other by whole weeks. -/
structure Years (remainder : Int) (firstWeek : Int → Int) (lowest : Int) : Prop where
  starts : ∀ year, lowest ≤ year → start remainder (firstWeek year) = firstWeek year
  shortest : ∀ year, lowest ≤ year → firstWeek year + 364 ≤ firstWeek (year + 1)
  longest : ∀ year, lowest ≤ year → firstWeek (year + 1) ≤ firstWeek year + 371

/-- A day is in the weeks of a year. -/
structure Within (firstWeek : Int → Int) (lowest year day : Int) : Prop where
  known : lowest ≤ year
  reached : firstWeek year ≤ day
  before : day < firstWeek (year + 1)

/-- The number of the week of a day in a year. -/
def number (firstWeek : Int → Int) (year day : Int) : Int := (day - firstWeek year) / 7 + 1

variable {remainder lowest : Int} {firstWeek : Int → Int} {year other day later : Int}

theorem start_le (remainder day : Int) :
    start remainder day ≤ day ∧ day < start remainder day + 7 := by
  rw [start]
  omega

theorem start_start (remainder day : Int) :
    start remainder (start remainder day) = start remainder day := by
  rw [start, start]
  omega

theorem start_add (remainder day shift : Int) :
    start (remainder + shift) (day + shift) = start remainder day + shift := by
  rw [start, start]
  omega

/-- Later weeks start whole weeks later. -/
theorem start_mono (remainder : Int) (ordered : day ≤ later) :
    start remainder day ≤ start remainder later := by
  rw [start, start]
  omega

theorem number_bounds (years : Years remainder firstWeek lowest)
    (within : Within firstWeek lowest year day) :
    1 ≤ number firstWeek year day ∧ number firstWeek year day ≤ 53 := by
  obtain ⟨known, reached, before⟩ := within
  have longest := years.longest year known
  rw [number]
  omega

/-- The number counts the weeks from the first one on. -/
theorem start_eq (years : Years remainder firstWeek lowest)
    (within : Within firstWeek lowest year day) :
    start remainder day = firstWeek year + 7 * (number firstWeek year day - 1) := by
  obtain ⟨known, reached, before⟩ := within
  have starts := years.starts year known
  rw [start] at starts
  rw [start, number]
  omega

theorem firstWeek_lt (years : Years remainder firstWeek lowest) (known : lowest ≤ year)
    (less : year < other) : firstWeek year + 364 ≤ firstWeek other := by
  induction other, less using Int.leInduction with
  | base => exact years.shortest year known
  | succ other reached ih =>
    have next := years.shortest other (by omega)
    omega

/-- A day before a week's start is in an earlier week. -/
theorem start_lt {week : Int} (aligned : start remainder week = week) (before : day < week) :
    start remainder day + 7 ≤ week := by
  rw [start] at aligned ⊢
  omega

theorem le_start {week : Int} (aligned : start remainder week = week) (reached : week ≤ day) :
    week ≤ start remainder day := by
  rw [start] at aligned ⊢
  omega

/-- A later week is in a later year, or in the same. -/
theorem year_le (years : Years remainder firstWeek lowest)
    (first : Within firstWeek lowest year day) (second : Within firstWeek lowest other later)
    (ordered : start remainder day ≤ start remainder later) : year ≤ other := by
  by_contra less
  have known := second.known
  have apart : firstWeek (other + 1) ≤ firstWeek year := by
    rcases Int.lt_or_eq_of_le (show other + 1 ≤ year by omega) with gap | same
    · have far := firstWeek_lt years (show lowest ≤ other + 1 by omega) gap
      omega
    · exact Int.le_of_eq (congrArg firstWeek same)
  have lower := start_lt (years.starts (other + 1) (by omega)) second.before
  have upper := le_start (years.starts year first.known) first.reached
  omega

/-- The number of a week in the number of its year. -/
def label (firstWeek : Int → Int) (year day : Int) : Int :=
  year * 100 + number firstWeek year day

theorem label_mono (years : Years remainder firstWeek lowest)
    (first : Within firstWeek lowest year day) (second : Within firstWeek lowest other later)
    (ordered : start remainder day ≤ start remainder later) :
    label firstWeek year day ≤ label firstWeek other later := by
  have firstBounds := number_bounds years first
  have secondBounds := number_bounds years second
  rw [label, label]
  rcases Int.lt_or_eq_of_le (year_le years first second ordered) with less | rfl
  · omega
  · have firstStart := start_eq years first
    have secondStart := start_eq years second
    omega

/-- Labels name weeks. -/
theorem label_eq_iff (years : Years remainder firstWeek lowest)
    (first : Within firstWeek lowest year day) (second : Within firstWeek lowest other later) :
    label firstWeek year day = label firstWeek other later ↔
      start remainder day = start remainder later := by
  have firstStart := start_eq years first
  have secondStart := start_eq years second
  constructor
  · intro same
    have firstBounds := number_bounds years first
    have secondBounds := number_bounds years second
    rw [label, label] at same
    have sameYear : year = other := by omega
    subst sameYear
    omega
  · intro same
    have forward := year_le years first second (Int.le_of_eq same)
    have backward := year_le years second first (Int.le_of_eq same.symm)
    have sameYear : year = other := by omega
    subst sameYear
    rw [label, label]
    omega

/-- The next week has the next number, or the first of the next year. -/
theorem label_next (years : Years remainder firstWeek lowest)
    (first : Within firstWeek lowest year day) (second : Within firstWeek lowest other later)
    (next : start remainder later = start remainder day + 7) :
    other = year ∧ number firstWeek other later = number firstWeek year day + 1 ∨
      other = year + 1 ∧ number firstWeek other later = 1 := by
  have firstStart := start_eq years first
  have secondStart := start_eq years second
  have firstBounds := number_bounds years first
  have secondBounds := number_bounds years second
  have forward := year_le years first second (by omega)
  rcases Int.lt_or_eq_of_le forward with less | rfl
  · right
    have lower := start_lt (years.starts (year + 1) (by have := first.known; omega)) first.before
    rcases Int.lt_or_eq_of_le (show year + 1 ≤ other by omega) with far | rfl
    · have gap := firstWeek_lt years (show lowest ≤ year + 1 by have := first.known; omega) far
      omega
    · omega
  · left
    omega

end Weeks
