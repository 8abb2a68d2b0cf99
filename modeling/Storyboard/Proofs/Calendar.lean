import Storyboard.Proofs.StampBounds

/-! # Days of the calendar

The day number of a date is found by a formula. It is the number that counting gives:
it is zero at the epoch and grows by one from each day to the next, through all
months and leap years. Months and years follow each other in the order of their
numbers, so the day number of a date tells its year.
-/
namespace Storyboard.Time

theorem isLeapYear_iff (year : Int) :
    isLeapYear year = true ↔ year % 4 = 0 ∧ (year % 100 ≠ 0 ∨ year % 400 = 0) := by
  simp [isLeapYear]

theorem daysInMonth_ge (year : Int) (month : Nat) : 28 ≤ daysInMonth year month := by
  unfold daysInMonth
  split
  · split <;> omega
  · split <;> omega

namespace Date

variable {d : Date} {year : Int} {month : Nat}

def firstOf (year : Int) (month : Nat) : Int := (Date.mk year month 1).dayNumber

def newYear (year : Int) : Int := firstOf year 1

theorem dayNumber_eq_firstOf (d : Date) : d.dayNumber = firstOf d.year d.month + d.day - 1 := by
  simp only [firstOf, dayNumber]
  omega

theorem firstOf_succ (year : Int) (hlow : 1 ≤ month) (hhigh : month < 12) :
    firstOf year (month + 1) = firstOf year month + daysInMonth year month := by
  have hcases : month = 1 ∨ month = 2 ∨ month = 3 ∨ month = 4 ∨ month = 5 ∨ month = 6 ∨
      month = 7 ∨ month = 8 ∨ month = 9 ∨ month = 10 ∨ month = 11 := by omega
  have hleap := isLeapYear_iff year
  rcases hcases with rfl | rfl | rfl | rfl | rfl | rfl | rfl | rfl | rfl | rfl | rfl
  case inr.inl =>
    -- The year starts in March, so the leap day is the step between two years.
    by_cases h : isLeapYear year = true
    · have hyear := hleap.mp h
      simp [firstOf, dayNumber, daysBeforeMonth, daysInMonth, h]
      omega
    · have hyear : ¬(year % 4 = 0 ∧ (year % 100 ≠ 0 ∨ year % 400 = 0)) := fun hy => h (hleap.mpr hy)
      simp [firstOf, dayNumber, daysBeforeMonth, daysInMonth, h]
      omega
  all_goals
    simp [firstOf, dayNumber, daysBeforeMonth, daysInMonth]
    omega

theorem newYear_succ (year : Int) : newYear (year + 1) = firstOf year 12 + 31 := by
  simp [newYear, firstOf, dayNumber, daysBeforeMonth]
  omega

theorem firstOf_mono (year : Int) {month' : Nat} (hlow : 1 ≤ month) (hle : month ≤ month')
    (hhigh : month' ≤ 12) :
    firstOf year month ≤ firstOf year month' := by
  obtain ⟨k, rfl⟩ := Nat.exists_eq_add_of_le hle
  induction k with
  | zero => exact Int.le_refl _
  | succ k ih =>
    have hlow' : 1 ≤ month + k := by omega
    have hstep := firstOf_succ year hlow' (by omega)
    have hbefore := ih (by omega) (by omega)
    rw [← Nat.add_assoc, hstep]
    omega

theorem newYear_mono {year' : Int} (h : year ≤ year') : newYear year ≤ newYear year' := by
  simp only [newYear, firstOf, dayNumber, daysBeforeMonth]
  omega

theorem dayNumber_lt_of_month_lt {d' : Date} (hyear : d.year = d'.year) (hlow : 1 ≤ d.month)
    (hlt : d.month < d'.month) (hhigh : d'.month ≤ 12) (hday : d.day ≤ daysInMonth d.year d.month)
    (hday' : 1 ≤ d'.day) : d.dayNumber < d'.dayNumber := by
  have hstep := firstOf_succ d.year hlow (by omega)
  have hmono := firstOf_mono d.year (Nat.le_add_left 1 d.month) hlt hhigh
  have hfirst := d.dayNumber_eq_firstOf
  have hsecond := d'.dayNumber_eq_firstOf
  rw [← hyear] at hsecond
  omega

theorem Valid.newYear_le (h : d.Valid) : newYear d.year ≤ d.dayNumber := by
  obtain ⟨-, -, hlow, hhigh, hday, -⟩ := h
  have hmono := firstOf_mono d.year (Nat.le_refl 1) hlow hhigh
  have hfirst := d.dayNumber_eq_firstOf
  unfold newYear
  omega

theorem Valid.lt_newYear (h : d.Valid) : d.dayNumber < newYear (d.year + 1) := by
  obtain ⟨-, -, hlow, hhigh, -, hday⟩ := h
  have hfirst := d.dayNumber_eq_firstOf
  have hyear := newYear_succ d.year
  by_cases hdecember : d.month = 12
  · rw [hdecember] at hfirst hday
    have hlength : daysInMonth d.year 12 = 31 := rfl
    omega
  · have hmonth : d.month < 12 := by omega
    have hstep := firstOf_succ d.year hlow hmonth
    have hmono := firstOf_mono d.year (Nat.le_add_left 1 d.month) hmonth (Nat.le_refl 12)
    omega

/-- A date lies in the year whose bounds enclose its number. -/
theorem Valid.year_eq (h : d.Valid) (hlow : newYear year ≤ d.dayNumber)
    (hhigh : d.dayNumber < newYear (year + 1)) : d.year = year := by
  have hfrom := h.newYear_le
  have hto := h.lt_newYear
  rcases Int.lt_trichotomy d.year year with hlt | heq | hgt
  · have := newYear_mono (Int.add_one_le_of_lt hlt)
    omega
  · exact heq
  · have := newYear_mono (Int.add_one_le_of_lt hgt)
    omega

/-! ## From day to day -/

def next (d : Date) : Date :=
  if d.day < daysInMonth d.year d.month then ⟨d.year, d.month, d.day + 1⟩
  else if d.month < 12 then ⟨d.year, d.month + 1, 1⟩
  else ⟨d.year + 1, 1, 1⟩

theorem dayNumber_next (h : d.Valid) : d.next.dayNumber = d.dayNumber + 1 := by
  obtain ⟨-, -, hlow, hhigh, -, hday⟩ := h
  have hfirst := d.dayNumber_eq_firstOf
  unfold next
  by_cases hwithin : d.day < daysInMonth d.year d.month
  · rw [if_pos hwithin, dayNumber_eq_firstOf]
    dsimp only
    omega
  rw [if_neg hwithin]
  by_cases hmonth : d.month < 12
  · have hstep := firstOf_succ d.year hlow hmonth
    rw [if_pos hmonth, ← firstOf, hstep]
    omega
  · have hdecember : d.month = 12 := by omega
    have hlength : daysInMonth d.year 12 = 31 := rfl
    rw [hdecember] at hfirst hday hwithin
    rw [if_neg hmonth, ← firstOf, ← newYear, newYear_succ]
    omega

theorem Valid.next (h : d.Valid) (hyear : d.year < maxYear) : d.next.Valid := by
  obtain ⟨hmin, hmax, hlow, hhigh, hday, hdays⟩ := h
  have hlength : ∀ year month, 1 ≤ daysInMonth year month :=
    fun year month => Nat.le_trans (by decide) (daysInMonth_ge year month)
  unfold Date.next
  split
  · exact ⟨hmin, hmax, hlow, hhigh, by dsimp only; omega, by dsimp only; omega⟩
  · split
    · exact ⟨hmin, hmax, by dsimp only; omega, by dsimp only; omega, Nat.le_refl 1,
        hlength _ _⟩
    · exact ⟨by dsimp only; omega, by dsimp only; omega, Nat.le_refl 1, by dsimp only; omega,
        Nat.le_refl 1, hlength _ _⟩

/-- Each date but the first one of the calendar has a day before it. -/
theorem Valid.pred (h : d.Valid) (hfirst : newYear minYear < d.dayNumber) : d.pred.Valid := by
  have hnumber := d.dayNumber_eq_firstOf
  obtain ⟨hmin, hmax, hlow, hhigh, hday, hdays⟩ := h
  have hlength := daysInMonth_ge d.year (d.month - 1)
  unfold Date.pred
  by_cases hwithin : 1 < d.day
  · rw [if_pos hwithin]
    exact ⟨hmin, hmax, hlow, hhigh, by dsimp only; omega, by dsimp only; omega⟩
  rw [if_neg hwithin]
  by_cases hmonth : 1 < d.month
  · rw [if_pos hmonth]
    exact ⟨hmin, hmax, by dsimp only; omega, by dsimp only; omega,
      Nat.le_trans (by decide) hlength, Nat.le_refl _⟩
  · have hyear : minYear < d.year := by
      have hmonth : d.month = 1 := by omega
      rw [hmonth, ← newYear] at hnumber
      apply Decidable.byContradiction
      intro hle
      have := newYear_mono (Int.not_lt.mp hle)
      omega
    rw [if_neg hmonth]
    exact ⟨by dsimp only; omega, by dsimp only; omega, by dsimp only; omega, Nat.le_refl 12,
      by dsimp only; omega, Nat.le_refl 31⟩

theorem Valid.next_pred (h : d.Valid) : d.pred.next = d := by
  obtain ⟨-, -, hlow, hhigh, hday, hdays⟩ := h
  obtain ⟨year, month, day⟩ := d
  dsimp only at hlow hhigh hday hdays
  unfold Date.pred
  dsimp only
  by_cases hfirst : 1 < day
  · have hlt : day - 1 < daysInMonth year month := by omega
    have hback : day - 1 + 1 = day := by omega
    rw [if_pos hfirst, Date.next, if_pos hlt, hback]
  · have hone : day = 1 := by omega
    subst hone
    rw [if_neg hfirst]
    by_cases hjanuary : 1 < month
    · have hback : month - 1 + 1 = month := by omega
      rw [if_pos hjanuary, Date.next, if_neg (Nat.lt_irrefl _), if_pos (by dsimp only; omega)]
      dsimp only
      rw [hback]
    · have hone : month = 1 := by omega
      have hback : year - 1 + 1 = year := by omega
      subst hone
      rw [if_neg hjanuary]
      show Date.mk (year - 1 + 1) 1 1 = _
      rw [hback]

theorem dayNumber_pred (h : d.Valid) (hfirst : newYear minYear < d.dayNumber) :
    d.pred.dayNumber = d.dayNumber - 1 := by
  have hnext := dayNumber_next (h.pred hfirst)
  rw [h.next_pred] at hnext
  omega

/-! ## Counting -/

/-- A numbering of the dates that starts at the epoch and goes on from day to day. -/
structure DayCount where
  number : Date → Int
  epoch : number ⟨1970, 1, 1⟩ = 0
  next : ∀ d, d.Valid → d.next.Valid → number d.next = number d + 1

def DayCount.ofDayNumber : DayCount where
  number := dayNumber
  epoch := rfl
  next _ h _ := dayNumber_next h

theorem Valid.eq_epoch (h : d.Valid) (hzero : d.dayNumber = 0) : d = ⟨1970, 1, 1⟩ := by
  have hyear : d.year = 1970 := h.year_eq (by rw [hzero]; decide) (by rw [hzero]; decide)
  have hmonth : d.month = 1 := by
    apply Decidable.byContradiction
    intro hlater
    have hnumber := dayNumber_lt_of_month_lt (d := ⟨1970, 1, 1⟩) hyear.symm (Nat.le_refl 1)
      (by have := h.2.2.1; dsimp only; omega) h.2.2.2.1 (by decide) h.2.2.2.2.1
    rw [hzero] at hnumber
    exact absurd hnumber (by decide)
  have hfirst := d.dayNumber_eq_firstOf
  rw [hyear, hmonth, hzero, show firstOf 1970 1 = 0 from rfl] at hfirst
  obtain ⟨year, month, day⟩ := d
  dsimp only at hyear hmonth hfirst
  have hday : day = 1 := by omega
  rw [hyear, hmonth, hday]

/-- There is one such numbering. The induction is on the distance from the epoch: each
other date is next to one that is nearer. -/
theorem DayCount.number_eq (count : DayCount) (h : d.Valid) : count.number d = d.dayNumber := by
  obtain ⟨n, hn⟩ : ∃ n : Nat, d.dayNumber.natAbs = n := ⟨_, rfl⟩
  induction n generalizing d with
  | zero =>
    have hzero : d.dayNumber = 0 := by omega
    rw [h.eq_epoch hzero, count.epoch]
    rfl
  | succ n ih =>
    have hepoch : newYear 1970 = 0 := rfl
    have hfrom := h.newYear_le
    by_cases hsign : 0 < d.dayNumber
    · have hmin : newYear minYear < d.dayNumber := by
        have hbefore : minYear ≤ 1970 := by decide
        have := newYear_mono hbefore
        omega
      have hstep := dayNumber_pred h hmin
      have hcount := count.next d.pred (h.pred hmin) (by rw [h.next_pred]; exact h)
      rw [h.next_pred, ih (h.pred hmin) (by omega), hstep] at hcount
      omega
    · have hyear : d.year ≤ 1970 := by
        apply Decidable.byContradiction
        intro hgt
        have := newYear_mono (Int.le_of_lt (Int.not_le.mp hgt))
        omega
      have hmax : d.year < maxYear := by
        unfold maxYear
        omega
      have hstep := dayNumber_next h
      have hcount := count.next d h (h.next hmax)
      rw [ih (h.next hmax) (by omega), hstep] at hcount
      omega

end Date

/-! ## The ends of the calendar -/

theorem WallTime.minSeconds_eq : minSeconds = Date.newYear Date.minYear * 86400 := rfl

theorem WallTime.maxSeconds_eq : maxSeconds = Date.newYear (Date.maxYear + 1) * 86400 - 1 := by
  decide

theorem WallTime.seconds_bounds {w : WallTime} (hw : w.OnClock) :
    minSeconds ≤ w.seconds ∧ w.seconds ≤ maxSeconds := by
  obtain ⟨hdate, hhour, hminute, hsecond, -⟩ := hw
  have hlow := Int.le_trans (Date.newYear_mono hdate.1) hdate.newYear_le
  have hhigh := Int.lt_of_lt_of_le hdate.lt_newYear
    (Date.newYear_mono (Int.add_le_add_right hdate.2.1 1))
  rw [minSeconds_eq, maxSeconds_eq]
  unfold seconds
  omega

end Storyboard.Time
