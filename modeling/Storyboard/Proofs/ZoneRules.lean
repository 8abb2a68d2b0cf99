import Storyboard.Proofs.Calendar
import Storyboard.Time.ZoneText

/-! # Rules that can be read

A rule that was read from a text has bounded parts: offsets below a day, except for a
daylight offset that is an hour east of the standard one, days that each year has, and
times of day up to one hour past midnight. So the transitions of a year come in the
order of their months, up to an hour.
-/
namespace Storyboard.Time

/-! ## Dates of day rules -/

/-- The day rules that a text can express. -/
def DayRule.Proper : DayRule → Prop
  | .weekdayOf month week weekday => 1 ≤ month ∧ month ≤ 12 ∧ 1 ≤ week ∧ week ≤ 5 ∧ weekday ≤ 6
  | .numbered day => 1 ≤ day ∧ day ≤ 365
  | .afterNewYear days => days ≤ 365

/-- The days that are left in a month are no more than its length, unless it is the last
one. -/
theorem monthAndDay_bounds {lengths : List Nat} (hne : lengths ≠ []) (month n : Nat) :
    month ≤ (monthAndDay lengths month n).1 ∧
      (monthAndDay lengths month n).1 < month + lengths.length ∧
      1 ≤ (monthAndDay lengths month n).2 ∧
      ((monthAndDay lengths month n).1 + 1 < month + lengths.length →
        (monthAndDay lengths month n).2 ≤
          lengths.getD ((monthAndDay lengths month n).1 - month) 0) := by
  induction lengths generalizing month n with
  | nil => exact absurd rfl hne
  | cons length lengths ih =>
    cases lengths with
    | nil => simp [monthAndDay]
    | cons next rest =>
      rw [monthAndDay]
      by_cases hlt : n < length
      · rw [if_pos hlt]
        simp
        omega
      · rw [if_neg hlt]
        obtain ⟨hlow, hhigh, hday, hlength⟩ := ih (List.cons_ne_nil _ _) (month + 1) (n - length)
        have hindex : (monthAndDay (next :: rest) (month + 1) (n - length)).1 - month =
            (monthAndDay (next :: rest) (month + 1) (n - length)).1 - (month + 1) + 1 := by omega
        rw [List.length_cons, hindex, List.getD_cons_succ]
        refine ⟨by omega, by omega, hday, fun hbefore => hlength (by omega)⟩

theorem getD_monthLengths_le {leap : Bool} {year : Int}
    (hleap : leap = true → isLeapYear year = true) {index : Nat} (hindex : index < 12) :
    (monthLengths leap).getD index 0 ≤ daysInMonth year (index + 1) := by
  have hcases : index = 0 ∨ index = 1 ∨ index = 2 ∨ index = 3 ∨ index = 4 ∨ index = 5 ∨ index = 6 ∨
      index = 7 ∨ index = 8 ∨ index = 9 ∨ index = 10 ∨ index = 11 := by omega
  rcases hcases with rfl | rfl | rfl | rfl | rfl | rfl | rfl | rfl | rfl | rfl | rfl | rfl
  case inr.inl =>
    cases leap with
    | false => exact daysInMonth_ge year 2
    | true => simp [monthLengths, daysInMonth, hleap rfl]
  all_goals exact Nat.le_refl _

/-- Where the rules of a year fall: in a month of it, and within the month unless that is
December. -/
structure DayRule.Falls (year : Int) (d : Date) : Prop where
  year_eq : d.year = year
  month_low : 1 ≤ d.month
  month_high : d.month ≤ 12
  day_low : 1 ≤ d.day
  day_high : d.month < 12 → d.day ≤ daysInMonth d.year d.month

theorem DayRule.falls_monthAndDay (leap : Bool) {year : Int}
    (hleap : leap = true → isLeapYear year = true) (n : Nat) :
    Falls year ⟨year, (monthAndDay (monthLengths leap) 1 n).1,
      (monthAndDay (monthLengths leap) 1 n).2⟩ := by
  have hne : monthLengths leap ≠ [] := by simp [monthLengths]
  have hcount : (monthLengths leap).length = 12 := rfl
  obtain ⟨hlow, hhigh, hday, hlength⟩ := monthAndDay_bounds hne 1 n
  refine ⟨rfl, hlow, by dsimp only; omega, hday, fun hbefore => ?_⟩
  dsimp only at hbefore ⊢
  have hindex : (monthAndDay (monthLengths leap) 1 n).1 - 1 < 12 := by omega
  have hle := getD_monthLengths_le hleap hindex
  rw [Nat.sub_add_cancel hlow] at hle
  exact Nat.le_trans (hlength (by omega)) hle

theorem DayRule.Proper.falls {rule : DayRule} (h : rule.Proper) (year : Int) :
    Falls year (rule.date year) := by
  cases rule with
  | weekdayOf month week weekday =>
    obtain ⟨hlow, hhigh, hweek, hlast, -⟩ := h
    have hlength := daysInMonth_ge year month
    unfold date
    dsimp only
    split
    · exact ⟨rfl, hlow, hhigh, by dsimp only; omega, fun _ => by dsimp only; omega⟩
    · exact ⟨rfl, hlow, hhigh, by dsimp only; omega, fun _ => by dsimp only; omega⟩
  | numbered day => exact falls_monthAndDay false (by simp) (day - 1)
  | afterNewYear days => exact falls_monthAndDay (isLeapYear year) id days

/-! ## Transitions -/

structure Transition.Proper (t : Transition) : Prop where
  day : t.day.Proper
  time : t.time < 90000

/-- Transitions come in the order of their months, up to the hour by which a time of day
may exceed its day. -/
theorem Transition.Proper.seconds_lt {t t' : Transition} (ht : t.Proper) (ht' : t'.Proper)
    {year : Int} (h : (t.day.date year).month < (t'.day.date year).month) :
    t.seconds year < t'.seconds year + 3600 := by
  have hfalls := ht.day.falls year
  have hfalls' := ht'.day.falls year
  have htime := ht.time
  have hhigh := hfalls'.month_high
  have hday := hfalls.day_high (by omega)
  have hnumber := Date.dayNumber_lt_of_month_lt (hfalls.year_eq.trans hfalls'.year_eq.symm)
    hfalls.month_low h hhigh hday hfalls'.day_low
  unfold Transition.seconds
  omega

/-! ## Rules -/

structure Alternation.Proper (r : Alternation) : Prop where
  standard : Zone.isOffset r.standard = true
  daylight : Zone.isOffset r.daylight = true ∨ r.daylight = r.standard + 3600
  start : r.start.Proper
  finish : r.finish.Proper

namespace Zone

variable {cs rest : List Char}

theorem readWithin_bounds {low high n : Nat} (h : readWithin low high cs = some (n, rest)) :
    low ≤ n ∧ n ≤ high := by
  obtain ⟨-, hbounds⟩ := Option.filter_eq_some_iff.mp h
  simpa using hbounds

theorem readPart_le {n : Nat} (h : readPart cs = some (n, rest)) : n ≤ 59 := by
  unfold readPart at h
  split at h
  · exact (readWithin_bounds h).2
  · cases h
    omega

theorem readClock_lt {maxHours n : Nat} (h : readClock maxHours cs = some (n, rest)) :
    n < (maxHours + 1) * 3600 := by
  obtain ⟨⟨hours, cs₁⟩, hhours, h⟩ := Option.bind_eq_some_iff.mp h
  obtain ⟨⟨minutes, cs₂⟩, hminutes, h⟩ := Option.bind_eq_some_iff.mp h
  obtain ⟨⟨seconds, cs₃⟩, hseconds, h⟩ := Option.bind_eq_some_iff.mp h
  cases h
  have hbound := (readWithin_bounds hhours).2
  have := readPart_le hminutes
  have := readPart_le hseconds
  have := Nat.mul_le_mul_right 3600 hbound
  omega

theorem isOffset_of_readOffset {offset : Int} (h : readOffset cs = some (offset, rest)) :
    isOffset offset = true := by
  have hclock : ∀ {cs' rest' : List Char} {n : Nat}, readClock 23 cs' = some (n, rest') →
      isOffset (n : Int) = true ∧ isOffset (-(n : Int)) = true := by
    intro cs' rest' n hn
    have hlt := readClock_lt hn
    simp only [isOffset, Bool.and_eq_true, decide_eq_true_eq]
    omega
  unfold readOffset at h
  split at h
  all_goals
    obtain ⟨⟨n, rest'⟩, hn, he⟩ := Option.map_eq_some_iff.mp h
    cases he
  · exact (hclock hn).1
  · exact (hclock hn).2
  · exact (hclock hn).2

theorem proper_of_readWeekday {rule : DayRule} (h : readWeekday cs = some (rule, rest)) :
    rule.Proper := by
  obtain ⟨⟨month, cs₁⟩, hmonth, h⟩ := Option.bind_eq_some_iff.mp h
  obtain ⟨cs₂, -, h⟩ := Option.bind_eq_some_iff.mp h
  obtain ⟨⟨week, cs₃⟩, hweek, h⟩ := Option.bind_eq_some_iff.mp h
  obtain ⟨cs₄, -, h⟩ := Option.bind_eq_some_iff.mp h
  obtain ⟨⟨weekday, cs₅⟩, hweekday, h⟩ := Option.bind_eq_some_iff.mp h
  cases h
  obtain ⟨hlow, hhigh⟩ := readWithin_bounds hmonth
  obtain ⟨hfirst, hlast⟩ := readWithin_bounds hweek
  exact ⟨hlow, hhigh, hfirst, hlast, (readWithin_bounds hweekday).2⟩

theorem proper_of_readDayRule {rule : DayRule} (h : readDayRule cs = some (rule, rest)) :
    rule.Proper := by
  unfold readDayRule at h
  split at h
  · exact proper_of_readWeekday h
  · obtain ⟨⟨n, rest'⟩, hn, he⟩ := Option.map_eq_some_iff.mp h
    cases he
    exact readWithin_bounds hn
  · obtain ⟨⟨n, rest'⟩, hn, he⟩ := Option.map_eq_some_iff.mp h
    cases he
    exact (readWithin_bounds hn).2

theorem proper_of_readTransition {t : Transition} (h : readTransition cs = some (t, rest)) :
    t.Proper := by
  obtain ⟨⟨day, cs₁⟩, hday, h⟩ := Option.bind_eq_some_iff.mp h
  have hproper := proper_of_readDayRule hday
  dsimp only at h
  split at h
  · obtain ⟨⟨time, cs₂⟩, htime, h⟩ := Option.bind_eq_some_iff.mp h
    cases h
    exact ⟨hproper, readClock_lt htime⟩
  · cases h
    exact ⟨hproper, by dsimp only; omega⟩

theorem daylight_of_readDaylight {standard daylight : Int}
    (h : readDaylight standard cs = some (daylight, rest)) :
    isOffset daylight = true ∨ daylight = standard + 3600 := by
  unfold readDaylight at h
  split at h
  · cases h
    exact Or.inr rfl
  · exact Or.inl (isOffset_of_readOffset h)

theorem proper_of_read? {text : String} {r : Alternation} (h : read? text = some (.alternating r)) :
    r.Proper := by
  obtain ⟨cs₁, -, h⟩ := Option.bind_eq_some_iff.mp h
  obtain ⟨⟨standard, cs₂⟩, hstandard, h⟩ := Option.bind_eq_some_iff.mp h
  dsimp only at h
  split at h
  · cases h
  obtain ⟨cs₃, -, h⟩ := Option.bind_eq_some_iff.mp h
  obtain ⟨⟨daylight, cs₄⟩, hdaylight, h⟩ := Option.bind_eq_some_iff.mp h
  obtain ⟨cs₅, -, h⟩ := Option.bind_eq_some_iff.mp h
  obtain ⟨⟨start, cs₆⟩, hstart, h⟩ := Option.bind_eq_some_iff.mp h
  obtain ⟨cs₇, -, h⟩ := Option.bind_eq_some_iff.mp h
  obtain ⟨⟨finish, cs₈⟩, hfinish, h⟩ := Option.bind_eq_some_iff.mp h
  dsimp only at h
  split at h
  · cases h
    exact ⟨isOffset_of_readOffset hstandard, daylight_of_readDaylight hdaylight,
      proper_of_readTransition hstart, proper_of_readTransition hfinish⟩
  · cases h

end Zone
end Storyboard.Time
