import Storyboard.Proofs.RepeatedTimes
import Storyboard.Proofs.ZoneRules

/-! # Wall times that never occur

When clocks go forward, the wall times of a span are skipped. A stamp of such a time
takes the offset of the same time one day earlier, which is the offset in force before
the jump if that time is on the near side of the jump and the two transitions of the year
are told apart. Both can fail: transitions in one month are taken for the other order,
and the day before a leap second at the end of a gap of a whole day is the jump itself.
-/
namespace Storyboard.Time

namespace Alternation

variable {r : Alternation} {year t : Int}

/-- The offset in force at an instant, as far as the transitions of one year tell. -/
def offsetAt (r : Alternation) (year u : Int) : Int :=
  if r.InDaylight year u then r.daylight else r.standard

/-- No instant shows second `t` on the wall clock. -/
def Skips (r : Alternation) (year t : Int) : Prop := ∀ u, u + r.offsetAt year u ≠ t

def jump (r : Alternation) (year : Int) : Int :=
  if r.standard < r.daylight then r.start.seconds year - r.standard
  else r.finish.seconds year - r.daylight

def AtMostOneDay (r : Alternation) : Prop :=
  r.daylight ≤ r.standard + 86400 ∧ r.standard ≤ r.daylight + 86400

instance (r : Alternation) : Decidable r.AtMostOneDay := by
  unfold AtMostOneDay
  infer_instance

def TwoDaysApart (t u : Int) : Prop := t + 172800 ≤ u ∨ u + 172800 ≤ t

/-- The transitions of a year are two days away from its ends and from each other, on the
wall clock or in universal time. -/
structure Spaced (r : Alternation) (year : Int) : Prop where
  start_low : (Date.newYear year + 2) * 86400 ≤ r.start.seconds year
  start_high : r.start.seconds year ≤ (Date.newYear (year + 1) - 2) * 86400
  finish_low : (Date.newYear year + 2) * 86400 ≤ r.finish.seconds year
  finish_high : r.finish.seconds year ≤ (Date.newYear (year + 1) - 2) * 86400
  apart : TwoDaysApart (r.start.seconds year) (r.finish.seconds year) ∨
    TwoDaysApart (r.start.seconds year - r.standard) (r.finish.seconds year - r.daylight)

/-- The times of a gap start at the jump, on the clock in force before it, and are as many
as the difference of the offsets. -/
theorem Skips.bounds (h : r.Skips year t) :
    r.standard < r.daylight ∧ r.start.seconds year ≤ t ∧
        t < r.start.seconds year + (r.daylight - r.standard) ∨
      r.daylight < r.standard ∧ r.finish.seconds year ≤ t ∧
        t < r.finish.seconds year + (r.standard - r.daylight) := by
  have hin : r.InDaylight year (t - r.standard) ∧ r.daylight ≠ r.standard := by
    have hstandard := h (t - r.standard)
    unfold offsetAt at hstandard
    split at hstandard
    · next hin => exact ⟨hin, by omega⟩
    · omega
  have hout : ¬r.InDaylight year (t - r.daylight) := by
    intro hin
    have hdaylight := h (t - r.daylight)
    rw [offsetAt, if_pos hin] at hdaylight
    omega
  obtain ⟨hin, hne⟩ := hin
  unfold InDaylight at hin hout
  dsimp only at hin hout
  by_cases horder : r.start.seconds year - r.standard < r.finish.seconds year - r.daylight
  · rw [if_pos horder] at hin hout
    omega
  · rw [if_neg horder] at hin hout
    omega

/-- With the transitions apart, all of these times are skipped. -/
theorem skips_iff (hspaced : r.Spaced year) (hwidth : r.AtMostOneDay) :
    r.Skips year t ↔
      r.standard < r.daylight ∧ r.start.seconds year ≤ t ∧
          t < r.start.seconds year + (r.daylight - r.standard) ∨
        r.daylight < r.standard ∧ r.finish.seconds year ≤ t ∧
          t < r.finish.seconds year + (r.standard - r.daylight) := by
  have hapart := hspaced.apart
  unfold TwoDaysApart at hapart
  unfold AtMostOneDay at hwidth
  refine ⟨Skips.bounds, fun hbounds u => ?_⟩
  unfold offsetAt
  split
  · next hin =>
    unfold InDaylight at hin
    dsimp only at hin
    split at hin <;> omega
  · next hout =>
    unfold InDaylight at hout
    dsimp only at hout
    split at hout <;> omega

theorem offsetAt_before_jump (hspaced : r.Spaced year) (hwidth : r.AtMostOneDay) :
    (r.standard < r.daylight → r.offsetAt year (r.jump year - 1) = r.standard) ∧
      (r.daylight < r.standard → r.offsetAt year (r.jump year - 1) = r.daylight) := by
  have hapart := hspaced.apart
  unfold TwoDaysApart at hapart
  unfold AtMostOneDay at hwidth
  constructor
  · intro hlt
    have hout : ¬r.InDaylight year (r.jump year - 1) := by
      rw [jump, if_pos hlt, InDaylight]
      split <;> omega
    rw [offsetAt, if_neg hout]
  · intro hlt
    have hnot : ¬r.standard < r.daylight := by omega
    have hin : r.InDaylight year (r.jump year - 1) := by
      rw [jump, if_neg hnot, InDaylight]
      split <;> omega
    rw [offsetAt, if_pos hin]

theorem Proper.startsFirst_iff (h : r.Proper) (hspaced : r.Spaced year)
    (hwidth : r.AtMostOneDay) :
    r.startsFirst year = true ↔ r.start.seconds year < r.finish.seconds year ∧
      (r.start.day.date year).month ≠ (r.finish.day.date year).month := by
  have hapart := hspaced.apart
  unfold TwoDaysApart at hapart
  unfold AtMostOneDay at hwidth
  have horder : r.startsFirst year = true ↔
      (r.start.day.date year).month < (r.finish.day.date year).month := by
    simp [startsFirst]
  rw [horder]
  constructor
  · intro hlt
    have := h.start.seconds_lt h.finish hlt
    omega
  · rintro ⟨hbefore, hne⟩
    apply Decidable.byContradiction
    intro hge
    have hlt : (r.finish.day.date year).month < (r.start.day.date year).month := by omega
    have := h.finish.seconds_lt h.start hlt
    omega

theorem Proper.startsFirst_eq_false (h : r.Proper) (hspaced : r.Spaced year)
    (hwidth : r.AtMostOneDay) (horder : r.finish.seconds year < r.start.seconds year) :
    r.startsFirst year = false := by
  apply Bool.eq_false_iff.mpr
  intro htrue
  have := ((h.startsFirst_iff hspaced hwidth).mp htrue).1
  omega

end Alternation

/-! ## One day earlier -/

namespace WallTime

variable {w : WallTime} {year : Int}

/-- The second by which a leap second counts as later when a day is taken from it. -/
def lapse (w : WallTime) : Int := if leapNanos ≤ w.nanos then 1 else 0

theorem lapse_bounds (w : WallTime) : 0 ≤ w.lapse ∧ w.lapse ≤ 1 := by
  unfold lapse
  split <;> omega

theorem second_of_leap {text : String} (h : WallTime.read? Layout.accepted text = some w)
    (hleap : leapNanos ≤ w.nanos) : w.second = 59 := by
  obtain ⟨f, hnanos, hw⟩ := exists_fields_of_read? h
  unfold Fields.toWallTime? ofFields? at hw
  split at hw
  · split at hw
    · cases hw
      rfl
    · cases hw
      dsimp only at hleap
      omega
  · cases hw

theorem dayBefore?_eq {d : Date} (hw : w.OnClock) (hleap : leapNanos ≤ w.nanos → w.second = 59)
    (hpred : w.date.pred? = some d) (hnumber : d.dayNumber = w.date.dayNumber - 1) :
    ∃ before, w.dayBefore? = some before ∧ (before.date = d ∨ before.date = w.date) ∧
      before.seconds = w.seconds - 86400 + w.lapse := by
  obtain ⟨-, hhour, hminute, -, -⟩ := hw
  unfold dayBefore? lapse
  by_cases hplain : w.nanos < leapNanos
  · have hnot : ¬leapNanos ≤ w.nanos := by omega
    rw [if_pos hplain, hpred, if_neg hnot]
    refine ⟨_, rfl, Or.inl rfl, ?_⟩
    dsimp only [seconds]
    omega
  · have hover : leapNanos ≤ w.nanos := by omega
    have hlast := hleap hover
    rw [if_neg hplain, if_pos hover]
    by_cases hcarry : w.minute < 59
    · rw [if_pos hcarry, hpred]
      refine ⟨_, rfl, Or.inl rfl, ?_⟩
      dsimp only [seconds]
      omega
    · rw [if_neg hcarry]
      by_cases hnight : w.hour < 23
      · rw [if_pos hnight, hpred]
        refine ⟨_, rfl, Or.inl rfl, ?_⟩
        dsimp only [seconds]
        omega
      · rw [if_neg hnight]
        refine ⟨_, rfl, Or.inr rfl, ?_⟩
        dsimp only [seconds]
        omega

theorem onCalendar_of_year {offset : Int} (ho : Zone.isOffset offset = true)
    (hmin : Date.minYear ≤ year) (hmax : year ≤ Date.maxYear)
    (hlow : (Date.newYear year + 1) * 86400 ≤ w.seconds)
    (hhigh : w.seconds < (Date.newYear (year + 1) - 1) * 86400) :
    Zone.onCalendar w offset = true := by
  have hfirst := Date.newYear_mono hmin
  have hlast := Date.newYear_mono (Int.add_le_add_right hmax 1)
  have hminSeconds := minSeconds_eq
  have hmaxSeconds := maxSeconds_eq
  have hbounds := ho
  simp only [Zone.isOffset, Bool.and_eq_true, decide_eq_true_eq] at hbounds
  simp only [Zone.onCalendar, ho, Bool.true_and, Bool.and_eq_true, decide_eq_true_eq]
  omega

/-- A wall time inside a year, with the wall time one day earlier in the same year. -/
structure Within (year : Int) (w before : WallTime) : Prop where
  year_eq : w.date.year = year
  earlier : w.dayBefore? = some before
  year_before : before.date.year = year
  seconds_before : before.seconds = w.seconds - 86400 + w.lapse
  calendar : ∀ {offset}, Zone.isOffset offset = true → Zone.onCalendar w offset = true
  calendar_before : ∀ {offset}, Zone.isOffset offset = true → Zone.onCalendar before offset = true

theorem exists_within {text : String} (h : WallTime.read? Layout.accepted text = some w)
    (hlow : (Date.newYear year + 2) * 86400 ≤ w.seconds)
    (hhigh : w.seconds < (Date.newYear (year + 1) - 1) * 86400) :
    ∃ before, Within year w before := by
  have hclock := onClock_read? h
  obtain ⟨hvalid, hhour, hminute, hsecond, hnanos⟩ := hclock
  have hseconds : w.seconds =
      w.date.dayNumber * 86400 + w.hour * 3600 + w.minute * 60 + w.second := rfl
  have hyear : w.date.year = year := hvalid.year_eq (by omega) (by omega)
  have hmin : Date.minYear ≤ year := hyear ▸ hvalid.1
  have hmax : year ≤ Date.maxYear := hyear ▸ hvalid.2.1
  have hfirst : Date.newYear Date.minYear < w.date.dayNumber := by
    have := Date.newYear_mono hmin
    omega
  have hnumber := Date.dayNumber_pred hvalid hfirst
  have hpred : w.date.pred? = some w.date.pred := if_pos (hvalid.pred hfirst)
  have hyearPred : w.date.pred.year = year := (hvalid.pred hfirst).year_eq (by omega) (by omega)
  obtain ⟨before, hbefore, hdate, hsecondsBefore⟩ :=
    dayBefore?_eq ⟨hvalid, hhour, hminute, hsecond, hnanos⟩ (second_of_leap h) hpred hnumber
  have hlapse := w.lapse_bounds
  refine ⟨before, hyear, hbefore, ?_, hsecondsBefore, fun ho => ?_, fun ho => ?_⟩
  · rcases hdate with hdate | hdate
    · rw [hdate, hyearPred]
    · rw [hdate, hyear]
  · exact onCalendar_of_year ho hmin hmax (by omega) hhigh
  · exact onCalendar_of_year ho hmin hmax (by omega) (by omega)

end WallTime

/-! ## The offset that is found -/

namespace Zone

variable {z : Zone} {r : Alternation} {w before : WallTime} {offset : Int}

theorem firstOffset?_of_once (h : r.occurrence w.date.year w.seconds = .once offset)
    (hcalendar : onCalendar w offset = true) :
    (Zone.alternating r).firstOffset? w = some offset := by
  simp [firstOffset?, occurrence, h, hcalendar]

theorem firstOffset?_of_never (h : r.occurrence w.date.year w.seconds = .never) :
    (Zone.alternating r).firstOffset? w = none := by
  simp [firstOffset?, occurrence, h]

theorem instant?_of_earlier (h : z.firstOffset? w = some offset ∨ z.firstOffset? w = none)
    (hbefore : w.dayBefore? = some before) (hearlier : z.firstOffset? before = some offset) :
    z.instant? w = some (w.millis - offset * 1000) := by
  unfold instant?
  rcases h with h | h
  · rw [h]
  · rw [h, hbefore]
    dsimp only
    rw [hearlier, Option.map_some]

theorem instant?_eq_none (h : z.firstOffset? w = none) (hbefore : w.dayBefore? = some before)
    (hearlier : z.firstOffset? before = none) : z.instant? w = none := by
  unfold instant?
  rw [h, hbefore]
  dsimp only
  rw [hearlier, Option.map_none]

theorem eq_of_once {o : Int} (h : r.occurrence w.date.year w.seconds = .once offset)
    (ho : (Zone.alternating r).firstOffset? w = some o) : o = offset := by
  rw [firstOffset?, occurrence, h] at ho
  dsimp only at ho
  split at ho
  · exact (Option.some.inj ho).symm
  · cases ho

end Zone

namespace Alternation

variable {r : Alternation} {year : Int} {w before : WallTime}

/-- Clocks go forward at the first transition of the year. -/
theorem instant?_of_start_first (h : r.Proper) (hwidth : r.AtMostOneDay)
    (hwithin : WallTime.Within year w before) (hlt : r.standard < r.daylight)
    (hfirst : r.startsFirst year = true) (hlow : r.start.seconds year ≤ w.seconds)
    (hhigh : w.seconds < r.start.seconds year + (r.daylight - r.standard)) :
    (Zone.alternating r).instant? w = some (w.millis - r.standard * 1000) := by
  have hne : r.standard ≠ r.daylight := by omega
  have hlapse := w.lapse_bounds
  have hbefore : before.seconds ≤ r.start.seconds year := by
    have := hwidth.1
    have := hwithin.seconds_before
    omega
  apply Zone.instant?_of_earlier _ hwithin.earlier
  · apply Zone.firstOffset?_of_once _ (hwithin.calendar_before h.standard)
    rw [hwithin.year_before, occurrence, if_neg hne, if_pos hlt, if_pos hfirst, if_pos hbefore]
  · by_cases hedge : w.seconds ≤ r.start.seconds year
    · left
      apply Zone.firstOffset?_of_once _ (hwithin.calendar h.standard)
      rw [hwithin.year_eq, occurrence, if_neg hne, if_pos hlt, if_pos hfirst, if_pos hedge]
    · right
      apply Zone.firstOffset?_of_never
      rw [hwithin.year_eq, occurrence, if_neg hne, if_pos hlt, if_pos hfirst, if_neg hedge,
        if_pos hhigh]

/-- Clocks go forward at the last transition of the year: the day before a gap is found in
standard time, unless it is the jump itself. -/
theorem instant?_of_finish_first (h : r.Proper) (hspaced : r.Spaced year) (hwidth : r.AtMostOneDay)
    (hwithin : WallTime.Within year w before) (hlt : r.standard < r.daylight)
    (horder : r.finish.seconds year < r.start.seconds year) (hfirst : r.startsFirst year = false)
    (hlow : r.start.seconds year ≤ w.seconds)
    (hhigh : w.seconds < r.start.seconds year + (r.daylight - r.standard)) :
    (Zone.alternating r).instant? w =
      if w.seconds + w.lapse = r.start.seconds year + 86400 then none
      else some (w.millis - r.standard * 1000) := by
  have hne : r.standard ≠ r.daylight := by omega
  have hlapse := w.lapse_bounds
  have hseconds := hwithin.seconds_before
  have hapart := hspaced.apart
  unfold TwoDaysApart at hapart
  unfold AtMostOneDay at hwidth
  have hnever : (Zone.alternating r).firstOffset? w = none := by
    apply Zone.firstOffset?_of_never
    rw [hwithin.year_eq, occurrence, if_neg hne, if_pos hlt, if_neg (by simp [hfirst]),
      if_neg (by omega), if_neg (by omega), if_neg (by omega), if_pos hhigh]
  have hearly : ¬before.seconds < r.finish.seconds year - (r.daylight - r.standard) := by omega
  split
  · apply Zone.instant?_eq_none hnever hwithin.earlier
    apply Zone.firstOffset?_of_never
    rw [hwithin.year_before, occurrence, if_neg hne, if_pos hlt, if_neg (by simp [hfirst]),
      if_neg hearly, if_neg (by omega), if_neg (by omega), if_pos (by omega)]
  · apply Zone.instant?_of_earlier (Or.inr hnever) hwithin.earlier
    by_cases htwice : before.seconds ≤ r.finish.seconds year
    · -- Only a gap of a whole day reaches back to the finish, so its offset is no default.
      have hdaylight : Zone.isOffset r.daylight = true := by
        rcases h.daylight with hoffset | hdefault
        · exact hoffset
        · omega
      have hoccurrence : r.occurrence before.date.year before.seconds =
          .twice r.standard r.daylight := by
        rw [hwithin.year_before, occurrence, if_neg hne, if_pos hlt, if_neg (by simp [hfirst]),
          if_neg hearly, if_pos htwice]
      simp [Zone.firstOffset?, Zone.occurrence, hoccurrence, hwithin.calendar_before h.standard,
        hwithin.calendar_before hdaylight]
    · apply Zone.firstOffset?_of_once _ (hwithin.calendar_before h.standard)
      rw [hwithin.year_before, occurrence, if_neg hne, if_pos hlt, if_neg (by simp [hfirst]),
        if_neg hearly, if_neg htwice, if_pos (by omega)]

/-- Both transitions fall in one month, the start first: a time in the gap is taken for
daylight time. -/
theorem instant?_of_shared_month (hspaced : r.Spaced year) (hwidth : r.AtMostOneDay)
    (hwithin : WallTime.Within year w before) (hlt : r.standard < r.daylight)
    (horder : r.start.seconds year < r.finish.seconds year) (hfirst : r.startsFirst year = false)
    (hhigh : w.seconds < r.start.seconds year + (r.daylight - r.standard)) {n : Int}
    (hn : (Zone.alternating r).instant? w = some n) : n = w.millis - r.daylight * 1000 := by
  have hne : r.standard ≠ r.daylight := by omega
  have hlapse := w.lapse_bounds
  have hseconds := hwithin.seconds_before
  have hapart := hspaced.apart
  unfold TwoDaysApart at hapart
  unfold AtMostOneDay at hwidth
  have honce : r.occurrence w.date.year w.seconds = .once r.daylight := by
    rw [hwithin.year_eq, occurrence, if_neg hne, if_pos hlt, if_neg (by simp [hfirst]),
      if_pos (by omega)]
  have hbefore : r.occurrence before.date.year before.seconds = .once r.daylight := by
    rw [hwithin.year_before, occurrence, if_neg hne, if_pos hlt, if_neg (by simp [hfirst]),
      if_pos (by omega)]
  unfold Zone.instant? at hn
  split at hn
  · next offset hoffset =>
    rw [← Zone.eq_of_once honce hoffset]
    exact (Option.some.inj hn).symm
  · rw [hwithin.earlier] at hn
    obtain ⟨offset, hoffset, rfl⟩ := Option.map_eq_some_iff.mp hn
    rw [Zone.eq_of_once hbefore hoffset]

/-- Daylight time is behind standard time, and clocks go forward at its finish. -/
theorem instant?_of_daylight_behind (h : r.Proper) (hwidth : r.AtMostOneDay)
    (hwithin : WallTime.Within year w before) (hlt : r.daylight < r.standard)
    (hfirst : r.startsFirst year = false) (hlow : r.finish.seconds year ≤ w.seconds)
    (hhigh : w.seconds < r.finish.seconds year + (r.standard - r.daylight)) :
    (Zone.alternating r).instant? w = some (w.millis - r.daylight * 1000) := by
  have hne : r.standard ≠ r.daylight := by omega
  have hge : ¬r.standard < r.daylight := by omega
  have hlapse := w.lapse_bounds
  have hdaylight : Zone.isOffset r.daylight = true := by
    rcases h.daylight with hoffset | hdefault
    · exact hoffset
    · omega
  have hbefore : before.seconds ≤ r.finish.seconds year := by
    have := hwidth.2
    have := hwithin.seconds_before
    omega
  apply Zone.instant?_of_earlier _ hwithin.earlier
  · apply Zone.firstOffset?_of_once _ (hwithin.calendar_before hdaylight)
    rw [hwithin.year_before, occurrence, if_neg hne, if_neg hge, if_neg (by simp [hfirst]),
      if_pos hbefore]
  · by_cases hedge : w.seconds ≤ r.finish.seconds year
    · left
      apply Zone.firstOffset?_of_once _ (hwithin.calendar hdaylight)
      rw [hwithin.year_eq, occurrence, if_neg hne, if_neg hge, if_neg (by simp [hfirst]),
        if_pos hedge]
    · right
      apply Zone.firstOffset?_of_never
      rw [hwithin.year_eq, occurrence, if_neg hne, if_neg hge, if_neg (by simp [hfirst]),
        if_neg hedge, if_pos hhigh]

/-! ## Stamps in a gap -/

/-- Clocks go forward at the start and back later in the same month. -/
def SharesMonth (r : Alternation) (year : Int) : Prop :=
  r.standard < r.daylight ∧ r.start.seconds year < r.finish.seconds year ∧
    (r.start.day.date year).month = (r.finish.day.date year).month

/-- A leap second ends a gap of a whole day, in a year that starts and ends in daylight
time. -/
def EndsDayLongGap (r : Alternation) (year : Int) (w : WallTime) : Prop :=
  r.standard < r.daylight ∧ r.finish.seconds year < r.start.seconds year ∧
    WallTime.leapNanos ≤ w.nanos ∧ w.seconds + 1 = r.start.seconds year + 86400

theorem Spaced.ne (h : r.Spaced year) (hwidth : r.AtMostOneDay) :
    r.start.seconds year ≠ r.finish.seconds year := by
  have hapart := h.apart
  unfold TwoDaysApart at hapart
  unfold AtMostOneDay at hwidth
  omega

theorem endsDayLongGap_iff (hwidth : r.AtMostOneDay) (hlt : r.standard < r.daylight)
    (horder : r.finish.seconds year < r.start.seconds year)
    (hhigh : w.seconds < r.start.seconds year + (r.daylight - r.standard)) :
    r.EndsDayLongGap year w ↔ w.seconds + w.lapse = r.start.seconds year + 86400 := by
  have hday := hwidth.1
  unfold EndsDayLongGap WallTime.lapse
  split
  · next hleap => simp [hlt, horder, hleap]
  · omega

theorem instant?_iff_of_start_first (h : r.Proper) (hspaced : r.Spaced year)
    (hwidth : r.AtMostOneDay) (hwithin : WallTime.Within year w before)
    (hlt : r.standard < r.daylight) (horder : r.start.seconds year < r.finish.seconds year)
    (hlow : r.start.seconds year ≤ w.seconds)
    (hhigh : w.seconds < r.start.seconds year + (r.daylight - r.standard)) :
    (Zone.alternating r).instant? w = some (w.millis - r.standard * 1000) ↔
      ¬r.SharesMonth year := by
  have hfirst := h.startsFirst_iff hspaced hwidth
  constructor
  · rintro hinstant ⟨-, -, hmonth⟩
    have hnot : r.startsFirst year = false :=
      Bool.eq_false_iff.mpr fun htrue => (hfirst.mp htrue).2 hmonth
    have := instant?_of_shared_month hspaced hwidth hwithin hlt horder hnot hhigh hinstant
    omega
  · intro hshares
    have hmonth : (r.start.day.date year).month ≠ (r.finish.day.date year).month :=
      fun hmonth => hshares ⟨hlt, horder, hmonth⟩
    exact instant?_of_start_first h hwidth hwithin hlt (hfirst.mpr ⟨horder, hmonth⟩) hlow hhigh

theorem instant?_iff_of_finish_first (h : r.Proper) (hspaced : r.Spaced year)
    (hwidth : r.AtMostOneDay) (hwithin : WallTime.Within year w before)
    (hlt : r.standard < r.daylight) (horder : r.finish.seconds year < r.start.seconds year)
    (hlow : r.start.seconds year ≤ w.seconds)
    (hhigh : w.seconds < r.start.seconds year + (r.daylight - r.standard)) :
    (Zone.alternating r).instant? w = some (w.millis - r.standard * 1000) ↔
      ¬r.EndsDayLongGap year w := by
  have hnot := h.startsFirst_eq_false hspaced hwidth horder
  rw [instant?_of_finish_first h hspaced hwidth hwithin hlt horder hnot hlow hhigh,
    endsDayLongGap_iff hwidth hlt horder hhigh]
  simp

end Alternation

open Alternation in
/-- A stamp in a gap of at most a day takes the offset in force before the jump, unless the
jump shares its month with a later way back, or a leap second ends a gap of a whole day. -/
theorem stamp?_of_skips {rule text : String} {r : Alternation} {year : Int} {w : WallTime}
    (hrule : Zone.read? rule = some (.alternating r)) (hspaced : r.Spaced year)
    (hwidth : r.AtMostOneDay)
    (hshape : r.standard < r.daylight ∨ r.finish.seconds year < r.start.seconds year)
    (hread : WallTime.read? Layout.accepted text = some w) (hskips : r.Skips year w.seconds) :
    stamp? (.alternating r) (some text) =
        some (w.millis - 1000 * r.offsetAt year (r.jump year - 1)) ↔
      ¬r.SharesMonth year ∧ ¬r.EndsDayLongGap year w := by
  have hproper := Zone.proper_of_read? hrule
  have hne := hspaced.ne hwidth
  obtain ⟨hforward, hbehind⟩ := offsetAt_before_jump hspaced hwidth
  have hday := hwidth
  unfold AtMostOneDay at hday
  rw [stamp?_of_read? hread, Int.mul_comm]
  rcases hskips.bounds with ⟨hlt, hlow, hhigh⟩ | ⟨hlt, hlow, hhigh⟩
  · have hstart := hspaced.start_high
    have hearly : (Date.newYear year + 2) * 86400 ≤ w.seconds := by
      have := hspaced.start_low
      omega
    obtain ⟨before, hwithin⟩ := WallTime.exists_within hread hearly (by omega)
    rw [hforward hlt]
    by_cases horder : r.start.seconds year < r.finish.seconds year
    · have hends : ¬r.EndsDayLongGap year w := by
        rintro ⟨-, hfinish, -⟩
        omega
      rw [instant?_iff_of_start_first hproper hspaced hwidth hwithin hlt horder hlow hhigh]
      exact (and_iff_left hends).symm
    · have horder : r.finish.seconds year < r.start.seconds year := by omega
      have hshares : ¬r.SharesMonth year := by
        rintro ⟨-, hstart, -⟩
        omega
      rw [instant?_iff_of_finish_first hproper hspaced hwidth hwithin hlt horder hlow hhigh]
      exact (and_iff_right hshares).symm
  · -- Daylight time is behind, so the year ends in it and neither exception applies.
    have horder : r.finish.seconds year < r.start.seconds year := by omega
    have hfinish := hspaced.finish_high
    have hearly : (Date.newYear year + 2) * 86400 ≤ w.seconds := by
      have := hspaced.finish_low
      omega
    obtain ⟨before, hwithin⟩ := WallTime.exists_within hread hearly (by omega)
    have hnot := hproper.startsFirst_eq_false hspaced hwidth horder
    have hshares : ¬r.SharesMonth year := by
      rintro ⟨hahead, -⟩
      omega
    have hends : ¬r.EndsDayLongGap year w := by
      rintro ⟨hahead, -⟩
      omega
    have hinstant := instant?_of_daylight_behind hproper hwidth hwithin hlt hnot hlow hhigh
    simp [hbehind hlt, hinstant, hshares, hends]

/-- A gap whose month has the way back too, and the leap second that ends a gap of a whole
day: neither takes the offset before the jump. -/
theorem stamp?_of_skips_lost :
    (∃ (r : Alternation) (w : WallTime),
      Zone.read? "EST5EDT,M3.2.0,M3.4.0" = some (.alternating r) ∧
      WallTime.read? Layout.accepted "2024-03-10 02:30:00" = some w ∧
      r.Spaced 2024 ∧ r.AtMostOneDay ∧ r.Skips 2024 w.seconds ∧
      w.millis - 1000 * r.offsetAt 2024 (r.jump 2024 - 1) = 1710055800000 ∧
      stamp? (.alternating r) (some "2024-03-10 02:30:00") ≠ some 1710055800000) ∧
    ∃ (r : Alternation) (w : WallTime),
      Zone.read? "AAA12BBB-12,M10.1.0,M3.1.0" = some (.alternating r) ∧
      WallTime.read? Layout.accepted "2024-10-07 01:59:60" = some w ∧
      r.Spaced 2024 ∧ r.AtMostOneDay ∧ r.Skips 2024 w.seconds ∧
      w.millis - 1000 * r.offsetAt 2024 (r.jump 2024 - 1) = 1728309600000 ∧
      stamp? (.alternating r) (some "2024-10-07 01:59:60") ≠ some 1728309600000 := by
  constructor
  · let r : Alternation :=
      ⟨-18000, -14400, ⟨.weekdayOf 3 2 0, 7200⟩, ⟨.weekdayOf 3 4 0, 7200⟩⟩
    let w : WallTime := ⟨⟨2024, 3, 10⟩, 2, 30, 0, 0⟩
    have hrule : Zone.read? "EST5EDT,M3.2.0,M3.4.0" = some (.alternating r) := by decide +kernel
    have hread : WallTime.read? Layout.accepted "2024-03-10 02:30:00" = some w := by decide +kernel
    have hspaced : r.Spaced 2024 :=
      ⟨by decide +kernel, by decide +kernel, by decide +kernel, by decide +kernel,
        Or.inl (Or.inl (by decide +kernel))⟩
    have hwidth : r.AtMostOneDay := by decide
    have hskips : r.Skips 2024 w.seconds :=
      (Alternation.skips_iff hspaced hwidth).mpr
        (Or.inl ⟨by decide, by decide +kernel, by decide +kernel⟩)
    have hshares : r.SharesMonth 2024 := ⟨by decide, by decide +kernel, by decide +kernel⟩
    have hvalue : w.millis - 1000 * r.offsetAt 2024 (r.jump 2024 - 1) = 1710055800000 := by
      decide +kernel
    refine ⟨r, w, hrule, hread, hspaced, hwidth, hskips, hvalue, fun hstamp => ?_⟩
    rw [← hvalue] at hstamp
    have hsound := stamp?_of_skips hrule hspaced hwidth (Or.inl (by decide)) hread hskips
    exact (hsound.mp hstamp).1 hshares
  · let r : Alternation :=
      ⟨-43200, 43200, ⟨.weekdayOf 10 1 0, 7200⟩, ⟨.weekdayOf 3 1 0, 7200⟩⟩
    let w : WallTime := ⟨⟨2024, 10, 7⟩, 1, 59, 59, 1000000000⟩
    have hrule : Zone.read? "AAA12BBB-12,M10.1.0,M3.1.0" = some (.alternating r) := by
      decide +kernel
    have hread : WallTime.read? Layout.accepted "2024-10-07 01:59:60" = some w := by decide +kernel
    have hspaced : r.Spaced 2024 :=
      ⟨by decide +kernel, by decide +kernel, by decide +kernel, by decide +kernel,
        Or.inl (Or.inr (by decide +kernel))⟩
    have hwidth : r.AtMostOneDay := by decide
    have hskips : r.Skips 2024 w.seconds :=
      (Alternation.skips_iff hspaced hwidth).mpr
        (Or.inl ⟨by decide, by decide +kernel, by decide +kernel⟩)
    have hends : r.EndsDayLongGap 2024 w :=
      ⟨by decide, by decide +kernel, by decide, by decide +kernel⟩
    have hvalue : w.millis - 1000 * r.offsetAt 2024 (r.jump 2024 - 1) = 1728309600000 := by
      decide +kernel
    refine ⟨r, w, hrule, hread, hspaced, hwidth, hskips, hvalue, fun hstamp => ?_⟩
    rw [← hvalue] at hstamp
    have hsound := stamp?_of_skips hrule hspaced hwidth (Or.inl (by decide)) hread hskips
    exact (hsound.mp hstamp).2 hends

end Storyboard.Time
