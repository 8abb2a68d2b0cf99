import Storyboard.Proofs.SkippedTimes

/-! # Zones with a fixed offset

A zone with a fixed offset shifts all instants by the offset. A wall time whose instant
falls off the calendar counts as one that never occurs and takes the offset of the day
before. After the last second of the calendar that gives the shifted instant after all.
Before the first second there is no such day, and the wall time has no instant.
-/
namespace Storyboard.Time

/-! ## The first day of the calendar -/

theorem Date.Valid.pred?_eq_none {d : Date} (h : d.Valid) (hfirst : d.dayNumber = newYear minYear) :
    d.pred? = none := by
  apply if_neg
  intro hpred
  have hnext := dayNumber_next hpred
  rw [h.next_pred] at hnext
  have hyear := newYear_mono hpred.1
  have hstart := hpred.newYear_le
  omega

namespace WallTime

variable {w : WallTime}

/-- On the first day of the calendar there is no day before, but for a leap second at its
end. -/
theorem dayBefore?_eq_none (hw : w.OnClock) (hleap : leapNanos ≤ w.nanos → w.second = 59)
    (hfirst : w.seconds < minSeconds + 86399) : w.dayBefore? = none := by
  obtain ⟨hdate, hhour, hminute, hsecond, -⟩ := hw
  have hlow := Int.le_trans (Date.newYear_mono hdate.1) hdate.newYear_le
  rw [minSeconds_eq, seconds] at hfirst
  have hpred := hdate.pred?_eq_none (by omega)
  unfold dayBefore?
  simp only [hpred, Option.map_none]
  split
  · rfl
  · next hplain =>
    have hlast := hleap (by omega)
    rw [ite_eq_left_iff]
    intro hcarry
    rw [ite_eq_left_iff]
    intro hnight
    omega

end WallTime

/-! ## Shifted instants -/

namespace Zone

variable {w : WallTime} {offset : Int}

theorem firstOffset?_fixed (offset : Int) (w : WallTime) :
    (fixed offset).firstOffset? w = if onCalendar w offset then some offset else none := rfl

theorem onCalendar_iff (hlow : -86400 < offset) (hhigh : offset < 86400) :
    onCalendar w offset = true ↔
      WallTime.minSeconds ≤ w.seconds - offset ∧ w.seconds - offset ≤ WallTime.maxSeconds := by
  simp [onCalendar, isOffset, hlow, hhigh]

/-- After the first second of the calendar every instant is shifted. -/
theorem instant?_fixed (hlow : -86400 < offset) (hhigh : offset < 86400) (hw : w.OnClock)
    (hleap : WallTime.leapNanos ≤ w.nanos → w.second = 59)
    (hstart : WallTime.minSeconds + offset ≤ w.seconds) :
    (fixed offset).instant? w = some (w.millis - offset * 1000) := by
  obtain ⟨hmin, hmax⟩ := WallTime.seconds_bounds hw
  by_cases hend : w.seconds - offset ≤ WallTime.maxSeconds
  · have hcalendar : onCalendar w offset = true :=
      (onCalendar_iff hlow hhigh).mpr ⟨by omega, hend⟩
    simp [instant?, firstOffset?_fixed, hcalendar]
  · -- Off the end of the calendar, the day before is on it.
    have hwide : WallTime.minSeconds + 2 * 86400 ≤ WallTime.maxSeconds := by decide
    have hoff : onCalendar w offset = false := by
      apply Bool.eq_false_iff.mpr
      intro hcalendar
      exact hend ((onCalendar_iff hlow hhigh).mp hcalendar).2
    have hfirst : Date.newYear Date.minYear < w.date.dayNumber := by
      obtain ⟨hdate, hhour, hminute, hsecond, -⟩ := hw
      rw [WallTime.minSeconds_eq] at hwide
      unfold WallTime.seconds at hend
      omega
    have hpred : w.date.pred? = some w.date.pred := if_pos (hw.1.pred hfirst)
    obtain ⟨before, hbefore, -, hseconds⟩ :=
      WallTime.dayBefore?_eq hw hleap hpred (Date.dayNumber_pred hw.1 hfirst)
    have hlapse := w.lapse_bounds
    have hcalendar : onCalendar before offset = true :=
      (onCalendar_iff hlow hhigh).mpr ⟨by omega, by omega⟩
    apply instant?_of_earlier _ hbefore
    · simp [firstOffset?_fixed, hcalendar]
    · simp [firstOffset?_fixed, hoff]

theorem instant?_fixed_eq_none (hlow : -86400 < offset) (hhigh : offset < 86400) (hw : w.OnClock)
    (hleap : WallTime.leapNanos ≤ w.nanos → w.second = 59)
    (hstart : w.seconds < WallTime.minSeconds + offset) : (fixed offset).instant? w = none := by
  have hoff : onCalendar w offset = false := by
    apply Bool.eq_false_iff.mpr
    intro hcalendar
    have := ((onCalendar_iff hlow hhigh).mp hcalendar).1
    omega
  have hbefore := WallTime.dayBefore?_eq_none hw hleap (by omega)
  simp [instant?, firstOffset?_fixed, hoff, hbefore]

end Zone

/-! ## Stamps -/

theorem stamp?_eq_bind (zone : Zone) (text : String) :
    stamp? zone (some text) = (WallTime.read? Layout.accepted text).bind zone.instant? := by
  cases hread : WallTime.read? Layout.accepted text with
  | none => simp [stamp?, stampWith?, hread]
  | some w => exact stamp?_of_read? hread zone

/-- A text denotes a wall time less than some seconds after the first one of the calendar.
A leap second counts as the second before it. -/
def AtStart (offset : Int) (text : String) : Prop :=
  ∃ w, WallTime.read? Layout.accepted text = some w ∧ w.seconds - WallTime.minSeconds < offset

def firstMilli : Int := WallTime.minSeconds * 1000
def lastMilli : Int := WallTime.maxSeconds * 1000 + 999

/-- In a zone with a fixed offset a stamp denotes the instant in universal time less the
offset, also off the end of the calendar. The wall times of the start of the calendar,
as many seconds of them as the offset has, denote nothing. -/
theorem stamp?_fixed {offset : Int} (hlow : -86400 < offset) (hhigh : offset < 86400)
    (text : String) :
    (AtStart offset text → stamp? (.fixed offset) (some text) = none) ∧
      (¬AtStart offset text → stamp? (.fixed offset) (some text) =
        (stamp? .utc (some text)).map (· - 1000 * offset)) ∧
      ∀ w, WallTime.read? Layout.accepted text = some w →
        stamp? .utc (some text) = some w.millis ∧
          (WallTime.maxSeconds < w.seconds - offset → offset < 0 ∧
            stamp? (.fixed offset) (some text) = some (w.millis - 1000 * offset) ∧
            lastMilli < w.millis - 1000 * offset) := by
  simp only [stamp?_eq_bind]
  cases hread : WallTime.read? Layout.accepted text with
  | none => simp [AtStart, hread]
  | some w =>
    have hclock := WallTime.onClock_read? hread
    have hleap := WallTime.second_of_leap hread
    obtain ⟨hmin, hmax⟩ := WallTime.seconds_bounds hclock
    have hstart : AtStart offset text ↔ w.seconds < WallTime.minSeconds + offset := by
      simp only [AtStart, hread, Option.some.injEq, exists_eq_left']
      omega
    have hutc : Zone.utc.instant? w = some w.millis := by
      have hzero : (Zone.fixed 0).instant? w = some (w.millis - 0 * 1000) :=
        Zone.instant?_fixed (by omega) (by omega) hclock hleap (by omega)
      simpa [Zone.utc] using hzero
    have hshift : WallTime.minSeconds + offset ≤ w.seconds →
        (Zone.fixed offset).instant? w = some (w.millis - 1000 * offset) := by
      intro hafter
      rw [Zone.instant?_fixed hlow hhigh hclock hleap hafter, Int.mul_comm]
    simp only [hstart, Option.bind_some, hutc, Option.map_some, Option.some.injEq, forall_eq',
      true_and]
    refine ⟨Zone.instant?_fixed_eq_none hlow hhigh hclock hleap, fun hafter => ?_, fun hend => ?_⟩
    · exact hshift (by omega)
    · refine ⟨by omega, hshift (by omega), ?_⟩
      unfold lastMilli WallTime.millis
      omega

/-- The last leap second of the calendar in the westernmost zone, a whole day after the end
of the calendar, and a time of its first day in the easternmost zone. -/
theorem stamp?_fixed_ends :
    let last := "+262142-12-31 23:59:60.999999999"
    let first := "-262143-01-01 23:59:58.999"
    stamp? (.fixed (-86399)) (some last) = some 8210266963199999 ∧
      lastMilli = 8210266876799999 ∧
      stamp? .utc (some first) = some (-8334601142401001) ∧
      stamp? (.fixed 86399) (some first) = none := by
  intro last first
  have hlast : WallTime.read? Layout.accepted last =
      some ⟨⟨262142, 12, 31⟩, 23, 59, 59, 1999999999⟩ := by decide +kernel
  have hfirst : WallTime.read? Layout.accepted first =
      some ⟨⟨-262143, 1, 1⟩, 23, 59, 58, 999000000⟩ := by decide +kernel
  obtain ⟨-, -, hend⟩ := stamp?_fixed (by decide : -86400 < (-86399 : Int)) (by decide) last
  obtain ⟨hstart, -, hutc⟩ := stamp?_fixed (by decide : -86400 < (86399 : Int)) (by decide) first
  obtain ⟨-, hafter, -⟩ := (hend _ hlast).2 (by decide)
  exact ⟨hafter, by decide, (hutc _ hfirst).1, hstart ⟨_, hfirst, by decide⟩⟩

/-- At the start of the calendar a leap second is lost in a zone whose offset is as long as
the time that has passed. -/
theorem stamp?_fixed_loses_leap :
    stamp? .utc (some "-262143-01-01 00:00:00") = some firstMilli ∧
      stamp? .utc (some "-262143-01-01 00:00:60") = some (firstMilli + 1000 * 60) ∧
      stamp? (.fixed 60) (some "-262143-01-01 00:00:60") = none := by
  decide +kernel

end Storyboard.Time
