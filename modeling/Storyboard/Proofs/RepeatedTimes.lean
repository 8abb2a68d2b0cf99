import Storyboard.Time.Stamp
import Storyboard.Time.ZoneText

/-! # Wall times that occur twice

When clocks go back, the wall times of a span occur twice, first at the larger
offset and then at the smaller one. A stamp of such a time denotes the second
occurrence, which is the later instant, whatever shape the rule has. Only the
transitions of the time's own year count: nothing is said about the last hours of a
year that a transition of the next year repeats.
-/
namespace Storyboard.Time

namespace Alternation

variable {r : Alternation} {year t : Int}

/-- Daylight time is in force at an instant, as far as the transitions of one year
tell. Each transition is given on the clock that it ends. -/
def InDaylight (r : Alternation) (year u : Int) : Prop :=
  let start := r.start.seconds year - r.standard
  let finish := r.finish.seconds year - r.daylight
  if start < finish then start ≤ u ∧ u < finish else u < finish ∨ start ≤ u

/-- Second `t` of the wall clock occurs once in daylight time and once in standard
time, as far as the transitions of one year tell. -/
def Repeats (r : Alternation) (year t : Int) : Prop :=
  r.InDaylight year (t - r.daylight) ∧ ¬r.InDaylight year (t - r.standard)

instance (r : Alternation) (year u : Int) : Decidable (r.InDaylight year u) := by
  unfold InDaylight
  infer_instance

instance (r : Alternation) (year t : Int) : Decidable (r.Repeats year t) := by
  unfold Repeats
  infer_instance

theorem Repeats.ne (h : r.Repeats year t) : r.standard ≠ r.daylight := by
  intro heq
  obtain ⟨hin, hout⟩ := h
  rw [← heq] at hin
  exact hout hin

theorem Repeats.bounds (h : r.Repeats year t) :
    (r.standard < r.daylight →
      r.finish.seconds year - (r.daylight - r.standard) ≤ t ∧ t < r.finish.seconds year ∧
        (t < r.start.seconds year ∨ r.start.seconds year + (r.daylight - r.standard) ≤ t)) ∧
    (r.daylight < r.standard →
      r.start.seconds year - (r.standard - r.daylight) ≤ t ∧ t < r.start.seconds year ∧
        (t < r.finish.seconds year ∨ r.finish.seconds year + (r.standard - r.daylight) ≤ t)) := by
  obtain ⟨hin, hout⟩ := h
  unfold InDaylight at hin hout
  dsimp only at hin hout
  by_cases horder : r.start.seconds year - r.standard < r.finish.seconds year - r.daylight
  · rw [if_pos horder] at hin hout
    omega
  · rw [if_neg horder] at hin hout
    omega

/-- A repeated time is found at both offsets, or at the smaller one alone if the
transitions of the year come in another order than their months. -/
theorem occurrence_of_repeats (h : r.Repeats year t) :
    r.occurrence year t = .twice (min r.standard r.daylight) (max r.standard r.daylight) ∨
      r.occurrence year t = .once (min r.standard r.daylight) := by
  have hne := h.ne
  obtain ⟨hless, hmore⟩ := h.bounds
  unfold occurrence
  dsimp only
  rw [if_neg hne]
  by_cases hlt : r.standard < r.daylight
  · -- Clocks go back at the finish.
    obtain ⟨hlow, hhigh, hgap⟩ := hless hlt
    have hmin : min r.standard r.daylight = r.standard := by omega
    have hmax : max r.standard r.daylight = r.daylight := by omega
    have hearly : ¬t < r.finish.seconds year - (r.daylight - r.standard) := by omega
    have hlate : t ≤ r.finish.seconds year := by omega
    rw [if_pos hlt, hmin, hmax]
    by_cases hfirst : r.startsFirst year = true
    · rw [if_pos hfirst]
      by_cases hstart : t ≤ r.start.seconds year
      · exact Or.inr (if_pos hstart)
      · have houtside : ¬t < r.start.seconds year + (r.daylight - r.standard) := by omega
        rw [if_neg hstart, if_neg houtside, if_neg hearly, if_pos hlate]
        exact Or.inl rfl
    · rw [if_neg hfirst, if_neg hearly, if_pos hlate]
      exact Or.inl rfl
  · -- Clocks go back at the start.
    obtain ⟨hlow, hhigh, hgap⟩ := hmore (by omega)
    have hmin : min r.standard r.daylight = r.daylight := by omega
    have hmax : max r.standard r.daylight = r.standard := by omega
    have hearly : ¬t < r.start.seconds year - (r.standard - r.daylight) := by omega
    have hlate : t ≤ r.start.seconds year := by omega
    rw [if_neg hlt, hmin, hmax]
    by_cases hfirst : r.startsFirst year = true
    · rw [if_pos hfirst, if_neg hearly, if_pos hlate]
      exact Or.inl rfl
    · rw [if_neg hfirst]
      by_cases hfinish : t ≤ r.finish.seconds year
      · exact Or.inr (if_pos hfinish)
      · have houtside : ¬t < r.finish.seconds year + (r.standard - r.daylight) := by omega
        rw [if_neg hfinish, if_neg houtside, if_neg hearly, if_pos hlate]
        exact Or.inl rfl

end Alternation

theorem Zone.firstOffset?_of_repeats {r : Alternation} {w : WallTime}
    (h : r.Repeats w.date.year w.seconds) (hs : onCalendar w r.standard = true)
    (hd : onCalendar w r.daylight = true) :
    (Zone.alternating r).firstOffset? w = some (min r.standard r.daylight) := by
  have hmin : onCalendar w (min r.standard r.daylight) = true := by
    rcases Int.le_total r.standard r.daylight with hle | hle
    · rwa [Int.min_eq_left hle]
    · rwa [Int.min_eq_right hle]
  have hmax : onCalendar w (max r.standard r.daylight) = true := by
    rcases Int.le_total r.standard r.daylight with hle | hle
    · rwa [Int.max_eq_right hle]
    · rwa [Int.max_eq_left hle]
  unfold firstOffset? Zone.occurrence
  rcases Alternation.occurrence_of_repeats h with htwice | honce
  · simp [htwice, hmin, hmax]
  · simp [honce, hmin]

theorem ne_empty_of_read? {text : String} {w : WallTime}
    (h : WallTime.read? Layout.accepted text = some w) : text.isEmpty = false := by
  rw [String.isEmpty_eq_false_iff]
  rintro rfl
  cases h

theorem stamp?_of_read? {text : String} {w : WallTime}
    (h : WallTime.read? Layout.accepted text = some w) (zone : Zone) :
    stamp? zone (some text) = zone.instant? w := by
  simp [stamp?, stampWith?, ne_empty_of_read? h, h]

/-- A stamp whose wall time is repeated by the transitions of its own year denotes the
later of the two instants, and never the earlier one. -/
theorem stamp?_of_repeats {r : Alternation} {text : String} {w : WallTime}
    (hread : WallTime.read? Layout.accepted text = some w)
    (hrepeats : r.Repeats w.date.year w.seconds)
    (hs : Zone.onCalendar w r.standard = true) (hd : Zone.onCalendar w r.daylight = true) :
    stamp? (.alternating r) (some text) =
        some (max (w.millis - 1000 * r.standard) (w.millis - 1000 * r.daylight)) ∧
      stamp? (.alternating r) (some text) ≠
        some (min (w.millis - 1000 * r.standard) (w.millis - 1000 * r.daylight)) := by
  have hne := hrepeats.ne
  have hstamp : stamp? (.alternating r) (some text) =
      some (w.millis - min r.standard r.daylight * 1000) := by
    simp [stamp?, stampWith?, ne_empty_of_read? hread, hread, Zone.instant?,
      Zone.firstOffset?_of_repeats hrepeats hs hd]
  have hlater : w.millis - min r.standard r.daylight * 1000 =
      max (w.millis - 1000 * r.standard) (w.millis - 1000 * r.daylight) := by
    omega
  rw [hstamp, hlater]
  refine ⟨rfl, fun heq => ?_⟩
  have := Option.some.inj heq
  omega

/-- Half past two on the night in which clocks go back from three to two. -/
theorem stamp?_of_repeats_autumn :
    ∃ (r : Alternation) (w : WallTime),
      Zone.read? "CET-1CEST,M3.5.0,M10.5.0/3" = some (.alternating r) ∧
      WallTime.read? Layout.accepted "20241027 02:30:00.250" = some w ∧
      r.Repeats w.date.year w.seconds ∧
      w.millis - 1000 * r.daylight = 1729989000250 ∧
      stamp? (.alternating r) (some "20241027 02:30:00.250") = some 1729992600250 := by
  let r : Alternation :=
    ⟨3600, 7200, ⟨.weekdayOf 3 5 0, 7200⟩, ⟨.weekdayOf 10 5 0, 10800⟩⟩
  let w : WallTime := ⟨⟨2024, 10, 27⟩, 2, 30, 0, 250000000⟩
  have hread : WallTime.read? Layout.accepted "20241027 02:30:00.250" = some w := by
    decide +kernel
  have hrepeats : r.Repeats w.date.year w.seconds := by decide +kernel
  have hstamp := (stamp?_of_repeats (r := r) hread hrepeats (by decide +kernel)
    (by decide +kernel)).1
  refine ⟨r, w, by decide +kernel, hread, hrepeats, by decide +kernel, hstamp.trans ?_⟩
  decide +kernel

end Storyboard.Time
