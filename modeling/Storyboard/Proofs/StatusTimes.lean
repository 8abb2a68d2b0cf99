import Storyboard.Proofs.NumberedSteps

/-! # Times of a status

A status gives the elapsed time of a keyword, or its start and its end. In the second
case the elapsed time is the difference of two stamps, and the end of the step is
computed from it again. Stamps are near the epoch, so none of this leaves the words,
and the end comes back as it was written.
-/
namespace Storyboard

open Xml (Node)

namespace Timing

variable {zone : Time.Zone} {start finish : Option String} {s f : Int}

theorem fits_between (zone : Time.Zone) (start finish : Option String) :
    Number.Word.fits (between zone start finish) = true := by
  unfold between
  split
  · next hs hf => exact (Time.near_stamp? hf).fits_sub (Time.near_stamp? hs)
  · decide

theorem between_of_both (hs : Time.stamp? zone start = some s)
    (hf : Time.stamp? zone finish = some f) : between zone start finish = f - s := by
  rw [between, hs, hf]

theorem between_of_start (hf : Time.stamp? zone finish = none) :
    between zone start finish = 0 := by
  rw [between, hf]
  cases Time.stamp? zone start <;> rfl

theorem endOf_between (hs : Time.stamp? zone start = some s)
    (hf : Time.stamp? zone finish = some f) :
    Step.endOf (some s) (between zone start finish) = some f := by
  rw [between_of_both hs hf]
  have hend : f = s + (f - s) := by omega
  exact Step.endOf_eq_some_iff.mpr
    ⟨s, rfl, hend, Number.Word.fits_iff.mp (Time.fits_stamp? hf)⟩

theorem endOf_between_of_start (hs : Time.stamp? zone start = some s)
    (hf : Time.stamp? zone finish = none) :
    Step.endOf (some s) (between zone start finish) = some s := by
  rw [between_of_start hf]
  exact Step.endOf_eq_some_iff.mpr
    ⟨s, rfl, (Int.add_zero s).symm, Number.Word.fits_iff.mp (Time.fits_stamp? hs)⟩

theorem ofStatus_of_no_start {status : Node} (h : status.attribute? "start" = none) :
    ofStatus zone status = ⟨status.attribute? "starttime",
      between zone (status.attribute? "starttime") (status.attribute? "endtime")⟩ := by
  rw [ofStatus, h]

end Timing

theorem Keyword.timing_ofElement (zone : Time.Zone) {e status : Node}
    (h : e.child? "status" = some status) :
    (ofElement zone e).startTime = (Timing.ofStatus zone status).startTime ∧
      (ofElement zone e).elapsedMs = (Timing.ofStatus zone status).elapsedMs := by
  simp [ofElement, h]

/-- The arithmetic of times stays within the words, and a step whose status gives its
start and its end has these times. -/
theorem Step.times_of_status (zone : Time.Zone) (l : Locations) (root : Node) :
    (∀ (text : String) (w : Time.WallTime),
      Time.WallTime.read? Time.Layout.accepted text = some w →
        (∀ offset : Int, -86400 < offset → offset < 86400 →
          Number.Word.fits w.millis = true ∧ Number.Word.fits (offset * 1000) = true ∧
            Number.Word.fits (w.millis - offset * 1000) = true) ∧
        ∀ n, zone.instant? w = some n →
          ∃ offset : Int, -86400 < offset ∧ offset < 86400 ∧ n = w.millis - offset * 1000) ∧
      (∀ (status : Node) (s f : Int), Time.stamp? zone (status.attribute? "starttime") = some s →
        Time.stamp? zone (status.attribute? "endtime") = some f →
          Number.Word.fits (f - s) = true) ∧
      ∀ (n : Nat) (e status : Node), root.documentation[n]? = some e →
        e.child? "status" = some status → status.attribute? "start" = none →
          ∃ step, (extract zone l (RunResult.ofTree zone root).keywords)[n]? = some step ∧
            step.startedAtMs = Time.stamp? zone (status.attribute? "starttime") ∧
            ∀ s, Time.stamp? zone (status.attribute? "starttime") = some s →
              (∀ f, Time.stamp? zone (status.attribute? "endtime") = some f →
                step.endedAtMs = some f) ∧
              (Time.stamp? zone (status.attribute? "endtime") = none →
                step.endedAtMs = some s) := by
  have hoffset : ∀ offset, Time.Zone.isOffset offset = true ↔ -86400 < offset ∧ offset < 86400 := by
    intro offset
    simp [Time.Zone.isOffset]
  refine ⟨fun text w hw => ⟨fun offset hleast hgreatest => ?_, fun n hn => ?_⟩,
    fun status s f hs hf => ?_, fun n e status he hstatus hstart => ?_⟩
  · have hclock := Time.WallTime.onClock_read? hw
    have hmillis : Time.Near (w.millis - 0 * 1000) := Time.WallTime.near_millis hclock rfl
    have hshift : Time.Near (offset * 1000) := by
      unfold Time.Near
      omega
    rw [Int.zero_mul, Int.sub_zero] at hmillis
    exact ⟨hmillis.fits, hshift.fits,
      (Time.WallTime.near_millis hclock ((hoffset offset).mpr ⟨hleast, hgreatest⟩)).fits⟩
  · obtain ⟨offset, hbounds, rfl⟩ := Time.Zone.exists_offset_of_instant? hn
    obtain ⟨hleast, hgreatest⟩ := (hoffset offset).mp hbounds
    exact ⟨offset, hleast, hgreatest, rfl⟩
  · have hfits := Timing.fits_between zone (status.attribute? "starttime")
      (status.attribute? "endtime")
    rwa [Timing.between_of_both hs hf] at hfits
  · obtain ⟨hstartTime, helapsed⟩ := Keyword.timing_ofElement zone hstatus
    rw [Timing.ofStatus_of_no_start hstart] at hstartTime helapsed
    refine ⟨ofKeyword zone l (n + 1) (Keyword.ofElement zone e), ?_, ?_, fun s hs => ⟨?_, ?_⟩⟩
    · rw [extract_ofTree]
      simp [he]
    · rw [ofKeyword, hstartTime]
    · intro f hf
      rw [ofKeyword, hstartTime, helapsed, hs]
      exact Timing.endOf_between hs hf
    · intro hf
      rw [ofKeyword, hstartTime, helapsed, hs]
      exact Timing.endOf_between_of_start hs hf

/-- A step that lasts from the first to the last second of the calendar, almost a day
west of universal time, so that its end has no place on the calendar any more. -/
theorem Step.times_of_status_all_along :
    let zone : Time.Zone := .fixed (-86399)
    let l : Locations := ⟨"/x", "/runs/7", "/x", "/x"⟩
    let given : String → String → Xml.Attribute := fun name value => ⟨⟨none, name⟩, value⟩
    let element : String → List Xml.Attribute → List Node → Node :=
      fun name => .element ⟨none, name⟩
    let status := element "status" [given "status" "PASS",
      given "starttime" "-262143-01-01 00:00:00",
      given "endtime" "+262142-12-31 23:59:60.999"] []
    let root := element "robot" [] [element "kw" [given "name" "Doc Web Step"] [status]]
    status.attribute? "start" = none ∧
      ∃ step, (extract zone l (RunResult.ofTree zone root).keywords)[0]? = some step ∧
        step.startedAtMs = some (-8334601142401000) ∧ step.endedAtMs = some 8210266963199999 := by
  intro zone l given element status root
  have hstart : status.attribute? "start" = none := by decide +kernel
  obtain ⟨step, hstep, hstarted, hended⟩ := (times_of_status zone l root).2.2 0
    (element "kw" [given "name" "Doc Web Step"] [status]) status rfl rfl hstart
  have hs : Time.stamp? zone (status.attribute? "starttime") = some (-8334601142401000) := by
    decide +kernel
  have hf : Time.stamp? zone (status.attribute? "endtime") = some 8210266963199999 := by
    decide +kernel
  exact ⟨hstart, step, hstep, hstarted.trans hs, (hended _ hs).1 _ hf⟩

end Storyboard
