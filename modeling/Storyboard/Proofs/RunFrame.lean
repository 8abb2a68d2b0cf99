import Mathlib.Control.Monad.Basic
import Storyboard.Proofs.Publishing
import Storyboard.Proofs.RunPhases

/-! # What a run does to the disk

A run changes the place of its destination and nothing else that was there. It
leaves the whole artifact or none of it; a failed run may leave directories on the
way to the destination, but neither a part of the artifact nor a staged file.
-/
namespace Storyboard.Conversion

open Files (Disk Entry Location Path)

variable {d : Disk} {zone : Time.Zone} {args : Arguments}

theorem resolve_of_plan {p : Plan} (h : (plan d zone args).outcome = .ok p) :
    d.resolve args.artifactsJson = .ok p.destination := by
  obtain ⟨l, result, manifest, a, hl, _, _, _, rfl⟩ := plan_eq_ok h
  exact (Locations.resolve_eq_ok_iff.mp hl).2.2.1

/-- A run whose plan succeeds fails with no more than directories made, or it puts
the bytes of the artifact at the destination. -/
theorem run_cases {p : Plan} (h : (plan d zone args).outcome = .ok p) :
    (∃ e, (run d zone args).2.outcome = .error e ∧
      ∀ l, (run d zone args).1.entryAt l = (d.prepared p.destination).entryAt l) ∨
    (∃ loc, (run d zone args).2.outcome = .ok () ∧ d.destination? p.destination = some loc ∧
      ∀ l, (run d zone args).1.entryAt l =
        if l = loc then some (.file p.artifact.bytes)
        else (d.prepared p.destination).entryAt l) := by
  obtain ⟨hdisk, houtcome⟩ := run_of_plan_ok h
  rw [hdisk, houtcome]
  exact d.publish_cases p.destination p.artifact.bytes

theorem exists_place_of_run (h : (run d zone args).2.outcome = .ok ()) :
    ∃ p place, (plan d zone args).outcome = .ok p ∧ d.destination? p.destination = some place ∧
      (run d zone args).1.entryAt place = some (.file p.artifact.bytes) := by
  obtain ⟨p, hplan, -⟩ := exists_plan_of_run h
  rcases run_cases hplan with ⟨f, hfail, -⟩ | ⟨place, -, hplace, hdisk⟩
  · rw [hfail] at h
    cases h
  · exact ⟨p, place, hplan, hplace, by rw [hdisk, if_pos rfl]⟩

/-- A run that fails before it writes changes nothing. Any other run changes at most
the place of the destination and adds at most directories on the way to it; if it
succeeds, the destination holds the whole artifact, and if it fails, each place is
what it was before, or it was vacant and is such a directory. -/
theorem run_frame (d : Disk) (zone : Time.Zone) (args : Arguments) :
    (∀ e, (plan d zone args).outcome = .error e →
      (run d zone args).1 = d ∧ (run d zone args).2.outcome = .error e) ∧
    (∀ p, (plan d zone args).outcome = .ok p →
      d.resolve args.artifactsJson = .ok p.destination ∧
      (∀ loc e, d.entryAt loc = some e → d.destination? p.destination ≠ some loc →
        (run d zone args).1.entryAt loc = some e) ∧
      (∀ loc e, d.entryAt loc = none → (run d zone args).1.entryAt loc = some e →
        e = .directory ∧ d.OnTheWay p.destination loc ∨
          (run d zone args).2.outcome = .ok () ∧ d.destination? p.destination = some loc) ∧
      ((run d zone args).2.outcome = .ok () → ∃ loc, d.destination? p.destination = some loc ∧
        (run d zone args).1.entryAt loc = some (.file p.artifact.toJson.pretty.toUTF8)) ∧
      (∀ e, (run d zone args).2.outcome = .error e → ∀ loc,
        (run d zone args).1.entryAt loc = d.entryAt loc ∨
          d.entryAt loc = none ∧ (run d zone args).1.entryAt loc = some .directory ∧
            d.OnTheWay p.destination loc)) := by
  refine ⟨fun e h => run_of_plan_error h, fun p h => ?_⟩
  have habsolute := Disk.isAbsolute_of_resolve (resolve_of_plan h)
  refine ⟨resolve_of_plan h, ?_⟩
  -- Each clause is about one of the two ways in which a run ends; the other is absurd.
  rcases run_cases h with ⟨f, hfail, hdisk⟩ | ⟨place, hok, hplace, hdisk⟩
  · rw [hfail]
    refine ⟨fun loc e hold _ => ?_, fun loc e hnone hsome => ?_, nofun, fun _ _ loc => ?_⟩
    · rw [hdisk]
      exact Disk.entryAt_prepared_of_some hold
    · rw [hdisk] at hsome
      exact Or.inl (Disk.onTheWay_of_prepared habsolute hnone hsome)
    · rw [hdisk]
      exact d.entryAt_prepared habsolute loc
  · rw [hok]
    refine ⟨fun loc e hold hother => ?_, fun loc e hnone hsome => ?_, fun _ => ?_, nofun⟩
    · have hne : loc ≠ place := by
        rintro rfl
        exact hother hplace
      rw [hdisk, if_neg hne]
      exact Disk.entryAt_prepared_of_some hold
    · rw [hdisk] at hsome
      split at hsome
      · next heq => exact Or.inr ⟨rfl, heq ▸ hplace⟩
      · exact Or.inl (Disk.onTheWay_of_prepared habsolute hnone hsome)
    · refine ⟨place, hplace, ?_⟩
      rw [hdisk, if_pos rfl]
      rfl

/-- A file is published through a link, and a directory is made beside it. On a full disk
the run fails while it fills the staged file, and nothing but the directory remains. -/
theorem run_frame_link :
    let d : Disk :=
      { entries := [(["run.xml"], .file "<r/>".toUTF8), (["l"], .link "d"), (["d"], .directory)]
        here := [] }
    let full : Disk := { d with room := fun _ => some (2, .full) }
    let args : Arguments := ⟨"/run.xml", "/", "/l/new/../out.json", none, none, none⟩
    (∃ p, (plan d .utc args).outcome = .ok p ∧
      d.destination? p.destination = some (["d", "out.json"] : Location) ∧
      (run d .utc args).1.entryAt ["d", "out.json"] =
        some (.file p.artifact.toJson.pretty.toUTF8) ∧
      (run d .utc args).1.entryAt ["l"] = some (.link "d")) ∧
    (run full .utc args).2.outcome =
      .error (.write "/l/new/../.out.json.000000.tmp" (.refused .full)) ∧
    ∀ loc, (run full .utc args).1.entryAt loc = full.entryAt loc ∨
      full.entryAt loc = none ∧ (run full .utc args).1.entryAt loc = some .directory := by
  intro d full args
  have hok : (run d .utc args).2.outcome = .ok () := by decide +kernel
  have hpath : d.resolve args.artifactsJson = .ok "/l/new/../out.json" := by decide +kernel
  have hplace : d.destination? "/l/new/../out.json" = some (["d", "out.json"] : Location) := by
    decide +kernel
  have hfull : (run full .utc args).2.outcome =
      .error (.write "/l/new/../.out.json.000000.tmp" (.refused .full)) := by decide +kernel
  refine ⟨?_, hfull, fun loc => ?_⟩
  · obtain ⟨herror, hframe⟩ := run_frame d .utc args
    cases hplan : (plan d .utc args).outcome with
    | error e =>
      rw [(herror e hplan).2] at hok
      cases hok
    | ok p =>
      obtain ⟨hresolve, hkept, -, hwritten, -⟩ := hframe p hplan
      rw [hpath] at hresolve
      rw [← Except.ok.inj hresolve] at hkept hwritten
      obtain ⟨loc, hloc, hentry⟩ := hwritten hok
      rw [hplace] at hloc
      cases hloc
      refine ⟨p, rfl, ?_, hentry, hkept ["l"] _ (by decide +kernel) ?_⟩
      · rw [← Except.ok.inj hresolve, hplace]
      · rw [hplace]
        decide +kernel
  · obtain ⟨herror, hframe⟩ := run_frame full .utc args
    cases hplan : (plan full .utc args).outcome with
    | error e =>
      rw [(herror e hplan).1]
      exact Or.inl rfl
    | ok p =>
      obtain ⟨-, -, -, -, hfailed⟩ := hframe p hplan
      rcases hfailed _ hfull loc with hsame | ⟨hvacant, hmade, -⟩
      · exact Or.inl hsame
      · exact Or.inr ⟨hvacant, hmade⟩

/-- A failed run may leave a directory at its own destination, where nothing was. -/
theorem run_makes_destination :
    ∃ (d : Disk) (args : Arguments) (q : Path) (loc : Location) (e : Failure),
      (run d .utc args).2.outcome = .error e ∧ d.resolve args.artifactsJson = .ok q ∧
      d.destination? q = some loc ∧ d.entryAt loc = none ∧
      (run d .utc args).1.entryAt loc = some .directory :=
  ⟨{ entries := [(["run.xml"], .file "<r/>".toUTF8)], here := [] },
    ⟨"/run.xml", "/", "/new/../new", none, none, none⟩, "/new/../new", ["new"],
    .publish "/new/../new" .isADirectory, by decide +kernel⟩

end Storyboard.Conversion
