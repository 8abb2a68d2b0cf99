import Storyboard.Conversion

/-! # The phases of a run

A run reads and then writes. A plan says with which locations, result and manifest
the reading ended; the writing publishes the bytes of the planned artifact.
-/
namespace Storyboard

open Files (Disk Path)

theorem Failure.exists_of_bind_eq_ok {α β : Type} {x : Except Failure α}
    {f : α → Except Failure β} {b : β} (h : x >>= f = .ok b) : ∃ a, x = .ok a ∧ f a = .ok b := by
  cases x with
  | error e => cases h
  | ok a => exact ⟨a, rfl, h⟩

theorem Logged.outcome_bind {α β : Type} (x : Logged α) (f : α → Logged β) :
    (x >>= f).outcome = x.outcome >>= fun a => (f a).outcome := by
  obtain ⟨journal, outcome⟩ := x
  cases outcome <;> rfl

theorem Logged.exists_of_bind_eq_ok {α β : Type} {x : Logged α} {f : α → Logged β} {b : β}
    (h : (x >>= f).outcome = .ok b) : ∃ a, x.outcome = .ok a ∧ (f a).outcome = .ok b := by
  rw [Logged.outcome_bind] at h
  exact Failure.exists_of_bind_eq_ok h

theorem Files.Disk.readText_eq_ok {d : Disk} {p : Path} {text : String}
    (h : d.readText p = .ok text) :
    ∃ content, d.readBytes p = .ok content ∧ String.fromUTF8? content = some text := by
  unfold readText at h
  split at h
  · cases h
  · next content hread =>
    split at h
    · next hdecode =>
      cases h
      exact ⟨content, hread, hdecode⟩
    · cases h

theorem RunResult.load_eq_ok {d : Disk} {zone : Time.Zone} {p : Path} {result : RunResult}
    (h : (RunResult.load d zone p).outcome = .ok result) :
    ∃ text, d.readText p = .ok text ∧ RunResult.read? zone text = some result := by
  unfold load at h
  split at h
  · cases h
  · next text htext =>
    split at h
    · cases h
    · next hresult =>
      cases h
      exact ⟨text, htext, hresult⟩

theorem RunResult.load_congr {d d' : Disk} {p : Path} (h : d'.readBytes p = d.readBytes p)
    (zone : Time.Zone) : RunResult.load d' zone p = RunResult.load d zone p := by
  rw [load, load, Disk.readText, Disk.readText, h]

theorem Files.Disk.pathExists_of_readBytes {d : Disk} {p : Path} {bytes : ByteArray}
    (h : d.readBytes p = .ok bytes) : d.pathExists p = true := by
  unfold readBytes at h
  unfold pathExists
  cases hlookup : d.lookup p with
  | error f => simp [hlookup] at h
  | ok found => rfl

theorem Manifest.ofBytes_eq_ok {path : Path} {bytes : ByteArray} {m : Manifest} :
    ofBytes path bytes = .ok m ↔
      ∃ members, Json.ofBytes? bytes = some (.object members) ∧
        ofJson? (.object members) = some m := by
  unfold ofBytes
  constructor
  · intro h
    split at h
    · cases h
    · next members hread =>
      split at h
      · next hm =>
        cases h
        exact ⟨members, hread, hm⟩
      · cases h
    · cases h
  · rintro ⟨members, hread, hm⟩
    simp [hread, hm]

theorem Manifest.load_eq_some {d : Disk} {path : Path} {m : Manifest} :
    (load d path).outcome = .ok (some m) ↔
      ∃ bytes, d.readBytes path = .ok bytes ∧ ofBytes path bytes = .ok m := by
  constructor
  · intro h
    unfold load at h
    split at h
    · split at h
      · cases h
      · next bytes hbytes =>
        split at h
        · next hm =>
          cases h
          exact ⟨bytes, hbytes, hm⟩
        · cases h
    · cases h
  · rintro ⟨bytes, hbytes, hm⟩
    simp [load, Disk.pathExists_of_readBytes hbytes, hbytes, hm, Logged.pure]

theorem Manifest.load_congr {d d' : Disk} {p : Path} (hexists : d'.pathExists p = d.pathExists p)
    (hbytes : d.pathExists p = true → d'.readBytes p = d.readBytes p) :
    Manifest.load d' p = Manifest.load d p := by
  rw [load, load, hexists]
  split
  · next hpath => rw [hbytes hpath]
  · rfl

theorem Artifact.backfill_congr {d d' : Disk} (a : Artifact) {candidate : Option String}
    (h : ∀ c, candidate = some c → d'.pathExists c = d.pathExists c) :
    a.backfill d' candidate = a.backfill d candidate := by
  have hoffer : a.offer d' candidate = a.offer d candidate := by
    cases candidate with
    | none => rfl
    | some c => rw [offer, offer, h c rfl]
  rw [backfill, backfill, hoffer]

theorem Locations.resolvePath_eq_ok {d : Disk} {p q : Path} :
    resolvePath d p = .ok q ↔ d.resolve p = .ok q := by
  unfold resolvePath
  cases d.resolve p <;> simp

/-- The manifest of a run lies where it is given or below the output directory. -/
def Locations.ManifestAt (d : Disk) (outputDir : Path) (manifest : Option Path) (q : Path) : Prop :=
  match manifest with
  | some p => d.resolve p = .ok q
  | none => q = outputDir.join manifestName

theorem Locations.resolve_eq_ok_iff {d : Disk} {outputXml outputDir artifactsJson : Path}
    {manifest : Option Path} {l : Locations} :
    Locations.resolve d outputXml outputDir artifactsJson manifest = .ok l ↔
      d.resolve outputXml = .ok l.outputXml ∧ d.resolve outputDir = .ok l.outputDir ∧
        d.resolve artifactsJson = .ok l.artifactsJson ∧
        ManifestAt d l.outputDir manifest l.manifest := by
  unfold Locations.resolve ManifestAt
  constructor
  · intro h
    obtain ⟨dir, hdir, h⟩ := Failure.exists_of_bind_eq_ok h
    cases manifest <;>
      · obtain ⟨m, hm, h⟩ := Failure.exists_of_bind_eq_ok h
        obtain ⟨xml, hxml, h⟩ := Failure.exists_of_bind_eq_ok h
        obtain ⟨json, hjson, h⟩ := Failure.exists_of_bind_eq_ok h
        cases h
        simp_all [resolvePath_eq_ok]
  · rintro ⟨hxml, hdir, hjson, hm⟩
    rw [← resolvePath_eq_ok] at hxml hdir hjson
    cases manifest with
    | none =>
      dsimp only at hm
      rw [hxml, hdir, hjson]
      dsimp only [bind, Except.bind]
      rw [← hm]
      rfl
    | some p =>
      dsimp only at hm ⊢
      rw [← resolvePath_eq_ok] at hm
      rw [hxml, hdir, hjson, hm]
      rfl

namespace Conversion

variable {d : Disk} {zone : Time.Zone} {args : Arguments}

theorem plan_eq_ok {p : Plan} (h : (plan d zone args).outcome = .ok p) :
    ∃ l result manifest a,
      Locations.resolve d args.outputXml args.outputDir args.artifactsJson args.manifestPath =
        .ok l ∧
      (RunResult.load d zone l.outputXml).outcome = .ok result ∧
      (Manifest.load d l.manifest).outcome = .ok manifest ∧
      (assemble zone l (scenarioIdOf args.suiteId (titleOf result)) (titleOf result) result.keywords
        manifest).outcome = .ok a ∧
      p = ⟨l.artifactsJson, (a.backfill d args.videoPath).1⟩ := by
  unfold plan at h
  obtain ⟨l, hl, h⟩ := Logged.exists_of_bind_eq_ok h
  obtain ⟨result, hresult, h⟩ := Logged.exists_of_bind_eq_ok h
  obtain ⟨manifest, hmanifest, h⟩ := Logged.exists_of_bind_eq_ok h
  obtain ⟨a, ha, h⟩ := Logged.exists_of_bind_eq_ok h
  obtain ⟨b, hb, h⟩ := Logged.exists_of_bind_eq_ok h
  cases hb
  cases h
  exact ⟨l, result, manifest, a, hl, hresult, hmanifest, ha, rfl⟩

theorem plan_of_phases {l : Locations} {result : RunResult} {manifest : Option Manifest}
    {a : Artifact}
    (hl : Locations.resolve d args.outputXml args.outputDir args.artifactsJson args.manifestPath =
      .ok l)
    (hresult : (RunResult.load d zone l.outputXml).outcome = .ok result)
    (hmanifest : (Manifest.load d l.manifest).outcome = .ok manifest)
    (ha : (assemble zone l (scenarioIdOf args.suiteId (titleOf result)) (titleOf result)
      result.keywords manifest).outcome = .ok a) :
    (plan d zone args).outcome = .ok ⟨l.artifactsJson, (a.backfill d args.videoPath).1⟩ := by
  unfold plan
  simp only [Logged.outcome_bind]
  rw [hl]
  dsimp only [Logged.ofExcept, bind, Except.bind]
  rw [hresult]
  dsimp only
  rw [hmanifest]
  dsimp only
  rw [ha]
  rfl

theorem run_of_plan_error {e : Failure} (h : (plan d zone args).outcome = .error e) :
    (run d zone args).1 = d ∧ (run d zone args).2.outcome = .error e := by
  unfold run
  simp [h]

/-- A run whose plan succeeds publishes the artifact. -/
theorem run_of_plan_ok {p : Plan} (h : (plan d zone args).outcome = .ok p) :
    (run d zone args).1 = (d.publish p.destination p.artifact.bytes).1 ∧
      (run d zone args).2.outcome = (d.publish p.destination p.artifact.bytes).2 := by
  unfold run Artifact.write
  rcases hpublish : d.publish p.destination p.artifact.bytes with ⟨d', e | done⟩
  · simp [h, hpublish, Logged.fail]
  · simp [h, hpublish, Logged.note]

theorem exists_plan_of_run (h : (run d zone args).2.outcome = .ok ()) :
    ∃ p, (plan d zone args).outcome = .ok p ∧
      (d.publish p.destination p.artifact.bytes).2 = .ok () := by
  cases hplan : (plan d zone args).outcome with
  | error e =>
    rw [(run_of_plan_error hplan).2] at h
    cases h
  | ok p => exact ⟨p, rfl, (run_of_plan_ok hplan).2.symm.trans h⟩

end Conversion
end Storyboard
