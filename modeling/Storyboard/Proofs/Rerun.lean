import Mathlib.Control.Monad.Basic
import Storyboard.Proofs.Republishing
import Storyboard.Proofs.RunFrame
import Storyboard.Proofs.TreeInvariant

/-! # Running twice

A run leaves all that it has read as it was, so a second run with the same arguments
plans the same artifact. The destination and its directories are there now; its path
may be resolved in another way, but it stands for the same place, and the second run
writes the same bytes there.
-/
namespace Storyboard

open Files (Disk Entry Location Name Path Volume)

/-! ## Phases that see no difference -/

theorem Manifest.readBytes_of_load {d : Disk} {p : Path} {manifest : Option Manifest}
    (h : (load d p).outcome = .ok manifest) (hpath : d.pathExists p = true) :
    ∃ content, d.readBytes p = .ok content := by
  rw [load, if_pos hpath] at h
  cases hread : d.readBytes p with
  | error f => simp [hread, Logged.fail] at h
  | ok content => exact ⟨content, rfl⟩

theorem Step.extractFrom_congr {l l' : Locations} (h : l'.outputDir = l.outputDir)
    (zone : Time.Zone) (n : Nat) (ks : List Keyword) :
    extractFrom zone l' n ks = extractFrom zone l n ks := by
  have hscreenshot : ∀ id, l'.screenshot id = l.screenshot id := fun id => by
    rw [Locations.screenshot, Locations.screenshot, Locations.screenshotsDir,
      Locations.screenshotsDir, h]
  induction ks generalizing n with
  | nil => rfl
  | cons k ks ih =>
    rw [extractFrom, extractFrom, ih, ih, ofKeyword, ofKeyword]
    simp only [hscreenshot]

namespace Conversion

theorem assemble_congr {l l' : Locations} (h : l'.outputDir = l.outputDir) (zone : Time.Zone)
    (scenarioId title : String) (keywords : List Keyword) (manifest : Option Manifest) :
    (assemble zone l' scenarioId title keywords manifest).outcome =
      (assemble zone l scenarioId title keywords manifest).outcome := by
  cases manifest with
  | some m => rfl
  | none =>
    dsimp only [assemble, Step.extract]
    rw [Step.extractFrom_congr h]

variable {v : Volume} {again : Disk} {zone : Time.Zone} {args : Arguments} {l : Locations}
  {loc : Location} {s : Name}

/-! ## What the first run leaves -/

/-- A successful run can be repeated on a disk that it has left: the working directory and
the output directory are there, the artifact is published at a place that is no link and
that the run does not read, a manifest and a video are there after the run if they were
there before, the storage takes the artifact again where it took it, and if the path of the
destination leads somewhere now, it can be resolved and files can be staged beside the
place to which it leads. -/
structure Repeatable (v : Volume) (again : Disk) (zone : Time.Zone) (args : Arguments)
    (l : Locations) (loc : Location) (s : Name) : Prop where
  home : v.entryAt v.here = some .directory
  succeeds : (run v.toDisk zone args).2.outcome = .ok ()
  locations : Locations.resolve v.toDisk args.outputXml args.outputDir args.artifactsJson
    args.manifestPath = .ok l
  outputDir : v.pathExists args.outputDir = true
  place : v.destination? l.artifactsJson = some (loc ++ [s])
  unlinked : ∀ target, v.entryAt (loc ++ [s]) ≠ some (.link target)
  result : ∀ e, v.lookup l.outputXml ≠ .ok (loc ++ [s], e)
  manifest : ∀ e, v.lookup l.manifest ≠ .ok (loc ++ [s], e)
  host : again.toHost = v.toHost
  entries : again.entries = (run v.toDisk zone args).1.entries
  storage : ∀ n content, again.entryAt (loc ++ [s]) = some (.file content) →
    v.Grants loc s n content → again.Grants loc s n content
  manifestGiven : ∀ p, args.manifestPath = some p → again.pathExists p = v.pathExists p
  manifestResolved : again.pathExists l.manifest = v.pathExists l.manifest
  video : ∀ c : String, args.videoPath = some c → again.pathExists c = v.pathExists c
  stops : again.pathExists args.artifactsJson = true →
    ∀ q ∈ again.stops args.artifactsJson, q.bytes.length ≤ Files.pathLimit
  room : again.pathExists args.artifactsJson = true →
    ∀ n ≤ again.entries.length, Disk.checkPath (Disk.stagedPlace loc s n).toPath = .ok ()

theorem Repeatable.wellFormed (h : Repeatable v again zone args l loc s) : again.WellFormed := by
  have hentry : ∀ x, again.entryAt x = (run v.toDisk zone args).1.entryAt x := fun x => by
    rw [Disk.entryAt, Disk.entryAt, h.entries]
  refine (wellFormed_run v.proper zone args).of_entries (fun x hx => (hentry x).trans hx) ?_
  intro x hx hnew
  exact absurd (h.entries ▸ hx) hnew

/-- The disk after a run holds the artifact of its plan, is ready for another one and takes
it; all else is kept. -/
theorem Repeatable.published (h : Repeatable v again zone args l loc s) {p : Plan}
    (hplan : (plan v.toDisk zone args).outcome = .ok p) (hp : p.destination = l.artifactsJson) :
    again.entryAt (loc ++ [s]) = some (.file p.artifact.bytes) ∧
      Disk.Kept (loc ++ [s]) v.toDisk again ∧
      ∃ parent n, again.Ready l.artifactsJson parent loc s n ∧
        again.Grants loc s n p.artifact.bytes := by
  obtain ⟨hdisk, houtcome⟩ := run_of_plan_ok hplan
  rw [h.succeeds, hp] at houtcome
  rw [hp] at hdisk
  have hresolve := (Locations.resolve_eq_ok_iff.mp h.locations).2.2.1
  have habsolute := Disk.isAbsolute_of_resolve hresolve
  obtain ⟨parent, around, t, n, hready, hgrants⟩ := Disk.ready_of_publish v.proper houtcome.symm
  have hplace : around ++ [t] = loc ++ [s] := by
    have hplace := h.place
    rw [Disk.destination?, hready.names.placeOf?_eq] at hplace
    exact Option.some.inj hplace
  obtain ⟨rfl, ht⟩ := List.append_inj' hplace rfl
  cases ht
  have hleaf : ∀ e, (v.prepared l.artifactsJson).entryAt (around ++ [s]) = some e →
      e.isLeaf = true := by
    intro e he
    cases e with
    | directory => exact absurd he hready.target
    | file content => rfl
    | special given unreadable unwritable => rfl
    | link target =>
      rcases v.entryAt_prepared habsolute (around ++ [s]) with hsame | ⟨-, hdir, -⟩
      · exact absurd (hsame.symm.trans he) (h.unlinked target)
      · rw [hdir] at he
        cases he
  have hholding : Disk.Holding (around ++ [s]) p.artifact.bytes (v.prepared l.artifactsJson)
      again := by
    refine ⟨h.host.trans (v.sameFrame_prepared _).host.symm, fun x => ?_⟩
    have hentry : again.entryAt x = (run v.toDisk zone args).1.entryAt x := by
      rw [Disk.entryAt, Disk.entryAt, h.entries]
    rw [hentry, hdisk]
    exact (Disk.holding_publish houtcome.symm h.place).entryAt x
  have hthere : again.entryAt (around ++ [s]) = some (.file p.artifact.bytes) := by
    rw [hholding.entryAt, if_pos rfl]
  refine ⟨hthere, hholding.kept hleaf, parent, n, hready.of_holding hholding hleaf,
    h.storage n _ hthere (hgrants.of_storage ?_)⟩
  exact (v.sameFrame_prepared _).storage.symm

/-! ## The second run -/

theorem Repeatable.home_again (h : Repeatable v again zone args l loc s)
    (hkept : Disk.Kept (loc ++ [s]) v.toDisk again) :
    again.entryAt again.here = some .directory := by
  rw [hkept.ways.here_eq]
  exact hkept.ways.directory h.home

/-- A path that has come to lead somewhere leads to the place that its absolute form names,
by way of directories that can be searched. It is resolved to the path of this place, and the
disk is ready for that. -/
theorem Repeatable.ready_of_lookup (h : Repeatable v again zone args l loc s)
    {content : ByteArray} (hentry : again.entryAt (loc ++ [s]) = some (.file content))
    (hhome : again.entryAt again.here = some .directory) {parent : Path} {n : Nat}
    (hready : again.Ready l.artifactsJson parent loc s n)
    (hpath : l.artifactsJson = args.artifactsJson.absolute again.here.toPath)
    {found : Location × Entry} (hfound : again.lookup args.artifactsJson = .ok found) :
    ∃ q parent, again.resolve args.artifactsJson = .ok q ∧ again.Ready q parent loc s n := by
  obtain ⟨y, e⟩ := found
  have hd := h.wellFormed
  have hlookup := hready.names.lookup_leaf hready.slash hentry rfl
  rw [hpath] at hlookup
  obtain rfl := Disk.eq_of_lookup_absolute hd hhome hlookup hfound
  have hopen := Disk.openAbove_of_lookup_absolute hd hhome hlookup
  have hexists : again.pathExists args.artifactsJson = true := by
    rw [Disk.pathExists, hfound]
  have hstops := h.stops hexists
  obtain ⟨-, m, hleads, -⟩ := Disk.lookup_eq_ok_iff.mp hfound
  -- The walk does not start at the file, so the path of the file is one of its stops.
  have hstart : Disk.startOf args.artifactsJson again.here ≠ loc ++ [s] := by
    intro heq
    unfold Disk.startOf at heq
    split at heq
    · simp at heq
    · rw [heq, hentry] at hhome
      cases hhome
  have hshort := hstops _ (hd.toPath_mem_stops hleads hentry rfl hstart)
  have hplace := Location.checkPath_toPath (hd.isName hentry) hshort
  have habove := (Disk.openAbove_concat_iff.mp (hleads.openAbove hopen)).1
  refine ⟨_, loc.toPath, hd.resolve_of_short hfound hopen hstops, ?_⟩
  apply hready.toPath hd habove hplace
  intro k hk
  exact h.room hexists k (hk.trans (Disk.le_length_of_taken hready.stages.number.taken))

/-- The path of the destination is resolved as before or to the path of its place, and
the disk is ready for either. -/
theorem Repeatable.destination_again (h : Repeatable v again zone args l loc s)
    {content : ByteArray} (hentry : again.entryAt (loc ++ [s]) = some (.file content))
    (hkept : Disk.Kept (loc ++ [s]) v.toDisk again) {parent : Path} {n : Nat}
    (hready : again.Ready l.artifactsJson parent loc s n) :
    ∃ q parent, again.resolve args.artifactsJson = .ok q ∧ again.Ready q parent loc s n := by
  have hresolve := (Locations.resolve_eq_ok_iff.mp h.locations).2.2.1
  cases hp : v.lookup args.artifactsJson with
  | ok found =>
    exact ⟨l.artifactsJson, parent,
      Disk.resolve_mono v.proper h.wellFormed hkept.ways hkept.leaves hresolve hp, hready⟩
  | error f =>
    rw [Disk.resolve_of_error hp] at hresolve
    split at hresolve
    · cases hresolve
    · next hfull =>
      have hpath : l.artifactsJson = args.artifactsJson.absolute again.here.toPath := by
        rw [hkept.ways.here_eq]
        exact (Except.ok.inj hresolve).symm
      cases hp' : again.lookup args.artifactsJson with
      | error f' =>
        refine ⟨l.artifactsJson, parent, ?_, hready⟩
        rw [Disk.resolve_of_error hp', if_neg hfull, hpath]
      | ok found => exact h.ready_of_lookup hentry (h.home_again hkept) hready hpath hp'

theorem Repeatable.manifest_again (h : Repeatable v again zone args l loc s)
    (hkept : Disk.Kept (loc ++ [s]) v.toDisk again) :
    Locations.ManifestAt again l.outputDir args.manifestPath l.manifest := by
  have hmanifest := (Locations.resolve_eq_ok_iff.mp h.locations).2.2.2
  unfold Locations.ManifestAt at hmanifest ⊢
  cases hgiven : args.manifestPath with
  | none =>
    rw [hgiven] at hmanifest
    exact hmanifest
  | some p =>
    rw [hgiven] at hmanifest
    dsimp only at hmanifest ⊢
    cases hp : v.lookup p with
    | ok found => exact Disk.resolve_mono v.proper h.wellFormed hkept.ways hkept.leaves hmanifest hp
    | error f =>
      have habsent := h.manifestGiven p hgiven
      rw [Disk.pathExists, Disk.pathExists, hp] at habsent
      cases hp' : again.lookup p with
      | ok found => simp [hp'] at habsent
      | error f' =>
        rw [Disk.resolve_of_error hp] at hmanifest
        rw [Disk.resolve_of_error hp', hkept.ways.here_eq, hmanifest]

theorem Repeatable.plan_again (h : Repeatable v again zone args l loc s) {p : Plan}
    (hplan : (plan v.toDisk zone args).outcome = .ok p) :
    again.entryAt (loc ++ [s]) = some (.file p.artifact.bytes) ∧
      ∃ q parent n, (plan again zone args).outcome = .ok ⟨q, p.artifact⟩ ∧
        again.Ready q parent loc s n ∧ again.Grants loc s n p.artifact.bytes := by
  obtain ⟨l', result, manifest, a, hl', hresult, hmanifest, ha, rfl⟩ := plan_eq_ok hplan
  cases Except.ok.inj (h.locations.symm.trans hl')
  obtain ⟨hentry, hkept, parent, n, hready, hgrants⟩ := h.published hplan rfl
  obtain ⟨q, parent', hq, hready'⟩ := h.destination_again hentry hkept hready
  obtain ⟨hxml, hdir, -, -⟩ := Locations.resolve_eq_ok_iff.mp h.locations
  -- The result tree is found at the same path, with the same content.
  obtain ⟨text, htext, -⟩ := RunResult.load_eq_ok hresult
  obtain ⟨content, hread, -⟩ := Disk.readText_eq_ok htext
  obtain ⟨x, e, hfile, he⟩ := Disk.readBytes_eq_ok_iff.mp hread
  have hxml' := Disk.resolve_leaf_mono v.proper h.home h.wellFormed hkept.ways hkept.leaves hxml
    hfile (Entry.isLeaf_of_read he)
  have hresult' := RunResult.load_congr (hkept.readBytes_eq hread h.result) zone
  have hdir' : again.resolve args.outputDir = .ok l.outputDir := by
    obtain ⟨found, hfound⟩ := Disk.pathExists_eq_true_iff.mp h.outputDir
    exact Disk.resolve_mono v.proper h.wellFormed hkept.ways hkept.leaves hdir hfound
  have hmanifest' : Manifest.load again l.manifest = Manifest.load v.toDisk l.manifest := by
    refine Manifest.load_congr h.manifestResolved fun hpath => ?_
    obtain ⟨bytes, hbytes⟩ := Manifest.readBytes_of_load hmanifest hpath
    exact hkept.readBytes_eq hbytes h.manifest
  let locations : Locations := ⟨l.outputXml, l.outputDir, q, l.manifest⟩
  have hlocations : Locations.resolve again args.outputXml args.outputDir args.artifactsJson
      args.manifestPath = .ok locations :=
    Locations.resolve_eq_ok_iff.mpr ⟨hxml', hdir', hq, h.manifest_again hkept⟩
  have ha' : (assemble zone locations (scenarioIdOf args.suiteId (titleOf result)) (titleOf result)
      result.keywords manifest).outcome = .ok a := by
    have hsame : locations.outputDir = l.outputDir := rfl
    rw [← ha]
    exact assemble_congr hsame zone _ _ _ _
  have hplan' := plan_of_phases hlocations ((congrArg Logged.outcome hresult').trans hresult)
    ((congrArg Logged.outcome hmanifest').trans hmanifest) ha'
  refine ⟨hentry, q, parent', n, ?_, hready', hgrants⟩
  rw [hplan', a.backfill_congr h.video]

/-- A second run with the same arguments succeeds and leaves the disk as the first one
did, with the same bytes at the destination. -/
theorem run_again (h : Repeatable v again zone args l loc s) :
    (run again zone args).2.outcome = .ok () ∧ again.SameFrame (run again zone args).1 ∧
      (∀ x, (run again zone args).1.entryAt x = again.entryAt x) ∧
      ∃ content, (run v.toDisk zone args).1.entryAt (loc ++ [s]) = some (.file content) ∧
        (run again zone args).1.entryAt (loc ++ [s]) = some (.file content) := by
  obtain ⟨p, hplan, -⟩ := exists_plan_of_run h.succeeds
  obtain ⟨hentry, q, parent, n, hplan', hready, hgrants⟩ := h.plan_again hplan
  obtain ⟨hdisk, houtcome⟩ := run_of_plan_ok hplan'
  have hok := hready.publish_iff.mpr hgrants
  have hholding := hready.holding hok
  have hsame : ∀ x, (run again zone args).1.entryAt x = again.entryAt x := by
    intro x
    rw [hdisk, hholding.entryAt]
    split
    · next hx => rw [hx, hentry]
    · rfl
  have hfirst : (run v.toDisk zone args).1.entryAt (loc ++ [s]) = again.entryAt (loc ++ [s]) := by
    rw [Disk.entryAt, Disk.entryAt, h.entries]
  refine ⟨houtcome.trans hok, ?_, hsame, _, hfirst.trans hentry, (hsame _).trans hentry⟩
  have hframe := again.sameFrame_publish q p.artifact.bytes
  rw [hready.prepared_eq] at hframe
  rw [hdisk]
  exact hframe

/-- The first run goes through a link and makes a directory, so that the destination is
resolved to another path by the second run, which finds less room. -/
theorem run_again_through_link :
    let tree := "<r><kw name=\"Doc Web Step\"><status status=\"PASS\"/></kw></r>".toUTF8
    let d : Disk :=
      { entries := [(["w"], .directory), (["w", "run.xml"], .file tree),
          (["w", "l"], .link "../d"), (["d"], .directory)]
        here := ["w"] }
    let args : Arguments := ⟨"run.xml", ".", "l/./new/out.json", none, some "l", some "m.json"⟩
    let again : Disk :=
      { d with
        room := fun _ => some (4096, .full)
        entries := (run d .utc args).1.entries }
    d.resolve args.artifactsJson = .ok "/w/l/new/out.json" ∧
      again.resolve args.artifactsJson = .ok "/d/new/out.json" ∧
      (run again .utc args).2.outcome = .ok () ∧
      ∀ x, (run again .utc args).1.entryAt x = again.entryAt x := by
  intro tree d args again
  have hd : d.WellFormed := by decide +kernel
  have hhome : d.entryAt d.here = some .directory := by decide +kernel
  have hok : (run d .utc args).2.outcome = .ok () := by decide +kernel
  have hlocations : Locations.resolve d args.outputXml args.outputDir args.artifactsJson
      args.manifestPath = .ok ⟨"/w/run.xml", "/w", "/w/l/new/out.json", "/w/m.json"⟩ := by
    decide +kernel
  have hdir : d.pathExists args.outputDir = true := by decide +kernel
  have hplace : d.destination? "/w/l/new/out.json" =
      some (["d", "new", "out.json"] : Location) := by decide +kernel
  have hvacant : d.entryAt ["d", "new", "out.json"] = none := by decide +kernel
  have hresult : d.lookup "/w/run.xml" = .ok (["w", "run.xml"], .file tree) := by decide +kernel
  have hmanifest : d.lookup "/w/m.json" = .error .notFound := by decide +kernel
  have hgiven : again.pathExists "m.json" = d.pathExists "m.json" := by decide +kernel
  have hresolved : again.pathExists "/w/m.json" = d.pathExists "/w/m.json" := by decide +kernel
  have hvideo : again.pathExists "l" = d.pathExists "l" := by decide +kernel
  have hstops : ∀ q ∈ again.stops args.artifactsJson, q.bytes.length ≤ Files.pathLimit := by
    decide +kernel
  have hroom : ∀ n ≤ again.entries.length,
      Disk.checkPath (Disk.stagedPlace ["d", "new"] "out.json" n).toPath = .ok () := by
    decide +kernel
  have hsmall : (again.entryAt ["d", "new", "out.json"]).all
      (fun e => e.read.toOption.all (·.size ≤ 4096)) = true := by decide +kernel
  have hentries : again.entries = (run d .utc args).1.entries := by dsimp only [again]
  obtain ⟨v, hv⟩ : ∃ v : Volume, v.toDisk = d := ⟨⟨d, hd⟩, rfl⟩
  rw [← hv] at hhome hok hlocations hdir hplace hvacant hresult hmanifest
  rw [← hv] at hgiven hresolved hvideo hentries
  have h : Repeatable v again .utc args ⟨"/w/run.xml", "/w", "/w/l/new/out.json", "/w/m.json"⟩
      ["d", "new"] "out.json" := by
    refine ⟨hhome, hok, hlocations, hdir, hplace, fun target => hvacant.trans_ne (by simp),
      fun e => hresult.trans_ne (by simp), fun e => hmanifest.trans_ne (by simp), by rw [hv],
      hentries, fun n content hcontent _ => ⟨rfl, ?_, rfl, rfl⟩, fun p hp => ?_,
      hresolved, fun c hc => ?_, fun _ => hstops, fun _ => hroom⟩
    · have hsize : content.size ≤ 4096 := by
        have hthere : again.entryAt ["d", "new", "out.json"] = some (.file content) := hcontent
        rw [hthere] at hsmall
        simpa [Entry.read, Except.toOption] using hsmall
      simp [Disk.shortage?, again, hsize]
    · cases hp
      exact hgiven
    · cases hc
      exact hvideo
  obtain ⟨hagain, -, hsame, -⟩ := run_again h
  exact ⟨by decide +kernel, by decide +kernel, hagain, hsame⟩

/-- A path that leads nowhere before a run may come to name a link, once a directory in
front of it is made. The run replaces the link, and where the result tree was given by
way of it, a second run fails. -/
theorem run_replaces_link_to_result :
    ∃ (d : Disk) (args : Arguments) (l : Locations) (e : Failure), d.WellFormed ∧
      d.entryAt d.here = some .directory ∧ (run d .utc args).2.outcome = .ok () ∧
      Locations.resolve d args.outputXml args.outputDir args.artifactsJson args.manifestPath =
        .ok l ∧
      d.pathExists args.outputDir = true ∧ d.placeOf? l.artifactsJson = none ∧
      d.pathExists l.artifactsJson = false ∧
      (run d .utc args).1.pathExists l.manifest = d.pathExists l.manifest ∧
      args.videoPath = none ∧ (run (run d .utc args).1 .utc args).2.outcome = .error e :=
  ⟨{ entries := [(["d"], .directory), (["d", "run.xml"], .file "<r/>".toUTF8), (["l"], .link "d")]
     here := [] },
    ⟨"/l/run.xml", "/", "/new/../l", none, none, none⟩,
    ⟨"/d/run.xml", "/", "/new/../l", "/unity-manifest.json"⟩,
    .readResult "/l/run.xml" .notADirectory, by decide +kernel⟩

end Conversion
end Storyboard
