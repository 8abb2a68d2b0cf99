import Mathlib.Control.Monad.Basic
import Storyboard.Proofs.ArtifactRecord
import Storyboard.Proofs.Extraction
import Storyboard.Proofs.Publishing
import Storyboard.Proofs.ReadValues
import Storyboard.Proofs.RunPhases

/-! # Artifacts that are loaded as manifests

The printer of artifacts and the reader of manifests agree on the members that both
know: a written artifact is loaded with its own steps and video paths. The steps of
a manifest were read themselves, so they are ordered and leave room for the object
around them. Only a path that needs the link which its file replaces leads nowhere
afterwards.
-/
namespace Storyboard

open Files (Disk Location Path)

/-! ## Steps -/

namespace StepSource

/-- A value holds the steps of a source: extracted ones are recorded one by one, and
those of a manifest are the value itself. -/
def ValuedAs : StepSource → Json → Prop
  | .extraction steps, j =>
    ∃ records, j = .array records ∧ Step.ListedBy steps records
  | .manifest steps, j => j = steps

variable {source : StepSource}

theorem Readable.valuedAs (h : source.Readable) : source.ValuedAs source.toJson.sorted := by
  cases source with
  | extraction steps =>
    refine ⟨steps.map fun s => s.toJson.sorted, ?_, Step.listedBy_sorted steps⟩
    rw [toJson, Json.sorted, Json.sortedItems_eq_map, List.map_map]
    rfl
  | manifest steps => exact Json.sorted_of_ordered steps h.2.1.1

theorem Readable.ne_null (h : source.Readable) : source.toJson.sorted ≠ .null := by
  cases source with
  | extraction steps =>
    rw [toJson, Json.sorted]
    simp
  | manifest steps =>
    rw [toJson, Json.sorted_of_ordered steps h.2.1.1]
    exact h.2.2

end StepSource

/-! ## Manifests -/

namespace Manifest

theorem ofJson?_eq_some {j : Json} {m : Manifest} :
    ofJson? j = some m ↔ textMember? "videoPath" j = some m.videoPath ∧
      textMember? "rawVideoPath" j = some m.rawVideoPath ∧ m.steps = stepsOf j := by
  obtain ⟨steps, videoPath, rawVideoPath⟩ := m
  unfold ofJson?
  cases textMember? "videoPath" j with
  | none => simp
  | some video =>
    cases textMember? "rawVideoPath" j with
    | none => simp
    | some raw =>
      simp only [Option.some.injEq, mk.injEq]
      constructor
      · rintro ⟨hsteps, hvideo, hraw⟩
        exact ⟨hvideo, hraw, hsteps.symm⟩
      · rintro ⟨hvideo, hraw, hsteps⟩
        exact ⟨hsteps.symm, hvideo, hraw⟩

theorem stepsOf_of_member {j steps : Json} (h : j.member? "steps" = some steps)
    (hne : steps ≠ .null) : stepsOf j = steps := by
  unfold stepsOf
  rw [h]
  cases steps <;> first | rfl | exact absurd rfl hne

theorem stepsOf_ne_null (j : Json) : stepsOf j ≠ .null := by
  unfold stepsOf
  split
  · nofun
  · nofun
  · next hnull _ => exact hnull

theorem fitsIn_stepsOf {members : List (String × Json)} (h : (Json.object members).FitsIn 0) :
    (stepsOf (.object members)).FitsIn 1 := by
  have hempty : (Json.array []).FitsIn 1 := Json.fitsIn_array (by decide) nofun
  unfold stepsOf
  split
  · exact hempty
  · exact hempty
  · next hmember => exact h.member hmember

theorem readable_of_load {d : Disk} {path : Path} {m : Manifest}
    (h : (load d path).outcome = .ok (some m)) (hwords : m.steps.InWords) :
    (StepSource.manifest m.steps).Readable := by
  obtain ⟨bytes, -, hbytes⟩ := load_eq_some.mp h
  obtain ⟨members, hread, hm⟩ := ofBytes_eq_ok.mp hbytes
  obtain ⟨-, -, hsteps⟩ := ofJson?_eq_some.mp hm
  refine ⟨hwords, ?_, ?_⟩
  · rw [hsteps]
    exact fitsIn_stepsOf (Json.fitsIn_of_ofBytes? hread)
  · rw [hsteps]
    exact stepsOf_ne_null _

theorem textMember?_of_lookup {members : List (String × Json)} {key : String}
    {value : Option String} (h : members.lookup key = value.map .text) :
    textMember? key (.object members) = some value := by
  unfold textMember? Json.member?
  cases value <;> simp [h]

end Manifest

/-! ## Artifacts -/

namespace Artifact

/-- The artifacts that a run can build: from extracted steps or from a manifest that
was loaded, with any videos offered afterwards. -/
inductive Built : Artifact → Prop
  | extraction (scenarioId title : String) (steps : List Step) (h : ∀ s ∈ steps, s.TimesFit) :
      Built (ofExtraction scenarioId title steps)
  | manifest (scenarioId title : String) {d : Disk} {path : Path} {m : Manifest}
      (h : (Manifest.load d path).outcome = .ok (some m)) (hwords : m.steps.InWords) :
      Built (ofManifest scenarioId title m)
  | backfill (d : Disk) (candidate : Option String) {a : Artifact} (h : Built a) :
      Built (a.backfill d candidate).1

variable {a : Artifact}

theorem Built.readable (h : a.Built) : a.steps.Readable := by
  induction h with
  | extraction scenarioId title steps h => exact h
  | manifest scenarioId title h hwords => exact Manifest.readable_of_load h hwords
  | @backfill d candidate a _ ih =>
    rw [(a.backfill_eq d candidate).2.2]
    exact ih

theorem exists_sorted_eq (a : Artifact) :
    ∃ members, a.toJson.sorted = .object members ∧
      members.lookup "steps" = some a.steps.toJson.sorted ∧
      members.lookup "videoPath" = a.videoPath.map .text ∧
      members.lookup "rawVideoPath" = a.rawVideoPath.map .text := by
  refine ⟨_, rfl, ?_⟩
  simp only [Json.lookup_sortedMembers, List.reverse_append, List.reverse_cons, List.nil_append,
    List.cons_append, List.lookup_append, Step.reverse_optionalMember, Step.lookup_optionalMember,
    List.lookup_cons_ite, List.lookup_nil]
  simp [Function.comp_def]

theorem manifest_ofBytes (h : a.steps.Readable) (path : Path) :
    ∃ m, Manifest.ofBytes path a.bytes = .ok m ∧ a.steps.ValuedAs m.steps ∧
      m.videoPath = a.videoPath ∧ m.rawVideoPath = a.rawVideoPath := by
  obtain ⟨members, hsorted, hsteps, hvideo, hraw⟩ := a.exists_sorted_eq
  have hread : Json.ofBytes? a.bytes = some (.object members) := by
    rw [← hsorted]
    exact ofBytes?_bytes h
  refine ⟨⟨a.steps.toJson.sorted, a.videoPath, a.rawVideoPath⟩, ?_, h.valuedAs, rfl, rfl⟩
  refine Manifest.ofBytes_eq_ok.mpr ⟨members, hread, Manifest.ofJson?_eq_some.mpr ⟨?_, ?_, ?_⟩⟩
  · exact Manifest.textMember?_of_lookup hvideo
  · exact Manifest.textMember?_of_lookup hraw
  · exact (Manifest.stepsOf_of_member (j := .object members) hsteps h.ne_null).symm

theorem publish_of_write {d : Disk} {p : Path} (h : (a.write d p).2.outcome = .ok ()) :
    (d.publish p a.bytes).2 = .ok () ∧ (a.write d p).1 = (d.publish p a.bytes).1 := by
  unfold write at h ⊢
  rcases hpublish : d.publish p a.bytes with ⟨d', e | done⟩
  · simp [hpublish, Logged.fail] at h
  · exact ⟨rfl, rfl⟩

/-- A written artifact is loaded as a manifest with its steps and video paths, as long
as its path does not lead through a link that the file has replaced; then the path
leads nowhere. Its file is never too deep to be read. -/
theorem load_of_write {d : Disk} {p : Path} (ha : a.Built)
    (hwrite : (a.write d p).2.outcome = .ok ()) :
    a.toJson.depth ≤ Json.depthLimit ∧ ∃ place, d.destination? p = some place ∧
      ((d.prepared p).NamesWithout p place →
        ∃ m, (Manifest.load (a.write d p).1 p).outcome = .ok (some m) ∧
          a.steps.ValuedAs m.steps ∧ m.videoPath = a.videoPath ∧ m.rawVideoPath = a.rawVideoPath) ∧
      (¬(d.prepared p).NamesWithout p place →
        (Manifest.load (a.write d p).1 p).outcome = .ok none) := by
  obtain ⟨hpublish, hdisk⟩ := publish_of_write hwrite
  refine ⟨depth_of_readable ha.readable, ?_⟩
  obtain ⟨place, hplace⟩ : ∃ place, d.destination? p = some place := by
    rcases d.publish_cases p a.bytes with ⟨e, he, -⟩ | ⟨place, -, hplace, -⟩
    · rw [hpublish] at he
      cases he
    · exact ⟨place, hplace⟩
  obtain ⟨hslash, -, loc, s, hnames, rfl⟩ := Disk.names_of_publish hpublish hplace
  have hholding := Disk.holding_publish hpublish hplace
  refine ⟨loc ++ [s], hplace, fun hwithout => ?_, fun hlost => ?_⟩
  · have hlookup := hholding.lookup hnames.short hslash hwithout
    obtain ⟨m, hm, hfields⟩ := manifest_ofBytes ha.readable p
    refine ⟨m, Manifest.load_eq_some.mpr ⟨a.bytes, ?_, hm⟩, hfields⟩
    rw [hdisk, Disk.readBytes, hlookup]
    rfl
  · have habsent : (a.write d p).1.pathExists p = false := by
      rw [hdisk, Disk.pathExists]
      cases hlookup : (d.publish p a.bytes).1.lookup p with
      | error f => rfl
      | ok found => exact absurd (hholding.namesWithout hnames hslash hlookup) hlost
    simp [Manifest.load, habsent]

/-- A manifest with a large number, a key that is not ASCII and an empty video path,
written through a link into a new directory after a video was offered. -/
theorem load_of_write_offered :
    let steps : Json := .array [.object [("a", .number (.integer 0xFFFFFFFFFFFFFFFF)),
      ("é", .array [.null, .number (.integer (-0x8000000000000000))])]]
    let j : Json := .object [("steps", steps), ("videoPath", .text "")]
    let d : Disk :=
      { entries := [(["m.json"], .file j.pretty.toUTF8), (["l"], .link "d"), (["d"], .directory)]
        here := [] }
    let a := ((ofManifest "s" "t" ⟨steps, some "", none⟩).backfill d (some "/d")).1
    a.Built ∧ (a.write d "/l/new/out.json").2.outcome = .ok () ∧
      ∃ m, (Manifest.load (a.write d "/l/new/out.json").1 "/l/new/out.json").outcome =
          .ok (some m) ∧
        m.steps = steps ∧ m.videoPath = some "/d" ∧ m.rawVideoPath = some "/d" := by
  intro steps j d a
  have hwords : steps.InWords := by
    simp [steps, Json.InWords, Json.InWordsItems, Json.InWordsMembers, Json.Number.InWord,
      Number.Word.least, Number.Word.unsignedCount]
  have hordered : j.Ordered := by
    simp only [j, steps, Json.Ordered, Json.OrderedItems, Json.OrderedMembers, Json.KeysIncrease,
      List.pairwise_pair, and_true]
    exact ⟨by decide, by decide⟩
  have hread : Json.ofBytes? j.pretty.toUTF8 = some j := by
    rw [Json.ofBytes?_pretty (by simp [j, Json.InWords, Json.InWordsMembers, hwords]) (by decide),
      Json.sorted_of_ordered j hordered]
  have hload : (Manifest.load d "/m.json").outcome = .ok (some ⟨steps, some "", none⟩) :=
    Manifest.load_eq_some.mpr ⟨j.pretty.toUTF8, by decide +kernel,
      Manifest.ofBytes_eq_ok.mpr ⟨_, hread, rfl⟩⟩
  have ha : a.Built := .backfill d (some "/d") (.manifest "s" "t" hload hwords)
  have hwrite : (a.write d "/l/new/out.json").2.outcome = .ok () := by decide +kernel
  have hplace : d.destination? "/l/new/out.json" =
      some (["d", "new", "out.json"] : Location) := by
    decide +kernel
  have hnames : (d.prepared "/l/new/out.json").NamesWithout "/l/new/out.json"
      ["d", "new", "out.json"] := by
    unfold Disk.NamesWithout
    decide +kernel
  have hvideo : a.videoPath = some "/d" ∧ a.rawVideoPath = some "/d" := by decide +kernel
  obtain ⟨-, place, hplace', hloaded, -⟩ := load_of_write ha hwrite
  rw [hplace] at hplace'
  cases hplace'
  obtain ⟨m, hm, hsteps, hpath, hraw⟩ := hloaded hnames
  have hsource : a.steps = .manifest steps := (backfill_eq _ d (some "/d")).2.2
  rw [hsource] at hsteps
  exact ⟨ha, hwrite, m, hm, hsteps, hpath.trans hvideo.1, hraw.trans hvideo.2⟩

/-- A path that leads through a link and back to it is lost once the link is replaced. -/
theorem load_none_of_write_link :
    ∃ (a : Artifact) (d : Disk) (p : Path), a.Built ∧ (a.write d p).2.outcome = .ok () ∧
      (Manifest.load (a.write d p).1 p).outcome = .ok none := by
  let a := ofExtraction "s" "t" []
  let d : Disk := { entries := [(["d"], .directory), (["l"], .link "d")], here := [] }
  have habsent : (a.write d "/l/../l").1.pathExists "/l/../l" = false := by decide +kernel
  refine ⟨a, d, "/l/../l", .extraction "s" "t" [] nofun, by decide +kernel, ?_⟩
  simp [Manifest.load, habsent]

end Artifact
end Storyboard
