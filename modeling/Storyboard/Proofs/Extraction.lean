import Mathlib.Control.Monad.Basic
import Mathlib.Data.List.Basic
import Storyboard.Proofs.ArtifactRecord
import Storyboard.Proofs.KeywordArguments
import Storyboard.Proofs.RunFrame
import Storyboard.Proofs.StampBounds

/-! # Extracted documentation

The artifact of a run without a manifest tells what the result tree documents: one
step for each keyword below the root that documents a passed step, in the order of
the closing tags. The steps are numbered along this order, at whatever depth their
elements stand.
-/
namespace Storyboard

open Files (Disk Location Path)
open Xml (Node)

/-! ## The tags of a document -/

namespace Xml

inductive Tag
  | opening (e : Node)
  | closing (e : Node)

def Tag.closed? : Tag → Option Node
  | .opening _ => none
  | .closing e => some e

mutual

def Node.tags : Node → List Tag
  | .element name attributes children =>
    .opening (.element name attributes children) ::
      (tagsOf children ++ [.closing (.element name attributes children)])
  | _ => []

def Node.tagsOf : List Node → List Tag
  | [] => []
  | n :: rest => n.tags ++ tagsOf rest

end

/-- The elements below a node in the order of their closing tags. -/
def Node.closedBelow (n : Node) : List Node := (Node.tagsOf n.children).filterMap Tag.closed?

theorem Node.filterMap_closed?_tags (n : Node) :
    n.tags.filterMap Tag.closed? = n.closedBelow ++ if n.isElement then [n] else [] := by
  cases n with
  | element name attributes children =>
    rw [Node.tags, List.filterMap_cons_none rfl, List.filterMap_append]
    rfl
  | text content => rfl
  | comment => rfl
  | instruction => rfl

end Xml

theorem RunResult.filter_isNamed (base : String) (n : Node) :
    (if n.isElement then [n] else []).filter (·.isNamed base) =
      if n.isNamed base then [n] else [] := by
  cases n with
  | element name attributes children => simp [Node.isElement, List.filter_cons]
  | text content => rfl
  | comment => rfl
  | instruction => rfl

mutual

theorem RunResult.keywordElements_eq (n : Node) :
    keywordElements n = n.closedBelow.filter (·.isNamed "kw") :=
  match n with
  | .element _ _ children => RunResult.keywordElementsOf_eq children
  | .text _ => rfl
  | .comment => rfl
  | .instruction => rfl

theorem RunResult.keywordElementsOf_eq (ns : List Node) :
    keywordElementsOf ns = ((Node.tagsOf ns).filterMap Xml.Tag.closed?).filter (·.isNamed "kw") :=
  match ns with
  | [] => rfl
  | n :: rest => by
    have hn := RunResult.keywordElements_eq n
    have hrest := RunResult.keywordElementsOf_eq rest
    rw [keywordElementsOf, hn, hrest, Node.tagsOf, List.filterMap_append, List.filter_append,
      Node.filterMap_closed?_tags, List.filter_append, RunResult.filter_isNamed]

end

/-! ## Documented steps -/

/-- An element records a passed keyword that documents a step. -/
def Xml.Node.DocumentsStep (e : Node) : Prop :=
  e.isNamed "kw" = true ∧ (e.child? "status").bind (·.attribute? "status") = some "PASS" ∧
    (e.attribute? "name" = some "Doc Web Step" ∨ e.attribute? "name" = some "Doc Desktop Step")

instance (e : Node) : Decidable e.DocumentsStep := by
  unfold Node.DocumentsStep
  infer_instance

/-- The elements below the root that document a step, in the order of their closing
tags. -/
def Xml.Node.documentation (root : Node) : List Node :=
  root.closedBelow.filter fun e => e.DocumentsStep

theorem Keyword.isDocumented_ofElement (zone : Time.Zone) {e : Node} (h : e.isNamed "kw" = true) :
    Step.isDocumented (Keyword.ofElement zone e) = decide e.DocumentsStep := by
  apply Bool.eq_iff_iff.mpr
  simp only [Step.isDocumented, Step.documentationKeywords, Keyword.ofElement, Bool.and_eq_true,
    beq_iff_eq, List.contains_cons, List.contains_nil, Bool.or_false, Bool.or_eq_true,
    decide_eq_true_eq, Node.DocumentsStep, h, true_and, Option.getD_eq_iff]
  simp

/-- The keywords that are extracted are those of the documentation. -/
theorem RunResult.filter_isDocumented (zone : Time.Zone) (root : Node) :
    (RunResult.ofTree zone root).keywords.filter Step.isDocumented =
      root.documentation.map (Keyword.ofElement zone) := by
  have hsame : ∀ e, (Step.isDocumented (Keyword.ofElement zone e) && e.isNamed "kw") =
      decide e.DocumentsStep := by
    intro e
    cases hkw : e.isNamed "kw" with
    | true => rw [Bool.and_true, Keyword.isDocumented_ofElement zone hkw]
    | false => simp [Node.DocumentsStep, hkw]
  rw [ofTree, keywordElements_eq, List.filter_map, List.filter_filter, Node.documentation]
  congr 1
  apply List.filter_congr
  intro e _
  exact hsame e

/-- Steps are numbered from one along the documented keywords. -/
theorem Step.extractFrom_eq_mapIdx (zone : Time.Zone) (l : Locations) (n : Nat)
    (ks : List Keyword) :
    extractFrom zone l n ks =
      (ks.filter isDocumented).mapIdx fun i k => ofKeyword zone l (n + i + 1) k := by
  induction ks generalizing n with
  | nil => rfl
  | cons k ks ih =>
    rw [extractFrom, List.filter_cons]
    split
    · rw [List.mapIdx_cons, ih]
      simp only [Nat.add_assoc, Nat.add_comm 1, Nat.add_zero]
    · exact ih n

theorem Step.extract_ofTree (zone : Time.Zone) (l : Locations) (root : Node) :
    extract zone l (RunResult.ofTree zone root).keywords =
      (root.documentation.map (Keyword.ofElement zone)).mapIdx
        fun i k => ofKeyword zone l (i + 1) k := by
  rw [extract, extractFrom_eq_mapIdx, RunResult.filter_isDocumented]
  simp only [Nat.zero_add]

theorem Step.endOf_eq_some_iff {start : Option Int} {elapsed t : Int} :
    endOf start elapsed = some t ↔ ∃ s, start = some s ∧ t = s + elapsed ∧
      Number.Word.least ≤ t ∧ t ≤ Number.Word.greatest := by
  cases start with
  | none => simp [endOf]
  | some s =>
    simp only [endOf, Option.some.injEq, exists_eq_left', Option.ite_none_right_eq_some,
      Number.Word.fits_iff]
    constructor
    · rintro ⟨hfits, rfl⟩
      exact ⟨rfl, hfits⟩
    · rintro ⟨rfl, hfits⟩
      exact ⟨hfits, rfl⟩

theorem Step.timesFit_ofKeyword (zone : Time.Zone) (l : Locations) (n : Nat) (k : Keyword) :
    (ofKeyword zone l n k).TimesFit := by
  constructor
  · intro t ht
    exact Time.fits_stamp? ht
  · intro t ht
    obtain ⟨-, -, -, hfits⟩ := endOf_eq_some_iff.mp ht
    exact Number.Word.fits_iff.mpr hfits

/-! ## What an artifact tells -/

/-- A text is the given one, or the other one if none is given or it is empty. -/
def Text.Given (given : Option String) (other s : String) : Prop :=
  given = some s ∧ s ≠ "" ∨ (given = none ∨ given = some "") ∧ s = other

theorem Text.given_getD_filter (given : Option String) (other : String) :
    Given given other ((given.filter fun s => !s.isEmpty).getD other) := by
  cases given with
  | none => exact Or.inr ⟨Or.inl rfl, rfl⟩
  | some s =>
    by_cases hs : s = ""
    · subst hs
      exact Or.inr ⟨Or.inr rfl, rfl⟩
    · have hkept : (some s).filter (fun s => !s.isEmpty) = some s := by simp [hs]
      rw [hkept]
      exact Or.inl ⟨rfl, hs⟩

theorem Text.eq_of_given {given : Option String} {other s : String} (h : Given given other s) :
    s = (given.filter fun t => !t.isEmpty).getD other := by
  rcases h with ⟨rfl, hs⟩ | ⟨rfl | rfl, rfl⟩
  · have hkept : (some s).filter (fun t => !t.isEmpty) = some s := by simp [hs]
    rw [hkept, Option.getD_some]
  · rfl
  · rfl

/-- An entry tells the identifier, the title and the description that the arguments
of an element give to the step with a number. -/
def Xml.Node.ToldBy (e : Node) (number : Nat) (entry : Json) : Prop :=
  ∃ arguments id title, HoldArguments e.children arguments ∧
    entry.member? "id" = some (.text id) ∧ entry.member? "title" = some (.text title) ∧
    Text.Given arguments[0]? ("step-" ++ toString number) id ∧
    Text.Given arguments[1]? id title ∧
    ∀ v, entry.member? "description" = some v ↔
      ∃ s, v = .text s ∧ arguments[2]? = some s ∧ s ≠ ""

/-- A value tells the title of a result tree, the identifier of the scenario and the
documentation, one entry for each element and in the same order. -/
def RunResult.ToldBy (root : Node) (suiteId : Option String) (j : Json) : Prop :=
  ∃ title scenarioId entries, j.member? "title" = some (.text title) ∧
    j.member? "scenarioId" = some (.text scenarioId) ∧ j.member? "steps" = some (.array entries) ∧
    Text.Given ((root.child? "suite").bind (·.attribute? "name")) "Robot Suite" title ∧
    Text.Given suiteId (Slug.ofTitle title) scenarioId ∧
    entries.length = root.documentation.length ∧
    ∀ (n : Nat) (e : Node) (entry : Json), root.documentation[n]? = some e →
      entries[n]? = some entry → e.ToldBy (n + 1) entry

theorem Step.toldBy {zone : Time.Zone} {l : Locations} {n : Nat} {e : Node} {entry : Json}
    (h : (ofKeyword zone l n (Keyword.ofElement zone e)).RecordedBy entry) : e.ToldBy n entry := by
  obtain ⟨members, rfl, hmember⟩ := h
  have hid := hmember "id"
  have htitle := hmember "title"
  have hdescription := hmember "description"
  simp only [Step.member?, reduceIte, String.reduceEq] at hid htitle hdescription
  refine ⟨_, _, _, Keyword.holdArguments_argumentsOf e.children, hid, htitle,
    Text.given_getD_filter _ _, Text.given_getD_filter _ _, fun v => ?_⟩
  rw [Json.member?, hdescription]
  simp only [ofKeyword, argument?, Keyword.ofElement, Option.map_eq_some_iff,
    Option.filter_eq_some_iff, Bool.not_eq_true', String.isEmpty_eq_false_iff]
  constructor
  · rintro ⟨s, ⟨hs, hne⟩, rfl⟩
    exact ⟨s, rfl, hs, hne⟩
  · rintro ⟨s, rfl, hs, hne⟩
    exact ⟨s, ⟨hs, hne⟩, rfl⟩

theorem Artifact.toldBy {zone : Time.Zone} {l : Locations} {root : Node} {a : Artifact}
    {suiteId : Option String} {j : Json}
    (hid : a.scenarioId = Conversion.scenarioIdOf suiteId a.title)
    (htitle : a.title = Conversion.titleOf (RunResult.ofTree zone root))
    (hj : a.RecordedBy (Step.extract zone l (RunResult.ofTree zone root).keywords) j) :
    RunResult.ToldBy root suiteId j := by
  obtain ⟨members, records, rfl, hmember, hlength, hrecord⟩ := hj
  rw [Step.extract_ofTree] at hlength hrecord
  refine ⟨a.title, a.scenarioId, records, hmember "title", hmember "scenarioId", hmember "steps",
    ?_, ?_, by simpa using hlength, fun n e entry he hentry => ?_⟩
  · rw [htitle]
    exact Text.given_getD_filter _ _
  · rw [hid]
    exact Text.given_getD_filter _ _
  · have hstep : ((root.documentation.map (Keyword.ofElement zone)).mapIdx
        fun i k => Step.ofKeyword zone l (i + 1) k)[n]? =
          some (Step.ofKeyword zone l (n + 1) (Keyword.ofElement zone e)) := by
      simp [he]
    exact Step.toldBy (hrecord n _ entry hstep hentry)

/-! ## Runs without a manifest -/

theorem Artifact.backfill_eq (a : Artifact) (d : Disk) (candidate : Option String) :
    (a.backfill d candidate).1.scenarioId = a.scenarioId ∧
      (a.backfill d candidate).1.title = a.title ∧ (a.backfill d candidate).1.steps = a.steps := by
  unfold backfill
  split <;> exact ⟨rfl, rfl, rfl⟩

namespace Conversion

variable {d : Disk} {zone : Time.Zone} {args : Arguments}

theorem plan_of_no_manifest {p : Plan} {l : Locations}
    (hplan : (plan d zone args).outcome = .ok p)
    (hl : Locations.resolve d args.outputXml args.outputDir args.artifactsJson args.manifestPath =
      .ok l)
    (hmanifest : d.pathExists l.manifest = false) :
    p.destination = l.artifactsJson ∧ ∃ text root, d.readText l.outputXml = .ok text ∧
      Xml.read? text = some root ∧
      p.artifact.title = titleOf (RunResult.ofTree zone root) ∧
      p.artifact.scenarioId = scenarioIdOf args.suiteId p.artifact.title ∧
      p.artifact.Extracted (Step.extract zone l (RunResult.ofTree zone root).keywords) := by
  obtain ⟨l', result, manifest, a, hl', hresult, hload, hassemble, rfl⟩ := plan_eq_ok hplan
  rw [hl] at hl'
  cases hl'
  obtain ⟨text, htext, hread⟩ := RunResult.load_eq_ok hresult
  obtain ⟨root, hroot, rfl⟩ := Option.map_eq_some_iff.mp hread
  -- Without a manifest the steps come from the keywords.
  have hnone : manifest = none := by
    rw [Manifest.load, hmanifest] at hload
    exact (Except.ok.inj hload).symm
  subst hnone
  cases hassemble
  obtain ⟨hid, htitle, hsteps⟩ := Artifact.backfill_eq (.ofExtraction
    (scenarioIdOf args.suiteId (titleOf (RunResult.ofTree zone root)))
    (titleOf (RunResult.ofTree zone root))
    (Step.extract zone l (RunResult.ofTree zone root).keywords)) d args.videoPath
  refine ⟨rfl, text, root, htext, hroot, htitle, ?_, hsteps, ?_⟩
  · rw [htitle]
    exact hid
  · intro s hs
    rw [Step.extract, Step.extractFrom_eq_mapIdx] at hs
    obtain ⟨i, hi, rfl⟩ := List.mem_mapIdx.mp hs
    exact Step.timesFit_ofKeyword zone l _ _

/-- A run without a manifest leaves a file at its destination that tells the title,
the identifier and the documented steps of the result tree. -/
theorem run_tells_documentation {l : Locations} (hrun : (run d zone args).2.outcome = .ok ())
    (hl : Locations.resolve d args.outputXml args.outputDir args.artifactsJson args.manifestPath =
      .ok l)
    (hmanifest : d.pathExists l.manifest = false) :
    ∃ text root loc bytes j, d.readText l.outputXml = .ok text ∧ Xml.read? text = some root ∧
      d.destination? l.artifactsJson = some loc ∧
      (run d zone args).1.entryAt loc = some (.file bytes) ∧ Json.ofBytes? bytes = some j ∧
      RunResult.ToldBy root args.suiteId j := by
  cases hplan : (plan d zone args).outcome with
  | error e =>
    rw [(run_of_plan_error hplan).2] at hrun
    cases hrun
  | ok p =>
    obtain ⟨hdestination, text, root, htext, hroot, htitle, hid, hextracted⟩ :=
      plan_of_no_manifest hplan hl hmanifest
    obtain ⟨j, hj, hrecorded⟩ := Artifact.exists_recordedBy hextracted
    rcases run_cases hplan with ⟨f, hfail, -⟩ | ⟨loc, -, hloc, hdisk⟩
    · rw [hrun] at hfail
      cases hfail
    · refine ⟨text, root, loc, p.artifact.bytes, j, htext, hroot, ?_, ?_, hj, ?_⟩
      · rw [← hdestination, hloc]
      · rw [hdisk, if_pos rfl]
      · exact Artifact.toldBy hid htitle hrecorded

/-- A documented keyword inside another one ends before it and is told first. The outer
one holds its arguments in a list, the first of them empty. -/
theorem run_tells_nested_documentation :
    let xml := "<r><suite name='S'><kw name='Doc Web Step'><kw name='Doc Desktop Step'>" ++
      "<arg>in</arg><status status='PASS'/></kw><arguments><arg/><arg>Outer</arg><arg>why</arg>" ++
      "</arguments><status status='PASS'/></kw></suite></r>"
    let d : Disk := { entries := [(["run.xml"], .file xml.toUTF8)], here := [] }
    let args : Arguments := ⟨"/run.xml", "/", "/out.json", none, none, none⟩
    (run d .utc args).2.outcome = .ok () ∧ d.pathExists "/unity-manifest.json" = false ∧
      ∃ bytes j inner outer, (run d .utc args).1.entryAt ["out.json"] = some (.file bytes) ∧
        Json.ofBytes? bytes = some j ∧ j.member? "title" = some (.text "S") ∧
        j.member? "steps" = some (.array [inner, outer]) ∧
        inner.member? "id" = some (.text "in") ∧ inner.member? "title" = some (.text "in") ∧
        inner.member? "description" = none ∧ outer.member? "id" = some (.text "step-2") ∧
        outer.member? "title" = some (.text "Outer") ∧
        outer.member? "description" = some (.text "why") := by
  intro xml d args
  let l : Locations := ⟨"/run.xml", "/", "/out.json", "/unity-manifest.json"⟩
  have hrun : (run d .utc args).2.outcome = .ok () := by decide +kernel
  have hmanifest : d.pathExists l.manifest = false := by decide +kernel
  obtain ⟨text, root, loc, bytes, j, htext, hroot, hloc, hentry, hj, htold⟩ :=
    run_tells_documentation (l := l) hrun (by decide +kernel) hmanifest
  have hxml : d.readText "/run.xml" = .ok xml := by decide +kernel
  have hplace : d.destination? "/out.json" = some (["out.json"] : Location) := by
    decide +kernel
  rw [hxml] at htext
  cases htext
  rw [hplace] at hloc
  cases hloc
  have hsuite : (Xml.read? xml).map (fun root => (root.child? "suite").bind (·.attribute? "name")) =
      some (some "S") := by decide +kernel
  have harguments : (Xml.read? xml).map (fun root =>
      root.documentation.map fun e => Keyword.argumentsOf e.children) =
        some [["in"], ["", "Outer", "why"]] := by decide +kernel
  rw [hroot] at hsuite harguments
  obtain ⟨e, rest, hdocumentation, he, hrest⟩ :=
    List.map_eq_cons_iff.mp (Option.some.inj harguments)
  obtain ⟨e', others, rfl, he', hothers⟩ := List.map_eq_cons_iff.mp hrest
  cases List.map_eq_nil_iff.mp hothers
  obtain ⟨title, scenarioId, entries, htitle, -, hsteps, hgiven, -, hlength, htell⟩ := htold
  rw [hdocumentation] at hlength htell
  obtain ⟨inner, outer, rfl⟩ := List.length_eq_two.mp hlength
  obtain ⟨arguments, id, own, hhold, hid, hown, hgivenId, hgivenOwn, hdescription⟩ :=
    htell 0 e inner rfl rfl
  obtain ⟨arguments', id', own', hhold', hid', hown', hgivenId', hgivenOwn', hdescription'⟩ :=
    htell 1 e' outer rfl rfl
  have hargs := hhold.unique (Keyword.holdArguments_argumentsOf e.children)
  have hargs' := hhold'.unique (Keyword.holdArguments_argumentsOf e'.children)
  rw [he] at hargs
  rw [he'] at hargs'
  subst hargs hargs'
  have hname : (root.child? "suite").bind (·.attribute? "name") = some "S" :=
    Option.some.inj hsuite
  rw [hname] at hgiven
  cases Text.eq_of_given hgiven
  cases Text.eq_of_given hgivenId
  cases Text.eq_of_given hgivenOwn
  cases Text.eq_of_given hgivenId'
  cases Text.eq_of_given hgivenOwn'
  have hnone : inner.member? "description" = none := by
    rw [Option.eq_none_iff_forall_ne_some]
    intro v hv
    obtain ⟨s, -, hs, -⟩ := (hdescription v).mp hv
    cases hs
  have hsome := (hdescription' (.text "why")).mpr ⟨"why", rfl, rfl, by decide⟩
  exact ⟨hrun, hmanifest, bytes, j, inner, outer, hentry, hj, htitle, hsteps, hid, hown, hnone,
    hid', hown', hsome⟩

end Conversion
end Storyboard
