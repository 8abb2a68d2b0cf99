import Mathlib.Control.Monad.Basic
import Storyboard.Proofs.JsonRoundTrip
import Storyboard.Proofs.ResolvedPaths
import Storyboard.Proofs.RunFrame

/-! # The file that a run reads

A run reads a result tree and writes an artifact. The two are never the same text,
for a document starts with a tag and an artifact with a brace; so the file of the
result tree is kept exactly if it is not the destination of a run that succeeds.
-/
namespace Storyboard

open Files (Disk Entry Location Volume)

/-! ## No artifact is a document -/

namespace Xml

theorem readToken_of_ne {c : Char} (cs : List Char) (h : c ≠ '<') :
    readToken (c :: cs) = readChars (c :: cs) := by
  unfold readToken
  split <;> simp_all

theorem tokens?_of_ne {c : Char} {cs : List Char} {ts : List Token} (h : c ≠ '<')
    (hts : tokens? (c :: cs) = some ts) :
    ∃ us, ts = .chars ((c :: cs).takeWhile (· != '<')) :: us ∧
      tokens? ((c :: cs).dropWhile (· != '<')) = some us := by
  rw [tokens?, if_neg (by simp)] at hts
  split at hts
  · cases hts
  · next t rest hread =>
    obtain ⟨us, hus, rfl⟩ := Option.map_eq_some_iff.mp hts
    rw [readToken_of_ne cs h, readChars] at hread
    split at hread
    · cases hread
      exact ⟨us, rfl, hus⟩
    · cases hread

theorem body?_of_ne {c : Char} (cs : List Char) (htag : c ≠ '<') (hmark : c ≠ Char.ofNat 0xFEFF) :
    body? (c :: cs) = some (c :: cs) := by
  have hplain : ("<?xml ".toList.isPrefixOf (c :: cs)) = false := by
    simp [List.isPrefixOf, Ne.symm htag]
  have hhead : ((c :: cs).head? == some (Char.ofNat 0xFEFF)) = false := by
    simpa using hmark
  unfold body?
  rw [hhead]
  simp only [Bool.false_eq_true, if_false, hplain]

theorem read?_eq_none {text : String} {c : Char} {cs : List Char} (h : text.toList = c :: cs)
    (htag : c ≠ '<') (hspace : isSpace c = false) (hmark : c ≠ Char.ofNat 0xFEFF) :
    read? text = none := by
  unfold read?
  rw [h, body?_of_ne cs htag hmark]
  cases hts : tokens? (c :: cs) with
  | none => simp [hts]
  | some ts =>
    obtain ⟨us, rfl, -⟩ := tokens?_of_ne htag hts
    simp [hts, Builder.run, Builder.step, Builder.start, htag, hspace]

end Xml

theorem Json.toList_pretty_object (members : List (String × Json)) :
    ∃ cs, (Json.object members).pretty.toList = '\x7b' :: cs := by
  rw [pretty, String.toList_ofList]
  cases members with
  | nil => exact ⟨_, rfl⟩
  | cons member members => exact ⟨_, rfl⟩

/-- An artifact is no result tree. -/
theorem RunResult.read?_artifact (zone : Time.Zone) (a : Artifact) :
    RunResult.read? zone a.toJson.pretty = none := by
  obtain ⟨cs, hcs⟩ := Json.toList_pretty_object
    ([("scenarioId", .text a.scenarioId), ("title", .text a.title), ("steps", a.steps.toJson)] ++
      Step.optionalMember "videoPath" (a.videoPath.map .text) ++
      Step.optionalMember "rawVideoPath" (a.rawVideoPath.map .text))
  have hxml : Xml.read? a.toJson.pretty = none :=
    Xml.read?_eq_none hcs (by decide) (by decide) (by decide)
  rw [read?, hxml, Option.map_none]

/-! ## The result tree on the disk -/

namespace Conversion

variable {v : Volume} {zone : Time.Zone} {args : Arguments}

theorem ne_bytes_of_plan {loc : Location} {e : Entry}
    (hxml : v.lookup args.outputXml = .ok (loc, e)) {p : Plan}
    (hplan : (plan v.toDisk zone args).outcome = .ok p) (a : Artifact) : e ≠ .file a.bytes := by
  rintro rfl
  obtain ⟨l, result, manifest, b, hl, hresult, -, -, -⟩ := plan_eq_ok hplan
  have hpath := ((Disk.resolve_eq_ok_iff hxml).mp (Locations.resolve_eq_ok_iff.mp hl).1).2
  rw [hpath] at hresult
  obtain ⟨text, htext, hread⟩ := RunResult.load_eq_ok hresult
  obtain ⟨content, hbytes, hdecode⟩ := Disk.readText_eq_ok htext
  obtain ⟨x, e, hlookup, he⟩ := Disk.readBytes_eq_ok_iff.mp hbytes
  -- The path that was resolved leads back to the file, so its content is what was read.
  cases v.proper.eq_of_lookup_toPath (Disk.entryAt_of_lookup hxml) (by simp) hlookup
  cases he
  rw [Artifact.bytes, Text.fromUTF8?_toUTF8] at hdecode
  cases hdecode
  rw [RunResult.read?_artifact] at hread
  cases hread

/-- What holds the result tree is as before exactly if it was not the place at which a run
published its artifact. -/
theorem entryAt_result_iff {loc : Location} {e : Entry}
    (hxml : v.lookup args.outputXml = .ok (loc, e)) :
    (run v.toDisk zone args).1.entryAt loc = some e ↔
      ¬((run v.toDisk zone args).2.outcome = .ok () ∧
        ∃ q, v.resolve args.artifactsJson = .ok q ∧ v.destination? q = some loc) := by
  have hold := Disk.entryAt_of_lookup hxml
  cases hplan : (plan v.toDisk zone args).outcome with
  | error e =>
    obtain ⟨hdisk, houtcome⟩ := run_of_plan_error hplan
    simp [hdisk, houtcome, hold]
  | ok p =>
    have hresolve := resolve_of_plan hplan
    rcases run_cases hplan with ⟨f, hfail, hdisk⟩ | ⟨place, hok, hplace, hdisk⟩
    · have hkept := Disk.entryAt_prepared_of_some (p := p.destination) hold
      simp [hfail, hdisk, hkept]
    · by_cases hloc : loc = place
      · have hne := ne_bytes_of_plan hxml hplan p.artifact
        simp [hdisk, hok, hresolve, hplace, hloc, Ne.symm hne]
      · have hkept := Disk.entryAt_prepared_of_some (p := p.destination) hold
        simp [hdisk, hok, hresolve, hplace, hloc, Ne.symm hloc, hkept]

/-- Once the directory in front of it is made, a path may lead back to the result
tree. -/
theorem run_replaces_result :
    let d : Disk := { entries := [(["run.xml"], .file "<r/>".toUTF8)], here := [] }
    let args : Arguments := ⟨"/run.xml", "/", "/new/../run.xml", none, none, none⟩
    d.WellFormed ∧ d.lookup args.outputXml = .ok (["run.xml"], .file "<r/>".toUTF8) ∧
      (run d .utc args).2.outcome = .ok () ∧
      (run d .utc args).1.entryAt ["run.xml"] ≠ some (.file "<r/>".toUTF8) := by
  intro d args
  have hd : d.WellFormed := by decide +kernel
  have hxml : d.lookup args.outputXml = .ok (["run.xml"], .file "<r/>".toUTF8) := by
    decide +kernel
  have hok : (run d .utc args).2.outcome = .ok () := by decide +kernel
  have hpath : d.resolve args.artifactsJson = .ok "/new/../run.xml" := by decide +kernel
  have hplace : d.destination? "/new/../run.xml" = some (["run.xml"] : Location) := by
    decide +kernel
  obtain ⟨v, hv⟩ : ∃ v : Volume, v.toDisk = d := ⟨⟨d, hd⟩, rfl⟩
  refine ⟨hd, hxml, hok, ?_⟩
  rw [← hv] at hxml hok hpath hplace ⊢
  exact fun hkept => (entryAt_result_iff hxml).mp hkept ⟨hok, _, hpath, hplace⟩

end Conversion
end Storyboard
