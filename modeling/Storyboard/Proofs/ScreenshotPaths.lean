import Storyboard.Proofs.Extraction
import Storyboard.Proofs.ShownBytes

/-! # Screenshots of steps

The screenshot of a step is expected in one directory, under a name that is made of the
identifier of the step. An identifier that is an absolute path starts anew and leaves
this directory; then two steps may even share a screenshot.
-/
namespace Storyboard

open Files (Disk Path)

namespace Locations

variable (l : Locations) (id : String)

def imageStem : String :=
  if Path.isAbsolute id then id else l.screenshotsDir.shown ++ "/" ++ id

theorem endsInSlash_screenshotsDir : l.screenshotsDir.endsInSlash = false := by
  have hrelative : Path.isAbsolute "screenshots" = false := by decide
  have hlast : (Text.utf8 "screenshots").getLast? = some 0x73 := by decide
  unfold screenshotsDir Path.join
  rw [hrelative, if_neg Bool.false_ne_true]
  split <;> simp [Path.endsInSlash, List.getLast?_append, List.getLast?_cons, hlast, Files.slash]

theorem screenshotsDir_ne_empty : l.screenshotsDir.bytes.isEmpty = false := by
  have hrelative : Path.isAbsolute "screenshots" = false := by decide
  have hfull : Text.utf8 "screenshots" ≠ [] := by decide
  unfold screenshotsDir Path.join
  rw [hrelative, if_neg Bool.false_ne_true]
  split <;> simp [hfull]

theorem isAbsolute_imageName : Path.isAbsolute (id ++ ".png") = Path.isAbsolute id := by
  have hext : (Text.utf8 ".png").head? = some 0x2E := by decide
  unfold Path.isAbsolute
  rw [Text.utf8_append]
  cases Text.utf8 id with
  | nil => simp [hext, Files.slash]
  | cons b bs => rfl

theorem shown_screenshot : (l.screenshot id).shown = l.imageStem id ++ ".png" := by
  unfold screenshot Path.join imageStem
  rw [isAbsolute_imageName]
  split
  · exact Text.shown_utf8 _
  · rw [l.endsInSlash_screenshotsDir, l.screenshotsDir_ne_empty, Bool.or_self,
      if_neg Bool.false_ne_true, Path.shown, Files.slash, Text.shown_append_slash, Text.shown_utf8]
    simp only [String.append_assoc]
    rfl

/-! ## Below the screenshots -/

/-- A text starts with the directory of the screenshots and a slash. -/
def UnderScreenshots (text : String) : Prop := ∃ rest, text = l.screenshotsDir.shown ++ "/" ++ rest

/-- An extension has no slash, so it does not help to get below the screenshots. -/
theorem underScreenshots_append_iff :
    l.UnderScreenshots (id ++ ".png") ↔ l.UnderScreenshots id := by
  constructor
  · rintro ⟨rest, h⟩
    have hlist : (l.screenshotsDir.shown.toList ++ ['/']) ++ rest.toList =
        id.toList ++ ".png".toList := by
      have := congrArg String.toList h
      simpa [String.toList_append] using this.symm
    rcases List.append_eq_append_iff.mp hlist with ⟨more, hid, -⟩ | ⟨more, hdir, hext⟩
    · refine ⟨String.ofList more, String.toList_inj.mp ?_⟩
      simpa [String.toList_append] using hid
    · rcases List.eq_nil_or_concat more with rfl | ⟨front, last, rfl⟩
      · refine ⟨"", String.toList_inj.mp ?_⟩
        simpa [String.toList_append] using hdir.symm
      · -- The last character of the directory would be one of the extension.
        have hslash : last = '/' := by
          rw [List.concat_eq_append, ← List.append_assoc] at hdir
          exact (List.singleton_inj.mp (List.append_inj' hdir rfl).2).symm
        have hmem : '/' ∈ ".png".toList := by simp [hext, hslash]
        exact absurd hmem (by decide)
  · rintro ⟨rest, rfl⟩
    exact ⟨rest ++ ".png", String.append_assoc⟩

theorem isAbsolute_text_iff {s : String} :
    Path.isAbsolute s = true ↔ ∃ cs, s.toList = '/' :: cs := by
  have hslash : String.utf8EncodeChar '/' = [Files.slash] := by decide
  unfold Path.isAbsolute Text.utf8
  cases hs : s.toList with
  | nil => simp
  | cons c cs =>
    rw [List.flatMap_cons]
    constructor
    · intro h
      cases hbytes : String.utf8EncodeChar c with
      | nil => exact absurd hbytes String.utf8EncodeChar_ne_nil
      | cons b bs =>
        have hb : b = Files.slash := by simpa [hbytes] using h
        have hmem : Files.slash ∈ String.utf8EncodeChar c := by simp [hbytes, hb]
        rw [Text.eq_of_mem_encode hslash (by decide) hmem]
        exact ⟨cs, rfl⟩
    · rintro ⟨_, hc⟩
      cases hc
      simp [hslash]

theorem toList_shown {p : Path} (h : p.isAbsolute = true) : ∃ cs, p.shown.toList = '/' :: cs := by
  obtain ⟨bs, hbs⟩ := Path.exists_bytes_of_isAbsolute h
  have hfirst : Text.charsFrom 0 (Files.slash :: bs) = '/' :: Text.charsFrom 0 bs :=
    Text.charsFrom_encode '/' bs
  rw [Path.shown, Text.shown, hbs, hfirst, String.toList_ofList]
  exact ⟨_, rfl⟩

theorem isAbsolute_of_underScreenshots {l : Locations} {id : String}
    (hdir : l.outputDir.isAbsolute = true) (h : l.UnderScreenshots id) :
    Path.isAbsolute id = true := by
  obtain ⟨rest, rfl⟩ := h
  have habsolute : l.screenshotsDir.isAbsolute = true := Path.isAbsolute_join hdir _
  obtain ⟨cs, hcs⟩ := toList_shown habsolute
  rw [isAbsolute_text_iff, String.toList_append, String.toList_append, hcs]
  exact ⟨_, rfl⟩

theorem isAbsolute_outputDir {d : Disk} {xml dir json : Path} {manifest : Option Path}
    {l : Locations} (h : resolve d xml dir json manifest = .ok l) :
    l.outputDir.isAbsolute = true := by
  obtain ⟨-, hdir, -⟩ := resolve_eq_ok_iff.mp h
  exact Disk.isAbsolute_of_resolve hdir

theorem imageStem_of_relative (h : Path.isAbsolute id = false) :
    l.imageStem id = l.screenshotsDir.shown ++ "/" ++ id := by
  rw [imageStem, h, if_neg Bool.false_ne_true]

theorem imageStem_of_absolute (h : Path.isAbsolute id = true) : l.imageStem id = id := if_pos h

theorem ne_below_screenshots : id ≠ l.screenshotsDir.shown ++ "/" ++ id := by
  intro h
  have hlength := congrArg (List.length ∘ String.toList) h
  simp at hlength
  omega

theorem imageStem_eq_iff : l.imageStem id = l.screenshotsDir.shown ++ "/" ++ id ↔
    Path.isAbsolute id = false := by
  constructor
  · intro h
    apply Bool.eq_false_iff.mpr
    intro habsolute
    rw [l.imageStem_of_absolute id habsolute] at h
    exact l.ne_below_screenshots id h
  · exact l.imageStem_of_relative id

theorem underScreenshots_imageStem_iff :
    l.UnderScreenshots (l.imageStem id) ↔ Path.isAbsolute id = false ∨ l.UnderScreenshots id := by
  cases hid : Path.isAbsolute id with
  | false =>
    rw [l.imageStem_of_relative id hid]
    exact ⟨fun _ => Or.inl rfl, fun _ => ⟨id, rfl⟩⟩
  | true =>
    rw [l.imageStem_of_absolute id hid]
    simp

/-- Two identifiers share a path if one of them is the path of the other. -/
theorem imageStem_inj_iff {l : Locations} (hdir : l.outputDir.isAbsolute = true) {id id' : String}
    (hne : id ≠ id') :
    l.imageStem id = l.imageStem id' ↔
      (Path.isAbsolute id' = false ∧ id = l.screenshotsDir.shown ++ "/" ++ id') ∨
        (Path.isAbsolute id = false ∧ id' = l.screenshotsDir.shown ++ "/" ++ id) := by
  have habsolute : ∀ x y, y = l.screenshotsDir.shown ++ "/" ++ x → Path.isAbsolute y = true :=
    fun x y hy => isAbsolute_of_underScreenshots hdir ⟨x, hy⟩
  constructor
  · intro h
    cases hid : Path.isAbsolute id with
    | false =>
      rw [l.imageStem_of_relative id hid] at h
      cases hid' : Path.isAbsolute id' with
      | false =>
        rw [l.imageStem_of_relative id' hid', String.append_right_inj] at h
        exact absurd h hne
      | true =>
        rw [l.imageStem_of_absolute id' hid'] at h
        exact Or.inr ⟨rfl, h.symm⟩
    | true =>
      rw [l.imageStem_of_absolute id hid] at h
      cases hid' : Path.isAbsolute id' with
      | false =>
        rw [l.imageStem_of_relative id' hid'] at h
        exact Or.inl ⟨rfl, h⟩
      | true =>
        rw [l.imageStem_of_absolute id' hid'] at h
        exact absurd h hne
  · rintro (⟨hid', h⟩ | ⟨hid, h⟩)
    · rw [l.imageStem_of_relative id' hid', l.imageStem_of_absolute id (habsolute _ _ h), h]
    · rw [l.imageStem_of_relative id hid, l.imageStem_of_absolute id' (habsolute _ _ h), h]

end Locations

namespace Step

variable {zone : Time.Zone} {l : Locations} {ks : List Keyword} {s : Step}

theorem imagePath_of_mem (h : s ∈ extract zone l ks) :
    s.imagePath = l.imageStem s.id ++ ".png" := by
  rw [extract, extractFrom_eq_mapIdx] at h
  obtain ⟨i, hi, rfl⟩ := List.mem_mapIdx.mp h
  exact l.shown_screenshot _

/-- The image of a step lies in the layout exactly if its identifier is no absolute path,
and else at the identifier itself. Such an image is below the screenshots only if the
identifier is, and it is that of another step only if this step has the rest of the
identifier for its own. -/
theorem imagePath_layout {d : Disk} {xml dir json : Path} {manifest : Option Path}
    (hl : Locations.resolve d xml dir json manifest = .ok l) (zone : Time.Zone)
    (ks : List Keyword) :
    (∀ s ∈ extract zone l ks,
      (s.imagePath = l.screenshotsDir.shown ++ "/" ++ s.id ++ ".png" ↔
        Path.isAbsolute s.id = false) ∧
      (Path.isAbsolute s.id = true → s.imagePath = s.id ++ ".png") ∧
      (l.UnderScreenshots s.imagePath ↔
        Path.isAbsolute s.id = false ∨ l.UnderScreenshots s.id)) ∧
    ∀ s ∈ extract zone l ks, ∀ s' ∈ extract zone l ks, s.id ≠ s'.id →
      (s.imagePath = s'.imagePath ↔
        (Path.isAbsolute s'.id = false ∧ s.id = l.screenshotsDir.shown ++ "/" ++ s'.id) ∨
          (Path.isAbsolute s.id = false ∧ s'.id = l.screenshotsDir.shown ++ "/" ++ s.id)) := by
  have hdir := Locations.isAbsolute_outputDir hl
  constructor
  · intro s hs
    rw [imagePath_of_mem hs, String.append_left_inj, l.imageStem_eq_iff,
      l.underScreenshots_append_iff, l.underScreenshots_imageStem_iff]
    refine ⟨Iff.rfl, fun habsolute => ?_, Iff.rfl⟩
    rw [l.imageStem_of_absolute s.id habsolute]
  · intro s hs s' hs' hne
    rw [imagePath_of_mem hs, imagePath_of_mem hs', String.append_left_inj,
      Locations.imageStem_inj_iff hdir hne]

/-- A step outside of the screenshots, and a step that shares the screenshot of another. -/
theorem imagePath_layout_absolute_ids :
    let l : Locations := ⟨"/x", "/r", "/x", "/r/unity-manifest.json"⟩
    let ks := ["a", "/r/screenshots/a", "/abs"].map fun id =>
      Keyword.mk "Doc Web Step" "PASS" [id] none 0
    Locations.resolve { entries := [], here := [] } "/x" "/r" "/x" none = .ok l ∧
      ∃ a ∈ extract .utc l ks, ∃ b ∈ extract .utc l ks, ∃ c ∈ extract .utc l ks,
        (a.id = "a" ∧ a.imagePath = "/r/screenshots/a.png") ∧
        (b.id = "/r/screenshots/a" ∧ b.imagePath = a.imagePath) ∧
        (c.id = "/abs" ∧ ¬ l.UnderScreenshots c.imagePath) := by
  intro l ks
  have hl : Locations.resolve { entries := [], here := [] } "/x" "/r" "/x" none = .ok l := by
    decide +kernel
  have hdir : l.screenshotsDir.shown = "/r/screenshots" := by decide +kernel
  have hids : (extract .utc l ks).map (·.id) = ["a", "/r/screenshots/a", "/abs"] := by
    decide +kernel
  have hstep : ∀ id ∈ (extract .utc l ks).map (·.id), ∃ s ∈ extract .utc l ks, s.id = id :=
    fun id h => List.mem_map.mp h
  rw [hids] at hstep
  obtain ⟨a, ha, hida⟩ := hstep "a" (by decide)
  obtain ⟨b, hb, hidb⟩ := hstep "/r/screenshots/a" (by decide)
  obtain ⟨c, hc, hidc⟩ := hstep "/abs" (by decide)
  obtain ⟨hlayout, hshared⟩ := imagePath_layout hl .utc ks
  have hrelative : Path.isAbsolute a.id = false := by rw [hida]; decide
  refine ⟨hl, a, ha, b, hb, c, hc, ⟨hida, ?_⟩, ⟨hidb, ?_⟩, hidc, ?_⟩
  · rw [(hlayout a ha).1.mpr hrelative, hdir, hida]
    decide
  · refine (hshared b hb a ha ?_).mpr (Or.inl ⟨hrelative, ?_⟩)
    · rw [hida, hidb]
      decide
    · rw [hidb, hdir, hida]
      decide
  · rw [(hlayout c hc).2.2, hidc]
    rintro (h | ⟨rest, h⟩)
    · exact absurd h (by decide)
    · -- The identifier is shorter than the directory.
      have hlength := congrArg (List.length ∘ String.toList) h
      simp [hdir] at hlength

end Step
end Storyboard
