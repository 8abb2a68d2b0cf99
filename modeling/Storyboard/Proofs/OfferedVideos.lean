import Storyboard.Artifact

/-! # Videos that are offered one after the other

An artifact without a video takes the first offered path that leads somewhere. From then
on it has a video, and an artifact with a video turns down whatever it is offered. So in
a history of offers at most one is taken, and it is known which one.
-/
namespace Storyboard.Artifact

open Files (Disk)

variable {d : Disk} {a : Artifact} {cs : List (Option String)} {path : String}

/-! ## One offer -/

def isUsable (d : Disk) (candidate : Option String) : Bool :=
  candidate.any fun c : String => !c.isEmpty && d.pathExists c

def withVideo (a : Artifact) (path : String) : Artifact :=
  { a with videoPath := some path, rawVideoPath := some path }

theorem backfill_of_hasVideo (h : a.hasVideo = true) (candidate : Option String) :
    a.backfill d candidate = (a, false) := by
  cases candidate with
  | none => rfl
  | some c => by_cases hempty : c.isEmpty = true <;> simp [backfill, offer, hempty, h]

theorem backfill_of_not_isUsable {candidate : Option String} (h : isUsable d candidate = false) :
    a.backfill d candidate = (a, false) := by
  cases candidate with
  | none => rfl
  | some c =>
    by_cases hempty : c.isEmpty = true
    · simp [backfill, offer, hempty]
    · have hmissing : d.pathExists c = false := by simpa [isUsable, hempty] using h
      cases hvideo : a.hasVideo <;> simp [backfill, offer, hempty, hmissing, hvideo]

theorem backfill_of_isUsable (hvideo : a.hasVideo = false) (h : isUsable d (some path) = true) :
    a.backfill d (some path) = (a.withVideo path, true) := by
  obtain ⟨hempty, hexists⟩ : path.isEmpty = false ∧ d.pathExists path = true := by
    simpa [isUsable] using h
  simp [backfill, offer, withVideo, hempty, hexists, hvideo]

theorem hasVideo_withVideo (h : isUsable d (some path) = true) :
    (a.withVideo path).hasVideo = true := by
  obtain ⟨hempty, -⟩ : path.isEmpty = false ∧ d.pathExists path = true := by
    simpa [isUsable] using h
  simp [hasVideo, withVideo, hempty]

/-! ## A history of offers -/

/-- The artifact after candidates were offered in order, and the answer to each offer. -/
def backfillAll (d : Disk) (a : Artifact) : List (Option String) → Artifact × List Bool
  | [] => (a, [])
  | c :: cs =>
    let r := a.backfill d c
    let rest := backfillAll d r.1 cs
    (rest.1, r.2 :: rest.2)

theorem backfillAll_append (a : Artifact) (cs cs' : List (Option String)) :
    a.backfillAll d (cs ++ cs') =
      (((a.backfillAll d cs).1.backfillAll d cs').1,
        (a.backfillAll d cs).2 ++ ((a.backfillAll d cs).1.backfillAll d cs').2) := by
  induction cs generalizing a with
  | nil => rfl
  | cons c cs ih => simp [backfillAll, ih]

theorem backfillAll_of_refused (h : ∀ c ∈ cs, a.backfill d c = (a, false)) :
    a.backfillAll d cs = (a, List.replicate cs.length false) := by
  induction cs with
  | nil => rfl
  | cons c cs ih =>
    have hrest := ih fun c' hc' => h c' (List.mem_cons_of_mem c hc')
    simp [backfillAll, h c List.mem_cons_self, hrest, List.replicate_succ]

theorem backfillAll_of_hasVideo (h : a.hasVideo = true) (cs : List (Option String)) :
    a.backfillAll d cs = (a, List.replicate cs.length false) :=
  backfillAll_of_refused fun c _ => backfill_of_hasVideo h c

theorem backfillAll_of_not_isUsable (h : ∀ c ∈ cs, isUsable d c = false) :
    a.backfillAll d cs = (a, List.replicate cs.length false) :=
  backfillAll_of_refused fun c hc => backfill_of_not_isUsable (h c hc)

/-- The first usable candidate is taken and closes the history. -/
theorem backfillAll_of_first {before after : List (Option String)} (hvideo : a.hasVideo = false)
    (hbefore : ∀ c ∈ before, isUsable d c = false) (h : isUsable d (some path) = true) :
    a.backfillAll d (before ++ some path :: after) =
      (a.withVideo path,
        List.replicate before.length false ++ true :: List.replicate after.length false) := by
  have hafter := backfillAll_of_hasVideo (d := d) (hasVideo_withVideo (a := a) h) after
  simp [backfillAll_append, backfillAll_of_not_isUsable hbefore, backfillAll,
    backfill_of_isUsable hvideo h, hafter]

theorem exists_first_isUsable (d : Disk) (cs : List (Option String)) :
    (∀ c ∈ cs, isUsable d c = false) ∨
      ∃ before path after, cs = before ++ some path :: after ∧
        (∀ c ∈ before, isUsable d c = false) ∧ isUsable d (some path) = true := by
  cases hfind : cs.find? (isUsable d) with
  | none => exact .inl (by simpa using hfind)
  | some c =>
    obtain ⟨hc, before, after, rfl, hbefore⟩ := List.find?_eq_some_iff_append.mp hfind
    cases c with
    | none => cases hc
    | some path => exact .inr ⟨before, path, after, rfl, by simpa using hbefore, hc⟩

/-- Over any history of offers an artifact changes at most once, and never if it has a
video. If it has none, the first usable candidate becomes both of its video paths, as it
was given, and this offer alone is answered by `true`; without such a candidate nothing
changes. -/
theorem backfillAll_takes_first (d : Disk) (a : Artifact) (cs : List (Option String)) :
    let r := a.backfillAll d cs
    r.1.scenarioId = a.scenarioId ∧ r.1.title = a.title ∧ r.1.steps = a.steps ∧
      r.2.length = cs.length ∧ r.2.count true ≤ 1 ∧
      (a.hasVideo = true → r = (a, List.replicate cs.length false)) ∧
      (a.hasVideo = false →
        ((∀ c ∈ cs, isUsable d c = false) → r = (a, List.replicate cs.length false)) ∧
        ∀ before path after, cs = before ++ some path :: after →
          (∀ c ∈ before, isUsable d c = false) → isUsable d (some path) = true →
          r = ({ a with videoPath := some path, rawVideoPath := some path },
            List.replicate before.length false ++ true :: List.replicate after.length false)) := by
  intro r
  have hkept : a.hasVideo = true → r = (a, List.replicate cs.length false) :=
    fun hvideo => backfillAll_of_hasVideo hvideo cs
  have hnone : (∀ c ∈ cs, isUsable d c = false) → r = (a, List.replicate cs.length false) :=
    backfillAll_of_not_isUsable
  have hfirst : a.hasVideo = false → ∀ before path after, cs = before ++ some path :: after →
      (∀ c ∈ before, isUsable d c = false) → isUsable d (some path) = true →
      r = (a.withVideo path,
        List.replicate before.length false ++ true :: List.replicate after.length false) := by
    rintro hvideo before path after rfl hbefore hpath
    exact backfillAll_of_first hvideo hbefore hpath
  have hframe : r.1.scenarioId = a.scenarioId ∧ r.1.title = a.title ∧ r.1.steps = a.steps ∧
      r.2.length = cs.length ∧ r.2.count true ≤ 1 := by
    cases hvideo : a.hasVideo with
    | true => simp [hkept hvideo, List.count_replicate]
    | false =>
      rcases exists_first_isUsable d cs with hcs | ⟨before, path, after, hcs, hbefore, hpath⟩
      · simp [hnone hcs, List.count_replicate]
      · simp [hfirst hvideo before path after hcs hbefore hpath, hcs, withVideo,
          List.count_replicate]
  obtain ⟨hid, htitle, hsteps, hlength, hcount⟩ := hframe
  exact ⟨hid, htitle, hsteps, hlength, hcount, hkept, fun hvideo => ⟨hnone, hfirst hvideo⟩⟩

/-- An empty video path gives way to a directory that a link leads to; the raw video path
and what is offered before and after do not matter. -/
theorem backfillAll_takes_first_link :
    let d : Disk :=
      { entries := [(["d"], .directory), (["l"], .link "d"), (["gone"], .link "x"),
          (["v.mp4"], .file ⟨#[1]⟩)]
        here := [] }
    let a : Artifact := ⟨"s", "t", .manifest .null, some "", some "raw.mkv"⟩
    a.backfillAll d [none, some "", some "/gone", some "/./l", some "/v.mp4", none] =
      (⟨"s", "t", .manifest .null, some "/./l", some "/./l"⟩,
        [false, false, false, true, false, false]) := by
  intro d a
  obtain ⟨-, -, -, -, -, -, hnew⟩ := backfillAll_takes_first d a
    [none, some "", some "/gone", some "/./l", some "/v.mp4", none]
  exact (hnew rfl).2 [none, some "", some "/gone"] "/./l" [some "/v.mp4", none] rfl
    (by decide +kernel) (by decide +kernel)

end Storyboard.Artifact
