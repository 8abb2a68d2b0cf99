import Storyboard.Artifact
import Storyboard.Proofs.Lists
import Storyboard.Proofs.ReadValues

/-! # Recorded artifacts

The file of an artifact with extracted steps is read back as an object that has a
member for each field that is present, and no other members. The fields of the
artifact and of all its steps can be told from these members, so two artifacts
never have the same file.
-/
namespace Storyboard

namespace Json

/-! ## Members of objects that were read -/

theorem lookup_insertMember (key k : String) (v : Json) (members : List (String × Json)) :
    (insertMember k v members).lookup key = if key = k then some v else members.lookup key := by
  induction members with
  | nil => rw [insertMember, List.lookup_cons_ite]
  | cons member members ih =>
    obtain ⟨k', v'⟩ := member
    rw [insertMember]
    by_cases hlt : k < k'
    · rw [if_pos hlt, List.lookup_cons_ite]
    · by_cases heq : k = k'
      · subst heq
        rw [if_neg hlt, if_pos rfl, List.lookup_cons_ite, List.lookup_cons_ite]
        by_cases h : key = k <;> simp [h]
      · rw [if_neg hlt, if_neg heq, List.lookup_cons_ite, List.lookup_cons_ite, ih]
        by_cases h : key = k
        · simp [h, heq]
        · simp [h]

/-- The last member with a key counts. -/
theorem lookup_sortedMembers (key : String) (members before : List (String × Json)) :
    (sortedMembers before members).lookup key =
      ((members.reverse.lookup key).map sorted).or (before.lookup key) := by
  induction members generalizing before with
  | nil => simp [sortedMembers]
  | cons member members ih =>
    obtain ⟨k, v⟩ := member
    rw [sortedMembers, ih, lookup_insertMember, List.reverse_cons, List.lookup_append]
    cases members.reverse.lookup key with
    | some w => simp
    | none =>
      rw [List.lookup_cons_ite]
      by_cases h : key = k <;> simp [h]

@[simp] theorem sorted_text (s : String) : (text s).sorted = text s := by
  rw [sorted]

@[simp] theorem sorted_number (n : Number) : (number n).sorted = number n := by
  rw [sorted]

theorem sortedItems_eq_map (items : List Json) : sortedItems items = items.map sorted := by
  induction items with
  | nil => rfl
  | cons item items ih => rw [sortedItems, ih, List.map_cons]

end Json

/-! ## Steps -/

namespace Step

def TimesFit (s : Step) : Prop :=
  (∀ t ∈ s.startedAtMs, Number.Word.fits t = true) ∧ (∀ t ∈ s.endedAtMs, Number.Word.fits t = true)

instance (s : Step) : Decidable s.TimesFit := by
  unfold TimesFit
  infer_instance

def member? (s : Step) (key : String) : Option Json :=
  if key = "id" then some (.text s.id)
  else if key = "title" then some (.text s.title)
  else if key = "imagePath" then some (.text s.imagePath)
  else if key = "description" then s.description.map .text
  else if key = "startedAtMs" then s.startedAtMs.map fun n => .number (.integer n)
  else if key = "endedAtMs" then s.endedAtMs.map fun n => .number (.integer n)
  else none

theorem lookup_optionalMember (key k : String) (v : Option Json) :
    (optionalMember k v).lookup key = if key = k then v else none := by
  cases v with
  | none => simp [optionalMember]
  | some v => rw [optionalMember, List.lookup_cons_ite, List.lookup_nil]

theorem reverse_optionalMember (k : String) (v : Option Json) :
    (optionalMember k v).reverse = optionalMember k v := by
  cases v <;> rfl

/-- A value is an object with the members of a step and no others. -/
def RecordedBy (s : Step) (j : Json) : Prop :=
  ∃ members, j = .object members ∧ ∀ key, members.lookup key = s.member? key

theorem inWords_integer {n : Int} (h : Number.Word.fits n = true) :
    (Json.number (.integer n)).InWords := by
  obtain ⟨hleast, hgreatest⟩ := Number.Word.fits_iff.mp h
  rw [Json.InWords, Json.Number.InWord]
  refine ⟨hleast, ?_⟩
  unfold Number.Word.greatest at hgreatest
  unfold Number.Word.unsignedCount
  omega

theorem inWords_toJson {s : Step} (h : s.TimesFit) : s.toJson.InWords := by
  obtain ⟨id, title, imagePath, description, startedAtMs, endedAtMs⟩ := s
  obtain ⟨hstarted, hended⟩ := h
  have hs : ∀ t ∈ startedAtMs, (Json.number (.integer t)).InWords :=
    fun t ht => inWords_integer (hstarted t ht)
  have he : ∀ t ∈ endedAtMs, (Json.number (.integer t)).InWords :=
    fun t ht => inWords_integer (hended t ht)
  cases description <;> cases startedAtMs <;> cases endedAtMs <;>
    simp_all [toJson, optionalMember, Json.InWords, Json.InWordsMembers]

theorem depth_toJson (s : Step) : s.toJson.depth = 1 := by
  obtain ⟨id, title, imagePath, description, startedAtMs, endedAtMs⟩ := s
  cases description <;> cases startedAtMs <;> cases endedAtMs <;> rfl

theorem recordedBy_sorted (s : Step) : s.RecordedBy s.toJson.sorted := by
  refine ⟨_, rfl, fun key => ?_⟩
  rw [Json.lookup_sortedMembers]
  simp only [List.reverse_append, List.reverse_cons, List.nil_append, List.cons_append,
    List.lookup_append, reverse_optionalMember, lookup_optionalMember,
    List.lookup_cons_ite, List.lookup_nil, member?]
  by_cases hid : key = "id"
  · simp [hid]
  by_cases htitle : key = "title"
  · simp [htitle]
  by_cases himage : key = "imagePath"
  · simp [himage]
  by_cases hdescription : key = "description"
  · simp [hdescription, Function.comp_def]
  by_cases hstarted : key = "startedAtMs"
  · simp [hstarted, Function.comp_def]
  by_cases hended : key = "endedAtMs"
  · simp [hended, Function.comp_def]
  simp [hid, htitle, himage, hdescription, hstarted, hended]

theorem RecordedBy.unique {s t : Step} {j : Json} (hs : s.RecordedBy j) (ht : t.RecordedBy j) :
    s = t := by
  obtain ⟨members, rfl, hs⟩ := hs
  obtain ⟨_, he, ht⟩ := ht
  cases he
  have hmember : ∀ key, s.member? key = t.member? key := fun key => (hs key).symm.trans (ht key)
  have hid : s.id = t.id := by simpa [member?] using hmember "id"
  have htitle : s.title = t.title := by simpa [member?] using hmember "title"
  have himage : s.imagePath = t.imagePath := by simpa [member?] using hmember "imagePath"
  have hdescription : s.description = t.description := by
    apply (Option.map_inj_right fun _ _ he => Json.text.inj he).mp
    simpa [member?] using hmember "description"
  have hinteger : ∀ m n : Int, Json.number (.integer m) = .number (.integer n) → m = n := by
    rintro m n he
    cases he
    rfl
  have hstarted : s.startedAtMs = t.startedAtMs := by
    apply (Option.map_inj_right hinteger).mp
    simpa [member?] using hmember "startedAtMs"
  have hended : s.endedAtMs = t.endedAtMs := by
    apply (Option.map_inj_right hinteger).mp
    simpa [member?] using hmember "endedAtMs"
  cases s
  cases t
  simp_all

/-- Records are those of some steps, one by one. -/
def ListedBy (steps : List Step) (records : List Json) : Prop :=
  records.length = steps.length ∧
    ∀ (n : Nat) (s : Step) (record : Json),
      steps[n]? = some s → records[n]? = some record → s.RecordedBy record

theorem listedBy_sorted (steps : List Step) :
    ListedBy steps (steps.map fun s => s.toJson.sorted) := by
  refine ⟨List.length_map _, fun n s record hs hrecord => ?_⟩
  rw [List.getElem?_map, hs] at hrecord
  cases hrecord
  exact s.recordedBy_sorted

theorem ListedBy.unique {steps others : List Step} {records : List Json}
    (h : ListedBy steps records) (h' : ListedBy others records) : steps = others := by
  apply List.ext_getElem (h.1.symm.trans h'.1)
  intro n hn hn'
  have hrecord := List.getElem?_eq_getElem (h.1 ▸ hn : n < records.length)
  exact (h.2 n _ _ (List.getElem?_eq_getElem hn) hrecord).unique
    (h'.2 n _ _ (List.getElem?_eq_getElem hn') hrecord)

theorem inWordsItems_toJson {steps : List Step} (h : ∀ s ∈ steps, s.TimesFit) :
    Json.InWordsItems (steps.map toJson) := by
  induction steps with
  | nil => trivial
  | cons s steps ih =>
    rw [List.map_cons, Json.InWordsItems]
    exact ⟨inWords_toJson (h s List.mem_cons_self), ih fun s hs => h s (List.mem_cons_of_mem _ hs)⟩

theorem depthItems_toJson (steps : List Step) : Json.depthItems (steps.map toJson) ≤ 1 := by
  induction steps with
  | nil => exact Nat.zero_le 1
  | cons s steps ih =>
    rw [List.map_cons, Json.depthItems, depth_toJson]
    omega

end Step

/-! ## Sources of steps -/

namespace StepSource

/-- The steps can be read again where an artifact puts them. -/
def Readable : StepSource → Prop
  | .extraction steps => ∀ s ∈ steps, s.TimesFit
  | .manifest steps => steps.InWords ∧ steps.FitsIn 1 ∧ steps ≠ .null

variable {source : StepSource}

theorem Readable.inWords (h : source.Readable) : source.toJson.InWords := by
  cases source with
  | extraction steps =>
    rw [toJson, Json.InWords]
    exact Step.inWordsItems_toJson h
  | manifest steps => exact h.1

theorem Readable.depth (h : source.Readable) : source.toJson.depth + 1 ≤ Json.depthLimit := by
  cases source with
  | extraction steps =>
    have hitems := Step.depthItems_toJson steps
    have hlimit : 3 ≤ Json.depthLimit := by decide
    rw [toJson, Json.depth]
    omega
  | manifest steps => exact h.2.1.2

end StepSource

/-! ## Artifacts -/

namespace Artifact

section

variable {a : Artifact}

theorem inWords_of_readable (h : a.steps.Readable) : a.toJson.InWords := by
  obtain ⟨scenarioId, title, source, videoPath, rawVideoPath⟩ := a
  have hsteps := h.inWords
  cases videoPath <;> cases rawVideoPath <;>
    simp_all [toJson, Step.optionalMember, Json.InWords, Json.InWordsMembers]

theorem depth_of_readable (h : a.steps.Readable) : a.toJson.depth ≤ Json.depthLimit := by
  obtain ⟨scenarioId, title, source, videoPath, rawVideoPath⟩ := a
  have hsteps := h.depth
  dsimp only at hsteps
  cases videoPath <;> cases rawVideoPath <;>
    simp [toJson, Step.optionalMember, Json.depth, Json.depthMembers] <;> omega

theorem ofBytes?_bytes (h : a.steps.Readable) : Json.ofBytes? a.bytes = some a.toJson.sorted :=
  Json.ofBytes?_pretty (inWords_of_readable h) (depth_of_readable h)

end

/-- The steps of an artifact were extracted, with times that are words. -/
def Extracted (a : Artifact) (steps : List Step) : Prop :=
  a.steps = .extraction steps ∧ ∀ s ∈ steps, s.TimesFit

def member? (a : Artifact) (records : List Json) (key : String) : Option Json :=
  if key = "scenarioId" then some (.text a.scenarioId)
  else if key = "title" then some (.text a.title)
  else if key = "steps" then some (.array records)
  else if key = "videoPath" then a.videoPath.map .text
  else if key = "rawVideoPath" then a.rawVideoPath.map .text
  else none

/-- A value is an object with the members of an artifact and no others, and its
steps are recorded one by one. -/
def RecordedBy (a : Artifact) (steps : List Step) (j : Json) : Prop :=
  ∃ members records, j = .object members ∧ (∀ key, members.lookup key = a.member? records key) ∧
    Step.ListedBy steps records

theorem Extracted.readable {a : Artifact} {steps : List Step} (h : a.Extracted steps) :
    a.steps.Readable := by
  rw [h.1]
  exact h.2

theorem recordedBy_sorted {a : Artifact} {steps : List Step} (h : a.Extracted steps) :
    a.RecordedBy steps a.toJson.sorted := by
  refine ⟨_, steps.map fun s => s.toJson.sorted, rfl, fun key => ?_, Step.listedBy_sorted steps⟩
  rw [Json.lookup_sortedMembers]
  simp only [List.reverse_append, List.reverse_cons, List.nil_append, List.cons_append,
    List.lookup_append, Step.reverse_optionalMember, Step.lookup_optionalMember,
    List.lookup_cons_ite, List.lookup_nil, member?, h.1, StepSource.toJson]
  by_cases hid : key = "scenarioId"
  · simp [hid]
  by_cases htitle : key = "title"
  · simp [htitle]
  by_cases hsteps : key = "steps"
  · simp [hsteps, Json.sorted, Json.sortedItems_eq_map]
  by_cases hvideo : key = "videoPath"
  · simp [hvideo, Function.comp_def]
  by_cases hraw : key = "rawVideoPath"
  · simp [hraw, Function.comp_def]
  simp [hid, htitle, hsteps, hvideo, hraw]

/-- The file of an artifact is read back as a record of it. -/
theorem exists_recordedBy {a : Artifact} {steps : List Step} (h : a.Extracted steps) :
    ∃ j, Json.ofBytes? a.bytes = some j ∧ a.RecordedBy steps j :=
  ⟨a.toJson.sorted, ofBytes?_bytes h.readable, recordedBy_sorted h⟩

theorem RecordedBy.unique {a b : Artifact} {steps others : List Step} {j : Json}
    (ha : a.steps = .extraction steps) (hb : b.steps = .extraction others)
    (hj : a.RecordedBy steps j) (hj' : b.RecordedBy others j) : a = b := by
  obtain ⟨members, records, rfl, hmembers, hlisted⟩ := hj
  obtain ⟨_, records', he, hmembers', hlisted'⟩ := hj'
  cases he
  have hmember : ∀ key, a.member? records key = b.member? records' key :=
    fun key => (hmembers key).symm.trans (hmembers' key)
  have hid : a.scenarioId = b.scenarioId := by simpa [member?] using hmember "scenarioId"
  have htitle : a.title = b.title := by simpa [member?] using hmember "title"
  have hvideo : a.videoPath = b.videoPath := by
    apply (Option.map_inj_right fun _ _ he => Json.text.inj he).mp
    simpa [member?] using hmember "videoPath"
  have hraw : a.rawVideoPath = b.rawVideoPath := by
    apply (Option.map_inj_right fun _ _ he => Json.text.inj he).mp
    simpa [member?] using hmember "rawVideoPath"
  have hrecord : records = records' := by simpa [member?] using hmember "steps"
  subst hrecord
  have hsource : a.steps = b.steps := by rw [ha, hb, hlisted.unique hlisted']
  cases a
  cases b
  simp_all

/-- Nothing of an artifact is lost in its file: the file is read back as an object
with exactly the members of the artifact, and no other artifact has the same
file. -/
theorem file_lossless {a : Artifact} {steps : List Step} (ha : a.Extracted steps) :
    (∃ j, Json.ofBytes? a.bytes = some j ∧ a.RecordedBy steps j) ∧
      ∀ (b : Artifact) (others : List Step), b.Extracted others → a.bytes = b.bytes → a = b := by
  refine ⟨exists_recordedBy ha, fun b others hb hbytes => ?_⟩
  obtain ⟨j, hj, hrecorded⟩ := exists_recordedBy ha
  obtain ⟨j', hj', hrecorded'⟩ := exists_recordedBy hb
  rw [hbytes, hj'] at hj
  cases hj
  exact hrecorded.unique ha.1 hb.1 hrecorded'

/-- Escapes, an empty text, the outermost words and absent fields in one file. -/
theorem file_lossless_extremes :
    ∃ (a : Artifact) (steps : List Step), a.Extracted steps ∧
      steps = [⟨"\"\\/", "Prüfung\n\x00", "", none, some Number.Word.least, none⟩,
        ⟨"", "\t", "/é.png", some "", some Number.Word.greatest, some (-1)⟩] ∧
      a.videoPath = none ∧ a.rawVideoPath = some "" ∧
      (∃ j, Json.ofBytes? a.bytes = some j ∧ a.RecordedBy steps j) ∧
      ∀ (b : Artifact) (others : List Step), b.Extracted others → a.bytes = b.bytes → a = b := by
  let steps : List Step :=
    [⟨"\"\\/", "Prüfung\n\x00", "", none, some Number.Word.least, none⟩,
      ⟨"", "\t", "/é.png", some "", some Number.Word.greatest, some (-1)⟩]
  have ha : Extracted ⟨"", "\u2028", .extraction steps, none, some ""⟩ steps := ⟨rfl, by decide⟩
  exact ⟨_, steps, ha, rfl, rfl, rfl, file_lossless ha⟩

end Artifact
end Storyboard
