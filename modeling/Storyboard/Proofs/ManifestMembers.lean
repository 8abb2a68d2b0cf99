import Storyboard.Proofs.ManifestReadBack
import Storyboard.Proofs.SpelledValues

/-! # The members of a manifest

A file holds a manifest if it is the JSON text of an object whose two video paths are
texts, null or absent. Of members with one key the last one counts. What is loaded depends
on the last members of three keys, and neither on other members nor on the order in which
members with different keys are written.
-/
namespace Storyboard.Manifest

open Files (Disk Path)

variable {d : Disk} {path : Path} {bytes : ByteArray} {members members' : List (String × Json)}
  {key : String}

/-! ## Last members -/

/-- The value of the last member with a key, as it is read. -/
def lastValue? (key : String) (members : List (String × Json)) : Option Json :=
  (members.reverse.lookup key).map Json.sorted

/-- The same members in another order, in which those with one key keep theirs. -/
def Reordered (members members' : List (String × Json)) : Prop :=
  ∀ key, members.filter (fun m => key == m.1) = members'.filter fun m => key == m.1

theorem member?_sorted (key : String) (members : List (String × Json)) :
    (Json.object members).sorted.member? key = lastValue? key members := by
  rw [Json.sorted, Json.member?, Json.lookup_sortedMembers, lastValue?]
  simp

theorem Reordered.lastValue?_eq (h : Reordered members members') (key : String) :
    lastValue? key members = lastValue? key members' := by
  rw [lastValue?, lastValue?, ← List.lookup_filter_fst, ← List.lookup_filter_fst members'.reverse,
    List.filter_reverse, List.filter_reverse, h key]

/-! ## Values of members -/

def IsOptionalText : Option Json → Prop
  | none => True
  | some .null => True
  | some (.text _) => True
  | some _ => False

def textOf : Option Json → Option String
  | some (.text s) => some s
  | _ => none

/-- A value that is passed on, with an empty array for one that is absent or null. -/
def orEmpty : Option Json → Json
  | none => .array []
  | some .null => .array []
  | some j => j

theorem textMember?_eq_some_iff {j : Json} {value : Option String} :
    textMember? key j = some value ↔
      IsOptionalText (j.member? key) ∧ value = textOf (j.member? key) := by
  unfold textMember?
  cases j.member? key with
  | none => simp [IsOptionalText, textOf, eq_comm]
  | some v => cases v <;> simp [IsOptionalText, textOf, eq_comm]

theorem stepsOf_eq_orEmpty (j : Json) : stepsOf j = orEmpty (j.member? "steps") := by
  unfold stepsOf orEmpty
  cases j.member? "steps" with
  | none => rfl
  | some v => cases v <;> rfl

/-- The manifest with the last values of three keys. -/
def ofLastValues (members : List (String × Json)) : Manifest where
  steps := orEmpty (lastValue? "steps" members)
  videoPath := textOf (lastValue? "videoPath" members)
  rawVideoPath := textOf (lastValue? "rawVideoPath" members)

theorem ofJson?_sorted_eq_some_iff {m : Manifest} :
    ofJson? (Json.object members).sorted = some m ↔
      IsOptionalText (lastValue? "videoPath" members) ∧
        IsOptionalText (lastValue? "rawVideoPath" members) ∧ m = ofLastValues members := by
  obtain ⟨steps, videoPath, rawVideoPath⟩ := m
  simp only [ofJson?_eq_some, textMember?_eq_some_iff, stepsOf_eq_orEmpty, member?_sorted,
    ofLastValues, Manifest.mk.injEq]
  constructor
  · rintro ⟨⟨hvideo, rfl⟩, ⟨hraw, rfl⟩, rfl⟩
    exact ⟨hvideo, hraw, rfl, rfl, rfl⟩
  · rintro ⟨hvideo, hraw, rfl, rfl, rfl⟩
    exact ⟨⟨hvideo, rfl⟩, ⟨hraw, rfl⟩, rfl⟩

/-- The last values of three keys decide what an object holds. -/
theorem ofJson?_sorted_congr
    (h : ∀ key ∈ ["steps", "videoPath", "rawVideoPath"],
      lastValue? key members = lastValue? key members') :
    ofJson? (Json.object members).sorted = ofJson? (Json.object members').sorted := by
  have hsteps := h "steps" (by simp)
  have hvideo := h "videoPath" (by simp)
  have hraw := h "rawVideoPath" (by simp)
  apply Option.ext
  intro m
  simp only [ofJson?_sorted_eq_some_iff, ofLastValues, hsteps, hvideo, hraw]

/-! ## Files -/

theorem exists_spelled_of_ofBytes? {sorted : List (String × Json)}
    (h : Json.ofBytes? bytes = some (.object sorted)) :
    ∃ members, (Json.object members).SpelledBy bytes ∧
      (Json.object members).sorted = .object sorted := by
  obtain ⟨j, hspelled, hsorted⟩ := Json.ofBytes?_eq_some_iff.mp h
  cases j with
  | object members => exact ⟨members, hspelled, hsorted⟩
  | _ => cases hsorted

/-- What is told of an object whose last video paths are no texts. -/
def wrongFields (path : Path) (members : List (String × Json)) : Failure :=
  .manifestFields path ((lastValue? "rawVideoPath" members).map Json.kind)
    ((lastValue? "videoPath" members).map Json.kind)

theorem ofBytes_of_spelled (h : (Json.object members).SpelledBy bytes) (path : Path) :
    ofBytes path bytes =
      (ofJson? (Json.object members).sorted).elim (.error (wrongFields path members)) .ok := by
  have hread := Json.ofBytes?_eq_some_iff.mpr ⟨_, h, rfl⟩
  have hlast : ∀ key, (Json.sortedMembers [] members).lookup key = lastValue? key members :=
    fun key => member?_sorted key members
  rw [Json.sorted] at hread ⊢
  cases hm : ofJson? (.object (Json.sortedMembers [] members)) <;>
    simp [ofBytes, hread, hm, wrongFields, hlast]

theorem load_of_readBytes (h : d.readBytes path = .ok bytes) :
    (load d path).outcome = (ofBytes path bytes).map some := by
  have hexists := Disk.pathExists_of_readBytes h
  cases hbytes : ofBytes path bytes <;>
    simp [load, hexists, h, hbytes, Logged.pure, Logged.fail, Except.map]

theorem load_of_spelled (hfile : d.readBytes path = .ok bytes)
    (h : (Json.object members).SpelledBy bytes) :
    (load d path).outcome = (ofJson? (Json.object members).sorted).elim
      (.error (wrongFields path members)) fun m => .ok (some m) := by
  rw [load_of_readBytes hfile, ofBytes_of_spelled h]
  cases ofJson? (Json.object members).sorted <;> rfl

theorem load_of_spelled_eq_ok_iff (hfile : d.readBytes path = .ok bytes)
    (h : (Json.object members).SpelledBy bytes) {r : Option Manifest} :
    (load d path).outcome = .ok r ↔ IsOptionalText (lastValue? "videoPath" members) ∧
      IsOptionalText (lastValue? "rawVideoPath" members) ∧ r = some (ofLastValues members) := by
  rw [load_of_spelled hfile h]
  cases hm : ofJson? (Json.object members).sorted with
  | none =>
    constructor
    · intro hr
      cases hr
    · rintro ⟨hvideo, hraw, -⟩
      have hsome := ofJson?_sorted_eq_some_iff.mpr ⟨hvideo, hraw, rfl⟩
      rw [hm] at hsome
      cases hsome
  | some m =>
    obtain ⟨hvideo, hraw, rfl⟩ := ofJson?_sorted_eq_some_iff.mp hm
    simp [hvideo, hraw, eq_comm]

theorem exists_spelled_of_load (hfile : d.readBytes path = .ok bytes) {r : Option Manifest}
    (h : (load d path).outcome = .ok r) : ∃ members, (Json.object members).SpelledBy bytes := by
  rw [load_of_readBytes hfile] at h
  cases hbytes : ofBytes path bytes with
  | error e =>
    rw [hbytes] at h
    cases h
  | ok m =>
    obtain ⟨sorted, hread, -⟩ := ofBytes_eq_ok.mp hbytes
    obtain ⟨members, hspelled, -⟩ := exists_spelled_of_ofBytes? hread
    exact ⟨members, hspelled⟩

/-- A file is loaded as a manifest exactly if it is the text of an object whose last
`videoPath` and `rawVideoPath` members are absent, null or texts. These are the video paths,
and the last `steps` member is passed on. Two objects that agree in these members, or that
differ in the order of members with different keys, have the same outcome. -/
theorem load_iff_members (hfile : d.readBytes path = .ok bytes) :
    ((∃ r, (load d path).outcome = .ok r) ↔
      ∃ members, (Json.object members).SpelledBy bytes ∧
        IsOptionalText (lastValue? "videoPath" members) ∧
        IsOptionalText (lastValue? "rawVideoPath" members)) ∧
    (∀ members r, (Json.object members).SpelledBy bytes → (load d path).outcome = .ok r →
      r = some ⟨orEmpty (lastValue? "steps" members), textOf (lastValue? "videoPath" members),
        textOf (lastValue? "rawVideoPath" members)⟩) ∧
    ∀ (d' : Disk) (bytes' : ByteArray) (members members' : List (String × Json)),
      d'.readBytes path = .ok bytes' → (Json.object members).SpelledBy bytes →
      (Json.object members').SpelledBy bytes' →
      ((∀ key ∈ ["steps", "videoPath", "rawVideoPath"],
        lastValue? key members = lastValue? key members') ∨ Reordered members members') →
      (load d' path).outcome = (load d path).outcome := by
  refine ⟨⟨?_, ?_⟩, ?_, ?_⟩
  · rintro ⟨r, hr⟩
    obtain ⟨members, hspelled⟩ := exists_spelled_of_load hfile hr
    obtain ⟨hvideo, hraw, -⟩ := (load_of_spelled_eq_ok_iff hfile hspelled).mp hr
    exact ⟨members, hspelled, hvideo, hraw⟩
  · rintro ⟨members, hspelled, hvideo, hraw⟩
    exact ⟨_, (load_of_spelled_eq_ok_iff hfile hspelled).mpr ⟨hvideo, hraw, rfl⟩⟩
  · intro members r hspelled hr
    exact ((load_of_spelled_eq_ok_iff hfile hspelled).mp hr).2.2
  · intro d' bytes' members members' hfile' hspelled hspelled' hsame
    have hlast : ∀ key ∈ ["steps", "videoPath", "rawVideoPath"],
        lastValue? key members = lastValue? key members' := by
      rcases hsame with hsame | hreordered
      · exact hsame
      · exact fun key _ => hreordered.lastValue?_eq key
    have hwrong : wrongFields path members = wrongFields path members' := by
      rw [wrongFields, wrongFields, hlast _ (by simp), hlast _ (by simp)]
    rw [load_of_spelled hfile hspelled, load_of_spelled hfile' hspelled',
      ofJson?_sorted_congr hlast, hwrong]

/-- A file with a video path of a wrong type in front of the one that counts, and one with
its members in another order. -/
theorem load_iff_members_repeated :
    let text := "\x7b\"videoPath\":7,\"x\":[[]]," ++
      "\"steps\":[\x7b\"b\":1,\"a\":true,\"b\":null\x7d]," ++
      "\"videoPath\":\"v\"\x7d"
    let text' := "\x7b\"steps\":[\x7b\"b\":1,\"a\":true,\"b\":null\x7d]," ++
      "\"videoPath\":7,\"videoPath\":" ++
      "\"v\", \"x\":[[]]\x7d"
    let d : Disk := { entries := [(["m.json"], .file text.toUTF8)], here := [] }
    let d' : Disk := { entries := [(["m.json"], .file text'.toUTF8)], here := [] }
    let m : Manifest := ⟨.array [.object [("a", .bool true), ("b", .null)]], some "v", none⟩
    d.readBytes "/m.json" = .ok text.toUTF8 ∧ (load d "/m.json").outcome = .ok (some m) ∧
      (load d' "/m.json").outcome = .ok (some m) := by
  intro text text' d d' m
  let steps : Json :=
    .array [.object [("b", .number (.integer 1)), ("a", .bool true), ("b", .null)]]
  let videos : List (String × Json) :=
    [("videoPath", .number (.integer 7)), ("videoPath", .text "v")]
  let members := [videos[0], ("x", .array [.array []]), ("steps", steps), videos[1]]
  let members' := [("steps", steps), videos[0], videos[1], ("x", .array [.array []])]
  have hfile : d.readBytes "/m.json" = .ok text.toUTF8 := by decide +kernel
  have hfile' : d'.readBytes "/m.json" = .ok text'.toUTF8 := by decide +kernel
  have hspelled : (Json.object members).SpelledBy text.toUTF8 :=
    ⟨text, rfl, by decide +kernel, by decide⟩
  have hspelled' : (Json.object members').SpelledBy text'.toUTF8 :=
    ⟨text', rfl, by decide +kernel, by decide⟩
  have hreordered : Reordered members members' := by
    intro key
    by_cases hvideo : key = "videoPath"
    · subst hvideo
      rfl
    · by_cases hsteps : key = "steps"
      · subst hsteps
        rfl
      · simp [members, members', videos, List.filter_cons, hvideo, hsteps]
  obtain ⟨haccepted, hvalue, hsame⟩ := load_iff_members hfile
  obtain ⟨r, hr⟩ := haccepted.mpr ⟨members, hspelled, trivial, trivial⟩
  have hm : r = some m := hvalue members r hspelled hr
  subst hm
  have hsame := hsame d' _ members members' hfile' hspelled hspelled' (.inr hreordered)
  exact ⟨hfile, hr, hsame.trans hr⟩

end Storyboard.Manifest
