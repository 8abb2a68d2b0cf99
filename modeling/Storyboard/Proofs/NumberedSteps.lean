import Storyboard.Proofs.Extraction

/-! # Numbered steps

The keywords that document a step are numbered in their order and all others do not
count. So the number of a step is one more than the number of steps in front of it,
and the steps of two rows of keywords are those of the first row, followed by those of
the second one with numbers that go on from there.
-/
namespace Storyboard

/-- A keyword passed and documents a step. -/
def Keyword.Documents (k : Keyword) : Prop :=
  k.status = "PASS" ∧ (k.name = "Doc Web Step" ∨ k.name = "Doc Desktop Step")

instance (k : Keyword) : Decidable k.Documents := by
  unfold Keyword.Documents
  infer_instance

namespace Step

variable (zone : Time.Zone) (l : Locations)

theorem isDocumented_eq_decide (k : Keyword) : isDocumented k = decide k.Documents := by
  rw [Bool.eq_iff_iff, decide_eq_true_eq]
  simp [isDocumented, documentationKeywords, Keyword.Documents]

theorem extractFrom_append (n : Nat) (xs ys : List Keyword) :
    extractFrom zone l n (xs ++ ys) =
      extractFrom zone l n xs ++ extractFrom zone l (n + (extractFrom zone l n xs).length) ys := by
  induction xs generalizing n with
  | nil => rfl
  | cons k xs ih =>
    rw [List.cons_append, extractFrom, extractFrom]
    split
    · rw [ih, List.cons_append, List.length_cons, Nat.add_right_comm, Nat.add_assoc]
    · exact ih n

theorem extractFrom_cons_of_not {k : Keyword} (h : ¬k.Documents) (n : Nat) (ks : List Keyword) :
    extractFrom zone l n (k :: ks) = extractFrom zone l n ks := by
  rw [extractFrom, isDocumented_eq_decide, decide_eq_false h, if_neg Bool.false_ne_true]

theorem extractFrom_eq (n : Nat) (ks : List Keyword) :
    extractFrom zone l n ks =
      (ks.filter fun k => k.Documents).mapIdx fun i k => ofKeyword zone l (n + 1 + i) k := by
  have hsame : isDocumented = fun k => decide k.Documents := funext isDocumented_eq_decide
  rw [extractFrom_eq_mapIdx, hsame]
  simp only [Nat.add_right_comm n]

theorem length_extractFrom (n : Nat) (ks : List Keyword) :
    (extractFrom zone l n ks).length = ks.countP fun k => k.Documents := by
  rw [extractFrom_eq, List.length_mapIdx, List.countP_eq_length_filter]

/-- Extraction numbers the documenting keywords and builds each step from its keyword
and its number alone; a step ends where its keyword says, if this is a word. -/
theorem extract_numbers (xs ys : List Keyword) :
    extract zone l (xs ++ ys) = extract zone l xs ++
        (ys.filter fun k => k.Documents).mapIdx
          (fun i k => ofKeyword zone l ((xs.countP fun k => k.Documents) + 1 + i) k) ∧
      extract zone l xs =
        (xs.filter fun k => k.Documents).mapIdx (fun i k => ofKeyword zone l (i + 1) k) ∧
      (∀ k : Keyword, ¬k.Documents → extract zone l (xs ++ k :: ys) = extract zone l (xs ++ ys)) ∧
      ∀ (n : Nat) (s : Step), (extract zone l xs)[n]? = some s →
        ∃ k, (xs.filter fun k => k.Documents)[n]? = some k ∧
          s.startedAtMs = Time.stamp? zone k.startTime ∧
          ∀ t, s.endedAtMs = some t ↔ ∃ start, Time.stamp? zone k.startTime = some start ∧
            t = start + k.elapsedMs ∧ Number.Word.least ≤ t ∧ t ≤ Number.Word.greatest := by
  have hfirst : extract zone l xs =
      (xs.filter fun k => k.Documents).mapIdx (fun i k => ofKeyword zone l (i + 1) k) := by
    rw [extract, extractFrom_eq]
    simp only [Nat.zero_add, Nat.add_comm 1]
  refine ⟨?_, hfirst, fun k hk => ?_, fun n s hs => ?_⟩
  · rw [extract, extractFrom_append, length_extractFrom, extractFrom_eq zone l _ ys, Nat.zero_add]
    rfl
  · rw [extract, extractFrom_append, extractFrom_cons_of_not zone l hk, ← extractFrom_append]
    rfl
  · rw [hfirst, List.getElem?_mapIdx] at hs
    obtain ⟨k, hk, rfl⟩ := Option.map_eq_some_iff.mp hs
    exact ⟨k, hk, rfl, fun t => endOf_eq_some_iff⟩

/-- A failed keyword between two steps takes up no number, and a step that would end
after the last word has no end. -/
theorem extract_numbers_endless :
    let l : Locations := ⟨"/x", "/runs/7", "/x", "/x"⟩
    let endless : Keyword := ⟨"Doc Web Step", "PASS", ["endless"], some "20240101 10:00:00",
      Number.Word.greatest⟩
    let failed : Keyword := ⟨"Doc Web Step", "FAIL", [], none, 0⟩
    let last : Keyword := ⟨"Doc Desktop Step", "PASS", [], none, Number.Word.least⟩
    ¬failed.Documents ∧
      extract .utc l ([endless] ++ failed :: [last]) =
        extract .utc l [endless] ++ [ofKeyword .utc l 2 last] ∧
      ∃ s, (extract .utc l [endless])[0]? = some s ∧ s.startedAtMs = some 1704103200000 ∧
        s.endedAtMs = none := by
  intro l endless failed last
  have hfailed : ¬failed.Documents := by decide
  obtain ⟨happend, -, hskip, -⟩ := extract_numbers .utc l [endless] [last]
  obtain ⟨-, -, -, htimes⟩ := extract_numbers .utc l [endless] []
  refine ⟨hfailed, ?_, ofKeyword .utc l 1 endless, by decide +kernel, by decide +kernel, ?_⟩
  · rw [hskip failed hfailed, happend]
    decide +kernel
  · obtain ⟨k, hk, -, hend⟩ := htimes 0 (ofKeyword .utc l 1 endless) (by decide +kernel)
    have hkeyword : k = endless := Option.some.inj (hk.symm.trans (by decide))
    rw [Option.eq_none_iff_forall_ne_some]
    intro t ht
    obtain ⟨start, hstart, rfl, -, hle⟩ := (hend t).mp ht
    have hvalue : Time.stamp? .utc k.startTime = some 1704103200000 := by
      rw [hkeyword]
      decide +kernel
    rw [hvalue] at hstart
    cases hstart
    rw [hkeyword] at hle
    exact absurd hle (by decide)

end Step
end Storyboard
