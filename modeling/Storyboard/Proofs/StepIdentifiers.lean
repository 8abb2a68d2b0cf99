import Storyboard.Proofs.NumberedSteps

/-! # Identifiers of steps

A step is named by the first argument of its keyword or, without one, by its number. Every
step takes up a number, whether it is named by it or not. So two steps that are named by
their numbers have different identifiers, and an argument meets the identifier of such a
step only if it spells it out.
-/
namespace Storyboard

/-- The first argument of a keyword names its step. -/
def Keyword.Names (k : Keyword) (id : String) : Prop := k.arguments[0]? = some id ∧ id ≠ ""

def Keyword.Nameless (k : Keyword) : Prop := k.arguments[0]? = none ∨ k.arguments[0]? = some ""

namespace Step

theorem fallbackId_inj {m n : Nat} (h : fallbackId m = fallbackId n) : m = n := by
  have hdigits : Text.decimal m = Text.decimal n :=
    congrArg String.toList ((String.append_right_inj "step-").mp h)
  simpa using congrArg Text.numeral hdigits

variable (zone : Time.Zone) (l : Locations)

theorem given_id (n : Nat) (k : Keyword) :
    Text.Given k.arguments[0]? (fallbackId n) (ofKeyword zone l n k).id :=
  Text.given_getD_filter _ _

theorem id_of_names {k : Keyword} {id : String} (h : k.Names id) (n : Nat) :
    (ofKeyword zone l n k).id = id := by
  obtain ⟨hfirst, hne⟩ := h
  rcases given_id zone l n k with ⟨hid, -⟩ | ⟨hmissing | hempty, -⟩
  · simpa [hfirst] using hid.symm
  · simp [hfirst] at hmissing
  · simp [hfirst, hne] at hempty

theorem id_of_nameless {k : Keyword} (h : k.Nameless) (n : Nat) :
    (ofKeyword zone l n k).id = fallbackId n := by
  rcases given_id zone l n k with ⟨hid, hne⟩ | ⟨-, hid⟩
  · rcases h with hmissing | hempty
    · simp [hid] at hmissing
    · simp [hid, hne] at hempty
  · exact hid

theorem getElem?_extract (ks : List Keyword) (i : Nat) :
    (extract zone l ks)[i]? =
      (ks.filter fun k => k.Documents)[i]?.map (ofKeyword zone l (i + 1)) := by
  rw [extract, extractFrom_eq, List.getElem?_mapIdx, Nat.zero_add, Nat.add_comm 1]

/-- Steps that are named by their numbers have different identifiers. The identifier of such
a step is also that of a step with a name of its own if and only if this name spells the
number of the former step. -/
theorem extract_ids_meet (ks : List Keyword) {i j : Nat} {s t : Step} (hij : i ≠ j)
    (hs : (extract zone l ks)[i]? = some s) (ht : (extract zone l ks)[j]? = some t) :
    ∃ k k', (ks.filter fun k => k.Documents)[i]? = some k ∧
      (ks.filter fun k => k.Documents)[j]? = some k' ∧
      (k.Nameless → s.id = "step-" ++ toString (i + 1)) ∧ (∀ id, k.Names id → s.id = id) ∧
      (k.Nameless → k'.Nameless → s.id ≠ t.id) ∧
      (k.Nameless → ∀ id, k'.Names id → (s.id = t.id ↔ id = "step-" ++ toString (i + 1))) := by
  rw [getElem?_extract] at hs ht
  obtain ⟨k, hk, rfl⟩ := Option.map_eq_some_iff.mp hs
  obtain ⟨k', hk', rfl⟩ := Option.map_eq_some_iff.mp ht
  refine ⟨k, k', hk, hk', ?_, ?_, ?_, ?_⟩
  · intro hnameless
    exact id_of_nameless zone l hnameless (i + 1)
  · intro id hnames
    exact id_of_names zone l hnames (i + 1)
  · intro hnameless hnameless' hsame
    rw [id_of_nameless zone l hnameless, id_of_nameless zone l hnameless'] at hsame
    exact hij (Nat.succ.inj (fallbackId_inj hsame))
  · intro hnameless id hnames
    rw [id_of_nameless zone l hnameless, id_of_names zone l hnames]
    exact eq_comm

/-- A name that spells a number meets the step with this number, although a failed keyword
stands between them. The step after it is named by its own number and differs. -/
theorem extract_ids_meet_spelled :
    let l : Locations := ⟨"/x", "/runs/7", "/x", "/x"⟩
    let named : Keyword := ⟨"Doc Web Step", "PASS", ["step-2"], none, 0⟩
    let failed : Keyword := ⟨"Doc Web Step", "FAIL", [], none, 0⟩
    let bare : Keyword := ⟨"Doc Desktop Step", "PASS", [], none, 0⟩
    let blank : Keyword := ⟨"Doc Web Step", "PASS", ["", "title"], none, 0⟩
    ∃ r s t, extract .utc l [named, failed, bare, blank] = [r, s, t] ∧ s.id = r.id ∧
      s.id ≠ t.id := by
  intro l named failed bare blank
  have hsteps : extract .utc l [named, failed, bare, blank] =
      [ofKeyword .utc l 1 named, ofKeyword .utc l 2 bare, ofKeyword .utc l 3 blank] := by
    decide +kernel
  have hdocuments : [named, failed, bare, blank].filter (fun k => k.Documents) =
      [named, bare, blank] := by
    decide
  have hat := congrArg (fun steps : List Step => steps[1]?) hsteps
  have hfirst := congrArg (fun steps : List Step => steps[0]?) hsteps
  have hlast := congrArg (fun steps : List Step => steps[2]?) hsteps
  refine ⟨_, _, _, hsteps, ?_, ?_⟩
  · obtain ⟨k, k', hk, hk', -, -, -, hmeet⟩ :=
      extract_ids_meet .utc l _ (Nat.one_ne_zero) hat hfirst
    rw [hdocuments] at hk hk'
    cases hk
    cases hk'
    exact (hmeet (Or.inl rfl) "step-2" ⟨rfl, by decide⟩).mpr (by decide)
  · obtain ⟨k, k', hk, hk', -, -, hdiffer, -⟩ :=
      extract_ids_meet .utc l _ (show 1 ≠ 2 by decide) hat hlast
    rw [hdocuments] at hk hk'
    cases hk
    cases hk'
    exact hdiffer (Or.inl rfl) (Or.inr rfl)

end Step
end Storyboard
