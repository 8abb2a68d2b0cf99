import Mathlib
import Storyboard.Text.Lower

/-! # Lower-cased text

An ASCII character is lowered within ASCII. Of all other characters only the Kelvin sign
and the dotted capital I have ASCII letters in their lower-case forms. What a capital
sigma becomes depends on its neighbours, but it is no ASCII letter either way.
-/
namespace Storyboard.Text

/-- The sign for kelvins, whose lower-case form is the letter `k`. -/
def kelvinSign : Char := Char.ofNat 0x212A

/-- The capital I with a dot, whose lower-case form is the letter `i` and a dot above. -/
def dottedCapitalI : Char := Char.ofNat 0x130

/-! ## ASCII classes by code points -/

theorem isUpper_iff {c : Char} : c.isUpper = true ↔ 0x41 ≤ c.toNat ∧ c.toNat ≤ 0x5A := by
  simp only [Char.isUpper, decide_eq_true_eq]
  exact and_congr UInt32.le_iff_toNat_le UInt32.le_iff_toNat_le

theorem isLower_iff {c : Char} : c.isLower = true ↔ 0x61 ≤ c.toNat ∧ c.toNat ≤ 0x7A := by
  simp only [Char.isLower, Bool.and_eq_true, decide_eq_true_eq]
  exact and_congr UInt32.le_iff_toNat_le UInt32.le_iff_toNat_le

theorem isAlphanum_iff {c : Char} : c.isAlphanum = true ↔
    (0x41 ≤ c.toNat ∧ c.toNat ≤ 0x5A) ∨ (0x61 ≤ c.toNat ∧ c.toNat ≤ 0x7A) ∨
      (0x30 ≤ c.toNat ∧ c.toNat ≤ 0x39) := by
  rw [Char.isAlphanum, Char.isAlpha, Bool.or_eq_true, Bool.or_eq_true, isUpper_iff, isLower_iff,
    Char.isDigit_iff_toNat, or_assoc]
  rfl

theorem isAlphanum_eq_false_of_lt {c : Char} (h : 0x7A < c.toNat) : c.isAlphanum = false := by
  rw [Bool.eq_false_iff]
  intro halnum
  rw [isAlphanum_iff] at halnum
  omega

theorem isUpper_eq_false_of_isAlphanum {c : Char} (h : c.isAlphanum = false) :
    c.isUpper = false := by
  rw [Bool.eq_false_iff] at h ⊢
  intro hupper
  exact h (isAlphanum_iff.mpr (.inl (isUpper_iff.mp hupper)))

theorem isAlphanum_toLower (c : Char) : c.toLower.isAlphanum = c.isAlphanum := by
  by_cases h : c.isUpper = true
  · simp [Char.isAlphanum, Char.isAlpha, h]
  · rw [Char.toLower_eq_of_not_isUpper h]

/-! ## Single characters -/

/-- The runs of the table, by what they can have to do with ASCII. -/
theorem caseRun_cases {r : CaseRun} (h : r ∈ caseRuns) :
    (r.first = 0x41 ∧ r.last = 0x5A ∧ r.shift = 32) ∨
      (r.first = 0x212A ∧ r.last = 0x212A ∧ r.shift = -8383) ∨
      (0xC0 ≤ r.first ∧ 0x7A < r.first + r.shift) := by
  revert r
  decide +kernel

theorem first_le_and_le_last {r : CaseRun} {n : Nat} (h : r.covers n = true) :
    r.first ≤ n ∧ n ≤ r.last := by
  simp only [CaseRun.covers, Bool.and_eq_true, decide_eq_true_eq] at h
  exact h.1

theorem isUpper_of_uncovered {c : Char} (h : caseRuns.find? (·.covers c.toNat) = none) :
    c.isUpper = false := by
  rw [Bool.eq_false_iff]
  intro hupper
  obtain ⟨hlow, hhigh⟩ := isUpper_iff.mp hupper
  apply List.find?_eq_none.mp h ⟨0x41, 0x5A, 1, 32⟩ List.mem_cons_self
  simp [CaseRun.covers, Nat.mod_one, hlow, hhigh]

theorem lower_of_uncovered {c : Char} (hdotted : c.toNat ≠ 0x130)
    (h : caseRuns.find? (·.covers c.toNat) = none) : lower c = [c] := by
  rw [lower, if_neg hdotted, h]

theorem lower_of_covered {c : Char} {r : CaseRun} (hdotted : c.toNat ≠ 0x130)
    (h : caseRuns.find? (·.covers c.toNat) = some r) :
    lower c = [Char.ofNat (c.toNat + r.shift).toNat] := by
  rw [lower, if_neg hdotted, h]

/-- A character is lowered within ASCII, if at all, or its form has nothing to do with
ASCII letters; there are two exceptions. -/
theorem lower_cases (c : Char) :
    lower c = [c.toLower] ∨ (c = kelvinSign ∧ lower c = ['k']) ∨
      (c = dottedCapitalI ∧ lower c = ['i', Char.ofNat 0x307]) ∨
      (0x7A < c.toNat ∧ ∃ d, lower c = [d] ∧ d.isAlphanum = false) := by
  by_cases hdotted : c.toNat = 0x130
  · exact .inr (.inr (.inl ⟨Char.toNat_inj.mp hdotted, if_pos hdotted⟩))
  cases hfind : caseRuns.find? (·.covers c.toNat) with
  | none =>
    have hupper := isUpper_of_uncovered hfind
    rw [Char.toLower_eq_of_not_isUpper (Bool.eq_false_iff.mp hupper)]
    exact .inl (lower_of_uncovered hdotted hfind)
  | some r =>
    have hlower := lower_of_covered hdotted hfind
    have hcovers := List.find?_some hfind
    obtain ⟨hfirst, hlast⟩ := first_le_and_le_last hcovers
    rcases caseRun_cases (List.mem_of_find?_eq_some hfind) with
      ⟨hlow, hhigh, hshift⟩ | ⟨hlow, hhigh, hshift⟩ | ⟨hlow, himage⟩
    · have hupper : c.isUpper = true := isUpper_iff.mpr ⟨hlow ▸ hfirst, hhigh ▸ hlast⟩
      rw [hshift] at hlower
      rw [Char.toLower_eq_of_isUpper hupper]
      exact .inl hlower
    · have hkelvin : c.toNat = 0x212A := by omega
      rw [hshift, hkelvin] at hlower
      exact .inr (.inl ⟨Char.toNat_inj.mp hkelvin, hlower⟩)
    · have hbeyond : 0x7A < (c.toNat + r.shift).toNat := by omega
      refine .inr (.inr (.inr ⟨by omega, _, hlower, ?_⟩))
      by_cases hvalid : (c.toNat + r.shift).toNat.isValidChar
      · apply isAlphanum_eq_false_of_lt
        rwa [Char.toNat_ofNat, if_pos hvalid]
      · rw [Char.ofNat, dif_neg hvalid]
        rfl

theorem lower_ne_nil (c : Char) : lower c ≠ [] := by
  rcases lower_cases c with h | ⟨-, h⟩ | ⟨-, h⟩ | ⟨-, d, h, -⟩ <;> simp [h]

theorem isUpper_of_mem_lower {c d : Char} (h : d ∈ lower c) : d.isUpper = false := by
  rcases lower_cases c with hlower | ⟨-, hlower⟩ | ⟨-, hlower⟩ | ⟨-, e, hlower, he⟩
  · rw [hlower, List.mem_singleton] at h
    rw [h, Char.isUpper_toLower_eq_false]
  · rw [hlower, List.mem_singleton] at h
    rw [h]
    rfl
  · rw [hlower, List.mem_pair] at h
    rcases h with rfl | rfl <;> rfl
  · rw [hlower, List.mem_singleton] at h
    rw [h, isUpper_eq_false_of_isAlphanum he]

theorem lower_of_ascii {c : Char} (h : c.toNat ≤ 0x7A) : lower c = [c.toLower] := by
  rcases lower_cases c with hlower | ⟨rfl, -⟩ | ⟨rfl, -⟩ | ⟨hbeyond, -⟩
  · exact hlower
  · exact absurd h (by decide)
  · exact absurd h (by decide)
  · omega

theorem lower_toLower (c : Char) : lower c.toLower = lower c := by
  by_cases h : c.isUpper = true
  · have hupper := isUpper_iff.mp h
    have hlower : c.toLower.toNat ≤ 0x7A := by
      by_contra hbeyond
      have halnum := isAlphanum_eq_false_of_lt (Nat.lt_of_not_le hbeyond)
      rw [isAlphanum_toLower, Bool.eq_false_iff] at halnum
      exact halnum (isAlphanum_iff.mpr (.inl hupper))
    rw [lower_of_ascii hlower, lower_of_ascii (by omega), Char.toLower_toLower_eq_toLower]
  · rw [Char.toLower_eq_of_not_isUpper h]

/-- The characters whose lower-case form has no ASCII letter or digit. -/
theorem forall_mem_lower_iff {c : Char} : (∀ d ∈ lower c, d.isAlphanum = false) ↔
    c.isAlphanum = false ∧ c ≠ kelvinSign ∧ c ≠ dottedCapitalI := by
  have hkelvin : ∃ d ∈ lower kelvinSign, d.isAlphanum = true := ⟨'k', by decide +kernel, rfl⟩
  have hdotted : ∃ d ∈ lower dottedCapitalI, d.isAlphanum = true := ⟨'i', by decide +kernel, rfl⟩
  constructor
  · intro h
    refine ⟨?_, ?_, ?_⟩
    · rcases lower_cases c with hlower | ⟨rfl, -⟩ | ⟨rfl, -⟩ | ⟨hbeyond, -⟩
      · rw [hlower, List.forall_mem_singleton, isAlphanum_toLower] at h
        exact h
      · rfl
      · rfl
      · exact isAlphanum_eq_false_of_lt hbeyond
    · rintro rfl
      obtain ⟨d, hd, halnum⟩ := hkelvin
      exact absurd (h d hd) (by simp [halnum])
    · rintro rfl
      obtain ⟨d, hd, halnum⟩ := hdotted
      exact absurd (h d hd) (by simp [halnum])
  · rintro ⟨halnum, hkelvin, hdotted⟩
    rcases lower_cases c with hlower | ⟨h, -⟩ | ⟨h, -⟩ | ⟨-, d, hlower, hd⟩
    · rwa [hlower, List.forall_mem_singleton, isAlphanum_toLower]
    · exact absurd h hkelvin
    · exact absurd h hdotted
    · rwa [hlower, List.forall_mem_singleton]

/-! ## Whole texts -/

/-- Only the form of a capital sigma depends on where it stands. -/
theorem lowerBetween_cases (before : List Char) (c : Char) (rest : List Char) :
    lowerBetween before c rest = lower c ∨ (c = 'Σ' ∧ lowerBetween before c rest = ['ς']) := by
  unfold lowerBetween
  by_cases hsigma : c = 'Σ'
  · subst hsigma
    have hlower : lower 'Σ' = ['σ'] := by decide +kernel
    rw [if_pos rfl, hlower]
    split
    · exact .inr ⟨rfl, rfl⟩
    · exact .inl rfl
  · exact .inl (if_neg hsigma)

end Storyboard.Text
