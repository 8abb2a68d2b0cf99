import Storyboard.Proofs.SlugWords

/-! # The shape of slugs

A slug has only lower-case ASCII letters, digits and hyphens, and each hyphen stands
alone between two words. Each title has a slug of this shape, and each text of this shape
is its own slug. So the texts of this shape are all slugs there are.
-/
namespace Storyboard

namespace Text

theorem isUpper_of_mem_lowerFrom {before cs : List Char} {d : Char}
    (h : d ∈ lowerFrom before cs) : d.isUpper = false := by
  induction cs generalizing before with
  | nil => cases h
  | cons c cs ih =>
    rw [lowerFrom, List.mem_append] at h
    rcases h with h | h
    · rcases lowerBetween_cases before c cs with hlower | ⟨-, hlower⟩
      · rw [hlower] at h
        exact isUpper_of_mem_lower h
      · rw [hlower, List.mem_singleton] at h
        rw [h]
        rfl
    · exact ih h

theorem lowerFrom_of_ascii {cs : List Char}
    (h : ∀ c ∈ cs, c.toNat ≤ 0x7A ∧ c.isUpper = false) (before : List Char) :
    lowerFrom before cs = cs := by
  induction cs generalizing before with
  | nil => rfl
  | cons c cs ih =>
    rw [List.forall_mem_cons] at h
    obtain ⟨⟨hascii, hupper⟩, hrest⟩ := h
    have hfirst : lowerBetween before c cs = [c] := by
      rcases lowerBetween_cases before c cs with hlower | ⟨rfl, -⟩
      · rw [hlower, lower_of_ascii hascii,
          Char.toLower_eq_of_not_isUpper (Bool.eq_false_iff.mp hupper)]
      · exact absurd hascii (by decide)
    rw [lowerFrom, hfirst, ih hrest, List.singleton_append]

end Text

namespace Slug

def isSlugChar (c : Char) : Bool := c.isLower || c.isDigit || c == '-'

def IsSlug (s : String) : Prop :=
  s ≠ "" ∧ s.toList.all isSlugChar = true ∧ s.toList.head? ≠ some '-' ∧
    s.toList.getLast? ≠ some '-' ∧ ¬['-', '-'] <:+: s.toList

instance (s : String) : Decidable (IsSlug s) := by
  unfold IsSlug
  infer_instance

theorem isSlugChar_iff {c : Char} : isSlugChar c = true ↔
    (isWordChar c = true ∨ c = '-') ∧ c.isUpper = false := by
  have hhyphen : c = '-' ↔ c.toNat = 0x2D := Char.toNat_inj.symm
  have hdigit : c.isDigit = true ↔ 0x30 ≤ c.toNat ∧ c.toNat ≤ 0x39 := Char.isDigit_iff_toNat
  simp only [isSlugChar, Bool.or_eq_true, beq_iff_eq, Bool.eq_false_iff, ne_eq, Text.isUpper_iff,
    Text.isLower_iff, hdigit, Text.isAlphanum_iff, hhyphen]
  omega

theorem alternating_iff {t : List Char} : Alternating t ↔ ¬['-', '-'] <:+: t := by
  rw [Alternating, List.isChain_iff_forall_rel_of_append_cons_cons]
  constructor
  · rintro h ⟨front, back, ht⟩
    rw [List.append_assoc] at ht
    exact h ht.symm rfl rfl
  · rintro h a b front back ht rfl rfl
    exact h ⟨front, back, by rw [ht, List.append_assoc]; rfl⟩

theorem isSlug_iff {s : String} : IsSlug s ↔
    s ≠ "" ∧ Hyphenated s.toList ∧ ∀ c ∈ s.toList, c.isUpper = false := by
  simp only [IsSlug, List.all_eq_true, isSlugChar_iff]
  constructor
  · rintro ⟨hne, hchars, hhead, hlast, hdouble⟩
    exact ⟨hne, ⟨fun c hc => (hchars c hc).1, hhead, hlast, alternating_iff.mpr hdouble⟩,
      fun c hc => (hchars c hc).2⟩
  · rintro ⟨hne, ht, hupper⟩
    exact ⟨hne, fun c hc => ⟨ht.chars c hc, hupper c hc⟩, ht.head, ht.last,
      alternating_iff.mp ht.alternating⟩

theorem isUpper_of_mem_stripped {title : String} {c : Char} (h : c ∈ stripped title) :
    c.isUpper = false := by
  rcases mem_of_mem_collapseFrom ((Text.trimBy_isInfix _ _).subset h) with rfl | ⟨hlowered, -⟩
  · rfl
  · exact Text.isUpper_of_mem_lowerFrom hlowered

theorem isSlug_ofTitle (title : String) : IsSlug (ofTitle title) := by
  rw [ofTitle_eq_ite]
  split
  · decide +kernel
  · next hne =>
    rw [isSlug_iff, String.toList_ofList]
    refine ⟨fun hempty => ?_, hyphenated_trimBy_collapse _, fun c hc => isUpper_of_mem_stripped hc⟩
    apply hne
    rw [List.isEmpty_iff, ← String.toList_ofList (l := stripped title), hempty]
    rfl

theorem ofTitle_of_isSlug {s : String} (h : IsSlug s) : ofTitle s = s := by
  obtain ⟨hne, ht, hupper⟩ := isSlug_iff.mp h
  have hascii : ∀ c ∈ s.toList, c.toNat ≤ 0x7A ∧ c.isUpper = false := by
    intro c hc
    refine ⟨?_, hupper c hc⟩
    rcases ht.chars c hc with hword | rfl
    · have := Text.isAlphanum_iff.mp hword
      omega
    · decide
  have hlowered : Text.lowerCase s.toList = s.toList := Text.lowerFrom_of_ascii hascii []
  have hwords : words s.toList ≠ [] := by
    intro hnil
    have hempty := ht.eq_intercalate
    rw [hnil] at hempty
    exact hne (String.toList_inj.mp hempty)
  rw [ofTitle_eq, hlowered, joined, if_neg (by simpa using hwords), ← ht.eq_intercalate,
    String.ofList_toList]

/-- Slugs are what titles are turned into, and of all texts only they stay as they are. -/
theorem ofTitle_fixed :
    (∀ title, IsSlug (ofTitle title)) ∧ (∀ s, ofTitle s = s ↔ IsSlug s) ∧
      (∀ title, ofTitle (ofTitle title) = ofTitle title) ∧ Set.range ofTitle = {s | IsSlug s} := by
  refine ⟨isSlug_ofTitle, fun s => ⟨fun h => ?_, ofTitle_of_isSlug⟩,
    fun title => ofTitle_of_isSlug (isSlug_ofTitle title), ?_⟩
  · rw [← h]
    exact isSlug_ofTitle s
  · ext s
    constructor
    · rintro ⟨title, rfl⟩
      exact isSlug_ofTitle title
    · exact fun h => ⟨s, ofTitle_of_isSlug h⟩

end Slug
end Storyboard
