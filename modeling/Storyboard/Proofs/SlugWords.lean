import Storyboard.Proofs.Lists
import Storyboard.Proofs.LoweredText
import Storyboard.Slug

/-! # The words of a slug

A slug is the words of the lower-cased title, joined by single hyphens. A word is a
maximal run of ASCII letters and digits. Trimming, collapsing and stripping hyphens touch
only what is between words, so none of them changes the words, and what they leave is
words and single hyphens.
-/
namespace Storyboard

namespace Text

theorem exists_append_trimBy (p : Char → Bool) (cs : List Char) :
    ∃ front back, cs = front ++ trimBy p cs ++ back ∧ (∀ c ∈ front, p c = true) ∧
      ∀ c ∈ back, p c = true := by
  refine ⟨cs.takeWhile p, ((cs.dropWhile p).reverse.takeWhile p).reverse, ?_, ?_, ?_⟩
  · rw [trimBy, List.append_assoc, ← List.reverse_append, List.takeWhile_append_dropWhile,
      List.reverse_reverse, List.takeWhile_append_dropWhile]
  · exact fun c hc => List.mem_takeWhile_imp hc
  · exact fun c hc => List.mem_takeWhile_imp (List.mem_reverse.mp hc)

theorem trimBy_isInfix (p : Char → Bool) (cs : List Char) : trimBy p cs <:+: cs := by
  obtain ⟨front, back, hcs, -, -⟩ := exists_append_trimBy p cs
  exact ⟨front, back, hcs.symm⟩

theorem of_mem_getLast?_trimBy {p : Char → Bool} {cs : List Char} {c : Char}
    (h : (trimBy p cs).getLast? = some c) : p c = false := by
  rw [trimBy, List.getLast?_reverse] at h
  exact List.of_head?_dropWhile h

theorem of_mem_head?_trimBy {p : Char → Bool} {cs : List Char} {c : Char}
    (h : (trimBy p cs).head? = some c) : p c = false := by
  have htrimmed : (List.rdropWhile p (cs.dropWhile p)).head? = some c := h
  obtain ⟨rest, hrest⟩ := List.rdropWhile_prefix p (cs.dropWhile p)
  apply List.of_head?_dropWhile
  rw [← hrest, List.head?_append, htrimmed, Option.some_or]

end Text

namespace Slug

open Text (lower lowerCase lowerFrom lowerBetween kelvinSign dottedCapitalI
  lowerBetween_cases lower_ne_nil lower_toLower forall_mem_lower_iff)

/-! ## Words -/

/-- The words of a text: its maximal runs of word characters, in their order. -/
def words (cs : List Char) : List (List Char) :=
  (cs.splitOnP fun c => !isWordChar c).filter fun w => !w.isEmpty

def IsWord (w : List Char) : Prop := w ≠ [] ∧ ∀ c ∈ w, isWordChar c = true

/-- A text has certain maximal runs of word characters: it is taken apart into words and
separators, and a word ends at a separator or with the text. -/
inductive Runs : List Char → List (List Char) → Prop
  | none : Runs [] []
  | skip {c : Char} {cs : List Char} {ws : List (List Char)} (hc : isWordChar c = false)
    (rest : Runs cs ws) : Runs (c :: cs) ws
  | last {w : List Char} (hw : IsWord w) : Runs w [w]
  | word {w : List Char} {c : Char} {cs : List Char} {ws : List (List Char)} (hw : IsWord w)
    (hc : isWordChar c = false) (rest : Runs cs ws) : Runs (w ++ c :: cs) (w :: ws)

@[simp] theorem words_nil : words [] = [] := rfl

theorem words_append_cons {c : Char} (hc : isWordChar c = false) (xs ys : List Char) :
    words (xs ++ c :: ys) = words xs ++ words ys := by
  rw [words, List.splitOnP_append_cons xs ys (by simp [hc]), List.filter_append]
  rfl

theorem words_cons {c : Char} (hc : isWordChar c = false) (cs : List Char) :
    words (c :: cs) = words cs := words_append_cons hc [] cs

theorem IsWord.words_eq {w : List Char} (h : IsWord w) : words w = [w] := by
  rw [words, List.splitOnP_eq_singleton (fun c hc => by simp [h.2 c hc])]
  simp [h.1]

theorem Runs.words_eq {cs : List Char} {ws : List (List Char)} (h : Runs cs ws) :
    words cs = ws := by
  induction h with
  | none => rfl
  | skip hc _ ih => rw [words_cons hc, ih]
  | last hw => exact hw.words_eq
  | word hw hc _ ih => rw [words_append_cons hc, hw.words_eq, ih, List.singleton_append]

theorem IsWord.cons {c : Char} (hc : isWordChar c = true) {w : List Char} (hw : IsWord w) :
    IsWord (c :: w) := by
  refine ⟨List.cons_ne_nil c w, ?_⟩
  rw [List.forall_mem_cons]
  exact ⟨hc, hw.2⟩

theorem isWord_singleton {c : Char} (hc : isWordChar c = true) : IsWord [c] :=
  ⟨List.cons_ne_nil c [], List.forall_mem_singleton.mpr hc⟩

theorem exists_runs (cs : List Char) : ∃ ws, Runs cs ws := by
  induction cs with
  | nil => exact ⟨[], .none⟩
  | cons c cs ih =>
    obtain ⟨ws, h⟩ := ih
    by_cases hc : isWordChar c = true
    · -- A word character starts a word or goes on with the first one.
      cases h with
      | none => exact ⟨_, .last (isWord_singleton hc)⟩
      | skip hd rest => exact ⟨_, .word (isWord_singleton hc) hd rest⟩
      | last hw => exact ⟨_, .last (hw.cons hc)⟩
      | word hw hd rest => exact ⟨_, .word (hw.cons hc) hd rest⟩
    · exact ⟨ws, .skip (Bool.eq_false_iff.mpr hc) h⟩

theorem runs_iff {cs : List Char} {ws : List (List Char)} : Runs cs ws ↔ ws = words cs := by
  constructor
  · exact fun h => h.words_eq.symm
  · rintro rfl
    obtain ⟨ws, h⟩ := exists_runs cs
    rwa [h.words_eq]

theorem runs_words (cs : List Char) : Runs cs (words cs) := runs_iff.mpr rfl

/-! ## Separators -/

variable {before after : List Char}

theorem words_append_left (h : ∀ c ∈ before, isWordChar c = false) (cs : List Char) :
    words (before ++ cs) = words cs := by
  induction before with
  | nil => rfl
  | cons c before ih =>
    rw [List.forall_mem_cons] at h
    rw [List.cons_append, words_cons h.1, ih h.2]

/-- Which separators stand between two texts does not matter, if there is one. -/
theorem words_separated {between : List Char} (hne : between ≠ [])
    (h : ∀ c ∈ between, isWordChar c = false) (xs ys : List Char) :
    words (xs ++ between ++ ys) = words xs ++ words ys := by
  cases between with
  | nil => exact absurd rfl hne
  | cons c between =>
    rw [List.forall_mem_cons] at h
    rw [List.append_assoc, List.cons_append, words_append_cons h.1, words_append_left h.2]

theorem words_surrounded (hbefore : ∀ c ∈ before, isWordChar c = false)
    (hafter : ∀ c ∈ after, isWordChar c = false) (cs : List Char) :
    words (before ++ cs ++ after) = words cs := by
  rw [List.append_assoc, words_append_left hbefore]
  by_cases hne : after = []
  · rw [hne, List.append_nil]
  · have hwords := words_separated hne hafter cs []
    simpa using hwords

theorem words_trimBy {p : Char → Bool} (h : ∀ c, p c = true → isWordChar c = false)
    (cs : List Char) : words (Text.trimBy p cs) = words cs := by
  obtain ⟨front, back, hcs, hfront, hback⟩ := Text.exists_append_trimBy p cs
  conv_rhs => rw [hcs]
  rw [words_surrounded (fun c hc => h c (hfront c hc)) (fun c hc => h c (hback c hc))]

/-! ## Collapsing -/

theorem collapseFrom_of_word {c : Char} (hc : isWordChar c = true) (inRun : Bool)
    (cs : List Char) : collapseFrom inRun (c :: cs) = c :: collapseFrom false cs := by
  rw [collapseFrom, if_pos hc]

theorem collapseFrom_of_separator {c : Char} (hc : isWordChar c = false) (inRun : Bool)
    (cs : List Char) : collapseFrom inRun (c :: cs) =
      (if inRun then [] else ['-']) ++ collapseFrom true cs := by
  rw [collapseFrom, hc, if_neg Bool.false_ne_true]
  cases inRun <;> rfl

theorem collapseFrom_append {w : List Char} (hw : ∀ c ∈ w, isWordChar c = true)
    (cs : List Char) : collapseFrom false (w ++ cs) = w ++ collapseFrom false cs := by
  induction w with
  | nil => rfl
  | cons c w ih =>
    rw [List.forall_mem_cons] at hw
    rw [List.cons_append, collapseFrom_of_word hw.1, ih hw.2, List.cons_append]

theorem IsWord.collapseFrom_append {w : List Char} (hw : IsWord w) (inRun : Bool)
    (cs : List Char) : collapseFrom inRun (w ++ cs) = w ++ collapseFrom false cs := by
  obtain ⟨hne, hchars⟩ := hw
  cases w with
  | nil => exact absurd rfl hne
  | cons c w =>
    rw [List.forall_mem_cons] at hchars
    rw [List.cons_append, collapseFrom_of_word hchars.1, Slug.collapseFrom_append hchars.2,
      List.cons_append]

theorem isWordChar_hyphen : isWordChar '-' = false := rfl

theorem Runs.collapseFrom {cs : List Char} {ws : List (List Char)} (h : Runs cs ws)
    (inRun : Bool) : Runs (collapseFrom inRun cs) ws := by
  induction h generalizing inRun with
  | none => exact .none
  | skip hc _ ih =>
    rw [collapseFrom_of_separator hc]
    cases inRun with
    | false => exact .skip isWordChar_hyphen (ih true)
    | true => exact ih true
  | @last w hw =>
    have hword := hw.collapseFrom_append inRun []
    rw [List.append_nil] at hword
    rw [hword, Slug.collapseFrom, List.append_nil]
    exact .last hw
  | word hw hc _ ih =>
    rw [hw.collapseFrom_append, collapseFrom_of_separator hc]
    exact .word hw isWordChar_hyphen (ih true)

theorem words_collapse (cs : List Char) : words (collapse cs) = words cs :=
  ((runs_words cs).collapseFrom false).words_eq

def Alternating (t : List Char) : Prop := t.IsChain fun a b => a = '-' → b ≠ '-'

theorem alternating_collapseFrom (inRun : Bool) (cs : List Char) :
    (inRun = true → (collapseFrom inRun cs).head? ≠ some '-') ∧
      Alternating (collapseFrom inRun cs) := by
  unfold Alternating
  induction cs generalizing inRun with
  | nil => exact ⟨fun _ => by simp [collapseFrom], .nil⟩
  | cons c cs ih =>
    by_cases hc : isWordChar c = true
    · have hne : c ≠ '-' := by
        rintro rfl
        cases hc
      rw [collapseFrom_of_word hc, List.isChain_cons]
      refine ⟨fun _ => ?_, fun d _ hhyphen => absurd hhyphen hne, (ih false).2⟩
      simpa using hne
    · rw [collapseFrom_of_separator (Bool.eq_false_iff.mpr hc)]
      obtain ⟨hhead, hchain⟩ := ih true
      cases inRun with
      | true => exact ⟨hhead, hchain⟩
      | false =>
        refine ⟨fun h => absurd h Bool.false_ne_true, ?_⟩
        refine List.isChain_cons.mpr ⟨fun d hd _ => ?_, hchain⟩
        rintro rfl
        exact hhead rfl hd

theorem mem_of_mem_collapseFrom {inRun : Bool} {cs : List Char} {c : Char}
    (h : c ∈ collapseFrom inRun cs) : c = '-' ∨ (c ∈ cs ∧ isWordChar c = true) := by
  induction cs generalizing inRun with
  | nil => cases h
  | cons d cs ih =>
    by_cases hd : isWordChar d = true
    · rw [collapseFrom_of_word hd, List.mem_cons] at h
      rcases h with rfl | h
      · exact .inr ⟨List.mem_cons_self, hd⟩
      · exact (ih h).imp_right fun hc => ⟨List.mem_cons_of_mem d hc.1, hc.2⟩
    · rw [collapseFrom_of_separator (Bool.eq_false_iff.mpr hd), List.mem_append] at h
      rcases h with h | h
      · cases inRun with
        | true => cases h
        | false => exact .inl (List.mem_singleton.mp h)
      · exact (ih h).imp_right fun hc => ⟨List.mem_cons_of_mem d hc.1, hc.2⟩

/-! ## Hyphenated texts -/

/-- Words joined by single hyphens, as far as the hyphens are concerned. -/
structure Hyphenated (t : List Char) : Prop where
  chars : ∀ c ∈ t, isWordChar c = true ∨ c = '-'
  head : t.head? ≠ some '-'
  last : t.getLast? ≠ some '-'
  alternating : Alternating t

/-- A title whose separators have been collapsed and stripped. -/
theorem hyphenated_trimBy_collapse (cs : List Char) :
    Hyphenated (Text.trimBy (· == '-') (collapse cs)) := by
  have hinside := Text.trimBy_isInfix (· == '-') (collapse cs)
  refine ⟨fun c hc => ?_, fun h => ?_, fun h => ?_, ?_⟩
  · exact (mem_of_mem_collapseFrom (hinside.subset hc)).symm.imp_left And.right
  · exact absurd (Text.of_mem_head?_trimBy h) (by decide)
  · exact absurd (Text.of_mem_getLast?_trimBy h) (by decide)
  · exact List.IsChain.infix (alternating_collapseFrom false cs).2 hinside

theorem Hyphenated.of_append {w cs : List Char} (h : Hyphenated (w ++ '-' :: cs)) :
    cs ≠ [] ∧ Hyphenated cs := by
  have hne : cs ≠ [] := by
    rintro rfl
    exact h.last (by simp)
  have hchain := h.alternating.right_of_append
  refine ⟨hne, fun c hc => ?_, fun hhead => ?_, fun hlast => ?_, hchain.tail⟩
  · exact h.chars c (List.mem_append_right w (List.mem_cons_of_mem '-' hc))
  · exact (List.isChain_cons.mp hchain).1 '-' hhead rfl rfl
  · apply h.last
    rw [List.getLast?_append, List.getLast?_cons, hlast]
    rfl

theorem Runs.eq_intercalate {t : List Char} {ws : List (List Char)} (h : Runs t ws)
    (ht : Hyphenated t) : t = List.intercalate ['-'] ws := by
  induction h with
  | none => rfl
  | @skip c cs ws hc _ _ =>
    rcases ht.chars c List.mem_cons_self with hword | rfl
    · exact absurd hword (Bool.eq_false_iff.mp hc)
    · exact absurd rfl ht.head
  | last hw => exact List.intercalate_singleton.symm
  | @word w c cs ws hw hc _ ih =>
    obtain rfl : c = '-' := by
      rcases ht.chars c (List.mem_append_right w List.mem_cons_self) with hword | hhyphen
      · exact absurd hword (Bool.eq_false_iff.mp hc)
      · exact hhyphen
    obtain ⟨hne, hcs⟩ := ht.of_append
    have hrest := ih hcs
    have hws : ws ≠ [] := by
      rintro rfl
      exact hne hrest
    rw [List.intercalate_cons_of_ne_nil hws, ← hrest, List.append_assoc, List.singleton_append]

theorem Hyphenated.eq_intercalate {t : List Char} (h : Hyphenated t) :
    t = List.intercalate ['-'] (words t) := (runs_words t).eq_intercalate h

/-! ## Lower-casing -/

def hyphened (c : Char) : Char := if isWordChar c then c else '-'

theorem hyphened_of_separator {c : Char} (hc : isWordChar c = false) : hyphened c = '-' := by
  rw [hyphened, hc, if_neg Bool.false_ne_true]

theorem IsWord.map_hyphened {w : List Char} (hw : IsWord w) : w.map hyphened = w := by
  have hsame : w.map hyphened = w.map id := List.map_congr_left fun c hc => if_pos (hw.2 c hc)
  rw [hsame, List.map_id]

theorem words_map_hyphened (cs : List Char) : words (cs.map hyphened) = words cs := by
  suffices h : ∀ ws, Runs cs ws → Runs (cs.map hyphened) ws from (h _ (runs_words cs)).words_eq
  intro ws h
  induction h with
  | none => exact .none
  | skip hc _ ih =>
    rw [List.map_cons, hyphened_of_separator hc]
    exact .skip isWordChar_hyphen ih
  | last hw =>
    rw [hw.map_hyphened]
    exact .last hw
  | word hw hc _ ih =>
    rw [List.map_append, List.map_cons, hw.map_hyphened, hyphened_of_separator hc]
    exact .word hw isWordChar_hyphen ih

theorem map_hyphened_lowerFrom (before cs : List Char) :
    (lowerFrom before cs).map hyphened = (cs.flatMap lower).map hyphened := by
  induction cs generalizing before with
  | nil => rfl
  | cons c cs ih =>
    have hfirst : (lowerBetween before c cs).map hyphened = (lower c).map hyphened := by
      rcases lowerBetween_cases before c cs with h | ⟨rfl, h⟩
      · rw [h]
      · rw [h]
        decide +kernel
    rw [lowerFrom, List.map_append, List.flatMap_cons, List.map_append, hfirst, ih]

theorem words_lowerCase (cs : List Char) : words (lowerCase cs) = words (cs.flatMap lower) := by
  rw [← words_map_hyphened, lowerCase, map_hyphened_lowerFrom, words_map_hyphened]

/-- A character that separates words, which are looked for in lower case. -/
def IsSeparator (c : Char) : Prop := c.isAlphanum = false ∧ c ≠ kelvinSign ∧ c ≠ dottedCapitalI

instance (c : Char) : Decidable (IsSeparator c) := by
  unfold IsSeparator
  infer_instance

theorem isSeparator_of_isBlank {c : Char} (h : Text.isBlank c = true) : IsSeparator c := by
  simp only [Text.isBlank, Bool.or_eq_true, Bool.and_eq_true, decide_eq_true_eq, beq_iff_eq] at h
  refine ⟨?_, ?_, ?_⟩
  · rw [Bool.eq_false_iff]
    intro halnum
    rw [Text.isAlphanum_iff] at halnum
    omega
  · rintro rfl
    exact absurd h (by decide)
  · rintro rfl
    exact absurd h (by decide)

theorem forall_mem_flatMap_lower {s : List Char} (h : ∀ c ∈ s, IsSeparator c) :
    ∀ d ∈ s.flatMap lower, isWordChar d = false := by
  intro d hd
  obtain ⟨c, hc, hd⟩ := List.mem_flatMap.mp hd
  exact forall_mem_lower_iff.mpr (h c hc) d hd

theorem words_lowerCase_surrounded (hbefore : ∀ c ∈ before, IsSeparator c)
    (hafter : ∀ c ∈ after, IsSeparator c) (cs : List Char) :
    words (lowerCase (before ++ cs ++ after)) = words (lowerCase cs) := by
  rw [words_lowerCase, words_lowerCase, List.flatMap_append, List.flatMap_append,
    words_surrounded (forall_mem_flatMap_lower hbefore) (forall_mem_flatMap_lower hafter)]

theorem words_lowerCase_separated {between : List Char} (hne : between ≠ [])
    (h : ∀ c ∈ between, IsSeparator c) (xs ys : List Char) :
    words (lowerCase (xs ++ between ++ ys)) = words (lowerCase xs) ++ words (lowerCase ys) := by
  have hlowered : between.flatMap lower ≠ [] := by
    cases between with
    | nil => exact absurd rfl hne
    | cons c between =>
      rw [List.flatMap_cons]
      exact List.append_ne_nil_of_left_ne_nil (lower_ne_nil c) _
  simp only [words_lowerCase, List.flatMap_append]
  rw [words_separated hlowered (forall_mem_flatMap_lower h)]

theorem words_lowerCase_trim (cs : List Char) :
    words (lowerCase (Text.trim cs)) = words (lowerCase cs) := by
  obtain ⟨front, back, hcs, hfront, hback⟩ := Text.exists_append_trimBy Text.isBlank cs
  conv_rhs => rw [hcs]
  exact (words_lowerCase_surrounded (fun c hc => isSeparator_of_isBlank (hfront c hc))
    (fun c hc => isSeparator_of_isBlank (hback c hc)) _).symm

/-! ## Slugs -/

def joined (ws : List (List Char)) : String :=
  if ws.isEmpty then fallback else String.ofList (List.intercalate ['-'] ws)

/-- What is left of a title before the fallback is considered. -/
def stripped (title : String) : List Char :=
  Text.trimBy (· == '-') (collapse (lowerCase (Text.trim title.toList)))

theorem words_stripped (title : String) :
    words (stripped title) = words (lowerCase title.toList) := by
  have hhyphen : ∀ c : Char, (c == '-') = true → isWordChar c = false := by
    intro c hc
    rw [eq_of_beq hc, isWordChar_hyphen]
  rw [stripped, words_trimBy hhyphen, words_collapse, words_lowerCase_trim]

theorem ofTitle_eq_ite (title : String) : ofTitle title =
    if (stripped title).isEmpty then fallback else String.ofList (stripped title) := rfl

theorem stripped_eq (title : String) :
    stripped title = List.intercalate ['-'] (words (lowerCase title.toList)) := by
  rw [← words_stripped]
  exact (hyphenated_trimBy_collapse _).eq_intercalate

theorem ofTitle_eq (title : String) :
    ofTitle title = joined (words (lowerCase title.toList)) := by
  rw [ofTitle_eq_ite, joined]
  by_cases hwords : words (lowerCase title.toList) = []
  · rw [stripped_eq, hwords]
    rfl
  · have hstripped : stripped title ≠ [] := by
      intro hempty
      rw [← words_stripped, hempty] at hwords
      exact hwords words_nil
    rw [if_neg (by simpa using hstripped), if_neg (by simpa using hwords), stripped_eq]

/-- A slug is made of the maximal runs of ASCII letters and digits of the lower-cased
title. White space around the title, the case of its ASCII letters and the separators
between two words make no difference. -/
theorem ofTitle_joins_words (title : String) :
    (∀ ws, Runs (lowerCase title.toList) ws ↔ ws = words (lowerCase title.toList)) ∧
      ofTitle title = joined (words (lowerCase title.toList)) ∧
      (∀ before after : String, (∀ c ∈ before.toList, Text.isBlank c = true) →
        (∀ c ∈ after.toList, Text.isBlank c = true) →
          ofTitle (before ++ title ++ after) = ofTitle title) ∧
      (∀ other : String, other.toLower = title.toLower → ofTitle other = ofTitle title) ∧
      ∀ between between' rest : String, between ≠ "" → between' ≠ "" →
        (∀ c ∈ between.toList, IsSeparator c) → (∀ c ∈ between'.toList, IsSeparator c) →
          ofTitle (title ++ between ++ rest) = ofTitle (title ++ between' ++ rest) := by
  refine ⟨fun ws => runs_iff, ofTitle_eq title, fun before after hbefore hafter => ?_,
    fun other hother => ?_, fun between between' rest hne hne' hsep hsep' => ?_⟩
  · rw [ofTitle_eq, ofTitle_eq, String.toList_append, String.toList_append,
      words_lowerCase_surrounded (fun c hc => isSeparator_of_isBlank (hbefore c hc))
        (fun c hc => isSeparator_of_isBlank (hafter c hc))]
  · have hlower : ∀ s : String, s.toList.flatMap lower = s.toLower.toList.flatMap lower := by
      intro s
      rw [String.toLower, String.toList_map, List.flatMap_map]
      simp only [lower_toLower]
    rw [ofTitle_eq, ofTitle_eq, words_lowerCase, words_lowerCase, hlower, hother, ← hlower]
  · have hwords : ∀ s : String, s ≠ "" → (∀ c ∈ s.toList, IsSeparator c) →
        words (lowerCase (title ++ s ++ rest).toList) =
          words (lowerCase title.toList) ++ words (lowerCase rest.toList) := by
      intro s hs hsep
      have hnil : s.toList ≠ [] := fun h => hs (String.toList_inj.mp h)
      rw [String.toList_append, String.toList_append, words_lowerCase_separated hnil hsep]
    rw [ofTitle_eq, ofTitle_eq, hwords between hne hsep, hwords between' hne' hsep']

/-- The Kelvin sign belongs to a word and the dotted capital I ends one after its letter;
a capital sigma separates words. -/
theorem ofTitle_joins_words_kelvin :
    let title := "\u212Aelvin \u0130"
    let between := " – ΑΣ"
    " \t".toList.all Text.isBlank = true ∧ between.toList.all (fun c => IsSeparator c) = true ∧
      words (lowerCase title.toList) = ["kelvin".toList, "i".toList] ∧
      ofTitle (" \t" ++ title ++ " \t") = "kelvin-i" ∧
      ofTitle "\u212AELVIN \u0130" = "kelvin-i" ∧
      ofTitle (title ++ between ++ "Is Ok") = ofTitle (title ++ "-" ++ "Is Ok") := by
  intro title between
  obtain ⟨-, hjoined, hblank, hcase, hseparators⟩ := ofTitle_joins_words title
  have hwords : words (lowerCase title.toList) = ["kelvin".toList, "i".toList] := by decide +kernel
  have htitle : ofTitle title = "kelvin-i" := by
    rw [hjoined, hwords]
    decide +kernel
  have hspaces : " \t".toList.all Text.isBlank = true := by decide +kernel
  have hbetween : between.toList.all (fun c => IsSeparator c) = true := by decide +kernel
  have hhyphen : "-".toList.all (fun c => IsSeparator c) = true := by decide +kernel
  have hupper : "\u212AELVIN \u0130".toLower = title.toLower := by
    rw [← String.toList_inj, String.toLower, String.toLower, String.toList_map, String.toList_map]
    decide +kernel
  refine ⟨hspaces, hbetween, hwords, ?_, ?_, ?_⟩
  · rw [hblank " \t" " \t" (List.all_eq_true.mp hspaces) (List.all_eq_true.mp hspaces), htitle]
  · rw [hcase _ hupper, htitle]
  · have hne : between ≠ "" := by decide +kernel
    have hne' : "-" ≠ "" := by decide +kernel
    exact hseparators between "-" "Is Ok" hne hne'
      (fun c hc => of_decide_eq_true (List.all_eq_true.mp hbetween c hc))
      (fun c hc => of_decide_eq_true (List.all_eq_true.mp hhyphen c hc))

end Slug
end Storyboard
