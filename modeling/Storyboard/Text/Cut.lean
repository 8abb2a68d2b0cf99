/-! # Cutting texts

Ways to take a text apart at a character or at a short text. Each cut loses
nothing but the mark itself.
-/
namespace Storyboard.Text

/-- The parts of a text between the occurrences of one character. There is
always at least one part. -/
def split {α : Type} [DecidableEq α] (mark : α) : List α → List (List α)
  | [] => [[]]
  | c :: cs =>
    if c = mark then [] :: split mark cs
    else match split mark cs with
      | [] => [[c]]
      | part :: parts => (c :: part) :: parts

def cut (mark : Char) : List Char → Option (List Char × List Char)
  | [] => none
  | c :: cs =>
    if c = mark then some ([], cs)
    else (cut mark cs).map fun (before, after) => (c :: before, after)

def after? (start cs : List Char) : Option (List Char) :=
  if start.isPrefixOf cs then some (cs.drop start.length) else none

def cutAt (mark : List Char) : List Char → Option (List Char × List Char)
  | [] => if mark.isEmpty then some ([], []) else none
  | c :: cs =>
    if mark.isPrefixOf (c :: cs) then some ([], (c :: cs).drop mark.length)
    else (cutAt mark cs).map fun (before, after) => (c :: before, after)

def replaceFirst (old new : Char) : List Char → List Char
  | [] => []
  | c :: cs => if c = old then new :: cs else c :: replaceFirst old new cs

theorem split_ne_nil {α : Type} [DecidableEq α] (mark : α) (cs : List α) : split mark cs ≠ [] := by
  induction cs with
  | nil => simp [split]
  | cons c cs ih =>
    unfold split
    by_cases h : c = mark
    · simp [h]
    · simp only [h, if_false]
      cases hs : split mark cs <;> simp

theorem eq_of_cut {mark : Char} {cs before after : List Char}
    (h : cut mark cs = some (before, after)) : cs = before ++ mark :: after := by
  induction cs generalizing before with
  | nil => cases h
  | cons c cs ih =>
    unfold cut at h
    split at h
    · next hc => cases h; rw [hc]; rfl
    · obtain ⟨⟨b, a⟩, hb, he⟩ := Option.map_eq_some_iff.mp h
      cases he
      rw [ih hb]
      rfl

theorem cut_append {mark : Char} {before : List Char} (h : mark ∉ before)
    (after : List Char) : cut mark (before ++ mark :: after) = some (before, after) := by
  induction before with
  | nil => simp [cut]
  | cons c cs ih =>
    have hc : c ≠ mark := fun hc => h (by simp [hc])
    have hcs : mark ∉ cs := fun hcs => h (by simp [hcs])
    simp [cut, hc, ih hcs]

theorem eq_of_after? {start cs rest : List Char} (h : after? start cs = some rest) :
    cs = start ++ rest := by
  unfold after? at h
  split at h
  · next hp =>
    cases h
    obtain ⟨t, ht⟩ := List.isPrefixOf_iff_prefix.mp hp
    rw [← ht, List.drop_left]
  · cases h

theorem eq_of_cutAt {mark cs before after : List Char}
    (h : cutAt mark cs = some (before, after)) : cs = before ++ mark ++ after := by
  induction cs generalizing before with
  | nil =>
    unfold cutAt at h
    split at h
    · next hm => cases h; rw [List.isEmpty_iff.mp hm]; rfl
    · cases h
  | cons c cs ih =>
    unfold cutAt at h
    split at h
    · next hp =>
      cases h
      obtain ⟨t, ht⟩ := List.isPrefixOf_iff_prefix.mp hp
      rw [← ht, List.drop_left]
      rfl
    · obtain ⟨⟨b, a⟩, hb, he⟩ := Option.map_eq_some_iff.mp h
      cases he
      rw [ih hb]
      simp

end Storyboard.Text
