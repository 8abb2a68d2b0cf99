import Mathlib.Data.List.Nodup

/-! # Lists

Searches by key or by number, lists joined by a mark, and lists with one element
changed.
-/
namespace List

section

variable {α β : Type} [BEq α] [LawfulBEq α] {l : List (α × β)} {a k : α} {b : β}

theorem lookup_cons_ite [DecidableEq α] :
    ((k, b) :: l).lookup a = if a = k then some b else l.lookup a := by
  rw [lookup_cons]
  by_cases h : a = k
  · simp [h]
  · have hne : (a == k) = false := beq_eq_false_iff_ne.mpr h
    simp [h, hne]

theorem lookup_filter_fst (l : List (α × β)) (a : α) :
    (l.filter fun p => a == p.1).lookup a = l.lookup a := by
  induction l with
  | nil => rfl
  | cons p l ih =>
    obtain ⟨k, b⟩ := p
    by_cases h : a = k
    · simp [h]
    · have hne : (a == k) = false := beq_eq_false_iff_ne.mpr h
      simp [ih, lookup_cons, hne]

theorem lookup_filter_ne [DecidableEq α] (l : List (α × β)) (a k : α) :
    (l.filter fun p => p.1 != k).lookup a = if a = k then none else l.lookup a := by
  induction l with
  | nil => simp
  | cons p l ih =>
    obtain ⟨k', b⟩ := p
    by_cases hk : k' = k
    · subst hk
      rw [filter_cons_of_neg (by simp), ih, lookup_cons_ite]
      split <;> rfl
    · rw [filter_cons_of_pos (by simpa using hk), lookup_cons_ite, lookup_cons_ite, ih]
      by_cases ha : a = k'
      · simp [ha, hk]
      · simp [ha]

theorem lookup_eq_none_iff_notMem : l.lookup a = none ↔ a ∉ l.map Prod.fst := by
  simp only [lookup_eq_none_iff, mem_map, bne_iff_ne]
  constructor
  · rintro h ⟨p, hp, rfl⟩
    exact h p hp rfl
  · rintro h p hp rfl
    exact h ⟨p, hp, rfl⟩

theorem lookup_eq_some_iff_mem (h : (l.map Prod.fst).Nodup) :
    l.lookup a = some b ↔ (a, b) ∈ l := by
  constructor
  · intro hlookup
    obtain ⟨front, back, rfl, -⟩ := lookup_eq_some_iff.mp hlookup
    simp
  · intro hmem
    cases hlookup : l.lookup a with
    | none => exact absurd (mem_map_of_mem hmem) (lookup_eq_none_iff_notMem.mp hlookup)
    | some c =>
      obtain ⟨front, back, rfl, -⟩ := lookup_eq_some_iff.mp hlookup
      have hsame : (a, c) = (a, b) := inj_on_of_nodup_map h (by simp) hmem rfl
      simpa using hsame

end

theorem findSome?_range_eq_some_iff {α : Type} {f : Nat → Option α} {size : Nat} {x : α} :
    (range size).findSome? f = some x ↔ ∃ n < size, f n = some x ∧ ∀ k < n, f k = none := by
  induction size with
  | zero => simp
  | succ size ih =>
    rw [range_succ, findSome?_append, Option.or_eq_some_iff, ih, findSome?_eq_none_iff]
    constructor
    · rintro (⟨n, hn, hx, hbefore⟩ | ⟨hbefore, hx⟩)
      · exact ⟨n, Nat.lt_succ_of_lt hn, hx, hbefore⟩
      · exact ⟨size, Nat.lt_succ_self size, by simpa using hx,
          fun k hk => hbefore k (mem_range.mpr hk)⟩
    · rintro ⟨n, hn, hx, hbefore⟩
      rcases Nat.lt_or_eq_of_le (Nat.le_of_lt_succ hn) with hlt | rfl
      · exact Or.inl ⟨n, hlt, hx, hbefore⟩
      · exact Or.inr ⟨fun k hk => hbefore k (mem_range.mp hk), by simpa using hx⟩

theorem map_modify_of_getElem? {α β : Type} {l : List α} {f : α → α} {g : α → β} {i : Nat} {a : α}
    (ha : l[i]? = some a) (h : g (f a) = g a) : (l.modify i f).map g = l.map g := by
  apply ext_getElem?
  intro j
  rw [getElem?_map, getElem?_map, getElem?_modify]
  by_cases hij : i = j
  · subst hij
    rw [ha]
    simp [h]
  · cases l[j]? <;> simp [hij]

theorem of_head?_dropWhile {α : Type} {p : α → Bool} {l : List α} {a : α}
    (h : (l.dropWhile p).head? = some a) : p a = false := by
  have hnot := head?_dropWhile_not p l
  rwa [h] at hnot

theorem reverse_eq_append_dropWhile {α : Type} (p : α → Bool) (l : List α) :
    l.reverse = (l.dropWhile p).reverse ++ (l.takeWhile p).reverse := by
  rw [← reverse_append, takeWhile_append_dropWhile]

section

variable {α : Type} (mark : α)

theorem intercalate_mark_cons (part next : List α) (parts : List (List α)) :
    [mark].intercalate (part :: next :: parts) =
      part ++ mark :: [mark].intercalate (next :: parts) := by
  rw [intercalate_cons_cons, append_assoc, singleton_append]

theorem intercalate_mark_concat {parts : List (List α)} (part : List α) (hne : parts ≠ []) :
    [mark].intercalate (parts ++ [part]) = [mark].intercalate parts ++ mark :: part := by
  induction parts with
  | nil => exact absurd rfl hne
  | cons first parts ih =>
    cases parts with
    | nil => simp [intercalate]
    | cons next parts =>
      have hrest := ih (cons_ne_nil next parts)
      simp only [cons_append] at hrest ⊢
      rw [intercalate_mark_cons, hrest, intercalate_mark_cons]
      simp

theorem exists_intercalate_eq_append (parts : List (List α)) (hne : parts ≠ []) :
    ∃ front, [mark].intercalate parts = front ++ parts.getLast hne := by
  induction parts with
  | nil => exact absurd rfl hne
  | cons part parts ih =>
    cases parts with
    | nil => exact ⟨[], by simp [intercalate]⟩
    | cons next parts =>
      obtain ⟨front, hfront⟩ := ih (cons_ne_nil next parts)
      refine ⟨part ++ mark :: front, ?_⟩
      rw [intercalate_mark_cons, hfront, getLast_cons (cons_ne_nil next parts)]
      simp

theorem intercalate_mark_prefix_append (parts others : List (List α)) :
    [mark].intercalate parts <+: [mark].intercalate (parts ++ others) := by
  induction parts with
  | nil => exact nil_prefix
  | cons part parts ih =>
    cases parts with
    | nil =>
      cases others with
      | nil => exact prefix_rfl
      | cons other others =>
        rw [singleton_append, intercalate_mark_cons]
        simp [intercalate]
    | cons next parts =>
      rw [cons_append, cons_append, intercalate_mark_cons, intercalate_mark_cons]
      obtain ⟨more, hmore⟩ := ih
      exact ⟨more, by rw [← cons_append, ← hmore]; simp⟩

end

end List
