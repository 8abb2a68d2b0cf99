import Storyboard.Time.Stamp

/-! # The order of layouts

A year is read alike in all layouts, and what follows it tells the compact layouts from
the dashed ones: a month or a dash. So no text has a reading of both kinds. A layout with
a fraction reads all that the same layout without it reads, as the same wall time. Hence
the order in which the layouts are tried does not matter, and those with a fraction are
enough.
-/
namespace Storyboard.Time

theorem readPair_dash (rest : List Char) : readPair ('-' :: rest) = none := by
  simp [readPair, readDigits, Text.isBlank]

theorem Item.nanos_read_of_ne {item : Item} (h : item ≠ .fraction) {f f' : Fields}
    {cs rest : List Char} (hread : item.read f cs = some (f', rest)) : f'.nanos = f.nanos := by
  cases item with
  | fraction => exact absurd rfl h
  | space =>
    cases hread
    rfl
  | mark c =>
    cases cs with
    | nil => cases hread
    | cons c' cs =>
      rw [Item.read] at hread
      split at hread
      · cases hread
        rfl
      · cases hread
  | _ =>
    obtain ⟨⟨n, r⟩, -, he⟩ := Option.map_eq_some_iff.mp hread
    cases he
    rfl

namespace Layout

variable {f f' : Fields} {cs rest : List Char} {w : WallTime}

theorem readFrom_append (f : Fields) (layout items : Layout) (cs : List Char) :
    readFrom f (layout ++ items) cs =
      (readFrom f layout cs).bind fun r => readFrom r.1 items r.2 := by
  induction layout generalizing f cs with
  | nil => rfl
  | cons item layout ih =>
    rw [List.cons_append, readFrom, readFrom]
    cases item.read f cs with
    | none => rfl
    | some r => exact ih r.1 r.2

theorem nanos_readFrom_of_not_mem {layout : Layout} (h : .fraction ∉ layout)
    (hread : readFrom f layout cs = some (f', rest)) : f'.nanos = f.nanos := by
  induction layout generalizing f cs with
  | nil =>
    cases hread
    rfl
  | cons item layout ih =>
    rw [List.mem_cons, not_or] at h
    rw [readFrom] at hread
    split at hread
    · cases hread
    · next hitem => rw [ih h.2 hread, Item.nanos_read_of_ne (Ne.symm h.1) hitem]

theorem read?_eq_some_iff {layout : Layout} : layout.read? cs = some w ↔
    ∃ f, readFrom {} layout cs = some (f, []) ∧ f.toWallTime? = some w := by
  unfold read?
  constructor
  · intro h
    split at h
    · next f hread => exact ⟨f, hread, h⟩
    · cases h
  · rintro ⟨f, hread, hw⟩
    rw [hread]
    exact hw

/-! ## Fractions -/

theorem read?_append_fraction {layout : Layout} (h : .fraction ∉ layout)
    (hread : layout.read? cs = some w) : read? (layout ++ [.fraction]) cs = some w := by
  obtain ⟨f, hfields, hw⟩ := read?_eq_some_iff.mp hread
  have hnanos : f.nanos = 0 := nanos_readFrom_of_not_mem h hfields
  refine read?_eq_some_iff.mpr ⟨{ f with nanos := 0 }, ?_, ?_⟩
  · rw [readFrom_append, hfields]
    rfl
  · rw [← hnanos]
    exact hw

/-! ## Compact and dashed dates -/

/-- After a year there is a month or a dash, but not both. -/
theorem readFrom_year (f f' : Fields) (items items' : Layout) (cs : List Char) :
    readFrom f (.year :: .month :: items) cs = none ∨
      readFrom f' (.year :: .mark '-' :: items') cs = none := by
  cases hyear : readYear cs with
  | none => exact .inl (by simp [readFrom, Item.read, hyear])
  | some r =>
    obtain ⟨year, rest⟩ := r
    cases rest with
    | nil => exact .inr (by simp [readFrom, Item.read, hyear])
    | cons c rest =>
      by_cases hdash : c = '-'
      · subst hdash
        exact .inl (by simp [readFrom, Item.read, hyear, readPair_dash])
      · exact .inr (by simp [readFrom, Item.read, hyear, hdash])

theorem read?_compact_or_dashed (items items' : Layout) (cs : List Char) :
    read? (compactDate ++ items) cs = none ∨ read? (dashedDate ++ items') cs = none := by
  rcases readFrom_year {} {} (.day :: .space :: items)
    (.month :: .mark '-' :: .day :: .space :: items') cs with h | h
  · exact .inl (by rw [read?, compactDate]; simp only [List.cons_append, List.nil_append, h])
  · exact .inr (by rw [read?, dashedDate]; simp only [List.cons_append, List.nil_append, h])

def fractional : List Layout := accepted.filter fun l => .fraction ∈ l
def dashed : List Layout := accepted.filter fun l => .mark '-' ∈ l
def compact : List Layout := accepted.filter fun l => .mark '-' ∉ l

theorem exists_of_mem_accepted {l : Layout} (h : l ∈ accepted) :
    ∃ date, (date = compactDate ∨ date = dashedDate) ∧
      (l = date ++ clock ∨ l = date ++ clock ++ [.fraction]) := by
  simp only [accepted, List.mem_cons, List.not_mem_nil, or_false] at h
  rcases h with rfl | rfl | rfl | rfl
  · exact ⟨compactDate, .inl rfl, .inr rfl⟩
  · exact ⟨compactDate, .inl rfl, .inl rfl⟩
  · exact ⟨dashedDate, .inr rfl, .inr rfl⟩
  · exact ⟨dashedDate, .inr rfl, .inl rfl⟩

/-- What a layout reads is read by the layout with the same date and a fraction. -/
theorem exists_fractional {l : Layout} (hl : l ∈ accepted) (h : l.read? cs = some w) :
    ∃ date, (date = compactDate ∨ date = dashedDate) ∧
      read? (date ++ clock ++ [.fraction]) cs = some w := by
  obtain ⟨date, hdate, rfl | rfl⟩ := exists_of_mem_accepted hl
  · refine ⟨date, hdate, read?_append_fraction ?_ h⟩
    rcases hdate with rfl | rfl <;> decide
  · exact ⟨date, hdate, h⟩

/-- A text has one reading. -/
theorem read?_unique {l l' : Layout} {w' : WallTime} (hl : l ∈ accepted) (hl' : l' ∈ accepted)
    (h : l.read? cs = some w) (h' : l'.read? cs = some w') : w = w' := by
  obtain ⟨date, hdate, hread⟩ := exists_fractional hl h
  obtain ⟨date', hdate', hread'⟩ := exists_fractional hl' h'
  have hkinds : ∀ v v', read? (compactDate ++ clock ++ [.fraction]) cs = some v →
      read? (dashedDate ++ clock ++ [.fraction]) cs ≠ some v' := by
    intro v v' hcompact hdashed
    rcases read?_compact_or_dashed (clock ++ [.fraction]) (clock ++ [.fraction]) cs with h | h
    · exact Option.some_ne_none v (hcompact.symm.trans h)
    · exact Option.some_ne_none v' (hdashed.symm.trans h)
  rcases hdate with rfl | rfl <;> rcases hdate' with rfl | rfl
  · exact Option.some.inj (hread.symm.trans hread')
  · exact absurd hread' (hkinds w w' hread)
  · exact absurd hread (hkinds w' w hread')
  · exact Option.some.inj (hread.symm.trans hread')

theorem exists_of_mem_compact {l : Layout} (h : l ∈ compact) :
    ∃ items, l = compactDate ++ items := by
  have hcompact : compact = [compactDate ++ (clock ++ [.fraction]), compactDate ++ clock] := by
    decide
  simp only [hcompact, List.mem_cons, List.not_mem_nil, or_false] at h
  rcases h with rfl | rfl
  · exact ⟨_, rfl⟩
  · exact ⟨_, rfl⟩

theorem exists_of_mem_dashed {l : Layout} (h : l ∈ dashed) : ∃ items, l = dashedDate ++ items := by
  have hdashed : dashed = [dashedDate ++ (clock ++ [.fraction]), dashedDate ++ clock] := by decide
  simp only [hdashed, List.mem_cons, List.not_mem_nil, or_false] at h
  rcases h with rfl | rfl
  · exact ⟨_, rfl⟩
  · exact ⟨_, rfl⟩

end Layout

/-! ## Lists of layouts -/

variable {layouts : List Layout} {text : String} {w : WallTime}

/-- Since a text has one reading, the first layout that reads it is as good as any other. -/
theorem WallTime.read?_eq_some_iff (h : layouts ⊆ Layout.accepted) :
    read? layouts text = some w ↔ ∃ l ∈ layouts, l.read? text.toList = some w := by
  constructor
  · exact List.exists_of_findSome?_eq_some
  · rintro ⟨l, hl, hread⟩
    cases hfirst : read? layouts text with
    | none =>
      have hnone := List.findSome?_eq_none_iff.mp hfirst l hl
      rw [hread] at hnone
      cases hnone
    | some w' =>
      obtain ⟨l', hl', hread'⟩ := List.exists_of_findSome?_eq_some hfirst
      rw [Layout.read?_unique (h hl) (h hl') hread hread']

theorem WallTime.read?_of_fractional (hfractional : Layout.fractional ⊆ layouts)
    (haccepted : layouts ⊆ Layout.accepted) (text : String) :
    read? layouts text = read? Layout.accepted text := by
  apply Option.ext
  intro w
  rw [read?_eq_some_iff haccepted, read?_eq_some_iff (List.Subset.refl _)]
  constructor
  · rintro ⟨l, hl, hread⟩
    exact ⟨l, haccepted hl, hread⟩
  · rintro ⟨l, hl, hread⟩
    obtain ⟨date, hdate, hread⟩ := Layout.exists_fractional hl hread
    refine ⟨_, hfractional ?_, hread⟩
    rcases hdate with rfl | rfl <;> decide

theorem stampWith?_of_fractional (hfractional : Layout.fractional ⊆ layouts)
    (haccepted : layouts ⊆ Layout.accepted) (zone : Zone) (stamp : Option String) :
    stampWith? layouts zone stamp = stamp? zone stamp := by
  cases stamp with
  | none => rfl
  | some text =>
    rw [stamp?, stampWith?, stampWith?, WallTime.read?_of_fractional hfractional haccepted]

/-- The layouts may be tried in any order, and those without a fraction may be left out. A
text has no reading of both kinds, and two layouts that read it read the same wall time. -/
theorem stampWith?_any_order (zone : Zone) (stamp : Option String) :
    (∀ layouts, layouts.Perm Layout.accepted →
      stampWith? layouts zone stamp = stamp? zone stamp) ∧
      (∀ layouts, layouts.Perm Layout.fractional →
        stampWith? layouts zone stamp = stamp? zone stamp) ∧
      (∀ l ∈ Layout.compact, ∀ l' ∈ Layout.dashed, ∀ cs : List Char,
        l.read? cs = none ∨ l'.read? cs = none) ∧
      ∀ l ∈ Layout.accepted, ∀ l' ∈ Layout.accepted, ∀ (cs : List Char) (w w' : WallTime),
        l.read? cs = some w → l'.read? cs = some w' → w = w' := by
  have hfractional : Layout.fractional ⊆ Layout.accepted := List.filter_sublist.subset
  refine ⟨fun layouts h => ?_, fun layouts h => ?_, fun l hl l' hl' cs => ?_,
    fun l hl l' hl' cs w w' => Layout.read?_unique hl hl'⟩
  · exact stampWith?_of_fractional (List.Subset.trans hfractional h.symm.subset) h.subset zone stamp
  · exact stampWith?_of_fractional h.symm.subset (List.Subset.trans h.subset hfractional) zone stamp
  · obtain ⟨items, rfl⟩ := Layout.exists_of_mem_compact hl
    obtain ⟨items', rfl⟩ := Layout.exists_of_mem_dashed hl'
    exact Layout.read?_compact_or_dashed items items' cs

/-- In reverse order, the text of a leap second is read by a layout without a fraction
first. -/
theorem stampWith?_any_order_leap :
    let text := "2016-12-31 23:59:60"
    let plain := Layout.dashedDate ++ Layout.clock
    Layout.accepted.reverse.head? = some plain ∧
      stampWith? Layout.accepted.reverse .utc (some text) = some 1483228800000 ∧
      stampWith? Layout.fractional.reverse .utc (some text) = some 1483228800000 ∧
      Layout.read? (Layout.compactDate ++ Layout.clock) text.toList = none ∧
      ∃ w, plain.read? text.toList = some w ∧
        Layout.read? (plain ++ [.fraction]) text.toList = some w := by
  intro text plain
  obtain ⟨horder, hfractional, hkinds, hunique⟩ := stampWith?_any_order .utc (some text)
  have hstamp : stamp? .utc (some text) = some 1483228800000 := by decide +kernel
  have hplain : plain.read? text.toList = some ⟨⟨2016, 12, 31⟩, 23, 59, 59, 1000000000⟩ := by
    decide +kernel
  refine ⟨rfl, ?_, ?_, ?_, _, hplain, ?_⟩
  · rw [horder _ (List.reverse_perm _), hstamp]
  · rw [hfractional _ (List.reverse_perm _), hstamp]
  · rcases hkinds (Layout.compactDate ++ Layout.clock) (by decide) plain (by decide) text.toList
      with h | h
    · exact h
    · rw [hplain] at h
      cases h
  · have hread : (Layout.read? (plain ++ [.fraction]) text.toList).isSome = true := by
      decide +kernel
    obtain ⟨w, hw⟩ := Option.isSome_iff_exists.mp hread
    rw [hw, hunique plain (by decide) (plain ++ [.fraction]) (by decide) _ _ _ hplain hw]

end Storyboard.Time
