import Storyboard.Proofs.PathSegments
import Storyboard.Proofs.Walks

/-! # Places and their paths

On a well-formed disk each entry lies in directories and has names that a path can
spell. The path of a place then leads to the place, unless there is a link or a directory
around it that may not be searched.
-/
namespace Storyboard.Files

/-- What an entry of a directory may be called. -/
structure IsName (s : Name) : Prop where
  ne_nil : s ≠ []
  ne_dot : s ≠ [dot]
  ne_dots : s ≠ [dot, dot]
  slash_notMem : slash ∉ s
  zero_notMem : 0 ∉ s
  short : s.length ≤ nameLimit

instance (s : Name) : Decidable (IsName s) :=
  decidable_of_iff
    (s ≠ [] ∧ s ≠ [dot] ∧ s ≠ [dot, dot] ∧ slash ∉ s ∧ 0 ∉ s ∧ s.length ≤ nameLimit)
    ⟨fun ⟨h1, h2, h3, h4, h5, h6⟩ => ⟨h1, h2, h3, h4, h5, h6⟩,
      fun ⟨h1, h2, h3, h4, h5, h6⟩ => ⟨h1, h2, h3, h4, h5, h6⟩⟩

theorem IsName.ofPart_eq {s : Name} (h : IsName s) : Segment.ofPart s = .name s := by
  rw [Segment.ofPart, if_neg h.ne_dot, if_neg h.ne_dots]

namespace Location

theorem segments_toPath {loc : Location} (h : ∀ s ∈ loc, IsName s) :
    loc.toPath.segments = loc.map .name := by
  have hfull : loc.filter (!·.isEmpty) = loc := by
    apply List.filter_eq_self.mpr
    intro s hs
    simpa using (h s hs).ne_nil
  have hbytes : loc.toPath.bytes = slash :: List.intercalate [slash] loc := rfl
  rw [Path.segments_of_bytes hbytes,
    Path.segmentsOf_split_intercalate fun s hs => (h s hs).slash_notMem, Path.segmentsOf, hfull]
  exact List.map_congr_left fun s hs => (h s hs).ofPart_eq

theorem endsInSlash_toPath {loc : Location} (hne : loc ≠ []) (h : ∀ s ∈ loc, IsName s) :
    loc.toPath.endsInSlash = false := by
  have hname := h (loc.getLast hne) (List.getLast_mem hne)
  obtain ⟨front, hfront⟩ := List.exists_intercalate_eq_append slash loc hne
  have hbytes : loc.toPath.bytes = (slash :: front) ++ loc.getLast hne := by
    rw [toPath, hfront, List.cons_append]
  rw [Path.endsInSlash, hbytes, List.getLast?_append, beq_eq_false_iff_ne]
  rw [List.getLast?_eq_some_getLast hname.ne_nil, Option.some_or]
  intro hslash
  exact hname.slash_notMem (Option.some.inj hslash ▸ List.getLast_mem hname.ne_nil)

theorem zero_notMem_toPath {loc : Location} (h : ∀ s ∈ loc, IsName s) : 0 ∉ loc.toPath.bytes := by
  have hjoined : 0 ∉ List.intercalate [slash] loc := by
    induction loc with
    | nil => simp [List.intercalate]
    | cons s loc ih =>
      have hs := (h s List.mem_cons_self).zero_notMem
      cases loc with
      | nil => simpa [List.intercalate] using hs
      | cons t loc =>
        have hrest := ih fun u hu => h u (List.mem_cons_of_mem _ hu)
        rw [List.intercalate_mark_cons, List.mem_append, List.mem_cons]
        rintro (hmem | hmem | hmem)
        · exact hs hmem
        · exact absurd hmem (by decide)
        · exact hrest hmem
  rw [toPath, List.mem_cons]
  rintro (hmem | hmem)
  · exact absurd hmem (by decide)
  · exact hjoined hmem

theorem checkPath_toPath {loc : Location} (h : ∀ s ∈ loc, IsName s)
    (hshort : loc.toPath.bytes.length ≤ pathLimit) : Disk.checkPath loc.toPath = .ok () :=
  Disk.checkPath_eq_ok_iff.mpr ⟨zero_notMem_toPath h, List.cons_ne_nil _ _, hshort⟩

end Location

namespace Disk

/-- Each entry has names that can be spelled and lies in a directory. -/
def WellFormed (d : Disk) : Prop :=
  ∀ x ∈ d.entries, (∀ s ∈ x.1, IsName s) ∧ d.entryAt x.1.dropLast = some .directory

instance (d : Disk) : Decidable d.WellFormed := by
  unfold WellFormed
  infer_instance

/-- No directory around a place is closed to searches. -/
def OpenAbove (d : Disk) (loc : Location) : Prop := ∀ n < loc.length, d.search (loc.take n) = none

instance (d : Disk) (loc : Location) : Decidable (d.OpenAbove loc) := by
  unfold OpenAbove
  infer_instance

variable {d : Disk}

theorem openAbove_append_iff {loc rest : Location} :
    d.OpenAbove (loc ++ rest) ↔
      d.OpenAbove loc ∧ ∀ n < rest.length, d.search (loc ++ rest.take n) = none := by
  constructor
  · intro h
    constructor
    · intro n hn
      have hopen := h n (by rw [List.length_append]; omega)
      rwa [List.take_append_of_le_length (by omega)] at hopen
    · intro n hn
      have hopen := h (loc.length + n) (by rw [List.length_append]; omega)
      rwa [List.take_length_add_append] at hopen
  · rintro ⟨hloc, hrest⟩ n hn
    rw [List.length_append] at hn
    rcases Nat.lt_or_ge n loc.length with hlt | hge
    · rw [List.take_append_of_le_length (by omega)]
      exact hloc n hlt
    · obtain ⟨k, rfl⟩ := Nat.exists_eq_add_of_le hge
      rw [List.take_length_add_append]
      exact hrest k (by omega)

theorem openAbove_concat_iff {loc : Location} {s : Name} :
    d.OpenAbove (loc ++ [s]) ↔ d.OpenAbove loc ∧ d.search loc = none := by
  rw [openAbove_append_iff]
  simp

theorem OpenAbove.dropLast {loc : Location} (h : d.OpenAbove loc) : d.OpenAbove loc.dropLast := by
  rcases List.eq_nil_or_concat loc with rfl | ⟨front, s, rfl⟩
  · exact h
  · rw [List.concat_eq_append] at h
    rw [List.concat_eq_append, List.dropLast_concat]
    exact (openAbove_concat_iff.mp h).1

theorem OpenAbove.startOf {loc : Location} (h : d.OpenAbove loc) (p : Path) :
    d.OpenAbove (startOf p loc) := by
  unfold Disk.startOf
  split
  · simp [OpenAbove]
  · exact h

/-- A walk only enters directories that it may search. -/
theorem Leads.openAbove {n m : Nat} {loc l : Location} {segments : List Segment}
    (h : d.Leads n loc segments m l) (hopen : d.OpenAbove loc) : d.OpenAbove l := by
  induction h with
  | done => exact hopen
  | here _ _ ih => exact ih hopen
  | slash _ _ ih => exact ih hopen
  | up _ _ ih => exact ih hopen.dropLast
  | enter hdir _ _ _ _ ih => exact ih (openAbove_concat_iff.mpr ⟨hopen, hdir.search⟩)
  | follow _ _ _ _ ih => exact ih (hopen.startOf _)

theorem mem_entries_of_entryAt {loc : Location} {e : Entry} (hne : loc ≠ [])
    (h : d.entryAt loc = some e) : (loc, e) ∈ d.entries := by
  rw [entryAt, if_neg hne] at h
  obtain ⟨before, after, hentries, -⟩ := List.lookup_eq_some_iff.mp h
  simp [hentries]

theorem WellFormed.isName (hd : d.WellFormed) {loc : Location} {e : Entry}
    (h : d.entryAt loc = some e) : ∀ s ∈ loc, IsName s := by
  by_cases hne : loc = []
  · simp [hne]
  · exact (hd _ (mem_entries_of_entryAt hne h)).1

theorem WellFormed.isName_concat (hd : d.WellFormed) {loc : Location} {s : Name} {e : Entry}
    (h : d.entryAt loc = some e) (hs : IsName s) : ∀ t ∈ loc ++ [s], IsName t := by
  intro t ht
  rcases List.mem_append.mp ht with ht | ht
  · exact hd.isName h t ht
  · rwa [List.mem_singleton.mp ht]

theorem WellFormed.directory_of_concat (hd : d.WellFormed) {loc : Location} {s : Name}
    {e : Entry} (h : d.entryAt (loc ++ [s]) = some e) : d.entryAt loc = some .directory := by
  have := (hd _ (mem_entries_of_entryAt (by simp) h)).2
  rwa [List.dropLast_concat] at this

theorem WellFormed.directory_dropLast (hd : d.WellFormed) {l : Location} {e : Entry}
    (h : d.entryAt l = some e) : d.entryAt l.dropLast = some .directory := by
  by_cases hroot : l = []
  · rw [hroot]
    rfl
  · exact (hd _ (mem_entries_of_entryAt hroot h)).2

theorem WellFormed.directory_of_append (hd : d.WellFormed) {loc rest : Location} {e : Entry}
    (hne : rest ≠ []) (h : d.entryAt (loc ++ rest) = some e) :
    d.entryAt loc = some .directory := by
  induction rest generalizing loc with
  | nil => exact absurd rfl hne
  | cons s rest ih =>
    by_cases hrest : rest = []
    · subst hrest
      exact hd.directory_of_concat h
    · rw [List.append_cons] at h
      exact hd.directory_of_concat (ih hrest h)

/-- The names of an entry that is no link lead to it. -/
theorem WellFormed.leads (hd : d.WellFormed) (n : Nat) (loc : Location) {names : Location}
    {e : Entry}
    (h : d.entryAt (loc ++ names) = some e) (hlink : ∀ target, e ≠ .link target)
    (hopen : ∀ k < names.length, d.search (loc ++ names.take k) = none) :
    d.Leads n loc (names.map .name) n (loc ++ names) := by
  induction names generalizing loc with
  | nil =>
    rw [List.append_nil]
    exact .done n loc
  | cons s names ih =>
    have hdir := hd.directory_of_append (List.cons_ne_nil s names) h
    have hsearch : d.search loc = none := by simpa using hopen 0 (by simp)
    have hname := (hd.isName h s (by simp)).short
    rw [List.append_cons] at h ⊢
    -- What is entered is the entry itself or a directory around it.
    obtain ⟨entry, hentry, hentryLink⟩ :
        ∃ entry, d.entryAt (loc ++ [s]) = some entry ∧ ∀ target, entry ≠ .link target := by
      by_cases hnames : names = []
      · rw [hnames, List.append_nil] at h
        exact ⟨e, h, hlink⟩
      · exact ⟨.directory, hd.directory_of_append hnames h, by simp⟩
    refine .enter ⟨hdir, hsearch⟩ hname hentry hentryLink (ih _ h fun k hk => ?_)
    simpa using hopen (k + 1) (by simpa using hk)

/-- A walk along the names of an entry looks into every directory around it. -/
theorem WellFormed.open_of_walk (hd : d.WellFormed) {followLast : Bool} {n : Nat} {spot : Spot}
    {rest : List Segment} {e : Entry} (loc : Location) {names : Location}
    (h : d.entryAt (loc ++ names) = some e)
    (hwalk : d.walk followLast n loc (names.map .name ++ rest) = .ok spot) :
    ∀ k < names.length, d.search (loc ++ names.take k) = none := by
  induction names generalizing loc with
  | nil => simp
  | cons s names ih =>
    have hopen : d.IsOpen loc := isOpen_of_walk (by simp) hwalk
    intro k hk
    cases k with
    | zero => simpa using hopen.search
    | succ k =>
      have hnames : names ≠ [] := by
        rintro rfl
        simp at hk
      rw [List.append_cons] at h
      have hdir := hd.directory_of_append hnames h
      have hname := (hd.isName h s (by simp)).short
      rw [List.map_cons, List.cons_append, walk_enter hopen hname hdir (by simp)] at hwalk
      rw [List.take_succ_cons, List.append_cons]
      exact ih _ h hwalk k (by simpa using hk)

theorem WellFormed.leads_toPath (hd : d.WellFormed) {loc : Location} {e : Entry}
    (h : d.entryAt loc = some e) (hlink : ∀ target, e ≠ .link target) (hopen : d.OpenAbove loc) :
    d.Leads linkLimit [] loc.toPath.walkSegments linkLimit loc := by
  rw [Path.walkSegments, Location.segments_toPath (hd.isName h)]
  by_cases hne : loc = []
  · subst hne
    exact .slash rfl (.done _ _)
  · rw [Location.endsInSlash_toPath hne (hd.isName h), if_neg Bool.false_ne_true, List.append_nil]
    exact hd.leads linkLimit [] h hlink hopen

theorem startOf_toPath (loc here : Location) : startOf loc.toPath here = [] :=
  if_pos loc.isAbsolute_toPath

/-- The path of a place leads to it exactly if it can be asked for and no directory on the
way is closed. -/
theorem WellFormed.lookup_toPath_iff (hd : d.WellFormed) {loc : Location} {e : Entry}
    (h : d.entryAt loc = some e) (hlink : ∀ target, e ≠ .link target) :
    d.lookup loc.toPath = .ok (loc, e) ↔
      loc.toPath.bytes.length ≤ pathLimit ∧ d.OpenAbove loc := by
  rw [lookup_eq_ok_iff, startOf_toPath]
  constructor
  · rintro ⟨hpath, m, hleads, -⟩
    have hwalk := hleads.walk_eq h
    rw [Path.walkSegments, Location.segments_toPath (hd.isName h)] at hwalk
    exact ⟨(checkPath_eq_ok_iff.mp hpath).2.2, hd.open_of_walk [] h hwalk⟩
  · rintro ⟨hshort, hopen⟩
    exact ⟨Location.checkPath_toPath (hd.isName h) hshort, linkLimit,
      hd.leads_toPath h hlink hopen, h⟩

theorem WellFormed.eq_of_lookup_toPath (hd : d.WellFormed) {loc : Location} {e : Entry}
    {found : Location × Entry} (h : d.entryAt loc = some e) (hlink : ∀ target, e ≠ .link target)
    (hlookup : d.lookup loc.toPath = .ok found) : found = (loc, e) := by
  obtain ⟨l, e'⟩ := found
  obtain ⟨hpath, m, hleads, hentry⟩ := lookup_eq_ok_iff.mp hlookup
  have hwalk := hleads.walk_eq hentry
  rw [startOf_toPath, Path.walkSegments, Location.segments_toPath (hd.isName h)] at hwalk
  have hplace := (hd.lookup_toPath_iff h hlink).mpr
    ⟨(checkPath_eq_ok_iff.mp hpath).2.2, hd.open_of_walk [] h hwalk⟩
  exact Except.ok.inj (hlookup.symm.trans hplace)

end Disk

structure Volume extends Disk where
  proper : toDisk.WellFormed

end Storyboard.Files
