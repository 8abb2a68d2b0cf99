import Storyboard.Proofs.JoinedPaths

/-! # Paths and their absolute forms

The absolute form of a path starts at the root and leaves out the segments that stay
in place. On a well-formed disk both lead to the same entry, if both lead to one. A
path that was resolved to the path of a file is therefore resolved in the same way
after any change that keeps directories, links and files.
-/
namespace Storyboard.Files.Disk

variable {d d' : Disk} {n m : Nat} {loc l : Location} {xs ys : List Segment}

/-! ## Segments that stay in place -/

/-- Segments that stay in place can be left out. The list is split where a link may
have put its own segments in front. -/
theorem Leads.filter_here (xs : List Segment) (h : d.Leads n loc (xs ++ ys) m l) :
    d.Leads n loc (xs ++ ys.filter (· != .here)) m l := by
  generalize hzs : xs ++ ys = zs at h
  induction h generalizing xs ys with
  | done n loc =>
    obtain ⟨rfl, rfl⟩ := List.append_eq_nil_iff.mp hzs
    exact .done n loc
  | here hopen _ ih =>
    rcases List.append_eq_cons_iff.mp hzs with ⟨rfl, rfl⟩ | ⟨xs, rfl, rfl⟩
    · have hrest := ih [] (List.nil_append _)
      exact hrest
    · exact .here hopen (ih xs rfl)
  | slash hdir _ ih =>
    rcases List.append_eq_cons_iff.mp hzs with ⟨rfl, rfl⟩ | ⟨xs, rfl, rfl⟩
    · exact .slash hdir (ih [] rfl)
    · exact .slash hdir (ih xs rfl)
  | up hopen _ ih =>
    rcases List.append_eq_cons_iff.mp hzs with ⟨rfl, rfl⟩ | ⟨xs, rfl, rfl⟩
    · exact .up hopen (ih [] rfl)
    · exact .up hopen (ih xs rfl)
  | enter hopen hname hentry hlink _ ih =>
    rcases List.append_eq_cons_iff.mp hzs with ⟨rfl, rfl⟩ | ⟨xs, rfl, rfl⟩
    · exact .enter hopen hname hentry hlink (ih [] rfl)
    · exact .enter hopen hname hentry hlink (ih xs rfl)
  | follow hopen hname hentry _ ih =>
    rcases List.append_eq_cons_iff.mp hzs with ⟨rfl, rfl⟩ | ⟨xs, rfl, rfl⟩
    · exact .follow hopen hname hentry (ih _ rfl)
    · have hrest := ih _ (List.append_assoc _ xs ys)
      rw [List.append_assoc] at hrest
      exact .follow hopen hname hentry hrest

theorem Leads.isOpen_of_ne_nil (h : d.Leads n loc ys m l) (hne : ys ≠ []) (hslash : .slash ∉ ys) :
    d.IsOpen loc := by
  cases h with
  | done => exact absurd rfl hne
  | here hopen => exact hopen
  | slash => exact absurd List.mem_cons_self hslash
  | up hopen => exact hopen
  | enter hopen => exact hopen
  | follow hopen => exact hopen

/-- A walk may stay in place before it goes on, and at its end if this is a directory that
may be searched. -/
theorem Leads.insert_here (h : d.Leads n loc (xs ++ ys) m l) (hslash : .slash ∉ ys)
    (hend : ys = [] → d.IsOpen l) : d.Leads n loc (xs ++ .here :: ys) m l := by
  obtain ⟨k, mid, hx, hy⟩ := h.of_append
  have hopen : d.IsOpen mid := by
    by_cases hys : ys = []
    · subst hys
      cases hy
      exact hend rfl
    · exact hy.isOpen_of_ne_nil hys hslash
  exact hx.append (.here hopen hy)

theorem Leads.of_filter_here (xs : List Segment) (hslash : .slash ∉ ys)
    (hend : ys.getLast? = some .here → d.IsOpen l)
    (h : d.Leads n loc (xs ++ ys.filter (· != .here)) m l) : d.Leads n loc (xs ++ ys) m l := by
  induction ys generalizing xs with
  | nil => exact h
  | cons y ys ih =>
    have hrestSlash : .slash ∉ ys := fun hmem => hslash (List.mem_cons_of_mem _ hmem)
    have hrest : ys.getLast? = some .here → d.IsOpen l := by
      intro hlast
      apply hend
      rw [List.getLast?_cons, hlast, Option.getD_some]
    by_cases hy : y = .here
    · subst hy
      refine (ih xs hrestSlash hrest h).insert_here hrestSlash fun hys => hend ?_
      rw [hys]
      rfl
    · rw [List.filter_cons_of_pos (by simpa using hy), List.append_cons] at h
      rw [List.append_cons]
      exact ih (xs ++ [y]) hrestSlash hrest h

theorem Leads.isOpen_of_here (h : d.Leads n loc (xs ++ [.here]) m l) : d.IsOpen l := by
  obtain ⟨k, mid, -, hlast⟩ := h.of_append
  cases hlast with
  | here hopen hdone =>
    cases hdone
    exact hopen

theorem leads_concat_slash_iff :
    d.Leads n loc (xs ++ [.slash]) m l ↔
      d.Leads n loc xs m l ∧ d.entryAt l = some .directory := by
  constructor
  · intro h
    obtain ⟨k, mid, hx, hlast⟩ := h.of_append
    cases hlast with
    | slash hdir hdone =>
      cases hdone
      exact ⟨hx, hdir⟩
  · rintro ⟨hx, hdir⟩
    exact hx.append (.slash hdir (.done _ _))

/-! ## Segments and the slash at the end -/

theorem walkSegments_eq {p : Path} (h : p.endsInSlash = false) : p.walkSegments = p.segments := by
  rw [Path.walkSegments, h, if_neg Bool.false_ne_true, List.append_nil]

/-- A slash at the end of a path asks for a directory and for nothing else. -/
theorem leads_walkSegments_iff {p : Path} :
    d.Leads n loc p.walkSegments m l ↔ d.Leads n loc p.segments m l ∧
      (p.endsInSlash = true → d.entryAt l = some .directory) := by
  cases hslash : p.endsInSlash with
  | false =>
    rw [walkSegments_eq hslash]
    simp
  | true =>
    rw [Path.walkSegments, if_pos hslash, leads_concat_slash_iff]
    simp

theorem ends_of_lookup {p : Path} {e : Entry} (h : d.lookup p = .ok (l, e))
    (he : e ≠ .directory) : p.endsInSlash = false ∧ p.segments.getLast? ≠ some .here := by
  obtain ⟨-, m, hleads, hentry⟩ := lookup_eq_ok_iff.mp h
  obtain ⟨hsegments, hslash⟩ := leads_walkSegments_iff.mp hleads
  have hdir : d.entryAt l ≠ some .directory := by
    rw [hentry]
    exact fun heq => he (Option.some.inj heq)
  refine ⟨Bool.eq_false_iff.mpr fun hp => hdir (hslash hp), fun hlast => ?_⟩
  obtain ⟨xs, hxs⟩ := List.getLast?_eq_some_iff.mp hlast
  rw [hxs] at hsegments
  exact hdir hsegments.isOpen_of_here.directory

/-! ## Absolute forms -/

section Home

variable (hd : d.WellFormed) (hhere : d.entryAt d.here = some .directory)
include hd hhere

theorem segments_here : d.here.toPath.segments = d.here.map .name :=
  Location.segments_toPath (hd.isName hhere)

variable {p : Path} {x y : Location} {e e' : Entry}

/-- A walk from the root, behind the anchor of a path, is one from where the path starts. -/
theorem leads_of_anchor {l : Location}
    (h : d.Leads linkLimit [] ((p.anchor d.here.toPath).segments ++ ys) m l)
    (hend : d.entryAt l = some e) : d.Leads linkLimit (startOf p d.here) ys m l := by
  rw [Path.segments_anchor] at h
  rw [startOf]
  by_cases hp : p.isAbsolute = true
  · rwa [if_pos hp] at h ⊢
  · rw [if_neg hp, segments_here hd hhere] at h
    rw [if_neg hp]
    obtain ⟨k, mid, hx, hy⟩ := h.of_append
    have hhome : d.Leads linkLimit [] (d.here.map .name) linkLimit d.here :=
      hd.leads linkLimit [] hhere (by simp) (hd.open_of_walk [] hhere (h.walk_eq hend))
    obtain ⟨rfl, rfl⟩ := hhome.unique hx
    exact hy

omit hd hhere in
theorem leads_of_lookup_absolute (h : d.lookup (p.absolute d.here.toPath) = .ok (x, e)) :
    d.entryAt x = some e ∧ (p.endsInSlash = true → d.entryAt x = some .directory) ∧
      ∃ m, d.Leads linkLimit [] ((p.anchor d.here.toPath).segments ++ p.moves) m x := by
  obtain ⟨-, m, hleads, hentry⟩ := lookup_eq_ok_iff.mp h
  have hstart : startOf (p.absolute d.here.toPath) d.here = [] :=
    if_pos (p.isAbsolute_absolute d.here.isAbsolute_toPath)
  obtain ⟨hmoves, hslash⟩ := leads_walkSegments_iff.mp hleads
  rw [hstart, p.segments_absolute d.here.isAbsolute_toPath] at hmoves
  refine ⟨hentry, fun hp => hslash ?_, m, hmoves⟩
  exact Path.endsInSlash_absolute d.here.isAbsolute_toPath hp

/-- A path and its absolute form lead to one place, if both lead to one. -/
theorem eq_of_lookup_absolute (h : d.lookup (p.absolute d.here.toPath) = .ok (x, e))
    (hp : d.lookup p = .ok (y, e')) : y = x := by
  obtain ⟨hentry, -, m, hleads⟩ := leads_of_lookup_absolute h
  obtain ⟨-, k, hgiven, -⟩ := lookup_eq_ok_iff.mp hp
  have hmoves : d.Leads linkLimit (startOf p d.here) p.moves k y :=
    Leads.filter_here [] (leads_walkSegments_iff.mp hgiven).1
  exact (hmoves.unique (leads_of_anchor hd hhere hleads hentry)).2

theorem openAbove_of_lookup_absolute (h : d.lookup (p.absolute d.here.toPath) = .ok (x, e)) :
    d.OpenAbove (startOf p d.here) := by
  obtain ⟨hentry, -, m, hleads⟩ := leads_of_lookup_absolute h
  rw [Path.segments_anchor] at hleads
  rw [startOf]
  split
  · simp [OpenAbove]
  · next hp =>
    rw [if_neg hp, segments_here hd hhere] at hleads
    exact hd.open_of_walk [] hhere (hleads.walk_eq hentry)

/-- A path leads to where its absolute form leads, if it can be asked for and does not
end by staying in place at what is no directory that may be searched. -/
theorem lookup_of_absolute (h : d.lookup (p.absolute d.here.toPath) = .ok (x, e))
    (hcheck : checkPath p = .ok ()) (hend : p.segments.getLast? = some .here → d.IsOpen x) :
    d.lookup p = .ok (x, e) := by
  obtain ⟨hentry, hslash, m, hleads⟩ := leads_of_lookup_absolute h
  have hmoves : d.Leads linkLimit (startOf p d.here) p.moves m x :=
    leads_of_anchor hd hhere hleads hentry
  have hsegments : d.Leads linkLimit (startOf p d.here) p.segments m x :=
    Leads.of_filter_here [] (slash_notMem_segments p) hend hmoves
  exact lookup_eq_ok_iff.mpr
    ⟨hcheck, m, leads_walkSegments_iff.mpr ⟨hsegments, hslash⟩, hentry⟩

end Home

/-! ## Stops -/

@[simp]
theorem stopsWithin_nil : d.stopsWithin n loc [] = [] := by
  cases n <;> rfl

@[simp]
theorem stopsWithin_here : d.stopsWithin n loc (.here :: xs) = d.stopsWithin n loc xs := by
  cases n <;> rfl

@[simp]
theorem stopsWithin_slash : d.stopsWithin n loc (.slash :: xs) = d.stopsWithin n loc xs := by
  cases n <;> rfl

@[simp]
theorem stopsWithin_up : d.stopsWithin n loc (.up :: xs) = d.stopsWithin n loc.dropLast xs := by
  cases n <;> rfl

theorem stopsWithin_enter {s : Name} {e : Entry} (hentry : d.entryAt (loc ++ [s]) = some e)
    (hlink : ∀ target, e ≠ .link target) :
    d.stopsWithin n loc (.name s :: xs) =
      (if Segment.wantDirectory xs then (Location.toPath (loc ++ [s])).join ⟨[]⟩
        else Location.toPath (loc ++ [s])) :: d.stopsWithin n (loc ++ [s]) xs := by
  cases e with
  | link target => exact absurd rfl (hlink target)
  | directory => cases n <;> simp [stopsWithin, stopsWith, hentry]
  | file content => cases n <;> simp [stopsWithin, stopsWith, hentry]
  | special given unreadable unwritable => cases n <;> simp [stopsWithin, stopsWith, hentry]

theorem stopsWithin_follow {s : Name} {target : Path}
    (hentry : d.entryAt (loc ++ [s]) = some (.link target)) :
    d.stopsWithin (n + 1) loc (.name s :: xs) =
      Location.toPath (loc ++ [s]) ::
        d.stopsWithin n (startOf target loc) (target.walkSegments ++ xs) := by
  simp [stopsWithin, stopsWith, hentry]

theorem ne_nil_of_wantDirectory (h : Segment.wantDirectory xs = true) : xs ≠ [] := by
  rintro rfl
  cases h

/-- A path asks for a place, by the path of the place or with a slash behind it. -/
def AsksFor (d : Disk) (q : Path) (place : Location) : Prop :=
  place ≠ [] ∧ ∃ e, d.entryAt place = some e ∧
    (q = place.toPath ∨ e = .directory ∧ q = place.toPath.join ⟨[]⟩)

/-- Each stop of a walk asks for an entry, and the directories around it may be searched if
those around the start may. -/
theorem Leads.exists_of_mem_stops (h : d.Leads n loc xs m l) {q : Path}
    (hq : q ∈ d.stopsWithin n loc xs) :
    ∃ place, d.AsksFor q place ∧ (d.OpenAbove loc → d.OpenAbove place) := by
  induction h with
  | done => simp at hq
  | here _ _ ih => exact ih (by simpa using hq)
  | slash _ _ ih => exact ih (by simpa using hq)
  | up _ _ ih =>
    obtain ⟨place, hasks, hopen⟩ := ih (by simpa using hq)
    exact ⟨place, hasks, fun hloc => hopen hloc.dropLast⟩
  | @enter n m loc l s rest e hdir _ hentry hlink hrest ih =>
    have hinside : d.OpenAbove loc → d.OpenAbove (loc ++ [s]) :=
      fun hloc => openAbove_concat_iff.mpr ⟨hloc, hdir.search⟩
    rw [stopsWithin_enter hentry hlink] at hq
    rcases List.mem_cons.mp hq with rfl | hq
    · refine ⟨loc ++ [s], ⟨by simp, e, hentry, ?_⟩, hinside⟩
      split
      · next hwant =>
        have hsub := hrest.directory_of_ne_nil (ne_nil_of_wantDirectory hwant)
        rw [hentry] at hsub
        exact Or.inr ⟨Option.some.inj hsub, rfl⟩
      · exact Or.inl rfl
    · obtain ⟨place, hasks, hopen⟩ := ih hq
      exact ⟨place, hasks, fun hloc => hopen (hinside hloc)⟩
  | @follow n m loc l s rest target hdir _ hentry _ ih =>
    rw [stopsWithin_follow hentry] at hq
    rcases List.mem_cons.mp hq with rfl | hq
    · exact ⟨loc ++ [s], ⟨by simp, _, hentry, Or.inl rfl⟩,
        fun hloc => openAbove_concat_iff.mpr ⟨hloc, hdir.search⟩⟩
    · obtain ⟨place, hasks, hopen⟩ := ih hq
      exact ⟨place, hasks, fun hloc => hopen (hloc.startOf target)⟩

theorem WellFormed.toPath_mem_stops (hd : d.WellFormed) (h : d.Leads n loc xs m l) {e : Entry}
    (hl : d.entryAt l = some e) (hleaf : e.isLeaf = true) (hne : loc ≠ l) :
    l.toPath ∈ d.stopsWithin n loc xs := by
  have hdir : d.entryAt l ≠ some .directory := by
    rw [hl]
    rintro ⟨⟩
    cases hleaf
  have hother : ∀ x, d.entryAt x = some .directory → x ≠ l := by
    rintro x hx rfl
    exact hdir hx
  induction h with
  | done => exact absurd rfl hne
  | here _ _ ih => simpa using ih hl hne hdir hother
  | slash _ _ ih => simpa using ih hl hne hdir hother
  | up hopen _ ih =>
    simpa using ih hl (hother _ (hd.directory_dropLast hopen.directory)) hdir hother
  | @enter n m loc l s rest entry _ _ hentry hlink hrest ih =>
    rw [stopsWithin_enter hentry hlink]
    by_cases hend : loc ++ [s] = l
    · subst hend
      obtain ⟨rfl, -⟩ := hrest.eq_of_not_directory hdir
      exact List.mem_cons_self
    · exact List.mem_cons_of_mem _ (ih hl hend hdir hother)
  | @follow n m loc l s rest target hopen _ hentry _ ih =>
    rw [stopsWithin_follow hentry]
    refine List.mem_cons_of_mem _ (ih hl ?_ hdir hother)
    unfold startOf
    split
    · exact hother [] rfl
    · exact hother loc hopen.directory

/-- A walk stops at the same paths as long as directories and links remain, and a leaf at
the end if there is one. -/
theorem Leads.stops_eq (hways : d.KeepsWays d') (h : d.Leads n loc xs m l)
    (hend : ∀ e, d.entryAt l = some e → e.isLeaf = true →
      ∃ e', d'.entryAt l = some e' ∧ e'.isLeaf = true) :
    d'.stopsWithin n loc xs = d.stopsWithin n loc xs := by
  induction h with
  | done => simp
  | here _ _ ih => simpa using ih hend
  | slash _ _ ih => simpa using ih hend
  | up _ _ ih => simpa using ih hend
  | @enter n m loc l s rest e _ _ hentry hlink h ih =>
    obtain ⟨e', hentry', hlink'⟩ :
        ∃ e', d'.entryAt (loc ++ [s]) = some e' ∧ ∀ target, e' ≠ .link target := by
      cases hleaf : e.isLeaf with
      | false => exact ⟨e, hways.ways _ _ hentry hleaf, hlink⟩
      | true =>
        have hdir : d.entryAt (loc ++ [s]) ≠ some .directory := by
          rw [hentry]
          rintro ⟨⟩
          cases hleaf
        obtain ⟨-, rfl⟩ := h.eq_of_not_directory hdir
        obtain ⟨e', he', hleaf'⟩ := hend e hentry hleaf
        refine ⟨e', he', ?_⟩
        rintro target rfl
        cases hleaf'
    rw [stopsWithin_enter hentry hlink, stopsWithin_enter hentry' hlink', ih hend]
  | follow _ _ hentry _ ih =>
    rw [stopsWithin_follow hentry, stopsWithin_follow (hways.ways _ _ hentry rfl), ih hend]

/-! ## Asking for places -/

theorem exists_walk_last {s : Name} {e : Entry} (hopen : d.IsOpen loc)
    (hname : s.length ≤ nameLimit) (hentry : d.entryAt (loc ++ [s]) = some e)
    (hxs : xs = [] ∨ e = .directory ∧ xs = [.slash]) :
    ∃ spot, d.walk false n loc (.name s :: xs) = .ok spot := by
  have hbar : d.bar? loc (.name s) = none := (bar?_eq_none_iff (by simp)).mpr hopen
  have hshort : ¬nameLimit < s.length := Nat.not_lt.mpr hname
  rcases hxs with rfl | ⟨rfl, rfl⟩
  · cases e with
    | link target => cases n <;> simp [walk, walkWith, hbar, hentry, hshort]
    | directory => exact ⟨_, by rw [walk_enter hopen hname hentry (by simp), walk_nil hentry]⟩
    | file content => exact ⟨_, by rw [walk_enter hopen hname hentry (by simp), walk_nil hentry]⟩
    | special given unreadable unwritable =>
      exact ⟨_, by rw [walk_enter hopen hname hentry (by simp), walk_nil hentry]⟩
  · have hbar' : d.bar? (loc ++ [s]) .slash = none := bar?_slash_eq_none_iff.mpr hentry
    rw [walk_enter hopen hname hentry (by simp)]
    cases n <;> simp [walk, walkWith, hbar', hentry]

theorem refusal?_eq_none_iff {q : Path} :
    d.refusal? q = none ↔ ∃ spot, d.locate false q = .ok spot := by
  unfold refusal?
  cases d.locate false q <;> simp

theorem WellFormed.walkSegments_of_asksFor (hd : d.WellFormed) {q : Path} {place : Location}
    (hasks : d.AsksFor q place) :
    q.isAbsolute = true ∧ 0 ∉ q.bytes ∧ ∃ e rest, d.entryAt place = some e ∧
      q.walkSegments = place.map .name ++ rest ∧
      (rest = [] ∨ e = .directory ∧ rest = [.slash]) := by
  obtain ⟨hne, e, hentry, hq⟩ := hasks
  have hnames := hd.isName hentry
  have hsegments := Location.segments_toPath hnames
  have hzero := Location.zero_notMem_toPath hnames
  rcases hq with rfl | ⟨rfl, rfl⟩
  · refine ⟨place.isAbsolute_toPath, hzero, e, [], hentry, ?_, Or.inl rfl⟩
    rw [walkSegments_eq (Location.endsInSlash_toPath hne hnames), hsegments, List.append_nil]
  · have hjoin := Location.join_nil_toPath hne hnames
    have hslash : (place.toPath.join ⟨[]⟩).endsInSlash = true := by simp [hjoin, Path.endsInSlash]
    refine ⟨Path.isAbsolute_join place.isAbsolute_toPath _, ?_, .directory, [.slash], hentry, ?_,
      Or.inr ⟨rfl, rfl⟩⟩
    · rw [hjoin, List.mem_append, List.mem_singleton]
      rintro (hmem | hmem)
      · exact hzero hmem
      · exact absurd hmem (by decide)
    · rw [Path.walkSegments, if_pos hslash, Path.segments_join place.isAbsolute_toPath rfl,
        hsegments]
      simp [Path.segments, Text.split]

/-- What is asked for by its own path is found exactly if the path is not too long and no
directory on the way is closed. -/
theorem WellFormed.refusal?_iff (hd : d.WellFormed) {q : Path} {place : Location}
    (hasks : d.AsksFor q place) :
    d.refusal? q = none ↔ q.bytes.length ≤ pathLimit ∧ d.OpenAbove place := by
  obtain ⟨habsolute, hzero, e, rest, hentry, hwalk, hrest⟩ := hd.walkSegments_of_asksFor hasks
  have hstart : startOf q d.here = [] := if_pos habsolute
  rw [refusal?_eq_none_iff]
  constructor
  · rintro ⟨spot, hspot⟩
    unfold locate at hspot
    split at hspot
    · cases hspot
    · next hcheck =>
      rw [hstart, hwalk] at hspot
      exact ⟨(checkPath_eq_ok_iff.mp hcheck).2.2, hd.open_of_walk [] hentry hspot⟩
  · rintro ⟨hshort, hopen⟩
    obtain ⟨cs, hcs⟩ := Path.exists_bytes_of_isAbsolute habsolute
    have hcheck : checkPath q = .ok () := checkPath_eq_ok_iff.mpr ⟨hzero, by simp [hcs], hshort⟩
    rw [locate, hcheck, hstart, hwalk]
    -- The last name is behind directories; what it names is not followed.
    rcases List.eq_nil_or_concat place with rfl | ⟨loc, s, rfl⟩
    · exact absurd rfl hasks.1
    · rw [List.concat_eq_append] at hentry hopen ⊢
      obtain ⟨habove, hsearch⟩ := openAbove_concat_iff.mp hopen
      have hdir := hd.directory_of_concat hentry
      have hfront : d.Leads linkLimit [] (loc.map .name) linkLimit loc :=
        hd.leads linkLimit [] hdir (by simp) habove
      rw [List.map_append, List.append_assoc, List.map_singleton, List.singleton_append]
      dsimp only
      rw [hfront.walk_append (Or.inr (List.cons_ne_nil _ _))]
      exact exists_walk_last ⟨hdir, hsearch⟩ (hd.isName hentry s (by simp)).short hentry hrest

/-! ## Resolving again -/

/-- A path that leads somewhere is resolved to that place, unless a stop on the way is
refused. -/
theorem resolve_eq_ok_iff {p q : Path} {x : Location} {e : Entry} (h : d.lookup p = .ok (x, e)) :
    d.resolve p = .ok q ↔ (∀ stop ∈ d.stops p, d.refusal? stop = none) ∧ q = x.toPath := by
  rw [resolve, h, ← List.findSome?_eq_none_iff]
  dsimp only
  cases (d.stops p).findSome? d.refusal? <;> simp [eq_comm]

theorem WellFormed.resolve_of_short (hd : d.WellFormed) {p : Path} {x : Location} {e : Entry}
    (h : d.lookup p = .ok (x, e)) (hopen : d.OpenAbove (startOf p d.here))
    (hshort : ∀ stop ∈ d.stops p, stop.bytes.length ≤ pathLimit) : d.resolve p = .ok x.toPath := by
  refine (resolve_eq_ok_iff h).mpr ⟨fun stop hstop => ?_, rfl⟩
  obtain ⟨-, m, hleads, -⟩ := lookup_eq_ok_iff.mp h
  obtain ⟨place, hasks, habove⟩ := hleads.exists_of_mem_stops hstop
  exact (hd.refusal?_iff hasks).mpr ⟨hshort stop hstop, habove hopen⟩

theorem resolve_of_error {p : Path} {f : Fault} (h : d.lookup p = .error f) :
    d.resolve p =
      if p.bytes.isEmpty then .error .invalidInput else .ok (p.absolute d.here.toPath) := by
  rw [resolve, h]

theorem AsksFor.mono (hways : d.KeepsWays d') (hleaves : d.KeepsLeaves d') {q : Path}
    {place : Location} (h : d.AsksFor q place) : d'.AsksFor q place := by
  obtain ⟨hne, e, hentry, hq⟩ := h
  refine ⟨hne, ?_⟩
  cases hleaf : e.isLeaf with
  | false => exact ⟨e, hways.ways _ _ hentry hleaf, hq⟩
  | true =>
    obtain ⟨e', hentry', -⟩ := hleaves place e hentry hleaf
    rcases hq with hq | ⟨rfl, -⟩
    · exact ⟨e', hentry', Or.inl hq⟩
    · cases hleaf

theorem resolve_mono (hd : d.WellFormed) (hd' : d'.WellFormed) (hways : d.KeepsWays d')
    (hleaves : d.KeepsLeaves d') {p q : Path} {found : Location × Entry}
    (hq : d.resolve p = .ok q) (h : d.lookup p = .ok found) : d'.resolve p = .ok q := by
  obtain ⟨x, e⟩ := found
  obtain ⟨hstops, rfl⟩ := (resolve_eq_ok_iff h).mp hq
  obtain ⟨e', he', -⟩ := lookup_mono hways hleaves h
  obtain ⟨-, m, hleads, hentry⟩ := lookup_eq_ok_iff.mp h
  refine (resolve_eq_ok_iff he').mpr ⟨fun stop hstop => ?_, rfl⟩
  have hsame : d'.stops p = d.stops p := by
    rw [stops, stops, hways.here_eq]
    exact hleads.stops_eq hways (hleaves x)
  rw [hsame] at hstop
  obtain ⟨place, hasks, -⟩ := hleads.exists_of_mem_stops hstop
  obtain ⟨hshort, hopen⟩ := (hd.refusal?_iff hasks).mp (hstops stop hstop)
  refine (hd'.refusal?_iff (hasks.mono hways hleaves)).mpr ⟨hshort, fun k hk => ?_⟩
  rw [hways.host]
  exact hopen k hk

theorem resolve_leaf_mono (hd : d.WellFormed) (hhere : d.entryAt d.here = some .directory)
    (hd' : d'.WellFormed) (hways : d.KeepsWays d') (hleaves : d.KeepsLeaves d') {p q : Path}
    {x : Location} {e : Entry} (hq : d.resolve p = .ok q) (hfound : d.lookup q = .ok (x, e))
    (hleaf : e.isLeaf = true) : d'.resolve p = .ok q := by
  cases hp : d.lookup p with
  | ok found => exact resolve_mono hd hd' hways hleaves hq hp
  | error f =>
    rw [resolve_of_error hp] at hq
    split at hq
    · cases hq
    · next hfull =>
      cases hq
      cases hp' : d'.lookup p with
      | error f' => rw [resolve_of_error hp', if_neg hfull, hways.here_eq]
      | ok found =>
        -- The path would lead to the leaf, and would have done so before.
        obtain ⟨y, e₁⟩ := found
        obtain ⟨e', hlookup, -⟩ := lookup_mono hways hleaves hfound
        obtain ⟨e₂, hentry₂, hleaf₂⟩ := hleaves x e (entryAt_of_lookup hfound) hleaf
        have hhere' : d'.entryAt d'.here = some .directory := by
          rw [hways.here_eq]
          exact hways.directory hhere
        rw [← hways.here_eq] at hlookup
        have hy := eq_of_lookup_absolute hd' hhere' hlookup hp'
        have he : e₁ ≠ .directory := by
          rintro rfl
          have hdir := entryAt_of_lookup hp'
          rw [hy, hentry₂] at hdir
          cases hdir
          cases hleaf₂
        have hagain := lookup_of_absolute hd hhere hfound (lookup_eq_ok_iff.mp hp').1
          fun hlast => absurd hlast (ends_of_lookup hp' he).2
        rw [hp] at hagain
        cases hagain

end Storyboard.Files.Disk
