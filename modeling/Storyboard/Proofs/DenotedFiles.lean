import Storyboard.Proofs.ResolvedPaths
import Storyboard.Proofs.RunPhases

/-! # What a resolved path leads to

A path that leads somewhere is resolved to the path of this place, which leads there
again, unless it is too long or a directory around the place is closed: a walk from the
working directory needs neither. Any other path is resolved to its absolute form. This one
may lead somewhere all the same, since it leaves out the segments that stay in place:
without them a path can be short enough to be asked for, and it no longer insists on a
directory at its end.
-/
namespace Storyboard

/-! ## Bytes of absolute forms -/

theorem Text.exists_part_of_mem {α : Type} [DecidableEq α] {mark c : α} {cs : List α}
    (h : c ∈ cs) (hc : c ≠ mark) : ∃ part ∈ split mark cs, c ∈ part := by
  induction cs with
  | nil => cases h
  | cons first cs ih =>
    rw [split]
    split
    · next hfirst =>
      rcases List.mem_cons.mp h with rfl | h
      · exact absurd hfirst hc
      · obtain ⟨part, hpart, hmem⟩ := ih h
        exact ⟨part, List.mem_cons_of_mem _ hpart, hmem⟩
    · split
      · next hnil => exact absurd hnil (split_ne_nil mark cs)
      · next part parts hsplit =>
        rcases List.mem_cons.mp h with rfl | h
        · exact ⟨_, List.mem_cons_self, List.mem_cons_self⟩
        · obtain ⟨other, hother, hmem⟩ := ih h
          rw [hsplit] at hother
          rcases List.mem_cons.mp hother with rfl | hother
          · exact ⟨_, List.mem_cons_self, List.mem_cons_of_mem _ hmem⟩
          · exact ⟨other, List.mem_cons_of_mem _ hother, hmem⟩

namespace Files

namespace Path

theorem bytes_subset_join (base : Path) {rest : Path} (hrest : rest.isAbsolute = false) :
    base.bytes ⊆ (base.join rest).bytes ∧ rest.bytes ⊆ (base.join rest).bytes := by
  unfold join
  rw [if_neg (by simp [hrest])]
  split
  · exact ⟨List.subset_append_left _ _, List.subset_append_right _ _⟩
  · exact ⟨List.subset_append_left _ _,
      List.Subset.trans (List.subset_cons_self _ _) (List.subset_append_right _ _)⟩

theorem bytes_subset_foldl_join {segments : List Segment} (h : ∀ s ∈ segments, s.Proper)
    (base : Path) :
    base.bytes ⊆ (segments.foldl (fun q s => q.join ⟨s.bytes⟩) base).bytes ∧
      ∀ s ∈ segments, s.bytes ⊆ (segments.foldl (fun q s => q.join ⟨s.bytes⟩) base).bytes := by
  induction segments generalizing base with
  | nil => exact ⟨List.Subset.refl _, by simp⟩
  | cons s segments ih =>
    obtain ⟨hbase, hmem⟩ := ih (fun t ht => h t (List.mem_cons_of_mem s ht)) (base.join ⟨s.bytes⟩)
    obtain ⟨hleft, hright⟩ := base.bytes_subset_join
      (isAbsolute_of_notMem (h s List.mem_cons_self).slash_notMem)
    refine ⟨List.Subset.trans hleft hbase, fun t ht => ?_⟩
    rcases List.mem_cons.mp ht with rfl | ht
    · exact List.Subset.trans hright hbase
    · exact hmem t ht

theorem mem_bytes_absolute {p : Path} (here : Path) {c : UInt8} (h : c ∈ p.bytes)
    (hslash : c ≠ slash) (hdot : c ≠ dot) : c ∈ (p.absolute here).bytes := by
  obtain ⟨part, hpart, hc⟩ := Text.exists_part_of_mem h hslash
  have htext := Segment.bytes_ofPart part
  have hmoves : Segment.ofPart part ∈ p.moves := by
    refine List.mem_filter.mpr ⟨List.mem_map.mpr ⟨part, List.mem_filter.mpr ⟨hpart, ?_⟩, rfl⟩, ?_⟩
    · cases part with
      | nil => cases hc
      | cons => rfl
    · rw [bne_iff_ne]
      intro hhere
      rw [hhere] at htext
      rw [← htext] at hc
      exact hdot (List.mem_singleton.mp hc)
  have hproper : ∀ s ∈ p.moves, s.Proper := fun s hs =>
    proper_of_mem_segments (List.mem_filter.mp hs).1
  have hmem := (bytes_subset_foldl_join hproper (p.anchor here)).2 _ hmoves
  rw [htext] at hmem
  unfold absolute
  dsimp only
  split
  · exact (bytes_subset_join _ rfl).1 (hmem hc)
  · exact hmem hc

end Path

namespace Disk

variable {d : Disk} {p q : Path}

theorem checkPath_of_absolute {here : Path} (h : checkPath (p.absolute here) = .ok ())
    (hempty : p.bytes ≠ []) (hsize : p.bytes.length ≤ pathLimit) : checkPath p = .ok () := by
  refine checkPath_eq_ok_iff.mpr ⟨fun hmem => ?_, hempty, hsize⟩
  exact (checkPath_eq_ok_iff.mp h).1 (Path.mem_bytes_absolute here hmem (by decide) (by decide))

/-! ## Places have paths -/

theorem WellFormed.ne_link_of_leads (hd : d.WellFormed) {n m : Nat} {loc l : Location}
    {segments : List Segment} (h : d.Leads n loc segments m l)
    (hloc : ∀ target, d.entryAt loc ≠ some (.link target)) (target : Path) :
    d.entryAt l ≠ some (.link target) := by
  have hdirectory : ∀ {x : Location}, d.entryAt x = some .directory →
      ∀ target, d.entryAt x ≠ some (.link target) := by
    intro x hx target hlink
    rw [hx] at hlink
    cases hlink
  induction h with
  | done => exact hloc target
  | here hopen _ ih => exact ih (hdirectory hopen.directory)
  | slash hdir _ ih => exact ih (hdirectory hdir)
  | up hopen _ ih => exact ih (hdirectory (hd.directory_dropLast hopen.directory))
  | enter _ _ hentry hlink _ ih =>
    apply ih
    intro target htarget
    rw [hentry] at htarget
    exact hlink target (Option.some.inj htarget)
  | follow hopen _ _ _ ih =>
    apply ih
    unfold startOf
    split
    · exact hdirectory rfl
    · exact hdirectory hopen.directory

theorem WellFormed.ne_link_of_lookup (hd : d.WellFormed)
    (hhere : d.entryAt d.here = some .directory) {x : Location} {e : Entry}
    (h : d.lookup p = .ok (x, e)) (target : Path) : e ≠ .link target := by
  obtain ⟨-, m, hleads, he⟩ := lookup_eq_ok_iff.mp h
  have hstart : d.entryAt (startOf p d.here) = some .directory := by
    unfold startOf
    split
    · rfl
    · exact hhere
  rintro rfl
  exact hd.ne_link_of_leads hleads (by rw [hstart]; simp) target he

/-! ## Resolving keeps what a path leads to -/

def isSearchable (d : Disk) (p : Path) : Bool :=
  match d.lookup p with
  | .ok (l, .directory) => (d.search l).isNone
  | _ => false

theorem isSearchable_eq_true_iff {l : Location} {e : Entry} (h : d.lookup p = .ok (l, e)) :
    d.isSearchable p = true ↔ d.IsOpen l := by
  have hentry := entryAt_of_lookup h
  unfold isSearchable
  rw [h]
  constructor
  · intro hopen
    split at hopen
    · next heq =>
      cases heq
      exact ⟨hentry, Option.isNone_iff_eq_none.mp hopen⟩
    · cases hopen
  · intro hopen
    have he := hopen.directory
    rw [hentry] at he
    cases he
    simp [hopen.search]

/-- A path leads nowhere, but the path to which it is resolved leads somewhere: the
given one is too long, or it stays in place behind what cannot be searched. -/
def Uncovers (d : Disk) (p q : Path) : Prop :=
  d.pathExists q = true ∧ (pathLimit < p.bytes.length ∨
    p.segments.getLast? = some .here ∧ d.isSearchable q = false)

instance (d : Disk) (p q : Path) : Decidable (d.Uncovers p q) := by
  unfold Uncovers
  infer_instance

/-- A path leads somewhere, but the path to which it is resolved leads nowhere: that one is
too long, or a directory around the place is closed. -/
def Hides (d : Disk) (p q : Path) : Prop :=
  ∃ l e, d.lookup p = .ok (l, e) ∧ (pathLimit < q.bytes.length ∨ ¬d.OpenAbove l)

instance (d : Disk) (p q : Path) : Decidable (d.Hides p q) :=
  match h : d.lookup p with
  | .ok (l, e) => decidable_of_iff (pathLimit < q.bytes.length ∨ ¬d.OpenAbove l)
      (by simp [Hides, h])
  | .error f => isFalse (by simp [Hides, h])

section Home

variable (hd : d.WellFormed) (hhere : d.entryAt d.here = some .directory)
  (h : d.resolve p = .ok q)
include hd hhere h

/-- What leads somewhere is resolved to a path that leads there, unless this one hides
it. -/
theorem lookup_resolve_iff {found : Location × Entry} (hp : d.lookup p = .ok found) :
    d.lookup q = .ok found ↔ ¬d.Hides p q := by
  obtain ⟨x, e⟩ := found
  obtain ⟨-, rfl⟩ := (resolve_eq_ok_iff hp).mp h
  rw [hd.lookup_toPath_iff (entryAt_of_lookup hp) (hd.ne_link_of_lookup hhere hp)]
  simp [Hides, hp]

omit hhere in
theorem pathExists_of_hides (hhides : d.Hides p q) : d.pathExists q = false := by
  obtain ⟨x, e, hp, hhidden⟩ := id hhides
  obtain ⟨-, rfl⟩ := (resolve_eq_ok_iff hp).mp h
  have hentry := entryAt_of_lookup hp
  rw [Bool.eq_false_iff, ne_eq, pathExists_eq_true_iff]
  rintro ⟨⟨y, e'⟩, hfound⟩
  obtain ⟨hcheck, m, hleads, hend⟩ := lookup_eq_ok_iff.mp hfound
  have hwalk := hleads.walk_eq hend
  rw [startOf_toPath, Path.walkSegments, Location.segments_toPath (hd.isName hentry)] at hwalk
  rcases hhidden with hlong | hclosed
  · exact absurd (checkPath_eq_ok_iff.mp hcheck).2.2 (Nat.not_le.mpr hlong)
  · exact hclosed (hd.open_of_walk [] hentry hwalk)

theorem pathExists_of_uncovers (hun : d.Uncovers p q) : d.pathExists p = false := by
  rw [Bool.eq_false_iff, ne_eq, pathExists_eq_true_iff]
  rintro ⟨⟨x, e⟩, hp⟩
  obtain ⟨hexists, hun⟩ := hun
  have hq : d.lookup q = .ok (x, e) := by
    rw [lookup_resolve_iff hd hhere h hp]
    intro hhides
    rw [pathExists_of_hides hd h hhides] at hexists
    cases hexists
  obtain ⟨hcheck, m, hleads, -⟩ := lookup_eq_ok_iff.mp hp
  rcases hun with hlong | ⟨hlast, hclosed⟩
  · exact absurd (checkPath_eq_ok_iff.mp hcheck).2.2 (Nat.not_le.mpr hlong)
  · obtain ⟨front, hfront⟩ := List.getLast?_eq_some_iff.mp hlast
    have hsegments := (leads_walkSegments_iff.mp hleads).1
    rw [hfront] at hsegments
    rw [(isSearchable_eq_true_iff hq).mpr hsegments.isOpen_of_here] at hclosed
    cases hclosed

theorem lookup_of_lookup_resolve (hcover : ¬d.Uncovers p q) {found : Location × Entry}
    (hq : d.lookup q = .ok found) : d.lookup p = .ok found := by
  cases hp : d.lookup p with
  | ok place =>
    have hkept : d.lookup q = .ok place := by
      rw [lookup_resolve_iff hd hhere h hp]
      intro hhides
      have hnone := pathExists_of_hides hd h hhides
      rw [pathExists_eq_true_iff.mpr ⟨found, hq⟩] at hnone
      cases hnone
    rw [← hq, hkept]
  | error f =>
    obtain ⟨x, e⟩ := found
    have hexists : d.pathExists q = true := pathExists_eq_true_iff.mpr ⟨(x, e), hq⟩
    have hsize : p.bytes.length ≤ pathLimit :=
      Nat.not_lt.mp fun hlong => hcover ⟨hexists, Or.inl hlong⟩
    have hend : p.segments.getLast? = some .here → d.IsOpen x := by
      intro hlast
      rw [← isSearchable_eq_true_iff hq, ← Bool.not_eq_false]
      exact fun hclosed => hcover ⟨hexists, Or.inr ⟨hlast, hclosed⟩⟩
    rw [resolve_of_error hp] at h
    split at h
    · cases h
    · next hempty =>
      cases h
      have hcheck := checkPath_of_absolute (lookup_eq_ok_iff.mp hq).1 (by simpa using hempty) hsize
      rw [← hp]
      exact lookup_of_absolute hd hhere hq hcheck hend

/-- A path and the path to which it is resolved agree exactly where nothing is uncovered or
hidden. -/
theorem lookup_agrees_iff :
    (∀ found, d.lookup q = .ok found ↔ d.lookup p = .ok found) ↔
      ¬d.Uncovers p q ∧ ¬d.Hides p q := by
  constructor
  · intro hsame
    refine ⟨fun hun => ?_, fun hhides => ?_⟩
    · obtain ⟨found, hq⟩ := pathExists_eq_true_iff.mp hun.1
      have hnone := pathExists_of_uncovers hd hhere h hun
      rw [pathExists_eq_true_iff.mpr ⟨found, (hsame found).mp hq⟩] at hnone
      cases hnone
    · obtain ⟨x, e, hp, -⟩ := id hhides
      exact (lookup_resolve_iff hd hhere h hp).mp ((hsame (x, e)).mpr hp) hhides
  · rintro ⟨hcover, hhides⟩ found
    exact ⟨lookup_of_lookup_resolve hd hhere h hcover,
      fun hp => (lookup_resolve_iff hd hhere h hp).mpr hhides⟩

end Home

end Disk
end Files

open Files (Disk Volume Path Location Entry)

namespace Locations

variable {p q : Path}

end Locations
end Storyboard
