import Mathlib.Data.List.TakeWhile
import Storyboard.Proofs.Places

/-! # Joined paths

The segments of a path that is joined from others, of the absolute form of a path and
of its parent. An absolute form has the segments of the path except those that stay in
place; the parent of a path without such segments lacks exactly the last one.
-/
namespace Storyboard.Files

/-- A segment that is read back from its bytes. -/
structure Segment.Proper (segment : Segment) : Prop where
  ne_nil : segment.bytes ≠ []
  slash_notMem : Files.slash ∉ segment.bytes
  ofPart_eq : Segment.ofPart segment.bytes = segment

theorem Segment.bytes_ofPart (part : Name) : (ofPart part).bytes = part := by
  unfold ofPart
  split
  · next h => rw [h, bytes]
  · split
    · next h => rw [h, bytes]
    · rfl

theorem Segment.proper_ofPart {part : Name} (hne : part ≠ []) (hslash : Files.slash ∉ part) :
    (ofPart part).Proper :=
  ⟨by rwa [bytes_ofPart], by rwa [bytes_ofPart], by rw [bytes_ofPart]⟩

namespace Path

theorem proper_of_mem_segments {p : Path} {segment : Segment} (h : segment ∈ p.segments) :
    segment.Proper := by
  obtain ⟨part, hpart, rfl⟩ := List.mem_map.mp h
  obtain ⟨hsplit, hfull⟩ := List.mem_filter.mp hpart
  exact Segment.proper_ofPart (by simpa using hfull) (Text.mark_notMem_of_mem_split hsplit)

/-! ## Joining one segment -/

theorem isAbsolute_of_notMem {s : Name} (hs : slash ∉ s) : isAbsolute ⟨s⟩ = false := by
  unfold isAbsolute
  rw [beq_eq_false_iff_ne]
  intro hhead
  exact hs (List.mem_of_head? hhead)

theorem bytes_join {base rest : Path} (hbase : base.isAbsolute = true)
    (hrest : rest.isAbsolute = false) :
    ∃ cs, (base.join rest).bytes = cs ++ slash :: rest.bytes ∧
      (base.bytes = cs ∧ base.endsInSlash = false ∨ base.bytes = cs ++ [slash]) := by
  obtain ⟨cs, hcs⟩ := exists_bytes_of_isAbsolute hbase
  have hfull : base.bytes.isEmpty = false := by simp [hcs]
  unfold join
  rw [hrest, hfull, if_neg Bool.false_ne_true, Bool.false_or]
  by_cases hslash : base.endsInSlash = true
  · obtain ⟨front, hfront⟩ := List.getLast?_eq_some_iff.mp (beq_iff_eq.mp hslash)
    refine ⟨front, ?_, Or.inr hfront⟩
    rw [if_pos hslash, hfront, List.append_assoc]
    rfl
  · refine ⟨base.bytes, ?_, Or.inl ⟨rfl, Bool.eq_false_iff.mpr hslash⟩⟩
    rw [if_neg hslash]

theorem segmentsOf_split_append (xs ys : List UInt8) :
    segmentsOf (Text.split slash (xs ++ slash :: ys)) =
      segmentsOf (Text.split slash xs) ++ segmentsOf (Text.split slash ys) := by
  rw [Text.split_append, segmentsOf_append]

theorem segments_of_bytes_append {p : Path} {xs ys : List UInt8} (h : p.bytes = xs ++ slash :: ys) :
    p.segments = segmentsOf (Text.split slash xs) ++ segmentsOf (Text.split slash ys) := by
  have hsegments : p.segments = segmentsOf (Text.split slash p.bytes) := rfl
  rw [hsegments, h, segmentsOf_split_append]

theorem segments_join {base rest : Path} (hbase : base.isAbsolute = true)
    (hrest : rest.isAbsolute = false) :
    (base.join rest).segments = base.segments ++ rest.segments := by
  obtain ⟨cs, hjoin, hcs⟩ := bytes_join hbase hrest
  rw [segments_of_bytes_append hjoin]
  congr 1
  rcases hcs with ⟨hcs, -⟩ | hcs
  · rw [← hcs]
    rfl
  · rw [segments_of_bytes_append hcs]
    exact (List.append_nil _).symm

theorem segments_join_segment {base : Path} (hbase : base.isAbsolute = true) {segment : Segment}
    (h : segment.Proper) : (base.join ⟨segment.bytes⟩).segments = base.segments ++ [segment] := by
  obtain ⟨hne, hslash, hpart⟩ := h
  have hfull : segments ⟨segment.bytes⟩ = [segment] := by
    have hempty : segment.bytes.isEmpty = false := by simpa using hne
    simp [segments, Text.split_of_notMem hslash, hempty, hpart]
  rw [segments_join hbase (isAbsolute_of_notMem hslash), hfull]

theorem endsInSlash_join_segment {base : Path} (hbase : base.isAbsolute = true)
    {segment : Segment} (h : segment.Proper) :
    (base.join ⟨segment.bytes⟩).endsInSlash = false := by
  obtain ⟨hne, hslash, -⟩ := h
  obtain ⟨cs, hjoin, -⟩ := bytes_join hbase (isAbsolute_of_notMem hslash)
  rw [endsInSlash, hjoin, List.getLast?_append, List.getLast?_cons,
    List.getLast?_eq_some_getLast hne, Option.getD_some, Option.some_or, beq_eq_false_iff_ne]
  intro heq
  exact hslash (Option.some.inj heq ▸ List.getLast_mem hne)

/-! ## Absolute forms -/

theorem segments_foldl_join {segments : List Segment} (h : ∀ s ∈ segments, s.Proper) {base : Path}
    (hbase : base.isAbsolute = true) :
    (segments.foldl (fun q s => q.join ⟨s.bytes⟩) base).segments = base.segments ++ segments := by
  induction segments generalizing base with
  | nil => rw [List.foldl_nil, List.append_nil]
  | cons s segments ih =>
    rw [List.foldl_cons, ih (fun t ht => h t (List.mem_cons_of_mem s ht)) (isAbsolute_join hbase _),
      segments_join_segment hbase (h s List.mem_cons_self), List.append_assoc,
      List.singleton_append]

def moves (p : Path) : List Segment := p.segments.filter (· != .here)

theorem segments_absolute (p : Path) {here : Path} (hhere : here.isAbsolute = true) :
    (p.absolute here).segments = (p.anchor here).segments ++ p.moves := by
  have hproper : ∀ s ∈ p.moves, s.Proper := fun s hs =>
    proper_of_mem_segments (List.mem_filter.mp hs).1
  have hanchor := isAbsolute_anchor p hhere
  have hbase := segments_foldl_join hproper hanchor
  unfold absolute
  dsimp only
  split
  · rw [segments_join (isAbsolute_foldl_join _ hanchor) rfl]
    rw [moves] at hbase
    rw [hbase]
    exact List.append_nil _
  · exact hbase

theorem segments_anchor (p here : Path) :
    (p.anchor here).segments = if p.isAbsolute then [] else here.segments := by
  unfold anchor
  split
  · split <;> rfl
  · rfl

theorem endsInSlash_absolute {p here : Path} (hhere : here.isAbsolute = true)
    (h : p.endsInSlash = true) : (p.absolute here).endsInSlash = true := by
  unfold absolute
  dsimp only
  rw [if_pos h]
  have hbase := isAbsolute_foldl_join (p.segments.filter (· != .here)) (isAbsolute_anchor p hhere)
  have hempty : isAbsolute ⟨[]⟩ = false := rfl
  obtain ⟨cs, hjoin, -⟩ := bytes_join hbase hempty
  simp [endsInSlash, hjoin]

/-! ## Parents -/

theorem segmentsOf_of_void {parts : List Name} (h : ∀ part ∈ parts, isVoid part = true) :
    ∀ segment ∈ segmentsOf parts, segment = .here := by
  intro segment hsegment
  obtain ⟨part, hpart, rfl⟩ := List.mem_map.mp hsegment
  obtain ⟨hmem, hfull⟩ := List.mem_filter.mp hpart
  have hdot : part = [dot] := by
    have := h part hmem
    simp_all [isVoid]
  rw [hdot]
  rfl

theorem segmentsOf_singleton {part : Name} (h : isVoid part = false) :
    segmentsOf [part] = [Segment.ofPart part] := by
  have hempty : part.isEmpty = false := by
    cases part with
    | nil => cases h
    | cons c cs => rfl
  simp [segmentsOf, hempty]

theorem eq_of_ofPart {part : Name} {s : Name} (h : Segment.ofPart part = .name s) :
    part ≠ [dot, dot] ∧ s = part := by
  unfold Segment.ofPart at h
  split at h
  · cases h
  · split at h
    · cases h
    · next hdots =>
      cases h
      exact ⟨hdots, rfl⟩

theorem of_lead_eq_dot {p : Path} {tail : List UInt8} (hp : p.bytes = p.lead ++ tail)
    (hlead : p.lead = [dot]) : tail = [] ∨ tail.head? = some slash := by
  rw [hlead] at hp
  unfold lead at hlead
  split at hlead
  · exact absurd (List.singleton_inj.mp hlead) slash_ne_dot
  · split at hlead
    · next hdot =>
      rcases hdot with hdot | hdot
      · left
        simpa [hdot] using hp
      · right
        obtain ⟨more, hmore⟩ := List.isPrefixOf_iff_prefix.mp hdot
        rw [← hmore] at hp
        simp only [List.cons_append, List.nil_append, List.cons.injEq, true_and] at hp
        rw [← hp, List.head?_cons]
    · cases hlead

theorem lead_cases (p : Path) : p.lead = [slash] ∨ p.lead = [dot] ∨ p.lead = [] := by
  unfold lead
  split
  · exact Or.inl rfl
  · split
    · exact Or.inr (Or.inl rfl)
    · exact Or.inr (Or.inr rfl)

/-- The lead of a path is a part of its own, in front of what follows or of the first of
it. -/
theorem segmentsOf_split_lead_append {p : Path} {tail front : List UInt8}
    (hp : p.bytes = p.lead ++ tail) (hfront : front <+: tail) :
    segmentsOf (Text.split slash (p.lead ++ front)) =
      segmentsOf (Text.split slash p.lead) ++ segmentsOf (Text.split slash front) := by
  obtain ⟨more, rfl⟩ := hfront
  rcases p.lead_cases with hlead | hlead | hlead
  · rw [hlead]
    rfl
  · have htail := of_lead_eq_dot hp hlead
    rw [hlead]
    cases front with
    | nil => rfl
    | cons c front =>
      have hslash : c = slash := by simpa using htail
      rw [hslash]
      rfl
  · rw [hlead]
    rfl

theorem isVoid_of_mem_lead {p : Path} {part : Name} (h : part ∈ Text.split slash p.lead) :
    isVoid part = true := by
  rcases p.lead_cases with hlead | hlead | hlead <;> rw [hlead] at h <;> revert part <;> decide

theorem isAbsolute_lead_append {p : Path} {tail front : List UInt8}
    (hp : p.bytes = p.lead ++ tail) (hfront : front <+: tail) :
    isAbsolute ⟨p.lead ++ front⟩ = p.isAbsolute := by
  obtain ⟨more, rfl⟩ := hfront
  rw [Bool.eq_iff_iff]
  constructor
  · intro h
    obtain ⟨cs, (hcs : p.lead ++ front = slash :: cs)⟩ := exists_bytes_of_isAbsolute h
    rw [← List.append_assoc, hcs] at hp
    exact isAbsolute_of_bytes hp
  · intro h
    have hlead : p.lead = [slash] := if_pos h
    rw [hlead]
    rfl

/-- A path that ends with a name has a parent, which leads as far as the segments in front
of the name. -/
theorem exists_parent? {p : Path} {before : List Segment} {s : Name}
    (h : p.segments = before ++ [.name s]) :
    ∃ q stay, p.parent? = some q ∧ p.fileName? = some s ∧ q.isAbsolute = p.isAbsolute ∧
      before = q.segments ++ stay ∧ ∀ segment ∈ stay, segment = .here := by
  have hbytes := p.bytes_eq_lead_append
  have hsegments := segmentsOf_split_lead_append hbytes List.prefix_rfl
  rw [← hbytes] at hsegments
  change p.segments = _ at hsegments
  have hlead : ∀ segment ∈ segmentsOf (Text.split slash p.lead), segment = .here :=
    segmentsOf_of_void fun _ hpart => isVoid_of_mem_lead hpart
  cases hparts : p.backParts with
  | nil =>
    have hvoid : ∀ part ∈ Text.split slash (p.bytes.drop p.lead.length), isVoid part = true :=
      fun part hpart => List.dropWhile_eq_nil_iff.mp hparts part (List.mem_reverse.mpr hpart)
    have hmem : .name s ∈ p.segments := by simp [h]
    rw [hsegments] at hmem
    rcases List.mem_append.mp hmem with hmem | hmem
    · cases hlead _ hmem
    · cases segmentsOf_of_void hvoid _ hmem
  | cons last rest =>
    obtain ⟨kept, around, after, hsplit, hparent, hvoid, hlast, hname⟩ := exists_of_backParts hparts
    have hfront : List.intercalate [slash] kept <+: p.bytes.drop p.lead.length := by
      rw [← Text.intercalate_split slash (p.bytes.drop p.lead.length), hsplit]
      exact List.intercalate_mark_prefix_append _ _ _
    have hkept : ∀ part ∈ kept, slash ∉ part := by
      intro part hpart
      exact Text.mark_notMem_of_mem_split (by rw [hsplit]; exact List.mem_append_left _ hpart)
    have hq : segments ⟨p.lead ++ List.intercalate [slash] kept⟩ =
        segmentsOf (Text.split slash p.lead) ++ segmentsOf kept := by
      rw [← segmentsOf_split_intercalate hkept, ← segmentsOf_split_lead_append hbytes hfront]
      rfl
    rw [hsplit, segmentsOf_append, segmentsOf_append, ← List.singleton_append, segmentsOf_append,
      segmentsOf_singleton hlast, ← List.append_assoc, ← hq, h] at hsegments
    -- The path ends with a name, so no void part is behind the last one.
    have hafter : segmentsOf after = [] := by
      rcases List.eq_nil_or_concat (segmentsOf after) with hnil | ⟨xs, x, hx⟩
      · exact hnil
      · have hbehind : ∀ part ∈ after, isVoid part = true := fun part hpart =>
          hvoid part (List.mem_append_right _ hpart)
        have hhere := segmentsOf_of_void hbehind x (by simp [hx])
        rw [hx, hhere, List.concat_eq_append] at hsegments
        simp only [← List.append_assoc] at hsegments
        cases (List.append_inj' hsegments rfl).2
    rw [hafter, List.append_nil, ← List.append_assoc] at hsegments
    obtain ⟨hbefore, hpart⟩ := List.append_inj' hsegments rfl
    obtain ⟨hdots, rfl⟩ := eq_of_ofPart (List.singleton_inj.mp hpart).symm
    refine ⟨_, segmentsOf around, hparent, ?_, isAbsolute_lead_append hbytes hfront, hbefore,
      segmentsOf_of_void fun part hpart => hvoid part (List.mem_append_left _ hpart)⟩
    rw [hname, if_neg hdots]

end Path

/-! ## Paths of places -/

namespace Location

theorem toPath_concat {loc : Location} (h : ∀ s ∈ loc, IsName s) {t : Name} (ht : slash ∉ t) :
    Location.toPath (loc ++ [t]) = loc.toPath.join ⟨t⟩ := by
  have hbytes : (Location.toPath (loc ++ [t])).bytes = (loc.toPath.join ⟨t⟩).bytes := by
    have hrelative := Path.isAbsolute_of_notMem ht
    obtain ⟨cs, hjoin, hcs⟩ := Path.bytes_join loc.isAbsolute_toPath hrelative
    rw [hjoin, toPath]
    by_cases hne : loc = []
    · subst hne
      rcases hcs with ⟨-, hslash⟩ | hcs
      · cases hslash
      · have hnil : cs = [] := List.append_left_eq_self.mp hcs.symm
        simp [hnil, List.intercalate]
    · have hbase : loc.toPath.bytes = cs := by
        rcases hcs with ⟨hcs, -⟩ | hcs
        · exact hcs
        · have hslash := endsInSlash_toPath hne h
          simp [Path.endsInSlash, hcs] at hslash
      rw [← hbase, toPath, List.intercalate_mark_concat _ _ hne, List.cons_append]
  exact congrArg Path.mk hbytes

theorem join_nil_toPath {loc : Location} (hne : loc ≠ []) (h : ∀ s ∈ loc, IsName s) :
    loc.toPath.join ⟨[]⟩ = ⟨loc.toPath.bytes ++ [slash]⟩ := by
  have hempty : Path.isAbsolute ⟨[]⟩ = false := rfl
  have hfull : loc.toPath.bytes.isEmpty = false := rfl
  rw [Path.join, hempty, hfull, endsInSlash_toPath hne h]
  rfl

theorem isVoid_of_isName {s : Name} (h : IsName s) : Path.isVoid s = false := by
  simp [Path.isVoid, h.ne_nil, h.ne_dot]

theorem lead_toPath (loc : Location) : loc.toPath.lead = [slash] := if_pos loc.isAbsolute_toPath

theorem backParts_toPath {loc : Location} {s : Name} (h : ∀ t ∈ loc ++ [s], IsName t) :
    (Location.toPath (loc ++ [s])).backParts = s :: loc.reverse := by
  have hbytes : (Location.toPath (loc ++ [s])).bytes =
      slash :: List.intercalate [slash] (loc ++ [s]) := rfl
  rw [Path.backParts, lead_toPath, hbytes, List.length_singleton, List.drop_one, List.tail_cons,
    Text.split_intercalate (by simp) fun t ht => (h t ht).slash_notMem,
    List.reverse_append, List.reverse_singleton, List.singleton_append,
    List.dropWhile_cons_of_neg (by simp [isVoid_of_isName (h s (by simp))])]

theorem fileName?_toPath {loc : Location} {s : Name} (h : ∀ t ∈ loc ++ [s], IsName t) :
    (Location.toPath (loc ++ [s])).fileName? = some s := by
  rw [Path.fileName?, backParts_toPath h]
  simp [(h s (by simp)).ne_dots]

theorem parent?_toPath {loc : Location} {s : Name} (h : ∀ t ∈ loc ++ [s], IsName t) :
    (Location.toPath (loc ++ [s])).parent? = some loc.toPath := by
  have hfull : loc.reverse.dropWhile Path.isVoid = loc.reverse := by
    cases hback : loc.reverse with
    | nil => rfl
    | cons t rest =>
      have hmem : t ∈ loc.reverse := by simp [hback]
      have hname := h t (List.mem_append_left _ (List.mem_reverse.mp hmem))
      rw [List.dropWhile_cons_of_neg (by simp [isVoid_of_isName hname])]
  rw [Path.parent?, backParts_toPath h, lead_toPath]
  dsimp only
  rw [hfull, List.reverse_reverse, List.singleton_append, toPath]

end Location
end Storyboard.Files
