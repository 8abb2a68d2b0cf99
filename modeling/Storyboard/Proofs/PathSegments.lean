import Storyboard.Files.Resolve
import Storyboard.Proofs.Lists

/-! # Segments of derived paths

What the segments of a path become when its parent is taken, and how a place is
written as a path: the parent of a path has the first segments of the path, and the
path of a place has its names.
-/
namespace Storyboard

/-! ## Parts between marks -/

namespace Text

variable {α : Type} [DecidableEq α]

theorem mark_notMem_of_mem_split {mark : α} {cs part : List α} (h : part ∈ split mark cs) :
    mark ∉ part := by
  induction cs generalizing part with
  | nil =>
    simp only [split, List.mem_singleton] at h
    simp [h]
  | cons c cs ih =>
    rw [split] at h
    split at h
    · rcases List.mem_cons.mp h with rfl | h
      · simp
      · exact ih h
    · next hc =>
      split at h
      · next hnil => exact absurd hnil (split_ne_nil mark cs)
      · next first others hsplit =>
        rcases List.mem_cons.mp h with rfl | h
        · have hfirst : mark ∉ first := ih (by rw [hsplit]; exact List.mem_cons_self)
          simp only [List.mem_cons, not_or]
          exact ⟨Ne.symm hc, hfirst⟩
        · exact ih (by rw [hsplit]; exact List.mem_cons_of_mem _ h)

theorem mem_of_mem_split {mark : α} {cs part : List α} {c : α}
    (h : part ∈ split mark cs) (hc : c ∈ part) : c ∈ cs := by
  induction cs generalizing part with
  | nil =>
    rw [split, List.mem_singleton] at h
    rwa [h] at hc
  | cons first cs ih =>
    rw [split] at h
    split at h
    · rcases List.mem_cons.mp h with rfl | h
      · cases hc
      · exact List.mem_cons_of_mem _ (ih h hc)
    · split at h
      · next hnil => exact absurd hnil (split_ne_nil mark cs)
      · next part' parts hsplit =>
        rcases List.mem_cons.mp h with rfl | h
        · rcases List.mem_cons.mp hc with rfl | hc
          · exact List.mem_cons_self
          · exact List.mem_cons_of_mem _ (ih (by rw [hsplit]; exact List.mem_cons_self) hc)
        · exact List.mem_cons_of_mem _ (ih (by rw [hsplit]; exact List.mem_cons_of_mem _ h) hc)

theorem split_of_notMem {mark : α} {cs : List α} (h : mark ∉ cs) : split mark cs = [cs] := by
  induction cs with
  | nil => rfl
  | cons c cs ih =>
    simp only [List.mem_cons, not_or] at h
    rw [split, if_neg (Ne.symm h.1), ih h.2]

theorem split_append (mark : α) (xs ys : List α) :
    split mark (xs ++ mark :: ys) = split mark xs ++ split mark ys := by
  induction xs with
  | nil => simp [split]
  | cons c xs ih =>
    rw [List.cons_append, split, split]
    by_cases hc : c = mark
    · rw [if_pos hc, if_pos hc, ih, List.cons_append]
    · rw [if_neg hc, if_neg hc, ih]
      cases hs : split mark xs with
      | nil => exact absurd hs (split_ne_nil mark xs)
      | cons part parts => rfl

theorem split_intercalate {mark : α} {parts : List (List α)} (hne : parts ≠ [])
    (h : ∀ part ∈ parts, mark ∉ part) :
    split mark (List.intercalate [mark] parts) = parts := by
  induction parts with
  | nil => exact absurd rfl hne
  | cons part parts ih =>
    have hpart := h part List.mem_cons_self
    cases parts with
    | nil => simpa [List.intercalate] using split_of_notMem hpart
    | cons next parts =>
      rw [List.intercalate_mark_cons, split_append, split_of_notMem hpart,
        ih (List.cons_ne_nil _ _) fun q hq => h q (List.mem_cons_of_mem _ hq),
        List.singleton_append]

theorem eq_mark_of_split {mark : α} {cs : List α} (h : ∀ part ∈ split mark cs, part = [])
    {c : α} (hc : c ∈ cs) : c = mark := by
  induction cs with
  | nil => cases hc
  | cons first cs ih =>
    rw [split] at h
    split at h
    · next hfirst =>
      rcases List.mem_cons.mp hc with rfl | hc
      · exact hfirst
      · exact ih (fun part hpart => h part (List.mem_cons_of_mem _ hpart)) hc
    · split at h
      · next hnil => exact absurd hnil (split_ne_nil mark cs)
      · cases h _ List.mem_cons_self

theorem intercalate_split (mark : α) (cs : List α) :
    List.intercalate [mark] (split mark cs) = cs := by
  induction cs with
  | nil => rfl
  | cons c cs ih =>
    rw [split]
    cases hs : split mark cs with
    | nil => exact absurd hs (split_ne_nil mark cs)
    | cons part parts =>
      rw [hs] at ih
      split
      · next hc => rw [List.intercalate_mark_cons, ih, List.nil_append, hc]
      · cases parts with
        | nil => simpa [List.intercalate] using ih
        | cons next parts =>
          rw [List.intercalate_mark_cons, List.cons_append, ← List.intercalate_mark_cons, ih]

end Text

namespace Files.Path

/-! ## Prefixes of a path -/

/-- A path goes some of the way along another one, but not all of it. -/
def IsProperPrefix (q p : Path) : Prop :=
  q.isAbsolute = p.isAbsolute ∧ ∃ rest, rest ≠ [] ∧ p.segments = q.segments ++ rest

theorem IsProperPrefix.trans {p q r : Path} (hq : q.IsProperPrefix p) (hr : r.IsProperPrefix q) :
    r.IsProperPrefix p := by
  obtain ⟨hqa, rest, hne, hp⟩ := hq
  obtain ⟨hra, rest', -, hq⟩ := hr
  refine ⟨hra.trans hqa, rest' ++ rest, by simp [hne], ?_⟩
  rw [hp, hq, List.append_assoc]

def segmentsOf (parts : List Name) : List Segment :=
  (parts.filter (!·.isEmpty)).map Segment.ofPart

theorem segmentsOf_append (parts others : List Name) :
    segmentsOf (parts ++ others) = segmentsOf parts ++ segmentsOf others := by
  simp [segmentsOf]

theorem segments_of_bytes {p : Path} {cs : List UInt8} (h : p.bytes = slash :: cs) :
    p.segments = segmentsOf (Text.split slash cs) := by
  rw [segments, h, Text.split, if_pos rfl]
  rfl

theorem segmentsOf_split_intercalate {parts : List Name} (h : ∀ part ∈ parts, slash ∉ part) :
    segmentsOf (Text.split slash (List.intercalate [slash] parts)) = segmentsOf parts := by
  by_cases hne : parts = []
  · subst hne
    rfl
  · rw [Text.split_intercalate hne h]

theorem exists_bytes_of_isAbsolute {p : Path} (h : p.isAbsolute = true) :
    ∃ cs, p.bytes = slash :: cs := by
  unfold isAbsolute at h
  cases hp : p.bytes with
  | nil => simp [hp] at h
  | cons c cs =>
    simp only [hp, List.head?_cons, beq_iff_eq, Option.some.injEq] at h
    exact ⟨cs, by rw [h]⟩

theorem isAbsolute_of_bytes {p : Path} {cs : List UInt8} (h : p.bytes = slash :: cs) :
    p.isAbsolute = true := by
  simp [isAbsolute, h]

theorem slash_ne_dot : slash ≠ dot := by decide

theorem lead_prefix (p : Path) : p.lead <+: p.bytes := by
  unfold lead
  split
  · next h =>
    obtain ⟨cs, hcs⟩ := exists_bytes_of_isAbsolute h
    simp [hcs]
  · split
    · next h =>
      rcases h with h | h
      · simp [h]
      · exact List.IsPrefix.trans (by simp) (List.isPrefixOf_iff_prefix.mp h)
    · exact List.nil_prefix

theorem bytes_eq_lead_append (p : Path) : p.bytes = p.lead ++ p.bytes.drop p.lead.length :=
  List.prefix_iff_eq_append.mp p.lead_prefix |>.symm

/-- Behind its lead, a path consists of the parts of its parent, void parts, the last part
and void parts again. -/
theorem exists_of_backParts {p : Path} {last : Name} {rest : List Name}
    (h : p.backParts = last :: rest) :
    ∃ kept before after,
      Text.split slash (p.bytes.drop p.lead.length) = kept ++ (before ++ last :: after) ∧
      p.parent? = some ⟨p.lead ++ List.intercalate [slash] kept⟩ ∧
      (∀ part ∈ before ++ after, isVoid part = true) ∧ isVoid last = false ∧
      p.fileName? = if last = [dot, dot] then none else some last := by
  have hback : (Text.split slash (p.bytes.drop p.lead.length)).reverse.dropWhile isVoid =
      last :: rest := h
  refine ⟨(rest.dropWhile isVoid).reverse, (rest.takeWhile isVoid).reverse,
    ((Text.split slash (p.bytes.drop p.lead.length)).reverse.takeWhile isVoid).reverse,
    ?_, ?_, ?_, ?_, ?_⟩
  · have hall := List.reverse_eq_append_dropWhile isVoid
      (Text.split slash (p.bytes.drop p.lead.length)).reverse
    rw [List.reverse_reverse, hback, List.reverse_cons,
      List.reverse_eq_append_dropWhile isVoid rest] at hall
    simpa using hall
  · rw [parent?, h]
  · intro part hpart
    rcases List.mem_append.mp hpart with hpart | hpart
    · exact List.all_eq_true.mp List.all_takeWhile part (List.mem_reverse.mp hpart)
    · exact List.all_eq_true.mp List.all_takeWhile part (List.mem_reverse.mp hpart)
  · apply List.of_head?_dropWhile (l := (Text.split slash (p.bytes.drop p.lead.length)).reverse)
    rw [hback, List.head?_cons]
  · rw [fileName?, h]
    simp

theorem exists_of_parent? {p q : Path} (hp : p.isAbsolute = true) (h : p.parent? = some q) :
    ∃ kept before last after,
      p.bytes = slash :: List.intercalate [slash] (kept ++ (before ++ last :: after)) ∧
      q.bytes = slash :: List.intercalate [slash] kept ∧
      (∀ part ∈ kept ++ (before ++ last :: after), slash ∉ part) ∧
      (∀ part ∈ before ++ after, isVoid part = true) ∧ isVoid last = false ∧
      p.fileName? = if last = [dot, dot] then none else some last := by
  have hlead : p.lead = [slash] := if_pos hp
  cases hparts : p.backParts with
  | nil => simp [parent?, hparts, hlead, slash_ne_dot] at h
  | cons last rest =>
    obtain ⟨kept, before, after, hsplit, hparent, hvoid, hlast, hname⟩ :=
      exists_of_backParts hparts
    rw [h, hlead] at hparent
    cases hparent
    refine ⟨kept, before, last, after, ?_, ?_, fun part hpart => ?_, hvoid, hlast, hname⟩
    · rw [← hsplit, Text.intercalate_split, bytes_eq_lead_append, hlead]
      rfl
    · simp
    · rw [← hsplit] at hpart
      exact Text.mark_notMem_of_mem_split hpart

theorem segments_ne_nil {p : Path} (hne : p.bytes ≠ []) (hslash : p.endsInSlash = false) :
    p.segments ≠ [] := by
  intro hnil
  have hempty : ∀ part ∈ Text.split slash p.bytes, part = [] := by
    simpa using List.filter_eq_nil_iff.mp (List.map_eq_nil_iff.mp hnil)
  have hlast := Text.eq_mark_of_split hempty (List.getLast_mem hne)
  rw [endsInSlash, List.getLast?_eq_some_getLast hne, hlast] at hslash
  cases hslash

theorem segmentsOf_ne_nil {parts : List Name} {part : Name} (h : part ∈ parts)
    (hpart : isVoid part = false) : segmentsOf parts ≠ [] := by
  intro hnil
  have hempty : part.isEmpty = true := by
    simpa using List.filter_eq_nil_iff.mp (List.map_eq_nil_iff.mp hnil) part h
  rw [List.isEmpty_iff.mp hempty] at hpart
  cases hpart

/-- The parent of an absolute path is absolute and has fewer of its segments. -/
theorem isProperPrefix_of_parent? {p q : Path} (hp : p.isAbsolute = true)
    (h : p.parent? = some q) : q.IsProperPrefix p := by
  obtain ⟨kept, before, last, after, hpbytes, hqbytes, hclean, -, hlast, -⟩ :=
    exists_of_parent? hp h
  refine ⟨by rw [isAbsolute_of_bytes hqbytes, hp], segmentsOf (before ++ last :: after), ?_, ?_⟩
  · have hmem : last ∈ before ++ last :: after := by simp
    exact segmentsOf_ne_nil hmem hlast
  · have hkept : ∀ part ∈ kept, slash ∉ part := fun part hpart =>
      hclean part (List.mem_append_left _ hpart)
    rw [segments_of_bytes hpbytes, segmentsOf_split_intercalate hclean, segmentsOf_append,
      segments_of_bytes hqbytes, segmentsOf_split_intercalate hkept]

theorem mem_ancestorsWithin {n : Nat} {p q : Path} (hp : p.isAbsolute = true)
    (h : q ∈ ancestorsWithin n p) : q = p ∨ q.IsProperPrefix p := by
  induction n generalizing p with
  | zero => cases h
  | succ n ih =>
    rw [ancestorsWithin] at h
    split at h
    · next parent hparent =>
      have hproper := isProperPrefix_of_parent? hp hparent
      rcases List.mem_cons.mp h with rfl | h
      · exact Or.inl rfl
      · right
        rcases ih (hproper.1.trans hp) h with rfl | hq
        · exact hproper
        · exact hproper.trans hq
    · cases h

theorem isProperPrefix_of_mem_ancestors {p parent q : Path} (hp : p.isAbsolute = true)
    (hparent : p.parent? = some parent) (h : q ∈ parent.ancestors) : q.IsProperPrefix p := by
  have hproper := isProperPrefix_of_parent? hp hparent
  rcases mem_ancestorsWithin (hproper.1.trans hp) h with rfl | hq
  · exact hproper
  · exact hproper.trans hq

/-! ## Absolute paths -/

theorem isAbsolute_append {p : Path} (h : p.isAbsolute = true) (bs : List UInt8) :
    isAbsolute ⟨p.bytes ++ bs⟩ = true := by
  obtain ⟨cs, hcs⟩ := exists_bytes_of_isAbsolute h
  exact isAbsolute_of_bytes (p := ⟨p.bytes ++ bs⟩) (by rw [hcs, List.cons_append])

theorem isAbsolute_join {p : Path} (h : p.isAbsolute = true) (q : Path) :
    (p.join q).isAbsolute = true := by
  unfold join
  split
  · next hq => exact hq
  · split
    · exact isAbsolute_append h _
    · exact isAbsolute_append h _

theorem isAbsolute_foldl_join (segments : List Segment) {p : Path} (h : p.isAbsolute = true) :
    (segments.foldl (fun q s => q.join ⟨s.bytes⟩) p).isAbsolute = true := by
  induction segments generalizing p with
  | nil => exact h
  | cons s segments ih => exact ih (isAbsolute_join h _)

theorem isAbsolute_anchor (p : Path) {here : Path} (h : here.isAbsolute = true) :
    (p.anchor here).isAbsolute = true := by
  unfold anchor
  split
  · split <;> rfl
  · exact h

theorem isAbsolute_absolute (p : Path) {here : Path} (h : here.isAbsolute = true) :
    (p.absolute here).isAbsolute = true := by
  unfold absolute
  dsimp only
  split
  · exact isAbsolute_join (isAbsolute_foldl_join _ (isAbsolute_anchor p h)) _
  · exact isAbsolute_foldl_join _ (isAbsolute_anchor p h)

end Files.Path

theorem Files.Location.isAbsolute_toPath (loc : Files.Location) : loc.toPath.isAbsolute = true :=
  Path.isAbsolute_append (p := ⟨[slash]⟩) rfl _

theorem Files.Disk.isAbsolute_of_resolve {d : Disk} {p q : Path} (h : d.resolve p = .ok q) :
    q.isAbsolute = true := by
  unfold resolve at h
  split at h
  · split at h
    · cases h
    · cases h
      exact Location.isAbsolute_toPath _
  · split at h
    · cases h
    · cases h
      exact Path.isAbsolute_absolute p (Location.isAbsolute_toPath _)

end Storyboard
