import Storyboard.Proofs.Places
import Storyboard.Proofs.Publishing
import Storyboard.Proofs.RunPhases

/-! # Runs keep disks well-formed

Each change that a run makes puts an entry into a directory, under a name that a
path spells, or takes away a file. No such change leaves an entry outside of a
directory, so a run on a well-formed disk ends with one.
-/
namespace Storyboard

namespace Files

theorem Path.isName_of_mem_segments {p : Path} {s : Name} (h : .name s ∈ p.segments)
    (hp : 0 ∉ p.bytes) (hs : s.length ≤ nameLimit) : IsName s := by
  obtain ⟨part, hpart, hname⟩ := List.mem_map.mp h
  obtain ⟨hsplit, hfull⟩ := List.mem_filter.mp hpart
  unfold Segment.ofPart at hname
  split at hname
  · cases hname
  · next hdot =>
    split at hname
    · cases hname
    · next hdots =>
      cases hname
      exact ⟨by simpa using hfull, hdot, hdots, Text.mark_notMem_of_mem_split hsplit,
        fun hzero => hp (Text.mem_of_mem_split hsplit hzero), hs⟩

namespace Disk

variable {d d' : Disk}

theorem Names.isName {p : Path} {loc : Location} {s : Name} (h : d.Names p loc s) : IsName s := by
  obtain ⟨hp, before, m, hsegments, -, -⟩ := parentOf_eq_some_iff.mp h.parentOf_eq
  have hmem : .name s ∈ p.segments := by simp [hsegments]
  exact Path.isName_of_mem_segments hmem (checkPath_eq_ok_iff.mp hp).1 h.short

/-- A disk stays well-formed if its directories stay and each new entry lies in a
directory. -/
theorem WellFormed.of_entries (hd : d.WellFormed)
    (hkept : ∀ l, d.entryAt l = some .directory → d'.entryAt l = some .directory)
    (hnew : ∀ x ∈ d'.entries, x ∉ d.entries →
      (∀ s ∈ x.1, IsName s) ∧ d'.entryAt x.1.dropLast = some .directory) : d'.WellFormed := by
  intro x hx
  by_cases hold : x ∈ d.entries
  · obtain ⟨hnames, hparent⟩ := hd x hold
    exact ⟨hnames, hkept _ hparent⟩
  · exact hnew x hx hold

theorem WellFormed.put (hd : d.WellFormed) {loc : Location} {s : Name} (e : Entry)
    (hdir : d.entryAt loc = some .directory) (hs : IsName s)
    (he : e = .directory ∨ d.entryAt (loc ++ [s]) ≠ some .directory) :
    (d.put (loc ++ [s]) e).WellFormed := by
  have hentry := entryAt_put (d := d) (e := e) (List.append_ne_nil_of_right_ne_nil loc
    (List.cons_ne_nil s []))
  have hkept : ∀ l, d.entryAt l = some .directory →
      (d.put (loc ++ [s]) e).entryAt l = some .directory := by
    intro l hl
    rw [hentry]
    split
    · next heq =>
      rcases he with rfl | he
      · rfl
      · exact absurd (heq ▸ hl) he
    · exact hl
  apply hd.of_entries hkept
  intro x hx hold
  rcases List.mem_cons.mp hx with rfl | hx
  · refine ⟨hd.isName_concat hdir hs, ?_⟩
    rw [List.dropLast_concat]
    exact hkept loc hdir
  · exact absurd (List.mem_filter.mp hx).1 hold

theorem WellFormed.remove (hd : d.WellFormed) {loc : Location} (hroot : loc ≠ [])
    (h : d.entryAt loc ≠ some .directory) : (d.remove loc).WellFormed := by
  apply hd.of_entries
  · intro l hl
    rw [entryAt_remove hroot, if_neg, hl]
    rintro rfl
    exact h hl
  · intro x hx hold
    exact absurd (List.mem_filter.mp hx).1 hold

/-! ## Publishing -/

theorem WellFormed.makeDirectory (hd : d.WellFormed) {p : Path}
    (h : d.makeDirectory p = .ok d') : d'.WellFormed := by
  obtain ⟨loc, s, hnames, -, rfl⟩ := makeDirectory_eq_ok h
  exact hd.put .directory hnames.isOpen.directory hnames.isName (Or.inl rfl)

theorem WellFormed.prepared (hd : d.WellFormed) (p : Path) : (d.prepared p).WellFormed := by
  unfold Disk.prepared
  split
  · exact hd
  · exact makeAncestors_rel (R := fun d d' => d.WellFormed → d'.WellFormed) (fun _ h => h)
      (fun _ _ _ h h' hd => h' (h hd)) (fun _ _ _ _ h hd => hd.makeDirectory h) d hd

theorem WellFormed.publish (hd : d.WellFormed) (p : Path) (content : ByteArray) :
    (d.publish p content).1.WellFormed := by
  have hmade := hd.prepared p
  rcases d.publish_steps p content with ⟨e, h⟩ | ⟨source, hstaged, h⟩
  · rw [h]
    exact hmade
  · have hgone : ∀ part, (((d.prepared p).put source (.file part)).remove source).WellFormed := by
      intro part
      have hput : ((d.prepared p).put source (.file part)).WellFormed := by
        obtain ⟨q, loc, s, hnames, rfl, hvacant⟩ := hstaged
        exact hmade.put _ hnames.isOpen.directory hnames.isName (Or.inr (by simp [hvacant]))
      exact hput.remove hstaged.ne_nil (by simp [entryAt_put hstaged.ne_nil])
    rcases h with ⟨part, e, h⟩ | ⟨staged, loc, s, rfl, hnames, -, hfree, h⟩
    · rw [h]
      exact hgone part
    · rw [h]
      have hdir := hnames.isOpen.directory
      apply (hgone content).put (.file content) _ hnames.isName
      · right
        rw [entryAt_remove hstaged.ne_nil]
        split
        · simp
        · exact hfree
      · rw [entryAt_remove hstaged.ne_nil, if_neg, hdir]
        rintro rfl
        rw [entryAt_put hstaged.ne_nil, if_pos rfl] at hdir
        cases hdir

end Disk
end Files

/-- A run on a well-formed disk ends with a well-formed disk. -/
theorem Conversion.wellFormed_run {d : Files.Disk} (hd : d.WellFormed) (zone : Time.Zone)
    (args : Arguments) : (run d zone args).1.WellFormed := by
  cases hplan : (plan d zone args).outcome with
  | error e =>
    rw [(run_of_plan_error hplan).1]
    exact hd
  | ok p =>
    rw [(run_of_plan_ok hplan).1]
    exact hd.publish p.destination p.artifact.bytes

end Storyboard
