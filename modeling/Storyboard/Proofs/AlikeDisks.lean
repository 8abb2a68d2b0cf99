import Storyboard.Proofs.ResolvedPaths
import Storyboard.Proofs.Staging

/-! # Disks that differ in one file

Walks never look into a file. Two disks that differ at most in the content of one
file therefore answer every request about paths alike, and every change fails on both
for the same reason or succeeds on both and leaves such a pair of disks again.
-/
namespace Storyboard.Files

/-- Two leaves differ at most in what is read from them. -/
inductive Entry.Variant : Entry → Entry → Prop
  | file (c c' : ByteArray) : Variant (.file c) (.file c')
  | special (c c' : ByteArray) (unreadable unwritable : Option Obstacle) :
    Variant (.special c unreadable unwritable) (.special c' unreadable unwritable)

theorem Entry.Variant.read {e e' : Entry} (h : e.Variant e') :
    e'.read = e.read ∨ ∃ c c', e.read = .ok c ∧ e'.read = .ok c' := by
  cases h with
  | file c c' => exact Or.inr ⟨c, c', rfl, rfl⟩
  | special c c' unreadable unwritable =>
    cases unreadable with
    | none => exact Or.inr ⟨c, c', rfl, rfl⟩
    | some o => exact Or.inl rfl

namespace Disk

/-- Two disks differ at most in what is read from the leaf at a place. -/
structure Alike (loc : Location) (d d' : Disk) : Prop where
  frame : d.SameFrame d'
  others : ∀ l, l ≠ loc → d'.entryAt l = d.entryAt l
  leaf : ∃ e e', d.entryAt loc = some e ∧ d'.entryAt loc = some e' ∧ e.Variant e'

variable {loc : Location} {d d' : Disk}

theorem Alike.here_eq (h : Alike loc d d') : d'.here = d.here := congrArg Host.here h.frame.host

theorem Alike.entryAt_cases (h : Alike loc d d') (l : Location) :
    d'.entryAt l = d.entryAt l ∨
      l = loc ∧ ∃ e e', d.entryAt l = some e ∧ d'.entryAt l = some e' ∧ e.Variant e' := by
  by_cases hl : l = loc
  · subst hl
    exact Or.inr ⟨rfl, h.leaf⟩
  · exact Or.inl (h.others l hl)

theorem Alike.ne_of_vacant (h : Alike loc d d') {l : Location} (hl : d.entryAt l = none) :
    l ≠ loc := by
  rintro rfl
  obtain ⟨e, e', he, -⟩ := h.leaf
  rw [he] at hl
  cases hl

/-! ## Lookups -/

theorem Alike.bar? (h : Alike loc d d') (l : Location) (segment : Segment) :
    d'.bar? l segment = d.bar? l segment := by
  unfold Disk.bar?
  rcases h.entryAt_cases l with heq | ⟨-, e, e', he, he', hvariant⟩
  · rw [heq, h.frame.host]
  · rw [he, he']
    cases hvariant <;> rfl

/-- Two walks end alike, or both at the leaf. -/
def SameEnd (loc : Location) (r r' : Except Fault Spot) : Prop :=
  r' = r ∨ ∃ e e', r = .ok (.present loc e) ∧ r' = .ok (.present loc e') ∧ e.Variant e'

theorem Alike.walkWith (h : Alike loc d d') {b : Bool}
    {follow follow' : Location → List Segment → Except Fault Spot}
    (hfollow : ∀ l segments, SameEnd loc (follow l segments) (follow' l segments))
    (l : Location) (segments : List Segment) :
    SameEnd loc (d.walkWith b follow l segments) (d'.walkWith b follow' l segments) := by
  induction segments generalizing l with
  | nil =>
    rcases h.entryAt_cases l with heq | ⟨rfl, e, e', he, he', hvariant⟩
    · left
      rw [Disk.walkWith, Disk.walkWith, heq]
    · right
      exact ⟨e, e', by rw [Disk.walkWith, he], by rw [Disk.walkWith, he'], hvariant⟩
  | cons segment rest ih =>
    rw [walkWith.eq_def d, walkWith.eq_def d']
    dsimp only
    rw [h.bar?]
    split
    · exact Or.inl rfl
    · cases segment with
      | here => exact ih l
      | slash => exact ih l
      | up => exact ih l.dropLast
      | name s =>
        dsimp only
        split
        · exact Or.inl rfl
        · rcases h.entryAt_cases (l ++ [s]) with hnext | ⟨-, e, e', he, he', hvariant⟩
          · rw [hnext]
            split
            · split
              · exact Or.inl rfl
              · exact hfollow _ _
            · exact ih (l ++ [s])
            · exact Or.inl rfl
          · rw [he, he']
            cases hvariant <;> exact ih (l ++ [s])

theorem Alike.walk (h : Alike loc d d') (b : Bool) (n : Nat) (l : Location)
    (segments : List Segment) :
    SameEnd loc (d.walk b n l segments) (d'.walk b n l segments) := by
  induction n generalizing l segments with
  | zero => exact h.walkWith (fun _ _ => Or.inl rfl) l segments
  | succ n ih => exact h.walkWith ih l segments

theorem Alike.locate (h : Alike loc d d') (b : Bool) (p : Path) :
    SameEnd loc (d.locate b p) (d'.locate b p) := by
  unfold Disk.locate
  rw [h.here_eq]
  cases checkPath p with
  | error f => exact Or.inl rfl
  | ok u => exact h.walk b linkLimit (startOf p d.here) p.walkSegments

theorem Alike.lookup (h : Alike loc d d') (p : Path) :
    d'.lookup p = d.lookup p ∨
      ∃ e e', d.lookup p = .ok (loc, e) ∧ d'.lookup p = .ok (loc, e') ∧ e.Variant e' := by
  unfold Disk.lookup
  rcases h.locate true p with heq | ⟨e, e', he, he', hvariant⟩
  · rw [heq]
    exact Or.inl rfl
  · rw [he, he']
    exact Or.inr ⟨e, e', rfl, rfl, hvariant⟩

theorem Alike.pathExists (h : Alike loc d d') (p : Path) : d'.pathExists p = d.pathExists p := by
  unfold Disk.pathExists
  rcases h.lookup p with heq | ⟨e, e', he, he', -⟩
  · rw [heq]
  · rw [he, he']

theorem Alike.isDirectory (h : Alike loc d d') (p : Path) : d'.isDirectory p = d.isDirectory p := by
  unfold Disk.isDirectory
  rcases h.lookup p with heq | ⟨e, e', he, he', hvariant⟩
  · rw [heq]
  · rw [he, he']
    cases hvariant <;> rfl

theorem Alike.stopsWith (h : Alike loc d d') {follow : Location → List Segment → List Path}
    (l : Location) (segments : List Segment) :
    d'.stopsWith follow l segments = d.stopsWith follow l segments := by
  induction segments generalizing l with
  | nil => rfl
  | cons segment rest ih =>
    cases segment with
    | here => exact ih l
    | slash => exact ih l
    | up => exact ih l.dropLast
    | name s =>
      rw [stopsWith.eq_def d, stopsWith.eq_def d']
      dsimp only
      rw [ih]
      rcases h.entryAt_cases (l ++ [s]) with heq | ⟨-, e, e', he, he', hvariant⟩
      · rw [heq]
      · rw [he, he']
        cases hvariant <;> rfl

theorem Alike.stopsWithin (h : Alike loc d d') (n : Nat) : d'.stopsWithin n = d.stopsWithin n := by
  induction n with
  | zero =>
    funext l segments
    exact h.stopsWith l segments
  | succ n ih =>
    funext l segments
    rw [Disk.stopsWithin, Disk.stopsWithin, ih]
    exact h.stopsWith l segments

theorem Alike.refusal? (h : Alike loc d d') : d'.refusal? = d.refusal? := by
  funext p
  unfold Disk.refusal?
  rcases h.locate false p with heq | ⟨e, e', he, he', -⟩
  · rw [heq]
  · rw [he, he']

theorem Alike.resolve (h : Alike loc d d') (p : Path) : d'.resolve p = d.resolve p := by
  unfold Disk.resolve Disk.stops
  rw [h.here_eq, h.stopsWithin, h.refusal?]
  rcases h.lookup p with heq | ⟨e, e', he, he', -⟩
  · rw [heq]
  · rw [he, he']

theorem Alike.readBytes (h : Alike loc d d') (p : Path) :
    d'.readBytes p = d.readBytes p ∨
      ∃ e e' c c', d.lookup p = .ok (loc, e) ∧ d.entryAt loc = some e ∧ e.read = .ok c ∧
        d'.entryAt loc = some e' ∧ e'.read = .ok c' ∧
        d.readBytes p = .ok c ∧ d'.readBytes p = .ok c' := by
  unfold Disk.readBytes
  rcases h.lookup p with heq | ⟨e, e', he, he', hvariant⟩
  · rw [heq]
    exact Or.inl rfl
  · rw [he, he']
    rcases hvariant.read with heq | ⟨c, c', hc, hc'⟩
    · exact Or.inl heq
    · exact Or.inr
        ⟨e, e', c, c', rfl, entryAt_of_lookup he, hc, entryAt_of_lookup he', hc', hc, hc'⟩

theorem Alike.parentOf (h : Alike loc d d') (p : Path) : d'.parentOf p = d.parentOf p := by
  unfold Disk.parentOf
  rw [h.here_eq]
  cases checkPath p with
  | error f => rfl
  | ok u =>
    dsimp only
    cases p.segments.reverse with
    | nil => rfl
    | cons last before =>
      dsimp only
      rcases h.walk true linkLimit (startOf p d.here) before.reverse with heq | ⟨e, e', he, he', -⟩
      · simp only [heq, h.bar?]
      · simp only [he, he', h.bar?]

/-! ## Changes -/

/-- Two requests fail for the same reason, or both succeed with related results. -/
def Agree {ε α : Type} (R : α → α → Prop) (x x' : Except ε α) : Prop :=
  (∃ e, x = .error e ∧ x' = .error e) ∨ ∃ a a', x = .ok a ∧ x' = .ok a' ∧ R a a'

theorem Agree.error {ε α : Type} {R : α → α → Prop} (e : ε) :
    Agree R (.error e : Except ε α) (.error e) :=
  Or.inl ⟨e, rfl, rfl⟩

theorem Agree.ok {ε α : Type} {R : α → α → Prop} {a a' : α} (h : R a a') :
    Agree R (.ok a : Except ε α) (.ok a') :=
  Or.inr ⟨a, a', rfl, rfl, h⟩

theorem Alike.put (h : Alike loc d d') {l : Location} (hroot : l ≠ []) (hl : l ≠ loc) (e : Entry) :
    Alike loc (d.put l e) (d'.put l e) := by
  refine ⟨⟨h.frame.host, h.frame.storage⟩, fun y hy => ?_, ?_⟩
  · rw [entryAt_put hroot, entryAt_put hroot, h.others y hy]
  · rw [entryAt_put hroot, entryAt_put hroot, if_neg (Ne.symm hl), if_neg (Ne.symm hl)]
    exact h.leaf

theorem Alike.put_file (h : Alike loc d d') {l : Location} (hroot : l ≠ []) (content : ByteArray) :
    Alike loc (d.put l (.file content)) (d'.put l (.file content)) := by
  by_cases hl : l = loc
  · subst hl
    refine ⟨⟨h.frame.host, h.frame.storage⟩, fun x hx => ?_, .file content, .file content, ?_, ?_,
      .file _ _⟩
    · rw [entryAt_put hroot, entryAt_put hroot, h.others x hx]
    · rw [entryAt_put hroot, if_pos rfl]
    · rw [entryAt_put hroot, if_pos rfl]
  · exact h.put hroot hl _

theorem Alike.remove (h : Alike loc d d') {l : Location} (hroot : l ≠ []) (hl : l ≠ loc) :
    Alike loc (d.remove l) (d'.remove l) := by
  refine ⟨⟨h.frame.host, h.frame.storage⟩, fun y hy => ?_, ?_⟩
  · rw [entryAt_remove hroot, entryAt_remove hroot, h.others y hy]
  · rw [entryAt_remove hroot, entryAt_remove hroot, if_neg (Ne.symm hl), if_neg (Ne.symm hl)]
    exact h.leaf

theorem Alike.addEntry (h : Alike loc d d') (around : Location) (s : Name) (e : Entry) :
    Agree (fun x x' => Alike loc x x' ∧ around ++ [s] ≠ loc) (d.addEntry around s e)
      (d'.addEntry around s e) := by
  unfold Disk.addEntry
  split
  · exact .error _
  · rcases h.entryAt_cases (around ++ [s]) with heq | ⟨-, e, e', he, he', -⟩
    · rw [heq, h.frame.storage]
      split
      · exact .error _
      · next hvacant =>
        have hne := h.ne_of_vacant hvacant
        split
        · exact .error _
        · exact .ok ⟨h.put (by simp) hne _, hne⟩
    · rw [he, he']
      exact .error _

theorem Alike.makeDirectory (h : Alike loc d d') (p : Path) :
    Agree (Alike loc) (d.makeDirectory p) (d'.makeDirectory p) := by
  unfold Disk.makeDirectory
  rw [h.parentOf]
  split
  · exact .error _
  · next around s _ =>
    rcases h.addEntry around s .directory with ⟨f, hf, hf'⟩ | ⟨x, x', hx, hx', hmade, -⟩
    · exact Or.inl ⟨f, hf, hf'⟩
    · exact Or.inr ⟨x, x', hx, hx', hmade⟩
  · exact .error _

/-- The induction follows the attempts, on both disks in step. -/
theorem Alike.makeAncestors (h : Alike loc d d') (paths : List Path) :
    Alike loc (d.makeAncestors paths).1 (d'.makeAncestors paths).1 ∧
      (d'.makeAncestors paths).2 = (d.makeAncestors paths).2 := by
  induction paths generalizing d d' with
  | nil => exact ⟨h, rfl⟩
  | cons p outer ih =>
    have hdirectory : ∀ {x x' : Disk} (f : Fault), Alike loc x x' →
        Alike loc (if x.isDirectory p then (x, Except.ok ()) else (x, .error f)).1
            (if x'.isDirectory p then (x', Except.ok ()) else (x', .error f)).1 ∧
          (if x'.isDirectory p then (x', Except.ok ()) else (x', .error f)).2 =
            (if x.isDirectory p then (x, Except.ok ()) else (x, .error f)).2 := by
      intro x x' f hx
      rw [hx.isDirectory p]
      split <;> exact ⟨hx, rfl⟩
    rw [Disk.makeAncestors.eq_def d, Disk.makeAncestors.eq_def d']
    dsimp only
    rcases h.makeDirectory p with ⟨f, hf, hf'⟩ | ⟨x, x', hx, hx', hmade⟩
    · rw [hf, hf']
      cases f with
      | notFound =>
        dsimp only
        obtain ⟨hdisk, hresult⟩ := ih h
        rcases houter : d.makeAncestors outer with ⟨x, r⟩
        rcases houter' : d'.makeAncestors outer with ⟨x', r'⟩
        rw [houter, houter'] at hdisk hresult
        dsimp only at hdisk hresult
        subst hresult
        cases r' with
        | error g => exact ⟨hdisk, rfl⟩
        | ok u =>
          dsimp only
          rcases hdisk.makeDirectory p with ⟨g, hg, hg'⟩ | ⟨y, y', hy, hy', hmade⟩
          · rw [hg, hg']
            exact hdirectory g hdisk
          · rw [hy, hy']
            exact ⟨hmade, rfl⟩
      | _ => exact hdirectory _ h
    · rw [hx, hx']
      exact ⟨hmade, rfl⟩

theorem Alike.prepared (h : Alike loc d d') (p : Path) :
    Alike loc (d.prepared p) (d'.prepared p) := by
  unfold Disk.prepared
  split
  · exact h
  · exact (h.makeAncestors _).1

theorem Alike.destination? (h : Alike loc d d') (p : Path) :
    d'.destination? p = d.destination? p := by
  unfold Disk.destination? placeOf?
  rw [(h.prepared p).parentOf]

def AlikeAt (loc : Location) (r r' : Disk × Location) : Prop :=
  Alike loc r.1 r'.1 ∧ r'.2 = r.2 ∧ r.2 ≠ loc ∧ r.2 ≠ []

theorem Alike.createFile (h : Alike loc d d') (p : Path) :
    Agree (AlikeAt loc) (d.createFile p) (d'.createFile p) := by
  unfold Disk.createFile
  rw [h.parentOf]
  split
  · exact .error _
  · next around s _ =>
    split
    · exact .error _
    · rcases h.addEntry around s (.file ByteArray.empty) with
        ⟨f, hf, hf'⟩ | ⟨x, x', hx, hx', hmade, hne⟩
      · rw [hf, hf']
        exact .error _
      · rw [hx, hx']
        exact .ok ⟨hmade, rfl, hne, by simp⟩
  · exact .error _

def AlikeStaged (loc : Location) (r r' : Disk × Location × Path) : Prop :=
  AlikeAt loc (r.1, r.2.1) (r'.1, r'.2.1) ∧ r'.2.2 = r.2.2

theorem Alike.stage (h : Alike loc d d') (parent : Path) {stem : Name} (hstem : slash ∉ stem) :
    Agree (AlikeStaged loc) (d.stage parent stem) (d'.stage parent stem) := by
  obtain ⟨n, hn, hstage⟩ := d.exists_stage_eq parent hstem
  obtain ⟨n', hn', hstage'⟩ := d'.exists_stage_eq parent hstem
  have hpath : ∀ k, d'.stagedPath parent stem k = d.stagedPath parent stem k := fun k => by
    rw [stagedPath, stagedPath, h.here_eq]
  -- The same names are taken on both disks, so the first free one is the same.
  have htaken : ∀ k, d'.createFile (d'.stagedPath parent stem k) = .error .alreadyExists ↔
      d.createFile (d.stagedPath parent stem k) = .error .alreadyExists := by
    intro k
    rw [hpath]
    rcases h.createFile (d.stagedPath parent stem k) with ⟨f, hf, hf'⟩ | ⟨r, r', hr, hr', -⟩
    · rw [hf, hf']
    · simp [hr, hr']
  have hfree : d.FirstFree parent stem n' :=
    ⟨fun hk => hn'.1 ((htaken n').mpr hk), fun k hk => (htaken k).mp (hn'.2 k hk)⟩
  rw [hstage, hstage', hfree.unique hn, hpath]
  rcases h.createFile (d.stagedPath parent stem n) with ⟨f, hf, hf'⟩ | ⟨r, r', hr, hr', hmade⟩
  · rw [hf, hf']
    exact .error f
  · rw [hr, hr']
    exact .ok ⟨hmade, rfl⟩

theorem Alike.moveFile (h : Alike loc d d') {source : Location} (hsource : source ≠ loc)
    (hroot : source ≠ []) (hfile : ∀ e, d.entryAt source = some e → ∃ c, e = .file c) (p : Path) :
    Agree (Alike loc) (d.moveFile source p) (d'.moveFile source p) := by
  unfold Disk.moveFile
  rw [h.parentOf, h.others source hsource]
  split
  · exact .error _
  · next around s _ =>
    split
    · exact .error _
    · next e hentry =>
      obtain ⟨c, rfl⟩ := hfile e hentry
      have hmoved : Alike loc ((d.remove source).put (around ++ [s]) (.file c))
          ((d'.remove source).put (around ++ [s]) (.file c)) :=
        (h.remove hroot hsource).put_file (by simp) c
      have htarget : d'.entryAt (around ++ [s]) = some .directory ↔
          d.entryAt (around ++ [s]) = some .directory := by
        rcases h.entryAt_cases (around ++ [s]) with heq | ⟨-, e, e', he, he', hvariant⟩
        · rw [heq]
        · rw [he, he']
          cases hvariant <;> simp
      rw [h.frame.storage]
      simp only [htarget]
      split
      · exact .error _
      · split
        · exact .error _
        · split
          · exact .error _
          · split
            · exact .error _
            · exact .ok hmoved
  · exact .error _

theorem Alike.deliver (h : Alike loc d d') {source : Location} (hsource : source ≠ loc)
    (hroot : source ≠ []) (staged p : Path) (content : ByteArray) :
    Alike loc (d.deliver source staged p content).1 (d'.deliver source staged p content).1 ∧
      (d'.deliver source staged p content).2 = (d.deliver source staged p content).2 := by
  have hput := h.put_file hroot content
  have hfile : ∀ e, (d.put source (.file content)).entryAt source = some e → ∃ c, e = .file c := by
    intro e he
    rw [entryAt_put hroot, if_pos rfl] at he
    exact ⟨content, (Option.some.inj he).symm⟩
  unfold Disk.deliver Disk.fill shortage?
  rw [h.frame.storage]
  cases (d.room source).filter fun limit => limit.1 < content.size with
  | some limit => exact ⟨h.put_file hroot _, rfl⟩
  | none =>
    dsimp only
    rw [hput.frame.storage]
    cases (d.put source (.file content)).flush source with
    | some o => exact ⟨hput, rfl⟩
    | none =>
      dsimp only
      rcases hput.moveFile hsource hroot hfile p with ⟨f, hf, hf'⟩ | ⟨z, z', hz, hz', hmoved⟩
      · rw [hf, hf']
        exact ⟨hput, rfl⟩
      · rw [hz, hz']
        exact ⟨hmoved, rfl⟩

theorem Alike.publish (h : Alike loc d d') (p : Path) (content : ByteArray) :
    Alike loc (d.publish p content).1 (d'.publish p content).1 ∧
      (d'.publish p content).2 = (d.publish p content).2 := by
  unfold Disk.publish
  cases p.parent? with
  | none => exact ⟨h, rfl⟩
  | some parent =>
    dsimp only
    obtain ⟨hmade, hresult⟩ := h.makeAncestors parent.ancestors
    unfold makeDirectories
    rcases hx : d.makeAncestors parent.ancestors with ⟨x, r⟩
    rcases hx' : d'.makeAncestors parent.ancestors with ⟨x', r'⟩
    rw [hx, hx'] at hmade hresult
    dsimp only at hmade hresult
    subst hresult
    cases r' with
    | error f => exact ⟨hmade, rfl⟩
    | ok u =>
      dsimp only
      rcases hmade.stage parent p.slash_notMem_stem with
        ⟨f, hf, hf'⟩ | ⟨⟨y, _, _⟩, ⟨y', source, staged⟩, hy, hy', hstaged, hpath⟩
      · rw [hf, hf']
        exact ⟨hmade, rfl⟩
      · obtain ⟨hbegun, hsource, hne, hroot⟩ := hstaged
        dsimp only at hbegun hsource hne hroot hpath
        subst hsource hpath
        rw [hy, hy']
        dsimp only
        obtain ⟨hdisk, hresult⟩ := hbegun.deliver hne hroot staged p content
        rcases hz : y.deliver source staged p content with ⟨z, r⟩
        rcases hz' : y'.deliver source staged p content with ⟨z', r'⟩
        rw [hz, hz'] at hdisk hresult
        dsimp only at hdisk hresult
        subst hresult
        cases r' with
        | error e => exact ⟨hdisk.remove hroot hne, rfl⟩
        | ok u => exact ⟨hdisk, rfl⟩

end Disk
end Storyboard.Files
