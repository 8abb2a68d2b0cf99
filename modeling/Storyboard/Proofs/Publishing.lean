import Storyboard.Files.Publish
import Storyboard.Proofs.PathSegments
import Storyboard.Proofs.Walks

/-! # What publishing does to a disk

Publishing makes directories, stages a file, fills it and moves it. The directories stay,
whatever happens later; they are new places at proper prefixes of the path. Apart
from them only the destination changes, and only if the file was moved: a staged
file is gone in any case, however much of it was written.
-/
namespace Storyboard.Files.Disk

variable {d d' d'' : Disk}

theorem entryAt_put_of_some {loc l : Location} {e entry : Entry} (hroot : loc ≠ [])
    (hvacant : d.entryAt loc = none) (h : d.entryAt l = some e) :
    (d.put loc entry).entryAt l = some e := by
  rw [entryAt_put hroot, if_neg, h]
  rintro rfl
  rw [hvacant] at h
  cases h

theorem put_put (d : Disk) (loc : Location) (e e' : Entry) :
    (d.put loc e).put loc e' = d.put loc e' := by
  simp [put]

/-- Two disks differ in their entries at most. -/
structure SameFrame (d d' : Disk) : Prop where
  host : d'.toHost = d.toHost
  storage : d'.toStorage = d.toStorage

theorem SameFrame.trans (h : d.SameFrame d') (h' : d'.SameFrame d'') : d.SameFrame d'' :=
  ⟨h'.host.trans h.host, h'.storage.trans h.storage⟩

/-! ## Made directories -/

/-- The second disk is the first one with some new directories, each at one of the
paths. -/
structure Grown (paths : List Path) (d d' : Disk) : Prop where
  frame : d.SameFrame d'
  kept : ∀ loc e, d.entryAt loc = some e → d'.entryAt loc = some e
  added : ∀ loc e, d.entryAt loc = none → d'.entryAt loc = some e →
    e = .directory ∧ ∃ q ∈ paths, d'.lookup q = .ok (loc, .directory)

theorem Grown.refl (paths : List Path) (d : Disk) : Grown paths d d where
  frame := ⟨rfl, rfl⟩
  kept _ _ h := h
  added loc e hnone hsome := by
    rw [hnone] at hsome
    cases hsome

theorem Grown.keepsWays {paths : List Path} (h : Grown paths d d') : d.KeepsWays d' :=
  ⟨h.frame.host, fun loc e he _ => h.kept loc e he⟩

theorem Grown.trans {paths : List Path} (h : Grown paths d d') (h' : Grown paths d' d'') :
    Grown paths d d'' where
  frame := h.frame.trans h'.frame
  kept loc e he := h'.kept loc e (h.kept loc e he)
  added loc e hnone hsome := by
    cases hmid : d'.entryAt loc with
    | none => exact h'.added loc e hmid hsome
    | some entry =>
      obtain ⟨rfl, q, hq, hlookup⟩ := h.added loc entry hnone hmid
      have hdir := h'.kept loc _ hmid
      rw [hsome] at hdir
      cases hdir
      exact ⟨rfl, q, hq, lookup_directory_mono h'.keepsWays hlookup⟩

/-- A path names a place in a directory, by a name that is not too long. -/
structure Names (d : Disk) (p : Path) (loc : Location) (s : Name) : Prop where
  parentOf_eq : d.parentOf p = .ok (some (loc, .name s))
  short : s.length ≤ nameLimit

theorem Names.mono (hways : d.KeepsWays d') {p : Path} {loc : Location} {s : Name}
    (h : d.Names p loc s) : d'.Names p loc s := by
  obtain ⟨hp, before, m, hsegments, hleads, hopen⟩ := parentOf_eq_some_iff.mp h.parentOf_eq
  refine ⟨parentOf_eq_some_iff.mpr ?_, h.short⟩
  rw [hways.here_eq]
  exact ⟨hp, before, m, hsegments, hleads.mono hways hopen.directory, hways.isOpen hopen⟩

theorem Names.isOpen {p : Path} {loc : Location} {s : Name} (h : d.Names p loc s) :
    d.IsOpen loc := by
  obtain ⟨-, before, m, -, -, hopen⟩ := parentOf_eq_some_iff.mp h.parentOf_eq
  exact hopen

theorem Names.lookup {p : Path} {loc : Location} {s : Name} (h : d.Names p loc s)
    (hentry : d.entryAt (loc ++ [s]) = some .directory) :
    d.lookup p = .ok (loc ++ [s], .directory) := by
  obtain ⟨hp, before, m, hsegments, hleads, hopen⟩ := parentOf_eq_some_iff.mp h.parentOf_eq
  apply lookup_eq_ok_iff.mpr
  refine ⟨hp, m, ?_, hentry⟩
  have htail : d.Leads m loc ([.name s] ++ if p.endsInSlash then [.slash] else []) m
      (loc ++ [s]) := by
    refine .enter hopen h.short hentry (by simp) ?_
    split
    · exact .slash hentry (.done m _)
    · exact .done m _
  rw [Path.walkSegments, hsegments, List.append_assoc]
  exact hleads.append htail

theorem Names.lookup_leaf {p : Path} {loc : Location} {s : Name} {e : Entry}
    (h : d.Names p loc s) (hslash : p.endsInSlash = false)
    (hentry : d.entryAt (loc ++ [s]) = some e) (hleaf : e.isLeaf = true) :
    d.lookup p = .ok (loc ++ [s], e) := by
  obtain ⟨hp, before, m, hsegments, hleads, hopen⟩ := parentOf_eq_some_iff.mp h.parentOf_eq
  refine lookup_eq_ok_iff.mpr ⟨hp, m, ?_, hentry⟩
  rw [Path.walkSegments, hsegments, hslash, if_neg Bool.false_ne_true, List.append_nil]
  refine hleads.append (.enter hopen h.short hentry ?_ (.done m _))
  rintro target rfl
  cases hleaf

theorem addEntry_eq_ok_iff {loc : Location} {s : Name} {e : Entry} :
    d.addEntry loc s e = .ok d' ↔ s.length ≤ nameLimit ∧ d.entryAt (loc ++ [s]) = none ∧
      d.add loc = none ∧ d' = d.put (loc ++ [s]) e := by
  unfold addEntry
  by_cases hs : nameLimit < s.length
  · simp [hs, Nat.not_le.mpr hs]
  · rw [if_neg hs]
    cases d.entryAt (loc ++ [s]) with
    | some entry => simp
    | none =>
      cases d.add loc with
      | some o => simp
      | none => simp [Nat.not_lt.mp hs, eq_comm]

theorem makeDirectory_eq_ok {p : Path} (h : d.makeDirectory p = .ok d') :
    ∃ loc s, d.Names p loc s ∧ d.entryAt (loc ++ [s]) = none ∧
      d' = d.put (loc ++ [s]) .directory := by
  unfold makeDirectory at h
  split at h
  · cases h
  · next loc s hparent =>
    obtain ⟨hshort, hvacant, -, rfl⟩ := addEntry_eq_ok_iff.mp h
    exact ⟨loc, s, ⟨hparent, hshort⟩, hvacant, rfl⟩
  · cases h

theorem grown_makeDirectory {paths : List Path} {p : Path} (hp : p ∈ paths)
    (h : d.makeDirectory p = .ok d') : Grown paths d d' := by
  obtain ⟨loc, s, hnames, hvacant, rfl⟩ := makeDirectory_eq_ok h
  have hput := entryAt_put (d := d) (e := .directory) (List.append_ne_nil_of_right_ne_nil loc
    (List.cons_ne_nil s []))
  have hkept : ∀ l e, d.entryAt l = some e → (d.put (loc ++ [s]) .directory).entryAt l = some e :=
    fun l e he => entryAt_put_of_some (by simp) hvacant he
  refine ⟨⟨rfl, rfl⟩, hkept, fun l e hnone hsome => ?_⟩
  rw [hput] at hsome
  split at hsome
  · next hl =>
    cases hsome
    subst hl
    have hways : d.KeepsWays (d.put (loc ++ [s]) .directory) :=
      ⟨rfl, fun l e he _ => hkept l e he⟩
    have hmade := hnames.mono hways
    exact ⟨rfl, p, hp, hmade.lookup (by rw [hput, if_pos rfl])⟩
  · rw [hnone] at hsome
    cases hsome

/-- What holds of each directory that is made holds of nested ones. The induction
follows the attempts: the innermost one first, then the ones around it, then
again. -/
theorem makeAncestors_rel {R : Disk → Disk → Prop} {paths : List Path} (hrefl : ∀ d, R d d)
    (htrans : ∀ d d' d'', R d d' → R d' d'' → R d d'')
    (hstep : ∀ d d' p, p ∈ paths → d.makeDirectory p = .ok d' → R d d') (d : Disk) :
    R d (d.makeAncestors paths).1 := by
  induction paths generalizing d with
  | nil => exact hrefl d
  | cons p outer ih =>
    have hmake : ∀ d d', d.makeDirectory p = .ok d' → R d d' :=
      fun d d' h => hstep d d' p List.mem_cons_self h
    have houter := ih (fun d d' q hq h => hstep d d' q (List.mem_cons_of_mem p hq) h) d
    rw [makeAncestors]
    split
    · next hmade => exact hmake _ _ hmade
    · split
      · next hfailed =>
        rw [hfailed] at houter
        exact houter
      · next hmade =>
        rw [hmade] at houter
        split
        · next hagain => exact htrans _ _ _ houter (hmake _ _ hagain)
        · split <;> exact houter
    · split <;> exact hrefl d

theorem grown_makeAncestors (d : Disk) (paths : List Path) :
    Grown paths d (d.makeAncestors paths).1 :=
  makeAncestors_rel (Grown.refl paths) (fun _ _ _ => Grown.trans)
    (fun _ _ _ hp h => grown_makeDirectory hp h) d

/-! ## Staged files -/

theorem createFile_eq_ok_iff {p : Path} {source : Location} :
    d.createFile p = .ok (d', source) ↔ p.endsInSlash = false ∧
      ∃ loc s, d.Names p loc s ∧ source = loc ++ [s] ∧ d.entryAt source = none ∧
        d.add loc = none ∧ d' = d.put source (.file ByteArray.empty) := by
  constructor
  · intro h
    unfold createFile at h
    split at h
    · cases h
    · next loc s hparent =>
      split at h
      · cases h
      · next hslash =>
        split at h
        · cases h
        · next hadd =>
          cases h
          obtain ⟨hshort, hvacant, hroom, rfl⟩ := addEntry_eq_ok_iff.mp hadd
          exact ⟨Bool.eq_false_iff.mpr hslash, loc, s, ⟨hparent, hshort⟩, rfl, hvacant, hroom, rfl⟩
    · cases h
  · rintro ⟨hslash, loc, s, hnames, rfl, hvacant, hroom, rfl⟩
    have hadd : d.addEntry loc s (.file ByteArray.empty) = .ok _ :=
      addEntry_eq_ok_iff.mpr ⟨hnames.short, hvacant, hroom, rfl⟩
    simp [createFile, hnames.parentOf_eq, hslash, hadd]

/-- A file is staged at a vacant place of a directory. -/
def StagedAt (d : Disk) (source : Location) : Prop :=
  ∃ p loc s, d.Names p loc s ∧ source = loc ++ [s] ∧ d.entryAt source = none

theorem stage_eq_ok {parent staged : Path} {stem : Name} {source : Location}
    (h : d.stage parent stem = .ok (d', source, staged)) :
    d.StagedAt source ∧ d' = d.put source (.file ByteArray.empty) := by
  unfold stage at h
  dsimp only at h
  rcases Option.getD_eq_iff.mp h with hfound | ⟨_, hfault⟩
  · obtain ⟨n, _, hn⟩ := List.exists_of_findSome?_eq_some hfound
    split at hn
    · cases hn
    · cases hn
    · next hcreated =>
      cases hn
      obtain ⟨-, loc, s, hnames, hsource, hvacant, -, hput⟩ := createFile_eq_ok_iff.mp hcreated
      exact ⟨⟨_, loc, s, hnames, hsource, hvacant⟩, hput⟩
  · cases hfault

/-! ## The destination -/

/-- The place that the last segment of a path names. -/
def placeOf? (d : Disk) (p : Path) : Option Location :=
  match d.parentOf p with
  | .ok (some (loc, .name s)) => some (loc ++ [s])
  | _ => none

/-- The disk with the directories in place that a file at a path needs, as far as
they can be made. -/
def prepared (d : Disk) (p : Path) : Disk :=
  match p.parent? with
  | none => d
  | some parent => (d.makeDirectories parent).1

/-- The place where a file is published. A link there is replaced and not
followed. -/
def destination? (d : Disk) (p : Path) : Option Location := (d.prepared p).placeOf? p

theorem Names.placeOf?_eq {p : Path} {loc : Location} {s : Name} (h : d.Names p loc s) :
    d.placeOf? p = some (loc ++ [s]) := by
  rw [placeOf?, h.parentOf_eq]

/-- A proper prefix of a path leads to a place, once the directories are made. -/
def OnTheWay (d : Disk) (p : Path) (loc : Location) : Prop :=
  ∃ q : Path, q.IsProperPrefix p ∧ (d.prepared p).lookup q = .ok (loc, .directory)

theorem entryAt_prepared_of_some {p : Path} {loc : Location} {e : Entry}
    (h : d.entryAt loc = some e) : (d.prepared p).entryAt loc = some e := by
  unfold prepared
  split
  · exact h
  · exact (grown_makeAncestors d _).kept loc e h

theorem onTheWay_of_prepared {p : Path} (hp : p.isAbsolute = true) {loc : Location} {e : Entry}
    (hnone : d.entryAt loc = none) (hsome : (d.prepared p).entryAt loc = some e) :
    e = .directory ∧ d.OnTheWay p loc := by
  unfold OnTheWay
  unfold prepared at hsome ⊢
  split at hsome
  · rw [hnone] at hsome
    cases hsome
  · next parent hparent =>
    obtain ⟨he, q, hq, hlookup⟩ := (grown_makeAncestors d _).added loc e hnone hsome
    exact ⟨he, q, Path.isProperPrefix_of_mem_ancestors hp hparent hq, hlookup⟩

theorem entryAt_prepared (d : Disk) {p : Path} (hp : p.isAbsolute = true) (loc : Location) :
    (d.prepared p).entryAt loc = d.entryAt loc ∨
      d.entryAt loc = none ∧ (d.prepared p).entryAt loc = some .directory ∧ d.OnTheWay p loc := by
  cases hold : d.entryAt loc with
  | some e => exact Or.inl (entryAt_prepared_of_some hold)
  | none =>
    cases hnew : (d.prepared p).entryAt loc with
    | none => exact Or.inl rfl
    | some e =>
      obtain ⟨rfl, hway⟩ := onTheWay_of_prepared hp hold hnew
      exact Or.inr ⟨rfl, rfl, hway⟩

theorem moveFile_eq_ok_iff {source : Location} {p : Path} :
    d.moveFile source p = .ok d' ↔ p.endsInSlash = false ∧
      ∃ loc s e, d.Names p loc s ∧ d.entryAt source = some e ∧ d.replace (loc ++ [s]) = none ∧
        d.entryAt (loc ++ [s]) ≠ some .directory ∧ d' = (d.remove source).put (loc ++ [s]) e := by
  constructor
  · intro h
    unfold moveFile at h
    split at h
    · cases h
    · next loc s hparent =>
      split at h
      · cases h
      · next e hsource =>
        split at h
        · cases h
        · next hshort =>
          split at h
          · cases h
          · next hslash =>
            split at h
            · cases h
            · next hreplace =>
              split at h
              · cases h
              · next hfree =>
                cases h
                exact ⟨Bool.eq_false_iff.mpr hslash, loc, s, e, ⟨hparent, by omega⟩, hsource,
                  hreplace, hfree, rfl⟩
    · cases h
  · rintro ⟨hslash, loc, s, e, hnames, hsource, hreplace, hfree, rfl⟩
    simp [moveFile, hnames.parentOf_eq, hsource, Nat.not_lt.mpr hnames.short, hslash, hreplace,
      hfree]

/-! ## One more file -/

/-- The second disk is the first one with a file at a place. -/
structure Holding (place : Location) (content : ByteArray) (d d' : Disk) : Prop where
  host : d'.toHost = d.toHost
  entryAt : ∀ l, d'.entryAt l = if l = place then some (.file content) else d.entryAt l

theorem holding_put {l : Location} (hroot : l ≠ []) (content : ByteArray) :
    Holding l content d (d.put l (.file content)) :=
  ⟨rfl, entryAt_put hroot⟩

theorem Holding.keepsWays_back {l : Location} {content : ByteArray} (h : Holding l content d d') :
    d'.KeepsWays d := by
  refine ⟨h.host.symm, fun x e he hleaf => ?_⟩
  rw [h.entryAt] at he
  split at he
  · cases he
    cases hleaf
  · exact he

/-! ## The steps of publishing -/

theorem StagedAt.ne_nil {source : Location} (h : d.StagedAt source) : source ≠ [] := by
  obtain ⟨p, loc, s, -, rfl, -⟩ := h
  simp

theorem StagedAt.vacant {source : Location} (h : d.StagedAt source) : d.entryAt source = none := by
  obtain ⟨p, loc, s, -, -, hvacant⟩ := h
  exact hvacant

theorem StagedAt.entryAt_remove_put {source : Location} (h : d.StagedAt source)
    (content : ByteArray) (l : Location) :
    ((d.put source (.file content)).remove source).entryAt l = d.entryAt l := by
  rw [entryAt_remove h.ne_nil, entryAt_put h.ne_nil]
  by_cases hl : l = source
  · rw [if_pos hl, hl, h.vacant]
  · rw [if_neg hl, if_neg hl]

theorem StagedAt.keepsWays {source : Location} (h : d.StagedAt source) (content : ByteArray) :
    (d.put source (.file content)).KeepsWays d :=
  (holding_put h.ne_nil content).keepsWays_back

/-- A staged file is filled in part and stays where it is, or it is filled and moved to the
place that the path names. -/
theorem deliver_cases {source : Location} (hroot : source ≠ []) (staged p : Path)
    (content : ByteArray) :
    (∃ part e, d.deliver source staged p content = (d.put source (.file part), .error e)) ∨
    ∃ loc s, (d.put source (.file content)).Names p loc s ∧ p.endsInSlash = false ∧
      (d.put source (.file content)).entryAt (loc ++ [s]) ≠ some .directory ∧
      d.deliver source staged p content =
        (((d.put source (.file content)).remove source).put (loc ++ [s]) (.file content),
          .ok ()) := by
  unfold deliver fill
  cases d.shortage? source content with
  | some limit => exact Or.inl ⟨_, _, rfl⟩
  | none =>
    dsimp only
    cases (d.put source (.file content)).flush source with
    | some o => exact Or.inl ⟨_, _, rfl⟩
    | none =>
      dsimp only
      cases hmove : (d.put source (.file content)).moveFile source p with
      | error f => exact Or.inl ⟨_, _, rfl⟩
      | ok moved =>
        obtain ⟨hslash, loc, s, e, hnames, hentry, -, hfree, rfl⟩ := moveFile_eq_ok_iff.mp hmove
        rw [entryAt_put hroot, if_pos rfl] at hentry
        cases hentry
        exact Or.inr ⟨loc, s, hnames, hslash, hfree, rfl⟩

/-- Publishing fails before a file is staged, or the staged file is removed again, or
it is moved to the place that the path names. -/
theorem publish_steps (d : Disk) (p : Path) (content : ByteArray) :
    (∃ e, d.publish p content = (d.prepared p, .error e)) ∨
    ∃ source, (d.prepared p).StagedAt source ∧
      ((∃ part e, d.publish p content =
          (((d.prepared p).put source (.file part)).remove source, .error e)) ∨
        ∃ staged loc s, staged = (d.prepared p).put source (.file content) ∧
          staged.Names p loc s ∧ p.endsInSlash = false ∧
          staged.entryAt (loc ++ [s]) ≠ some .directory ∧ d.publish p content =
            ((staged.remove source).put (loc ++ [s]) (.file content), .ok ())) := by
  unfold publish prepared
  cases p.parent? with
  | none => exact Or.inl ⟨_, rfl⟩
  | some parent =>
    dsimp only
    rcases d.makeDirectories parent with ⟨made, fault | done⟩
    · exact Or.inl ⟨_, rfl⟩
    · dsimp only
      cases hstage : made.stage parent (stemOf p.fileName?) with
      | error fault => exact Or.inl ⟨_, rfl⟩
      | ok result =>
        obtain ⟨begun, source, staged⟩ := result
        obtain ⟨hstaged, rfl⟩ := stage_eq_ok hstage
        refine Or.inr ⟨source, hstaged, ?_⟩
        have hdeliver := deliver_cases (d := made.put source (.file ByteArray.empty))
          hstaged.ne_nil staged p content
        rw [put_put] at hdeliver
        dsimp only
        rcases hdeliver with ⟨part, e, h⟩ | ⟨loc, s, hnames, hslash, hfree, h⟩
        · rw [put_put] at h
          exact Or.inl ⟨part, e, by rw [h]⟩
        · exact Or.inr ⟨_, loc, s, rfl, hnames, hslash, hfree, by rw [h]⟩

/-- Publishing either fails and leaves no more than directories behind, or it puts
the file at the destination. -/
theorem publish_cases (d : Disk) (p : Path) (content : ByteArray) :
    (∃ e, (d.publish p content).2 = .error e ∧
      ∀ l, (d.publish p content).1.entryAt l = (d.prepared p).entryAt l) ∨
    (∃ loc, (d.publish p content).2 = .ok () ∧ d.destination? p = some loc ∧
      ∀ l, (d.publish p content).1.entryAt l =
        if l = loc then some (.file content) else (d.prepared p).entryAt l) := by
  rcases d.publish_steps p content with ⟨e, h⟩ | ⟨source, hstaged, h⟩
  · rw [h]
    exact Or.inl ⟨e, rfl, fun l => rfl⟩
  · rcases h with ⟨part, e, h⟩ | ⟨staged, loc, s, rfl, hnames, -, -, h⟩
    · rw [h]
      exact Or.inl ⟨e, rfl, hstaged.entryAt_remove_put part⟩
    · rw [h]
      refine Or.inr ⟨loc ++ [s], rfl, ?_, fun l => ?_⟩
      · exact (hnames.mono (hstaged.keepsWays content)).placeOf?_eq
      · rw [entryAt_put (by simp), hstaged.entryAt_remove_put]

theorem sameFrame_prepared (d : Disk) (p : Path) : d.SameFrame (d.prepared p) := by
  unfold prepared
  split
  · exact ⟨rfl, rfl⟩
  · exact (grown_makeAncestors d _).frame

theorem sameFrame_publish (d : Disk) (p : Path) (content : ByteArray) :
    (d.prepared p).SameFrame (d.publish p content).1 := by
  rcases d.publish_steps p content with ⟨e, h⟩ | ⟨source, -, h⟩
  · rw [h]
    exact ⟨rfl, rfl⟩
  · rcases h with ⟨part, e, h⟩ | ⟨staged, loc, s, rfl, -, -, -, h⟩ <;> rw [h] <;> exact ⟨rfl, rfl⟩

/-- A file that was published lies where the path names a place, and no directory was
there. -/
theorem names_of_publish {p : Path} {content : ByteArray} {place : Location}
    (h : (d.publish p content).2 = .ok ()) (hplace : d.destination? p = some place) :
    p.endsInSlash = false ∧ (d.prepared p).entryAt place ≠ some .directory ∧
      ∃ loc s, (d.prepared p).Names p loc s ∧ place = loc ++ [s] := by
  rcases d.publish_steps p content with ⟨e, h'⟩ | ⟨source, hstaged, h'⟩
  · rw [h'] at h
    cases h
  · rcases h' with ⟨part, e, h'⟩ | ⟨staged, loc, s, rfl, hnames, hslash, hfree, -⟩
    · rw [h'] at h
      cases h
    · have hnames := hnames.mono (hstaged.keepsWays content)
      have heq : place = loc ++ [s] := by
        rw [destination?, hnames.placeOf?_eq] at hplace
        exact (Option.some.inj hplace).symm
      refine ⟨hslash, ?_, loc, s, hnames, heq⟩
      rw [entryAt_put hstaged.ne_nil] at hfree
      rw [heq]
      split at hfree
      · next hsource =>
        rw [hsource, hstaged.vacant]
        simp
      · exact hfree

/-! ## The published file -/

theorem holding_publish {p : Path} {content : ByteArray} {place : Location}
    (h : (d.publish p content).2 = .ok ()) (hplace : d.destination? p = some place) :
    Holding place content (d.prepared p) (d.publish p content).1 := by
  refine ⟨(d.sameFrame_publish p content).host, ?_⟩
  rcases d.publish_cases p content with ⟨e, he, -⟩ | ⟨loc, -, hloc, hdisk⟩
  · rw [h] at he
    cases he
  · rw [hplace] at hloc
    cases hloc
    exact hdisk

/-- A path names a place by a walk that follows no link at this place. -/
def NamesWithout (d : Disk) (p : Path) (place : Location) : Prop :=
  (d.remove place).placeOf? p = some place

theorem placeOf?_eq_some {p : Path} {place : Location} (h : d.placeOf? p = some place) :
    ∃ loc s, d.parentOf p = .ok (some (loc, .name s)) ∧ place = loc ++ [s] := by
  unfold placeOf? at h
  split at h
  · next loc s hparent => exact ⟨loc, s, hparent, (Option.some.inj h).symm⟩
  · cases h

theorem namesWithout_of_leads {p : Path} {loc : Location} {s : Name} {before : List Segment}
    {m : Nat} (hp : checkPath p = .ok ()) (hsegments : p.segments = before ++ [.name s])
    (hleads : (d.remove (loc ++ [s])).Leads linkLimit (startOf p d.here) before m loc)
    (hopen : (d.remove (loc ++ [s])).IsOpen loc) : d.NamesWithout p (loc ++ [s]) := by
  have hparent : (d.remove (loc ++ [s])).parentOf p = .ok (some (loc, .name s)) :=
    parentOf_eq_some_iff.mpr ⟨hp, before, m, hsegments, hleads, hopen⟩
  rw [NamesWithout, placeOf?, hparent]

theorem Holding.keepsWays_remove {place : Location} {content : ByteArray}
    (h : Holding place content d d') (hroot : place ≠ []) : d'.KeepsWays (d.remove place) := by
  refine ⟨h.host.symm, fun l e he hleaf => ?_⟩
  rw [h.entryAt] at he
  rw [entryAt_remove hroot]
  split at he
  · cases he
    cases hleaf
  · next hl =>
    rw [if_neg hl]
    exact he

theorem Holding.keepsWays_of_remove {place : Location} {content : ByteArray}
    (h : Holding place content d d') (hroot : place ≠ []) : (d.remove place).KeepsWays d' := by
  refine ⟨h.host, fun l e he _ => ?_⟩
  rw [entryAt_remove hroot] at he
  rw [h.entryAt]
  split at he
  · cases he
  · next hl =>
    rw [if_neg hl]
    exact he

theorem Holding.lookup {p : Path} {loc : Location} {s : Name} {content : ByteArray}
    (h : Holding (loc ++ [s]) content d d') (hs : s.length ≤ nameLimit)
    (hslash : p.endsInSlash = false) (hnames : d.NamesWithout p (loc ++ [s])) :
    d'.lookup p = .ok (loc ++ [s], .file content) := by
  obtain ⟨around, t, hparent, heq⟩ := placeOf?_eq_some hnames
  obtain ⟨rfl, hst⟩ := List.append_inj' heq rfl
  cases hst
  have hnames' : d'.Names p loc s :=
    Names.mono (d := d.remove (loc ++ [s])) (h.keepsWays_of_remove (by simp)) ⟨hparent, hs⟩
  exact hnames'.lookup_leaf hslash (by rw [h.entryAt, if_pos rfl]) rfl

theorem keepsWays_remove_self {place : Location} (hroot : place ≠ []) :
    (d.remove place).KeepsWays d := by
  refine ⟨rfl, fun x e hx _ => ?_⟩
  rw [entryAt_remove hroot] at hx
  split at hx
  · cases hx
  · exact hx

theorem Holding.namesWithout {p : Path} {loc : Location} {s : Name} {content : ByteArray}
    {found : Location × Entry} (h : Holding (loc ++ [s]) content d d') (hnames : d.Names p loc s)
    (hslash : p.endsInSlash = false) (hlookup : d'.lookup p = .ok found) :
    d.NamesWithout p (loc ++ [s]) := by
  obtain ⟨l, e⟩ := found
  obtain ⟨hp, before, m, hsegments, hleads, -⟩ := parentOf_eq_some_iff.mp hnames.parentOf_eq
  obtain ⟨-, k, hwalk, -⟩ := lookup_eq_ok_iff.mp hlookup
  have hways := h.keepsWays_remove (by simp)
  rw [Path.walkSegments, hsegments, hslash, if_neg Bool.false_ne_true, List.append_nil,
    ← hways.here_eq] at hwalk
  obtain ⟨i, mid, hbefore, hlast⟩ := hwalk.of_append
  have hmid : d'.IsOpen mid := by
    cases hlast with
    | enter hopen => exact hopen
    | follow hopen => exact hopen
  have hwithout := hbefore.mono hways hmid.directory
  have hsame : mid = loc := ((hwithout.mono (keepsWays_remove_self (by simp))
    (hways.directory hmid.directory)).unique hleads).2
  subst hsame
  exact namesWithout_of_leads hp hsegments hwithout (hways.isOpen hmid)

end Storyboard.Files.Disk
