import Storyboard.Proofs.ResolvedPaths
import Storyboard.Proofs.Staging
import Storyboard.Proofs.TreeInvariant

/-! # Publishing again

Once a file was published, its directory is there and so is a free staged name, the
same one as before. Publishing again therefore succeeds as long as the storage takes the
file, at the path that was used or at the path of the place, and changes no more than the
content of the file.
-/
namespace Storyboard.Files

namespace Path

theorem join_of_isAbsolute (p : Path) {q : Path} (h : q.isAbsolute = true) : p.join q = q :=
  if_pos h

theorem length_le_join (p : Path) {q : Path} (h : q.isAbsolute = false) :
    p.bytes.length ≤ (p.join q).bytes.length := by
  rw [join, h, if_neg Bool.false_ne_true]
  split <;> simp

theorem ancestors_cases (p : Path) : p.ancestors = [] ∨ ∃ outer, p.ancestors = p :: outer := by
  unfold ancestors
  cases p.bytes.length with
  | zero => exact Or.inl rfl
  | succ n =>
    rw [ancestorsWithin]
    cases p.parent? with
    | none => exact Or.inl rfl
    | some parent => exact Or.inr ⟨_, rfl⟩

end Path

namespace Disk

variable {d d' : Disk}

/-! ## Directories that are there -/

theorem makeDirectory_of_lookup {p : Path} {found : Location × Entry} (h : d.lookup p = .ok found) :
    d.makeDirectory p = .error .alreadyExists := by
  obtain ⟨x, e⟩ := found
  obtain ⟨hcheck, m, hleads, -⟩ := lookup_eq_ok_iff.mp h
  rcases List.eq_nil_or_concat p.segments with hnil | ⟨before, last, hsegments⟩
  · have hparent : d.parentOf p = .ok none := by
      simp [parentOf, hcheck, hnil]
    rw [makeDirectory, hparent]
  · rw [List.concat_eq_append] at hsegments
    rw [Path.walkSegments, hsegments, List.append_assoc] at hleads
    obtain ⟨k, mid, hbefore, hlast⟩ := hleads.of_append
    have hparent : d.IsOpen mid → d.parentOf p = .ok (some (mid, last)) := fun hopen =>
      parentOf_eq_some_iff.mpr ⟨hcheck, before, k, hsegments, hbefore, hopen⟩
    rw [makeDirectory]
    cases hlast with
    | here hopen => rw [hparent hopen]
    | slash =>
      have hmem : .slash ∈ p.segments := by simp [hsegments]
      exact absurd hmem (slash_notMem_segments p)
    | up hopen => rw [hparent hopen]
    | enter hopen hname hentry =>
      rw [hparent hopen]
      exact addEntry_eq_alreadyExists_iff.mpr ⟨hname, by simp [hentry]⟩
    | follow hopen hname hentry =>
      rw [hparent hopen]
      exact addEntry_eq_alreadyExists_iff.mpr ⟨hname, by simp [hentry]⟩

/-- A directory is there, or it is none that could be made. -/
def HasDirectory (d : Disk) (p : Path) : Prop := p.ancestors = [] ∨ d.isDirectory p = true

theorem HasDirectory.mono {p : Path} (h : d.HasDirectory p) (hways : d.KeepsWays d') :
    d'.HasDirectory p := by
  rcases h with hnone | hdir
  · exact Or.inl hnone
  · obtain ⟨l, hlookup⟩ := isDirectory_eq_true_iff.mp hdir
    exact Or.inr (isDirectory_eq_true_iff.mpr ⟨l, lookup_directory_mono hways hlookup⟩)

theorem HasDirectory.makeDirectories {p : Path} (h : d.HasDirectory p) :
    d.makeDirectories p = (d, .ok ()) := by
  rw [Disk.makeDirectories]
  rcases p.ancestors_cases with hnil | ⟨outer, hcons⟩
  · rw [hnil, makeAncestors]
  · have hdir : d.isDirectory p = true := by
      rcases h with hnone | hdir
      · rw [hcons] at hnone
        cases hnone
      · exact hdir
    obtain ⟨l, hlookup⟩ := isDirectory_eq_true_iff.mp hdir
    rw [hcons, makeAncestors, makeDirectory_of_lookup hlookup]
    dsimp only
    rw [if_pos hdir]

theorem isDirectory_of_makeDirectory {p : Path} (h : d.makeDirectory p = .ok d') :
    d'.isDirectory p = true := by
  obtain ⟨loc, s, -, hvacant, rfl⟩ := makeDirectory_eq_ok h
  have hmade : (d.put (loc ++ [s]) .directory).entryAt (loc ++ [s]) = some .directory := by
    rw [entryAt_put (by simp), if_pos rfl]
  obtain ⟨-, q, hq, hlookup⟩ :=
    (grown_makeDirectory (List.mem_singleton_self p) h).added _ _ hvacant hmade
  rw [List.mem_singleton.mp hq] at hlookup
  exact isDirectory_eq_true_iff.mpr ⟨_, hlookup⟩

theorem hasDirectory_of_makeDirectories {p : Path} (h : d.makeDirectories p = (d', .ok ())) :
    d'.HasDirectory p := by
  rw [makeDirectories] at h
  rcases p.ancestors_cases with hnil | ⟨outer, hcons⟩
  · exact Or.inl hnil
  · right
    rw [hcons, makeAncestors] at h
    split at h
    · next hmade =>
      cases h
      exact isDirectory_of_makeDirectory hmade
    · split at h
      · cases h
      · split at h
        · next hmade =>
          cases h
          exact isDirectory_of_makeDirectory hmade
        · split at h
          · next hdir =>
            cases h
            exact hdir
          · cases h
    · split at h
      · next hdir =>
        cases h
        exact hdir
      · cases h

/-! ## When publishing succeeds -/

variable {p parent : Path} {loc : Location} {s : Name} {n : Nat} {content : ByteArray}

theorem keepsWays_put {l : Location} (hroot : l ≠ []) (hvacant : d.entryAt l = none) (e : Entry) :
    d.KeepsWays (d.put l e) :=
  ⟨rfl, fun _ _ hx _ => entryAt_put_of_some hroot hvacant hx⟩

/-- A staged file can be moved to where a path names a place that is no directory. -/
theorem exists_moveFile_iff {source : Location} (hroot : source ≠ [])
    (hvacant : d.entryAt source = none) :
    (∃ d', (d.put source (.file content)).moveFile source p = .ok d') ↔ p.endsInSlash = false ∧
      ∃ loc s, d.Names p loc s ∧ d.entryAt (loc ++ [s]) ≠ some .directory ∧
        d.replace (loc ++ [s]) = none := by
  have hnames : ∀ loc s, (d.put source (.file content)).Names p loc s ↔ d.Names p loc s :=
    fun loc s => ⟨fun h => h.mono (holding_put hroot content).keepsWays_back,
      fun h => h.mono (keepsWays_put hroot hvacant _)⟩
  have hentry : ∀ l, (d.put source (.file content)).entryAt l = some .directory ↔
      d.entryAt l = some .directory := by
    intro l
    rw [entryAt_put hroot]
    split
    · next hl => simp [hl, hvacant]
    · rfl
  constructor
  · rintro ⟨d', hmove⟩
    obtain ⟨hslash, loc, s, e, hname, -, hreplace, htarget, -⟩ := moveFile_eq_ok_iff.mp hmove
    exact ⟨hslash, loc, s, (hnames loc s).mp hname, fun h => htarget ((hentry _).mpr h), hreplace⟩
  · rintro ⟨hslash, loc, s, hname, htarget, hreplace⟩
    exact ⟨_, moveFile_eq_ok_iff.mpr ⟨hslash, loc, s, .file content, (hnames loc s).mpr hname,
      by rw [entryAt_put hroot, if_pos rfl], hreplace, fun h => htarget ((hentry _).mp h), rfl⟩⟩

theorem deliver_eq_ok_iff {source : Location} {staged : Path} :
    (d.deliver source staged p content).2 = .ok () ↔ d.shortage? source content = none ∧
      d.flush source = none ∧ ∃ d', (d.put source (.file content)).moveFile source p = .ok d' := by
  have hflush : (d.put source (.file content)).flush = d.flush := rfl
  unfold deliver fill
  cases d.shortage? source content with
  | some limit => simp
  | none =>
    dsimp only
    rw [hflush]
    cases d.flush source with
    | some o => simp
    | none => cases (d.put source (.file content)).moveFile source p <;> simp

def stagedPlace (loc : Location) (s : Name) (n : Nat) : Location :=
  loc ++ [stagedName (stemOf (some s)) n]

/-- The storage takes a staged file and its move to its name. -/
structure Grants (d : Disk) (loc : Location) (s : Name) (n : Nat) (content : ByteArray) :
    Prop where
  add : d.add loc = none
  room : d.shortage? (stagedPlace loc s n) content = none
  flush : d.flush (stagedPlace loc s n) = none
  replace : d.replace (loc ++ [s]) = none

theorem Grants.of_storage (h : d.Grants loc s n content) (hstorage : d'.toStorage = d.toStorage) :
    d'.Grants loc s n content := by
  obtain ⟨hadd, hroom, hflush, hreplace⟩ := h
  refine ⟨?_, ?_, ?_, ?_⟩
  · rwa [hstorage]
  · rwa [shortage?, hstorage]
  · rwa [hstorage]
  · rwa [hstorage]

theorem exists_makeDirectories_of_publish (h : (d.publish p content).2 = .ok ()) :
    ∃ parent, p.parent? = some parent ∧ d.makeDirectories parent = (d.prepared p, .ok ()) := by
  unfold publish at h
  unfold prepared
  cases hparent : p.parent? with
  | none =>
    rw [hparent] at h
    cases h
  | some parent =>
    rw [hparent] at h
    dsimp only at h ⊢
    rcases hmade : d.makeDirectories parent with ⟨made, fault | done⟩
    · rw [hmade] at h
      cases h
    · exact ⟨parent, rfl, hmade⟩

/-- Behind its directories a file is published exactly if it is staged, filled and flushed,
and the path names a place that can be given to it. -/
theorem publish_eq_ok_iff (habove : p.parent? = some parent)
    (hmade : d.makeDirectories parent = (d', .ok ())) :
    (d.publish p content).2 = .ok () ↔
      (∃ around k, d'.Stages parent (stemOf p.fileName?) around k ∧ d'.add around = none ∧
        d'.shortage? (around ++ [stagedName (stemOf p.fileName?) k]) content = none ∧
        d'.flush (around ++ [stagedName (stemOf p.fileName?) k]) = none) ∧
      p.endsInSlash = false ∧ ∃ loc s, d'.Names p loc s ∧
        d'.entryAt (loc ++ [s]) ≠ some .directory ∧ d'.replace (loc ++ [s]) = none := by
  have hpublish : (d.publish p content).2 = .ok () ↔ ∃ begun source staged,
      d'.stage parent (stemOf p.fileName?) = .ok (begun, source, staged) ∧
        (begun.deliver source staged p content).2 = .ok () := by
    unfold publish
    rw [habove]
    dsimp only
    rw [hmade]
    dsimp only
    cases d'.stage parent (stemOf p.fileName?) with
    | error f => simp
    | ok result =>
      obtain ⟨begun, source, staged⟩ := result
      dsimp only
      rcases hdeliver : begun.deliver source staged p content with ⟨moved, fault | done⟩ <;>
        simp [hdeliver]
  have hdeliver : ∀ source staged, source ≠ [] → d'.entryAt source = none →
      (((d'.put source (.file ByteArray.empty)).deliver source staged p content).2 = .ok () ↔
        d'.shortage? source content = none ∧ d'.flush source = none ∧ p.endsInSlash = false ∧
          ∃ loc s, d'.Names p loc s ∧ d'.entryAt (loc ++ [s]) ≠ some .directory ∧
            d'.replace (loc ++ [s]) = none) := by
    intro source staged hroot hvacant
    rw [deliver_eq_ok_iff, put_put, exists_moveFile_iff hroot hvacant]
    rfl
  rw [hpublish]
  constructor
  · rintro ⟨begun, source, staged, hstage, hdelivered⟩
    obtain ⟨around, k, hstages, hadd, rfl, rfl, rfl⟩ :=
      (stage_eq_ok_iff p.slash_notMem_stem).mp hstage
    obtain ⟨hroom, hflush, hmoved⟩ := (hdeliver _ _ (by simp) hstages.number.free).mp hdelivered
    exact ⟨⟨around, k, hstages, hadd, hroom, hflush⟩, hmoved⟩
  · rintro ⟨⟨around, k, hstages, hadd, hroom, hflush⟩, hmoved⟩
    exact ⟨_, _, _, (stage_eq_ok_iff p.slash_notMem_stem).mpr
        ⟨around, k, hstages, hadd, rfl, rfl, rfl⟩,
      (hdeliver _ _ (by simp) hstages.number.free).mpr ⟨hroom, hflush, hmoved⟩⟩

/-! ## Ready disks -/

/-- A file can be published at a path without making a directory, if the storage takes it.
The staged names are taken up to that of some number, which is free. -/
structure Ready (d : Disk) (p parent : Path) (loc : Location) (s : Name) (n : Nat) : Prop where
  above : p.parent? = some parent
  name : p.fileName? = some s
  slash : p.endsInSlash = false
  names : d.Names p loc s
  target : d.entryAt (loc ++ [s]) ≠ some .directory
  around : d.HasDirectory parent
  stages : d.Stages parent (stemOf (some s)) loc n

theorem Ready.prepared_eq (h : d.Ready p parent loc s n) : d.prepared p = d := by
  rw [prepared, h.above]
  dsimp only
  rw [h.around.makeDirectories]

theorem Names.unique {l : Location} {t : Name} (h : d.Names p loc s) (h' : d.Names p l t) :
    loc = l ∧ s = t := by
  cases h.parentOf_eq.symm.trans h'.parentOf_eq
  exact ⟨rfl, rfl⟩

/-- Publishing at a path that is ready succeeds exactly if the storage takes the file. -/
theorem Ready.publish_iff (h : d.Ready p parent loc s n) :
    (d.publish p content).2 = .ok () ↔ d.Grants loc s n content := by
  rw [publish_eq_ok_iff h.above h.around.makeDirectories, h.name]
  constructor
  · rintro ⟨⟨around, k, hstages, hadd, hroom, hflush⟩, -, l, t, hnames, -, hreplace⟩
    obtain rfl := hstages.reaches.unique h.stages.reaches
    obtain rfl := hstages.number.unique h.stages.number
    obtain ⟨rfl, rfl⟩ := hnames.unique h.names
    exact ⟨hadd, hroom, hflush, hreplace⟩
  · rintro ⟨hadd, hroom, hflush, hreplace⟩
    exact ⟨⟨loc, n, h.stages, hadd, hroom, hflush⟩, h.slash, loc, s, h.names, h.target, hreplace⟩

theorem Ready.holding (h : d.Ready p parent loc s n) (hok : (d.publish p content).2 = .ok ()) :
    Holding (loc ++ [s]) content d (d.publish p content).1 := by
  have hplace : d.destination? p = some (loc ++ [s]) := by
    rw [destination?, h.prepared_eq, h.names.placeOf?_eq]
  have hholding := holding_publish hok hplace
  rwa [h.prepared_eq] at hholding

/-- Behind the working directory a path reaches the directory to which it leads, if no
directory on the way to the working directory is closed. -/
theorem WellFormed.reaches_iff (hd : d.WellFormed) {m : Nat} {l : Location}
    (h : d.Leads linkLimit (startOf parent d.here) parent.segments m loc) (hopen : d.IsOpen loc) :
    d.Reaches parent l ↔ l = loc ∧ (parent.isAbsolute = true ∨ d.OpenAbove d.here) := by
  cases hp : parent.isAbsolute with
  | true =>
    rw [startOf, if_pos hp] at h
    rw [Reaches, Path.join_of_isAbsolute _ hp]
    constructor
    · rintro ⟨-, k, hleads⟩
      exact ⟨(hleads.unique h).2, Or.inl rfl⟩
    · rintro ⟨rfl, -⟩
      exact ⟨hopen, m, h⟩
  | false =>
    rw [startOf, hp, if_neg Bool.false_ne_true] at h
    have hhere : d.entryAt d.here = some .directory := by
      by_cases hnil : parent.segments = []
      · rw [hnil] at h
        cases h
        exact hopen.directory
      · exact h.directory_of_ne_nil hnil
    have hhome : d.OpenAbove d.here → d.Leads linkLimit [] (d.here.map .name) linkLimit d.here :=
      hd.leads linkLimit [] hhere (by simp)
    rw [Reaches, Path.segments_join d.here.isAbsolute_toPath hp, segments_here hd hhere]
    constructor
    · rintro ⟨hl, k, hleads⟩
      have habove : d.OpenAbove d.here :=
        hd.open_of_walk [] hhere (hleads.walk_eq hl.directory)
      obtain ⟨i, mid, hfirst, hrest⟩ := hleads.of_append
      obtain ⟨rfl, rfl⟩ := (hhome habove).unique hfirst
      exact ⟨(hrest.unique h).2, Or.inr habove⟩
    · rintro ⟨rfl, hp' | habove⟩
      · cases hp'
      · exact ⟨hopen, m, (hhome habove).append h⟩

/-- The parent of a path leads to the directory in which the path names a place. -/
theorem Names.exists_parent (h : d.Names p loc s) :
    ∃ parent m, p.parent? = some parent ∧ p.fileName? = some s ∧ d.IsOpen loc ∧
      d.Leads linkLimit (startOf parent d.here) parent.segments m loc := by
  obtain ⟨-, before, m, hsegments, hleads, hopen⟩ := parentOf_eq_some_iff.mp h.parentOf_eq
  obtain ⟨parent, stay, habove, hname, habsolute, rfl, hstay⟩ := Path.exists_parent? hsegments
  obtain ⟨i, mid, hfirst, hlast⟩ := hleads.of_append
  obtain ⟨rfl, rfl⟩ := hlast.eq_of_stays fun x hx => Or.inl (hstay x hx)
  refine ⟨parent, i, habove, hname, hopen, ?_⟩
  rwa [startOf, habsolute]

/-- A path at which a file was published was ready once its directories were made, and the
storage took the file. -/
theorem ready_of_publish (hd : d.WellFormed) (h : (d.publish p content).2 = .ok ()) :
    ∃ parent loc s n, (d.prepared p).Ready p parent loc s n ∧
      (d.prepared p).Grants loc s n content := by
  obtain ⟨parent, habove, hmade⟩ := exists_makeDirectories_of_publish h
  obtain ⟨⟨around, n, hstages, hadd, hroom, hflush⟩, hslash, loc, s, hnames, htarget, hreplace⟩ :=
    (publish_eq_ok_iff habove hmade).mp h
  obtain ⟨parent', m, habove', hname, hopen, hleads⟩ := hnames.exists_parent
  cases habove.symm.trans habove'
  rw [hname] at hstages hroom hflush
  obtain ⟨rfl, -⟩ := ((hd.prepared p).reaches_iff hleads hopen).mp hstages.reaches
  exact ⟨parent, around, s, n,
    ⟨habove, hname, hslash, hnames, htarget, hasDirectory_of_makeDirectories hmade, hstages⟩,
    ⟨hadd, hroom, hflush, hreplace⟩⟩

/-! ## After a file was published -/

theorem Holding.keepsWays {place : Location} (h : Holding place content d d')
    (hleaf : ∀ e, d.entryAt place = some e → e.isLeaf = true) : d.KeepsWays d' := by
  refine ⟨h.host, fun l e he hway => ?_⟩
  rw [h.entryAt, if_neg, he]
  rintro rfl
  rw [hleaf e he] at hway
  cases hway

theorem Ready.of_holding (h : d.Ready p parent loc s n)
    (hholding : Holding (loc ++ [s]) content d d')
    (hleaf : ∀ e, d.entryAt (loc ++ [s]) = some e → e.isLeaf = true) :
    d'.Ready p parent loc s n := by
  have hways := hholding.keepsWays hleaf
  have hkept : ∀ k, d'.entryAt (stagedPlace loc s k) = d.entryAt (stagedPlace loc s k) := by
    intro k
    rw [hholding.entryAt, if_neg]
    intro heq
    exact stagedName_ne s k (List.singleton_inj.mp (List.append_cancel_left heq))
  have hcan : ∀ k, d'.CanStage parent (stemOf (some s)) k ↔
      d.CanStage parent (stemOf (some s)) k := by
    intro k
    rw [CanStage, CanStage, stagedPath, stagedPath, hways.here_eq]
  refine ⟨h.above, h.name, h.slash, h.names.mono hways, ?_, h.around.mono hways,
    h.stages.reaches.mono hways, fun k hk => (hcan k).mpr (h.stages.can k hk), fun k hk => ?_, ?_⟩
  · rw [hholding.entryAt, if_pos rfl]
    simp
  · exact (hkept k).trans_ne (h.stages.number.taken k hk)
  · exact (hkept n).trans h.stages.number.free

/-- The second disk has all entries of the first one, except that the leaf at a place may be
another one. -/
structure Kept (place : Location) (d d' : Disk) : Prop where
  ways : d.KeepsWays d'
  leaves : d.KeepsLeaves d'
  others : ∀ x e, d.entryAt x = some e → x ≠ place → d'.entryAt x = some e

theorem Holding.kept {place : Location} (h : Holding place content (d.prepared p) d')
    (hleaf : ∀ e, (d.prepared p).entryAt place = some e → e.isLeaf = true) : Kept place d d' := by
  have hways := h.keepsWays hleaf
  refine ⟨⟨h.host.trans (d.sameFrame_prepared p).host, fun x e he hway => ?_⟩,
    fun x e he hx => ?_, fun x e he hx => ?_⟩
  · exact hways.ways x e (entryAt_prepared_of_some he) hway
  · rw [h.entryAt]
    split
    · exact ⟨_, rfl, rfl⟩
    · exact ⟨e, entryAt_prepared_of_some he, hx⟩
  · rw [h.entryAt, if_neg hx]
    exact entryAt_prepared_of_some he

theorem Kept.lookup_leaf {place x : Location} {q : Path} {e : Entry} (h : Kept place d d')
    (hlookup : d.lookup q = .ok (x, e)) (hx : x ≠ place) : d'.lookup q = .ok (x, e) := by
  obtain ⟨e', he', -⟩ := lookup_mono h.ways h.leaves hlookup
  have hentry := entryAt_of_lookup he'
  rw [h.others x _ (entryAt_of_lookup hlookup) hx] at hentry
  cases hentry
  exact he'

theorem readBytes_congr {q : Path} (h : d'.lookup q = d.lookup q) :
    d'.readBytes q = d.readBytes q := by
  rw [readBytes, readBytes, h]

theorem Kept.readBytes_eq {place : Location} {q : Path} (h : Kept place d d')
    (hread : d.readBytes q = .ok content) (hq : ∀ e, d.lookup q ≠ .ok (place, e)) :
    d'.readBytes q = d.readBytes q := by
  obtain ⟨x, e, hlookup, -⟩ := readBytes_eq_ok_iff.mp hread
  have hx : x ≠ place := by
    rintro rfl
    exact hq e hlookup
  exact readBytes_congr ((h.lookup_leaf hlookup hx).trans hlookup.symm)

/-! ## The path of the place -/

theorem WellFormed.names_toPath (hd : d.WellFormed) {t : Name} (hopen : d.IsOpen loc)
    (habove : d.OpenAbove loc) (ht : IsName t)
    (hcheck : checkPath (Location.toPath (loc ++ [t])) = .ok ()) :
    d.Names (Location.toPath (loc ++ [t])) loc t := by
  have hall := hd.isName_concat hopen.directory ht
  refine ⟨parentOf_eq_some_iff.mpr ⟨hcheck, loc.map .name, linkLimit, ?_, ?_, hopen⟩, ht.short⟩
  · rw [Location.segments_toPath hall, List.map_append]
    rfl
  · rw [startOf_toPath]
    exact hd.leads linkLimit [] hopen.directory (by simp) habove

/-- A place is ready by its own path if it is so by another one, as long as its path and those
of the staged files can be asked for and no directory on the way is closed. -/
theorem Ready.toPath (hd : d.WellFormed) (h : d.Ready p parent loc s n) (habove : d.OpenAbove loc)
    (hplace : checkPath (Location.toPath (loc ++ [s])) = .ok ())
    (hroom : ∀ k ≤ n, checkPath (stagedPlace loc s k).toPath = .ok ()) :
    d.Ready (Location.toPath (loc ++ [s])) loc.toPath loc s n := by
  have hopen := h.names.isOpen
  have hloc := hd.isName hopen.directory
  have hs := h.names.isName
  have hall := hd.isName_concat hopen.directory hs
  have hstem : Files.slash ∉ stemOf (some s) := by
    apply slash_notMem_stemOf
    simpa using hs.slash_notMem
  have hlead : d.Leads linkLimit [] (loc.map .name) linkLimit loc :=
    hd.leads linkLimit [] hopen.directory (by simp) habove
  refine ⟨Location.parent?_toPath hall, Location.fileName?_toPath hall,
    Location.endsInSlash_toPath (by simp) hall, hd.names_toPath hopen habove hs hplace, h.target,
    Or.inr ?_, ⟨hopen, linkLimit, ?_⟩, fun k hk => ⟨(h.stages.can k hk).1, ?_⟩, h.stages.number⟩
  · have hshort : loc.toPath.bytes.length ≤ pathLimit := by
      refine Nat.le_trans ?_ (checkPath_eq_ok_iff.mp hplace).2.2
      rw [Location.toPath_concat hloc hs.slash_notMem]
      exact Path.length_le_join _ (Path.isAbsolute_of_notMem hs.slash_notMem)
    exact isDirectory_eq_true_iff.mpr
      ⟨loc, (hd.lookup_toPath_iff hopen.directory (by simp)).mpr ⟨hshort, habove⟩⟩
  · rwa [Path.join_of_isAbsolute _ loc.isAbsolute_toPath, Location.segments_toPath hloc]
  · rw [stagedPath, Path.join_of_isAbsolute _ loc.isAbsolute_toPath]
    rw [← Location.toPath_concat hloc (slash_notMem_stagedName hstem k)]
    exact hroom k hk

end Disk
end Storyboard.Files
