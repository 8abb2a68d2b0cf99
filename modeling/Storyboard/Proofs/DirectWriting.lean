import Mathlib.Control.Monad.Basic
import Storyboard.Proofs.Republishing

/-! # Publishing and writing directly

A file can also be written at its path directly, once the directories around it are made.
Publishing needs more than that: the staged file stands beside the destination, under a
longer name and in a directory that has to take it, and it is moved. Where all this is
granted, a file that can be written directly can be published, and the path leads to it
afterwards.
-/
namespace Storyboard.Files.Disk

variable {d d' : Disk} {p parent : Path} {content : ByteArray} {loc l : Location} {s : Name}

/-- Makes the directories around a path and writes a file there, through links. -/
def writeThrough (d : Disk) (p : Path) (content : ByteArray) : Disk × Except Fault Unit :=
  match p.parent? with
  | none => d.writeFile p content
  | some parent =>
    match d.makeDirectories parent with
    | (d, .error f) => (d, .error f)
    | (d, .ok _) => d.writeFile p content

theorem writeThrough_eq_ok (h : (d.writeThrough p content).2 = .ok ()) :
    ((d.prepared p).writeFile p content).2 = .ok () ∧
      ∀ parent, p.parent? = some parent → d.makeDirectories parent = (d.prepared p, .ok ()) := by
  unfold writeThrough at h
  unfold prepared
  cases habove : p.parent? with
  | none =>
    rw [habove] at h
    exact ⟨h, by simp⟩
  | some parent =>
    rw [habove] at h
    dsimp only at h ⊢
    rcases hmade : d.makeDirectories parent with ⟨made, fault | done⟩
    · rw [hmade] at h
      cases h
    · rw [hmade] at h
      refine ⟨h, fun q hq => ?_⟩
      cases hq
      exact hmade

/-! ## Where a file is written -/

def Writable (d : Disk) (l : Location) : Prop :=
  l ≠ [] ∧ ∀ e, d.entryAt l = some e → e.isLeaf = true

theorem Writable.ne_directory (h : d.Writable l) : d.entryAt l ≠ some .directory := by
  intro hdir
  cases h.2 _ hdir

/-- Some segments lead to a vacant place as soon as a file is there. -/
def LeadsToVacant (d : Disk) (n : Nat) (loc : Location) (segments : List Segment)
    (l : Location) : Prop :=
  l ≠ [] ∧ d.entryAt l = none ∧
    ∀ content, ∃ m, (d.put l (.file content)).Leads n loc segments m l

theorem LeadsToVacant.of_step {n n' : Nat} {loc' : Location} {segments segments' : List Segment}
    (h : d.LeadsToVacant n loc segments l)
    (hstep : ∀ d' : Disk, d'.toHost = d.toHost →
      (∀ x e, d.entryAt x = some e → d'.entryAt x = some e) →
      ∀ m, d'.Leads n loc segments m l → d'.Leads n' loc' segments' m l) :
    d.LeadsToVacant n' loc' segments' l := by
  obtain ⟨hroot, hvacant, hput⟩ := h
  refine ⟨hroot, hvacant, fun content => ?_⟩
  obtain ⟨m, hm⟩ := hput content
  exact ⟨m, hstep (d.put l (.file content)) rfl
    (fun x e he => entryAt_put_of_some hroot hvacant he) m hm⟩

theorem IsOpen.of_kept (h : d.IsOpen loc) (hhost : d'.toHost = d.toHost)
    (hkept : ∀ x e, d.entryAt x = some e → d'.entryAt x = some e) : d'.IsOpen loc :=
  ⟨hkept _ _ h.directory, by rw [hhost, h.search]⟩

theorem leadsToVacant_name (n : Nat) (hopen : d.IsOpen loc) (hname : s.length ≤ nameLimit)
    (hvacant : d.entryAt (loc ++ [s]) = none) :
    d.LeadsToVacant n loc [.name s] (loc ++ [s]) := by
  have hroot : loc ++ [s] ≠ [] := by simp
  refine ⟨hroot, hvacant, fun content => ⟨n, ?_⟩⟩
  have hthere : (d.put (loc ++ [s]) (.file content)).entryAt (loc ++ [s]) =
      some (.file content) := by rw [entryAt_put hroot, if_pos rfl]
  have hopen' : (d.put (loc ++ [s]) (.file content)).IsOpen loc :=
    hopen.of_kept rfl fun x e he => entryAt_put_of_some hroot hvacant he
  exact .enter hopen' hname hthere (by simp) (.done n _)

/-- A walk without links that ends at a vacant place, given what the links on it lead to. -/
theorem leadsToVacant_of_walkWith {N : Nat}
    {follow : Location → List Segment → Except Fault Spot}
    (hfollow : ∀ loc segments l, follow loc segments = .ok (.vacant l) →
      ∃ n, N = n + 1 ∧ d.LeadsToVacant n loc segments l)
    {segments : List Segment} (h : d.walkWith true follow loc segments = .ok (.vacant l)) :
    d.LeadsToVacant N loc segments l := by
  induction segments generalizing loc with
  | nil =>
    rw [walkWith] at h
    split at h <;> cases h
  | cons segment rest ih =>
    rw [walkWith.eq_def] at h
    dsimp only at h
    split at h
    · cases h
    · next hbar =>
      cases segment with
      | slash =>
        have hdir := bar?_slash_eq_none_iff.mp hbar
        exact (ih h).of_step fun d' _ hkept m hm => .slash (hkept _ _ hdir) hm
      | here =>
        have hopen := (bar?_eq_none_iff (by simp)).mp hbar
        exact (ih h).of_step fun d' hhost hkept m hm => .here (hopen.of_kept hhost hkept) hm
      | up =>
        have hopen := (bar?_eq_none_iff (by simp)).mp hbar
        exact (ih h).of_step fun d' hhost hkept m hm => .up (hopen.of_kept hhost hkept) hm
      | name s =>
        have hopen := (bar?_eq_none_iff (by simp)).mp hbar
        dsimp only at h
        split at h
        · cases h
        · next hshort =>
          have hname : s.length ≤ nameLimit := Nat.not_lt.mp hshort
          split at h
          · next target hentry =>
            rw [if_neg (by simp)] at h
            obtain ⟨n, rfl, hvacant⟩ := hfollow _ _ _ h
            exact hvacant.of_step fun d' hhost hkept m hm =>
              .follow (hopen.of_kept hhost hkept) hname (hkept _ _ hentry) hm
          · next entry hlink hentry =>
            refine (ih h).of_step fun d' hhost hkept m hm =>
              .enter (hopen.of_kept hhost hkept) hname (hkept _ _ hentry) ?_ hm
            rintro target rfl
            exact hlink target rfl
          · next hvacant =>
            split at h
            · next hrest =>
              cases h
              rw [List.isEmpty_iff.mp hrest]
              exact leadsToVacant_name N hopen hname hvacant
            · cases h

theorem leadsToVacant_of_walk {n : Nat} {segments : List Segment}
    (h : d.walk true n loc segments = .ok (.vacant l)) : d.LeadsToVacant n loc segments l := by
  induction n generalizing loc segments l with
  | zero =>
    apply leadsToVacant_of_walkWith _ h
    intro loc segments l he
    cases he
  | succ n ih =>
    apply leadsToVacant_of_walkWith _ h
    intro loc segments l he
    exact ⟨n, rfl, ih he⟩

theorem lookup_put_of_leaf {e : Entry} (h : d.lookup p = .ok (l, e)) (hleaf : e.isLeaf = true)
    (content : ByteArray) :
    d.Writable l ∧ (d.put l (.file content)).lookup p = .ok (l, .file content) := by
  obtain ⟨hcheck, m, hleads, hentry⟩ := lookup_eq_ok_iff.mp h
  have hroot : l ≠ [] := by
    rintro rfl
    cases hentry
    cases hleaf
  have hwritable : d.Writable l := by
    refine ⟨hroot, fun e' he' => ?_⟩
    rw [hentry] at he'
    cases he'
    exact hleaf
  have hholding := holding_put (d := d) hroot content
  have hthere := hholding.entryAt l
  rw [if_pos rfl] at hthere
  refine ⟨hwritable, lookup_eq_ok_iff.mpr ⟨hcheck, m, ?_, hthere⟩⟩
  exact hleads.mono_of_end (hholding.keepsWays hwritable.2) fun _ _ _ => ⟨_, hthere, rfl⟩

theorem exists_writable_of_writeFile (h : (d.writeFile p content).2 = .ok ()) :
    ∃ l, d.Writable l ∧ (d.put l (.file content)).lookup p = .ok (l, .file content) := by
  unfold writeFile at h
  split at h
  · cases h
  · next l hlocate =>
    unfold locate at hlocate
    split at hlocate
    · cases hlocate
    · next hcheck =>
      obtain ⟨hroot, hvacant, hput⟩ := leadsToVacant_of_walk hlocate
      obtain ⟨m, hleads⟩ := hput content
      refine ⟨l, ⟨hroot, by simp [hvacant]⟩, lookup_eq_ok_iff.mpr ⟨hcheck, m, hleads, ?_⟩⟩
      rw [entryAt_put hroot, if_pos rfl]
  · next l old hlocate =>
    have hlookup : d.lookup p = .ok (l, .file old) := by rw [lookup, hlocate]
    exact ⟨l, lookup_put_of_leaf hlookup rfl content⟩
  · next l given unreadable unwritable hlocate =>
    have hlookup : d.lookup p = .ok (l, .special given unreadable unwritable) := by
      rw [lookup, hlocate]
    exact ⟨l, lookup_put_of_leaf hlookup rfl content⟩
  · cases h

/-! ## The place that a written path names -/

/-- A walk to a directory does not need a link that leads to a file. -/
theorem Leads.remove_link {n i j m : Nat} {x y : Location} {segments : List Segment}
    {target : Path} (h : d.Leads n x segments i y)
    (hentry : d.entryAt (loc ++ [s]) = some (.link target))
    (htarget : d.Leads j (startOf target loc) target.walkSegments m l)
    (hl : d.entryAt l = some (.file content)) (hy : d.entryAt y = some .directory)
    (hlinks : j ≤ i) :
    (d.remove (loc ++ [s])).Leads n x segments i y := by
  have hremove : ∀ z, z ≠ loc ++ [s] → (d.remove (loc ++ [s])).entryAt z = d.entryAt z := by
    intro z hz
    rw [entryAt_remove (by simp), if_neg hz]
  have hkept : ∀ z e, d.entryAt z = some e → (∀ t, e ≠ .link t) →
      (d.remove (loc ++ [s])).entryAt z = some e := by
    intro z e hz hlink
    rw [hremove, hz]
    rintro rfl
    rw [hentry] at hz
    cases hz
    exact hlink target rfl
  have hopens : ∀ z, d.IsOpen z → (d.remove (loc ++ [s])).IsOpen z :=
    fun z hz => ⟨hkept z _ hz.directory (by simp), hz.search⟩
  induction h with
  | done => exact .done _ _
  | here hopen _ ih => exact .here (hopens _ hopen) (ih hy hlinks)
  | slash hdir _ ih => exact .slash (hkept _ _ hdir (by simp)) (ih hy hlinks)
  | up hopen _ ih => exact .up (hopens _ hopen) (ih hy hlinks)
  | enter hopen hname hentered hlink _ ih =>
    exact .enter (hopens _ hopen) hname (hkept _ _ hentered hlink) hlink (ih hy hlinks)
  | @follow n i around y t rest other hopen hname hfollowed hrest ih =>
    by_cases hplace : around ++ [t] = loc ++ [s]
    · -- The walk would go on from the file to which this link leads.
      exfalso
      obtain ⟨rfl, hname⟩ := List.append_inj' hplace rfl
      cases hname
      rw [hentry] at hfollowed
      cases hfollowed
      obtain ⟨k, mid, hfirst, hlast⟩ := hrest.of_append
      obtain ⟨more, rfl⟩ := Nat.exists_eq_add_of_le (hlinks.trans hrest.links_le)
      obtain ⟨-, rfl⟩ := (htarget.more_links more).unique hfirst
      obtain ⟨-, rfl⟩ := hlast.eq_of_not_directory (by simp [hl])
      rw [hl] at hy
      cases hy
    · have hfollowed' := hremove _ hplace
      rw [hfollowed] at hfollowed'
      exact .follow (hopens _ hopen) hname hfollowed' (ih hy hlinks)

theorem Writable.keepsWays_remove (h : d.Writable l) : d.KeepsWays (d.remove l) := by
  refine ⟨rfl, fun x e he hway => ?_⟩
  rw [entryAt_remove h.1, if_neg, he]
  rintro rfl
  rw [h.2 e he] at hway
  cases hway

/-- Where a file can be written, the path names a place where one can be put, and it leads
there without what is at this place. -/
theorem exists_names_of_writeFile (hd : d.WellFormed) (h : (d.writeFile p content).2 = .ok ()) :
    ∃ loc s, d.Names p loc s ∧ p.endsInSlash = false ∧
      d.entryAt (loc ++ [s]) ≠ some .directory ∧ d.NamesWithout p (loc ++ [s]) := by
  obtain ⟨l, hl, hlookup⟩ := exists_writable_of_writeFile h
  have hback := (holding_put (d := d) hl.1 content).keepsWays_back
  obtain ⟨hslash, hlast⟩ := ends_of_lookup hlookup (by simp)
  obtain ⟨hcheck, m, hleads, hfile⟩ := lookup_eq_ok_iff.mp hlookup
  rw [walkSegments_eq hslash] at hleads
  obtain hnil | ⟨before, last, hsegments⟩ := List.eq_nil_or_concat p.segments
  · exact absurd hnil (Path.segments_ne_nil (checkPath_eq_ok_iff.mp hcheck).2.1 hslash)
  rw [List.concat_eq_append] at hsegments
  rw [hsegments] at hleads hlast
  obtain ⟨i, loc, hbefore, hend⟩ := hleads.of_append
  have hparent : ∀ hopen : (d.put l (.file content)).IsOpen loc,
      d.parentOf p = .ok (some (loc, last)) := fun hopen =>
    parentOf_eq_some_iff.mpr
      ⟨hcheck, before, i, hsegments, hbefore.mono hback hopen.directory, hback.isOpen hopen⟩
  -- It remains to see that the directory is reached without what is at the place.
  cases hend with
  | here => simp at hlast
  | slash =>
    have hmem : .slash ∈ p.segments := by simp [hsegments]
    exact absurd hmem (slash_notMem_segments p)
  | up hopen hdone =>
    cases hdone
    exact absurd (hd.directory_dropLast (hback.directory hopen.directory)) hl.ne_directory
  | @enter _ _ _ _ s _ _ hopen hname _ _ hdone =>
    cases hdone
    have hways := hback.trans hl.keepsWays_remove
    exact ⟨loc, s, ⟨hparent hopen, hname⟩, hslash, hl.ne_directory,
      namesWithout_of_leads hcheck hsegments (hbefore.mono hways hopen.directory)
        (hways.isOpen hopen)⟩
  | @follow _ _ _ _ s _ target hopen hname hentry hrest =>
    rw [List.append_nil] at hrest
    have hway := hbefore.remove_link hentry hrest hfile hopen.directory (Nat.le_succ _)
    have hloc : ((d.put l (.file content)).remove (loc ++ [s])).IsOpen loc := by
      refine ⟨?_, hopen.search⟩
      rw [entryAt_remove (by simp), if_neg (by simp), hopen.directory]
    have hways := hback.remove (l := loc ++ [s]) (by simp)
    have hlink := hback.ways _ _ hentry rfl
    exact ⟨loc, s, ⟨hparent hopen, hname⟩, hslash, by simp [hlink],
      namesWithout_of_leads hcheck hsegments (hway.mono hways hloc.directory)
        (hways.isOpen hloc)⟩

/-! ## Publishing where a file can be written -/

theorem readBytes_of_publish (h : (d.publish p content).2 = .ok ())
    (hnames : (d.prepared p).Names p loc s) (hslash : p.endsInSlash = false)
    (hwithout : (d.prepared p).NamesWithout p (loc ++ [s])) :
    (d.publish p content).1.readBytes p = .ok content := by
  have hholding := holding_publish h hnames.placeOf?_eq
  rw [readBytes, hholding.lookup hnames.short hslash hwithout]
  rfl

end Storyboard.Files.Disk
