import Storyboard.Files.Change
import Storyboard.Proofs.Lists

/-! # Walks as derivations

A walk that ends at an entry is a derivation: it stays, goes up, enters what is
there or follows a link, and it needs a directory that may be searched for each of these
steps. All that a walk looks at on its way are directories and links, so a disk that has
those of another one allows the same walks to directories.
-/
namespace Storyboard.Files

/-- The entries at which every way ends. -/
def Entry.isLeaf : Entry → Bool
  | .file _ => true
  | .special _ _ _ => true
  | .directory => false
  | .link _ => false

theorem Entry.isLeaf_of_read {e : Entry} {content : ByteArray} (h : e.read = .ok content) :
    e.isLeaf = true := by
  cases e with
  | file => rfl
  | special => rfl
  | directory => cases h
  | link => cases h

namespace Disk

/-! ## Entries -/

theorem entryAt_put {d : Disk} {loc : Location} {e : Entry} (h : loc ≠ []) (loc' : Location) :
    (d.put loc e).entryAt loc' = if loc' = loc then some e else d.entryAt loc' := by
  by_cases hroot : loc' = []
  · simp [entryAt, hroot, Ne.symm h]
  · simp only [entryAt, put, hroot, if_false, List.lookup_cons_ite, List.lookup_filter_ne]
    split <;> rfl

theorem entryAt_remove {d : Disk} {loc : Location} (h : loc ≠ []) (loc' : Location) :
    (d.remove loc).entryAt loc' = if loc' = loc then none else d.entryAt loc' := by
  by_cases hroot : loc' = []
  · simp [entryAt, hroot, Ne.symm h]
  · simp [entryAt, remove, hroot, List.lookup_filter_ne]

structure IsOpen (d : Disk) (loc : Location) : Prop where
  directory : d.entryAt loc = some .directory
  search : d.search loc = none

theorem bar?_eq_none_iff {d : Disk} {loc : Location} {segment : Segment} (h : segment ≠ .slash) :
    d.bar? loc segment = none ↔ d.IsOpen loc := by
  constructor
  · intro hbar
    unfold bar? at hbar
    split at hbar
    · cases hbar
    · next hdir => exact ⟨hdir, by simpa [h] using hbar⟩
    · cases hbar
  · intro hopen
    simp [bar?, hopen.directory, hopen.search]

theorem bar?_slash_eq_none_iff {d : Disk} {loc : Location} :
    d.bar? loc .slash = none ↔ d.entryAt loc = some .directory := by
  unfold bar?
  split <;> simp_all

/-- Some segments lead from one place to another; the numbers say how many links
may be followed before and after. -/
inductive Leads (d : Disk) : Nat → Location → List Segment → Nat → Location → Prop
  | done (n : Nat) (loc : Location) : Leads d n loc [] n loc
  | here {n m : Nat} {loc l : Location} {rest : List Segment}
      (hopen : d.IsOpen loc) (h : Leads d n loc rest m l) : Leads d n loc (.here :: rest) m l
  | slash {n m : Nat} {loc l : Location} {rest : List Segment}
      (hdir : d.entryAt loc = some .directory) (h : Leads d n loc rest m l) :
      Leads d n loc (.slash :: rest) m l
  | up {n m : Nat} {loc l : Location} {rest : List Segment}
      (hopen : d.IsOpen loc) (h : Leads d n loc.dropLast rest m l) :
      Leads d n loc (.up :: rest) m l
  | enter {n m : Nat} {loc l : Location} {s : Name} {rest : List Segment} {e : Entry}
      (hopen : d.IsOpen loc) (hname : s.length ≤ nameLimit)
      (hentry : d.entryAt (loc ++ [s]) = some e) (hlink : ∀ target, e ≠ .link target)
      (h : Leads d n (loc ++ [s]) rest m l) : Leads d n loc (.name s :: rest) m l
  | follow {n m : Nat} {loc l : Location} {s : Name} {rest : List Segment} {target : Path}
      (hopen : d.IsOpen loc) (hname : s.length ≤ nameLimit)
      (hentry : d.entryAt (loc ++ [s]) = some (.link target))
      (h : Leads d n (startOf target loc) (target.walkSegments ++ rest) m l) :
      Leads d (n + 1) loc (.name s :: rest) m l

variable {d d' : Disk}

theorem Leads.append {n m k : Nat} {loc l l' : Location} {xs ys : List Segment}
    (hx : d.Leads n loc xs m l) (hy : d.Leads m l ys k l') : d.Leads n loc (xs ++ ys) k l' := by
  induction hx with
  | done => exact hy
  | here hopen _ ih => exact .here hopen (ih hy)
  | slash hdir _ ih => exact .slash hdir (ih hy)
  | up hopen _ ih => exact .up hopen (ih hy)
  | enter hopen hname hentry hlink _ ih => exact .enter hopen hname hentry hlink (ih hy)
  | follow hopen hname hentry _ ih =>
    have hrest := ih hy
    rw [List.append_assoc] at hrest
    exact .follow hopen hname hentry hrest

/-- A walk along some segments passes the place to which the first of them lead. -/
theorem Leads.of_append {n k : Nat} {loc l : Location} {xs ys : List Segment}
    (h : d.Leads n loc (xs ++ ys) k l) :
    ∃ m mid, d.Leads n loc xs m mid ∧ d.Leads m mid ys k l := by
  generalize hzs : xs ++ ys = zs at h
  induction h generalizing xs with
  | done n loc =>
    obtain ⟨rfl, rfl⟩ := List.append_eq_nil_iff.mp hzs
    exact ⟨n, loc, .done n loc, .done n loc⟩
  | @here n k loc l rest hopen hrest ih =>
    rcases List.append_eq_cons_iff.mp hzs with ⟨rfl, rfl⟩ | ⟨xs, rfl, rfl⟩
    · exact ⟨n, loc, .done n loc, .here hopen hrest⟩
    · obtain ⟨m, mid, hx, hy⟩ := ih rfl
      exact ⟨m, mid, .here hopen hx, hy⟩
  | @slash n k loc l rest hdir hrest ih =>
    rcases List.append_eq_cons_iff.mp hzs with ⟨rfl, rfl⟩ | ⟨xs, rfl, rfl⟩
    · exact ⟨n, loc, .done n loc, .slash hdir hrest⟩
    · obtain ⟨m, mid, hx, hy⟩ := ih rfl
      exact ⟨m, mid, .slash hdir hx, hy⟩
  | @up n k loc l rest hopen hrest ih =>
    rcases List.append_eq_cons_iff.mp hzs with ⟨rfl, rfl⟩ | ⟨xs, rfl, rfl⟩
    · exact ⟨n, loc, .done n loc, .up hopen hrest⟩
    · obtain ⟨m, mid, hx, hy⟩ := ih rfl
      exact ⟨m, mid, .up hopen hx, hy⟩
  | @enter n k loc l s rest e hopen hname hentry hlink hrest ih =>
    rcases List.append_eq_cons_iff.mp hzs with ⟨rfl, rfl⟩ | ⟨xs, rfl, rfl⟩
    · exact ⟨n, loc, .done n loc, .enter hopen hname hentry hlink hrest⟩
    · obtain ⟨m, mid, hx, hy⟩ := ih rfl
      exact ⟨m, mid, .enter hopen hname hentry hlink hx, hy⟩
  | @follow n k loc l s rest target hopen hname hentry hrest ih =>
    rcases List.append_eq_cons_iff.mp hzs with ⟨rfl, rfl⟩ | ⟨xs, rfl, rfl⟩
    · exact ⟨n + 1, loc, .done (n + 1) loc, .follow hopen hname hentry hrest⟩
    · obtain ⟨m, mid, hx, hy⟩ := ih (List.append_assoc _ _ _)
      exact ⟨m, mid, .follow hopen hname hentry hx, hy⟩

/-- Only a directory can be left again. -/
theorem Leads.eq_of_not_directory {n m : Nat} {loc l : Location} {segments : List Segment}
    (h : d.Leads n loc segments m l) (hdir : d.entryAt loc ≠ some .directory) :
    segments = [] ∧ loc = l := by
  cases h with
  | done => exact ⟨rfl, rfl⟩
  | here hopen => exact absurd hopen.directory hdir
  | slash hd => exact absurd hd hdir
  | up hopen => exact absurd hopen.directory hdir
  | enter hopen => exact absurd hopen.directory hdir
  | follow hopen => exact absurd hopen.directory hdir

theorem Leads.directory_of_ne_nil {n m : Nat} {loc l : Location} {segments : List Segment}
    (h : d.Leads n loc segments m l) (hne : segments ≠ []) : d.entryAt loc = some .directory := by
  apply Decidable.byContradiction
  intro hdir
  exact hne (h.eq_of_not_directory hdir).1

/-- All directories and links of one disk are there on another one, for a process that
stands at the same place and may search the same directories. -/
structure KeepsWays (d d' : Disk) : Prop where
  host : d'.toHost = d.toHost
  ways : ∀ loc e, d.entryAt loc = some e → e.isLeaf = false → d'.entryAt loc = some e

theorem KeepsWays.here_eq (h : d.KeepsWays d') : d'.here = d.here := congrArg Host.here h.host

theorem KeepsWays.directory (h : d.KeepsWays d') {loc : Location}
    (hdir : d.entryAt loc = some .directory) : d'.entryAt loc = some .directory :=
  h.ways loc .directory hdir rfl

theorem KeepsWays.isOpen (h : d.KeepsWays d') {loc : Location} (hopen : d.IsOpen loc) :
    d'.IsOpen loc :=
  ⟨h.directory hopen.directory, by rw [h.host, hopen.search]⟩

theorem KeepsWays.trans {d'' : Disk} (h : d.KeepsWays d') (h' : d'.KeepsWays d'') :
    d.KeepsWays d'' :=
  ⟨h'.host.trans h.host, fun x e he hleaf => h'.ways x e (h.ways x e he hleaf) hleaf⟩

theorem KeepsWays.remove (h : d.KeepsWays d') {l : Location} (hroot : l ≠ []) :
    (d.remove l).KeepsWays (d'.remove l) := by
  refine ⟨h.host, fun x e he hleaf => ?_⟩
  rw [entryAt_remove hroot] at he ⊢
  split at he
  · cases he
  · next hx =>
    rw [if_neg hx]
    exact h.ways x e he hleaf

/-- Where a leaf is on one disk, one is on another. -/
def KeepsLeaves (d d' : Disk) : Prop :=
  ∀ loc e, d.entryAt loc = some e → e.isLeaf = true →
    ∃ e', d'.entryAt loc = some e' ∧ e'.isLeaf = true

/-- Walks remain possible as long as directories and links remain, and a leaf at
the end if there is one. -/
theorem Leads.mono_of_end (hways : d.KeepsWays d') {n m : Nat} {loc l : Location}
    {segments : List Segment} (h : d.Leads n loc segments m l)
    (hend : ∀ e, d.entryAt l = some e → e.isLeaf = true →
      ∃ e', d'.entryAt l = some e' ∧ e'.isLeaf = true) : d'.Leads n loc segments m l := by
  induction h with
  | done => exact .done _ _
  | here hopen _ ih => exact .here (hways.isOpen hopen) (ih hend)
  | slash hdir _ ih => exact .slash (hways.directory hdir) (ih hend)
  | up hopen _ ih => exact .up (hways.isOpen hopen) (ih hend)
  | @enter n m loc l s rest e hopen hname hentry hlink h ih =>
    cases hleaf : e.isLeaf with
    | false =>
      exact .enter (hways.isOpen hopen) hname (hways.ways _ _ hentry hleaf) hlink (ih hend)
    | true =>
      -- A walk that enters a leaf ends there.
      have hdir : d.entryAt (loc ++ [s]) ≠ some .directory := by
        rw [hentry]
        rintro ⟨⟩
        cases hleaf
      obtain ⟨-, rfl⟩ := h.eq_of_not_directory hdir
      obtain ⟨e', he', hleaf'⟩ := hend e hentry hleaf
      refine .enter (hways.isOpen hopen) hname he' ?_ (ih hend)
      rintro target rfl
      cases hleaf'
  | follow hopen hname hentry _ ih =>
    exact .follow (hways.isOpen hopen) hname (hways.ways _ _ hentry rfl) (ih hend)

theorem Leads.mono (hways : d.KeepsWays d') {n m : Nat} {loc l : Location}
    {segments : List Segment} (h : d.Leads n loc segments m l)
    (hl : d.entryAt l = some .directory) : d'.Leads n loc segments m l := by
  apply h.mono_of_end hways
  intro e he hleaf
  rw [hl] at he
  cases he
  cases hleaf

/-- The same segments lead to one place, with the same number of links left. -/
theorem Leads.unique {n m m' : Nat} {loc l l' : Location} {segments : List Segment}
    (h : d.Leads n loc segments m l) (h' : d.Leads n loc segments m' l') : m = m' ∧ l = l' := by
  induction h with
  | done =>
    cases h'
    exact ⟨rfl, rfl⟩
  | here _ _ ih =>
    cases h' with
    | here _ h' => exact ih h'
  | slash _ _ ih =>
    cases h' with
    | slash _ h' => exact ih h'
  | up _ _ ih =>
    cases h' with
    | up _ h' => exact ih h'
  | enter _ _ hentry hlink _ ih =>
    cases h' with
    | enter _ _ _ _ h' => exact ih h'
    | follow _ _ hentry' =>
      rw [hentry] at hentry'
      exact absurd (Option.some.inj hentry') (hlink _)
  | follow _ _ hentry _ ih =>
    cases h' with
    | enter _ _ hentry' hlink =>
      rw [hentry] at hentry'
      exact absurd (Option.some.inj hentry').symm (hlink _)
    | follow _ _ hentry' h' =>
      rw [hentry] at hentry'
      cases hentry'
      exact ih h'

theorem Leads.links_le {n m : Nat} {loc l : Location} {segments : List Segment}
    (h : d.Leads n loc segments m l) : m ≤ n := by
  induction h with
  | done => exact Nat.le_refl _
  | here _ _ ih => exact ih
  | slash _ _ ih => exact ih
  | up _ _ ih => exact ih
  | enter _ _ _ _ _ ih => exact ih
  | follow _ _ _ _ ih => exact Nat.le_succ_of_le ih

theorem Leads.more_links {n m : Nat} {loc l : Location} {segments : List Segment}
    (h : d.Leads n loc segments m l) (k : Nat) : d.Leads (n + k) loc segments (m + k) l := by
  induction h with
  | done => exact .done _ _
  | here hopen _ ih => exact .here hopen ih
  | slash hdir _ ih => exact .slash hdir ih
  | up hopen _ ih => exact .up hopen ih
  | enter hopen hname hentry hlink _ ih => exact .enter hopen hname hentry hlink ih
  | follow hopen hname hentry _ ih =>
    rw [Nat.succ_add]
    exact .follow hopen hname hentry ih

def Stays (segments : List Segment) : Prop :=
  ∀ segment ∈ segments, segment = .here ∨ segment = .slash

theorem Leads.eq_of_stays {n m : Nat} {loc l : Location} {segments : List Segment}
    (h : d.Leads n loc segments m l) (hstays : Stays segments) : n = m ∧ loc = l := by
  induction h with
  | done => exact ⟨rfl, rfl⟩
  | here _ _ ih => exact ih fun x hx => hstays x (List.mem_cons_of_mem _ hx)
  | slash _ _ ih => exact ih fun x hx => hstays x (List.mem_cons_of_mem _ hx)
  | up => simpa using hstays _ List.mem_cons_self
  | enter => simpa using hstays _ List.mem_cons_self
  | follow => simpa using hstays _ List.mem_cons_self

/-! ## Walks and derivations agree -/

theorem walk_enter {followLast : Bool} {n : Nat} {loc : Location} {s : Name} {rest : List Segment}
    {e : Entry} (hopen : d.IsOpen loc) (hname : s.length ≤ nameLimit)
    (hentry : d.entryAt (loc ++ [s]) = some e) (hlink : ∀ target, e ≠ .link target) :
    d.walk followLast n loc (.name s :: rest) = d.walk followLast n (loc ++ [s]) rest := by
  have hbar : d.bar? loc (.name s) = none := (bar?_eq_none_iff (by simp)).mpr hopen
  have hshort : ¬nameLimit < s.length := by omega
  cases e with
  | link target => exact absurd rfl (hlink target)
  | directory => cases n <;> simp [walk, walkWith, hbar, hentry, hshort]
  | file content => cases n <;> simp [walk, walkWith, hbar, hentry, hshort]
  | special given unreadable unwritable =>
    cases n <;> simp [walk, walkWith, hbar, hentry, hshort]

theorem walk_follow {followLast : Bool} {n : Nat} {loc : Location} {s : Name}
    {rest : List Segment} {target : Path} (hopen : d.IsOpen loc) (hname : s.length ≤ nameLimit)
    (hentry : d.entryAt (loc ++ [s]) = some (.link target))
    (hgoes : followLast = true ∨ rest ≠ []) :
    d.walk followLast (n + 1) loc (.name s :: rest) =
      d.walk followLast n (startOf target loc) (target.walkSegments ++ rest) := by
  have hbar : d.bar? loc (.name s) = none := (bar?_eq_none_iff (by simp)).mpr hopen
  have hshort : ¬nameLimit < s.length := by omega
  have hlast : (rest.isEmpty && !followLast) = false := by
    rcases hgoes with rfl | hne
    · simp
    · simp [hne]
  simp [walk, walkWith, hbar, hentry, hshort, hlast]

theorem Leads.walk_append {followLast : Bool} {n m : Nat} {loc l : Location}
    {xs ys : List Segment} (h : d.Leads n loc xs m l) (hgoes : followLast = true ∨ ys ≠ []) :
    d.walk followLast n loc (xs ++ ys) = d.walk followLast m l ys := by
  induction h with
  | done => rfl
  | @here n _ loc _ _ hopen _ ih =>
    have hbar : d.bar? loc .here = none := (bar?_eq_none_iff (by simp)).mpr hopen
    rw [← ih]
    cases n <;> simp [walk, walkWith, hbar]
  | @slash n _ loc _ _ hdir _ ih =>
    have hbar : d.bar? loc .slash = none := bar?_slash_eq_none_iff.mpr hdir
    rw [← ih]
    cases n <;> simp [walk, walkWith, hbar]
  | @up n _ loc _ _ hopen _ ih =>
    have hbar : d.bar? loc .up = none := (bar?_eq_none_iff (by simp)).mpr hopen
    rw [← ih]
    cases n <;> simp [walk, walkWith, hbar]
  | enter hopen hname hentry hlink _ ih =>
    rw [List.cons_append, walk_enter hopen hname hentry hlink, ih]
  | follow hopen hname hentry _ ih =>
    rw [List.cons_append, walk_follow hopen hname hentry (hgoes.imp_right (by simp +contextual)),
      ← List.append_assoc, ih]

theorem walk_nil {followLast : Bool} {n : Nat} {loc : Location} {e : Entry}
    (he : d.entryAt loc = some e) : d.walk followLast n loc [] = .ok (.present loc e) := by
  cases n <;> simp [walk, walkWith, he]

theorem isOpen_of_walk {followLast : Bool} {n : Nat} {loc : Location} {segment : Segment}
    {rest : List Segment} {spot : Spot} (hsegment : segment ≠ .slash)
    (h : d.walk followLast n loc (segment :: rest) = .ok spot) : d.IsOpen loc := by
  rw [← bar?_eq_none_iff hsegment]
  cases hbar : d.bar? loc segment with
  | none => rfl
  | some f => cases n <;> simp [walk, walkWith, hbar] at h

theorem Leads.walk_eq {n m : Nat} {loc l : Location} {segments : List Segment} {e : Entry}
    (h : d.Leads n loc segments m l) (he : d.entryAt l = some e) :
    d.walk true n loc segments = .ok (.present l e) := by
  rw [← List.append_nil segments, h.walk_append (Or.inl rfl), walk_nil he]

/-- A walk without links that ends at an entry, given what the links on it lead
to. -/
theorem leads_of_walkWith {N : Nat} {follow : Location → List Segment → Except Fault Spot}
    (hfollow : ∀ loc segments l e, follow loc segments = .ok (.present l e) →
      ∃ n m, N = n + 1 ∧ d.Leads n loc segments m l ∧ d.entryAt l = some e)
    {loc l : Location} {segments : List Segment} {e : Entry}
    (h : d.walkWith true follow loc segments = .ok (.present l e)) :
    ∃ m, d.Leads N loc segments m l ∧ d.entryAt l = some e := by
  induction segments generalizing loc with
  | nil =>
    rw [walkWith] at h
    split at h
    · next he =>
      cases h
      exact ⟨N, .done N _, he⟩
    · cases h
  | cons segment rest ih =>
    rw [walkWith.eq_def] at h
    dsimp only at h
    split at h
    · cases h
    · next hbar =>
      cases segment with
      | here =>
        obtain ⟨m, hm, he⟩ := ih h
        exact ⟨m, .here ((bar?_eq_none_iff (by simp)).mp hbar) hm, he⟩
      | slash =>
        obtain ⟨m, hm, he⟩ := ih h
        exact ⟨m, .slash (bar?_slash_eq_none_iff.mp hbar) hm, he⟩
      | up =>
        obtain ⟨m, hm, he⟩ := ih h
        exact ⟨m, .up ((bar?_eq_none_iff (by simp)).mp hbar) hm, he⟩
      | name s =>
        have hopen : d.IsOpen loc := (bar?_eq_none_iff (by simp)).mp hbar
        dsimp only at h
        split at h
        · cases h
        · next hshort =>
          have hname : s.length ≤ nameLimit := by omega
          split at h
          · next target hentry =>
            rw [if_neg (by simp)] at h
            obtain ⟨n, m, rfl, hm, he⟩ := hfollow _ _ _ _ h
            exact ⟨m, .follow hopen hname hentry hm, he⟩
          · next entry hlink hentry =>
            obtain ⟨m, hm, he⟩ := ih h
            refine ⟨m, .enter hopen hname hentry ?_ hm, he⟩
            rintro target rfl
            exact hlink target rfl
          · split at h <;> cases h

theorem leads_of_walk {n : Nat} {loc l : Location} {segments : List Segment} {e : Entry}
    (h : d.walk true n loc segments = .ok (.present l e)) :
    ∃ m, d.Leads n loc segments m l ∧ d.entryAt l = some e := by
  induction n generalizing loc segments l e with
  | zero =>
    apply leads_of_walkWith _ h
    intro loc segments l e he
    cases he
  | succ n ih =>
    apply leads_of_walkWith _ h
    intro loc segments l e he
    obtain ⟨m, hm⟩ := ih he
    exact ⟨n, m, rfl, hm⟩

/-! ## Lookups -/

theorem checkPath_eq_ok_iff {p : Path} :
    checkPath p = .ok () ↔ 0 ∉ p.bytes ∧ p.bytes ≠ [] ∧ p.bytes.length ≤ pathLimit := by
  rw [← Nat.not_lt]
  unfold checkPath
  by_cases hzero : 0 ∈ p.bytes
  · simp [hzero]
  · by_cases hempty : p.bytes = []
    · simp [hempty]
    · by_cases hlong : pathLimit < p.bytes.length <;> simp [hzero, hempty, hlong]

theorem lookup_eq_ok_iff {p : Path} {l : Location} {e : Entry} :
    d.lookup p = .ok (l, e) ↔ checkPath p = .ok () ∧
      ∃ m, d.Leads linkLimit (startOf p d.here) p.walkSegments m l ∧ d.entryAt l = some e := by
  unfold lookup locate
  cases hp : checkPath p with
  | error f => simp
  | ok u =>
    constructor
    · intro h
      refine ⟨rfl, leads_of_walk ?_⟩
      cases hw : d.walk true linkLimit (startOf p d.here) p.walkSegments with
      | error f => simp [hw] at h
      | ok spot =>
        cases spot with
        | vacant loc => simp [hw] at h
        | present loc entry =>
          simp only [hw, Except.ok.injEq, Prod.mk.injEq] at h
          rw [h.1, h.2]
    · rintro ⟨-, m, hm, he⟩
      simp [hm.walk_eq he]

theorem entryAt_of_lookup {p : Path} {l : Location} {e : Entry} (h : d.lookup p = .ok (l, e)) :
    d.entryAt l = some e := by
  obtain ⟨-, m, -, he⟩ := lookup_eq_ok_iff.mp h
  exact he

theorem pathExists_eq_true_iff {p : Path} :
    d.pathExists p = true ↔ ∃ found, d.lookup p = .ok found := by
  unfold pathExists
  cases d.lookup p <;> simp

theorem isDirectory_eq_true_iff {p : Path} :
    d.isDirectory p = true ↔ ∃ l, d.lookup p = .ok (l, .directory) := by
  unfold isDirectory
  split
  · next l h => simp [h]
  · next h => simpa using h

theorem readBytes_eq_ok_iff {p : Path} {content : ByteArray} :
    d.readBytes p = .ok content ↔ ∃ l e, d.lookup p = .ok (l, e) ∧ e.read = .ok content := by
  unfold readBytes
  split
  · next l e h => simp [h, and_assoc]
  · next f h => simp [h]

/-- A path goes on to lead to the same place as long as directories, links and leaves
remain. -/
theorem lookup_mono (hways : d.KeepsWays d') (hleaves : d.KeepsLeaves d') {p : Path}
    {l : Location} {e : Entry} (h : d.lookup p = .ok (l, e)) :
    ∃ e', d'.lookup p = .ok (l, e') ∧ d'.entryAt l = some e' := by
  obtain ⟨hp, m, hm, he⟩ := lookup_eq_ok_iff.mp h
  obtain ⟨e', he'⟩ : ∃ e', d'.entryAt l = some e' := by
    cases hleaf : e.isLeaf with
    | true =>
      obtain ⟨e', he', -⟩ := hleaves l e he hleaf
      exact ⟨e', he'⟩
    | false => exact ⟨e, hways.ways l e he hleaf⟩
  refine ⟨e', lookup_eq_ok_iff.mpr ⟨hp, m, ?_, he'⟩, he'⟩
  rw [hways.here_eq]
  exact hm.mono_of_end hways (hleaves l)

theorem lookup_directory_mono (hways : d.KeepsWays d') {p : Path} {l : Location}
    (h : d.lookup p = .ok (l, .directory)) : d'.lookup p = .ok (l, .directory) := by
  obtain ⟨hp, m, hm, he⟩ := lookup_eq_ok_iff.mp h
  apply lookup_eq_ok_iff.mpr
  rw [hways.here_eq]
  exact ⟨hp, m, hm.mono hways he, hways.directory he⟩

/-! ## Directories of paths -/

theorem slash_notMem_segments (p : Path) : .slash ∉ p.segments := by
  intro h
  obtain ⟨part, -, hpart⟩ := List.mem_map.mp h
  unfold Segment.ofPart at hpart
  split at hpart
  · cases hpart
  · split at hpart <;> cases hpart

theorem parentOf_eq_some_iff {p : Path} {loc : Location} {last : Segment} :
    d.parentOf p = .ok (some (loc, last)) ↔ checkPath p = .ok () ∧ ∃ before m,
      p.segments = before ++ [last] ∧ d.Leads linkLimit (startOf p d.here) before m loc ∧
      d.IsOpen loc := by
  unfold parentOf
  cases hp : checkPath p with
  | error f => simp
  | ok u =>
    cases hs : p.segments.reverse with
    | nil =>
      have hs : p.segments = [] := List.reverse_eq_nil_iff.mp hs
      simp [hs]
    | cons final before =>
      have hs : p.segments = before.reverse ++ [final] := by
        rw [← List.reverse_reverse p.segments, hs, List.reverse_cons]
      have hfinal : final ≠ .slash := by
        rintro rfl
        exact slash_notMem_segments p (by simp [hs])
      constructor
      · intro h
        dsimp only at h
        split at h
        · cases h
        · cases h
        · next hw =>
          split at h
          · cases h
          · next hbar =>
            cases h
            obtain ⟨m, hm, -⟩ := leads_of_walk hw
            exact ⟨rfl, before.reverse, m, hs, hm, (bar?_eq_none_iff hfinal).mp hbar⟩
      · rintro ⟨-, before', m, hs', hm, hopen⟩
        obtain ⟨rfl, hlast⟩ := List.append_inj' (hs.symm.trans hs') rfl
        cases hlast
        simp [hm.walk_eq hopen.directory, (bar?_eq_none_iff hfinal).mpr hopen]

end Disk
end Storyboard.Files
