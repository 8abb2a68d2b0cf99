import Mathlib.Data.List.Nodup
import Mathlib.Data.Nat.Find
import Storyboard.Proofs.JoinedPaths
import Storyboard.Proofs.PrintedTokens
import Storyboard.Proofs.Publishing
import Storyboard.Proofs.ShownBytes

/-! # Staged names

Different numbers give different staged names, and a disk has finitely many entries; so one
of the first numbers is free. A file is staged under the first free name, and it is so
exactly if this name and those in front of it can be asked for and the directory takes a
new entry.
-/
namespace Storyboard

theorem Text.numeral_zeros (k : Nat) (ds : List Char) :
    numeral (List.replicate k '0' ++ ds) = numeral ds := by
  induction k with
  | zero => rfl
  | succ k ih => simpa [numeral, List.replicate_succ, digitValue] using ih

namespace Files

/-! ## Names -/

theorem toList_sixDigits (n : Nat) :
    ∃ k, (sixDigits n).toList = List.replicate k '0' ++ Text.decimal n := by
  refine ⟨6 - (toString n).length, ?_⟩
  rw [sixDigits, String.toList_append, String.toList_ofList]
  rfl

theorem sixDigits_inj {m n : Nat} (h : sixDigits m = sixDigits n) : m = n := by
  obtain ⟨i, hi⟩ := toList_sixDigits m
  obtain ⟨k, hk⟩ := toList_sixDigits n
  have hvalue := congrArg (Text.numeral ∘ String.toList) h
  simpa only [Function.comp_apply, hi, hk, Text.numeral_zeros, Text.numeral_decimal] using hvalue

theorem stagedName_inj {stem : Name} {m n : Nat} (h : stagedName stem m = stagedName stem n) :
    m = n := by
  apply sixDigits_inj
  apply Text.utf8_inj
  simpa [stagedName] using h

theorem slash_notMem_sixDigits (n : Nat) : slash ∉ Text.utf8 (sixDigits n) := by
  rw [slash, Text.slash_mem_utf8_iff]
  obtain ⟨k, hk⟩ := toList_sixDigits n
  rw [hk, List.mem_append, not_or]
  refine ⟨fun hzero => ?_, fun hdecimal => ?_⟩
  · exact absurd (List.eq_of_mem_replicate hzero) (by decide)
  · exact absurd (Text.isDigit_of_mem_decimal hdecimal) (by decide)

theorem slash_notMem_stagedName {stem : Name} (h : slash ∉ stem) (n : Nat) :
    slash ∉ stagedName stem n := by
  have htail : slash ∉ Text.utf8 ".tmp" := by decide
  simp [stagedName, h, htail, slash_notMem_sixDigits, Path.slash_ne_dot]

theorem proper_stagedName {stem : Name} (h : slash ∉ stem) (n : Nat) :
    (Segment.name (stagedName stem n)).Proper := by
  have hlength : 5 ≤ (stagedName stem n).length := by
    have htail : (Text.utf8 ".tmp").length = 4 := by decide
    simp [stagedName, htail]
    omega
  have hne : ∀ s : Name, s.length < 5 → stagedName stem n ≠ s := by
    rintro s hs rfl
    omega
  refine ⟨hne [] (by decide), slash_notMem_stagedName h n, ?_⟩
  change Segment.ofPart (stagedName stem n) = _
  rw [Segment.ofPart, if_neg (hne _ (by decide)), if_neg (hne _ (by decide))]

theorem isText_stagedName (stem : String) (n : Nat) :
    Text.isText (stagedName (Text.utf8 stem) n) = true := by
  have hdot : Text.utf8 "." = [dot] := by decide
  have htext : stagedName (Text.utf8 stem) n =
      Text.utf8 ("." ++ stem ++ "." ++ sixDigits n ++ ".tmp") := by
    simp [Text.utf8_append, stagedName, hdot]
  rw [htext, Text.isText_utf8]

theorem stagedName_ne (s : Name) (n : Nat) : stagedName (stemOf (some s)) n ≠ s := by
  intro h
  cases htext : Text.isText s with
  | true =>
    have hstem : stemOf (some s) = s := by simp [stemOf, Option.filter, htext]
    rw [hstem] at h
    have hlength := congrArg List.length h
    simp [stagedName] at hlength
    omega
  | false =>
    have hstem : stemOf (some s) = Text.utf8 "staged" := by simp [stemOf, Option.filter, htext]
    rw [hstem] at h
    rw [← h, isText_stagedName] at htext
    cases htext

theorem slash_notMem_stemOf {name : Option Name} (h : ∀ s, name = some s → slash ∉ s) :
    slash ∉ stemOf name := by
  unfold stemOf
  cases hstem : name.filter Text.isText with
  | none => decide
  | some s => exact h s (Option.eq_some_of_filter_eq_some hstem)

theorem Path.slash_notMem_of_fileName? {p : Path} {name : Name} (h : p.fileName? = some name) :
    slash ∉ name := by
  unfold fileName? at h
  split at h
  · next rest hparts =>
    split at h
    · cases h
    · cases h
      have hmem : name ∈ p.backParts := by simp [hparts]
      have hsplit := List.mem_reverse.mp ((List.dropWhile_suffix _).mem hmem)
      exact Text.mark_notMem_of_mem_split hsplit
  · cases h

theorem Path.slash_notMem_stem (p : Path) : slash ∉ stemOf p.fileName? :=
  slash_notMem_stemOf fun _ => slash_notMem_of_fileName?

namespace Disk

variable {d d' : Disk} {parent : Path} {stem : Name}

theorem isAbsolute_stagedPath (d : Disk) (parent : Path) (stem : Name) (n : Nat) :
    (d.stagedPath parent stem n).isAbsolute = true :=
  Path.isAbsolute_join (Path.isAbsolute_join d.here.isAbsolute_toPath parent) _

theorem segments_stagedPath (h : slash ∉ stem) (n : Nat) :
    (d.stagedPath parent stem n).segments =
      (d.here.toPath.join parent).segments ++ [.name (stagedName stem n)] :=
  Path.segments_join_segment (Path.isAbsolute_join d.here.isAbsolute_toPath parent)
    (proper_stagedName h n)

theorem endsInSlash_stagedPath (h : slash ∉ stem) (n : Nat) :
    (d.stagedPath parent stem n).endsInSlash = false :=
  Path.endsInSlash_join_segment (Path.isAbsolute_join d.here.isAbsolute_toPath parent)
    (proper_stagedName h n)

/-- A path leads to a directory from the root, behind the working directory. -/
def Reaches (d : Disk) (parent : Path) (loc : Location) : Prop :=
  d.IsOpen loc ∧ ∃ m, d.Leads linkLimit [] (d.here.toPath.join parent).segments m loc

theorem Reaches.unique {loc loc' : Location} (h : d.Reaches parent loc)
    (h' : d.Reaches parent loc') : loc = loc' := by
  obtain ⟨-, m, hleads⟩ := h
  obtain ⟨-, m', hleads'⟩ := h'
  exact (hleads.unique hleads').2

theorem Reaches.mono (hways : d.KeepsWays d') {loc : Location} (h : d.Reaches parent loc) :
    d'.Reaches parent loc := by
  obtain ⟨hopen, m, hleads⟩ := h
  refine ⟨hways.isOpen hopen, m, ?_⟩
  rw [hways.here_eq]
  exact hleads.mono hways hopen.directory

/-- Neither a staged name nor its path is too long. -/
def CanStage (d : Disk) (parent : Path) (stem : Name) (n : Nat) : Prop :=
  (stagedName stem n).length ≤ nameLimit ∧ checkPath (d.stagedPath parent stem n) = .ok ()

instance (d : Disk) (parent : Path) (stem : Name) (n : Nat) :
    Decidable (d.CanStage parent stem n) :=
  inferInstanceAs (Decidable (_ ∧ _))

theorem names_stagedPath_iff (hstem : slash ∉ stem) {n : Nat} {loc : Location} {t : Name} :
    d.Names (d.stagedPath parent stem n) loc t ↔
      t = stagedName stem n ∧ d.CanStage parent stem n ∧ d.Reaches parent loc := by
  have hstart : startOf (d.stagedPath parent stem n) d.here = [] :=
    if_pos (d.isAbsolute_stagedPath parent stem n)
  have hsegments : (d.stagedPath parent stem n).segments = _ := segments_stagedPath hstem n
  constructor
  · rintro ⟨hparent, hshort⟩
    obtain ⟨hcheck, before, m, hsplit, hleads, hopen⟩ := parentOf_eq_some_iff.mp hparent
    obtain ⟨rfl, hlast⟩ := List.append_inj' (hsplit.symm.trans hsegments) rfl
    cases hlast
    rw [hstart] at hleads
    exact ⟨rfl, ⟨hshort, hcheck⟩, hopen, m, hleads⟩
  · rintro ⟨rfl, ⟨hshort, hcheck⟩, hopen, m, hleads⟩
    rw [← hstart] at hleads
    exact ⟨parentOf_eq_some_iff.mpr ⟨hcheck, _, m, hsegments, hleads, hopen⟩, hshort⟩

/-! ## Taken names -/

theorem bar?_ne_alreadyExists (loc : Location) (segment : Segment) :
    d.bar? loc segment ≠ some .alreadyExists := by
  unfold bar?
  split
  · simp
  · split <;> simp
  · simp

theorem walkWith_ne_alreadyExists {follow : Location → List Segment → Except Fault Spot}
    (hfollow : ∀ loc segments, follow loc segments ≠ .error .alreadyExists) (b : Bool)
    (loc : Location) (segments : List Segment) :
    d.walkWith b follow loc segments ≠ .error .alreadyExists := by
  induction segments generalizing loc with
  | nil =>
    rw [walkWith]
    split <;> simp
  | cons segment rest ih =>
    rw [walkWith.eq_def]
    dsimp only
    split
    · next f hbar =>
      rintro ⟨⟩
      exact bar?_ne_alreadyExists loc segment hbar
    · cases segment with
      | here => exact ih loc
      | slash => exact ih loc
      | up => exact ih _
      | name s =>
        dsimp only
        split
        · simp
        · split
          · split
            · simp
            · exact hfollow _ _
          · exact ih _
          · split <;> simp

theorem walk_ne_alreadyExists (b : Bool) (n : Nat) (loc : Location) (segments : List Segment) :
    d.walk b n loc segments ≠ .error .alreadyExists := by
  induction n generalizing loc segments with
  | zero => exact walkWith_ne_alreadyExists (by simp) b loc segments
  | succ n ih => exact walkWith_ne_alreadyExists ih b loc segments

theorem checkPath_ne_alreadyExists (p : Path) : checkPath p ≠ .error .alreadyExists := by
  unfold checkPath
  split
  · simp
  · split
    · simp
    · split <;> simp

theorem parentOf_ne_alreadyExists (p : Path) : d.parentOf p ≠ .error .alreadyExists := by
  unfold parentOf
  split
  · next f hcheck =>
    rintro ⟨⟩
    exact checkPath_ne_alreadyExists p hcheck
  · split
    · simp
    · split
      · next f hwalk =>
        rintro ⟨⟩
        exact walk_ne_alreadyExists _ _ _ _ hwalk
      · simp
      · split
        · next f hbar =>
          rintro ⟨⟩
          exact bar?_ne_alreadyExists _ _ hbar
        · simp

theorem addEntry_eq_alreadyExists_iff {loc : Location} {s : Name} {e : Entry} :
    d.addEntry loc s e = .error .alreadyExists ↔
      s.length ≤ nameLimit ∧ d.entryAt (loc ++ [s]) ≠ none := by
  unfold addEntry
  by_cases hs : nameLimit < s.length
  · simp [hs, Nat.not_le.mpr hs]
  · rw [if_neg hs]
    cases d.entryAt (loc ++ [s]) with
    | some entry => simp [Nat.not_lt.mp hs]
    | none => cases d.add loc <;> simp

/-- A file is only refused for what is there if there is something. -/
theorem createFile_eq_alreadyExists_iff {p : Path} :
    d.createFile p = .error .alreadyExists ↔ p.endsInSlash = false ∧
      ∃ loc s, d.Names p loc s ∧ d.entryAt (loc ++ [s]) ≠ none := by
  constructor
  · intro h
    unfold createFile at h
    split at h
    · next f hparent =>
      cases h
      exact absurd hparent (parentOf_ne_alreadyExists p)
    · next loc s hparent =>
      split at h
      · cases h
      · next hslash =>
        split at h
        · next f hadd =>
          cases h
          obtain ⟨hshort, hentry⟩ := addEntry_eq_alreadyExists_iff.mp hadd
          exact ⟨Bool.eq_false_iff.mpr hslash, loc, s, ⟨hparent, hshort⟩, hentry⟩
        · cases h
    · cases h
  · rintro ⟨hslash, loc, s, ⟨hparent, hshort⟩, hentry⟩
    have hadd : d.addEntry loc s (.file ByteArray.empty) = .error .alreadyExists :=
      addEntry_eq_alreadyExists_iff.mpr ⟨hshort, hentry⟩
    simp [createFile, hparent, hslash, hadd]

/-! ## The first free name -/

/-- The staged names in a directory are taken up to that of some number, which is free. -/
structure FreeNumber (d : Disk) (loc : Location) (stem : Name) (n : Nat) : Prop where
  taken : ∀ k < n, d.entryAt (loc ++ [stagedName stem k]) ≠ none
  free : d.entryAt (loc ++ [stagedName stem n]) = none

theorem FreeNumber.unique {loc : Location} {m n : Nat} (hm : d.FreeNumber loc stem m)
    (hn : d.FreeNumber loc stem n) : m = n := by
  rcases Nat.lt_trichotomy m n with hlt | heq | hlt
  · exact absurd hm.free (hn.taken m hlt)
  · exact heq
  · exact absurd hn.free (hm.taken n hlt)

/-- There are no more taken names than entries. -/
theorem le_length_of_taken {loc : Location} {n : Nat}
    (h : ∀ k < n, d.entryAt (loc ++ [stagedName stem k]) ≠ none) : n ≤ d.entries.length := by
  have hsubset : (List.range n).map (fun k => loc ++ [stagedName stem k]) ⊆
      d.entries.map Prod.fst := by
    intro place hplace
    obtain ⟨k, hk, rfl⟩ := List.mem_map.mp hplace
    obtain ⟨e, he⟩ := Option.ne_none_iff_exists'.mp (h k (List.mem_range.mp hk))
    exact List.mem_map.mpr ⟨_, mem_entries_of_entryAt (by simp) he, rfl⟩
  have hnodup : ((List.range n).map fun k => loc ++ [stagedName stem k]).Nodup := by
    apply List.Nodup.map _ List.nodup_range
    intro j k heq
    exact stagedName_inj (List.singleton_inj.mp (List.append_cancel_left heq))
  simpa using hnodup.length_le_of_subset hsubset

theorem exists_freeNumber (d : Disk) (loc : Location) (stem : Name) :
    ∃ n, d.FreeNumber loc stem n := by
  have hfree : ∃ n, d.entryAt (loc ++ [stagedName stem n]) = none := by
    by_contra hall
    push Not at hall
    exact Nat.not_succ_le_self _ (le_length_of_taken fun k _ => hall k)
  exact ⟨Nat.find hfree, fun k hk => Nat.find_min hfree hk, Nat.find_spec hfree⟩

/-! ## Attempts -/

/-- An attempt is the first one whose name is not taken. -/
def FirstFree (d : Disk) (parent : Path) (stem : Name) (n : Nat) : Prop :=
  d.createFile (d.stagedPath parent stem n) ≠ .error .alreadyExists ∧
    ∀ k < n, d.createFile (d.stagedPath parent stem k) = .error .alreadyExists

theorem FirstFree.unique {m n : Nat} (hm : d.FirstFree parent stem m)
    (hn : d.FirstFree parent stem n) : m = n := by
  rcases Nat.lt_trichotomy m n with hlt | heq | hlt
  · exact absurd (hn.2 m hlt) hm.1
  · exact heq
  · exact absurd (hm.2 n hlt) hn.1

theorem exists_reaches_of_alreadyExists (hstem : slash ∉ stem) {n : Nat}
    (h : d.createFile (d.stagedPath parent stem n) = .error .alreadyExists) :
    ∃ loc, d.Reaches parent loc ∧ d.CanStage parent stem n ∧
      d.entryAt (loc ++ [stagedName stem n]) ≠ none := by
  obtain ⟨-, loc, t, hnames, hentry⟩ := createFile_eq_alreadyExists_iff.mp h
  obtain ⟨rfl, hcan, hreaches⟩ := (names_stagedPath_iff hstem).mp hnames
  exact ⟨loc, hreaches, hcan, hentry⟩

theorem le_length_of_alreadyExists (hstem : slash ∉ stem) {n : Nat}
    (h : ∀ k < n, d.createFile (d.stagedPath parent stem k) = .error .alreadyExists) :
    n ≤ d.entries.length := by
  cases n with
  | zero => exact Nat.zero_le _
  | succ n =>
    obtain ⟨loc, hreaches, -⟩ := exists_reaches_of_alreadyExists hstem (h 0 (Nat.succ_pos n))
    have htaken : ∀ k < n + 1, d.entryAt (loc ++ [stagedName stem k]) ≠ none := by
      intro k hk
      obtain ⟨loc', hreaches', -, hentry⟩ := exists_reaches_of_alreadyExists hstem (h k hk)
      rwa [hreaches'.unique hreaches] at hentry
    exact le_length_of_taken htaken

/-- Staging is the first attempt whose name is not taken. There is one, since there are no
more taken names than entries. -/
theorem exists_stage_eq (d : Disk) (parent : Path) (hstem : slash ∉ stem) :
    ∃ n, d.FirstFree parent stem n ∧ d.stage parent stem =
      (d.createFile (d.stagedPath parent stem n)).map
        fun r => (r.1, r.2, d.stagedPath parent stem n) := by
  unfold stage
  dsimp only
  cases hfound : (List.range (d.entries.length + 1)).findSome? _ with
  | none =>
    have hall := List.findSome?_eq_none_iff.mp hfound
    have htaken : ∀ k < d.entries.length + 1,
        d.createFile (d.stagedPath parent stem k) = .error .alreadyExists := by
      intro k hk
      have hnone := hall k (List.mem_range.mpr hk)
      split at hnone
      · next htaken => exact htaken
      · cases hnone
      · cases hnone
    exact absurd (le_length_of_alreadyExists hstem htaken) (Nat.not_succ_le_self _)
  | some result =>
    obtain ⟨n, -, hn, hbefore⟩ := List.findSome?_range_eq_some_iff.mp hfound
    refine ⟨n, ⟨fun htaken => ?_, fun k hk => ?_⟩, ?_⟩
    · simp [htaken] at hn
    · have hnone := hbefore k hk
      split at hnone
      · next htaken => exact htaken
      · cases hnone
      · cases hnone
    · rw [Option.getD_some]
      split at hn
      · cases hn
      · next f _ hfailed =>
        cases hn
        rw [hfailed]
        rfl
      · next hcreated =>
        cases hn
        rw [hcreated]
        rfl

/-- A staged name is found in a directory: it is free, and it and those in front of it can be
asked for. -/
structure Stages (d : Disk) (parent : Path) (stem : Name) (loc : Location) (n : Nat) : Prop where
  reaches : d.Reaches parent loc
  can : ∀ k ≤ n, d.CanStage parent stem k
  number : d.FreeNumber loc stem n

theorem Stages.names {loc : Location} {n : Nat} (h : d.Stages parent stem loc n)
    (hstem : slash ∉ stem) {k : Nat} (hk : k ≤ n) :
    d.Names (d.stagedPath parent stem k) loc (stagedName stem k) :=
  (names_stagedPath_iff hstem).mpr ⟨rfl, h.can k hk, h.reaches⟩

theorem Stages.firstFree {loc : Location} {n : Nat} (h : d.Stages parent stem loc n)
    (hstem : slash ∉ stem) : d.FirstFree parent stem n := by
  refine ⟨fun hexists => ?_, fun k hk => ?_⟩
  · obtain ⟨loc', hreaches, -, hentry⟩ := exists_reaches_of_alreadyExists hstem hexists
    rw [hreaches.unique h.reaches] at hentry
    exact hentry h.number.free
  · exact createFile_eq_alreadyExists_iff.mpr ⟨endsInSlash_stagedPath hstem k, loc, _,
      h.names hstem (Nat.le_of_lt hk), h.number.taken k hk⟩

theorem FirstFree.stages {loc : Location} {n : Nat} (h : d.FirstFree parent stem n)
    (hstem : slash ∉ stem) (hreaches : d.Reaches parent loc) (hcan : d.CanStage parent stem n)
    (hvacant : d.entryAt (loc ++ [stagedName stem n]) = none) : d.Stages parent stem loc n := by
  have htaken : ∀ k < n, d.CanStage parent stem k ∧
      d.entryAt (loc ++ [stagedName stem k]) ≠ none := by
    intro k hk
    obtain ⟨loc', hreaches', hcan', hentry⟩ := exists_reaches_of_alreadyExists hstem (h.2 k hk)
    rw [hreaches'.unique hreaches] at hentry
    exact ⟨hcan', hentry⟩
  refine ⟨hreaches, fun k hk => ?_, fun k hk => (htaken k hk).2, hvacant⟩
  rcases Nat.lt_or_eq_of_le hk with hlt | rfl
  · exact (htaken k hlt).1
  · exact hcan

/-- A file is staged under the first name that is free, if the directory takes it. -/
theorem stage_eq_ok_iff (hstem : slash ∉ stem) {source : Location} {staged : Path} :
    d.stage parent stem = .ok (d', source, staged) ↔
      ∃ loc n, d.Stages parent stem loc n ∧ d.add loc = none ∧
        source = loc ++ [stagedName stem n] ∧ staged = d.stagedPath parent stem n ∧
        d' = d.put source (.file ByteArray.empty) := by
  obtain ⟨m, hfirst, hstage⟩ := d.exists_stage_eq parent hstem
  rw [hstage]
  constructor
  · intro h
    cases hcreated : d.createFile (d.stagedPath parent stem m) with
    | error f =>
      rw [hcreated] at h
      cases h
    | ok r =>
      rw [hcreated] at h
      cases h
      obtain ⟨-, loc, s, hnames, hsource, hvacant, hadd, hdisk⟩ :=
        createFile_eq_ok_iff.mp hcreated
      obtain ⟨rfl, hcan, hreaches⟩ := (names_stagedPath_iff hstem).mp hnames
      rw [hsource] at hvacant
      exact ⟨loc, m, hfirst.stages hstem hreaches hcan hvacant, hadd, hsource, rfl, hdisk⟩
  · rintro ⟨loc, n, hstages, hadd, rfl, rfl, rfl⟩
    obtain rfl := hfirst.unique (hstages.firstFree hstem)
    have hcreated : d.createFile (d.stagedPath parent stem m) = .ok (_, _) :=
      createFile_eq_ok_iff.mpr ⟨endsInSlash_stagedPath hstem m, loc, _,
        hstages.names hstem (Nat.le_refl m), rfl, hstages.number.free, hadd, rfl⟩
    rw [hcreated]
    rfl

end Disk
end Files
end Storyboard
