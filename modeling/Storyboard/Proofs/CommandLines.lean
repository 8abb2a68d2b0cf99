import Storyboard.Arguments
import Storyboard.Proofs.Lists

/-! # The grammar of command lines

A command line is a row of groups in any order. A group gives a value to a flag, as one
argument with an equals sign or as two arguments. Reading looks at an argument before it
knows what it is for, and checks a value only when the next flag begins. All the same it
accepts exactly the command lines, and what it reads are the values of the groups.
-/
namespace Storyboard

open Files (Name Path)

namespace Flag

def option : Flag → String
  | .outputXml => "--output-xml"
  | .outputDir => "--output-dir"
  | .artifactsJson => "--artifacts-json"
  | .suiteId => "--suite-id"
  | .videoPath => "--video-path"
  | .manifestPath => "--manifest-path"

def paths : List Flag := [.outputXml, .outputDir, .artifactsJson, .manifestPath]

theorem needsText_iff {f : Flag} : f.needsText = true ↔ f ∈ paths := by
  cases f <;> decide

theorem ofName?_eq_some_iff {name : String} {f : Flag} : ofName? name = some f ↔ f.name = name := by
  constructor
  · intro h
    simpa using List.find?_some h
  · rintro rfl
    cases f <;> rfl

theorem toList_option (f : Flag) : f.option.toList = '-' :: '-' :: f.name.toList := by
  cases f <;> rfl

theorem equals_notMem_name (f : Flag) : '=' ∉ f.name.toList := by
  cases f <;> decide

end Flag

namespace Arguments

/-- The bytes that were given to a flag. -/
def value? (a : Arguments) : Flag → Option Name
  | .outputXml => some a.outputXml.bytes
  | .outputDir => some a.outputDir.bytes
  | .artifactsJson => some a.artifactsJson.bytes
  | .suiteId => a.suiteId.map Text.utf8
  | .videoPath => a.videoPath.map Text.utf8
  | .manifestPath => a.manifestPath.map Path.bytes

/-- A text is a hyphen alone or does not start with one. -/
def StandsAlone (s : String) : Prop := s = "-" ∨ s.toList.head? ≠ some '-'

instance (s : String) : Decidable (StandsAlone s) := by
  unfold StandsAlone
  infer_instance

/-- A flag with its value. The value is attached with an equals sign, or it is an argument of
its own and cannot be taken for a flag. -/
structure Group where
  flag : Flag
  value : String
  attached : Bool
  hasText : flag ∈ Flag.paths → value ≠ "" := by decide
  standsAlone : attached = false → StandsAlone value := by decide

namespace Group

def arguments (g : Group) : List String :=
  if g.attached then [g.flag.option ++ "=" ++ g.value] else [g.flag.option, g.value]

def entry (g : Group) : Flag × String := (g.flag, g.value)

end Group

/-- Groups of different flags, the required ones among them. Two hyphens may close the row. -/
structure CommandLine where
  groups : List Group
  closed : Bool
  distinct : (groups.map Group.flag).Nodup := by decide
  complete : ∀ f ∈ Flag.required, f ∈ groups.map Group.flag := by decide

def spelled (groups : List Group) (closed : Bool) : List String :=
  groups.flatMap Group.arguments ++ if closed then ["--"] else []

def CommandLine.arguments (c : CommandLine) : List String := spelled c.groups c.closed

/-! ## What an argument looks like -/

section

variable {s name : String}

theorem shape_option (f : Flag) : shape f.option = .long f.name none := by
  cases f <;> rfl

theorem shape_attached (f : Flag) (value : String) :
    shape (f.option ++ "=" ++ value) = .long f.name (some value) := by
  have hlist : (f.option ++ "=" ++ value).toList =
      '-' :: '-' :: (f.name.toList ++ '=' :: value.toList) := by
    simp [String.toList_append, Flag.toList_option]
  have hcut := Text.cut_append f.equals_notMem_name value.toList
  obtain ⟨c, cs, hrest⟩ := List.exists_cons_of_ne_nil
    (l := f.name.toList ++ '=' :: value.toList) (by simp)
  rw [hrest] at hlist hcut
  simp [shape, hlist, hcut]

theorem not_standsAlone {c : Char} {cs : List Char} (h : s.toList = '-' :: c :: cs) :
    ¬StandsAlone s := by
  rintro (rfl | hhead)
  · simp at h
  · simp [h] at hhead

theorem shape_cases (s : String) :
    s = "--" ∧ shape s = .escape ∨
      (∃ name value,
        s.toList = '-' :: '-' :: (name.toList ++ value.elim [] fun v => '=' :: v.toList) ∧
        shape s = .long name value) ∨
      (∃ c cs, s.toList = '-' :: c :: cs ∧ shape s = .short (c :: cs)) ∨
      StandsAlone s ∧ shape s = .plain := by
  unfold shape
  split
  · next hlist => exact Or.inl ⟨String.toList_inj.mp hlist, rfl⟩
  · next rest _ hlist =>
    refine Or.inr (Or.inl ?_)
    split
    · next before after hcut =>
      refine ⟨_, _, ?_, rfl⟩
      simp [hlist, Text.eq_of_cut hcut]
    · refine ⟨_, _, ?_, rfl⟩
      simp [hlist]
  · next c cs _ _ hlist => exact Or.inr (Or.inr (Or.inl ⟨c, cs, hlist, rfl⟩))
  · next hother =>
    refine Or.inr (Or.inr (Or.inr ⟨?_, rfl⟩))
    cases hlist : s.toList with
    | nil => exact Or.inr (by simp [hlist])
    | cons c cs =>
      by_cases hc : c = '-'
      · subst hc
        cases cs with
        | nil => exact Or.inl (String.toList_inj.mp hlist)
        | cons c cs => exact absurd hlist (hother c cs)
      · exact Or.inr (by simp [hlist, hc])

theorem shape_of_standsAlone (h : StandsAlone s) : shape s = .plain := by
  rcases shape_cases s with ⟨rfl, -⟩ | ⟨name, value, hlist, -⟩ | ⟨c, cs, hlist, -⟩ | ⟨-, hplain⟩
  · exact absurd h (by decide)
  · exact absurd h (not_standsAlone hlist)
  · exact absurd h (not_standsAlone hlist)
  · exact hplain

end

/-! ## One argument -/

/-- A flag is not among those that have a value yet, and a path that is given to it has a
text. -/
def Admits (settled : List (Flag × String)) (f : Flag) (v : String) : Prop :=
  f ∉ settled.map Prod.fst ∧ (f ∈ Flag.paths → v ≠ "")

namespace Reading

variable {r r' : Reading} {f : Flag} {v : String}

theorem settle_eq_ok_iff :
    r.settle f v = .ok r' ↔ Admits r.settled f v ∧ r' = ⟨r.settled ++ [(f, v)], none⟩ := by
  have hrepeated : (r.settled.lookup f).isSome = true ↔ f ∈ r.settled.map Prod.fst := by
    rw [Option.isSome_iff_ne_none, Ne, List.lookup_eq_none_iff_notMem, not_not]
  have hempty : (f.needsText && v.isEmpty) = true ↔ f ∈ Flag.paths ∧ v = "" := by
    simp [Flag.needsText_iff]
  unfold settle
  split
  · next h =>
    have hnot : ¬Admits r.settled f v := fun hadmits => hadmits.1 (hrepeated.mp h)
    simp [hnot]
  · next h =>
    split
    · next h' =>
      obtain ⟨hpath, htext⟩ := hempty.mp h'
      have hnot : ¬Admits r.settled f v := fun hadmits => hadmits.2 hpath htext
      simp [hnot]
    · next h' =>
      rw [hrepeated] at h
      rw [hempty, not_and] at h'
      have hadmits : Admits r.settled f v := ⟨h, h'⟩
      simp [hadmits, eq_comm]

theorem long_eq_ok_iff {name : String} {value : Option String} :
    r.long name value = .ok r' ↔ ∃ f r₁, f.name = name ∧ r.flush = .ok r₁ ∧
      (value = none ∧ r' = ⟨r₁.settled, some (f, none)⟩ ∨
        ∃ v, value = some v ∧ r₁.settle f v = .ok r') := by
  constructor
  · intro h
    unfold long at h
    split at h
    · next f hf =>
      cases hflush : r.flush with
      | error e => simp [hflush, bind, Except.bind] at h
      | ok r₁ =>
        refine ⟨f, r₁, Flag.ofName?_eq_some_iff.mp hf, rfl, ?_⟩
        cases value with
        | none =>
          left
          simpa [hflush, bind, Except.bind, eq_comm] using h
        | some v =>
          right
          simpa [hflush, bind, Except.bind] using h
    · split at h
      · cases h
      · cases hflush : r.flush <;> simp [hflush, bind, Except.bind] at h
      · cases h
  · rintro ⟨f, r₁, rfl, hflush, ⟨rfl, rfl⟩ | ⟨v, rfl, hsettle⟩⟩
    · simp [long, Flag.ofName?_eq_some_iff.mpr rfl, hflush, bind, Except.bind]
    · simp [long, Flag.ofName?_eq_some_iff.mpr rfl, hflush, hsettle, bind, Except.bind]

theorem short_ne_ok (c : Char) (cs : List Char) : r.short (c :: cs) ≠ .ok r' := by
  simp only [short]
  split
  · cases hflush : r.flush <;> simp [bind, Except.bind]
  · simp

theorem plain_eq_ok_iff {s : String} :
    r.plain s = .ok r' ↔ ∃ f, r.pending = some (f, none) ∧ r' = ⟨r.settled, some (f, some s)⟩ := by
  unfold plain
  split
  · next f hdue => simp [hdue, eq_comm]
  · next hdue =>
    constructor
    · intro h
      cases h
    · rintro ⟨f, hf, -⟩
      exact absurd hf (hdue f)

end Reading

section

variable {r r' : Reading} {argument : String} {rest : List String}

/-- The ways in which reading gets past an argument. -/
theorem readFrom_cons_eq_ok_iff : readFrom r (argument :: rest) = .ok r' ↔
    argument = "--" ∧ rest = [] ∧ r.flush = .ok r' ∨
      (∃ f r₁, argument = f.option ∧ r.flush = .ok r₁ ∧
        readFrom ⟨r₁.settled, some (f, none)⟩ rest = .ok r') ∨
      (∃ f v r₁ r₂, argument = f.option ++ "=" ++ v ∧ r.flush = .ok r₁ ∧ r₁.settle f v = .ok r₂ ∧
        readFrom r₂ rest = .ok r') ∨
      ∃ f, r.pending = some (f, none) ∧ StandsAlone argument ∧
        readFrom ⟨r.settled, some (f, some argument)⟩ rest = .ok r' := by
  constructor
  · intro h
    rw [readFrom.eq_def] at h
    rcases shape_cases argument with ⟨rfl, hshape⟩ | ⟨name, value, hlist, hshape⟩ |
      ⟨c, cs, -, hshape⟩ | ⟨halone, hshape⟩ <;> simp only [hshape] at h
    · left
      cases rest with
      | nil => exact ⟨rfl, rfl, h⟩
      | cons next rest => cases h
    · right
      cases hlong : r.long name value with
      | error e => simp [hlong] at h
      | ok r₂ =>
        simp only [hlong] at h
        obtain ⟨f, r₁, rfl, hflush, ⟨rfl, rfl⟩ | ⟨v, rfl, hsettle⟩⟩ :=
          Reading.long_eq_ok_iff.mp hlong
        · refine Or.inl ⟨f, r₁, String.toList_inj.mp ?_, hflush, h⟩
          simpa [Flag.toList_option] using hlist
        · refine Or.inr (Or.inl ⟨f, v, r₁, r₂, String.toList_inj.mp ?_, hflush, hsettle, h⟩)
          simpa [Flag.toList_option] using hlist
    · cases hshort : r.short (c :: cs) with
      | error e => simp [hshort] at h
      | ok r₁ => exact absurd hshort (Reading.short_ne_ok c cs)
    · cases hplain : r.plain argument with
      | error e => simp [hplain] at h
      | ok r₁ =>
        simp only [hplain] at h
        obtain ⟨f, hdue, rfl⟩ := Reading.plain_eq_ok_iff.mp hplain
        exact Or.inr (Or.inr (Or.inr ⟨f, hdue, halone, h⟩))
  · rintro (⟨rfl, rfl, h⟩ | ⟨f, r₁, rfl, hflush, h⟩ | ⟨f, v, r₁, r₂, rfl, hflush, hsettle, h⟩ |
      ⟨f, hdue, halone, h⟩) <;> rw [readFrom.eq_def]
    · exact h
    · have hlong := Reading.long_eq_ok_iff.mpr ⟨f, r₁, rfl, hflush, Or.inl ⟨rfl, rfl⟩⟩
      simp only [shape_option, hlong, h]
    · have hlong := Reading.long_eq_ok_iff.mpr ⟨f, r₁, rfl, hflush, Or.inr ⟨v, rfl, hsettle⟩⟩
      simp only [shape_attached, hlong, h]
    · have hplain : r.plain argument = .ok ⟨r.settled, some (f, some argument)⟩ :=
        Reading.plain_eq_ok_iff.mpr ⟨f, hdue, rfl⟩
      simp only [shape_of_standsAlone halone, hplain, h]

end

/-! ## One group -/

section

variable {settled : List (Flag × String)} {arguments : List String} {r : Reading} {f : Flag}
  {v : String}

theorem readFrom_due_eq_ok_iff : readFrom ⟨settled, some (f, none)⟩ arguments = .ok r ↔
    ∃ v rest, arguments = v :: rest ∧ StandsAlone v ∧
      readFrom ⟨settled, some (f, some v)⟩ rest = .ok r := by
  cases arguments with
  | nil => simp [readFrom, Reading.flush]
  | cons argument rest =>
    rw [readFrom_cons_eq_ok_iff]
    simp [Reading.flush]

/-- A value that is checked later may as well be checked at once. -/
theorem readFrom_given_eq_ok_iff : readFrom ⟨settled, some (f, some v)⟩ arguments = .ok r ↔
    Admits settled f v ∧ readFrom ⟨settled ++ [(f, v)], none⟩ arguments = .ok r := by
  have hflush : ∀ r₁, Reading.flush ⟨settled, some (f, some v)⟩ = .ok r₁ ↔
      Admits settled f v ∧ Reading.flush ⟨settled ++ [(f, v)], none⟩ = .ok r₁ := by
    intro r₁
    simp only [Reading.flush, Except.ok.injEq, Reading.settle_eq_ok_iff, eq_comm (a := r₁)]
  -- Unless a value is due, an argument is looked at only after the flush.
  by_cases hadmits : Admits settled f v
  all_goals
    simp only [hadmits, true_and, false_and] at hflush ⊢
    cases arguments with
    | nil => simpa only [readFrom] using hflush r
    | cons argument rest => simp [readFrom_cons_eq_ok_iff, hflush]

/-- Reading starts with a group, unless there is none. -/
theorem readFrom_ready_eq_ok_iff : readFrom ⟨settled, none⟩ arguments = .ok r ↔
    (arguments = [] ∨ arguments = ["--"]) ∧ r = ⟨settled, none⟩ ∨
      ∃ (g : Group) (rest : List String), arguments = g.arguments ++ rest ∧
        g.flag ∉ settled.map Prod.fst ∧ readFrom ⟨settled ++ [g.entry], none⟩ rest = .ok r := by
  constructor
  · intro h
    cases arguments with
    | nil =>
      cases h
      exact Or.inl ⟨Or.inl rfl, rfl⟩
    | cons argument rest =>
      rcases readFrom_cons_eq_ok_iff.mp h with ⟨rfl, rfl, hflush⟩ | ⟨f, r₁, rfl, hflush, h⟩ |
        ⟨f, v, r₁, r₂, rfl, hflush, hsettle, h⟩ | ⟨f, hdue, -⟩
      · cases hflush
        exact Or.inl ⟨Or.inr rfl, rfl⟩
      · cases hflush
        obtain ⟨v, rest, rfl, halone, h⟩ := readFrom_due_eq_ok_iff.mp h
        obtain ⟨⟨hnew, htext⟩, h⟩ := readFrom_given_eq_ok_iff.mp h
        exact Or.inr ⟨⟨f, v, false, htext, fun _ => halone⟩, rest, rfl, hnew, h⟩
      · cases hflush
        obtain ⟨⟨hnew, htext⟩, rfl⟩ := Reading.settle_eq_ok_iff.mp hsettle
        exact Or.inr ⟨⟨f, v, true, htext, by simp⟩, rest, rfl, hnew, h⟩
      · cases hdue
  · rintro (⟨rfl | rfl, rfl⟩ | ⟨⟨f, v, attached, htext, halone⟩, rest, rfl, hnew, h⟩)
    · rfl
    · exact readFrom_cons_eq_ok_iff.mpr (Or.inl ⟨rfl, rfl, rfl⟩)
    · have hadmits : Admits settled f v := ⟨hnew, htext⟩
      cases attached with
      | false =>
        refine readFrom_cons_eq_ok_iff.mpr (Or.inr (Or.inl ⟨f, _, rfl, rfl, ?_⟩))
        exact readFrom_due_eq_ok_iff.mpr
          ⟨v, rest, rfl, halone rfl, readFrom_given_eq_ok_iff.mpr ⟨hadmits, h⟩⟩
      | true =>
        have hsettle := Reading.settle_eq_ok_iff (r := ⟨settled, none⟩).mpr ⟨hadmits, rfl⟩
        exact readFrom_cons_eq_ok_iff.mpr
          (Or.inr (Or.inr (Or.inl ⟨f, v, _, _, rfl, rfl, hsettle, h⟩)))

/-! ## A row of groups -/

theorem spelled_cons (g : Group) (groups : List Group) (closed : Bool) :
    spelled (g :: groups) closed = g.arguments ++ spelled groups closed := by
  simp [spelled]

theorem Group.arguments_ne_nil (g : Group) : g.arguments ≠ [] := by
  unfold Group.arguments
  split <;> simp

theorem nodup_settled_concat {g : Group} (hsettled : (settled.map Prod.fst).Nodup)
    (hnew : g.flag ∉ settled.map Prod.fst) : ((settled ++ [g.entry]).map Prod.fst).Nodup := by
  rw [List.map_append, List.map_singleton, List.nodup_middle, List.append_nil]
  exact List.nodup_cons.mpr ⟨hnew, hsettled⟩

/-- What is read are groups of flags that have no value yet. -/
theorem exists_groups_of_readFrom (hsettled : (settled.map Prod.fst).Nodup)
    (h : readFrom ⟨settled, none⟩ arguments = .ok r) :
    ∃ groups closed, arguments = spelled groups closed ∧
      (settled.map Prod.fst ++ groups.map Group.flag).Nodup ∧
      r = ⟨settled ++ groups.map Group.entry, none⟩ := by
  -- A group takes one argument or two, so the induction is on their number.
  induction hlength : arguments.length using Nat.strongRecOn generalizing settled arguments with
  | ind n ih =>
    rcases readFrom_ready_eq_ok_iff.mp h with ⟨rfl | rfl, rfl⟩ | ⟨g, rest, rfl, hnew, hrest⟩
    · exact ⟨[], false, rfl, by simpa using hsettled, by simp⟩
    · exact ⟨[], true, rfl, by simpa using hsettled, by simp⟩
    · have hshorter : rest.length < n := by
        have hpos := List.length_pos_of_ne_nil g.arguments_ne_nil
        rw [← hlength, List.length_append]
        omega
      obtain ⟨groups, closed, rfl, hnodup, rfl⟩ :=
        ih rest.length hshorter (nodup_settled_concat hsettled hnew) hrest rfl
      refine ⟨g :: groups, closed, (spelled_cons g groups closed).symm, ?_, by simp⟩
      simpa [Group.entry] using hnodup

theorem readFrom_spelled {groups : List Group} {closed : Bool}
    (hnodup : (settled.map Prod.fst ++ groups.map Group.flag).Nodup) :
    readFrom ⟨settled, none⟩ (spelled groups closed) =
      .ok ⟨settled ++ groups.map Group.entry, none⟩ := by
  induction groups generalizing settled with
  | nil =>
    apply readFrom_ready_eq_ok_iff.mpr
    cases closed <;> simp [spelled]
  | cons g groups ih =>
    have hnew : g.flag ∉ settled.map Prod.fst := by
      rw [List.map_cons, List.nodup_middle, List.nodup_cons] at hnodup
      exact fun hmem => hnodup.1 (List.mem_append_left _ hmem)
    have hnodup' : ((settled ++ [g.entry]).map Prod.fst ++ groups.map Group.flag).Nodup := by
      simpa [Group.entry] using hnodup
    rw [spelled_cons]
    apply readFrom_ready_eq_ok_iff.mpr
    exact Or.inr ⟨g, _, rfl, hnew, by simpa using ih hnodup'⟩

end

/-! ## The arguments of a run -/

section

variable {values : List (Flag × String)} {a : Arguments}

theorem value?_of_ofValues (h : ofValues values = .ok a) (f : Flag) :
    a.value? f = (values.lookup f).map Text.utf8 := by
  unfold ofValues at h
  split at h
  · next hxml hdir hjson =>
    cases h
    cases f <;> simp [value?, hxml, hdir, hjson, Function.comp_def]
  · cases h

theorem ofValues_congr {values' : List (Flag × String)}
    (h : ∀ f, values.lookup f = values'.lookup f) : ofValues values = ofValues values' := by
  simp only [ofValues, h]

theorem exists_ofValues (h : ∀ f ∈ Flag.required, f ∈ values.map Prod.fst) :
    ∃ a, ofValues values = .ok a := by
  have hfound : ∀ f ∈ Flag.required, ∃ v, values.lookup f = some v := by
    intro f hf
    apply Option.ne_none_iff_exists'.mp
    intro hnone
    exact List.lookup_eq_none_iff_notMem.mp hnone (h f hf)
  obtain ⟨xml, hxml⟩ := hfound .outputXml (by decide)
  obtain ⟨dir, hdir⟩ := hfound .outputDir (by decide)
  obtain ⟨json, hjson⟩ := hfound .artifactsJson (by decide)
  simp [ofValues, hxml, hdir, hjson]

theorem mem_of_ofValues (h : ofValues values = .ok a) :
    ∀ f ∈ Flag.required, f ∈ values.map Prod.fst := by
  intro f hf
  by_contra hmissing
  have hnone := value?_of_ofValues h f
  rw [List.lookup_eq_none_iff_notMem.mpr hmissing, Option.map_none] at hnone
  simp only [Flag.required, List.mem_cons, List.not_mem_nil, or_false] at hf
  rcases hf with rfl | rfl | rfl <;> simp [value?] at hnone

end

theorem map_fst_entry (groups : List Group) :
    (groups.map Group.entry).map Prod.fst = groups.map Group.flag := by
  rw [List.map_map]
  rfl

namespace CommandLine

theorem read_arguments (c : CommandLine) :
    read c.arguments = ofValues (c.groups.map Group.entry) := by
  have hread : readFrom ⟨[], none⟩ (spelled c.groups c.closed) =
      .ok ⟨c.groups.map Group.entry, none⟩ := readFrom_spelled c.distinct
  simp [read, arguments, hread]

theorem lookup_entry_iff (c : CommandLine) {f : Flag} {v : String} :
    (c.groups.map Group.entry).lookup f = some v ↔ (f, v) ∈ c.groups.map Group.entry :=
  List.lookup_eq_some_iff_mem (by rw [map_fst_entry]; exact c.distinct)

end CommandLine

theorem exists_commandLine_of_read {arguments : List String} {a : Arguments}
    (h : read arguments = .ok a) : ∃ c : CommandLine, c.arguments = arguments := by
  unfold read at h
  split at h
  · cases h
  · next r hread =>
    obtain ⟨groups, closed, rfl, hdistinct, rfl⟩ := exists_groups_of_readFrom (by simp) hread
    have hcomplete := mem_of_ofValues h
    rw [List.nil_append, map_fst_entry] at hcomplete
    exact ⟨⟨groups, closed, hdistinct, hcomplete⟩, rfl⟩

/-- Reading accepts exactly the command lines and gives each flag the value of its group. So
neither the order of the groups nor their spelling makes a difference. -/
theorem read_grammar :
    (∀ arguments, (∃ a, read arguments = .ok a) ↔ ∃ c : CommandLine, c.arguments = arguments) ∧
      (∀ c : CommandLine, ∃ a, read c.arguments = .ok a ∧
        ∀ f v, a.value? f = some v ↔ ∃ g ∈ c.groups, g.flag = f ∧ Text.utf8 g.value = v) ∧
      ∀ c c' : CommandLine, (c.groups.map Group.entry).Perm (c'.groups.map Group.entry) →
        read c.arguments = read c'.arguments := by
  have hread : ∀ c : CommandLine, ∃ a, read c.arguments = .ok a := by
    intro c
    rw [c.read_arguments]
    exact exists_ofValues (by rw [map_fst_entry]; exact c.complete)
  refine ⟨fun arguments => ⟨?_, ?_⟩, fun c => ?_, fun c c' hperm => ?_⟩
  · rintro ⟨a, ha⟩
    exact exists_commandLine_of_read ha
  · rintro ⟨c, rfl⟩
    exact hread c
  · obtain ⟨a, ha⟩ := hread c
    refine ⟨a, ha, fun f v => ?_⟩
    rw [c.read_arguments] at ha
    rw [value?_of_ofValues ha f, Option.map_eq_some_iff]
    simp only [c.lookup_entry_iff, List.mem_map, Group.entry, Prod.mk.injEq]
    constructor
    · rintro ⟨t, ⟨g, hg, hflag, rfl⟩, hv⟩
      exact ⟨g, hg, hflag, hv⟩
    · rintro ⟨g, hg, hflag, hv⟩
      exact ⟨g.value, ⟨g, hg, hflag, rfl⟩, hv⟩
  · rw [c.read_arguments, c'.read_arguments]
    apply ofValues_congr
    intro f
    apply Option.ext
    intro v
    rw [c.lookup_entry_iff, c'.lookup_entry_iff, hperm.mem_iff]

/-- Values that hold an equals sign, are empty, are a hyphen or look like a flag. The second
command line gives the groups backwards and in the other spelling, where there is one. -/
theorem read_grammar_respelled :
    let xml : Group := { flag := .outputXml, value := "a=b", attached := true }
    let id : Group := { flag := .suiteId, value := "", attached := false }
    let dir : Group := { flag := .outputDir, value := "-", attached := false }
    let json : Group := { flag := .artifactsJson, value := "--help", attached := true }
    let xml' : Group := { flag := .outputXml, value := "a=b", attached := false }
    let id' : Group := { flag := .suiteId, value := "", attached := true }
    let dir' : Group := { flag := .outputDir, value := "-", attached := true }
    let c : CommandLine := { groups := [xml, id, dir, json], closed := true }
    let c' : CommandLine := { groups := [json, dir', id', xml'], closed := false }
    c.arguments = ["--output-xml=a=b", "--suite-id", "", "--output-dir", "-",
        "--artifacts-json=--help", "--"] ∧
      c'.arguments = ["--artifacts-json=--help", "--output-dir=-", "--suite-id=",
        "--output-xml", "a=b"] ∧
      read c.arguments = read c'.arguments ∧
      ∃ a, read c.arguments = .ok a ∧ a.value? .outputXml = some (Text.utf8 "a=b") ∧
        a.value? .suiteId = some [] ∧ a.value? .videoPath = none := by
  intro xml id dir json xml' id' dir' c c'
  obtain ⟨-, hvalues, hperm⟩ := read_grammar
  have hsame : (c.groups.map Group.entry).Perm (c'.groups.map Group.entry) := by decide
  obtain ⟨a, ha, hvalue⟩ := hvalues c
  refine ⟨by decide, by decide, hperm c c' hsame, a, ha, ?_, ?_, ?_⟩
  · exact (hvalue _ _).mpr ⟨xml, by simp [c], rfl, rfl⟩
  · exact (hvalue _ _).mpr ⟨id, by simp [c], rfl, rfl⟩
  · apply Option.eq_none_iff_forall_ne_some.mpr
    intro v hv
    obtain ⟨g, hg, hflag, -⟩ := (hvalue _ _).mp hv
    have hmem : Flag.videoPath ∈ c.groups.map Group.flag := List.mem_map.mpr ⟨g, hg, hflag⟩
    exact absurd hmem (by decide)

end Arguments
end Storyboard
