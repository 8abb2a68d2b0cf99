import Storyboard.Proofs.JsonRoundTrip

/-! # Values that were read

The machine keeps the members of an object sorted by their keys, with one member
for each key, and never has more arrays and objects open than it allows. A value
that was read is therefore its own sorted form, and its depth is bounded. Both are
invariants of single steps.
-/
namespace Storyboard.Json

/-! ## Sorted members -/

def KeysIncrease (members : List (String × Json)) : Prop :=
  members.Pairwise fun a b => a.1 < b.1

theorem mem_insertMember {key : String} {v : Json} {members : List (String × Json)}
    {m : String × Json} (h : m ∈ insertMember key v members) : m = (key, v) ∨ m ∈ members := by
  induction members with
  | nil => exact Or.inl (List.mem_singleton.mp h)
  | cons member members ih =>
    obtain ⟨k, w⟩ := member
    rw [insertMember] at h
    split at h
    · exact List.mem_cons.mp h
    · split at h
      · rcases List.mem_cons.mp h with h | h
        · exact Or.inl h
        · exact Or.inr (List.mem_cons_of_mem _ h)
      · rcases List.mem_cons.mp h with rfl | h
        · exact Or.inr List.mem_cons_self
        · rcases ih h with h | h
          · exact Or.inl h
          · exact Or.inr (List.mem_cons_of_mem _ h)

theorem KeysIncrease.insertMember {members : List (String × Json)} (h : KeysIncrease members)
    (key : String) (v : Json) : KeysIncrease (insertMember key v members) := by
  induction members with
  | nil => exact List.pairwise_singleton _ _
  | cons member members ih =>
    obtain ⟨k, w⟩ := member
    obtain ⟨hfirst, hrest⟩ := List.pairwise_cons.mp h
    rw [Json.insertMember]
    split
    · next hlt =>
      refine List.pairwise_cons.mpr ⟨fun m hm => ?_, h⟩
      rcases List.mem_cons.mp hm with rfl | hm
      · exact hlt
      · exact String.lt_trans hlt (hfirst m hm)
    · next hlt =>
      split
      · next heq =>
        subst heq
        exact List.pairwise_cons.mpr ⟨hfirst, hrest⟩
      · next hne =>
        refine List.pairwise_cons.mpr ⟨fun m hm => ?_, ih hrest⟩
        rcases mem_insertMember hm with rfl | hm
        · apply String.not_le.mp
          intro hle
          exact hne (String.le_antisymm hle (String.not_lt.mp hlt))
        · exact hfirst m hm

theorem insertMember_of_forall_lt {key : String} (v : Json) {members : List (String × Json)}
    (h : ∀ m ∈ members, m.1 < key) : insertMember key v members = members ++ [(key, v)] := by
  induction members with
  | nil => rfl
  | cons member members ih =>
    obtain ⟨k, w⟩ := member
    have hk : k < key := h (k, w) List.mem_cons_self
    have hne : key ≠ k := by
      rintro rfl
      exact String.lt_irrefl key hk
    rw [insertMember, if_neg (String.lt_asymm hk), if_neg hne,
      ih fun m hm => h m (List.mem_cons_of_mem _ hm), List.cons_append]

/-! ## Ordered values -/

mutual

/-- The members of each object in a value are sorted by their keys, without two of
one key. -/
def Ordered : Json → Prop
  | .array items => OrderedItems items
  | .object members => KeysIncrease members ∧ OrderedMembers members
  | _ => True

def OrderedItems : List Json → Prop
  | [] => True
  | item :: items => Ordered item ∧ OrderedItems items

def OrderedMembers : List (String × Json) → Prop
  | [] => True
  | (_, value) :: members => Ordered value ∧ OrderedMembers members

end

theorem orderedItems_iff {items : List Json} : OrderedItems items ↔ ∀ v ∈ items, v.Ordered := by
  induction items with
  | nil => simp [OrderedItems]
  | cons item items ih => simp [OrderedItems, ih]

theorem orderedMembers_iff {members : List (String × Json)} :
    OrderedMembers members ↔ ∀ m ∈ members, m.2.Ordered := by
  induction members with
  | nil => simp [OrderedMembers]
  | cons member members ih => simp [OrderedMembers, ih]

mutual

theorem sorted_of_ordered (j : Json) (h : j.Ordered) : j.sorted = j := by
  match j with
  | .null => rfl
  | .bool _ => rfl
  | .number _ => rfl
  | .text _ => rfl
  | .array items => rw [sorted, sortedItems_of_ordered items h]
  | .object members =>
    rw [Ordered] at h
    rw [sorted, sortedMembers_of_ordered members [] h.1 h.2, List.nil_append]

theorem sortedItems_of_ordered (items : List Json) (h : OrderedItems items) :
    sortedItems items = items := by
  match items with
  | [] => rfl
  | item :: items =>
    rw [OrderedItems] at h
    rw [sortedItems, sorted_of_ordered item h.1, sortedItems_of_ordered items h.2]

theorem sortedMembers_of_ordered (members before : List (String × Json))
    (hkeys : KeysIncrease (before ++ members)) (h : OrderedMembers members) :
    sortedMembers before members = before ++ members := by
  match members with
  | [] => rw [sortedMembers, List.append_nil]
  | (key, value) :: members =>
    rw [OrderedMembers] at h
    have hbefore : ∀ m ∈ before, m.1 < key :=
      fun m hm => (List.pairwise_append.mp hkeys).2.2 m hm (key, value) List.mem_cons_self
    have hsplit : before ++ (key, value) :: members = before ++ [(key, value)] ++ members := by
      simp
    rw [hsplit] at hkeys ⊢
    rw [sortedMembers, sorted_of_ordered value h.1, insertMember_of_forall_lt value hbefore,
      sortedMembers_of_ordered members _ hkeys h.2]

end

/-! ## Depth -/

theorem depthItems_le_iff {items : List Json} {n : Nat} :
    depthItems items ≤ n ↔ ∀ v ∈ items, v.depth ≤ n := by
  induction items with
  | nil => simp [depthItems]
  | cons item items ih => rw [depthItems, Nat.max_le, ih, List.forall_mem_cons]

theorem depthMembers_le_iff {members : List (String × Json)} {n : Nat} :
    depthMembers members ≤ n ↔ ∀ m ∈ members, m.2.depth ≤ n := by
  induction members with
  | nil => simp [depthMembers]
  | cons member members ih => rw [depthMembers, Nat.max_le, ih, List.forall_mem_cons]

theorem depth_array_le {n : Nat} {items : List Json} (hn : n + 1 ≤ depthLimit)
    (h : ∀ v ∈ items, v.depth + (n + 1) ≤ depthLimit) : (array items).depth + n ≤ depthLimit := by
  have hdepth : depthItems items ≤ depthLimit - (n + 1) := by
    apply depthItems_le_iff.mpr
    intro v hv
    have := h v hv
    omega
  rw [depth]
  omega

theorem depth_object_le {n : Nat} {members : List (String × Json)} (hn : n + 1 ≤ depthLimit)
    (h : ∀ m ∈ members, m.2.depth + (n + 1) ≤ depthLimit) :
    (object members).depth + n ≤ depthLimit := by
  have hdepth : depthMembers members ≤ depthLimit - (n + 1) := by
    apply depthMembers_le_iff.mpr
    intro m hm
    have := h m hm
    omega
  rw [depth]
  omega

/-- A value that stands inside some open arrays and objects. -/
def FitsIn (n : Nat) (v : Json) : Prop := v.Ordered ∧ v.depth + n ≤ depthLimit

theorem fitsIn_array {n : Nat} {items : List Json} (hn : n + 1 ≤ depthLimit)
    (h : ∀ v ∈ items, v.FitsIn (n + 1)) : (array items).FitsIn n := by
  refine ⟨?_, depth_array_le hn fun v hv => (h v hv).2⟩
  rw [Ordered]
  exact orderedItems_iff.mpr fun v hv => (h v hv).1

theorem fitsIn_object {n : Nat} {members : List (String × Json)} (hn : n + 1 ≤ depthLimit)
    (hkeys : KeysIncrease members) (h : ∀ m ∈ members, m.2.FitsIn (n + 1)) :
    (object members).FitsIn n := by
  refine ⟨?_, depth_object_le hn fun m hm => (h m hm).2⟩
  rw [Ordered]
  exact ⟨hkeys, orderedMembers_iff.mpr fun m hm => (h m hm).1⟩

theorem FitsIn.member {n : Nat} {members : List (String × Json)} {key : String} {v : Json}
    (h : (object members).FitsIn n) (hv : members.lookup key = some v) : v.FitsIn (n + 1) := by
  obtain ⟨hordered, hdepth⟩ := h
  obtain ⟨before, after, hmembers, -⟩ := List.lookup_eq_some_iff.mp hv
  have hmem : (key, v) ∈ members := by simp [hmembers]
  rw [Ordered] at hordered
  rw [depth] at hdepth
  have hlimit : depthMembers members ≤ depthLimit - (n + 1) := by omega
  have hle : v.depth ≤ depthLimit - (n + 1) := depthMembers_le_iff.mp hlimit (key, v) hmem
  refine ⟨orderedMembers_iff.mp hordered.2 (key, v) hmem, ?_⟩
  omega

/-! ## What the machine holds -/

def Frame.FitsIn (n : Nat) : Frame → Prop
  | .items before => ∀ v ∈ before, v.FitsIn n
  | .members before => KeysIncrease before ∧ ∀ m ∈ before, m.2.FitsIn n
  | .member before _ => KeysIncrease before ∧ ∀ m ∈ before, m.2.FitsIn n

def StackFits : List Frame → Prop
  | [] => True
  | frame :: stack => frame.FitsIn (stack.length + 1) ∧ StackFits stack

namespace Machine

structure Fits (m : Machine) : Prop where
  room : m.stack.length ≤ depthLimit
  stack : StackFits m.stack
  value : ∀ v, m.phase = .complete v → v.FitsIn m.stack.length

theorem fits_start : start.Fits where
  room := Nat.zero_le _
  stack := trivial
  value := nofun

theorem fits_complete {stack : List Frame} {v : Json} (hroom : stack.length ≤ depthLimit)
    (hstack : StackFits stack) (hv : v.FitsIn stack.length) : Fits ⟨stack, .complete v⟩ where
  room := hroom
  stack := hstack
  value w hw := by
    cases hw
    exact hv

theorem Fits.openValue {stack : List Frame} {t : Token} {m : Machine}
    (hroom : stack.length ≤ depthLimit) (hstack : StackFits stack)
    (h : openValue stack t = some m) : m.Fits := by
  have hscalar : ∀ v : Json, v.Ordered → v.depth = 0 → v.FitsIn stack.length :=
    fun v hordered hdepth => ⟨hordered, by omega⟩
  cases t with
  | openArray =>
    rw [Machine.openValue] at h
    split at h
    · next hlt =>
      cases h
      exact ⟨hlt, ⟨nofun, hstack⟩, nofun⟩
    · cases h
  | openObject =>
    rw [Machine.openValue] at h
    split at h
    · next hlt =>
      cases h
      exact ⟨hlt, ⟨⟨List.Pairwise.nil, nofun⟩, hstack⟩, nofun⟩
    · cases h
  | null => cases h; exact fits_complete hroom hstack (hscalar .null trivial rfl)
  | bool b => cases h; exact fits_complete hroom hstack (hscalar (.bool b) trivial rfl)
  | number n => cases h; exact fits_complete hroom hstack (hscalar (.number n) trivial rfl)
  | text s => cases h; exact fits_complete hroom hstack (hscalar (.text s) trivial rfl)
  | closeArray => cases h
  | closeObject => cases h
  | comma => cases h
  | colon => cases h

theorem fitsIn_insertMember {n : Nat} {key : String} {v : Json} {before : List (String × Json)}
    (hv : v.FitsIn n) (hbefore : ∀ m ∈ before, m.2.FitsIn n) :
    ∀ m ∈ insertMember key v before, m.2.FitsIn n := by
  intro m hm
  rcases mem_insertMember hm with rfl | hm
  · exact hv
  · exact hbefore m hm

theorem Fits.afterValue {v : Json} {stack : List Frame} {t : Token} {m : Machine}
    (hroom : stack.length ≤ depthLimit) (hstack : StackFits stack) (hv : v.FitsIn stack.length)
    (h : afterValue v stack t = some m) : m.Fits := by
  unfold Machine.afterValue at h
  split at h
  · next before stack =>
    cases h
    obtain ⟨hbefore, hrest⟩ := hstack
    exact ⟨hroom, ⟨fun w hw => by
      rcases List.mem_cons.mp hw with rfl | hw
      · exact hv
      · exact hbefore w hw, hrest⟩, nofun⟩
  · next before stack =>
    cases h
    obtain ⟨hbefore, hrest⟩ := hstack
    rw [List.length_cons] at hroom hv
    refine fits_complete (by omega) hrest (fitsIn_array hroom fun w hw => ?_)
    rcases List.mem_cons.mp (List.mem_reverse.mp hw) with rfl | hw
    · exact hv
    · exact hbefore w hw
  · next before key stack =>
    cases h
    obtain ⟨⟨hkeys, hbefore⟩, hrest⟩ := hstack
    exact ⟨hroom, ⟨⟨hkeys.insertMember key v, fitsIn_insertMember hv hbefore⟩, hrest⟩, nofun⟩
  · next before key stack =>
    cases h
    obtain ⟨⟨hkeys, hbefore⟩, hrest⟩ := hstack
    rw [List.length_cons] at hroom hv
    exact fits_complete (by omega) hrest
      (fitsIn_object hroom (hkeys.insertMember key v) (fitsIn_insertMember hv hbefore))
  · cases h

/-- One token keeps what the machine holds sorted and within its depth. -/
theorem Fits.step {m m' : Machine} {t : Token} (hm : m.Fits) (h : m.step t = some m') :
    m'.Fits := by
  obtain ⟨stack, phase⟩ := m
  obtain ⟨hroom, hstack, hvalue⟩ := hm
  unfold Machine.step at h
  cases phase with
  | value => exact Fits.openValue hroom hstack h
  | itemOrClose =>
    dsimp only at h hroom hstack
    split at h
    · next before stack =>
      cases h
      obtain ⟨hbefore, hrest⟩ := hstack
      rw [List.length_cons] at hroom
      refine fits_complete (by omega) hrest (fitsIn_array hroom fun w hw => ?_)
      exact hbefore w (List.mem_reverse.mp hw)
    · exact Fits.openValue hroom hstack h
  | keyOrClose =>
    dsimp only at h hroom hstack
    split at h
    · next before stack =>
      cases h
      obtain ⟨⟨hkeys, hbefore⟩, hrest⟩ := hstack
      rw [List.length_cons] at hroom
      exact fits_complete (by omega) hrest (fitsIn_object hroom hkeys hbefore)
    · cases h
      exact ⟨hroom, hstack, nofun⟩
    · cases h
  | key =>
    dsimp only at h hroom hstack
    split at h
    · cases h
      exact ⟨hroom, hstack, nofun⟩
    · cases h
  | colon key =>
    dsimp only at h hroom hstack
    split at h
    · cases h
      exact ⟨hroom, hstack, nofun⟩
    · cases h
  | complete v => exact Fits.afterValue hroom hstack (hvalue v rfl) h

theorem Fits.run {m m' : Machine} {ts : List Token} (hm : m.Fits) (h : m.run ts = some m') :
    m'.Fits := by
  induction ts generalizing m with
  | nil =>
    cases h
    exact hm
  | cons t ts ih =>
    rw [Machine.run] at h
    split at h
    · cases h
    · next hstep => exact ih (hm.step hstep) h

end Machine

/-- A value that was read is ordered and not too deep. -/
theorem fitsIn_of_ofBytes? {bytes : ByteArray} {j : Json} (h : ofBytes? bytes = some j) :
    j.FitsIn 0 := by
  obtain ⟨text, -, hread⟩ := Option.bind_eq_some_iff.mp h
  obtain ⟨ts, -, hts⟩ := Option.bind_eq_some_iff.mp hread
  obtain ⟨m, hrun, hresult⟩ := Option.bind_eq_some_iff.mp hts
  have hm := Machine.fits_start.run hrun
  unfold Machine.result? at hresult
  split at hresult
  · next hstack hphase =>
    cases hresult
    have hv := hm.value j hphase
    rwa [hstack] at hv
  · cases hresult

end Storyboard.Json
