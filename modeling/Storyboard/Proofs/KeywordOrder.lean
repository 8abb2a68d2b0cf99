import Mathlib.Data.List.Sort
import Storyboard.Proofs.Extraction

/-! # The order of keywords

Equal elements may stand at several places of a document, so a place is named by its
address: which child to take at each step from the root down. The tags of a document,
marked with the addresses of their elements, are all different. Keywords are
collected along the closing ones, each of them once.
-/
namespace Storyboard

namespace Xml

/-- The way from a node down to another one. -/
abbrev Address := List Nat

def Node.at? : Node → Address → Option Node
  | n, [] => some n
  | n, i :: rest => n.children[i]?.bind fun child => child.at? rest

inductive Mark
  | opening (a : Address)
  | closing (a : Address)
deriving DecidableEq

namespace Mark

def address : Mark → Address
  | .opening a => a
  | .closing a => a

def closed? : Mark → Option Address
  | .opening _ => none
  | .closing a => some a

def tag? (root : Node) : Mark → Option Tag
  | .opening a => (root.at? a).map .opening
  | .closing a => (root.at? a).map .closing

theorem closed?_eq_some {m : Mark} {a : Address} : m.closed? = some a ↔ m = .closing a := by
  cases m <;> simp [closed?]

end Mark

namespace Node

mutual

/-- The tags of a node in the order of the document, given the address of the node. -/
def marks (a : Address) : Node → List Mark
  | .element _ _ children => .opening a :: (marksOf a 0 children ++ [.closing a])
  | _ => []

def marksOf (a : Address) (i : Nat) : List Node → List Mark
  | [] => []
  | n :: rest => n.marks (a ++ [i]) ++ marksOf a (i + 1) rest

end

/-- How many tags come before the closing tag of an element. -/
def endTag (root : Node) (a : Address) : Nat := (root.marks []).idxOf (.closing a)

theorem isElement_of_isNamed {n : Node} {base : String} (h : n.isNamed base = true) :
    n.isElement = true := by
  cases n with
  | element => rfl
  | text => cases h
  | comment => cases h
  | instruction => cases h

theorem marks_of_isElement {n : Node} (h : n.isElement = true) (a : Address) :
    n.marks a = .opening a :: (marksOf a 0 n.children ++ [.closing a]) := by
  cases n with
  | element name attributes children => rw [marks, Node.children]
  | text => cases h
  | comment => cases h
  | instruction => cases h

theorem marksOf_children_isInfix (n : Node) (a : Address) :
    marksOf a 0 n.children <:+: n.marks a := by
  cases n with
  | element name attributes children =>
    exact ⟨[.opening a], [.closing a], by simp [marks, Node.children]⟩
  | text => exact List.nil_infix
  | comment => exact List.nil_infix
  | instruction => exact List.nil_infix

theorem at?_append (n : Node) (a b : Address) :
    n.at? (a ++ b) = (n.at? a).bind fun e => e.at? b := by
  induction a generalizing n with
  | nil => rfl
  | cons i a ih =>
    rw [List.cons_append, at?, at?, Option.bind_assoc]
    congr 1
    funext child
    exact ih child

/-! ## Which tags there are -/

mutual

theorem exists_of_mem_marks {n : Node} {a : Address} {m : Mark} (h : m ∈ n.marks a) :
    ∃ b e, m.address = a ++ b ∧ n.at? b = some e ∧ e.isElement = true :=
  match n with
  | .element name attributes children => by
    rw [marks, List.mem_cons, List.mem_append, List.mem_singleton] at h
    rcases h with rfl | h | rfl
    · exact ⟨[], _, (List.append_nil a).symm, rfl, rfl⟩
    · obtain ⟨j, b, child, e, ha, hchild, he, helement⟩ := exists_of_mem_marksOf h
      rw [Nat.zero_add] at ha
      refine ⟨j :: b, e, ha, ?_, helement⟩
      rw [at?, Node.children, hchild]
      exact he
    · exact ⟨[], _, (List.append_nil a).symm, rfl, rfl⟩
  | .text _ => by cases h
  | .comment => by cases h
  | .instruction => by cases h

theorem exists_of_mem_marksOf {ns : List Node} {a : Address} {i : Nat} {m : Mark}
    (h : m ∈ marksOf a i ns) :
    ∃ j b child e, m.address = a ++ (i + j) :: b ∧ ns[j]? = some child ∧
      child.at? b = some e ∧ e.isElement = true :=
  match ns with
  | [] => by cases h
  | n :: rest => by
    rw [marksOf, List.mem_append] at h
    rcases h with h | h
    · obtain ⟨b, e, ha, he, helement⟩ := exists_of_mem_marks h
      rw [← List.append_cons] at ha
      exact ⟨0, b, n, e, ha, rfl, he, helement⟩
    · obtain ⟨j, b, child, e, ha, hchild, he, helement⟩ := exists_of_mem_marksOf h
      rw [Nat.add_right_comm, Nat.add_assoc] at ha
      exact ⟨j + 1, b, child, e, ha, hchild, he, helement⟩

end

theorem marks_isInfix_marksOf {ns : List Node} {i : Nat} {child : Node} (h : ns[i]? = some child)
    (a : Address) (k : Nat) : child.marks (a ++ [k + i]) <:+: marksOf a k ns := by
  induction ns generalizing i k with
  | nil => simp at h
  | cons n ns ih =>
    rw [marksOf]
    cases i with
    | zero =>
      cases h
      exact (List.prefix_append _ _).isInfix
    | succ i =>
      have hrest := ih h (k + 1)
      rw [Nat.add_right_comm, Nat.add_assoc] at hrest
      exact hrest.trans (List.suffix_append _ _).isInfix

/-- The tags of an element stand together. -/
theorem marks_isInfix {n e : Node} {b : Address} (h : n.at? b = some e) (a : Address) :
    e.marks (a ++ b) <:+: n.marks a := by
  induction b generalizing n a with
  | nil =>
    cases h
    simp only [List.append_nil, List.infix_rfl]
  | cons i b ih =>
    obtain ⟨child, hchild, he⟩ := Option.bind_eq_some_iff.mp h
    have hinner := ih he (a ++ [i])
    have houter := marks_isInfix_marksOf hchild a 0
    rw [Nat.zero_add] at houter
    rw [List.append_cons]
    exact hinner.trans (houter.trans (marksOf_children_isInfix n a))

/-- The tags of what is inside an element stand between its own. -/
theorem closing_mem_marksOf {n e : Node} {b : Address} (hb : b ≠ []) (h : n.at? b = some e)
    (he : e.isElement = true) (a : Address) : .closing (a ++ b) ∈ marksOf a 0 n.children := by
  cases b with
  | nil => exact absurd rfl hb
  | cons i b =>
    obtain ⟨child, hchild, hinner⟩ := Option.bind_eq_some_iff.mp h
    have houter := marks_isInfix_marksOf hchild a 0
    rw [Nat.zero_add] at houter
    rw [List.append_cons]
    have hmem : .closing ((a ++ [i]) ++ b) ∈ e.marks ((a ++ [i]) ++ b) := by
      rw [marks_of_isElement he]
      simp
    exact houter.subset ((marks_isInfix hinner (a ++ [i])).subset hmem)

/-! ## No tag occurs twice -/

mutual

theorem nodup_marks (n : Node) (a : Address) : (n.marks a).Nodup :=
  match n with
  | .element name attributes children => by
    have hinside : ∀ m ∈ marksOf a 0 children, m.address ≠ a := by
      intro m hm ha
      obtain ⟨j, b, -, -, haddress, -⟩ := exists_of_mem_marksOf hm
      rw [ha] at haddress
      simp at haddress
    rw [marks, List.nodup_cons, List.nodup_append]
    refine ⟨fun hmem => ?_, nodup_marksOf children a 0, List.nodup_singleton _, ?_⟩
    · rcases List.mem_append.mp hmem with hmem | hmem
      · exact hinside _ hmem rfl
      · simp at hmem
    · rintro m hm _ hlast rfl
      rw [List.mem_singleton.mp hlast] at hm
      exact hinside _ hm rfl
  | .text _ => List.nodup_nil
  | .comment => List.nodup_nil
  | .instruction => List.nodup_nil

theorem nodup_marksOf (ns : List Node) (a : Address) (i : Nat) : (marksOf a i ns).Nodup :=
  match ns with
  | [] => List.nodup_nil
  | n :: rest => by
    rw [marksOf, List.nodup_append]
    refine ⟨nodup_marks n _, nodup_marksOf rest a (i + 1), ?_⟩
    -- The tags of two children differ in the number of the child.
    rintro m hfirst _ hlater rfl
    obtain ⟨b, -, hb, -⟩ := exists_of_mem_marks hfirst
    obtain ⟨j, b', -, -, hb', -⟩ := exists_of_mem_marksOf hlater
    rw [hb, List.append_assoc, List.append_cancel_left_eq, List.singleton_append] at hb'
    have hnumber : i = i + 1 + j := (List.cons.inj hb').1
    omega

end

/-! ## Marked tags are the tags of the document -/

mutual

theorem filterMap_tag?_marks {root n : Node} {a : Address} (h : root.at? a = some n) :
    (n.marks a).filterMap (Mark.tag? root) = n.tags :=
  match n with
  | .element name attributes children => by
    have hinside : (marksOf a 0 children).filterMap (Mark.tag? root) = tagsOf children :=
      filterMap_tag?_marksOf fun j => by rw [at?_append, h]; simp [at?, Node.children]
    have hopening : Mark.tag? root (.opening a) =
        some (.opening (.element name attributes children)) := by rw [Mark.tag?, h]; rfl
    have hclosing : Mark.tag? root (.closing a) =
        some (.closing (.element name attributes children)) := by rw [Mark.tag?, h]; rfl
    rw [marks, tags, List.filterMap_cons_some hopening, List.filterMap_append, hinside,
      List.filterMap_cons_some hclosing, List.filterMap_nil]
  | .text _ => rfl
  | .comment => rfl
  | .instruction => rfl

theorem filterMap_tag?_marksOf {root : Node} {ns : List Node} {a : Address} {i : Nat}
    (h : ∀ j, root.at? (a ++ [i + j]) = ns[j]?) :
    (marksOf a i ns).filterMap (Mark.tag? root) = tagsOf ns :=
  match ns with
  | [] => rfl
  | n :: rest => by
    have hfirst : (n.marks (a ++ [i])).filterMap (Mark.tag? root) = n.tags :=
      filterMap_tag?_marks (h 0)
    have hrest : (marksOf a (i + 1) rest).filterMap (Mark.tag? root) = tagsOf rest :=
      filterMap_tag?_marksOf fun j => by
        rw [Nat.add_right_comm, Nat.add_assoc]
        exact h (j + 1)
    rw [marksOf, tagsOf, List.filterMap_append, hfirst, hrest]

end

/-! ## The order of the ends -/

theorem pairwise_idxOf_marks (root : Node) :
    (root.marks []).Pairwise fun x y => (root.marks []).idxOf x < (root.marks []).idxOf y := by
  rw [List.pairwise_iff_getElem]
  intro i j hi hj hij
  rwa [(nodup_marks root []).idxOf_getElem i hi, (nodup_marks root []).idxOf_getElem j hj]

def closedAddresses (root : Node) : List Address :=
  (marksOf [] 0 root.children).filterMap Mark.closed?

theorem mem_closedAddresses_iff {root : Node} {a : Address} :
    a ∈ root.closedAddresses ↔ a ≠ [] ∧ ∃ e, root.at? a = some e ∧ e.isElement = true := by
  constructor
  · intro h
    obtain ⟨m, hm, hclosed⟩ := List.mem_filterMap.mp h
    cases Mark.closed?_eq_some.mp hclosed
    obtain ⟨j, b, child, e, haddress, hchild, he, helement⟩ := exists_of_mem_marksOf hm
    rw [List.nil_append, Nat.zero_add] at haddress
    cases haddress
    refine ⟨List.cons_ne_nil j b, e, ?_, helement⟩
    rw [at?, hchild]
    exact he
  · rintro ⟨hne, e, he, helement⟩
    exact List.mem_filterMap.mpr ⟨.closing a, closing_mem_marksOf hne he helement [], rfl⟩

theorem pairwise_closedAddresses (root : Node) :
    root.closedAddresses.Pairwise fun a b => root.endTag a < root.endTag b := by
  have hbelow := (pairwise_idxOf_marks root).sublist (marksOf_children_isInfix root []).sublist
  rw [closedAddresses, List.pairwise_filterMap]
  refine hbelow.imp fun hlt a ha b hb => ?_
  rw [Mark.closed?_eq_some.mp ha, Mark.closed?_eq_some.mp hb] at hlt
  exact hlt

/-- What is inside an element ends before it. -/
theorem endTag_lt_of_inside {root outer e : Node} {a b : Address} (hb : b ≠ [])
    (houter : root.at? a = some outer) (he : root.at? (a ++ b) = some e)
    (helement : e.isElement = true) : root.endTag (a ++ b) < root.endTag a := by
  rw [at?_append, houter] at he
  have hinside : .closing (a ++ b) ∈ marksOf a 0 outer.children :=
    closing_mem_marksOf hb he helement a
  have houterElement : outer.isElement = true := by
    cases outer with
    | element => rfl
    | text => cases hinside
    | comment => cases hinside
    | instruction => cases hinside
  have hends : [.closing (a ++ b), .closing a].Sublist (outer.marks a) := by
    rw [marks_of_isElement houterElement]
    exact ((List.singleton_sublist.mpr hinside).append_right [.closing a]).cons _
  have hroot := hends.trans (marks_isInfix houter []).sublist
  have hpair := (pairwise_idxOf_marks root).sublist hroot
  exact (List.pairwise_cons.mp hpair).1 _ List.mem_cons_self

theorem closedBelow_eq (root : Node) :
    root.closedBelow = root.closedAddresses.filterMap root.at? := by
  have htags : (marksOf [] 0 root.children).filterMap (Mark.tag? root) = tagsOf root.children :=
    filterMap_tag?_marksOf fun j => by simp [at?]
  rw [closedBelow, ← htags, closedAddresses, List.filterMap_filterMap, List.filterMap_filterMap]
  congr 1
  funext m
  cases m with
  | opening a => cases h : root.at? a <;> simp [Mark.tag?, Mark.closed?, Tag.closed?, h]
  | closing a => cases h : root.at? a <;> simp [Mark.tag?, Mark.closed?, Tag.closed?, h]

end Node
end Xml

namespace RunResult

open Xml (Node)

/-- The addresses of the keywords below the root, in the order of their ends. -/
def keywordAddresses (root : Node) : List Xml.Address :=
  root.closedAddresses.filter fun a => (root.at? a).any (·.isNamed "kw")

theorem mem_keywordAddresses_iff {root : Node} {a : Xml.Address} :
    a ∈ keywordAddresses root ↔ a ≠ [] ∧ ∃ e, root.at? a = some e ∧ e.isNamed "kw" = true := by
  rw [keywordAddresses, List.mem_filter, Node.mem_closedAddresses_iff, Option.any_eq_true]
  constructor
  · rintro ⟨⟨hne, -⟩, hkeyword⟩
    exact ⟨hne, hkeyword⟩
  · rintro ⟨hne, e, he, hkeyword⟩
    exact ⟨⟨hne, e, he, Node.isElement_of_isNamed hkeyword⟩, e, he, hkeyword⟩

theorem keywordElements_eq_filterMap (root : Node) :
    keywordElements root = (keywordAddresses root).filterMap root.at? := by
  rw [keywordElements_eq, Node.closedBelow_eq, keywordAddresses, List.filter_filterMap,
    List.filterMap_filter]
  congr 1
  funext a
  cases h : root.at? a with
  | none => simp
  | some e => by_cases he : e.isNamed "kw" = true <;> simp [he]

theorem map_some_keywordElements (root : Node) :
    (keywordElements root).map some = (keywordAddresses root).map root.at? := by
  rw [keywordElements_eq_filterMap, List.map_filterMap_some_eq_filter_map_isSome,
    List.filter_eq_self]
  intro found hfound
  obtain ⟨a, ha, rfl⟩ := List.mem_map.mp hfound
  obtain ⟨-, e, he, -⟩ := mem_keywordAddresses_iff.mp ha
  rw [he]
  rfl

theorem pairwise_keywordAddresses (root : Node) :
    (keywordAddresses root).Pairwise fun a b => root.endTag a < root.endTag b :=
  (Node.pairwise_closedAddresses root).sublist List.filter_sublist

theorem lt_iff_endTag_lt {root : Node} {i j : Nat} {a b : Xml.Address}
    (hi : (keywordAddresses root)[i]? = some a) (hj : (keywordAddresses root)[j]? = some b) :
    i < j ↔ root.endTag a < root.endTag b := by
  have hends : ((keywordAddresses root).map root.endTag).SortedLT :=
    (List.pairwise_map.mpr (pairwise_keywordAddresses root)).sortedLT
  obtain ⟨hi, rfl⟩ := List.getElem?_eq_some_iff.mp hi
  obtain ⟨hj, rfl⟩ := List.getElem?_eq_some_iff.mp hj
  have hlt := @List.SortedLT.getElem_lt_getElem_iff _ _ _ hends i j (by simpa) (by simpa)
  simpa using hlt.symm

/-- The keywords of a result are the keyword elements below the root, each of them
once, in the order of their closing tags. In particular all that is inside a keyword
comes before it. -/
theorem keywords_in_end_order (zone : Time.Zone) (root : Node) :
    ∃ order : List Xml.Address,
      (ofTree zone root).keywords.map some =
        order.map (fun a => (root.at? a).map (Keyword.ofElement zone)) ∧
      order.Nodup ∧
      (∀ a, a ∈ order ↔ a ≠ [] ∧ ∃ e, root.at? a = some e ∧ e.isNamed "kw" = true) ∧
      (∀ (i j : Nat) (a b : Xml.Address), order[i]? = some a → order[j]? = some b →
        (i < j ↔ root.endTag a < root.endTag b)) ∧
      ∀ (i j : Nat) (a b : Xml.Address), order[i]? = some a → order[j]? = some (a ++ b) →
        b ≠ [] → j < i := by
  refine ⟨keywordAddresses root, ?_, ?_, fun a => mem_keywordAddresses_iff,
    fun i j a b hi hj => lt_iff_endTag_lt hi hj, fun i j a b hi hj hb => ?_⟩
  · calc (ofTree zone root).keywords.map some
        = ((keywordElements root).map some).map (Option.map (Keyword.ofElement zone)) := by
          simp [ofTree]
      _ = (keywordAddresses root).map fun a => (root.at? a).map (Keyword.ofElement zone) := by
          rw [map_some_keywordElements, List.map_map]
          rfl
  · apply (pairwise_keywordAddresses root).imp
    rintro a _ hlt rfl
    exact Nat.lt_irrefl _ hlt
  · obtain ⟨-, outer, houter, -⟩ := mem_keywordAddresses_iff.mp (List.mem_of_getElem? hi)
    obtain ⟨-, e, he, hkeyword⟩ := mem_keywordAddresses_iff.mp (List.mem_of_getElem? hj)
    have hinside := Node.endTag_lt_of_inside hb houter he (Node.isElement_of_isNamed hkeyword)
    exact (lt_iff_endTag_lt hj hi).mpr hinside

-- Inside a loop or not, what a keyword encloses comes before it; equal keywords stay apart.
example :
    let keyword : List Node → Node := .element ⟨none, "kw"⟩ []
    let loop : List Node → Node := .element ⟨none, "for"⟩ []
    keywordAddresses (loop [keyword [loop [keyword [], .comment, keyword []]], keyword []]) =
      [[0, 0, 0], [0, 0, 2], [0], [1]] := by
  decide

end RunResult
end Storyboard
