import Storyboard.Proofs.NodeViews

/-! # Nodes without relevance

A result takes nothing from texts, comments and instructions outside of arguments, nor from
elements that it does not look for and that hold no keyword. Such a node may be left out at
any depth and at any place among its siblings. Inside an argument it may not: there the
first node decides whether the argument has a text.
-/
namespace Storyboard

open Xml (Node)

variable {zone : Time.Zone} {name : Xml.Name} {attributes : List Xml.Attribute}
  {before after : List Node} {n : Node}

namespace Xml.Node

def soughtNames : List String := ["kw", "arg", "arguments", "status", "suite"]

/-- A node is no keyword and there is none inside. -/
def KeywordFree (n : Node) : Prop := ∀ a e, n.at? a = some e → e.isNamed "kw" = false

/-- A node is no element, or it is one that no result looks for and that holds no keyword. -/
def Irrelevant (n : Node) : Prop :=
  n.isElement = true → (∀ base ∈ soughtNames, n.isNamed base = false) ∧ n.KeywordFree

theorem keywordFree_iff : n.KeywordFree ↔ n.keywordEnds = [] := by
  constructor
  · intro h
    have hitself : n.isNamed "kw" = false := h [] n rfl
    have hnone : RunResult.keywordAddresses n = [] := by
      apply List.eq_nil_iff_forall_not_mem.mpr
      intro a ha
      obtain ⟨-, e, he, hkeyword⟩ := RunResult.mem_keywordAddresses_iff.mp ha
      simp [h a e he] at hkeyword
    simp [keywordEnds, RunResult.keywordElements_eq_filterMap, hnone, hitself]
  · intro h a e he
    obtain ⟨hbelow, hitself⟩ := List.append_eq_nil_iff.mp h
    apply Bool.eq_false_iff.mpr
    intro hkeyword
    by_cases ha : a = []
    · subst ha
      cases he
      simp [hkeyword] at hitself
    · have hmem : a ∈ RunResult.keywordAddresses n :=
        RunResult.mem_keywordAddresses_iff.mpr ⟨ha, e, he, hkeyword⟩
      have hfound : e ∈ RunResult.keywordElements n := by
        rw [RunResult.keywordElements_eq_filterMap]
        exact List.mem_filterMap.mpr ⟨a, hmem, he⟩
      simp [hbelow] at hfound

namespace Irrelevant

theorem isNamed_eq_false (h : n.Irrelevant) {base : String} (hbase : base ∈ soughtNames) :
    n.isNamed base = false := by
  apply Bool.eq_false_iff.mpr
  intro hnamed
  have hother := (h (isElement_of_isNamed hnamed)).1 base hbase
  simp [hnamed] at hother

theorem keywordEnds_eq_nil (h : n.Irrelevant) : n.keywordEnds = [] := by
  cases n with
  | element name attributes children => exact keywordFree_iff.mp (h rfl).2
  | text => rfl
  | comment => rfl
  | instruction => rfl

theorem argumentTexts_eq_nil (h : n.Irrelevant) : n.argumentTexts = [] := by
  have hdirect : n.isNamed "arg" = false := h.isNamed_eq_false (by decide)
  have hlist : n.isNamed "arguments" = false := h.isNamed_eq_false (by decide)
  simp [argumentTexts, Keyword.unwrap, hdirect, hlist]

theorem child?_without (h : n.Irrelevant) {base : String} (hbase : base ∈ soughtNames) :
    child? base (.element name attributes (before ++ after)) =
      child? base (.element name attributes (before ++ n :: after)) := by
  simp [child?, children, List.find?_append, h.isNamed_eq_false hbase]

theorem flatMap_keywordEnds_without (h : n.Irrelevant) :
    (before ++ after).flatMap keywordEnds = (before ++ n :: after).flatMap keywordEnds := by
  simp [h.keywordEnds_eq_nil]

theorem argumentsOf_without (h : n.Irrelevant) :
    Keyword.argumentsOf (before ++ after) = Keyword.argumentsOf (before ++ n :: after) := by
  simp [Keyword.argumentsOf_eq, h.argumentTexts_eq_nil]

theorem listedArguments_without (h : n.Irrelevant) :
    listedArguments (before ++ after) = listedArguments (before ++ n :: after) := by
  have hdirect : n.isNamed "arg" = false := h.isNamed_eq_false (by decide)
  simp [listedArguments, hdirect]

/-- Of an element that is no argument the same is taken without the node. -/
theorem view_without (h : n.Irrelevant) (hname : name.base ≠ "arg") :
    view zone (.element name attributes (before ++ after)) =
      view zone (.element name attributes (before ++ n :: after)) := by
  refine view_element ?_ ?_ (Keyword.ofElement_congr ?_ ?_ ?_)
  · have hnotArgument : (name.base == "arg") = false := beq_eq_false_iff_ne.mpr hname
    rw [argumentTexts_element, argumentTexts_element, hnotArgument, h.listedArguments_without]
    rfl
  · rw [h.flatMap_keywordEnds_without]
  · rfl
  · rw [h.child?_without (by decide)]
  · exact h.argumentsOf_without

end Irrelevant
end Xml.Node

namespace RunResult

/-- The root is no keyword and has no view of its own: its suite and the keywords below it
are read directly. -/
theorem ofTree_root_without (h : n.Irrelevant) :
    ofTree zone (.element name attributes (before ++ after)) =
      ofTree zone (.element name attributes (before ++ n :: after)) := by
  have hsuite : suiteNameOf (.element name attributes (before ++ after)) =
      suiteNameOf (.element name attributes (before ++ n :: after)) := by
    rw [suiteNameOf, suiteNameOf, h.child?_without (by decide)]
  have hkeywords : keywordElements (.element name attributes (before ++ after)) =
      keywordElements (.element name attributes (before ++ n :: after)) := by
    simp only [keywordElements_eq_flatMap, Node.children]
    exact h.flatMap_keywordEnds_without
  rw [ofTree, ofTree, hsuite, hkeywords]

/-- Leaving out an irrelevant node, anywhere but in an argument, leaves the result as it
is. -/
theorem ofTree_without (zone : Time.Zone) {root : Node} {a : Xml.Address}
    (hparent : root.at? a = some (.element name attributes (before ++ n :: after)))
    (hname : name.base ≠ "arg") (hn : n.Irrelevant) :
    ofTree zone (root.replaceAt a (.element name attributes (before ++ after))) =
      ofTree zone root := by
  cases a with
  | nil =>
    cases hparent
    exact ofTree_root_without hn
  | cons i a => exact ofTree_replaceAt (List.cons_ne_nil i a) hparent (hn.view_without hname)

/-- A documentation with an argument and a status of its own is left out in front of those of
the keyword. -/
theorem ofTree_without_documentation :
    let element : String → List Node → Node := fun name => .element ⟨none, name⟩ []
    let argument : String → Node := fun content => element "arg" [.text content]
    let status : String → Node := fun s => .element ⟨none, "status"⟩ [⟨⟨none, "status"⟩, s⟩] []
    let documentation := element "doc" [argument "inner", status "FAIL", .comment]
    let after := [argument "first", status "PASS"]
    let root := element "robot"
      [element "suite" [element "kw" ([.text " "] ++ documentation :: after)]]
    documentation.Irrelevant ∧
      ofTree .utc (root.replaceAt [0, 0] (element "kw" ([.text " "] ++ after))) = ofTree .utc root ∧
      (ofTree .utc root).keywords.map (fun k => (k.arguments, k.status)) =
        [(["first"], "PASS")] := by
  intro element argument status documentation after root
  have hirrelevant : documentation.Irrelevant := by
    intro _
    exact ⟨by decide, Node.keywordFree_iff.mpr rfl⟩
  have hparent : root.at? [0, 0] =
      some (.element ⟨none, "kw"⟩ [] ([.text " "] ++ documentation :: after)) := rfl
  exact ⟨hirrelevant, ofTree_without .utc hparent (by decide) hirrelevant, by decide +kernel⟩

end RunResult
end Storyboard
