import Storyboard.Keyword

/-! # Arguments in a document

The arguments of a keyword stand among its children, or one level below in a list of
arguments. Their order is that of the document, and the text of an argument is the one
with which its content starts.
-/
namespace Storyboard

open Xml (Attribute Name Node)

namespace Xml.Node

/-! ## Arguments by the shape of the tree -/

/-- The text of an argument with some content: that of the first node, if this is a
text. -/
inductive StartWith : List Node → String → Prop
  | text (content : String) (rest : List Node) : StartWith (.text content :: rest) content
  | empty {ns : List Node} (h : ∀ content rest, ns ≠ .text content :: rest) : StartWith ns ""

/-- The arguments among some nodes, in their order. -/
inductive ListArguments : List Node → List String → Prop
  | nil : ListArguments [] []
  | argument {name : Name} {attributes : List Attribute} {inner rest : List Node} {s : String}
      {texts : List String} (hname : name.base = "arg") (hs : StartWith inner s)
      (h : ListArguments rest texts) :
      ListArguments (.element name attributes inner :: rest) (s :: texts)
  | other {n : Node} {rest : List Node} {texts : List String} (hn : n.isNamed "arg" = false)
      (h : ListArguments rest texts) : ListArguments (n :: rest) texts

/-- The arguments among the children of a keyword, in their order: children themselves,
or children of a list. -/
inductive HoldArguments : List Node → List String → Prop
  | nil : HoldArguments [] []
  | argument {name : Name} {attributes : List Attribute} {inner rest : List Node} {s : String}
      {texts : List String} (hname : name.base = "arg") (hs : StartWith inner s)
      (h : HoldArguments rest texts) :
      HoldArguments (.element name attributes inner :: rest) (s :: texts)
  | list {name : Name} {attributes : List Attribute} {inner rest : List Node}
      {listed texts : List String} (hname : name.base = "arguments")
      (hlist : ListArguments inner listed) (h : HoldArguments rest texts) :
      HoldArguments (.element name attributes inner :: rest) (listed ++ texts)
  | other {n : Node} {rest : List Node} {texts : List String} (hn : n.isNamed "arg" = false)
      (hlist : n.isNamed "arguments" = false) (h : HoldArguments rest texts) :
      HoldArguments (n :: rest) texts

theorem isNamed_element (base : String) (name : Name) (attributes : List Attribute)
    (ns : List Node) : isNamed base (.element name attributes ns) = (name.base == base) := rfl

theorem StartWith.unique {ns : List Node} {s t : String} (h : StartWith ns s)
    (h' : StartWith ns t) : s = t := by
  cases h with
  | text =>
    cases h' with
    | text => rfl
    | empty hne => exact absurd rfl (hne _ _)
  | empty hne =>
    cases h' with
    | text => exact absurd rfl (hne _ _)
    | empty => rfl

theorem ListArguments.unique {ns : List Node} {texts texts' : List String}
    (h : ListArguments ns texts) (h' : ListArguments ns texts') : texts = texts' := by
  induction h generalizing texts' with
  | nil =>
    cases h'
    rfl
  | argument hname hs _ ih =>
    cases h' with
    | argument _ hs' h' => rw [hs.unique hs', ih h']
    | other hn => simp [isNamed_element, hname] at hn
  | other hn _ ih =>
    cases h' with
    | argument hname => simp [isNamed_element, hname] at hn
    | other _ h' => exact ih h'

/-- No child counts in two ways, so the arguments are determined by the tree. -/
theorem HoldArguments.unique {ns : List Node} {texts texts' : List String}
    (h : HoldArguments ns texts) (h' : HoldArguments ns texts') : texts = texts' := by
  induction h generalizing texts' with
  | nil =>
    cases h'
    rfl
  | argument hname hs _ ih =>
    cases h' with
    | argument _ hs' h' => rw [hs.unique hs', ih h']
    | list hname' => simp [hname] at hname'
    | other hn => simp [isNamed_element, hname] at hn
  | list hname hlist _ ih =>
    cases h' with
    | argument hname' => simp [hname] at hname'
    | list _ hlist' h' => rw [hlist.unique hlist', ih h']
    | other _ hn => simp [isNamed_element, hname] at hn
  | other hn hlist _ ih =>
    cases h' with
    | argument hname => simp [isNamed_element, hname] at hn
    | list hname => simp [isNamed_element, hname] at hlist
    | other _ _ h' => exact ih h'

/-! ## The arguments of a keyword -/

def listedArguments (ns : List Node) : List String :=
  (ns.filter (·.isNamed "arg")).map (·.leadingText)

def argumentTexts (n : Node) : List String :=
  ((Keyword.unwrap n).filter (·.isNamed "arg")).map (·.leadingText)

theorem argumentTexts_element (name : Name) (attributes : List Attribute) (ns : List Node) :
    argumentTexts (.element name attributes ns) =
      (if name.base == "arg" then [leadingText (.element name attributes ns)] else []) ++
        if name.base == "arguments" then listedArguments ns else [] := by
  rw [argumentTexts, Keyword.unwrap, List.filter_cons, isNamed_element, isNamed_element]
  split <;> split <;> rfl

theorem startWith_leadingText (name : Name) (attributes : List Attribute) (ns : List Node) :
    StartWith ns (leadingText (.element name attributes ns)) := by
  cases ns with
  | nil => exact .empty (by simp)
  | cons n ns =>
    cases n with
    | text content => exact .text content ns
    | element => exact .empty (by simp)
    | comment => exact .empty (by simp)
    | instruction => exact .empty (by simp)

theorem listArguments_listedArguments (ns : List Node) :
    ListArguments ns (listedArguments ns) := by
  induction ns with
  | nil => exact .nil
  | cons n ns ih =>
    cases hn : n.isNamed "arg" with
    | false =>
      rw [listedArguments, List.filter_cons_of_neg (by simp [hn])]
      exact .other hn ih
    | true =>
      rw [listedArguments, List.filter_cons_of_pos hn, List.map_cons]
      cases n with
      | element name attributes inner =>
        exact .argument (beq_iff_eq.mp hn) (startWith_leadingText name attributes inner) ih
      | text => cases hn
      | comment => cases hn
      | instruction => cases hn

end Xml.Node

namespace Keyword

theorem argumentsOf_eq (ns : List Node) : argumentsOf ns = ns.flatMap Node.argumentTexts := by
  rw [argumentsOf, List.filter_flatMap, List.map_flatMap]
  rfl

theorem holdArguments_argumentsOf (ns : List Node) : Node.HoldArguments ns (argumentsOf ns) := by
  rw [argumentsOf_eq]
  induction ns with
  | nil => exact .nil
  | cons n ns ih =>
    rw [List.flatMap_cons]
    cases n with
    | element name attributes inner =>
      rw [Node.argumentTexts_element]
      by_cases harg : name.base = "arg"
      · rw [harg]
        exact .argument harg (Node.startWith_leadingText name attributes inner) ih
      · by_cases hlist : name.base = "arguments"
        · rw [hlist]
          exact .list hlist (Node.listArguments_listedArguments inner) ih
        · have hargOther : (name.base == "arg") = false := beq_eq_false_iff_ne.mpr harg
          have hlistOther : (name.base == "arguments") = false := beq_eq_false_iff_ne.mpr hlist
          rw [hargOther, hlistOther]
          exact .other hargOther hlistOther ih
    | text => exact .other rfl rfl ih
    | comment => exact .other rfl rfl ih
    | instruction => exact .other rfl rfl ih

end Keyword
end Storyboard
