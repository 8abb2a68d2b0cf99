import Storyboard.Journal.Directive
import Storyboard.Text.Cut

/-! # Journal filters

A filter says which events of a journal are shown. It is written as directives
between commas. Of the directives that apply to an event the most specific one
decides, and the later one of two that are alike.
-/
namespace Storyboard

abbrev Filter := List Directive

namespace Filter

/-- The filter of a run that asks for none: warnings and errors. -/
def standard : Filter := [⟨none, none, false, .warning⟩]

def readAll : List (List Char) → Except Directive.Trouble Filter
  | [] => .ok []
  | text :: rest => do
    let d ← Directive.read text
    let f ← readAll rest
    return d :: f

/-- The filter that a text describes. A text with a directive that cannot be read
counts as none. There is no filter for a text that would cut a character. -/
def ofText (text : Option String) : Option Filter :=
  match text with
  | none => some standard
  | some t =>
    match readAll ((Text.split ',' t.toList).filter (!·.isEmpty)) with
    | .ok f => some f
    | .error .unreadable => some standard
    | .error .splitCharacter => none

def deciding? (f : Filter) (e : Event) : Option Directive :=
  (f.filter (·.appliesTo e)).foldl
    (fun best d =>
      match best with
      | none => some d
      | some b => if d.outranks b then some d else some b)
    none

def shows (f : Filter) (e : Event) : Bool :=
  match f.deciding? e with
  | some d => d.level.rank ≤ e.level.rank
  | none => false

end Filter

def Journal.shown (j : Journal) (f : Filter) : Journal := j.filter f.shows

end Storyboard
