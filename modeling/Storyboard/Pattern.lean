import Storyboard.Pattern.CharSet
import Storyboard.Pattern.Group

/-! # Well-formed patterns

A pattern describes the values of a field: characters, sets, groups, alternatives
and repetitions. It is well formed if every repetition has something to repeat,
all brackets close, and nothing is nested more than 250 deep. Repetitions cannot
be counted, since a brace would end the field.
-/
namespace Storyboard.Pattern

structure Row where
  parts : Nat
  /-- The depth of the deepest part in front of the last one. -/
  deepest : Nat
  /-- The depth of the last part. -/
  last : Nat
  /-- Whether the last part can be repeated. -/
  repeatable : Bool

namespace Row

def empty : Row := ⟨0, 0, 0, false⟩

def add (r : Row) (depth : Nat) : Row := ⟨r.parts + 1, max r.deepest r.last, depth, true⟩

/-- Adds flags, which are a part that cannot be repeated. -/
def addFlags (r : Row) : Row := ⟨r.parts + 1, max r.deepest r.last, 0, false⟩

def repeatLast (r : Row) : Row := { r with last := r.last + 1 }

def depth (r : Row) : Nat := if r.parts ≤ 1 then r.last else max r.deepest r.last + 1

end Row

structure Frame where
  mode : Mode
  /-- The depth of the deepest alternative in front of the row, if there is one. -/
  alternatives : Option Nat
  row : Row

namespace Frame

def start (mode : Mode) : Frame := ⟨mode, none, Row.empty⟩

def add (f : Frame) (depth : Nat) : Frame := { f with row := f.row.add depth }

def alternate (f : Frame) : Frame :=
  { f with alternatives := some (max (f.alternatives.getD 0) f.row.depth), row := Row.empty }

def depth (f : Frame) : Nat :=
  match f.alternatives with
  | none => f.row.depth
  | some d => max d f.row.depth + 1

end Frame

def maxDepth : Nat := 250

/-- Whether the rest of a pattern is well formed. The frames are the groups around
the place, the innermost first, and `names` are the names of groups so far. The
fuel bounds the steps, each of which takes a character. -/
def readRest : Nat → List (List Char) → Frame → List Frame → List Char → Bool
  | 0, _, _, _, _ => false
  | fuel + 1, names, f, outer, cs =>
    match f.mode.skip cs with
    | [] => outer.isEmpty && decide (f.depth ≤ maxDepth)
    | '(' :: rest =>
      match readOpening f.mode rest with
      | some (.flags mode, rest) =>
        readRest fuel names { f with mode := mode, row := f.row.addFlags } outer rest
      | some (.group mode none, rest) => readRest fuel names (.start mode) (f :: outer) rest
      | some (.group mode (some name), rest) =>
        if names.contains name then false
        else readRest fuel (name :: names) (.start mode) (f :: outer) rest
      | none => false
    | ')' :: rest =>
      match outer with
      | [] => false
      | g :: outer => readRest fuel names (g.add (f.depth + 1)) outer rest
    | '|' :: rest => readRest fuel names f.alternate outer rest
    | '[' :: rest =>
      match readSet f.mode cs.length [] ('[' :: rest) with
      | some (depth, rest) => readRest fuel names (f.add depth) outer rest
      | none => false
    | '\\' :: rest =>
      match readEscape f.mode rest with
      | some (_, rest) => readRest fuel names (f.add 0) outer rest
      | none => false
    | '\x7b' :: _ => false
    | c :: rest =>
      if ['?', '*', '+'].contains c then
        f.row.repeatable &&
          readRest fuel names { f with row := f.row.repeatLast } outer
            (if rest.head? == some '?' then rest.drop 1 else rest)
      else if c == '.' && !f.mode.unicode then false
      else readRest fuel names (f.add 0) outer rest

def isWellFormed (cs : List Char) : Bool :=
  readRest (cs.length + 1) [] (.start .initial) [] cs

end Storyboard.Pattern
