import Storyboard.Pattern.Escape
import Storyboard.Text.Cut

/-! # Sets of characters in patterns

A set stands in brackets. It holds characters, ranges, classes and other sets, and
the signs of set operations may stand between them. Sets are read to see that they
are well formed and how deeply they are nested.
-/
namespace Storyboard.Pattern

def Mode.allows (m : Mode) (c : Char) : Bool := m.unicode || c.toNat < 0x80

def Mode.allowsAtom (m : Mode) : Atom → Bool
  | .character c => m.allows c
  | .charClass => true
  | .place => false

def readAtom (m : Mode) : List Char → Option (Atom × List Char)
  | [] => none
  | '\\' :: cs => readEscape m cs
  | c :: cs => some (.character c, cs)

def Mode.ahead? (m : Mode) (cs : List Char) : Option Char :=
  if m.spaced then
    match cs.dropWhile Text.isBlank with
    | '#' :: rest => (rest.dropWhile Text.isBlank).head?
    | rest => rest.head?
  else cs.head?

/-- Drops an atom, or a range of characters in ascending order. A hyphen in front
of a bracket or of another hyphen makes no range. -/
def dropRange (m : Mode) (cs : List Char) : Option (List Char) :=
  match readAtom m cs with
  | none => none
  | some (first, rest) =>
    match m.skip rest with
    | [] => none
    | c :: rest =>
      if c != '-' || m.ahead? rest == some ']' || m.ahead? rest == some '-' then
        if m.allowsAtom first then some (c :: rest) else none
      else
        match first, readAtom m (m.skip rest) with
        | .character low, some (.character high, rest) =>
          if m.allows low && m.allows high && low.toNat ≤ high.toNat then some rest else none
        | _, _ => none

def classNames : List String :=
  ["alnum", "alpha", "ascii", "blank", "cntrl", "digit", "graph", "lower", "print", "punct",
   "space", "upper", "word", "xdigit"]

def readNamedClass : List Char → Option (Bool × List Char)
  | ':' :: cs =>
    let negated := cs.head? == some '^'
    match Text.cut ':' (if negated then cs.drop 1 else cs) with
    | some (name, ']' :: rest) =>
      if classNames.contains (String.ofList name) then some (negated, rest) else none
    | _ => none
  | _ => none

/-- Drops hyphens at the start of a set and counts them. The fuel bounds the steps;
one for every character is enough. -/
def dropHyphens (m : Mode) : Nat → Nat → List Char → Nat × List Char
  | fuel + 1, n, '-' :: cs => dropHyphens m fuel (n + 1) (m.skip cs)
  | _, n, cs => (n, cs)

/-- What follows the bracket that opens a set: the number of characters that stand
for themselves there, and the rest. A bracket that comes first does not close the
set. -/
def openSet (m : Mode) (cs : List Char) : Option (Nat × List Char) :=
  let cs := m.skip cs
  let negated := cs.head? == some '^'
  if negated && !m.unicode then none
  else
    let cs := if negated then m.skip (cs.drop 1) else cs
    match dropHyphens m cs.length 0 cs with
    | (0, ']' :: rest) => some (1, m.skip rest)
    | result => some result

structure SetFrame where
  /-- The number of members since the last operation. -/
  members : Nat
  /-- The depth of the deepest of them. -/
  deepest : Nat
  /-- The depth of what stands in front of the last operation. -/
  operand : Option Nat

namespace SetFrame

def add (f : SetFrame) (depth : Nat) : SetFrame :=
  { f with members := f.members + 1, deepest := max f.deepest depth }

def depth (f : SetFrame) : Nat :=
  let right := if f.members ≤ 1 then f.deepest else f.deepest + 1
  match f.operand with
  | none => right
  | some left => max left right + 1

def operate (f : SetFrame) : SetFrame := ⟨0, 0, some f.depth⟩

end SetFrame

/-- The depth of a set, and what follows it. The frames are the sets around the
place, the innermost first. The fuel bounds the steps, each of which takes a
character. -/
def readSet (m : Mode) : Nat → List SetFrame → List Char → Option (Nat × List Char)
  | 0, _, _ => none
  | fuel + 1, frames, cs =>
    match m.skip cs, frames with
    | '[' :: rest, frames =>
      match frames, readNamedClass rest with
      | frame :: outer, some (negated, rest) =>
        if negated && !m.unicode then none else readSet m fuel (frame.add 0 :: outer) rest
      | _, _ =>
        match openSet m rest with
        | some (n, rest) => readSet m fuel (⟨n, 0, none⟩ :: frames) rest
        | none => none
    | ']' :: rest, [frame] => some (frame.depth + 1, rest)
    | ']' :: rest, frame :: next :: outer =>
      readSet m fuel (next.add (frame.depth + 1) :: outer) rest
    | '&' :: '&' :: rest, frame :: outer => readSet m fuel (frame.operate :: outer) rest
    | '-' :: '-' :: rest, frame :: outer => readSet m fuel (frame.operate :: outer) rest
    | '~' :: '~' :: rest, frame :: outer => readSet m fuel (frame.operate :: outer) rest
    | cs, frame :: outer =>
      match dropRange m cs with
      | some rest => readSet m fuel (frame.add 0 :: outer) rest
      | none => none
    | _, [] => none

end Storyboard.Pattern
