import Storyboard.Text.Blank
import Storyboard.Text.Digits
import Storyboard.Time.WallTime

/-! # Layouts of written times

A layout is a list of items that are read from left to right. Numbers may be
preceded by white space; marks match exactly; a layout reads a text only if it
uses all of it.
-/
namespace Storyboard.Time

inductive Item
  | year
  | month
  | day
  | hour
  | minute
  | second
  /-- Nothing, or a point and digits of a second. -/
  | fraction
  /-- Any white space, also none. -/
  | space
  | mark (c : Char)
deriving DecidableEq, Repr

abbrev Layout := List Item

structure Fields where
  year : Int := 0
  month : Nat := 0
  day : Nat := 0
  hour : Nat := 0
  minute : Nat := 0
  second : Nat := 0
  nanos : Nat := 0
deriving DecidableEq, Repr

def Fields.toWallTime? (f : Fields) : Option WallTime :=
  WallTime.ofFields? ⟨f.year, f.month, f.day⟩ f.hour f.minute f.second f.nanos

/-- One or more digits, but no more than `limit`; the longest such row is taken. -/
def readDigits (limit : Nat) (cs : List Char) : Option (Nat × List Char) :=
  let ds := (cs.take limit).takeWhile Char.isDigit
  if ds.isEmpty then none else some (Text.numeral ds, cs.drop ds.length)

def readPair (cs : List Char) : Option (Nat × List Char) :=
  readDigits 2 (cs.dropWhile Text.isBlank)

/-- A year after white space: up to four digits, or a sign and any number of
them. -/
def readYear (cs : List Char) : Option (Int × List Char) :=
  match cs.dropWhile Text.isBlank with
  | '-' :: rest => (readDigits rest.length rest).map fun (n, rest) => (-(n : Int), rest)
  | '+' :: rest => (readDigits rest.length rest).map fun (n, rest) => ((n : Int), rest)
  | rest => (readDigits 4 rest).map fun (n, rest) => ((n : Int), rest)

/-- The nanoseconds of the digits after a point. Digits after the ninth are
dropped. -/
def nanosOf (ds : List Char) : Nat :=
  let kept := ds.take 9
  Text.numeral kept * Nat.pow 10 (9 - kept.length)

def readFraction : List Char → Option (Nat × List Char)
  | '.' :: rest =>
    let ds := rest.takeWhile Char.isDigit
    if ds.isEmpty then none else some (nanosOf ds, rest.drop ds.length)
  | rest => some (0, rest)

namespace Item

def read (f : Fields) (cs : List Char) : Item → Option (Fields × List Char)
  | .year => (readYear cs).map fun (n, rest) => ({ f with year := n }, rest)
  | .month => (readPair cs).map fun (n, rest) => ({ f with month := n }, rest)
  | .day => (readPair cs).map fun (n, rest) => ({ f with day := n }, rest)
  | .hour => (readPair cs).map fun (n, rest) => ({ f with hour := n }, rest)
  | .minute => (readPair cs).map fun (n, rest) => ({ f with minute := n }, rest)
  | .second => (readPair cs).map fun (n, rest) => ({ f with second := n }, rest)
  | .fraction => (readFraction cs).map fun (n, rest) => ({ f with nanos := n }, rest)
  | .space => some (f, cs.dropWhile Text.isBlank)
  | .mark c =>
    match cs with
    | [] => none
    | c' :: rest => if c' = c then some (f, rest) else none

end Item

namespace Layout

def readFrom : Fields → Layout → List Char → Option (Fields × List Char)
  | f, [], cs => some (f, cs)
  | f, item :: items, cs =>
    match item.read f cs with
    | none => none
    | some (f, rest) => readFrom f items rest

def read? (layout : Layout) (cs : List Char) : Option WallTime :=
  match readFrom {} layout cs with
  | some (f, []) => f.toWallTime?
  | _ => none

def clock : Layout := [.hour, .mark ':', .minute, .mark ':', .second]
def compactDate : Layout := [.year, .month, .day, .space]
def dashedDate : Layout := [.year, .mark '-', .month, .mark '-', .day, .space]

/-- The layouts of written times, in the order in which they are tried. -/
def accepted : List Layout :=
  [compactDate ++ clock ++ [.fraction], compactDate ++ clock,
   dashedDate ++ clock ++ [.fraction], dashedDate ++ clock]

end Layout

def WallTime.read? (layouts : List Layout) (text : String) : Option WallTime :=
  layouts.findSome? fun layout => layout.read? text.toList

end Storyboard.Time
