import Storyboard.Text.Cut
import Storyboard.Text.Digits
import Storyboard.Xml.Character

/-! # Character data

Raw character data is made of literal runs and references. A reference stands
for exactly one character, which is kept as it is. Literal white space is
normalised: in an attribute every white-space character becomes a space, in text
every line end becomes a line feed.
-/
namespace Storyboard.Xml

inductive Piece
  | run (cs : List Char)
  | character (c : Char)
deriving DecidableEq, Repr

/-! ## References -/

def named? (name : List Char) : Option Char :=
  match name with
  | ['l', 't'] => some '<'
  | ['g', 't'] => some '>'
  | ['a', 'm', 'p'] => some '&'
  | ['q', 'u', 'o', 't'] => some '"'
  | ['a', 'p', 'o', 's'] => some '\''
  | _ => none

def hexNumeral (ds : List Char) : Nat := ds.foldl (fun n c => 16 * n + (Text.hexValue? c).getD 0) 0

/-- The character with a code point. A code point that no character has stands for
the replacement character. -/
def characterAt? (n : Nat) : Option Char :=
  if n < 0x100000000 then
    let c := if n.isValidChar then Char.ofNat n else Char.ofNat 0xFFFD
    if isAllowed c then some c else none
  else none

def referenced? (body : List Char) : Option Char :=
  match body with
  | '#' :: 'x' :: ds =>
    if !ds.isEmpty && ds.all (fun c => (Text.hexValue? c).isSome) then
      characterAt? (hexNumeral ds)
    else none
  | '#' :: ds => if !ds.isEmpty && ds.all Char.isDigit then characterAt? (Text.numeral ds) else none
  | name => named? name

def firstPiece? (c : Char) (rest : List Char) : Option (Piece × List Char) :=
  if c = '&' then
    match Text.cut ';' rest with
    | none => none
    | some (body, after) => (referenced? body).map fun c => (.character c, after)
  else some (.run (c :: rest.takeWhile (· != '&')), rest.dropWhile (· != '&'))

theorem firstPiece?_length {c : Char} {rest after : List Char} {p : Piece}
    (h : firstPiece? c rest = some (p, after)) : after.length ≤ rest.length := by
  unfold firstPiece? at h
  split at h
  · split at h
    · cases h
    · next hcut =>
      obtain ⟨c', _, he⟩ := Option.map_eq_some_iff.mp h
      cases he
      rw [Text.eq_of_cut hcut, List.length_append, List.length_cons]
      omega
  · cases h
    exact (List.dropWhile_suffix _).length_le

def pieces? (cs : List Char) : Option (List Piece) :=
  match cs with
  | [] => some []
  | c :: rest =>
    match firstPiece? c rest, @firstPiece?_length c rest with
    | none, _ => none
    | some (p, after), shorter =>
      have : after.length < rest.length + 1 := Nat.lt_succ_of_le (shorter rfl)
      (pieces? after).map (p :: ·)
termination_by cs.length

/-! ## Attribute values -/

/-- Literal white space as spaces; a carriage return in front of a line feed is
dropped. -/
def spaced : List Char → List Char
  | [] => []
  | '\r' :: '\n' :: rest => ' ' :: spaced rest
  | c :: rest => (if c == '\t' || c == '\n' || c == '\r' then ' ' else c) :: spaced rest

def Piece.inAttribute : Piece → List Char
  | .run cs => spaced cs
  | .character c => [c]

def attributeValue? (raw : List Char) : Option (List Char) :=
  (pieces? raw).map fun ps => ps.flatMap Piece.inAttribute

/-! ## Text -/

/-- Line ends as line feeds. A carriage return at the very end is a line end only
if `closing` says so. -/
def lineEnds (closing : Bool) : List Char → List Char
  | [] => []
  | ['\r'] => if closing then ['\n'] else ['\r']
  | '\r' :: '\n' :: rest => '\n' :: lineEnds closing rest
  | '\r' :: c :: rest => '\n' :: lineEnds closing (c :: rest)
  | c :: rest => c :: lineEnds closing rest

/-- The text of pieces. A carriage return in front of a reference is kept, and so
is one that stands alone between a reference and the end. -/
def joined (afterReference : Bool) : List Piece → List Char
  | [] => []
  | .run cs :: rest =>
    lineEnds (rest.isEmpty && !(afterReference && cs.length == 1)) cs ++ joined false rest
  | .character c :: rest => c :: joined true rest

def textContent? (raw : List Char) : Option (List Char) := (pieces? raw).map (joined false)

end Storyboard.Xml
