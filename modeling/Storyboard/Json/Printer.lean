import Storyboard.Json.Value
import Storyboard.Number.Shortest
import Storyboard.Text.Digits

/-! # Printed JSON

A printed value is compact or spread over lines with an indent of two spaces for
each level; empty arrays and objects stay on one line. Members are printed in the
order in which the value lists them.
-/
namespace Storyboard.Json

/-! ## Numbers -/

/-- How real numbers are written: which powers of ten of the leading digit are
written without an exponent. -/
structure RealLayout where
  leastPlain : Int
  greatestPlain : Int

/-- Numbers from 0.00001 up to 16 digits in front of the point are written
plainly, with at least one digit after the point. -/
def realLayout : RealLayout := ⟨-5, 15⟩

def withPoint (ds : List Char) (whole : Nat) : List Char :=
  let part := ds.drop whole
  ds.take whole ++ List.replicate (whole - ds.length) '0' ++
    '.' :: (if part.isEmpty then ['0'] else part)

def plainReal (ds : List Char) (power : Int) : List Char :=
  if power < 0 then '0' :: '.' :: (List.replicate (-power - 1).toNat '0' ++ ds)
  else withPoint ds (power.toNat + 1)

def scientificReal (ds : List Char) (power : Int) : List Char :=
  let lead := match ds with
    | [] => []
    | [d] => [d]
    | d :: rest => d :: '.' :: rest
  lead ++ 'e' :: (if power < 0 then '-' else '+') :: Text.decimal power.natAbs

def magnitude (layout : RealLayout) (x : Number.Binary64) : List Char :=
  if x.isZero then ['0', '.', '0']
  else
    let d := Number.shortest x.significand x.exponent
    let ds := Text.decimal d.digits
    let power := d.exponent + ds.length - 1
    if layout.leastPlain ≤ power ∧ power ≤ layout.greatestPlain then plainReal ds power
    else scientificReal ds power

def Number.print : Number → List Char
  | .integer (.ofNat n) => Text.decimal n
  | .integer (.negSucc n) => '-' :: Text.decimal (n + 1)
  | .real x => if x.negative then '-' :: magnitude realLayout x else magnitude realLayout x

/-! ## Texts -/

def hexDigit (n : Nat) : Char :=
  if n < 10 then Char.ofNat ('0'.toNat + n) else Char.ofNat ('a'.toNat + n - 10)

/-- Quotes, backslashes and control characters are escaped; all else is written
as it is. -/
def escape (c : Char) : List Char :=
  if c = '"' then ['\\', '"']
  else if c = '\\' then ['\\', '\\']
  else if c = '\x08' then ['\\', 'b']
  else if c = '\t' then ['\\', 't']
  else if c = '\n' then ['\\', 'n']
  else if c = '\x0c' then ['\\', 'f']
  else if c = '\r' then ['\\', 'r']
  else if c.toNat < 0x20 then
    ['\\', 'u', '0', '0', hexDigit (c.toNat / 16), hexDigit (c.toNat % 16)]
  else [c]

def quoted (s : String) : List Char := '"' :: (s.toList.flatMap escape ++ ['"'])

/-! ## Values -/

/-- The white space of a printed value: what starts the line of an item at a
level, and what follows a colon. -/
structure Spacing where
  line : Nat → List Char
  afterColon : List Char

def Spacing.compact : Spacing := ⟨fun _ => [], []⟩
def Spacing.pretty : Spacing := ⟨fun level => '\n' :: List.replicate (2 * level) ' ', [' ']⟩

mutual

def print (sp : Spacing) (level : Nat) : Json → List Char
  | .null => ['n', 'u', 'l', 'l']
  | .bool true => ['t', 'r', 'u', 'e']
  | .bool false => ['f', 'a', 'l', 's', 'e']
  | .number n => n.print
  | .text s => quoted s
  | .array [] => ['[', ']']
  | .array (item :: items) =>
    '[' :: (sp.line (level + 1) ++ print sp (level + 1) item ++ printItems sp (level + 1) items ++
      sp.line level ++ [']'])
  | .object [] => ['\x7b', '\x7d']
  | .object (member :: members) =>
    '\x7b' :: (sp.line (level + 1) ++ printMember sp (level + 1) member ++
      printMembers sp (level + 1) members ++ sp.line level ++ ['\x7d'])

def printItems (sp : Spacing) (level : Nat) : List Json → List Char
  | [] => []
  | item :: items =>
    ',' :: (sp.line level ++ print sp level item ++ printItems sp level items)

def printMember (sp : Spacing) (level : Nat) : String × Json → List Char
  | (key, value) => quoted key ++ ':' :: (sp.afterColon ++ print sp level value)

def printMembers (sp : Spacing) (level : Nat) : List (String × Json) → List Char
  | [] => []
  | member :: members =>
    ',' :: (sp.line level ++ printMember sp level member ++ printMembers sp level members)

end

def compact (j : Json) : String := String.ofList (print .compact 0 j)
def pretty (j : Json) : String := String.ofList (print .pretty 0 j)

end Storyboard.Json
