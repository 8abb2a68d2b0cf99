/-! # Rows of digits

The numeral is the number that a row of decimal digits denotes, leading zeros
allowed. Hexadecimal digits have their value each.
-/
namespace Storyboard.Text

def digitValue (c : Char) : Nat := c.toNat - '0'.toNat

def numeral (ds : List Char) : Nat := ds.foldl (fun n c => 10 * n + digitValue c) 0

def decimal (n : Nat) : List Char := (toString n).toList

def hexValue? (c : Char) : Option Nat :=
  if c.isDigit then some (digitValue c)
  else if 'a' ≤ c ∧ c ≤ 'f' then some (c.toNat - 'a'.toNat + 10)
  else if 'A' ≤ c ∧ c ≤ 'F' then some (c.toNat - 'A'.toNat + 10)
  else none

@[simp] theorem numeral_nil : numeral [] = 0 := rfl

theorem numeral_append_singleton (ds : List Char) (c : Char) :
    numeral (ds ++ [c]) = 10 * numeral ds + digitValue c := by
  simp [numeral, List.foldl_append]

end Storyboard.Text
