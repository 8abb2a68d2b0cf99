/-! # Words

The integers that a signed word of 64 bits holds. Integers of this library are
unbounded; a result that has to fit a word is checked against its bounds.
-/
namespace Storyboard.Number.Word

def least : Int := -0x8000000000000000

def greatest : Int := 0x7FFFFFFFFFFFFFFF

def fits (n : Int) : Bool := least ≤ n && n ≤ greatest

def clamp (n : Int) : Int := max least (min greatest n)

def unsignedCount : Nat := 0x10000000000000000

theorem fits_iff {n : Int} : fits n = true ↔ least ≤ n ∧ n ≤ greatest := by
  simp [fits]

end Storyboard.Number.Word
