/-! # Cutting texts at byte positions

Positions count the bytes of a text as UTF-8. There is no cut inside a character.
-/
namespace Storyboard.Text

def dropBytes : Nat → List Char → Option (List Char)
  | 0, cs => some cs
  | _ + 1, [] => none
  | n + 1, c :: cs => if c.utf8Size ≤ n + 1 then dropBytes (n + 1 - c.utf8Size) cs else none

def takeBytes : Nat → List Char → Option (List Char)
  | 0, _ => some []
  | _ + 1, [] => none
  | n + 1, c :: cs =>
    if c.utf8Size ≤ n + 1 then (takeBytes (n + 1 - c.utf8Size) cs).map (c :: ·) else none

def slice (cs : List Char) (start stop : Nat) : Option (List Char) :=
  (dropBytes start cs).bind (takeBytes (stop - start))

end Storyboard.Text
