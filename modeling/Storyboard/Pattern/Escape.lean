import Storyboard.Text.Blank
import Storyboard.Text.Digits

/-! # Escapes in patterns

A backslash stands in front of a character that is meant as it is, of a code
point, of a class of characters or of a place in the text. Which of them a pattern
may use depends on the mode that its flags have set.
-/
namespace Storyboard.Pattern

structure Mode where
  /-- White space and comments do not count. -/
  spaced : Bool
  /-- Characters are matched and not bytes. Among bytes, nothing may match a part of
  a character. -/
  unicode : Bool
deriving DecidableEq, Repr

def Mode.initial : Mode := ⟨false, true⟩

/-- Drops white space and comments. A comment runs from `#` to the end of its line;
the flag says whether the text starts inside one. -/
def dropSpace : Bool → List Char → List Char
  | _, [] => []
  | true, c :: cs => dropSpace (c != '\n') cs
  | false, c :: cs =>
    if Text.isBlank c then dropSpace false cs
    else if c = '#' then dropSpace true cs
    else c :: cs

def Mode.skip (m : Mode) (cs : List Char) : List Char :=
  if m.spaced then dropSpace false cs else cs

inductive Atom
  | character (c : Char)
  | charClass
  | place
deriving DecidableEq, Repr

def readHex (m : Mode) : Nat → Nat → List Char → Option (Nat × List Char)
  | 0, value, cs => some (value, cs)
  | _ + 1, _, [] => none
  | n + 1, value, c :: cs =>
    match Text.hexValue? c with
    | some d => readHex m n (16 * value + d) (m.skip cs)
    | none => none

/-- The character whose code point has a number of digits. Two digits name a byte
where bytes are matched. -/
def readCodePoint (m : Mode) (digits : Nat) (cs : List Char) : Option (Atom × List Char) :=
  match readHex m digits 0 (m.skip cs) with
  | none => none
  | some (n, rest) =>
    if n.isValidChar && (m.unicode || digits != 2 || n < 0x80) then
      some (.character (Char.ofNat n), rest)
    else none

def categories : List Char := ['c', 'l', 'm', 'n', 'p', 's', 'z']

def readCategory (m : Mode) (cs : List Char) : Option (Atom × List Char) :=
  match m.skip cs with
  | [] => none
  | c :: rest =>
    if m.unicode && categories.contains c.toLower then some (.charClass, m.skip rest) else none

def isEscapable (c : Char) : Bool :=
  c.toNat < 0x80 && !c.isAlphanum && c != '<' && c != '>'

def control? (c : Char) : Option Char :=
  match c with
  | 'a' => some '\x07'
  | 'f' => some '\x0c'
  | 't' => some '\t'
  | 'n' => some '\n'
  | 'r' => some '\r'
  | 'v' => some '\x0b'
  | _ => none

/-- What follows a backslash. The ends of words are known among bytes only. -/
def readEscape (m : Mode) : List Char → Option (Atom × List Char)
  | [] => none
  | 'x' :: cs => readCodePoint m 2 cs
  | 'u' :: cs => readCodePoint m 4 cs
  | 'U' :: cs => readCodePoint m 8 cs
  | 'p' :: cs => readCategory m cs
  | 'P' :: cs => readCategory m cs
  | c :: cs =>
    if isEscapable c then some (.character c, cs)
    else if ['d', 's', 'w'].contains c then some (.charClass, cs)
    else if ['D', 'S', 'W'].contains c then if m.unicode then some (.charClass, cs) else none
    else if ['A', 'z'].contains c then some (.place, cs)
    else if ['b', 'B', '<', '>'].contains c then if m.unicode then none else some (.place, cs)
    else (control? c).map fun c => (.character c, cs)

end Storyboard.Pattern
