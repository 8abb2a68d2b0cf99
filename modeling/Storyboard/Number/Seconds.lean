import Storyboard.Number.Binary64
import Storyboard.Number.Word
import Storyboard.Text.Blank
import Storyboard.Text.Digits

/-! # Written seconds

A duration is written as a decimal number of seconds, with an optional sign,
point and exponent. It is read as the nearest binary64 number, multiplied by 1000
there and rounded to whole milliseconds, a half away from zero.
-/
namespace Storyboard.Number.Seconds

def readSign : List Char → Bool × List Char
  | '-' :: rest => (true, rest)
  | '+' :: rest => (false, rest)
  | rest => (false, rest)

def readExponent : List Char → Option Int
  | [] => some 0
  | c :: rest =>
    if c = 'e' ∨ c = 'E' then
      let (negative, ds) := readSign rest
      if !ds.isEmpty && ds.all Char.isDigit then
        some (if negative then -(Text.numeral ds : Int) else Text.numeral ds)
      else none
    else none

def readDigits (cs : List Char) : List Char × List Char × List Char :=
  let whole := cs.takeWhile Char.isDigit
  match cs.drop whole.length with
  | '.' :: rest =>
    let part := rest.takeWhile Char.isDigit
    (whole, part, rest.drop part.length)
  | rest => (whole, [], rest)

def read? (cs : List Char) : Option Binary64 :=
  let (negative, cs) := readSign cs
  let (whole, part, rest) := readDigits cs
  if whole.isEmpty && part.isEmpty then none
  else
    match readExponent rest with
    | none => none
    | some e => Binary64.ofDecimal negative (Text.numeral (whole ++ part)) (e - part.length)

def thousand : Binary64 := ⟨false, 1000 * Nat.pow 2 43, -43⟩

/-- The milliseconds of a number of seconds; a product too large for binary64
stops at the bound of a word. -/
def toMillis (x : Binary64) : Int :=
  match x.mul thousand with
  | some y => Word.clamp y.round
  | none => if x.negative then Word.least else Word.greatest

/-- The milliseconds of a written duration. A text that is no finite number
counts as zero. -/
def millis (text : String) : Int :=
  match read? (Text.trim text.toList) with
  | some x => toMillis x
  | none => 0

end Storyboard.Number.Seconds
