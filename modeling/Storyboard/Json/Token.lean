import Storyboard.Json.Value
import Storyboard.Number.Word
import Storyboard.Text.Digits

/-! # JSON tokens

Tokens are marks, the three words, numbers and texts. White space between tokens
is a space, a tab, a line feed or a carriage return. A number token holds the
value of the number and a text token its characters with all escapes resolved.
-/
namespace Storyboard.Json

inductive Token
  | openArray
  | closeArray
  | openObject
  | closeObject
  | comma
  | colon
  | null
  | bool (b : Bool)
  | number (n : Number)
  | text (s : String)
deriving DecidableEq, Repr

def isSpace (c : Char) : Bool := c == ' ' || c == '\t' || c == '\n' || c == '\r'

/-! ## Texts -/

def unit? (a b c d : Char) : Option Nat := do
  return (((← Text.hexValue? a) * 16 + (← Text.hexValue? b)) * 16 + (← Text.hexValue? c)) * 16 +
    (← Text.hexValue? d)

def isHighSurrogate (n : Nat) : Bool := 0xD800 ≤ n && n < 0xDC00
def isLowSurrogate (n : Nat) : Bool := 0xDC00 ≤ n && n < 0xE000

def ofSurrogates (high low : Nat) : Char :=
  Char.ofNat (0x10000 + (high - 0xD800) * 0x400 + (low - 0xDC00))

def unescape? (c : Char) : Option Char :=
  if c = '"' ∨ c = '\\' ∨ c = '/' then some c
  else if c = 'b' then some '\x08'
  else if c = 't' then some '\t'
  else if c = 'n' then some '\n'
  else if c = 'f' then some '\x0c'
  else if c = 'r' then some '\r'
  else none

/-- The characters of a text up to its closing quote, and what follows. Control
characters have to be escaped, and surrogates come in pairs. -/
def readText : List Char → Option (List Char × List Char)
  | [] => none
  | '"' :: rest => some ([], rest)
  | '\\' :: 'u' :: a :: b :: c :: d :: rest =>
    match unit? a b c d with
    | none => none
    | some n =>
      if isHighSurrogate n then
        match rest with
        | '\\' :: 'u' :: e :: f :: g :: h :: rest =>
          match unit? e f g h with
          | none => none
          | some m =>
            if isLowSurrogate m then
              (readText rest).map fun (cs, rest) => (ofSurrogates n m :: cs, rest)
            else none
        | _ => none
      else if isLowSurrogate n then none
      else (readText rest).map fun (cs, rest) => (Char.ofNat n :: cs, rest)
  | '\\' :: c :: rest =>
    match unescape? c with
    | none => none
    | some c => (readText rest).map fun (cs, rest) => (c :: cs, rest)
  | c :: rest =>
    if c.toNat < 0x20 ∨ c = '\\' then none
    else (readText rest).map fun (cs, rest) => (c :: cs, rest)

/-! ## Numbers -/

/-- Collects digits as long as the number fits a word; also gives the digits that
were left over. -/
def collect (n : Nat) : List Char → Nat × List Char
  | [] => (n, [])
  | c :: cs =>
    let next := n * 10 + Text.digitValue c
    if next < Number.Word.unsignedCount then collect next cs else (n, c :: cs)

def largestPower : Nat := 308

def powerOfTen (e : Nat) : Option Number.Binary64 := Number.Binary64.ofNat (Nat.pow 10 e)

/-- Divides by the largest power of ten that is a number, `n` times or until
nothing is left. -/
def divideRepeatedly (x : Number.Binary64) : Nat → Option Number.Binary64
  | 0 => some x
  | n + 1 =>
    if x.isZero then some x
    else
      match (powerOfTen largestPower).bind x.div with
      | none => none
      | some y => divideRepeatedly y n

def divideByPower (x : Number.Binary64) (e : Nat) : Option Number.Binary64 :=
  let n := (e - 1) / largestPower
  match divideRepeatedly x n with
  | none => none
  | some y => (powerOfTen (e - n * largestPower)).bind y.div

/-- The number `digits · 10^e`, rounded after the conversion of the digits and
after each product or quotient. -/
def scale (digits : Nat) (e : Int) : Option Number.Binary64 :=
  match Number.Binary64.ofNat digits with
  | none => none
  | some x =>
    if e < 0 then divideByPower x (-e).toNat
    else if x.isZero then some x
    else if e ≤ largestPower then (powerOfTen e.toNat).bind x.mul
    else none

/-- The value of a number without a fraction and an exponent. An integer has to
fit a word of 64 bits, a signed one below zero, and minus zero is no integer. -/
def integerValue (negative : Bool) (whole : List Char) : Option Number :=
  let n := Text.numeral whole
  if !negative && n < Number.Word.unsignedCount then some (.integer n)
  else if negative && 0 < n && Number.Word.fits (-(n : Int)) then some (.integer (-(n : Int)))
  else
    let (digits, dropped) := collect 0 whole
    (scale digits dropped.length).map fun x => .real { x with negative := negative }

/-- The value of a number with a fraction or an exponent. Digits that do not fit a
word only count for the size of the number. -/
def realValue (negative : Bool) (whole part : List Char) (e : Int) : Option Number :=
  let (digits, dropped) := collect 0 whole
  let (digits, unused) := collect digits part
  let used := part.length - unused.length
  (scale digits (dropped.length - used + e)).map fun x => .real { x with negative := negative }

def readSign : List Char → Bool × List Char
  | '-' :: rest => (true, rest)
  | '+' :: rest => (false, rest)
  | rest => (false, rest)

def readRow (cs : List Char) : Option (List Char × List Char) :=
  let ds := cs.takeWhile Char.isDigit
  if ds.isEmpty then none else some (ds, cs.dropWhile Char.isDigit)

def readFraction : List Char → Option (List Char × List Char)
  | '.' :: rest => readRow rest
  | rest => some ([], rest)

def readExponent : List Char → Option (Option Int × List Char)
  | [] => some (none, [])
  | c :: rest =>
    if c = 'e' ∨ c = 'E' then
      let (negative, rest) := readSign rest
      match readRow rest with
      | none => none
      | some (ds, rest) =>
        let n : Int := Text.numeral ds
        some (some (if negative then -n else n), rest)
    else some (none, c :: rest)

def numberValue (negative : Bool) (whole part : List Char) (e : Option Int) : Option Number :=
  if part.isEmpty && e.isNone then integerValue negative whole
  else realValue negative whole part (e.getD 0)

/-- A number without its sign. Only the number zero starts with a zero. -/
def readUnsigned (negative : Bool) (cs : List Char) : Option (Number × List Char) :=
  match readRow cs with
  | none => none
  | some (whole, rest) =>
    if whole.head? = some '0' ∧ whole.length ≠ 1 then none
    else
      match readFraction rest with
      | none => none
      | some (part, rest) =>
        match readExponent rest with
        | none => none
        | some (e, rest) => (numberValue negative whole part e).map fun n => (n, rest)

/-! ## Tokens -/

def mark? (c : Char) : Option Token :=
  if c = '[' then some .openArray
  else if c = ']' then some .closeArray
  else if c = '\x7b' then some .openObject
  else if c = '\x7d' then some .closeObject
  else if c = ',' then some .comma
  else if c = ':' then some .colon
  else none

def readToken : List Char → Option (Token × List Char)
  | [] => none
  | '"' :: rest => (readText rest).map fun (cs, rest) => (.text (String.ofList cs), rest)
  | '-' :: rest => (readUnsigned true rest).map fun (n, rest) => (.number n, rest)
  | 'n' :: 'u' :: 'l' :: 'l' :: rest => some (.null, rest)
  | 't' :: 'r' :: 'u' :: 'e' :: rest => some (.bool true, rest)
  | 'f' :: 'a' :: 'l' :: 's' :: 'e' :: rest => some (.bool false, rest)
  | c :: rest =>
    match mark? c with
    | some t => some (t, rest)
    | none => (readUnsigned false (c :: rest)).map fun (n, rest) => (.number n, rest)

end Storyboard.Json
