/-! # Bytes of texts

A text is written as bytes in UTF-8. Bytes that come from elsewhere need not be those of
a text; to show them all the same, whatever is no character is replaced.
-/
namespace Storyboard.Text

def utf8 (s : String) : List UInt8 := s.toList.flatMap String.utf8EncodeChar

def isText (bs : List UInt8) : Bool := (String.fromUTF8? bs.toByteArray).isSome

/-- How many of some bytes belong together although they are no character: the longest
start of one, but at least one byte. -/
def strayCount : List UInt8 → Nat
  | a :: b :: rest =>
    let least : UInt8 := if a = 0xE0 then 0xA0 else if a = 0xF0 then 0x90 else 0x80
    let greatest : UInt8 := if a = 0xED then 0x9F else if a = 0xF4 then 0x8F else 0xBF
    if 0xE0 ≤ a ∧ a ≤ 0xF4 ∧ least ≤ b ∧ b ≤ greatest then
      match rest with
      | c :: _ => if 0xF0 ≤ a ∧ 0x80 ≤ c ∧ c ≤ 0xBF then 3 else 2
      | [] => 2
    else 1
  | _ => 1

def firstChar (bs : List UInt8) : Char × Nat :=
  match bs.toByteArray.utf8DecodeChar? 0 with
  | some c => (c, c.utf8Size)
  | none => (Char.ofNat 0xFFFD, strayCount bs)

/-- The characters of some bytes, of which a number is left out. -/
def charsFrom : Nat → List UInt8 → List Char
  | _, [] => []
  | skip + 1, _ :: bs => charsFrom skip bs
  | 0, b :: bs =>
    let (c, n) := firstChar (b :: bs)
    c :: charsFrom (n - 1) bs

def shown (bs : List UInt8) : String := String.ofList (charsFrom 0 bs)

end Storyboard.Text
