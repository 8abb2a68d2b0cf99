import Storyboard.Text.Blank
import Storyboard.Text.Lower

/-! # Slugs

A slug is a stable identifier made from a human-readable title: lower-case ASCII
letters and digits in words, the words joined by single hyphens. Every character
that is not an ASCII letter or digit separates words.
-/
namespace Storyboard.Slug

def fallback : String := "robot-suite"

abbrev isWordChar (c : Char) : Bool := c.isAlphanum

/-- Writes one hyphen for each maximal run of separators. The flag says that the
run at the front has been written already. -/
def collapseFrom : Bool → List Char → List Char
  | _, [] => []
  | inRun, c :: cs =>
    if isWordChar c then c :: collapseFrom false cs
    else if inRun then collapseFrom true cs
    else '-' :: collapseFrom true cs

def collapse (cs : List Char) : List Char := collapseFrom false cs

def ofTitle (title : String) : String :=
  let lowered := Text.lowerCase (Text.trim title.toList)
  let trimmed := Text.trimBy (· == '-') (collapse lowered)
  if trimmed.isEmpty then fallback else String.ofList trimmed

end Storyboard.Slug
