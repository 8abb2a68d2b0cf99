import Storyboard.Pattern.Escape
import Storyboard.Text.Cut
import Storyboard.Text.Letter

/-! # Groups in patterns

A parenthesis opens a group, which may have a name or flags of its own, or it sets
flags for the rest of the group around it.
-/
namespace Storyboard.Pattern

inductive Opening
  | group (mode : Mode) (name : Option (List Char))
  | flags (mode : Mode)

def isGroupName : List Char → Bool
  | [] => false
  | c :: cs =>
    (c == '_' || Text.isLetter c) &&
      cs.all fun c => c == '_' || c == '.' || c == '[' || c == ']' || Text.isLetterOrDigit c

def readGroupName (m : Mode) (cs : List Char) : Option (Opening × List Char) :=
  match Text.cut '>' cs with
  | some (name, rest) => if isGroupName name then some (.group m (some name), rest) else none
  | none => none

/-- Whether a text is a row of flags. No flag is given twice, and the hyphen has
flags behind it. -/
def areFlags (text : List Char) : Bool :=
  text.all (['i', 'm', 's', 'U', 'u', 'R', 'x', '-'].contains ·) && decide text.Nodup &&
    text.getLast? != some '-'

/-- What a row of flags says about one of them: the flags behind a hyphen are
turned off. -/
def flagAfter (flag : Char) (text : List Char) (before : Bool) : Bool :=
  if text.contains flag then (text.takeWhile (· != '-')).contains flag else before

def Mode.set (m : Mode) (flags : List Char) : Mode :=
  ⟨flagAfter 'x' flags m.spaced, flagAfter 'u' flags m.unicode⟩

def readFlags (m : Mode) (cs : List Char) : Option (Opening × List Char) :=
  let flags := cs.takeWhile fun c => c != ':' && c != ')'
  if !areFlags flags then none
  else
    match cs.drop flags.length with
    | ':' :: rest => some (.group (m.set flags) none, rest)
    | ')' :: rest => if flags.isEmpty then none else some (.flags (m.set flags), rest)
    | _ => none

def lookarounds : List String := ["?=", "?!", "?<=", "?<!"]

def readOpening (m : Mode) (cs : List Char) : Option (Opening × List Char) :=
  let cs := m.skip cs
  if lookarounds.any fun s => s.toList.isPrefixOf cs then none
  else
    match cs with
    | '?' :: 'P' :: '<' :: rest => readGroupName m rest
    | '?' :: '<' :: rest => readGroupName m rest
    | '?' :: rest => readFlags m rest
    | rest => some (.group m none, rest)

end Storyboard.Pattern
