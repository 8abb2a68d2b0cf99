import Storyboard.Journal
import Storyboard.Number.Seconds
import Storyboard.Pattern
import Storyboard.Text.Blank
import Storyboard.Text.Bytes
import Storyboard.Text.Digits
import Storyboard.Text.Letter

/-! # Directives

A directive sets the level of some events. It is written as a level alone, as
`target=level` for the events whose target starts with a text, or with a scope
`[name]`, `[{field}]` or `[{field=value}]` after the target. A field without a
value is asked for in events; a named scope and a value are asked for in scopes, of
which a run opens none.

White space around a directive does not count for its form. Its parts are then
taken from the same positions of the text that still has the white space, so that
white space in front shifts them.
-/
namespace Storyboard

/-- The level that a word or a number names. Nothing is noted below the level of
debugging, so the level below it shows the same events. -/
def Level.read? (cs : List Char) : Option Level :=
  let digits := if cs.head? == some '+' then cs.drop 1 else cs
  if !digits.isEmpty && digits.all Char.isDigit then
    match Text.numeral digits with
    | 0 => some .off
    | 1 => some .error
    | 2 => some .warning
    | 3 => some .info
    | 4 => some .debug
    | 5 => some .debug
    | _ => none
  else
    match String.ofList (cs.map Char.toLower) with
    | "off" => some .off
    | "error" => some .error
    | "warn" => some .warning
    | "info" => some .info
    | "debug" => some .debug
    | "trace" => some .debug
    | _ => none

structure Directive where
  /-- The text with which the targets of its events start. -/
  target : Option String
  field : Option String
  /-- A directive about scopes applies to no event. -/
  aboutScopes : Bool
  level : Level
deriving DecidableEq, Repr

namespace Directive

inductive Trouble
  | unreadable
  /-- A part would start or end inside a character. -/
  | splitCharacter
deriving DecidableEq, Repr

/-! ## Parts -/

def startsTarget (c : Char) : Bool :=
  c == '-' || c == ':' || c == '_' || Text.isLetterOrDigit c

/-- A level, or else a target, all of which is shown. -/
def ofWord (word : List Char) : Directive :=
  match Level.read? word with
  | some level => ⟨none, none, false, level⟩
  | none => ⟨some (String.ofList word), none, false, .debug⟩

/-- The level after an equals sign. If there is none, everything is shown. -/
def readLevel : List Char → Except Trouble Level
  | [] => .ok .debug
  | cs =>
    match Level.read? cs with
    | some level => .ok level
    | none => .error .unreadable

def isNumber (cs : List Char) : Bool :=
  let (_, cs) := Number.Seconds.readSign cs
  let (whole, part, rest) := Number.Seconds.readDigits cs
  ["inf", "infinity", "nan"].contains (String.ofList (cs.map Char.toLower)) ||
    (!(whole.isEmpty && part.isEmpty) && (Number.Seconds.readExponent rest).isSome)

/-- The name of a field, and whether a value is asked for: a number or a pattern.
What follows a second equals sign does not count. -/
def readField (cs : List Char) : Except Trouble (String × Bool) :=
  let name := cs.takeWhile (· != '=')
  match cs.drop name.length with
  | [] => .ok (String.ofList name, false)
  | _ :: rest =>
    let value := rest.takeWhile (· != '=')
    if isNumber value || Pattern.isWellFormed value then .ok (String.ofList name, true)
    else .error .unreadable

/-! ## Reading -/

/-- The part of a directive at a place, with the position at which it starts. -/
inductive Stage
  | start
  | word
  | scope (start : Nat)
  | field (start : Nat)
  | fieldEnd
  | scopeEnd
  | level (start : Nat)

structure Draft where
  stage : Stage
  target : Option String
  field : Option String
  aboutScopes : Bool

def Draft.empty : Draft := ⟨.start, none, none, false⟩

def part (text : List Char) (start stop : Nat) : Except Trouble (List Char) :=
  match Text.slice text start stop with
  | some cs => .ok cs
  | none => .error .splitCharacter

def Draft.step (text : List Char) (d : Draft) (i : Nat) (c : Char) : Except Trouble Draft :=
  match d.stage with
  | .start =>
    if c = '[' then .ok { d with stage := .scope (i + 1) }
    else if startsTarget c then .ok { d with stage := .word }
    else .error .unreadable
  | .word =>
    if c = '=' ∨ c = '[' then do
      let target ← part text 0 i
      return { d with
        target := some (String.ofList target)
        stage := if c = '=' then .level (i + 1) else .scope (i + 1) }
    else .ok d
  | .scope start =>
    if c = ']' then do
      let _ ← part text start i
      return { d with aboutScopes := true, stage := .scopeEnd }
    else if c = '\x7b' then do
      let name ← part text start i
      return { d with aboutScopes := !name.isEmpty, stage := .field (i + 1) }
    else .ok d
  | .field start =>
    if c = '\x7d' then do
      let cs ← part text start i
      if cs.isEmpty then throw .unreadable
      let (name, valued) ← readField cs
      return { d with
        field := some name, aboutScopes := d.aboutScopes || valued, stage := .fieldEnd }
    else .ok d
  | .fieldEnd => if c = ']' then .ok { d with stage := .scopeEnd } else .error .unreadable
  | .scopeEnd => if c = '=' then .ok { d with stage := .level (i + 1) } else .error .unreadable
  | .level _ => .ok d

def Draft.steps (text : List Char) : Draft → Nat → List Char → Except Trouble Draft
  | d, _, [] => .ok d
  | d, i, c :: cs =>
    match d.step text i c with
    | .ok d => d.steps text (i + c.utf8Size) cs
    | .error t => .error t

def Draft.finish (text : List Char) (d : Draft) : Except Trouble Directive :=
  match d.stage with
  | .word => .ok (ofWord text)
  | .scopeEnd => .ok ⟨d.target, d.field, d.aboutScopes, .debug⟩
  | .level start =>
    match Text.dropBytes start text with
    | none => .error .splitCharacter
    | some cs => (readLevel cs).map fun level => ⟨d.target, d.field, d.aboutScopes, level⟩
  | _ => .error .unreadable

def read (text : List Char) : Except Trouble Directive :=
  match Draft.empty.steps text 0 (Text.trim text) with
  | .ok d => d.finish text
  | .error t => .error t

/-! ## Events -/

def appliesTo (d : Directive) (e : Event) : Bool :=
  !d.aboutScopes && d.target.all (fun t => t.toList.isPrefixOf e.target.toList) &&
    d.field.all fun f => e.fields.contains f

def fieldOutranks : Option String → Option String → Bool
  | _, none => true
  | none, some _ => false
  | some f, some g => !(f < g)

/-- Whether a directive is at least as specific as another: a longer target counts
more than a field. -/
def outranks (d other : Directive) : Bool :=
  let length := (d.target.map String.utf8ByteSize).getD 0
  let otherLength := (other.target.map String.utf8ByteSize).getD 0
  otherLength < length || (otherLength == length && fieldOutranks d.field other.field)

end Directive
end Storyboard
