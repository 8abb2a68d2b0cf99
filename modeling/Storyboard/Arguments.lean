import Storyboard.Files.Path
import Storyboard.Text.Cut

/-! # Command-line arguments

All flags take a value, as the next argument or after an equals sign. Arguments
are read from left to right, and the first problem is reported. A value that is
an argument of its own is checked when the next flag begins or at the end.
-/
namespace Storyboard

open Files (Path)

inductive Flag
  | outputXml
  | outputDir
  | artifactsJson
  | suiteId
  | videoPath
  | manifestPath
deriving DecidableEq, Repr

namespace Flag

def all : List Flag := [.outputXml, .outputDir, .artifactsJson, .suiteId, .videoPath, .manifestPath]

def name : Flag → String
  | .outputXml => "output-xml"
  | .outputDir => "output-dir"
  | .artifactsJson => "artifacts-json"
  | .suiteId => "suite-id"
  | .videoPath => "video-path"
  | .manifestPath => "manifest-path"

def valueName : Flag → String
  | .outputDir => "DIR"
  | .suiteId => "ID"
  | _ => "PATH"

def display (f : Flag) : String := "--" ++ f.name ++ " <" ++ f.valueName ++ ">"

def required : List Flag := [.outputXml, .outputDir, .artifactsJson]

/-- The flags whose value is not empty. -/
def needsText : Flag → Bool
  | .suiteId => false
  | .videoPath => false
  | _ => true

def ofName? (name : String) : Option Flag := all.find? fun f => f.name == name

end Flag

structure Arguments where
  outputXml : Path
  outputDir : Path
  artifactsJson : Path
  suiteId : Option String
  videoPath : Option String
  manifestPath : Option Path
deriving DecidableEq, Repr

inductive Refusal
  | help
  | version
  /-- A switch without a value was given one. -/
  | needlessValue (switch : String)
  /-- A value is missing, or empty where it may not be. -/
  | badValue (flag : Flag)
  | unknown (argument : String)
  | repeated (flag : Flag)
  | missing (flags : List Flag)
deriving DecidableEq, Repr

namespace Arguments

/-- The flags read so far, and the one whose value is not yet checked. The value
itself may still be due. -/
structure Reading where
  settled : List (Flag × String)
  pending : Option (Flag × Option String)
deriving DecidableEq, Repr

def Reading.settle (r : Reading) (f : Flag) (value : String) : Except Refusal Reading :=
  if (r.settled.lookup f).isSome then .error (.repeated f)
  else if f.needsText && value.isEmpty then .error (.badValue f)
  else .ok ⟨r.settled ++ [(f, value)], none⟩

def Reading.flush (r : Reading) : Except Refusal Reading :=
  match r.pending with
  | none => .ok r
  | some (f, none) => .error (.badValue f)
  | some (f, some value) => { r with pending := none }.settle f value

/-- How an argument looks, before its place is taken into account. -/
inductive Shape
  /-- Two hyphens alone: no flags follow. -/
  | escape
  | long (name : String) (value : Option String)
  | short (letters : List Char)
  | plain
deriving DecidableEq, Repr

def shape (argument : String) : Shape :=
  match argument.toList with
  | ['-', '-'] => .escape
  | '-' :: '-' :: rest =>
    match Text.cut '=' rest with
    | some (name, value) => .long (String.ofList name) (some (String.ofList value))
    | none => .long (String.ofList rest) none
  | '-' :: c :: rest => .short (c :: rest)
  | _ => .plain

def switch? (name : String) : Option Refusal :=
  if name = "help" then some .help else if name = "version" then some .version else none

def letter? (c : Char) : Option Refusal :=
  if c = 'h' then some .help else if c = 'V' then some .version else none

def Reading.long (r : Reading) (name : String) (value : Option String) : Except Refusal Reading :=
  match Flag.ofName? name with
  | some f => do
    let r ← r.flush
    match value with
    | some v => r.settle f v
    | none => .ok { r with pending := some (f, none) }
  | none =>
    match switch? name, value with
    | some _, some _ => .error (.needlessValue ("--" ++ name))
    | some answer, none => do
      let _ ← r.flush
      .error answer
    | none, _ => .error (.unknown ("--" ++ name))

/-- Reads letters after one hyphen. All of them stop the reading. -/
def Reading.short (r : Reading) (letters : List Char) : Except Refusal Reading :=
  match letters with
  | [] => .ok r
  | c :: _ =>
    match letter? c with
    | some answer => do
      let _ ← r.flush
      .error answer
    | none => .error (.unknown (String.ofList ['-', c]))

def Reading.plain (r : Reading) (argument : String) : Except Refusal Reading :=
  match r.pending with
  | some (f, none) => .ok { r with pending := some (f, some argument) }
  | _ => .error (.unknown argument)

def readFrom : Reading → List String → Except Refusal Reading
  | r, [] => r.flush
  | r, argument :: rest =>
    match shape argument with
    | .escape =>
      match rest with
      | [] => r.flush
      | next :: _ => .error (.unknown next)
    | .long name value =>
      match r.long name value with
      | .ok r => readFrom r rest
      | .error e => .error e
    | .short letters =>
      match r.short letters with
      | .ok r => readFrom r rest
      | .error e => .error e
    | .plain =>
      match r.plain argument with
      | .ok r => readFrom r rest
      | .error e => .error e

def ofValues (values : List (Flag × String)) : Except Refusal Arguments :=
  match values.lookup .outputXml, values.lookup .outputDir, values.lookup .artifactsJson with
  | some outputXml, some outputDir, some artifactsJson =>
    .ok
      { outputXml := outputXml
        outputDir := outputDir
        artifactsJson := artifactsJson
        suiteId := values.lookup .suiteId
        videoPath := values.lookup .videoPath
        manifestPath := (values.lookup .manifestPath).map fun p : String => (p : Path) }
  | _, _, _ => .error (.missing (Flag.required.filter fun f => (values.lookup f).isNone))

def read (arguments : List String) : Except Refusal Arguments :=
  match readFrom ⟨[], none⟩ arguments with
  | .error e => .error e
  | .ok r => ofValues r.settled

end Arguments
end Storyboard
