import Storyboard.Text.Cut
import Storyboard.Text.Utf8

/-! # Paths as written

A path is made of bytes, which need not be those of a text; its parts stand between
slashes. Nothing here looks at a disk: two paths may be written differently and lead to
the same place.
-/
namespace Storyboard.Files

abbrev Name := List UInt8

instance : Coe String Name := ⟨Text.utf8⟩

structure Path where
  bytes : List UInt8
deriving DecidableEq, Repr, Inhabited

instance : Coe String Path := ⟨fun s => ⟨Text.utf8 s⟩⟩

def slash : UInt8 := 0x2F

def dot : UInt8 := 0x2E

inductive Segment
  | here
  | up
  | name (s : Name)
  /-- A slash at the end, which asks for a directory. -/
  | slash
deriving DecidableEq, Repr

namespace Segment

def ofPart (part : Name) : Segment :=
  if part = [dot] then .here else if part = [dot, dot] then .up else .name part

def bytes : Segment → List UInt8
  | .here => [dot]
  | .up => [dot, dot]
  | .name s => s
  | .slash => []

end Segment

namespace Path

def isAbsolute (p : Path) : Bool := p.bytes.head? == some slash

def endsInSlash (p : Path) : Bool := p.bytes.getLast? == some slash

def shown (p : Path) : String := Text.shown p.bytes

/-- The segments of a path; repeated slashes count as one. -/
def segments (p : Path) : List Segment :=
  ((Text.split slash p.bytes).filter (!·.isEmpty)).map Segment.ofPart

/-- A path that starts at the end of another one. An absolute path starts anew. -/
def join (base rest : Path) : Path :=
  if rest.isAbsolute then rest
  else if base.bytes.isEmpty || base.endsInSlash then ⟨base.bytes ++ rest.bytes⟩
  else ⟨base.bytes ++ slash :: rest.bytes⟩

/-! ## Anchoring -/

/-- Where the segments of a path start: at the root, at the special root of two
slashes, or at a given directory. -/
def anchor (p here : Path) : Path :=
  if p.isAbsolute then
    if [slash, slash].isPrefixOf p.bytes && !([slash, slash, slash].isPrefixOf p.bytes) then
      ⟨[slash, slash]⟩
    else ⟨[slash]⟩
  else here

/-- An absolute path with the same segments, except those that stay in place. A
slash at the end is kept. -/
def absolute (p here : Path) : Path :=
  let base := (p.segments.filter (· != .here)).foldl (fun q s => q.join ⟨s.bytes⟩) (p.anchor here)
  if p.endsInSlash then base.join ⟨[]⟩ else base

/-! ## Parents -/

/-- The slash or the dot at the very front, which no parent drops. -/
def lead (p : Path) : List UInt8 :=
  if p.isAbsolute then [slash]
  else if p.bytes = [dot] ∨ [dot, slash].isPrefixOf p.bytes then [dot]
  else []

def isVoid (part : Name) : Bool := part == [] || part == [dot]

/-- The parts behind the lead, the last one first. Void parts at the end do not
count. -/
def backParts (p : Path) : List Name :=
  (Text.split slash (p.bytes.drop p.lead.length)).reverse.dropWhile isVoid

/-- The path without its last part. The root has no parent, nor has the empty
path. -/
def parent? (p : Path) : Option Path :=
  match p.backParts with
  | _ :: rest =>
    some ⟨p.lead ++ List.intercalate [slash] (rest.dropWhile isVoid).reverse⟩
  | [] => if p.lead == [dot] then some ⟨[]⟩ else none

def fileName? (p : Path) : Option Name :=
  match p.backParts with
  | part :: _ => if part == [dot, dot] then none else some part
  | [] => none

def ancestorsWithin : Nat → Path → List Path
  | 0, _ => []
  | n + 1, p =>
    match p.parent? with
    | some q => p :: ancestorsWithin n q
    | none => []

def ancestors (p : Path) : List Path := ancestorsWithin p.bytes.length p

end Path
end Storyboard.Files
