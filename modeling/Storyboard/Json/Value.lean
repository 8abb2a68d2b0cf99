import Storyboard.Number.Binary64

/-! # JSON values

Numbers are integers or binary64 numbers, as they were written. The members of an
object that was read are sorted by key, with one member for each key; a value that
is built to be written may list its members in any order.
-/
namespace Storyboard

inductive Json.Number
  | integer (n : Int)
  | real (x : Number.Binary64)
deriving DecidableEq, Repr

inductive Json
  | null
  | bool (b : Bool)
  | number (n : Json.Number)
  | text (s : String)
  | array (items : List Json)
  | object (members : List (String × Json))
deriving Repr, Inhabited

namespace Json

/-- Adds a member to sorted members; a member with the same key is replaced. -/
def insertMember (key : String) (value : Json) : List (String × Json) → List (String × Json)
  | [] => [(key, value)]
  | (k, v) :: rest =>
    if key < k then (key, value) :: (k, v) :: rest
    else if key = k then (key, value) :: rest
    else (k, v) :: insertMember key value rest

def member? (key : String) : Json → Option Json
  | .object members => members.lookup key
  | _ => none

/-- What is told of a value of the wrong type. -/
inductive Kind
  | null
  | bool (b : Bool)
  | number (n : Number)
  | text (s : String)
  | array
  | object
deriving DecidableEq

def kind : Json → Kind
  | .null => .null
  | .bool b => .bool b
  | .number n => .number n
  | .text s => .text s
  | .array _ => .array
  | .object _ => .object

def itemCount : Json → Nat
  | .array items => items.length
  | _ => 0

end Json
end Storyboard
