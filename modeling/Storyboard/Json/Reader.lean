import Storyboard.Json.Token
import Storyboard.Text.Cut

/-! # Reading JSON

A text is cut into tokens, and the tokens are read by a machine whose stack holds
the arrays and objects that are still open. Of two members with one key the later
one counts. At most 127 arrays and objects may be open at a time.
-/
namespace Storyboard.Json

/-! ## Tokens get shorter -/

theorem readText_length {cs s rest : List Char} (h : readText cs = some (s, rest)) :
    rest.length < cs.length := by
  fun_induction readText cs generalizing s rest <;>
    simp_all only [Option.map_eq_some_iff, Prod.mk.injEq, Prod.exists, List.length_cons,
      reduceCtorEq, Option.some.injEq] <;> grind

theorem readSign_length (cs : List Char) : (readSign cs).2.length ≤ cs.length := by
  unfold readSign
  split <;> simp

theorem readRow_length {cs ds rest : List Char} (h : readRow cs = some (ds, rest)) :
    rest.length < cs.length := by
  have hlen := congrArg List.length (List.takeWhile_append_dropWhile (p := Char.isDigit) (l := cs))
  rw [List.length_append] at hlen
  unfold readRow at h
  dsimp only at h
  split at h
  · cases h
  · next hne =>
    cases h
    have := List.length_pos_iff.mpr (mt List.isEmpty_iff.mpr hne)
    omega

theorem readFraction_length {cs ds rest : List Char} (h : readFraction cs = some (ds, rest)) :
    rest.length ≤ cs.length := by
  unfold readFraction at h
  split at h
  · have := readRow_length h
    simp only [List.length_cons]
    omega
  · cases h
    exact Nat.le_refl _

theorem readExponent_length {cs rest : List Char} {e : Option Int}
    (h : readExponent cs = some (e, rest)) : rest.length ≤ cs.length := by
  unfold readExponent at h
  split at h
  · cases h
    exact Nat.le_refl _
  · next c cs =>
    split at h
    · dsimp only at h
      split at h
      · cases h
      · next hrow =>
        cases h
        have h1 := readRow_length hrow
        have h2 := readSign_length cs
        simp only [List.length_cons]
        omega
    · cases h
      exact Nat.le_refl _

theorem readUnsigned_length {negative : Bool} {cs rest : List Char} {n : Number}
    (h : readUnsigned negative cs = some (n, rest)) : rest.length < cs.length := by
  unfold readUnsigned at h
  split at h
  · cases h
  · next hrow =>
    split at h
    · cases h
    · split at h
      · cases h
      · next hfraction =>
        split at h
        · cases h
        · next hexponent =>
          obtain ⟨n, _, he⟩ := Option.map_eq_some_iff.mp h
          cases he
          have h1 := readRow_length hrow
          have h2 := readFraction_length hfraction
          have h3 := readExponent_length hexponent
          omega

theorem readToken_length {cs rest : List Char} {t : Token}
    (h : readToken cs = some (t, rest)) : rest.length < cs.length := by
  unfold readToken at h
  split at h
  · cases h
  · obtain ⟨⟨s, r⟩, hs, he⟩ := Option.map_eq_some_iff.mp h
    cases he
    have := readText_length hs
    simp only [List.length_cons]
    omega
  · obtain ⟨⟨n, r⟩, hn, he⟩ := Option.map_eq_some_iff.mp h
    cases he
    have := readUnsigned_length hn
    simp only [List.length_cons]
    omega
  · cases h
    simp only [List.length_cons]
    omega
  · cases h
    simp only [List.length_cons]
    omega
  · cases h
    simp only [List.length_cons]
    omega
  · split at h
    · cases h
      simp
    · obtain ⟨⟨n, r⟩, hn, he⟩ := Option.map_eq_some_iff.mp h
      cases he
      exact readUnsigned_length hn

def tokens? (cs : List Char) : Option (List Token) :=
  if (cs.dropWhile isSpace).isEmpty then some []
  else
    match readToken (cs.dropWhile isSpace), @readToken_length (cs.dropWhile isSpace) with
    | none, _ => none
    | some (t, rest), shorter =>
      have : rest.length < cs.length :=
        Nat.lt_of_lt_of_le (shorter rfl) (List.dropWhile_suffix isSpace).length_le
      (tokens? rest).map (t :: ·)
termination_by cs.length

theorem tokens?_of_blank {cs : List Char} (h : cs.dropWhile isSpace = []) :
    tokens? cs = some [] := by
  rw [tokens?, if_pos (List.isEmpty_iff.mpr h)]

theorem tokens?_of_readToken {cs rest : List Char} {t : Token}
    (h : readToken (cs.dropWhile isSpace) = some (t, rest)) :
    tokens? cs = (tokens? rest).map (t :: ·) := by
  rw [tokens?]
  split
  · next hempty =>
    rw [List.isEmpty_iff.mp hempty] at h
    cases h
  · split
    · next hnone _ => rw [h] at hnone; cases hnone
    · next hsome _ => rw [h] at hsome; cases hsome; rfl

/-! ## The machine -/

inductive Frame
  /-- The items so far, the last one first. -/
  | items (before : List Json)
  | members (before : List (String × Json))
  /-- An object in which the value of a key is due. -/
  | member (before : List (String × Json)) (key : String)
deriving Repr

inductive Phase
  | value
  | itemOrClose
  | keyOrClose
  | key
  | colon (key : String)
  /-- A value is complete; it belongs to the frame on top. -/
  | complete (v : Json)
deriving Repr

structure Machine where
  stack : List Frame
  phase : Phase
deriving Repr

def Machine.start : Machine := ⟨[], .value⟩

/-- The number of arrays and objects that may be open at a time. -/
def depthLimit : Nat := 127

namespace Machine

def openValue (stack : List Frame) : Token → Option Machine
  | .openArray =>
    if stack.length < depthLimit then some ⟨.items [] :: stack, .itemOrClose⟩ else none
  | .openObject =>
    if stack.length < depthLimit then some ⟨.members [] :: stack, .keyOrClose⟩ else none
  | .null => some ⟨stack, .complete .null⟩
  | .bool b => some ⟨stack, .complete (.bool b)⟩
  | .number n => some ⟨stack, .complete (.number n)⟩
  | .text s => some ⟨stack, .complete (.text s)⟩
  | _ => none

def afterValue (v : Json) : List Frame → Token → Option Machine
  | .items before :: stack, .comma => some ⟨.items (v :: before) :: stack, .value⟩
  | .items before :: stack, .closeArray => some ⟨stack, .complete (.array (v :: before).reverse)⟩
  | .member before key :: stack, .comma =>
    some ⟨.members (insertMember key v before) :: stack, .key⟩
  | .member before key :: stack, .closeObject =>
    some ⟨stack, .complete (.object (insertMember key v before))⟩
  | _, _ => none

def step (m : Machine) (t : Token) : Option Machine :=
  match m.phase with
  | .value => openValue m.stack t
  | .itemOrClose =>
    match t, m.stack with
    | .closeArray, .items before :: stack => some ⟨stack, .complete (.array before.reverse)⟩
    | t, stack => openValue stack t
  | .keyOrClose =>
    match t, m.stack with
    | .closeObject, .members before :: stack => some ⟨stack, .complete (.object before)⟩
    | .text s, stack => some ⟨stack, .colon s⟩
    | _, _ => none
  | .key =>
    match t with
    | .text s => some ⟨m.stack, .colon s⟩
    | _ => none
  | .colon key =>
    match t, m.stack with
    | .colon, .members before :: stack => some ⟨.member before key :: stack, .value⟩
    | _, _ => none
  | .complete v => afterValue v m.stack t

def run : Machine → List Token → Option Machine
  | m, [] => some m
  | m, t :: ts =>
    match m.step t with
    | none => none
    | some m => run m ts

def result? (m : Machine) : Option Json :=
  match m.stack, m.phase with
  | [], .complete v => some v
  | _, _ => none

end Machine

def ofTokens? (ts : List Token) : Option Json := (Machine.start.run ts).bind Machine.result?

def read? (text : String) : Option Json := (tokens? text.toList).bind ofTokens?

def ofBytes? (bytes : ByteArray) : Option Json := (String.fromUTF8? bytes).bind read?

end Storyboard.Json
