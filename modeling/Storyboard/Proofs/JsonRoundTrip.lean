import Storyboard.Proofs.PrintedTokens
import Storyboard.Proofs.ShownBytes

/-! # Printed values are read back

The machine reads the tokens of a value as this value, with the members of each
object sorted and the last one of each key kept, as long as no more arrays and
objects are open than it allows. A printed text is therefore read back as the
sorted value.
-/
namespace Storyboard.Json

mutual

/-- A value as it is read back: of the members with one key the last one is kept,
and members are sorted by their keys. -/
def sorted : Json → Json
  | .array items => .array (sortedItems items)
  | .object members => .object (sortedMembers [] members)
  | .null => .null
  | .bool b => .bool b
  | .number n => .number n
  | .text s => .text s

def sortedItems : List Json → List Json
  | [] => []
  | item :: items => sorted item :: sortedItems items

def sortedMembers (before : List (String × Json)) : List (String × Json) → List (String × Json)
  | [] => before
  | (key, value) :: members => sortedMembers (insertMember key (sorted value) before) members

end

mutual

/-- The number of arrays and objects that are open at a time in a value. -/
def depth : Json → Nat
  | .array items => depthItems items + 1
  | .object members => depthMembers members + 1
  | _ => 0

def depthItems : List Json → Nat
  | [] => 0
  | item :: items => max (depth item) (depthItems items)

def depthMembers : List (String × Json) → Nat
  | [] => 0
  | (_, value) :: members => max (depth value) (depthMembers members)

end

namespace Machine

theorem run_cons {m k : Machine} {t : Token} (h : m.step t = some k) (ts : List Token) :
    m.run (t :: ts) = k.run ts := by
  rw [run, h]

theorem run_itemOrClose (stack : List Frame) (j : Json) (ts : List Token) :
    run ⟨stack, .itemOrClose⟩ (j.tokens ++ ts) = run ⟨stack, .value⟩ (j.tokens ++ ts) := by
  cases j with
  | null => rfl
  | bool b => rfl
  | number n => rfl
  | text s => rfl
  | array items => cases items <;> rfl
  | object members => cases members <;> rfl

mutual

/-- The tokens of a value are read as the sorted value. -/
theorem run_tokens (j : Json) (stack : List Frame) (ts : List Token)
    (h : stack.length + j.depth ≤ depthLimit) :
    run ⟨stack, .value⟩ (j.tokens ++ ts) = run ⟨stack, .complete j.sorted⟩ ts := by
  match j with
  | .null => rfl
  | .bool _ => rfl
  | .number _ => rfl
  | .text _ => rfl
  | .array items =>
    rw [depth] at h
    have hroom : stack.length < depthLimit := by omega
    have hopen : step ⟨stack, .value⟩ .openArray = some ⟨.items [] :: stack, .itemOrClose⟩ :=
      if_pos hroom
    match items with
    | [] =>
      rw [tokens, sorted, sortedItems, List.cons_append, run_cons hopen]
      rfl
    | item :: items =>
      rw [depthItems] at h
      rw [tokens, sorted, sortedItems, List.cons_append, run_cons hopen, List.append_assoc,
        List.append_assoc, run_itemOrClose,
        run_tokens item (.items [] :: stack) _ (by rw [List.length_cons]; omega),
        List.singleton_append, run_itemTokens items stack [] item.sorted ts (by omega)]
      rfl
  | .object members =>
    rw [depth] at h
    have hroom : stack.length < depthLimit := by omega
    have hopen : step ⟨stack, .value⟩ .openObject = some ⟨.members [] :: stack, .keyOrClose⟩ :=
      if_pos hroom
    match members with
    | [] =>
      rw [tokens, sorted, sortedMembers, List.cons_append, run_cons hopen]
      rfl
    | (key, value) :: members =>
      rw [depthMembers] at h
      rw [tokens, sorted, sortedMembers, List.cons_append, run_cons hopen, List.append_assoc,
        List.append_assoc, memberTokens, List.cons_append,
        run_cons (k := ⟨.members [] :: stack, .colon key⟩) rfl, List.cons_append,
        run_cons (k := ⟨.member [] key :: stack, .value⟩) rfl,
        run_tokens value (.member [] key :: stack) _ (by rw [List.length_cons]; omega),
        List.singleton_append, run_furtherTokens members stack [] key value.sorted ts (by omega)]

theorem run_itemTokens (items : List Json) (stack : List Frame) (before : List Json) (v : Json)
    (ts : List Token) (h : stack.length + 1 + depthItems items ≤ depthLimit) :
    run ⟨.items before :: stack, .complete v⟩ (itemTokens items ++ .closeArray :: ts) =
      run ⟨stack, .complete (.array (before.reverse ++ v :: sortedItems items))⟩ ts := by
  match items with
  | [] =>
    rw [itemTokens, sortedItems, List.nil_append,
      run_cons (k := ⟨stack, .complete (.array (v :: before).reverse)⟩) rfl, List.reverse_cons]
  | item :: items =>
    rw [depthItems] at h
    rw [itemTokens, sortedItems, List.cons_append,
      run_cons (k := ⟨.items (v :: before) :: stack, .value⟩) rfl, List.append_assoc,
      run_tokens item (.items (v :: before) :: stack) _ (by rw [List.length_cons]; omega),
      run_itemTokens items stack (v :: before) item.sorted ts (by omega), List.reverse_cons,
      List.append_assoc]
    rfl

theorem run_furtherTokens (members : List (String × Json)) (stack : List Frame)
    (before : List (String × Json)) (key : String) (v : Json) (ts : List Token)
    (h : stack.length + 1 + depthMembers members ≤ depthLimit) :
    run ⟨.member before key :: stack, .complete v⟩ (furtherTokens members ++ .closeObject :: ts) =
      run ⟨stack, .complete (.object (sortedMembers (insertMember key v before) members))⟩ ts := by
  match members with
  | [] =>
    rw [furtherTokens, sortedMembers, List.nil_append,
      run_cons (k := ⟨stack, .complete (.object (insertMember key v before))⟩) rfl]
  | (next, value) :: members =>
    rw [depthMembers] at h
    rw [furtherTokens, sortedMembers, List.cons_append,
      run_cons (k := ⟨.members (insertMember key v before) :: stack, .key⟩) rfl,
      List.append_assoc, memberTokens, List.cons_append,
      run_cons (k := ⟨.members (insertMember key v before) :: stack, .colon next⟩) rfl,
      List.cons_append,
      run_cons (k := ⟨.member (insertMember key v before) next :: stack, .value⟩) rfl,
      run_tokens value (.member (insertMember key v before) next :: stack) _
        (by rw [List.length_cons]; omega),
      run_furtherTokens members stack (insertMember key v before) next value.sorted ts (by omega)]

end

end Machine

theorem ofTokens?_tokens {j : Json} (h : j.depth ≤ depthLimit) :
    ofTokens? j.tokens = some j.sorted := by
  have hrun := Machine.run_tokens j [] [] (by simpa using h)
  rw [List.append_nil] at hrun
  rw [ofTokens?, Machine.start, hrun]
  rfl

/-- A printed value is read back, sorted. -/
theorem read?_pretty {j : Json} (hj : j.InWords) (h : j.depth ≤ depthLimit) :
    read? j.pretty = some j.sorted := by
  have htokens := tokens?_print Spacing.isBlank_pretty 0 j hj endsNumber_nil
  rw [List.append_nil, show tokens? [] = some [] from tokens?_of_blank rfl] at htokens
  rw [read?, pretty, String.toList_ofList, htokens]
  simpa using ofTokens?_tokens h

theorem ofBytes?_pretty {j : Json} (hj : j.InWords) (h : j.depth ≤ depthLimit) :
    ofBytes? j.pretty.toUTF8 = some j.sorted := by
  rw [ofBytes?, Text.fromUTF8?_toUTF8, Option.bind_some, read?_pretty hj h]

end Storyboard.Json
