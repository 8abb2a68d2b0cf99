import Storyboard.Proofs.ArtifactRecord
import Storyboard.Proofs.ReadValues

/-! # Texts that are JSON

The machine accepts the tokens of values and nothing else. What it has read at any time
are the tokens of the values that its frames hold and of those marks that stand between
them. The machine itself keeps sorted members and drops all but the last one of a key, so
the argument is about a record of all that was written, of which the state of the machine
is the sorted form.
-/
namespace Storyboard.Json

/-! ## Tokens in a row -/

theorem itemTokens_eq_flatMap (items : List Json) :
    itemTokens items = items.flatMap fun v => .comma :: v.tokens := by
  induction items with
  | nil => rfl
  | cons item items ih => simp [itemTokens, ih]

theorem furtherTokens_eq_flatMap (members : List (String × Json)) :
    furtherTokens members = members.flatMap fun m => .comma :: memberTokens m := by
  induction members with
  | nil => rfl
  | cons member members ih => simp [furtherTokens, ih]

theorem flatMap_comma_concat {α : Type} (f : α → List Token) (xs : List α) (x : α) :
    (xs ++ [x]).flatMap (fun y => .comma :: f y) =
      .comma :: (xs.flatMap (fun y => f y ++ [.comma]) ++ f x) := by
  induction xs with
  | nil => simp
  | cons y xs ih => simp [ih]

theorem tokens_array_concat (items : List Json) (v : Json) :
    (array (items ++ [v])).tokens =
      .openArray ::
        (items.flatMap (fun w => w.tokens ++ [.comma]) ++ v.tokens ++ [.closeArray]) := by
  cases items with
  | nil => simp [tokens, itemTokens]
  | cons item items =>
    rw [List.cons_append, tokens, itemTokens_eq_flatMap, flatMap_comma_concat]
    simp

theorem tokens_object_concat (members : List (String × Json)) (key : String) (v : Json) :
    (object (members ++ [(key, v)])).tokens =
      .openObject :: (members.flatMap (fun m => memberTokens m ++ [.comma]) ++
        .text key :: .colon :: v.tokens ++ [.closeObject]) := by
  cases members with
  | nil => simp [tokens, memberTokens, furtherTokens]
  | cons member members =>
    rw [List.cons_append, tokens, furtherTokens_eq_flatMap, flatMap_comma_concat]
    simp [memberTokens]

theorem sortedMembers_concat (before members : List (String × Json)) (key : String) (v : Json) :
    sortedMembers before (members ++ [(key, v)]) =
      insertMember key v.sorted (sortedMembers before members) := by
  induction members generalizing before with
  | nil => rfl
  | cons member members ih => exact ih _

/-! ## What was written -/

/-- A frame whose values are kept as they were written, in the order of writing for the
members of an object, as the frame that the machine keeps. -/
def Frame.sorted : Frame → Frame
  | .items before => .items (before.map Json.sorted)
  | .members before => .members (sortedMembers [] before)
  | .member before key => .member (sortedMembers [] before) key

def Frame.tokens : Frame → List Token
  | .items before => .openArray :: before.reverse.flatMap fun v => v.tokens ++ [.comma]
  | .members before => .openObject :: before.flatMap fun m => memberTokens m ++ [.comma]
  | .member before key =>
    .openObject :: (before.flatMap (fun m => memberTokens m ++ [.comma]) ++ [.text key, .colon])

def Frame.values : Frame → List Json
  | .items before => before
  | .members before => before.map Prod.snd
  | .member before _ => before.map Prod.snd

def Phase.sorted : Phase → Phase
  | .complete v => .complete v.sorted
  | phase => phase

def Phase.tokens : Phase → List Token
  | .colon name => [.text name]
  | .complete v => v.tokens
  | _ => []

def stackTokens : List Frame → List Token
  | [] => []
  | frame :: stack => stackTokens stack ++ frame.tokens

def StackHasRoom : List Frame → Prop
  | [] => True
  | frame :: stack =>
    (∀ v ∈ frame.values, v.depth + (stack.length + 1) ≤ depthLimit) ∧ StackHasRoom stack

/-- The phase goes with the stack: a complete value leaves room for the frames, and a frame
that may close at once is empty. -/
def Phase.Suits (stack : List Frame) : Phase → Prop
  | .complete v => v.depth + stack.length ≤ depthLimit
  | .itemOrClose => ∃ rest, stack = .items [] :: rest
  | .keyOrClose => ∃ rest, stack = .members [] :: rest
  | _ => True

namespace Machine

def sorted (m : Machine) : Machine := ⟨m.stack.map Frame.sorted, m.phase.sorted⟩

/-- A record of what was written stands for the tokens that were read. -/
structure Spells (m : Machine) (ts : List Token) : Prop where
  tokens_eq : stackTokens m.stack ++ m.phase.tokens = ts
  height : m.stack.length ≤ depthLimit
  room : StackHasRoom m.stack
  suits : m.phase.Suits m.stack

theorem spells_start : start.Spells [] := ⟨rfl, Nat.zero_le _, trivial, trivial⟩

variable {stack : List Frame} {ts : List Token} {t : Token} {m : Machine}

theorem step_itemOrClose (h : t ≠ .closeArray) :
    step ⟨stack, .itemOrClose⟩ t = openValue stack t := by
  cases t with
  | closeArray => exact absurd rfl h
  | _ => rfl

/-- The first token of a value opens a frame or is the whole value. -/
theorem Spells.openValue (hheight : stack.length ≤ depthLimit) (hroom : StackHasRoom stack)
    (h : openValue (stack.map Frame.sorted) t = some m) :
    ∃ raw : Machine, raw.Spells (stackTokens stack ++ [t]) ∧ raw.sorted = m := by
  have hscalar : ∀ v : Json, v.depth = 0 → v.tokens = [t] → v.sorted = v →
      m = ⟨stack.map Frame.sorted, .complete v⟩ →
      ∃ raw : Machine, raw.Spells (stackTokens stack ++ [t]) ∧ raw.sorted = m := by
    rintro v hdepth htokens hsorted rfl
    refine ⟨⟨stack, .complete v⟩, ?_, ?_⟩
    · have hfits : v.depth + stack.length ≤ depthLimit := by omega
      rw [← htokens]
      exact ⟨rfl, hheight, hroom, hfits⟩
    · simp [Machine.sorted, Phase.sorted, hsorted]
  cases t with
  | openArray =>
    rw [Machine.openValue, List.length_map] at h
    split at h
    · next hlt =>
      cases h
      exact ⟨⟨.items [] :: stack, .itemOrClose⟩,
        ⟨by simp [stackTokens, Frame.tokens, Phase.tokens], hlt, ⟨by simp [Frame.values], hroom⟩,
          stack, rfl⟩, rfl⟩
    · cases h
  | openObject =>
    rw [Machine.openValue, List.length_map] at h
    split at h
    · next hlt =>
      cases h
      exact ⟨⟨.members [] :: stack, .keyOrClose⟩,
        ⟨by simp [stackTokens, Frame.tokens, Phase.tokens], hlt, ⟨by simp [Frame.values], hroom⟩,
          stack, rfl⟩, rfl⟩
    · cases h
  | null => exact hscalar .null rfl rfl rfl (Option.some.inj h).symm
  | bool b => exact hscalar (.bool b) rfl rfl rfl (Option.some.inj h).symm
  | number n => exact hscalar (.number n) rfl rfl rfl (Option.some.inj h).symm
  | text s => exact hscalar (.text s) rfl rfl rfl (Option.some.inj h).symm
  | closeArray => cases h
  | closeObject => cases h
  | comma => cases h
  | colon => cases h

/-- A token after a value puts it into the frame on top, and may close this frame. -/
theorem Spells.afterValue {v : Json} (hheight : stack.length ≤ depthLimit)
    (hroom : StackHasRoom stack) (hv : v.depth + stack.length ≤ depthLimit)
    (h : afterValue v.sorted (stack.map Frame.sorted) t = some m) :
    ∃ raw : Machine, raw.Spells (stackTokens stack ++ v.tokens ++ [t]) ∧ raw.sorted = m := by
  cases stack with
  | nil => cases h
  | cons frame stack =>
    obtain ⟨hvalues, hroom⟩ := hroom
    rw [List.length_cons] at hheight hv
    cases frame with
    | items before =>
      have hitems : ∀ w ∈ v :: before, w.depth + (stack.length + 1) ≤ depthLimit :=
        List.forall_mem_cons.mpr ⟨hv, hvalues⟩
      cases t with
      | comma =>
        cases h
        refine ⟨⟨.items (v :: before) :: stack, .value⟩, ?_, rfl⟩
        exact ⟨by simp [stackTokens, Frame.tokens, Phase.tokens], hheight, ⟨hitems, hroom⟩, trivial⟩
      | closeArray =>
        cases h
        refine ⟨⟨stack, .complete (.array (v :: before).reverse)⟩, ?_, ?_⟩
        · exact ⟨by simp [stackTokens, Frame.tokens, Phase.tokens, tokens_array_concat],
            Nat.le_of_succ_le hheight, hroom,
            depth_array_le hheight fun w hw => hitems w (List.mem_reverse.mp hw)⟩
        · simp [Machine.sorted, Phase.sorted, Json.sorted, sortedItems_eq_map]
      | _ => cases h
    | members before => cases h
    | member before key =>
      have hmembers : ∀ w ∈ before ++ [(key, v)], w.2.depth + (stack.length + 1) ≤ depthLimit := by
        intro w hw
        rcases List.mem_append.mp hw with hw | hw
        · exact hvalues w.2 (List.mem_map_of_mem hw)
        · rw [List.mem_singleton.mp hw]
          exact hv
      cases t with
      | comma =>
        cases h
        refine ⟨⟨.members (before ++ [(key, v)]) :: stack, .key⟩, ?_, ?_⟩
        · refine ⟨by simp [stackTokens, Frame.tokens, Phase.tokens, memberTokens], hheight,
            ⟨fun w hw => ?_, hroom⟩, trivial⟩
          obtain ⟨entry, hentry, rfl⟩ := List.mem_map.mp hw
          exact hmembers entry hentry
        · simp [Machine.sorted, Frame.sorted, Phase.sorted, sortedMembers_concat]
      | closeObject =>
        cases h
        refine ⟨⟨stack, .complete (.object (before ++ [(key, v)]))⟩, ?_, ?_⟩
        · exact ⟨by simp [stackTokens, Frame.tokens, Phase.tokens, tokens_object_concat],
            Nat.le_of_succ_le hheight, hroom, depth_object_le hheight hmembers⟩
        · simp [Machine.sorted, Phase.sorted, Json.sorted, sortedMembers_concat]
      | _ => cases h

/-- One token is added to what was written. -/
theorem Spells.step {raw : Machine} (hraw : raw.Spells ts) (h : raw.sorted.step t = some m) :
    ∃ raw' : Machine, raw'.Spells (ts ++ [t]) ∧ raw'.sorted = m := by
  obtain ⟨stack, phase⟩ := raw
  obtain ⟨rfl, hheight, hroom, hsuits⟩ := hraw
  dsimp only at hheight hroom hsuits ⊢
  cases phase with
  | value =>
    have hopen := Spells.openValue hheight hroom h
    simpa [Phase.tokens] using hopen
  | itemOrClose =>
    obtain ⟨stack, rfl⟩ := hsuits
    by_cases hclose : t = .closeArray
    · subst hclose
      cases h
      exact ⟨⟨stack, .complete (.array [])⟩,
        ⟨by simp [stackTokens, Frame.tokens, Phase.tokens, tokens], Nat.le_of_succ_le hheight,
          hroom.2, depth_array_le hheight (by simp)⟩, rfl⟩
    · -- The first item of an array is read as any value is.
      have hopen := Spells.openValue hheight hroom ((step_itemOrClose hclose).symm.trans h)
      simpa [Phase.tokens] using hopen
  | keyOrClose =>
    obtain ⟨stack, rfl⟩ := hsuits
    cases t with
    | closeObject =>
      cases h
      exact ⟨⟨stack, .complete (.object [])⟩,
        ⟨by simp [stackTokens, Frame.tokens, Phase.tokens, tokens], Nat.le_of_succ_le hheight,
          hroom.2, depth_object_le hheight (by simp)⟩, rfl⟩
    | text s =>
      cases h
      exact ⟨⟨.members [] :: stack, .colon s⟩,
        ⟨by simp [Phase.tokens], hheight, hroom, trivial⟩, rfl⟩
    | _ => cases h
  | key =>
    cases t with
    | text s =>
      cases h
      exact ⟨⟨stack, .colon s⟩, ⟨by simp [Phase.tokens], hheight, hroom, trivial⟩, rfl⟩
    | _ => cases h
  | colon name =>
    cases t with
    | colon =>
      cases stack with
      | nil => cases h
      | cons frame stack =>
        cases frame with
        | members before =>
          cases h
          exact ⟨⟨.member before name :: stack, .value⟩,
            ⟨by simp [stackTokens, Frame.tokens, Phase.tokens], hheight, hroom, trivial⟩, rfl⟩
        | items before => cases h
        | member before key => cases h
    | _ => cases h
  | complete v => exact Spells.afterValue hheight hroom hsuits h

theorem Spells.run {raw : Machine} {us : List Token} (hraw : raw.Spells ts)
    (h : raw.sorted.run us = some m) :
    ∃ raw' : Machine, raw'.Spells (ts ++ us) ∧ raw'.sorted = m := by
  induction us generalizing raw ts with
  | nil =>
    cases h
    exact ⟨raw, by simpa using hraw, rfl⟩
  | cons u us ih =>
    rw [Machine.run] at h
    split at h
    · cases h
    · next hstep =>
      obtain ⟨next, hnext, rfl⟩ := hraw.step hstep
      obtain ⟨last, hlast, rfl⟩ := ih hnext h
      exact ⟨last, by simpa using hlast, rfl⟩

end Machine

/-! ## Accepted texts -/

/-- Tokens are read as a value exactly if they are the tokens of a value, which is not too
deep; it is then this value that is read, sorted. -/
theorem ofTokens?_eq_some_iff {ts : List Token} {v : Json} :
    ofTokens? ts = some v ↔ ∃ j : Json, j.tokens = ts ∧ j.depth ≤ depthLimit ∧ j.sorted = v := by
  constructor
  · intro h
    obtain ⟨m, hrun, hresult⟩ := Option.bind_eq_some_iff.mp h
    obtain ⟨⟨stack, phase⟩, hraw, rfl⟩ := Machine.spells_start.run hrun
    cases stack with
    | cons frame stack => cases hresult
    | nil =>
      cases phase with
      | complete j =>
        cases hresult
        exact ⟨j, hraw.tokens_eq, hraw.suits, rfl⟩
      | _ => cases hresult
  · rintro ⟨j, rfl, hdepth, rfl⟩
    exact ofTokens?_tokens hdepth

/-- Bytes are the text of a value, written with its members in some order, some of them
perhaps more than once. -/
def SpelledBy (j : Json) (bytes : ByteArray) : Prop :=
  ∃ text : String, text.toUTF8 = bytes ∧ tokens? text.toList = some j.tokens ∧ j.depth ≤ depthLimit

theorem ofBytes?_eq_some_iff {bytes : ByteArray} {v : Json} :
    ofBytes? bytes = some v ↔ ∃ j : Json, j.SpelledBy bytes ∧ j.sorted = v := by
  simp only [ofBytes?, read?, Option.bind_eq_some_iff, Text.fromUTF8?_eq_some_iff,
    ofTokens?_eq_some_iff]
  constructor
  · rintro ⟨text, hbytes, ts, hts, j, rfl, hdepth, hj⟩
    exact ⟨j, ⟨text, hbytes, hts, hdepth⟩, hj⟩
  · rintro ⟨j, ⟨text, hbytes, hts, hdepth⟩, hj⟩
    exact ⟨text, hbytes, _, hts, j, rfl, hdepth, hj⟩

end Storyboard.Json
