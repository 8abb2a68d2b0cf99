import Storyboard.Text.Cut
import Storyboard.Xml.Content

/-! # Tokens of a document

Tokens are the tags, comments, processing instructions, stretches of text and
verbatim sections of a document. Names are as written, with the part in front of
a colon apart.
-/
namespace Storyboard.Xml

structure RawName where
  qualifier : String
  base : String
deriving DecidableEq, Repr

inductive Token
  | comment
  | instruction
  | openTag (name : RawName) (attributes : List (RawName × String)) (closed : Bool)
  | closeTag (name : RawName)
  | chars (raw : List Char)
  | verbatim (raw : List Char)
deriving DecidableEq, Repr

def skipSpace (cs : List Char) : List Char := cs.dropWhile isSpace

theorem length_skipSpace_le (cs : List Char) : (skipSpace cs).length ≤ cs.length :=
  (List.dropWhile_suffix isSpace).length_le

def startsName (cs : List Char) : Bool := cs.head?.any isNameStart

/-- A name has at most one colon, and something after it. -/
def RawName.ofWord? (word : List Char) : Option RawName :=
  match Text.split ':' word with
  | [base] => if startsName base then some ⟨"", String.ofList base⟩ else none
  | [qualifier, base] =>
    if startsName base && (qualifier.isEmpty || startsName qualifier) then
      some ⟨String.ofList qualifier, String.ofList base⟩
    else none
  | _ => none

def readName (cs : List Char) : Option (RawName × List Char) :=
  match RawName.ofWord? (cs.takeWhile isNameChar) with
  | none => none
  | some name => some (name, cs.dropWhile isNameChar)

def readQuoted : List Char → Option (List Char × List Char)
  | [] => none
  | quote :: rest =>
    if quote = '"' ∨ quote = '\'' then
      match Text.cut quote rest with
      | none => none
      | some (raw, rest) =>
        if raw.all fun c => isAllowed c && c != '<' then some (raw, rest) else none
    else none

def readRawAttribute (cs : List Char) : Option (RawName × List Char × List Char) :=
  match readName cs with
  | none => none
  | some (name, rest) =>
    match skipSpace rest with
    | '=' :: rest => (readQuoted (skipSpace rest)).map fun (raw, rest) => (name, raw, rest)
    | _ => none

def readAttribute (cs : List Char) : Option ((RawName × String) × List Char) :=
  match readRawAttribute cs with
  | none => none
  | some (name, raw, rest) =>
    (attributeValue? raw).map fun value => ((name, String.ofList value), rest)

/-! ## The rest gets shorter -/

theorem readName_length {cs rest : List Char} {name : RawName}
    (h : readName cs = some (name, rest)) : rest.length < cs.length := by
  have hlen := congrArg List.length (List.takeWhile_append_dropWhile (p := isNameChar) (l := cs))
  rw [List.length_append] at hlen
  unfold readName at h
  split at h
  · cases h
  · next hname =>
    cases h
    cases hw : cs.takeWhile isNameChar with
    | nil => rw [hw] at hname; cases hname
    | cons c word => rw [hw, List.length_cons] at hlen; omega

theorem readQuoted_length {cs raw rest : List Char} (h : readQuoted cs = some (raw, rest)) :
    rest.length < cs.length := by
  unfold readQuoted at h
  split at h
  · cases h
  · split at h
    · split at h
      · cases h
      · next hcut =>
        split at h
        · cases h
          rw [Text.eq_of_cut hcut]
          simp only [List.length_cons, List.length_append]
          omega
        · cases h
    · cases h

theorem readRawAttribute_length {cs raw rest : List Char} {name : RawName}
    (h : readRawAttribute cs = some (name, raw, rest)) : rest.length < cs.length := by
  unfold readRawAttribute at h
  split at h
  · cases h
  · next r hname =>
    split at h
    · next r' heq =>
      obtain ⟨⟨raw, r''⟩, hq, he⟩ := Option.map_eq_some_iff.mp h
      cases he
      have h1 := readName_length hname
      have h2 : r'.length < r.length := by
        have := length_skipSpace_le r
        rw [heq, List.length_cons] at this
        omega
      have h3 := length_skipSpace_le r'
      have h4 := readQuoted_length hq
      omega
    · cases h

theorem readAttribute_length {cs rest : List Char} {a : RawName × String}
    (h : readAttribute cs = some (a, rest)) : rest.length < cs.length := by
  unfold readAttribute at h
  split at h
  · cases h
  · next hraw =>
    obtain ⟨value, _, he⟩ := Option.map_eq_some_iff.mp h
    cases he
    exact readRawAttribute_length hraw

/-! ## Tags -/

/-- The attributes of a tag up to its end, and whether the tag closes itself. White
space stands in front of each attribute. -/
def readAttributes (cs : List Char) : Option (List (RawName × String) × Bool × List Char) :=
  match skipSpace cs with
  | '>' :: rest => some ([], false, rest)
  | '/' :: '>' :: rest => some ([], true, rest)
  | _ =>
    if cs.head?.any isSpace then
      match h : readAttribute (skipSpace cs) with
      | none => none
      | some (a, rest) =>
        have : rest.length < cs.length :=
          Nat.lt_of_lt_of_le (readAttribute_length h) (length_skipSpace_le cs)
        (readAttributes rest).map fun (more, closed, rest) => (a :: more, closed, rest)
    else none
termination_by cs.length

def readOpenTag (cs : List Char) : Option (Token × List Char) :=
  match readName cs with
  | none => none
  | some (name, rest) =>
    (readAttributes rest).map fun (attributes, closed, rest) =>
      (.openTag name attributes closed, rest)

def readCloseTag (cs : List Char) : Option (Token × List Char) :=
  match readName cs with
  | none => none
  | some (name, rest) =>
    match skipSpace rest with
    | '>' :: rest => some (.closeTag name, rest)
    | _ => none

/-! ## Other tokens -/

def hasDoubleHyphen : List Char → Bool
  | '-' :: '-' :: _ => true
  | _ :: rest => hasDoubleHyphen rest
  | [] => false

/-- A comment after its opening mark. It has no two hyphens in a row and does not
end in a hyphen. -/
def readComment (cs : List Char) : Option (Token × List Char) :=
  match Text.cutAt ['-', '-', '>'] cs with
  | none => none
  | some (body, rest) =>
    if body.all isAllowed && !hasDoubleHyphen body && body.getLast? != some '-' then
      some (.comment, rest)
    else none

/-- A processing instruction after its opening mark. The declaration of a document
stands at its very start only. -/
def readInstruction (cs : List Char) : Option (Token × List Char) :=
  if startsName cs && !(['x', 'm', 'l', ' '].isPrefixOf cs) then
    match Text.cutAt ['?', '>'] (cs.dropWhile isNameChar) with
    | none => none
    | some (body, rest) => if body.all isAllowed then some (.instruction, rest) else none
  else none

def readVerbatim (cs : List Char) : Option (Token × List Char) :=
  match Text.cutAt [']', ']', '>'] cs with
  | none => none
  | some (raw, rest) => if raw.all isAllowed then some (.verbatim raw, rest) else none

/-- Text up to the next tag. The end mark of a verbatim section may not stand in
it. -/
def readChars (cs : List Char) : Option (Token × List Char) :=
  let raw := cs.takeWhile (· != '<')
  if raw.all isAllowed && (Text.cutAt [']', ']', '>'] raw).isNone then
    some (.chars raw, cs.dropWhile (· != '<'))
  else none

def readToken : List Char → Option (Token × List Char)
  | '<' :: '!' :: '-' :: '-' :: rest => readComment rest
  | '<' :: '!' :: rest =>
    match Text.after? ['[', 'C', 'D', 'A', 'T', 'A', '['] rest with
    | none => none
    | some rest => readVerbatim rest
  | '<' :: '?' :: rest => readInstruction rest
  | '<' :: '/' :: rest => readCloseTag rest
  | '<' :: rest => readOpenTag rest
  | [] => none
  | c :: rest => readChars (c :: rest)

/-! ## The tokens of a document -/

theorem readAttributes_length {cs rest : List Char} {more : List (RawName × String)}
    {closed : Bool} (h : readAttributes cs = some (more, closed, rest)) :
    rest.length < cs.length := by
  fun_induction readAttributes cs generalizing more with
  | case1 cs r heq =>
    cases h
    have := length_skipSpace_le cs
    rw [heq, List.length_cons] at this
    omega
  | case2 cs r heq =>
    cases h
    have := length_skipSpace_le cs
    rw [heq, List.length_cons, List.length_cons] at this
    omega
  | case3 => cases h
  | case4 cs _ a r _ shorter _ _ ih =>
    obtain ⟨⟨more', closed', r'⟩, hm, he⟩ := Option.map_eq_some_iff.mp h
    cases he
    exact Nat.lt_trans (ih hm) shorter
  | case5 => cases h

theorem length_of_cutAt {mark cs before after : List Char}
    (h : Text.cutAt mark cs = some (before, after)) : after.length ≤ cs.length := by
  rw [Text.eq_of_cutAt h, List.length_append]
  omega

theorem readToken_length {cs rest : List Char} {t : Token} (h : readToken cs = some (t, rest)) :
    rest.length < cs.length := by
  unfold readToken at h
  split at h
  · unfold readComment at h
    split at h
    · cases h
    · next hcut =>
      split at h
      · cases h
        have := length_of_cutAt hcut
        simp only [List.length_cons]
        omega
      · cases h
  · split at h
    · cases h
    · next hafter =>
      unfold readVerbatim at h
      split at h
      · cases h
      · next hcut =>
        split at h
        · cases h
          have h1 := length_of_cutAt hcut
          have h2 := congrArg List.length (Text.eq_of_after? hafter)
          rw [List.length_append] at h2
          simp only [List.length_cons]
          omega
        · cases h
  · next r =>
    unfold readInstruction at h
    split at h
    · split at h
      · cases h
      · next hcut =>
        split at h
        · cases h
          have h1 := length_of_cutAt hcut
          have h2 := (List.dropWhile_suffix (l := r) isNameChar).length_le
          simp only [List.length_cons]
          omega
        · cases h
    · cases h
  · unfold readCloseTag at h
    split at h
    · cases h
    · next r hname =>
      split at h
      · next r' heq =>
        cases h
        have h1 := readName_length hname
        have h2 := length_skipSpace_le r
        rw [heq, List.length_cons] at h2
        simp only [List.length_cons]
        omega
      · cases h
  · unfold readOpenTag at h
    split at h
    · cases h
    · next r hname =>
      obtain ⟨⟨more, closed, r'⟩, hm, he⟩ := Option.map_eq_some_iff.mp h
      cases he
      have h1 := readName_length hname
      have h2 := readAttributes_length hm
      simp only [List.length_cons]
      omega
  · cases h
  · next c r _ _ _ _ hlt =>
    unfold readChars at h
    dsimp only at h
    split at h
    · cases h
      have hc : (c != '<') = true := bne_iff_ne.mpr hlt
      rw [List.dropWhile_cons_of_pos (by exact hc), List.length_cons]
      have := (List.dropWhile_suffix (l := r) (· != '<')).length_le
      omega
    · cases h

def tokens? (cs : List Char) : Option (List Token) :=
  if cs.isEmpty then some []
  else
    match h : readToken cs with
    | none => none
    | some (t, rest) =>
      have : rest.length < cs.length := readToken_length h
      (tokens? rest).map (t :: ·)
termination_by cs.length

end Storyboard.Xml
