import Storyboard.Json.Printer
import Storyboard.Json.Reader

/-! # The tokens of printed values

A printed value falls into the tokens that its structure gives, whatever white
space is printed between them. Printed numbers are read back only if they are
integers that a word of 64 bits holds, so this is asked of all numbers in a value.
-/
namespace Storyboard

/-! ## Printed numerals -/

namespace Text

theorem decimal_eq_toDigits (n : Nat) : decimal n = Nat.toDigits 10 n := by
  simp [decimal]

theorem isDigit_of_mem_decimal {n : Nat} {c : Char} (h : c ∈ decimal n) : c.isDigit = true := by
  rw [decimal_eq_toDigits] at h
  exact Nat.isDigit_of_mem_toDigits (by decide) (by decide) h

@[simp] theorem decimal_ne_nil (n : Nat) : decimal n ≠ [] := by
  rw [decimal_eq_toDigits]
  exact Nat.toDigits_ne_nil

@[simp] theorem numeral_decimal (n : Nat) : numeral (decimal n) = n := by
  rw [decimal_eq_toDigits]
  exact Nat.ofDigitChars_ten_toDigits

/-- Only zero is printed with a leading zero. -/
theorem head_decimal_ne_zero {n : Nat} (h : 0 < n) : (decimal n).head? ≠ some '0' := by
  rw [decimal_eq_toDigits]
  induction n using Nat.strongRecOn with
  | ind n ih =>
    rw [Nat.toDigits_eq_if (by decide)]
    by_cases hlt : n < 10
    · have hall : ∀ m < 10, 0 < m → m.digitChar ≠ '0' := by decide
      simpa [hlt] using hall n hlt h
    · have hhead := ih (n / 10) (by omega) (by omega)
      cases hd : Nat.toDigits 10 (n / 10) with
      | nil => exact absurd hd Nat.toDigits_ne_nil
      | cons c cs => simpa [hlt, hd] using hhead

theorem length_decimal_of_head {n : Nat} (h : (decimal n).head? = some '0') :
    (decimal n).length = 1 := by
  by_cases hn : 0 < n
  · exact absurd h (head_decimal_ne_zero hn)
  · have hn : n = 0 := by omega
    subst hn
    rfl

end Text

namespace Json

/-! ## Readable values -/

/-- The integers of a signed or of an unsigned word. -/
def Number.InWord : Number → Prop
  | .integer n => Number.Word.least ≤ n ∧ n < Number.Word.unsignedCount
  | .real _ => False

mutual

/-- The values all of whose numbers are integers of a word. -/
def InWords : Json → Prop
  | .number n => n.InWord
  | .array items => InWordsItems items
  | .object members => InWordsMembers members
  | _ => True

def InWordsItems : List Json → Prop
  | [] => True
  | item :: items => InWords item ∧ InWordsItems items

def InWordsMembers : List (String × Json) → Prop
  | [] => True
  | (_, value) :: members => InWords value ∧ InWordsMembers members

end

mutual

def tokens : Json → List Token
  | .null => [.null]
  | .bool b => [.bool b]
  | .number n => [.number n]
  | .text s => [.text s]
  | .array [] => [.openArray, .closeArray]
  | .array (item :: items) => .openArray :: (tokens item ++ itemTokens items ++ [.closeArray])
  | .object [] => [.openObject, .closeObject]
  | .object (member :: members) =>
    .openObject :: (memberTokens member ++ furtherTokens members ++ [.closeObject])

def itemTokens : List Json → List Token
  | [] => []
  | item :: items => .comma :: (tokens item ++ itemTokens items)

def memberTokens : String × Json → List Token
  | (key, value) => .text key :: .colon :: tokens value

def furtherTokens : List (String × Json) → List Token
  | [] => []
  | member :: members => .comma :: (memberTokens member ++ furtherTokens members)

end

/-! ## White space -/

theorem isSpace_iff {c : Char} : isSpace c = true ↔ c = ' ' ∨ c = '\t' ∨ c = '\n' ∨ c = '\r' := by
  simp [isSpace, or_assoc]

theorem dropWhile_isSpace_append {ws : List Char} (cs : List Char) (h : ws.all isSpace = true) :
    (ws ++ cs).dropWhile isSpace = cs.dropWhile isSpace := by
  rw [List.dropWhile_append_of_pos]
  exact List.all_eq_true.mp h

theorem tokens?_of_stuck {cs : List Char} (hne : cs.dropWhile isSpace ≠ [])
    (h : readToken (cs.dropWhile isSpace) = none) : tokens? cs = none := by
  rw [tokens?, if_neg (mt List.isEmpty_iff.mp hne)]
  split
  · rfl
  · next hsome _ =>
    rw [h] at hsome
    cases hsome

theorem tokens?_blank_append {ws : List Char} (cs : List Char) (h : ws.all isSpace = true) :
    tokens? (ws ++ cs) = tokens? cs := by
  have hdrop := dropWhile_isSpace_append cs h
  by_cases hne : cs.dropWhile isSpace = []
  · rw [tokens?_of_blank hne, tokens?_of_blank (hdrop.trans hne)]
  · cases ht : readToken (cs.dropWhile isSpace) with
    | none =>
      rw [tokens?_of_stuck hne ht, tokens?_of_stuck (by rwa [hdrop]) (by rwa [hdrop])]
    | some token =>
      rw [tokens?_of_readToken ht, tokens?_of_readToken (by rwa [hdrop])]

/-- No token starts with white space. -/
theorem dropWhile_of_readToken {cs rest : List Char} {t : Token}
    (h : readToken cs = some (t, rest)) : cs.dropWhile isSpace = cs := by
  cases cs with
  | nil => rfl
  | cons c cs =>
    rw [List.dropWhile_cons]
    split
    · next hc =>
      have hnone : readToken (c :: cs) = none := by
        rcases isSpace_iff.mp hc with rfl | rfl | rfl | rfl <;> rfl
      rw [hnone] at h
      cases h
    · rfl

theorem tokens?_of_token {cs rest : List Char} {t : Token} (h : readToken cs = some (t, rest)) :
    tokens? cs = (tokens? rest).map (t :: ·) :=
  tokens?_of_readToken (by rw [dropWhile_of_readToken h, h])

/-! ## Numbers -/

/-- Texts that do not go on with a number that stands in front of them. -/
def EndsNumber (rest : List Char) : Prop :=
  ∀ c ∈ rest.head?, c.isDigit = false ∧ c ≠ '.' ∧ c ≠ 'e' ∧ c ≠ 'E'

theorem endsNumber_nil : EndsNumber [] := by
  intro c hc
  cases hc

theorem endsNumber_cons {c : Char} {rest : List Char}
    (h : c.isDigit = false ∧ c ≠ '.' ∧ c ≠ 'e' ∧ c ≠ 'E') : EndsNumber (c :: rest) := by
  intro c' hc
  cases hc
  exact h

theorem endsNumber_blank_append {ws rest : List Char} (hws : ws.all isSpace = true)
    (h : EndsNumber rest) : EndsNumber (ws ++ rest) := by
  cases ws with
  | nil => exact h
  | cons c ws =>
    have hc : isSpace c = true := by simp_all
    apply endsNumber_cons
    rcases isSpace_iff.mp hc with rfl | rfl | rfl | rfl <;> decide

theorem takeWhile_digits {ds rest : List Char} (hds : ∀ c ∈ ds, c.isDigit = true)
    (h : EndsNumber rest) :
    (ds ++ rest).takeWhile Char.isDigit = ds ∧ (ds ++ rest).dropWhile Char.isDigit = rest := by
  rw [List.takeWhile_append_of_pos hds, List.dropWhile_append_of_pos hds]
  cases rest with
  | nil => simp
  | cons c rest => simp [(h c rfl).1]

theorem readFraction_of_ends {rest : List Char} (h : EndsNumber rest) :
    readFraction rest = some ([], rest) := by
  unfold readFraction
  split
  · next rest => exact absurd rfl (h '.' rfl).2.1
  · rfl

theorem readExponent_of_ends {rest : List Char} (h : EndsNumber rest) :
    readExponent rest = some (none, rest) := by
  cases rest with
  | nil => rfl
  | cons c rest =>
    obtain ⟨-, -, hlow, hhigh⟩ := h c rfl
    simp [readExponent, hlow, hhigh]

/-- A printed natural number is read whole. -/
theorem readUnsigned_decimal (negative : Bool) (n : Nat) {rest : List Char}
    (h : EndsNumber rest) :
    readUnsigned negative (Text.decimal n ++ rest) =
      (integerValue negative (Text.decimal n)).map fun m => (m, rest) := by
  have hdigits := takeWhile_digits (fun c hc => Text.isDigit_of_mem_decimal (n := n) hc) h
  have hrow : readRow (Text.decimal n ++ rest) = some (Text.decimal n, rest) := by
    simp [readRow, hdigits]
  have hzero : ¬((Text.decimal n).head? = some '0' ∧ (Text.decimal n).length ≠ 1) :=
    fun hz => hz.2 (Text.length_decimal_of_head hz.1)
  rw [readUnsigned]
  simp only [hrow, if_neg hzero, readFraction_of_ends h, readExponent_of_ends h]
  rfl

theorem integerValue_nonneg {n : Nat} (h : n < Number.Word.unsignedCount) :
    integerValue false (Text.decimal n) = some (.integer n) := by
  simp [integerValue, h]

theorem integerValue_negative {n : Nat} (h : Number.Word.least ≤ Int.negSucc n) :
    integerValue true (Text.decimal (n + 1)) = some (.integer (Int.negSucc n)) := by
  have hneg : (-((n + 1 : Nat) : Int)) = Int.negSucc n := rfl
  have hfits : Number.Word.fits (Int.negSucc n) = true := by
    apply Number.Word.fits_iff.mpr
    refine ⟨h, ?_⟩
    unfold Number.Word.greatest
    omega
  simp only [integerValue, Text.numeral_decimal, hneg, hfits]
  simp

/-- A text that starts with no quote, sign or word starts with a mark or a number. -/
theorem readToken_of_notMem {c : Char} (h : c ∉ ['"', '-', 'n', 't', 'f']) (cs : List Char) :
    readToken (c :: cs) = match mark? c with
      | some t => some (t, cs)
      | none => (readUnsigned false (c :: cs)).map fun (n, rest) => (.number n, rest) := by
  unfold readToken
  split
  · next heq => cases heq
  · next heq => cases heq; simp at h
  · next heq => cases heq; simp at h
  · next heq => cases heq; simp at h
  · next heq => cases heq; simp at h
  · next heq => cases heq; simp at h
  · next heq => cases heq; rfl

theorem readToken_of_isDigit {c : Char} {cs : List Char} (h : c.isDigit = true) :
    readToken (c :: cs) =
      (readUnsigned false (c :: cs)).map fun (n, rest) => (.number n, rest) := by
  have hne : ∀ c' : Char, c'.isDigit = false → c ≠ c' := by
    rintro c' hc' rfl
    rw [h] at hc'
    cases hc'
  have hmark : mark? c = none := by
    simp [mark?, hne '[' (by decide), hne ']' (by decide), hne '\x7b' (by decide),
      hne '\x7d' (by decide), hne ',' (by decide), hne ':' (by decide)]
  have hplain : c ∉ ['"', '-', 'n', 't', 'f'] := by
    simp [hne '"' (by decide), hne '-' (by decide), hne 'n' (by decide), hne 't' (by decide),
      hne 'f' (by decide)]
  rw [readToken_of_notMem hplain, hmark]

theorem readToken_number {n : Number} (hn : n.InWord) {rest : List Char} (h : EndsNumber rest) :
    readToken (n.print ++ rest) = some (.number n, rest) := by
  cases n with
  | real x => cases hn
  | integer n =>
    cases n with
    | ofNat n =>
      have hlt : n < Number.Word.unsignedCount := Int.ofNat_lt.mp hn.2
      rw [Number.print]
      cases hds : Text.decimal n with
      | nil => exact absurd hds (Text.decimal_ne_nil n)
      | cons c cs =>
        have hc : c.isDigit = true := Text.isDigit_of_mem_decimal (n := n) (by simp [hds])
        rw [List.cons_append, readToken_of_isDigit hc, ← List.cons_append, ← hds,
          readUnsigned_decimal false n h, integerValue_nonneg hlt]
        rfl
    | negSucc n =>
      rw [Number.print, List.cons_append, readToken, readUnsigned_decimal true _ h,
        integerValue_negative hn.1]
      rfl

/-! ## Texts -/

theorem hexValue_hexDigit : ∀ d < 16, Text.hexValue? (hexDigit d) = some d := by
  decide

theorem readText_control {c : Char} (h : c.toNat < 0x20) (rest : List Char) :
    readText ('\\' :: 'u' :: '0' :: '0' :: hexDigit (c.toNat / 16) :: hexDigit (c.toNat % 16) ::
      rest) = (readText rest).map fun (cs, rest) => (c :: cs, rest) := by
  have hunit : unit? '0' '0' (hexDigit (c.toNat / 16)) (hexDigit (c.toNat % 16)) =
      some c.toNat := by
    have hzero : Text.hexValue? '0' = some 0 := by decide
    have hhigh := hexValue_hexDigit (c.toNat / 16) (by omega)
    have hlow := hexValue_hexDigit (c.toNat % 16) (by omega)
    simp only [unit?, hzero, hhigh, hlow, Option.bind_eq_bind, Option.bind_some, Option.pure_def,
      Option.some.injEq]
    omega
  have hsurrogates : isHighSurrogate c.toNat = false ∧ isLowSurrogate c.toNat = false := by
    simp only [isHighSurrogate, isLowSurrogate, Bool.and_eq_false_iff, decide_eq_false_iff_not]
    omega
  rw [readText]
  simp [hunit, hsurrogates, Char.ofNat_toNat]

theorem readText_plain {c : Char} (hquote : c ≠ '"') (hslash : c ≠ '\\') (hlow : ¬c.toNat < 0x20)
    (rest : List Char) :
    readText (c :: rest) = (readText rest).map fun (cs, rest) => (c :: cs, rest) := by
  rw [readText.eq_def]
  split
  · next heq => cases heq
  · next heq => cases heq; exact absurd rfl hquote
  · next heq => cases heq; exact absurd rfl hslash
  · next heq => cases heq; exact absurd rfl hslash
  · next heq =>
    cases heq
    exact if_neg (not_or.mpr ⟨hlow, hslash⟩)

theorem readText_escape (c : Char) (rest : List Char) :
    readText (escape c ++ rest) = (readText rest).map fun (cs, rest) => (c :: cs, rest) := by
  unfold escape
  split
  · next hc => subst hc; rfl
  split
  · next hc => subst hc; rfl
  split
  · next hc => subst hc; rfl
  split
  · next hc => subst hc; rfl
  split
  · next hc => subst hc; rfl
  split
  · next hc => subst hc; rfl
  split
  · next hc => subst hc; rfl
  split
  · next hc => exact readText_control hc rest
  · next hquote hslash _ _ _ _ _ hlow => exact readText_plain hquote hslash hlow rest

theorem readText_quoted (cs rest : List Char) :
    readText (cs.flatMap escape ++ '"' :: rest) = some (cs, rest) := by
  induction cs with
  | nil => rfl
  | cons c cs ih =>
    rw [List.flatMap_cons, List.append_assoc, readText_escape, ih]
    rfl

theorem readToken_quoted (s : String) (rest : List Char) :
    readToken (quoted s ++ rest) = some (.text s, rest) := by
  have htext := readText_quoted s.toList rest
  simp only [quoted, List.cons_append, List.append_assoc, List.nil_append]
  rw [readToken, htext]
  simp

/-! ## Values -/

structure Spacing.IsBlank (sp : Spacing) : Prop where
  line : ∀ level, (sp.line level).all isSpace = true
  afterColon : sp.afterColon.all isSpace = true

theorem Spacing.isBlank_pretty : Spacing.pretty.IsBlank := by
  refine ⟨fun level => ?_, rfl⟩
  simp [Spacing.pretty, isSpace]

theorem readToken_mark {c : Char} {t : Token} (h : mark? c = some t) (rest : List Char) :
    readToken (c :: rest) = some (t, rest) := by
  have hplain : c ∉ ['"', '-', 'n', 't', 'f'] := by
    intro hc
    simp only [List.mem_cons, List.not_mem_nil, or_false] at hc
    rcases hc with rfl | rfl | rfl | rfl | rfl <;> cases h
  rw [readToken_of_notMem hplain, h]

theorem tokens?_mark {c : Char} {t : Token} (h : mark? c = some t) (rest : List Char) :
    tokens? (c :: rest) = (tokens? rest).map (t :: ·) :=
  tokens?_of_token (readToken_mark h rest)

theorem tokens?_line {sp : Spacing} (hsp : sp.IsBlank) (level : Nat) (rest : List Char) :
    tokens? (sp.line level ++ rest) = tokens? rest :=
  tokens?_blank_append rest (hsp.line level)

theorem endsNumber_printItems {sp : Spacing} {level : Nat} {items : List Json} {rest : List Char}
    (h : EndsNumber rest) : EndsNumber (printItems sp level items ++ rest) := by
  cases items with
  | nil => simpa [printItems] using h
  | cons item items =>
    rw [printItems, List.cons_append]
    exact endsNumber_cons (by decide)

theorem endsNumber_printMembers {sp : Spacing} {level : Nat} {members : List (String × Json)}
    {rest : List Char} (h : EndsNumber rest) :
    EndsNumber (printMembers sp level members ++ rest) := by
  cases members with
  | nil => simpa [printMembers] using h
  | cons member members =>
    rw [printMembers, List.cons_append]
    exact endsNumber_cons (by decide)

theorem endsNumber_close {sp : Spacing} (hsp : sp.IsBlank) (level : Nat) {c : Char}
    (hc : c.isDigit = false ∧ c ≠ '.' ∧ c ≠ 'e' ∧ c ≠ 'E') (rest : List Char) :
    EndsNumber (sp.line level ++ c :: rest) :=
  endsNumber_blank_append (hsp.line level) (endsNumber_cons hc)

mutual

/-- A printed value falls into its tokens, if what follows does not go on with a
number. -/
theorem tokens?_print {sp : Spacing} (hsp : sp.IsBlank) (level : Nat) (j : Json) (hj : j.InWords)
    {rest : List Char} (h : EndsNumber rest) :
    tokens? (print sp level j ++ rest) = (tokens? rest).map (j.tokens ++ ·) := by
  match j with
  | .null => exact tokens?_of_token rfl
  | .bool true => exact tokens?_of_token rfl
  | .bool false => exact tokens?_of_token rfl
  | .number n =>
    rw [print, tokens]
    exact tokens?_of_token (readToken_number (by simpa [InWords] using hj) h)
  | .text s =>
    rw [print, tokens]
    exact tokens?_of_token (readToken_quoted s rest)
  | .array [] =>
    rw [print, tokens, List.cons_append, tokens?_mark rfl, List.cons_append, tokens?_mark rfl]
    simp [Function.comp_def]
  | .array (item :: items) =>
    simp only [InWords, InWordsItems] at hj
    have hclose := endsNumber_close hsp level (c := ']') (by decide) rest
    rw [print, tokens]
    simp only [List.cons_append, List.append_assoc, List.nil_append]
    rw [tokens?_mark rfl, tokens?_line hsp,
      tokens?_print hsp (level + 1) item hj.1 (endsNumber_printItems hclose),
      tokens?_printItems hsp (level + 1) items hj.2 hclose, tokens?_line hsp, tokens?_mark rfl]
    simp [Function.comp_def]
  | .object [] =>
    rw [print, tokens, List.cons_append, tokens?_mark rfl, List.cons_append, tokens?_mark rfl]
    simp [Function.comp_def]
  | .object (member :: members) =>
    simp only [InWords] at hj
    have hclose := endsNumber_close hsp level (c := '\x7d') (by decide) rest
    rw [print, tokens]
    simp only [List.cons_append, List.append_assoc, List.nil_append]
    rw [tokens?_mark rfl, tokens?_line hsp,
      tokens?_printMember hsp (level + 1) member (by simp_all [InWordsMembers])
        (endsNumber_printMembers hclose),
      tokens?_printMembers hsp (level + 1) members (by simp_all [InWordsMembers]) hclose,
      tokens?_line hsp, tokens?_mark rfl]
    simp [Function.comp_def]

theorem tokens?_printItems {sp : Spacing} (hsp : sp.IsBlank) (level : Nat) (items : List Json)
    (hj : InWordsItems items) {rest : List Char} (h : EndsNumber rest) :
    tokens? (printItems sp level items ++ rest) = (tokens? rest).map (itemTokens items ++ ·) := by
  match items with
  | [] => simp [printItems, itemTokens]
  | item :: items =>
    simp only [InWordsItems] at hj
    rw [printItems, itemTokens]
    simp only [List.cons_append, List.append_assoc]
    rw [tokens?_mark rfl, tokens?_line hsp,
      tokens?_print hsp level item hj.1 (endsNumber_printItems h),
      tokens?_printItems hsp level items hj.2 h]
    simp [Function.comp_def]

theorem tokens?_printMember {sp : Spacing} (hsp : sp.IsBlank) (level : Nat)
    (member : String × Json) (hj : member.2.InWords) {rest : List Char} (h : EndsNumber rest) :
    tokens? (printMember sp level member ++ rest) =
      (tokens? rest).map (memberTokens member ++ ·) := by
  match member with
  | (key, value) =>
    rw [printMember, memberTokens]
    simp only [List.cons_append, List.append_assoc]
    rw [tokens?_of_token (readToken_quoted key _), tokens?_mark rfl,
      tokens?_blank_append _ hsp.afterColon, tokens?_print hsp level value hj h]
    simp [Function.comp_def]

theorem tokens?_printMembers {sp : Spacing} (hsp : sp.IsBlank) (level : Nat)
    (members : List (String × Json)) (hj : InWordsMembers members) {rest : List Char}
    (h : EndsNumber rest) :
    tokens? (printMembers sp level members ++ rest) =
      (tokens? rest).map (furtherTokens members ++ ·) := by
  match members with
  | [] => simp [printMembers, furtherTokens]
  | (key, value) :: members =>
    simp only [InWordsMembers] at hj
    rw [printMembers, furtherTokens]
    simp only [List.cons_append, List.append_assoc]
    rw [tokens?_mark rfl, tokens?_line hsp,
      tokens?_printMember hsp level (key, value) hj.1 (endsNumber_printMembers h),
      tokens?_printMembers hsp level members hj.2 h]
    simp [Function.comp_def]

end

end Json
end Storyboard
