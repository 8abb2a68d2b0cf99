import Storyboard.Text.Utf8

/-! # Bytes of texts, shown

The bytes of a text are shown as the text. A byte below `0x80` is a character of its own
wherever it stands, so whatever is in front of it is shown as it would be alone.
-/
namespace Storyboard.Text

theorem utf8_append (s t : String) : utf8 (s ++ t) = utf8 s ++ utf8 t := by
  simp [utf8]

theorem toByteArray_utf8 (s : String) : (utf8 s).toByteArray = s.toByteArray := by
  rw [← String.utf8Encode_toList]
  rfl

theorem utf8_inj {s t : String} (h : utf8 s = utf8 t) : s = t := by
  rw [← String.toByteArray_inj, ← toByteArray_utf8, ← toByteArray_utf8, h]

theorem fromUTF8?_toUTF8 (s : String) : String.fromUTF8? s.toUTF8 = some s := by
  have hvalid : s.toUTF8.IsValidUTF8 := s.isValidUTF8
  rw [String.fromUTF8?, dif_pos hvalid]
  rfl

theorem fromUTF8?_eq_some_iff {bytes : ByteArray} {text : String} :
    String.fromUTF8? bytes = some text ↔ text.toUTF8 = bytes := by
  constructor
  · intro h
    unfold String.fromUTF8? at h
    split at h
    · cases h
      rfl
    · cases h
  · rintro rfl
    exact fromUTF8?_toUTF8 text

theorem isText_utf8 (s : String) : isText (utf8 s) = true := by
  have hbytes : (utf8 s).toByteArray = s.toUTF8 := toByteArray_utf8 s
  rw [isText, hbytes, fromUTF8?_toUTF8, Option.isSome_some]

/-! ## One character -/

theorem firstChar_encode (c : Char) (bs : List UInt8) :
    firstChar (String.utf8EncodeChar c ++ bs) = (c, c.utf8Size) := by
  rw [firstChar, List.toByteArray_append, ByteArray.utf8DecodeChar?_utf8EncodeChar_append]

/-- A character of one byte is the only one that has this byte. -/
theorem eq_of_mem_encode {x : UInt8} {a c : Char} (ha : String.utf8EncodeChar a = [x])
    (hfirst : x.IsUTF8FirstByte) (h : x ∈ String.utf8EncodeChar c) : c = a := by
  obtain ⟨i, hi, hx⟩ := List.mem_iff_getElem.mp h
  obtain rfl : i = 0 := by
    rw [← hx, UInt8.isUTF8FirstByte_getElem_utf8EncodeChar] at hfirst
    exact hfirst
  cases hbytes : String.utf8EncodeChar c with
  | nil => simp [hbytes] at h
  | cons y rest =>
    obtain rfl : y = x := by simpa [hbytes] using hx
    have hc := firstChar_encode c []
    have ha' := firstChar_encode a rest
    rw [ha, List.singleton_append, ← hbytes] at ha'
    rw [List.append_nil, ha'] at hc
    exact (congrArg Prod.fst hc).symm

theorem slash_mem_utf8_iff {s : String} : 0x2F ∈ utf8 s ↔ '/' ∈ s.toList := by
  have hslash : String.utf8EncodeChar '/' = [0x2F] := by decide
  rw [utf8, List.mem_flatMap]
  constructor
  · rintro ⟨c, hc, hmem⟩
    rwa [eq_of_mem_encode hslash (by decide) hmem] at hc
  · exact fun h => ⟨'/', h, by simp [hslash]⟩
theorem charsFrom_append (xs ys : List UInt8) :
    charsFrom xs.length (xs ++ ys) = charsFrom 0 ys := by
  induction xs with
  | nil => rfl
  | cons x xs ih => exact ih

theorem charsFrom_encode (c : Char) (bs : List UInt8) :
    charsFrom 0 (String.utf8EncodeChar c ++ bs) = c :: charsFrom 0 bs := by
  have hfirst := firstChar_encode c bs
  cases hbytes : String.utf8EncodeChar c with
  | nil => exact absurd hbytes String.utf8EncodeChar_ne_nil
  | cons x xs =>
    have hlength : c.utf8Size - 1 = xs.length := by
      rw [← String.length_utf8EncodeChar, hbytes]
      rfl
    rw [hbytes, List.cons_append] at hfirst
    rw [List.cons_append, charsFrom, hfirst]
    dsimp only
    rw [hlength, charsFrom_append]

theorem charsFrom_utf8 (s : String) (bs : List UInt8) :
    charsFrom 0 (utf8 s ++ bs) = s.toList ++ charsFrom 0 bs := by
  unfold utf8
  induction s.toList with
  | nil => rfl
  | cons c cs ih =>
    rw [List.flatMap_cons, List.append_assoc, charsFrom_encode, ih, List.cons_append]

theorem shown_utf8 (s : String) : shown (utf8 s) = s := by
  have h := charsFrom_utf8 s []
  rw [List.append_nil] at h
  rw [shown, h]
  simp [charsFrom]

/-! ## Bytes that are characters -/

/-- A character of several bytes holds no byte that starts another one. -/
theorem exists_of_decode_append {as bs : List UInt8} {x : UInt8} {c : Char} (hne : as ≠ [])
    (hx : x.IsUTF8FirstByte) (h : (as ++ x :: bs).toByteArray.utf8DecodeChar? 0 = some c) :
    ∃ rest, as = String.utf8EncodeChar c ++ rest := by
  obtain ⟨l, hl⟩ := ByteArray.exists_of_utf8DecodeChar?_eq_some h
  have hlist : as ++ x :: bs = String.utf8EncodeChar c ++ l.data.toList := by
    simpa using congrArg (fun b => b.data.toList) hl
  rcases List.append_eq_append_iff.mp hlist with ⟨more, hc, hmore⟩ | ⟨rest, hrest, -⟩
  · cases more with
    | nil => exact ⟨[], by simpa using hc.symm⟩
    | cons y more =>
      -- The byte would be one of the character, behind its first one.
      cases hmore
      have hlength : as.length < (String.utf8EncodeChar c).length := by simp [hc]
      have hbyte : (String.utf8EncodeChar c)[as.length] = x := by simp [hc]
      rw [← hbyte, UInt8.isUTF8FirstByte_getElem_utf8EncodeChar] at hx
      exact absurd (List.length_eq_zero_iff.mp hx) hne
  · exact ⟨rest, hrest⟩

theorem strayCount_le {as : List UInt8} (hne : as ≠ []) : strayCount as ≤ as.length := by
  fun_cases strayCount as <;> grind

theorem strayCount_append {as : List UInt8} (hne : as ≠ []) {x : UInt8} (hx : x < 0x80)
    (bs : List UInt8) : strayCount (as ++ x :: bs) = strayCount as := by
  have hlow : ∀ least : UInt8, 0x80 ≤ least → ¬least ≤ x := fun least hleast hle =>
    UInt8.not_le.mpr hx (UInt8.le_trans hleast hle)
  rcases as with _ | ⟨a, _ | ⟨b, _ | ⟨c, as⟩⟩⟩
  · exact absurd rfl hne
  · have hleast : (0x80 : UInt8) ≤ if a = 0xE0 then 0xA0 else if a = 0xF0 then 0x90 else 0x80 := by
      split
      · decide
      · split <;> decide
    simp [strayCount, hlow _ hleast]
  · simp [strayCount, hlow 0x80 (UInt8.le_refl _)]
  · rfl

theorem firstChar_append {as : List UInt8} (hne : as ≠ []) {x : UInt8} (hx : x < 0x80)
    (hfirst : x.IsUTF8FirstByte) (bs : List UInt8) :
    firstChar (as ++ x :: bs) = firstChar as ∧ (firstChar as).2 ≤ as.length := by
  cases hdecode : (as ++ x :: bs).toByteArray.utf8DecodeChar? 0 with
  | some c =>
    obtain ⟨rest, rfl⟩ := exists_of_decode_append hne hfirst hdecode
    rw [List.append_assoc, firstChar_encode, firstChar_encode]
    simp
  | none =>
    have halone : as.toByteArray.utf8DecodeChar? 0 = none := by
      rw [Option.eq_none_iff_forall_ne_some]
      intro c hc
      rw [List.toByteArray_append, ByteArray.utf8DecodeChar?_append_eq_some hc] at hdecode
      cases hdecode
    rw [firstChar, firstChar, hdecode, halone]
    exact ⟨by rw [strayCount_append hne hx], strayCount_le hne⟩

theorem charsFrom_append_byte {x : UInt8} (hx : x < 0x80) (hfirst : x.IsUTF8FirstByte)
    (as bs : List UInt8) {skip : Nat} (hskip : skip ≤ as.length) :
    charsFrom skip (as ++ x :: bs) = charsFrom skip as ++ charsFrom 0 (x :: bs) := by
  induction as generalizing skip with
  | nil =>
    obtain rfl : skip = 0 := Nat.le_zero.mp hskip
    rfl
  | cons a as ih =>
    cases skip with
    | succ skip => exact ih (Nat.le_of_succ_le_succ hskip)
    | zero =>
      obtain ⟨hsame, hle⟩ := firstChar_append (List.cons_ne_nil a as) hx hfirst bs
      rw [List.cons_append] at hsame ⊢
      rw [charsFrom, charsFrom, hsame]
      dsimp only
      rw [ih (by rw [List.length_cons] at hle; omega), List.cons_append]

/-- What stands around a slash is shown as it would be alone. -/
theorem shown_append_slash (as bs : List UInt8) :
    shown (as ++ 0x2F :: bs) = shown as ++ "/" ++ shown bs := by
  have hslash : charsFrom 0 (0x2F :: bs) = '/' :: charsFrom 0 bs := charsFrom_encode '/' bs
  rw [shown, charsFrom_append_byte (by decide) (by decide) as bs (Nat.zero_le _), hslash]
  apply String.toList_inj.mp
  simp [shown]

end Storyboard.Text
