import Storyboard.Proofs.WrittenTimes

/-! # Fractions of a second

A point and digits behind a written time add the milliseconds that the first three of the
digits denote. Reading stops at the point as it stops at the end of a text, so the fields
in front of it are the same. The fraction does not change the second of the wall time, and
neither the offset nor the day before depends on more than the second.
-/
namespace Storyboard.Time

/-! ## Digits -/

/-- The number of the first three digits, with zeros in place of those that are missing. -/
def thousandths (ds : List Char) : Nat := Text.numeral ((ds ++ ['0', '0', '0']).take 3)

def nineDigits (ds : List Char) : List Char :=
  ds.take 9 ++ List.replicate (9 - (ds.take 9).length) '0'

theorem length_nineDigits (ds : List Char) : (nineDigits ds).length = 9 := by
  have hlength : (ds.take 9).length ≤ 9 := List.length_take_le 9 ds
  simp only [nineDigits, List.length_append, List.length_replicate]
  omega

theorem isDigit_of_mem_nineDigits {ds : List Char} (h : ∀ c ∈ ds, c.isDigit = true) :
    ∀ c ∈ nineDigits ds, c.isDigit = true :=
  Text.isDigit_of_mem_append_zeros fun c hc => h c (List.mem_of_mem_take hc)

theorem take_nineDigits (ds : List Char) :
    (nineDigits ds).take 3 = (ds ++ ['0', '0', '0']).take 3 := by
  rcases ds with _ | ⟨a, _ | ⟨b, _ | ⟨c, ds⟩⟩⟩
  · rfl
  · rfl
  · rfl
  · simp [nineDigits]

theorem nanosOf_eq_numeral (ds : List Char) : nanosOf ds = Text.numeral (nineDigits ds) := by
  rw [nineDigits, Text.numeral_append_zeros]
  rfl

theorem nanosOf_div {ds : List Char} (h : ∀ c ∈ ds, c.isDigit = true) :
    nanosOf ds / 1000000 = thousandths ds := by
  have hlength := length_nineDigits ds
  have hback : ((nineDigits ds).drop 3).length = 6 := by simp [hlength]
  have hsmall : Text.numeral ((nineDigits ds).drop 3) < 1000000 := by
    have hlt := Text.numeral_lt ((nineDigits ds).drop 3) fun c hc =>
      isDigit_of_mem_nineDigits h c (List.mem_of_mem_drop hc)
    rwa [hback] at hlt
  have hsplit := Text.numeral_append ((nineDigits ds).take 3) ((nineDigits ds).drop 3)
  rw [List.take_append_drop, hback, show Nat.pow 10 6 = 1000000 from rfl] at hsplit
  rw [nanosOf_eq_numeral, thousandths, ← take_nineDigits]
  omega

/-! ## Reading up to a point -/

section Point

variable {cs rest : List Char} (ds : List Char)

theorem takeWhile_point (cs : List Char) :
    (cs ++ '.' :: ds).takeWhile Char.isDigit = cs.takeWhile Char.isDigit := by
  induction cs with
  | nil => rfl
  | cons c cs ih => simp [List.takeWhile_cons, ih]

theorem takeWhile_take_point (cs : List Char) (limit : Nat) :
    ((cs ++ '.' :: ds).take limit).takeWhile Char.isDigit =
      (cs.take limit).takeWhile Char.isDigit := by
  rw [List.take_append]
  cases limit - cs.length with
  | zero => simp
  | succ k => exact takeWhile_point _ _

theorem dropWhile_isBlank_point (cs : List Char) :
    (cs ++ '.' :: ds).dropWhile Text.isBlank = cs.dropWhile Text.isBlank ++ '.' :: ds := by
  induction cs with
  | nil => rfl
  | cons c cs ih => by_cases hc : Text.isBlank c = true <;> simp [hc, ih]

theorem readDigits_point {limit limit' n : Nat} (hlimit : cs.take limit' = cs.take limit)
    (h : readDigits limit cs = some (n, rest)) :
    readDigits limit' (cs ++ '.' :: ds) = some (n, rest ++ '.' :: ds) := by
  have hlength : ((cs.take limit).takeWhile Char.isDigit).length ≤ cs.length :=
    Nat.le_trans (List.takeWhile_sublist _).length_le (List.length_take_le' limit cs)
  unfold readDigits at h ⊢
  rw [takeWhile_take_point, hlimit]
  dsimp only at h ⊢
  split at h
  · cases h
  · next hne =>
    cases h
    rw [if_neg hne, List.drop_append_of_le_length hlength]

theorem readPair_point {n : Nat} (h : readPair cs = some (n, rest)) :
    readPair (cs ++ '.' :: ds) = some (n, rest ++ '.' :: ds) := by
  rw [readPair, dropWhile_isBlank_point]
  exact readDigits_point ds rfl h

theorem readYear_point {n : Int} (h : readYear cs = some (n, rest)) :
    readYear (cs ++ '.' :: ds) = some (n, rest ++ '.' :: ds) := by
  -- Behind a sign the limit is the length of the text, which grows with the point.
  have hlong : ∀ digits : List Char,
      digits.take (digits ++ '.' :: ds).length = digits.take digits.length := by
    intro digits
    simp [List.take_of_length_le]
  unfold readYear at h
  rw [readYear, dropWhile_isBlank_point]
  split at h
  · next digits hcs =>
    obtain ⟨⟨k, r⟩, hk, he⟩ := Option.map_eq_some_iff.mp h
    cases he
    rw [hcs]
    exact congrArg (Option.map fun r => (-(r.1 : Int), r.2))
      (readDigits_point ds (hlong digits) hk)
  · next digits hcs =>
    obtain ⟨⟨k, r⟩, hk, he⟩ := Option.map_eq_some_iff.mp h
    cases he
    rw [hcs]
    exact congrArg (Option.map fun r => ((r.1 : Int), r.2))
      (readDigits_point ds (hlong digits) hk)
  · next hminus hplus =>
    obtain ⟨⟨k, r⟩, hk, he⟩ := Option.map_eq_some_iff.mp h
    cases he
    cases hcs : cs.dropWhile Text.isBlank with
    | nil =>
      rw [hcs] at hk
      cases hk
    | cons c digits =>
      have hread := readDigits_point ds rfl hk
      rw [hcs, List.cons_append] at hread
      rw [List.cons_append]
      split
      · next heq => exact absurd (by rw [hcs, (List.cons.inj heq).1]) (hminus digits)
      · next heq => exact absurd (by rw [hcs, (List.cons.inj heq).1]) (hplus digits)
      · rw [hread, Option.map_some]

theorem Item.read_point {item : Item} (h : item ≠ .fraction) {f f' : Fields}
    (hread : item.read f cs = some (f', rest)) :
    item.read f (cs ++ '.' :: ds) = some (f', rest ++ '.' :: ds) := by
  cases item with
  | fraction => exact absurd rfl h
  | space =>
    cases hread
    rw [Item.read, dropWhile_isBlank_point]
  | mark c =>
    cases cs with
    | nil => cases hread
    | cons c' cs =>
      rw [Item.read] at hread
      split at hread
      · next hc =>
        cases hread
        exact if_pos hc
      · cases hread
  | year =>
    obtain ⟨⟨n, r⟩, hn, he⟩ := Option.map_eq_some_iff.mp hread
    cases he
    rw [Item.read, readYear_point ds hn, Option.map_some]
  | _ =>
    obtain ⟨⟨n, r⟩, hn, he⟩ := Option.map_eq_some_iff.mp hread
    cases he
    rw [Item.read, readPair_point ds hn, Option.map_some]

theorem Layout.readFrom_point {layout : Layout} (h : .fraction ∉ layout) {f f' : Fields}
    (hread : readFrom f layout cs = some (f', rest)) :
    readFrom f layout (cs ++ '.' :: ds) = some (f', rest ++ '.' :: ds) := by
  induction layout generalizing f cs with
  | nil =>
    cases hread
    rfl
  | cons item layout ih =>
    rw [List.mem_cons, not_or] at h
    rw [readFrom] at hread
    split at hread
    · cases hread
    · next hitem =>
      rw [readFrom, Item.read_point ds (Ne.symm h.1) hitem]
      exact ih h.2 hread

end Point

/-! ## Wall times with a fraction -/

def WallTime.addNanos (w : WallTime) (n : Nat) : WallTime := { w with nanos := w.nanos + n }

/-- A wall time at the beginning of a second, which may be a leap second. -/
def WallTime.IsWhole (w : WallTime) : Prop := w.nanos = 0 ∨ w.nanos = leapNanos

theorem Fields.toWallTime?_of_nanos {f : Fields} {w : WallTime} (hf : f.nanos = 0)
    (h : f.toWallTime? = some w) (n : Nat) :
    w.IsWhole ∧ { f with nanos := n }.toWallTime? = some (w.addNanos n) := by
  unfold toWallTime? WallTime.ofFields? at h ⊢
  split at h
  · next hfields =>
    rw [if_pos hfields]
    split at h
    · next hleap =>
      cases h
      rw [if_pos hleap]
      exact ⟨.inr (by simp [hf]), by simp [WallTime.addNanos, hf, Nat.add_comm]⟩
    · next hleap =>
      cases h
      rw [if_neg hleap]
      exact ⟨.inl hf, by simp [WallTime.addNanos, hf]⟩
  · cases h

/-- A layout with a fraction reads what the layout without it reads in front of the point. -/
theorem Layout.read?_point {layout : Layout} (h : .fraction ∉ layout) {cs ds : List Char}
    {w : WallTime} (hread : layout.read? cs = some w) (hne : ds ≠ [])
    (hds : ∀ c ∈ ds, c.isDigit = true) :
    w.IsWhole ∧
      read? (layout ++ [.fraction]) (cs ++ '.' :: ds) = some (w.addNanos (nanosOf ds)) := by
  obtain ⟨f, hfields, hw⟩ := read?_eq_some_iff.mp hread
  have hnanos : f.nanos = 0 := nanos_readFrom_of_not_mem h hfields
  obtain ⟨hwhole, hsum⟩ := Fields.toWallTime?_of_nanos hnanos hw (nanosOf ds)
  refine ⟨hwhole, read?_eq_some_iff.mpr ⟨{ f with nanos := nanosOf ds }, ?_, hsum⟩⟩
  rw [readFrom_append, readFrom_point ds h hfields]
  simp [readFrom, Item.read, readFraction_digits hne hds]

namespace WallTime

variable {w : WallTime} {n : Nat}

theorem dayBefore?_addNanos (hw : w.IsWhole) (hn : n < leapNanos) :
    (w.addNanos n).dayBefore? = w.dayBefore?.map (·.addNanos n) := by
  have hsame : (w.addNanos n).nanos < leapNanos ↔ w.nanos < leapNanos := by
    rcases hw with hw | hw <;> simp only [addNanos, hw] <;> omega
  have hrest : ¬w.nanos < leapNanos →
      (w.addNanos n).nanos - leapNanos = w.nanos - leapNanos + n := by
    intro hleap
    simp only [addNanos]
    omega
  unfold dayBefore?
  simp only [hsame]
  by_cases hplain : w.nanos < leapNanos
  · rw [if_pos hplain, if_pos hplain, Option.map_map]
    rfl
  · rw [if_neg hplain, if_neg hplain, hrest hplain]
    by_cases hminute : w.minute < 59
    · rw [if_pos hminute, Option.map_map]
      exact if_pos hminute
    · by_cases hhour : w.hour < 23
      · rw [if_neg hminute, if_pos hhour, Option.map_map]
        exact (if_neg hminute).trans (if_pos hhour)
      · rw [if_neg hminute, if_neg hhour]
        exact (if_neg hminute).trans (if_neg hhour)

theorem millis_addNanos (hw : w.IsWhole) (n : Nat) :
    (w.addNanos n).millis = w.millis + (n / 1000000 : Nat) := by
  have hnanos : (w.addNanos n).nanos / 1000000 = w.nanos / 1000000 + n / 1000000 := by
    rcases hw with hw | hw <;> simp only [addNanos, hw, leapNanos] <;> omega
  rw [millis, millis, hnanos, Int.natCast_add, ← Int.add_assoc]
  rfl

end WallTime

/-! ## Instants -/

namespace Zone

variable {w : WallTime} {n : Nat}

/-- Where a wall time occurs depends on its second. -/
theorem firstOffset?_addNanos (z : Zone) (w : WallTime) (n : Nat) :
    z.firstOffset? (w.addNanos n) = z.firstOffset? w := by
  cases z <;> rfl

/-- Nanoseconds within a second are added to its instant, rounded down to milliseconds. -/
theorem instant?_addNanos (z : Zone) (hw : w.IsWhole) (hn : n < WallTime.leapNanos) :
    z.instant? (w.addNanos n) = (z.instant? w).map (· + ((n / 1000000 : Nat) : Int)) := by
  have hshift : ∀ offset : Int, (w.addNanos n).millis - offset * 1000 =
      w.millis - offset * 1000 + ((n / 1000000 : Nat) : Int) := by
    intro offset
    rw [WallTime.millis_addNanos hw]
    omega
  unfold instant?
  rw [firstOffset?_addNanos, WallTime.dayBefore?_addNanos hw hn]
  cases z.firstOffset? w with
  | some offset => simp [hshift]
  | none =>
    cases w.dayBefore? with
    | none => rfl
    | some before =>
      simp only [Option.map_some, firstOffset?_addNanos]
      cases z.firstOffset? before with
      | none => rfl
      | some offset => simp [hshift]

end Zone

/-! ## Stamps -/

def Layout.plain : List Layout := accepted.filter fun l => .fraction ∉ l

theorem Layout.append_fraction_mem_accepted {l : Layout} (h : l ∈ plain) :
    l ++ [.fraction] ∈ accepted := by
  have hplain : plain = [compactDate ++ clock, dashedDate ++ clock] := by decide
  simp only [hplain, List.mem_cons, List.not_mem_nil, or_false] at h
  rcases h with rfl | rfl <;> decide

/-- Digits behind a point add the number of milliseconds that the first three of them
denote, in every zone and for every wall time; they neither make nor break a stamp. -/
theorem stamp?_append_fraction (zone : Zone) {text fraction : String}
    (htext : ∃ l ∈ Layout.plain, (l.read? text.toList).isSome = true) (hne : fraction ≠ "")
    (hdigits : fraction.toList.all Char.isDigit = true) :
    stamp? zone (some (text ++ "." ++ fraction)) =
      (stamp? zone (some text)).map (· + (thousandths fraction.toList : Int)) := by
  obtain ⟨l, hl, hsome⟩ := htext
  obtain ⟨w, hw⟩ := Option.isSome_iff_exists.mp hsome
  obtain ⟨hmem, hfraction⟩ : l ∈ Layout.accepted ∧ .fraction ∉ l := by
    simpa [Layout.plain] using hl
  have hds : fraction.toList ≠ [] := by simpa using hne
  have hall : ∀ c ∈ fraction.toList, c.isDigit = true := List.all_eq_true.mp hdigits
  obtain ⟨hwhole, hsum⟩ := Layout.read?_point hfraction hw hds hall
  have hplain : WallTime.read? Layout.accepted text = some w :=
    (WallTime.read?_eq_some_iff (List.Subset.refl _)).mpr ⟨l, hmem, hw⟩
  have hlong : WallTime.read? Layout.accepted (text ++ "." ++ fraction) =
      some (w.addNanos (nanosOf fraction.toList)) :=
    (WallTime.read?_eq_some_iff (List.Subset.refl _)).mpr
      ⟨l ++ [.fraction], Layout.append_fraction_mem_accepted hl, by simpa using hsum⟩
  rw [stamp?_of_read? hlong, stamp?_of_read? hplain,
    Zone.instant?_addNanos zone hwhole (nanosOf_lt hall), nanosOf_div hall]

/-- A leap second before the epoch that clocks skip, with more digits than are read. -/
theorem stamp?_append_fraction_skipped :
    let zone : Zone := .alternating
      ⟨-18000, -14400, ⟨.weekdayOf 3 2 0, 7200⟩, ⟨.weekdayOf 11 1 0, 7200⟩⟩
    (∃ l ∈ Layout.plain, (l.read? "1969-03-09 02:59:60".toList).isSome = true) ∧
      stamp? zone (some "1969-03-09 02:59:60") = some (-25718400000) ∧
      stamp? zone (some "1969-03-09 02:59:60.99999999999") = some (-25718399001) := by
  intro zone
  have htext : ∃ l ∈ Layout.plain, (l.read? "1969-03-09 02:59:60".toList).isSome = true :=
    ⟨Layout.dashedDate ++ Layout.clock, by decide, by decide +kernel⟩
  have hstamp : stamp? zone (some "1969-03-09 02:59:60") = some (-25718400000) := by
    decide +kernel
  have hsum := @stamp?_append_fraction zone _ "99999999999" htext (by decide) (by decide)
  refine ⟨htext, hstamp, hsum.trans ?_⟩
  rw [hstamp]
  decide +kernel

end Storyboard.Time
