import Mathlib.Data.List.Induction
import Mathlib.Data.List.TakeWhile
import Storyboard.Keyword
import Storyboard.Proofs.Calendar
import Storyboard.Proofs.LayoutOrder
import Storyboard.Proofs.RepeatedTimes

/-! # Times as they are written in results

A result tree writes the start of a keyword in one of two ways, with all fields padded
by zeros: `YYYYMMDD HH:MM:SS.mmm` or `YYYY-MM-DDTHH:MM:SS.mmm000`. Both denote the same
instant in every zone. In universal time it is the number of milliseconds that counting
the days from the epoch gives.
-/
namespace Storyboard

/-! ## Padded numbers -/

namespace Text

/-- The last decimal digits of a number, as many as the width says. -/
def padded : Nat → Nat → List Char
  | 0, _ => []
  | width + 1, n => padded width (n / 10) ++ [(n % 10).digitChar]

variable {width n : Nat}

@[simp] theorem length_padded (width n : Nat) : (padded width n).length = width := by
  induction width generalizing n with
  | zero => rfl
  | succ width ih => simp [padded, ih]

theorem isDigit_of_mem_padded {c : Char} (h : c ∈ padded width n) : c.isDigit = true := by
  induction width generalizing n with
  | zero => cases h
  | succ width ih =>
    rcases List.mem_append.mp h with h | h
    · exact ih h
    · have hlt : n % 10 < 10 := Nat.mod_lt n (by decide)
      rw [List.mem_singleton.mp h, Nat.isDigit_digitChar]
      simpa using hlt

theorem padded_ne_nil (h : 0 < width) : padded width n ≠ [] := by
  intro hnil
  have hlength := length_padded width n
  rw [hnil, List.length_nil] at hlength
  omega

theorem numeral_padded (h : n < Nat.pow 10 width) : numeral (padded width n) = n := by
  induction width generalizing n with
  | zero =>
    have hzero : n = 0 := Nat.lt_one_iff.mp h
    rw [hzero]
    rfl
  | succ width ih =>
    have hfront : n / 10 < Nat.pow 10 width := Nat.div_lt_of_lt_mul (by rwa [Nat.mul_comm])
    have hdigit : digitValue (n % 10).digitChar = n % 10 := by
      have hchar := Nat.toNat_digitChar_of_lt_ten (Nat.mod_lt n (by decide : 0 < 10))
      have hzero : '0'.toNat = 48 := rfl
      unfold digitValue
      omega
    rw [padded, numeral_append_singleton, ih hfront, hdigit]
    omega

theorem numeral_append (xs ys : List Char) :
    numeral (xs ++ ys) = numeral xs * Nat.pow 10 ys.length + numeral ys := by
  induction ys using List.reverseRecOn with
  | nil => simp
  | append_singleton ys c ih =>
    have hpow : Nat.pow 10 (ys.length + 1) = Nat.pow 10 ys.length * 10 := rfl
    rw [← List.append_assoc, numeral_append_singleton, numeral_append_singleton, ih,
      List.length_append, List.length_singleton, hpow, ← Nat.mul_assoc]
    omega

theorem numeral_append_zeros (ds : List Char) (k : Nat) :
    numeral (ds ++ List.replicate k '0') = numeral ds * Nat.pow 10 k := by
  have hzeros : numeral (List.replicate k '0') = 0 := by
    induction k with
    | zero => rfl
    | succ k ih =>
      rw [List.replicate_succ', numeral_append_singleton, ih]
      rfl
  rw [numeral_append, hzeros, List.length_replicate, Nat.add_zero]

theorem isDigit_of_mem_append_zeros {ds : List Char} {k : Nat} (h : ∀ c ∈ ds, c.isDigit = true) :
    ∀ c ∈ ds ++ List.replicate k '0', c.isDigit = true := by
  intro c hc
  rcases List.mem_append.mp hc with hc | hc
  · exact h c hc
  · rw [List.eq_of_mem_replicate hc]
    rfl

theorem isBlank_of_isDigit {c : Char} (h : c.isDigit = true) : isBlank c = false := by
  simp only [Char.isDigit, Bool.and_eq_true, decide_eq_true_eq] at h
  have hlow : 48 ≤ c.toNat := UInt32.le_iff_toNat_le.mp h.1
  have hhigh : c.toNat ≤ 57 := UInt32.le_iff_toNat_le.mp h.2
  simp [isBlank]
  omega

theorem dropWhile_isBlank_padded (h : 0 < width) (rest : List Char) :
    (padded width n ++ rest).dropWhile isBlank = padded width n ++ rest := by
  cases hcs : padded width n with
  | nil => exact absurd hcs (padded_ne_nil h)
  | cons c cs =>
    have hdigit : c.isDigit = true := isDigit_of_mem_padded (by rw [hcs]; exact List.mem_cons_self)
    simp [isBlank_of_isDigit hdigit]

theorem replaceFirst_append {old new : Char} {front : List Char} (h : old ∉ front)
    (back : List Char) : replaceFirst old new (front ++ old :: back) = front ++ new :: back := by
  induction front with
  | nil => simp [replaceFirst]
  | cons c front ih =>
    simp only [List.mem_cons, not_or] at h
    rw [List.cons_append, replaceFirst, if_neg (Ne.symm h.1), ih h.2, List.cons_append]

end Text

namespace Time

open Text (padded)

/-! ## Reading padded fields -/

theorem readDigits_padded {n : Nat} (width : Nat) (hwidth : 0 < width) (hn : n < Nat.pow 10 width)
    (rest : List Char) : readDigits width (padded width n ++ rest) = some (n, rest) := by
  have htake : (padded width n ++ rest).take width = padded width n := by
    rw [List.take_append_of_le_length (by simp), List.take_of_length_le (by simp)]
  have hdigits : (padded width n).takeWhile Char.isDigit = padded width n :=
    List.takeWhile_eq_self_iff.mpr fun c hc => Text.isDigit_of_mem_padded hc
  have hempty : (padded width n).isEmpty = false := by
    simpa using Text.padded_ne_nil (n := n) hwidth
  rw [readDigits, htake, hdigits, hempty, if_neg Bool.false_ne_true,
    Text.numeral_padded hn, Text.length_padded,
    List.drop_left' (Text.length_padded width n)]

theorem readPair_padded {n : Nat} (hn : n < 100) (rest : List Char) :
    readPair (padded 2 n ++ rest) = some (n, rest) := by
  rw [readPair, Text.dropWhile_isBlank_padded (by decide), readDigits_padded 2 (by decide) hn]

theorem readYear_padded {n : Nat} (hn : n < 10000) (rest : List Char) :
    readYear (padded 4 n ++ rest) = some ((n : Int), rest) := by
  have hread := readDigits_padded 4 (by decide) hn rest
  have hsign : ∀ c, c ∈ padded 4 n → c ≠ '-' ∧ c ≠ '+' := by
    intro c hc
    have hdigit := Text.isDigit_of_mem_padded hc
    constructor
    · rintro rfl
      cases hdigit
    · rintro rfl
      cases hdigit
  rw [readYear, Text.dropWhile_isBlank_padded (by decide)]
  cases hcs : padded 4 n with
  | nil => exact absurd hcs (Text.padded_ne_nil (by decide))
  | cons c cs =>
    obtain ⟨hminus, hplus⟩ := hsign c (by rw [hcs]; exact List.mem_cons_self)
    rw [hcs, List.cons_append] at hread
    rw [List.cons_append]
    split
    · next heq => exact absurd (List.cons.inj heq).1 hminus
    · next heq => exact absurd (List.cons.inj heq).1 hplus
    · rw [hread]
      rfl

theorem readFraction_digits {ds : List Char} (hne : ds ≠ []) (h : ∀ c ∈ ds, c.isDigit = true) :
    readFraction ('.' :: ds) = some (nanosOf ds, []) := by
  have hall : ds.takeWhile Char.isDigit = ds := List.takeWhile_eq_self_iff.mpr h
  simp [readFraction, hall, hne]

theorem readFraction_padded {milli zeros : Nat} (hmilli : milli < 1000) (hzeros : zeros ≤ 6) :
    readFraction ('.' :: (padded 3 milli ++ List.replicate zeros '0')) =
      some (milli * 1000000, []) := by
  have hdigit : ∀ c ∈ padded 3 milli ++ List.replicate zeros '0', c.isDigit = true :=
    Text.isDigit_of_mem_append_zeros fun c hc => Text.isDigit_of_mem_padded hc
  have hne : padded 3 milli ++ List.replicate zeros '0' ≠ [] :=
    List.append_ne_nil_of_left_ne_nil (Text.padded_ne_nil (by decide)) _
  have hlength : (padded 3 milli ++ List.replicate zeros '0').length = 3 + zeros := by simp
  have hnanos : nanosOf (padded 3 milli ++ List.replicate zeros '0') = milli * 1000000 := by
    have hexponent : zeros + (9 - (3 + zeros)) = 6 := by omega
    have hpow : Nat.pow 10 zeros * Nat.pow 10 (9 - (3 + zeros)) = 1000000 :=
      (Nat.pow_add 10 _ _).symm.trans (by rw [hexponent])
    rw [nanosOf, List.take_of_length_le (by omega), hlength,
      Text.numeral_append_zeros, Text.numeral_padded hmilli, Nat.mul_assoc, hpow]
  rw [readFraction_digits hne hdigit, hnanos]

/-! ## Written moments -/

/-- A time to the millisecond, in a year that four digits can write. -/
structure Moment where
  date : Date
  hour : Nat
  minute : Nat
  second : Nat
  milli : Nat
  valid : date.Valid
  year_nonneg : 0 ≤ date.year
  year_le : date.year ≤ 9999
  hour_le : hour ≤ 23
  minute_le : minute ≤ 59
  second_le : second ≤ 59
  milli_le : milli ≤ 999

namespace Moment

variable (m : Moment)

def year : Nat := m.date.year.toNat

/-- `HH:MM:SS.mmm` with some zeros behind it. -/
def clockText (zeros : Nat) : List Char :=
  padded 2 m.hour ++ ':' :: (padded 2 m.minute ++ ':' :: (padded 2 m.second ++
    '.' :: (padded 3 m.milli ++ List.replicate zeros '0')))

/-- `YYYYMMDD HH:MM:SS.mmm` -/
def compactText : String :=
  String.ofList (padded 4 m.year ++ (padded 2 m.date.month ++ (padded 2 m.date.day ++
    ' ' :: m.clockText 0)))

/-- `YYYY-MM-DD` -/
def dashedDate : List Char :=
  padded 4 m.year ++ '-' :: (padded 2 m.date.month ++ '-' :: padded 2 m.date.day)

/-- `YYYY-MM-DDTHH:MM:SS.mmm000` -/
def isoText : String := String.ofList (m.dashedDate ++ 'T' :: m.clockText 3)

def wallTime : WallTime := ⟨m.date, m.hour, m.minute, m.second, m.milli * 1000000⟩

def millisOfDay : Int := m.hour * 3600000 + m.minute * 60000 + m.second * 1000 + m.milli

theorem year_lt : m.year < 10000 := by
  have := m.year_le
  unfold year
  omega

theorem month_lt : m.date.month < 100 := by
  have := m.valid.2.2.2.1
  omega

theorem day_lt : m.date.day < 100 := by
  have hday := m.valid.2.2.2.2.2
  have hlength := daysInMonth_le m.date.year m.date.month
  omega

theorem dropWhile_isBlank_clockText (zeros : Nat) :
    (' ' :: m.clockText zeros).dropWhile Text.isBlank = m.clockText zeros := by
  rw [List.dropWhile_cons_of_pos (by decide), clockText, Text.dropWhile_isBlank_padded (by decide)]

def fields : Fields :=
  ⟨m.year, m.date.month, m.date.day, m.hour, m.minute, m.second, m.milli * 1000000⟩

theorem toWallTime?_fields : m.fields.toWallTime? = some m.wallTime := by
  have hyear : (m.year : Int) = m.date.year := Int.toNat_of_nonneg m.year_nonneg
  have hsecond : m.second ≠ 60 := by
    have := m.second_le
    omega
  have hfields : Date.Valid ⟨(m.year : Int), m.date.month, m.date.day⟩ ∧ m.hour ≤ 23 ∧
      m.minute ≤ 59 ∧ m.second ≤ 60 := by
    refine ⟨?_, m.hour_le, m.minute_le, Nat.le_trans m.second_le (by decide)⟩
    rw [hyear]
    exact m.valid
  unfold Fields.toWallTime? WallTime.ofFields? fields
  dsimp only
  rw [if_pos hfields, if_neg hsecond, hyear]
  rfl

theorem readFrom_clockText (f : Fields) (zeros : Nat) (hzeros : zeros ≤ 6) :
    Layout.readFrom f (Layout.clock ++ [.fraction]) (m.clockText zeros) =
      some ({ f with
        hour := m.hour, minute := m.minute, second := m.second,
        nanos := m.milli * 1000000 }, []) := by
  have hhour := readPair_padded (n := m.hour) (by have := m.hour_le; omega)
  have hminute := readPair_padded (n := m.minute) (by have := m.minute_le; omega)
  have hsecond := readPair_padded (n := m.second) (by have := m.second_le; omega)
  have hmilli := readFraction_padded (Nat.lt_succ_of_le m.milli_le) hzeros
  simp [Layout.clock, clockText, Layout.readFrom, Item.read, hhour, hminute, hsecond, hmilli]

theorem read?_compactText : WallTime.read? Layout.accepted m.compactText = some m.wallTime := by
  have hyear := readYear_padded m.year_lt
  have hmonth := readPair_padded m.month_lt
  have hday := readPair_padded m.day_lt
  have hclock := fun f => m.readFrom_clockText f 0 (by decide)
  have hfields : Layout.readFrom {} (Layout.compactDate ++ Layout.clock ++ [.fraction])
      m.compactText.toList = some (m.fields, []) := by
    simp [Layout.compactDate, compactText, Layout.readFrom, Item.read, hyear, hmonth, hday,
      dropWhile_isBlank_clockText, hclock, fields]
  have hread := Layout.read?_eq_some_iff.mpr ⟨m.fields, hfields, m.toWallTime?_fields⟩
  rw [WallTime.read?, Layout.accepted, List.findSome?_cons, hread]

theorem readFrom_dashed (items : Layout) (rest : List Char) :
    Layout.readFrom {} (.year :: .month :: items) (padded 4 m.year ++ '-' :: rest) = none := by
  have hyear := readYear_padded m.year_lt ('-' :: rest)
  simp [Layout.readFrom, Item.read, hyear, readPair_dash]

theorem read?_dashedText {zeros : Nat} (hzeros : zeros ≤ 6) :
    WallTime.read? Layout.accepted (String.ofList (m.dashedDate ++ ' ' :: m.clockText zeros)) =
      some m.wallTime := by
  have hyear := readYear_padded m.year_lt
  have hmonth := readPair_padded m.month_lt
  have hday := readPair_padded m.day_lt
  have hclock := fun f => m.readFrom_clockText f zeros hzeros
  have hfields : Layout.readFrom {} (Layout.dashedDate ++ Layout.clock ++ [.fraction])
      (m.dashedDate ++ ' ' :: m.clockText zeros) = some (m.fields, []) := by
    simp [Layout.dashedDate, dashedDate, Layout.readFrom, Item.read, hyear, hmonth, hday,
      dropWhile_isBlank_clockText, hclock, fields]
  have hcompact : ∀ items, Layout.readFrom {} (.year :: .month :: items)
      (m.dashedDate ++ ' ' :: m.clockText zeros) = none := by
    intro items
    rw [dashedDate, List.append_assoc, List.cons_append]
    exact m.readFrom_dashed items _
  have hnone : ∀ items, Layout.read? (.year :: .month :: items)
      (m.dashedDate ++ ' ' :: m.clockText zeros) = none := by
    intro items
    rw [Layout.read?, hcompact]
  have hread := Layout.read?_eq_some_iff.mpr ⟨m.fields, hfields, m.toWallTime?_fields⟩
  rw [WallTime.read?, String.toList_ofList, Layout.accepted, List.findSome?_cons,
    Layout.compactDate]
  simp only [List.cons_append, hnone, List.findSome?_cons]
  rw [hread]

theorem spacedStart_isoText :
    Timing.spacedStart m.isoText = String.ofList (m.dashedDate ++ ' ' :: m.clockText 3) := by
  have hmark : 'T' ∉ m.dashedDate := by
    have hdigits : ∀ width n, 'T' ∉ padded width n := fun width n hmem =>
      absurd (Text.isDigit_of_mem_padded hmem) (by decide)
    simp [dashedDate, hdigits]
  rw [Timing.spacedStart, isoText, String.toList_ofList, Text.replaceFirst_append hmark]

theorem stamp?_start (zone : Zone) {status : Xml.Node}
    (h : status.attribute? "start" = some m.isoText) :
    ∀ zone', stamp? zone' (Timing.ofStatus zone status).startTime = zone'.instant? m.wallTime := by
  intro zone'
  have hstart : (Timing.ofStatus zone status).startTime = some (Timing.spacedStart m.isoText) := by
    rw [Timing.ofStatus, h]
  rw [hstart, spacedStart_isoText, stamp?_of_read? (m.read?_dashedText (by decide))]

/-! ## In universal time -/

theorem onClock_wallTime : m.wallTime.OnClock := by
  refine ⟨m.valid, m.hour_le, m.minute_le, m.second_le, ?_⟩
  have := m.milli_le
  simp only [wallTime, WallTime.leapNanos]
  omega

theorem instant?_utc :
    Zone.utc.instant? m.wallTime = some (86400000 * m.date.dayNumber + m.millisOfDay) := by
  obtain ⟨hlow, hhigh⟩ := WallTime.seconds_bounds m.onClock_wallTime
  have hcalendar : Zone.onCalendar m.wallTime 0 = true := by
    simp only [Zone.onCalendar, Bool.and_eq_true, decide_eq_true_eq]
    refine ⟨⟨by decide, ?_⟩, ?_⟩
    · omega
    · omega
  have hoffset : Zone.utc.firstOffset? m.wallTime = some 0 := by
    simp [Zone.firstOffset?, Zone.utc, Zone.occurrence, hcalendar]
  have hmilli : m.wallTime.nanos / 1000000 = m.milli := Nat.mul_div_cancel _ (by decide)
  have hday : m.wallTime.seconds =
      m.date.dayNumber * 86400 + m.hour * 3600 + m.minute * 60 + m.second :=
    rfl
  have hmillis : m.wallTime.millis = 86400000 * m.date.dayNumber + m.millisOfDay := by
    rw [WallTime.millis, hmilli, hday, millisOfDay]
    omega
  simp [Zone.instant?, hoffset, hmillis]

end Moment

/-- Both ways to write a start denote one instant in each zone. In universal time it is
the number of milliseconds from the epoch, counted day by day. -/
theorem stamp?_written (m : Moment) (count : Date.DayCount) (zone : Zone) {status : Xml.Node}
    (hstart : status.attribute? "start" = some m.isoText) :
    stamp? zone (some m.compactText) = stamp? zone (Timing.ofStatus zone status).startTime ∧
      stamp? .utc (some m.compactText) =
        some (86400000 * count.number m.date + m.millisOfDay) ∧
      stamp? .utc (Timing.ofStatus zone status).startTime =
        some (86400000 * count.number m.date + m.millisOfDay) := by
  have hcompact := stamp?_of_read? m.read?_compactText
  have hiso := m.stamp?_start zone hstart
  have hutc := m.instant?_utc
  rw [← count.number_eq m.valid] at hutc
  exact ⟨(hcompact zone).trans (hiso zone).symm, (hcompact .utc).trans hutc, (hiso .utc).trans hutc⟩

/-- The last millisecond of the leap day of year zero, also in a zone with a rule. -/
theorem stamp?_written_leap_day :
    let status : Xml.Node := .element ⟨none, "status"⟩
      [⟨⟨none, "status"⟩, "PASS"⟩, ⟨⟨none, "start"⟩, "0000-02-29T23:59:59.999000"⟩] []
    let zone : Zone := .alternating
      ⟨-18000, -14400, ⟨.weekdayOf 3 2 0, 7200⟩, ⟨.weekdayOf 11 1 0, 7200⟩⟩
    stamp? zone (some "00000229 23:59:59.999") =
        stamp? zone (Timing.ofStatus zone status).startTime ∧
      stamp? .utc (some "00000229 23:59:59.999") = some (-62162035200001) ∧
      stamp? .utc (Timing.ofStatus zone status).startTime = some (-62162035200001) := by
  intro status zone
  let m : Moment :=
    ⟨⟨0, 2, 29⟩, 23, 59, 59, 999, by decide, by decide, by decide, by decide, by decide, by decide,
      by decide⟩
  have hcompact : m.compactText = "00000229 23:59:59.999" := by decide +kernel
  have hstart : status.attribute? "start" = some m.isoText := by decide +kernel
  have hcount : 86400000 * Date.DayCount.ofDayNumber.number m.date + m.millisOfDay =
      -62162035200001 := by decide +kernel
  have hwritten := stamp?_written m .ofDayNumber zone hstart
  rwa [hcompact, hcount] at hwritten

end Time
end Storyboard
