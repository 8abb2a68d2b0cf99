import Storyboard.Number.Word
import Storyboard.Proofs.LayoutOrder

/-! # Bounds on time stamps

Years are bounded, a fraction of a second has nine digits and an offset is smaller
than a day. So the instant of a stamp fits a word, in whatever zone.
-/
namespace Storyboard

/-! ## Numerals -/

theorem Text.digitValue_lt {c : Char} (h : c.isDigit = true) : digitValue c < 10 := by
  simp only [Char.isDigit, Bool.and_eq_true, decide_eq_true_eq] at h
  have hnine : c.toNat ≤ '9'.toNat := UInt32.le_iff_toNat_le.mp h.2
  have hzero : '0'.toNat = 48 := rfl
  have hvalue : '9'.toNat = 57 := rfl
  unfold digitValue
  omega

theorem Text.foldl_digitValue_lt (ds : List Char) (h : ∀ c ∈ ds, c.isDigit = true) (n : Nat) :
    ds.foldl (fun n c => 10 * n + digitValue c) n < (n + 1) * Nat.pow 10 ds.length := by
  induction ds generalizing n with
  | nil => simp
  | cons c ds ih =>
    have hc := digitValue_lt (h c List.mem_cons_self)
    have hrest := ih (fun d hd => h d (List.mem_cons_of_mem c hd)) (10 * n + digitValue c)
    rw [List.foldl_cons, List.length_cons]
    calc ds.foldl (fun n c => 10 * n + digitValue c) (10 * n + digitValue c)
        < (10 * n + digitValue c + 1) * Nat.pow 10 ds.length := hrest
      _ ≤ ((n + 1) * 10) * Nat.pow 10 ds.length := Nat.mul_le_mul_right _ (by omega)
      _ = (n + 1) * (Nat.pow 10 ds.length * 10) := by
        rw [Nat.mul_assoc, Nat.mul_comm 10]
      _ = (n + 1) * Nat.pow 10 (ds.length + 1) := rfl

theorem Text.numeral_lt (ds : List Char) (h : ∀ c ∈ ds, c.isDigit = true) :
    numeral ds < Nat.pow 10 ds.length := by
  have := foldl_digitValue_lt ds h 0
  rwa [Nat.zero_add, Nat.one_mul] at this

namespace Time

/-! ## Wall times -/

theorem nanosOf_lt {ds : List Char} (h : ∀ c ∈ ds, c.isDigit = true) :
    nanosOf ds < WallTime.leapNanos := by
  have hlength : (ds.take 9).length ≤ 9 := List.length_take_le 9 ds
  have hnumeral := Text.numeral_lt (ds.take 9) fun c hc => h c (List.mem_of_mem_take hc)
  calc Text.numeral (ds.take 9) * Nat.pow 10 (9 - (ds.take 9).length)
      < Nat.pow 10 (ds.take 9).length * Nat.pow 10 (9 - (ds.take 9).length) :=
        Nat.mul_lt_mul_of_pos_right hnumeral (Nat.pow_pos (by decide))
    _ = Nat.pow 10 ((ds.take 9).length + (9 - (ds.take 9).length)) := (Nat.pow_add 10 _ _).symm
    _ = Nat.pow 10 9 := by rw [Nat.add_sub_cancel' hlength]

theorem readFraction_lt {cs rest : List Char} {n : Nat} (h : readFraction cs = some (n, rest)) :
    n < WallTime.leapNanos := by
  unfold readFraction at h
  split at h
  · dsimp only at h
    split at h
    · cases h
    · cases h
      exact nanosOf_lt (List.all_eq_true.mp List.all_takeWhile)
  · cases h
    decide

theorem Item.nanos_read {f f' : Fields} {cs rest : List Char} {item : Item}
    (hf : f.nanos < WallTime.leapNanos) (h : item.read f cs = some (f', rest)) :
    f'.nanos < WallTime.leapNanos := by
  cases item with
  | fraction =>
    obtain ⟨⟨n, r⟩, hn, he⟩ := Option.map_eq_some_iff.mp h
    cases he
    exact readFraction_lt hn
  | space =>
    cases h
    exact hf
  | mark c =>
    cases cs with
    | nil => cases h
    | cons c' cs =>
      rw [Item.read] at h
      split at h
      · cases h
        exact hf
      · cases h
  | _ =>
    obtain ⟨⟨n, r⟩, -, he⟩ := Option.map_eq_some_iff.mp h
    cases he
    exact hf

theorem Layout.nanos_readFrom {f f' : Fields} {layout : Layout} {cs rest : List Char}
    (hf : f.nanos < WallTime.leapNanos) (h : readFrom f layout cs = some (f', rest)) :
    f'.nanos < WallTime.leapNanos := by
  induction layout generalizing f cs with
  | nil =>
    cases h
    exact hf
  | cons item items ih =>
    rw [readFrom] at h
    split at h
    · cases h
    · next hread => exact ih (Item.nanos_read hf hread) h

/-- A wall time on the calendar. A leap second counts as up to two seconds. -/
def WallTime.OnClock (w : WallTime) : Prop :=
  w.date.Valid ∧ w.hour ≤ 23 ∧ w.minute ≤ 59 ∧ w.second ≤ 59 ∧ w.nanos < 2 * leapNanos

theorem WallTime.onClock_ofFields? {date : Date} {hour minute second nanos : Nat} {w : WallTime}
    (hnanos : nanos < leapNanos) (h : ofFields? date hour minute second nanos = some w) :
    w.OnClock := by
  unfold ofFields? at h
  split at h
  · next hfields =>
    obtain ⟨hdate, hhour, hminute, hsecond⟩ := hfields
    split at h
    · cases h
      exact ⟨hdate, hhour, hminute, Nat.le_refl 59, by dsimp only; omega⟩
    · cases h
      exact ⟨hdate, hhour, hminute, by dsimp only; omega, by dsimp only; omega⟩
  · cases h

theorem WallTime.exists_fields_of_read? {layouts : List Layout} {text : String} {w : WallTime}
    (h : WallTime.read? layouts text = some w) :
    ∃ f : Fields, f.nanos < leapNanos ∧ f.toWallTime? = some w := by
  obtain ⟨layout, -, hlayout⟩ := List.exists_of_findSome?_eq_some h
  obtain ⟨f, hread, hw⟩ := Layout.read?_eq_some_iff.mp hlayout
  exact ⟨f, Layout.nanos_readFrom (by decide) hread, hw⟩

theorem WallTime.onClock_read? {layouts : List Layout} {text : String} {w : WallTime}
    (h : WallTime.read? layouts text = some w) : w.OnClock := by
  obtain ⟨f, hnanos, hw⟩ := exists_fields_of_read? h
  exact onClock_ofFields? hnanos hw

/-! ## Instants -/

theorem daysInMonth_le (year : Int) (month : Nat) : daysInMonth year month ≤ 31 := by
  unfold daysInMonth
  split
  · split <;> omega
  · split <;> omega

/-- The calendar has less than a hundred million days on either side of the epoch. -/
theorem Date.dayNumber_bounds {d : Date} (h : d.Valid) :
    -100000000 < d.dayNumber ∧ d.dayNumber < 100000000 := by
  obtain ⟨hmin, hmax, -, hmonth, -, hday⟩ := h
  have hdays := daysInMonth_le d.year d.month
  unfold minYear at hmin
  unfold maxYear at hmax
  have hbefore : daysBeforeMonth d.month ≤ 337 := by
    unfold daysBeforeMonth
    omega
  unfold dayNumber
  dsimp only
  split <;> omega

theorem Zone.isOffset_of_firstOffset? {z : Zone} {w : WallTime} {offset : Int}
    (h : z.firstOffset? w = some offset) : isOffset offset = true := by
  have hcalendar : ∀ o, onCalendar w o = true → isOffset o = true := by
    intro o ho
    simp only [onCalendar, Bool.and_eq_true] at ho
    exact ho.1.1
  unfold firstOffset? at h
  split at h
  · split at h
    · next ho =>
      cases h
      exact hcalendar _ ho
    · cases h
  · split at h
    · next ho =>
      cases h
      simp only [Bool.and_eq_true] at ho
      exact hcalendar _ ho.1
    · cases h
  · cases h

/-- An instant is near enough to the epoch for sums and differences. -/
def Near (n : Int) : Prop := -8640000200000000 ≤ n ∧ n ≤ 8640000200000000

theorem Near.fits {n : Int} (h : Near n) : Number.Word.fits n = true := by
  obtain ⟨hleast, hgreatest⟩ := h
  apply Number.Word.fits_iff.mpr
  unfold Number.Word.least Number.Word.greatest
  omega

theorem Near.fits_sub {n m : Int} (hn : Near n) (hm : Near m) :
    Number.Word.fits (n - m) = true := by
  obtain ⟨hleast, hgreatest⟩ := hn
  obtain ⟨hleast', hgreatest'⟩ := hm
  apply Number.Word.fits_iff.mpr
  unfold Number.Word.least Number.Word.greatest
  omega

theorem WallTime.near_millis {w : WallTime} (hw : w.OnClock) {offset : Int}
    (ho : Zone.isOffset offset = true) : Near (w.millis - offset * 1000) := by
  obtain ⟨hdate, hhour, hminute, hsecond, hnanos⟩ := hw
  obtain ⟨hleast, hgreatest⟩ := Date.dayNumber_bounds hdate
  simp only [Zone.isOffset, Bool.and_eq_true, decide_eq_true_eq] at ho
  have hmillis : w.nanos / 1000000 < 2000 := by
    unfold leapNanos at hnanos
    omega
  unfold Near millis seconds
  omega

theorem Zone.exists_offset_of_instant? {z : Zone} {w : WallTime} {n : Int}
    (h : z.instant? w = some n) :
    ∃ offset, isOffset offset = true ∧ n = w.millis - offset * 1000 := by
  unfold instant? at h
  split at h
  · next offset hoffset =>
    cases h
    exact ⟨offset, isOffset_of_firstOffset? hoffset, rfl⟩
  · split at h
    · cases h
    · obtain ⟨offset, hoffset, rfl⟩ := Option.map_eq_some_iff.mp h
      exact ⟨offset, isOffset_of_firstOffset? hoffset, rfl⟩

theorem near_stamp? {zone : Zone} {stamp : Option String} {n : Int}
    (h : stamp? zone stamp = some n) : Near n := by
  unfold stamp? stampWith? at h
  split at h
  · cases h
  · split at h
    · cases h
    · obtain ⟨w, hw, hinstant⟩ := Option.bind_eq_some_iff.mp h
      obtain ⟨offset, hoffset, rfl⟩ := Zone.exists_offset_of_instant? hinstant
      exact WallTime.near_millis (WallTime.onClock_read? hw) hoffset

theorem fits_stamp? {zone : Zone} {stamp : Option String} {n : Int}
    (h : stamp? zone stamp = some n) : Number.Word.fits n = true :=
  (near_stamp? h).fits

end Time
end Storyboard
