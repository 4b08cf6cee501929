import Courier.Proofs.Text.Digits
import Courier.Proofs.Time.Calendar
import Courier.Proofs.Time.Timeline
import Courier.Time.Reader

/-! An instant is read back from its text, whatever its year, its fraction of a second and its place in a leap
second at the end of a minute are. One in any other leap second is written like an instant of the second after it,
and that one is read. The reader takes one field after the other, each from its padded digits. -/

namespace Courier.Time.Reader

open Text

variable {cs : List Char} {n : Nat}

theorem takeDigits_append {width : Nat} {rest : List Char} (hdigits : ∀ c ∈ cs, c.isDigit = true)
    (hlen : cs.length ≤ width) (hend : cs.length = width ∨ EndsDigits rest) :
    takeDigits width (cs ++ rest) = (digitValues cs, rest) := by
  induction cs generalizing width with
  | nil =>
    cases width with
    | zero => rfl
    | succ width =>
      have hend : EndsDigits rest := hend.resolve_left (by simp)
      cases rest with
      | nil => rfl
      | cons c rest => simp [takeDigits, hend c rfl, digitValues]
  | cons c cs ih =>
    cases width with
    | zero => simp at hlen
    | succ width =>
      obtain ⟨hc, hcs⟩ := List.forall_mem_cons.mp hdigits
      have hrest := ih hcs (Nat.le_of_succ_le_succ hlen) (hend.imp_left Nat.succ.inj)
      simp [takeDigits, digitValue?_of_isDigit hc, hrest, digitValues]

theorem takeDigits_padded (n : Nat) {places width : Nat} {rest : List Char}
    (hlen : (padded places n).toList.length ≤ width)
    (hend : (padded places n).toList.length = width ∨ EndsDigits rest) :
    takeDigits width ((padded places n).toList ++ rest) = (digitValues (padded places n).toList, rest) :=
  takeDigits_append (fun _ => isDigit_of_mem_padded) hlen hend

theorem digitValues_padded (places n : Nat) :
    ∃ d ds, digitValues (padded places n).toList = d :: ds ∧ ofDigits (d :: ds) = n ∧
      (d :: ds).length = (padded places n).toList.length := by
  obtain ⟨c, cs, hcs, -⟩ := exists_padded places n
  have hvalue := ofDigits_padded places n
  rw [hcs] at hvalue ⊢
  exact ⟨_, _, rfl, hvalue, by simp⟩

theorem number_padded (n : Nat) {places width : Nat} {rest : List Char}
    (hlen : (padded places n).toList.length ≤ width)
    (hend : (padded places n).toList.length = width ∨ EndsDigits rest) :
    number width ((padded places n).toList ++ rest) = some (n, rest) := by
  obtain ⟨d, ds, hds, hvalue, -⟩ := digitValues_padded places n
  rw [number, takeDigits_padded n hlen hend, hds]
  exact congrArg (fun m => some (m, rest)) hvalue

theorem skipBlanks_padded (places n : Nat) (rest : List Char) :
    skipBlanks ((padded places n).toList ++ rest) = (padded places n).toList ++ rest := by
  obtain ⟨c, cs, hcs, hc⟩ := exists_padded places n
  rw [hcs, skipBlanks, List.cons_append, List.dropWhile_cons_of_neg]
  simp [isBlank_of_isDigit hc]

theorem field_padded (h : n < 100) (rest : List Char) :
    field ((padded 2 n).toList ++ rest) = some (n, rest) := by
  have hlen := length_padded (by decide : 0 < 2) h
  rw [field, skipBlanks_padded, number_padded n (Nat.le_of_eq hlen) (.inl hlen)]

theorem separator_self {c : Char} (h : isBlank c = false) (rest : List Char) :
    separator c (c :: rest) = some rest := by
  simp [separator, skipBlanks, h]

theorem endsDigits_cons {c : Char} (h : digitValue? c = none) (rest : List Char) : EndsDigits (c :: rest) := by
  rintro d ⟨⟩
  exact h

/-- A year that is written without a sign. -/
theorem year_padded (h : n < 10000) (rest : List Char) :
    year ((padded 4 n).toList ++ '-' :: rest) = some ((n : Int), '-' :: rest) := by
  have hlen := length_padded (by decide : 0 < 4) h
  obtain ⟨c, cs, hcs, hc⟩ := exists_padded 4 n
  rw [year, skipBlanks_padded]
  split
  case h_1 tail htext =>
    rw [hcs] at htext
    cases htext
    cases hc
  case h_2 tail htext =>
    rw [hcs] at htext
    cases htext
    cases hc
  case h_3 =>
    rw [number_padded n (Nat.le_of_eq hlen) (.inl hlen)]
    rfl

theorem year_yearText (y : Int) (rest : List Char) :
    year ((Instant.yearText y).toList ++ '-' :: rest) = some (y, '-' :: rest) := by
  rw [Instant.yearText]
  split
  case isTrue hplain =>
    have hyear := year_padded (n := y.toNat) (by omega) rest
    rwa [Int.toNat_of_nonneg hplain.1] at hyear
  case isFalse hsigned =>
    have hend : EndsDigits ('-' :: rest) := endsDigits_cons rfl rest
    have hnumber (n : Nat) {width : Nat} (hwidth : (padded 4 n).toList.length ≤ width) :=
      number_padded n hwidth (.inr hend)
    split
    case isTrue hneg =>
      obtain ⟨n, rfl⟩ : ∃ n : Nat, y = -(n : Int) := ⟨y.natAbs, by omega⟩
      have hblank : isBlank '-' = false := rfl
      rw [Int.natAbs_neg, Int.natAbs_natCast]
      simp [year, skipBlanks, hblank, hnumber]
    case isFalse hpos =>
      obtain ⟨n, rfl⟩ : ∃ n : Nat, y = n := ⟨y.natAbs, by omega⟩
      have hblank : isBlank '+' = false := rfl
      rw [Int.natAbs_natCast]
      simp [year, skipBlanks, hblank, hnumber]

theorem date_text {d : Date} (h : d.isValid = true) (rest : List Char) :
    date ((Instant.yearText d.year).toList ++ '-' :: ((padded 2 d.month).toList ++ '-' ::
      ((padded 2 d.day).toList ++ rest))) = some (d, rest) := by
  have hbounds : d.month ≤ 12 ∧ d.day ≤ Date.daysInMonth d.year d.month := by
    simp only [Date.isValid, Bool.and_eq_true, decide_eq_true_eq] at h
    exact ⟨h.1.1.2, h.2⟩
  have hlast : Date.daysInMonth d.year d.month ≤ 31 := by
    rw [Date.daysInMonth]
    split <;> split <;> omega
  have hmonth := field_padded (n := d.month) (by omega)
  have hday := field_padded (n := d.day) (by omega)
  have hdash := separator_self (c := '-') rfl
  simp [date, year_yearText, hdash, hmonth, hday, h]

theorem dropWhile_digits {rest : List Char} (hend : EndsDigits rest) :
    rest.dropWhile (fun c => (digitValue? c).isSome) = rest := by
  cases rest with
  | nil => rfl
  | cons c rest => simp [hend c rfl]

theorem fraction_padded {places bound unit : Nat} {rest : List Char} (hpos : 0 < places) (hlen : places ≤ 9)
    (hbound : Nat.pow 10 places = bound) (hunit : Nat.pow 10 (9 - places) = unit) (h : n < bound)
    (hend : EndsDigits rest) :
    fraction ('.' :: ((padded places n).toList ++ rest)) = some (n * unit, rest) := by
  have hplaces := length_padded hpos (hbound ▸ h)
  obtain ⟨d, ds, hds, hvalue, hcount⟩ := digitValues_padded places n
  have htake := takeDigits_padded n (Nat.le_trans (Nat.le_of_eq hplaces) hlen) (.inr hend)
  rw [hplaces] at hcount
  rw [fraction, htake, hds]
  simp only [hvalue, hcount, dropWhile_digits hend, hunit]

theorem fraction_text (h : n < 1000000000) (rest : List Char) :
    fraction ((Instant.fractionText n).toList ++ 'Z' :: rest) = some (n, 'Z' :: rest) := by
  have hend : EndsDigits ('Z' :: rest) := endsDigits_cons rfl rest
  have hpoint (places k : Nat) : ("." ++ padded places k).toList = '.' :: (padded places k).toList := by simp
  have hthree : Nat.pow 10 3 = 1000 := rfl
  have hsix : Nat.pow 10 6 = 1000000 := rfl
  rw [Instant.fractionText]
  split
  case isTrue hzero =>
    rw [hzero]
    rfl
  case isFalse =>
    split
    case isTrue hmillis =>
      have hexact : n / 1000000 * 1000000 = n := by omega
      rw [hpoint, List.cons_append, fraction_padded (by decide) (by decide) hthree hsix (by omega) hend, hexact]
    case isFalse =>
      split
      case isTrue hmicros =>
        have hexact : n / 1000 * 1000 = n := by omega
        rw [hpoint, List.cons_append, fraction_padded (by decide) (by decide) hsix hthree (by omega) hend, hexact]
      case isFalse =>
        rw [hpoint, List.cons_append, fraction_padded (by decide) (by decide) rfl rfl h hend, Nat.mul_one]

/-- The second 60 of a text is read as a second more than the fraction says. -/
theorem timeOfDay_text (ofDay nanos : Nat) (hday : ofDay < 86400)
    (hnanos : nanos < 1000000000 ∨ nanos < 2000000000 ∧ ofDay % 60 = 59) (rest : List Char) :
    timeOfDay ((padded 2 (ofDay / 3600)).toList ++ ':' :: ((padded 2 (ofDay / 60 % 60)).toList ++ ':' ::
      ((padded 2 (ofDay % 60 + nanos / 1000000000)).toList ++
        ((Instant.fractionText (nanos % 1000000000)).toList ++ 'Z' :: rest)))) =
      some (ofDay, nanos, 'Z' :: rest) := by
  have hhour := field_padded (n := ofDay / 3600) (by omega)
  have hminute := field_padded (n := ofDay / 60 % 60) (by omega)
  have hsecond := field_padded (n := ofDay % 60 + nanos / 1000000000) (by omega)
  have hcolon := separator_self (c := ':') rfl
  have hfraction := fraction_text (n := nanos % 1000000000) (by omega) rest
  have hrange : ofDay / 3600 ≤ 23 ∧ ofDay / 60 % 60 ≤ 59 ∧ ofDay % 60 + nanos / 1000000000 ≤ 60 := by omega
  simp only [timeOfDay, hhour, hminute, hsecond, hcolon, hfraction, hrange, bind, Option.bind, and_self, if_true]
  split
  case isTrue hleap =>
    have hparts : ofDay / 3600 * 3600 + ofDay / 60 % 60 * 60 + 59 = ofDay ∧
        nanos % 1000000000 + 1000000000 = nanos := by omega
    rw [hparts.1, hparts.2]
    rfl
  case isFalse hplain =>
    have hparts : ofDay / 3600 * 3600 + ofDay / 60 % 60 * 60 + (ofDay % 60 + nanos / 1000000000) = ofDay ∧
        nanos % 1000000000 = nanos := by omega
    rw [hparts.1, hparts.2]
    rfl

theorem instant_utc {d : Date} {cs cs' : List Char} {ofDay nanos : Nat} (hdate : date cs = some (d, 'T' :: cs'))
    (htime : timeOfDay cs' = some (ofDay, nanos, ['Z'])) :
    instant cs = Instant.make? (d.toDays * 86400 + ofDay) nanos := by
  have hoffset : offset (skipBlanks ['Z']) = some (0, []) := rfl
  have hend : ¬ skipBlanks [] ≠ [] := not_not_intro rfl
  simp only [instant, hdate, htime, hoffset, if_neg hend, bind, Option.bind, Int.sub_zero]

theorem takeDigits_bounds (width : Nat) (cs : List Char) :
    (takeDigits width cs).1.length ≤ width ∧ ∀ d ∈ (takeDigits width cs).1, d < 10 := by
  induction width generalizing cs with
  | zero => exact ⟨Nat.le_refl 0, nofun⟩
  | succ width ih =>
    cases cs with
    | nil => exact ⟨Nat.zero_le _, nofun⟩
    | cons c cs =>
      rw [takeDigits]
      cases hdigit : digitValue? c with
      | none => exact ⟨Nat.zero_le _, nofun⟩
      | some d =>
        obtain ⟨hlen, hall⟩ := ih cs
        exact ⟨Nat.succ_le_succ hlen, List.forall_mem_cons.mpr ⟨digitValue?_lt hdigit, hall⟩⟩

theorem fraction_lt {rest : List Char} (h : fraction cs = some (n, rest)) : n < 1000000000 := by
  unfold fraction at h
  split at h
  case h_1 digits =>
    obtain ⟨hlen, hall⟩ := takeDigits_bounds 9 digits
    split at h
    case h_1 => cases h
    case h_2 ds rest _ htake =>
      rw [htake] at hlen hall
      obtain ⟨rfl, -⟩ := Prod.mk.inj (Option.some.inj h)
      calc ofDigits ds * Nat.pow 10 (9 - ds.length)
        _ < Nat.pow 10 ds.length * Nat.pow 10 (9 - ds.length) :=
          Nat.mul_lt_mul_of_pos_right (ofDigits_lt hall) (Nat.pow_pos (by decide))
        _ = Nat.pow 10 (ds.length + (9 - ds.length)) := (Nat.pow_add 10 ds.length (9 - ds.length)).symm
        _ = 1000000000 := by rw [Nat.add_sub_cancel' hlen]
  case h_2 =>
    obtain ⟨rfl, -⟩ := Prod.mk.inj (Option.some.inj h)
    decide

/-- Only the second 60 of a text makes a leap second. -/
theorem timeOfDay_leap {ofDay nanos : Nat} {rest : List Char} (h : timeOfDay cs = some (ofDay, nanos, rest)) :
    nanos < 1000000000 ∨ ofDay % 60 = 59 := by
  unfold timeOfDay at h
  obtain ⟨⟨hour, cs⟩, -, h⟩ := Option.bind_eq_some_iff.mp h
  obtain ⟨cs, -, h⟩ := Option.bind_eq_some_iff.mp h
  obtain ⟨⟨minute, cs⟩, -, h⟩ := Option.bind_eq_some_iff.mp h
  obtain ⟨cs, -, h⟩ := Option.bind_eq_some_iff.mp h
  obtain ⟨⟨second, cs⟩, -, h⟩ := Option.bind_eq_some_iff.mp h
  obtain ⟨⟨fractional, cs⟩, hfraction, h⟩ := Option.bind_eq_some_iff.mp h
  obtain ⟨-, h⟩ := Option.ite_none_right_eq_some.mp h
  split at h
  case isTrue =>
    cases h
    exact .inr (by omega)
  case isFalse =>
    cases h
    exact .inl (fraction_lt hfraction)

theorem offsetSize_minutes {rest : List Char} (h : offsetSize cs = some (n, rest)) : n % 60 = 0 := by
  unfold offsetSize at h
  obtain ⟨⟨hours, cs⟩, -, h⟩ := Option.bind_eq_some_iff.mp h
  obtain ⟨⟨minutes, cs⟩, -, h⟩ := Option.bind_eq_some_iff.mp h
  obtain ⟨-, h⟩ := Option.ite_none_right_eq_some.mp h
  cases h
  omega

/-- Offsets are whole minutes. -/
theorem offset_minutes {shift : Int} {rest : List Char} (h : offset cs = some (shift, rest)) : shift % 60 = 0 := by
  have hsize (sign : Nat → Int) {cs : List Char} (hsign : ∀ n, n % 60 = 0 → sign n % 60 = 0)
      (h : ((offsetSize cs).bind fun p => some (sign p.1, p.2)) = some (shift, rest)) : shift % 60 = 0 := by
    obtain ⟨⟨n, cs⟩, hn, h⟩ := Option.bind_eq_some_iff.mp h
    cases h
    exact hsign n (offsetSize_minutes hn)
  unfold offset at h
  split at h
  case h_1 | h_2 =>
    cases h
    rfl
  case h_3 => exact hsize (fun n => n) (by omega) h
  case h_4 | h_5 => exact hsize (fun n => -n) (by omega) h
  case h_6 =>
    obtain ⟨-, h⟩ := Option.ite_none_right_eq_some.mp h
    cases h
    rfl
  case h_7 => cases h

end Courier.Time.Reader

namespace Courier.Time.Instant

open Text

theorem toList_parts (year month day hour minute second fraction : String) :
    (year ++ "-" ++ month ++ "-" ++ day ++ "T" ++ hour ++ ":" ++ minute ++ ":" ++ second ++ fraction ++ "Z").toList =
      year.toList ++ '-' :: (month.toList ++ '-' :: (day.toList ++ 'T' :: (hour.toList ++ ':' ::
        (minute.toList ++ ':' :: (second.toList ++ (fraction.toList ++ ['Z'])))))) := by
  simp

theorem toList_text (t : Instant) :
    let date := Date.ofDays (t.seconds / 86400)
    let ofDay := (t.seconds % 86400).toNat
    t.text.toList = (yearText date.year).toList ++ '-' :: ((padded 2 date.month).toList ++ '-' ::
      ((padded 2 date.day).toList ++ 'T' :: ((padded 2 (ofDay / 3600)).toList ++ ':' ::
        ((padded 2 (ofDay / 60 % 60)).toList ++ ':' :: ((padded 2 (ofDay % 60 + t.nanos / 1000000000)).toList ++
          ((fractionText (t.nanos % 1000000000)).toList ++ ['Z'])))))) :=
  toList_parts ..

def EndsMinute (t : Instant) : Prop := t.nanos < 1000000000 ∨ t.seconds % 60 = 59

instance (t : Instant) : Decidable t.EndsMinute := inferInstanceAs (Decidable (_ ∨ _))

/-- An instant is read back from its text unless it is in a leap second that ends no minute. -/
theorem read?_text {t : Instant} (h : t.EndsMinute) : read? t.text = some t := by
  have hfirst := t.first_le
  have hlast := t.le_last
  have hnanos := t.nanos_lt
  have hvalid : (Date.ofDays (t.seconds / 86400)).isValid = true := Date.isValid_ofDays (by omega) (by omega)
  have hleap : t.nanos < 1000000000 ∨ t.nanos < 2000000000 ∧ (t.seconds % 86400).toNat % 60 = 59 := by
    rcases h with h | h
    · exact .inl h
    · exact .inr ⟨hnanos, by omega⟩
  have htime := Reader.timeOfDay_text (t.seconds % 86400).toNat t.nanos (by omega) hleap []
  have hseconds :
      (Date.ofDays (t.seconds / 86400)).toDays * 86400 + ((t.seconds % 86400).toNat : Int) = t.seconds := by
    rw [Date.toDays_ofDays]
    omega
  rw [read?, toList_text, Reader.instant_utc (Reader.date_text hvalid _) htime, hseconds, make?_self]

/-- An instant in a leap second that ends no minute is written like one of the second after it. -/
theorem text_eq_of_next {t u : Instant} (ht : ¬ t.EndsMinute) (hseconds : u.seconds = t.seconds + 1)
    (hnanos : u.nanos + 1000000000 = t.nanos) : t.text = u.text := by
  have hlt := t.nanos_lt
  rw [EndsMinute, not_or] at ht
  have hday : u.seconds / 86400 = t.seconds / 86400 := by omega
  have hofDay : (u.seconds % 86400).toNat = (t.seconds % 86400).toNat + 1 := by omega
  generalize hn : (t.seconds % 86400).toNat = n at hofDay
  have hhour : (n + 1) / 3600 = n / 3600 := by omega
  have hminute : (n + 1) / 60 % 60 = n / 60 % 60 := by omega
  have hsecond : (n + 1) % 60 + u.nanos / 1000000000 = n % 60 + t.nanos / 1000000000 := by omega
  have hfraction : t.nanos % 1000000000 = u.nanos % 1000000000 := by omega
  simp only [text, baseText, hday, hofDay, hn, hhour, hminute, hsecond, hfraction]

/-- Of an instant in a leap second that ends no minute, the instant of the second after it is read. -/
theorem exists_read?_text {t : Instant} (ht : ¬ t.EndsMinute) :
    ∃ u : Instant, u.seconds = t.seconds + 1 ∧ u.nanos + 1000000000 = t.nanos ∧ read? t.text = some u := by
  have hfirst := t.first_le
  have hlast := t.le_last
  have hlt := t.nanos_lt
  have hparts := ht
  rw [EndsMinute, not_or] at hparts
  let u : Instant := ⟨t.seconds + 1, t.nanos - 1000000000, by omega, by omega, by omega⟩
  have hnanos : u.nanos + 1000000000 = t.nanos := Nat.sub_add_cancel (by omega)
  have hu : u.EndsMinute := .inl (by omega)
  exact ⟨u, rfl, hnanos, by rw [text_eq_of_next ht rfl hnanos, read?_text hu]⟩

/-- What a text names is in no leap second but one that ends a minute. -/
theorem endsMinute_of_read? {s : String} {t : Instant} (h : read? s = some t) : t.EndsMinute := by
  have htail {date : Date} {cs : List Char}
      (h : ((Reader.timeOfDay cs).bind fun p => (Reader.offset (Reader.skipBlanks p.2.2)).bind fun q =>
        if Reader.skipBlanks q.2 ≠ [] then none
        else make? (date.toDays * 86400 + p.1 - q.1) p.2.1) = some t) : t.EndsMinute := by
    obtain ⟨⟨ofDay, nanos, cs⟩, htime, h⟩ := Option.bind_eq_some_iff.mp h
    obtain ⟨⟨shift, cs⟩, hoffset, h⟩ := Option.bind_eq_some_iff.mp h
    obtain ⟨-, h⟩ := Option.ite_none_left_eq_some.mp h
    obtain ⟨hseconds, hnanos⟩ : t.seconds = date.toDays * 86400 + ofDay - shift ∧ t.nanos = nanos :=
      make?_eq_some_iff.mp h
    have hleap := Reader.timeOfDay_leap htime
    have hminutes := Reader.offset_minutes hoffset
    rw [EndsMinute, hseconds, hnanos]
    omega
  unfold read? Reader.instant at h
  obtain ⟨⟨date, cs⟩, -, h⟩ := Option.bind_eq_some_iff.mp h
  dsimp only at h
  split at h
  case h_4 => cases h
  all_goals exact htail h

end Courier.Time.Instant
