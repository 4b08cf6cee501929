import Courier.Time.Calendar

/-! Days and dates: the date of a day has that day's number, it exists, and its year is in range as long as the
day is. The day's place in its cycle of 400 years comes first, and the date follows from the place. -/

namespace Courier.Time.Date

/-- A place in the calendar: the cycle of 400 years, the parts of the cycle, and the day of a year that begins in
March. -/
structure Place where
  cycle : Int
  century : Nat
  group : Nat
  year : Nat
  day : Nat

namespace Place

def ofDays (days : Int) : Place :=
  let inCycle := ((days + 719468) % 146097).toNat
  let century := min (inCycle / 36524) 3
  let inCentury := inCycle - century * 36524
  let group := inCentury / 1461
  let inGroup := inCentury - group * 1461
  let year := min (inGroup / 365) 3
  ⟨(days + 719468) / 146097, century, group, year, inGroup - year * 365⟩

def number (p : Place) : Int :=
  p.cycle * 146097 + p.century * 36524 + p.group * 1461 + p.year * 365 + p.day

def marchYear (p : Place) : Int := p.cycle * 400 + p.century * 100 + p.group * 4 + p.year

def month (p : Place) : Nat := (5 * p.day + 2) / 153

def date (p : Place) : Date :=
  let day := p.day - (153 * p.month + 2) / 5 + 1
  if p.month < 10 then ⟨p.marchYear, p.month + 3, day⟩ else ⟨p.marchYear + 1, p.month - 9, day⟩

/-- The parts stay within their bounds, and the only years of 366 days are those that end with a leap day. -/
structure Sound (p : Place) : Prop where
  century : p.century ≤ 3
  group : p.group ≤ 24
  year : p.year ≤ 3
  day : p.day ≤ 365
  leap : p.day = 365 → p.year = 3 ∧ (p.group = 24 → p.century = 3)

theorem date_ofDays (days : Int) : Date.ofDays days = (ofDays days).date := rfl

theorem sound_ofDays (days : Int) : (ofDays days).Sound := by
  constructor <;> simp only [ofDays] <;> omega

theorem number_ofDays (days : Int) : (ofDays days).number = days + 719468 := by
  simp only [number, ofDays]
  omega

variable {p : Place}

theorem month_le (h : p.Sound) : p.month ≤ 11 := by
  have hday := h.day
  rw [month]
  omega

theorem toDays_date (h : p.Sound) : p.date.toDays = p.number - 719468 := by
  have hlast := month_le h
  obtain ⟨hcentury, hgroup, hyear, -, -⟩ := h
  have hmonth : (153 * p.month + 2) / 5 ≤ p.day := by
    rw [month]
    omega
  have hcycle : p.marchYear / 400 = p.cycle ∧ p.marchYear % 400 = p.century * 100 + p.group * 4 + p.year := by
    rw [marchYear]
    omega
  by_cases hlate : p.month < 10
  · have hm : ¬ p.month + 3 ≤ 2 := by omega
    simp only [date, if_pos hlate, toDays, if_neg hm, hcycle.1, hcycle.2, number]
    omega
  · have hm : p.month - 9 ≤ 2 := by omega
    have hsame : p.marchYear + 1 - 1 = p.marchYear := by omega
    simp only [date, if_neg hlate, toDays, if_pos hm, hsame, hcycle.1, hcycle.2, number]
    omega

/-- The 366th day is in a leap year: its group of four years ends then, and a century that ends with it ends
its cycle too. -/
theorem isLeap_of_day (h : p.Sound) (hday : p.day = 365) : isLeap (p.marchYear + 1) = true := by
  obtain ⟨hcentury, hgroup, -, -, hleap⟩ := h
  obtain ⟨hyear, hlast⟩ := hleap hday
  have hfour : (p.marchYear + 1) % 4 = 0 ∧ ((p.marchYear + 1) % 100 ≠ 0 ∨ (p.marchYear + 1) % 400 = 0) := by
    rw [marchYear]
    omega
  simpa only [isLeap, Bool.and_eq_true, Bool.or_eq_true, bne_iff_ne, beq_iff_eq] using hfour

theorem day_le (h : p.Sound) : p.date.day ≤ daysInMonth p.date.year p.date.month := by
  have hlast := month_le h
  have hmonth : p.month = (5 * p.day + 2) / 153 := rfl
  by_cases hlate : p.month < 10
  · have hm : p.month + 3 ≠ 2 := by omega
    simp only [date, if_pos hlate, daysInMonth, if_neg hm]
    split <;> omega
  · simp only [date, if_neg hlate]
    by_cases hjanuary : p.month = 10
    · rw [hjanuary]
      change p.day - (153 * 10 + 2) / 5 + 1 ≤ 31
      omega
    · have hfebruary : p.month = 11 := by omega
      rw [hfebruary]
      change p.day - (153 * 11 + 2) / 5 + 1 ≤ if isLeap (p.marchYear + 1) = true then 29 else 28
      have hday := h.day
      split
      case isTrue => omega
      case isFalse hcommon =>
        have hbefore : p.day ≠ 365 := fun hlast => hcommon (isLeap_of_day h hlast)
        omega

theorem firstYear_le (h : p.Sound) (hnumber : -95745824 ≤ p.number) : firstYear ≤ p.date.year := by
  obtain ⟨hcentury, hgroup, hyear, hday, -⟩ := h
  have hmonth : p.month = (5 * p.day + 2) / 153 := rfl
  simp only [number, date, firstYear, marchYear] at hnumber ⊢
  split <;> dsimp only <;> omega

theorem year_le_lastYear (h : p.Sound) (hnumber : p.number ≤ 95745704) : p.date.year ≤ lastYear := by
  obtain ⟨hcentury, hgroup, hyear, hday, -⟩ := h
  have hmonth : p.month = (5 * p.day + 2) / 153 := rfl
  simp only [number, date, lastYear, marchYear] at hnumber ⊢
  -- the last day is in the eleventh group of the second century of cycle 655
  have hcycle : p.cycle ≤ 655 := by omega
  have hsecond : p.cycle = 655 → p.century ≤ 1 := by omega
  have heleventh : p.cycle = 655 → p.century = 1 → p.group ≤ 10 := by omega
  split <;> dsimp only <;> omega

theorem isValid_date (h : p.Sound) (hfirst : -95745824 ≤ p.number) (hlast : p.number ≤ 95745704) :
    p.date.isValid = true := by
  have hday := day_le h
  have hmonth := month_le h
  have hbounds : 1 ≤ p.date.month ∧ p.date.month ≤ 12 ∧ 1 ≤ p.date.day := by
    simp only [date]
    split <;> dsimp only <;> omega
  simp [isValid, firstYear_le h hfirst, year_le_lastYear h hlast, hbounds, hday]

end Place

theorem toDays_ofDays (days : Int) : (ofDays days).toDays = days := by
  have hdate := Place.toDays_date (Place.sound_ofDays days)
  rw [Place.date_ofDays, hdate, Place.number_ofDays, Int.add_sub_cancel]

/-- The days of the calendar's range have dates within it. -/
theorem isValid_ofDays {days : Int} (hfirst : -96465292 ≤ days) (hlast : days ≤ 95026236) :
    (ofDays days).isValid = true := by
  have hnumber := Place.number_ofDays days
  have hdate := Place.isValid_date (Place.sound_ofDays days) (by omega) (by omega)
  rwa [Place.date_ofDays]

end Courier.Time.Date
