import Accounts.Time.Timestamp

/-!
# The calendar counts every day once

The 400 years that the calendar repeats are centuries, groups of four years, years and days. A year
that has 366 days is the last of its group, and the last group of a century has one only in the last
century.

* `Date.CycleDay`: a day of the 400 years by its parts; `Date.exists_cycleDay`: each day has them;
* `Date.year_of_cycleDay`: the year of a day;
* `Date.marchYear`, `Date.marchDay`, `Date.ofMarch`: dates by years that start in March;
* **`Date.days_ofDays`**, **`Date.isValid_ofDays`**: the date of a day number has that number and is
  in the calendar;
* **`Date.year_mem_iff`**: the days whose years are those of the calendar.
-/

namespace Accounts.Date

/-! ## The days of 400 years -/

/-- A day of the 400 years, as centuries, groups of four years, years and days. -/
structure CycleDay (day century group year rest : Int) : Prop where
  century_mem : 0 ≤ century ∧ century ≤ 3
  group_mem : 0 ≤ group ∧ group ≤ 24
  year_mem : 0 ≤ year ∧ year ≤ 3
  rest_mem : 0 ≤ rest ∧ rest ≤ 365
  leap : rest = 365 → year = 3 ∧ (group = 24 → century = 3)
  eq : day = 36524 * century + 1461 * group + 365 * year + rest

/-- **Each day of the 400 years has its parts.** The last century, and the last year of a group, may
be a day longer than the others. -/
theorem exists_cycleDay {day : Int} (h0 : 0 ≤ day) (h1 : day < 146097) :
    ∃ century group year rest, CycleDay day century group year rest := by
  obtain ⟨century, inCentury, hc0, hc3, hi0, hi, hday⟩ : ∃ century inCentury : Int,
      0 ≤ century ∧ century ≤ 3 ∧ 0 ≤ inCentury ∧
        (inCentury < 36524 ∨ inCentury = 36524 ∧ century = 3) ∧
        day = 36524 * century + inCentury :=
    ⟨min (day / 36524) 3, day - 36524 * min (day / 36524) 3, by omega⟩
  have hgroup : 0 ≤ inCentury / 1461 ∧ inCentury / 1461 ≤ 24 := by omega
  obtain ⟨year, rest, hy0, hy3, hr0, hr, hrest⟩ : ∃ year rest : Int,
      0 ≤ year ∧ year ≤ 3 ∧ 0 ≤ rest ∧ (rest < 365 ∨ rest = 365 ∧ year = 3) ∧
        inCentury % 1461 = 365 * year + rest :=
    ⟨min (inCentury % 1461 / 365) 3, inCentury % 1461 - 365 * min (inCentury % 1461 / 365) 3,
      by omega⟩
  exact ⟨century, inCentury / 1461, year, rest, ⟨hc0, hc3⟩, hgroup, ⟨hy0, hy3⟩, ⟨hr0, by omega⟩,
    by omega, by omega⟩

variable {day century group year rest : Int}

theorem year_of_cycleDay (h : CycleDay day century group year rest) :
    (day - day / 1460 + day / 36524 - day / 146096) / 365 = 100 * century + 4 * group + year := by
  obtain ⟨hc, hg, hy, hr, hleap, hday⟩ := h
  have hlast : day / 146096 = 0 ∨ day / 146096 = 1 ∧ day = 146096 := by omega
  -- the days that leap years add are counted first: they are taken away before the division
  have hcentury : day / 36524 - day / 146096 = century := by omega
  have hgroup : day / 1460 = 25 * century + group ∧
        24 * century + group + 365 * year + rest < 1460 ∨
      day / 1460 = 25 * century + group + 1 ∧
        1460 ≤ 24 * century + group + 365 * year + rest := by omega
  have hlow : 365 * year ≤
      day - day / 1460 + day / 36524 - day / 146096 - 365 * (100 * century + 4 * group) := by omega
  have hhigh : day - day / 1460 + day / 36524 - day / 146096 - 365 * (100 * century + 4 * group) <
      365 * (year + 1) := by omega
  omega

theorem leap_days_of_cycleDay (h : CycleDay day century group year rest) :
    (100 * century + 4 * group + year) / 4 = 25 * century + group ∧
      (100 * century + 4 * group + year) / 100 = century := by
  obtain ⟨hc, hg, hy, hr, hleap, hday⟩ := h
  omega

/-! ## Years that start in March -/

/-- The year that started in the last March. -/
def marchYear (d : Date) : Int := if d.month ≤ 2 then d.year - 1 else d.year

/-- The days since the first of March. -/
def marchDay (d : Date) : Int := (153 * (((d.month : Int) + 9) % 12) + 2) / 5 + d.day - 1

/-- The date of a day in a year that starts in March. -/
def ofMarch (year rest : Int) : Date :=
  let shifted := (5 * rest + 2) / 153
  let day := rest - (153 * shifted + 2) / 5 + 1
  let month := if shifted < 10 then shifted + 3 else shifted - 9
  ⟨year + (if month ≤ 2 then 1 else 0), month.toNat, day.toNat⟩

theorem days_eq (d : Date) : d.days = d.marchYear / 400 * 146097 + (d.marchYear % 400 * 365 +
    d.marchYear % 400 / 4 - d.marchYear % 400 / 100 + d.marchDay) - 719468 := rfl

theorem marchYear_ofMarch (year : Int) (h : 0 ≤ rest ∧ rest ≤ 365) :
    (ofMarch year rest).marchYear = year := by
  simp only [marchYear, ofMarch]
  split <;> split <;> split <;> omega

theorem marchDay_ofMarch (year : Int) (h : 0 ≤ rest ∧ rest ≤ 365) :
    (ofMarch year rest).marchDay = rest := by
  have hday : 0 ≤ rest - (153 * ((5 * rest + 2) / 153) + 2) / 5 := by omega
  simp only [marchDay, ofMarch]
  generalize hs : (5 * rest + 2) / 153 = shifted at hday ⊢
  have hmonth : ((if shifted < 10 then shifted + 3 else shifted - 9).toNat + 9 : Int) % 12 =
      shifted := by
    split <;> omega
  rw [hmonth]
  omega

theorem ofDays_eq {n : Int} (h : CycleDay ((n + 719468) % 146097) century group year rest) :
    ofDays n = ofMarch (100 * century + 4 * group + year + (n + 719468) / 146097 * 400) rest := by
  have hyear := year_of_cycleDay h
  obtain ⟨hfour, hhundred⟩ := leap_days_of_cycleDay h
  have hrest : (n + 719468) % 146097 - (365 * (100 * century + 4 * group + year) +
      (25 * century + group) - century) = rest := by
    rw [h.eq]
    omega
  simp only [ofDays, ofMarch, hyear, hfour, hhundred, hrest]

/-- **The date of a day number has that number.** -/
theorem days_ofDays (n : Int) : (ofDays n).days = n := by
  obtain ⟨century, group, year, rest, h⟩ :=
    exists_cycleDay (Int.emod_nonneg (n + 719468) (by decide))
      (Int.emod_lt_of_pos (n + 719468) (by decide))
  obtain ⟨hfour, hhundred⟩ := leap_days_of_cycleDay h
  rw [ofDays_eq h, days_eq, marchYear_ofMarch _ h.rest_mem, marchDay_ofMarch _ h.rest_mem]
  obtain ⟨hc, hg, hy, hr, hleap, hday⟩ := h
  have hera : (100 * century + 4 * group + year + (n + 719468) / 146097 * 400) / 400 =
      (n + 719468) / 146097 := by omega
  have hmod : (100 * century + 4 * group + year + (n + 719468) / 146097 * 400) % 400 =
      100 * century + 4 * group + year := by omega
  rw [hera, hmod, hfour, hhundred]
  omega

/-! ## Dates in the calendar -/

theorem isLeap_iff {year : Int} :
    isLeap year = true ↔ year % 4 = 0 ∧ (year % 100 ≠ 0 ∨ year % 400 = 0) := by
  simp [isLeap]

theorem isValid_iff {d : Date} : d.isValid = true ↔
    1 ≤ d.month ∧ d.month ≤ 12 ∧ 1 ≤ d.day ∧ d.day ≤ daysInMonth d.year d.month := by
  simp [isValid, and_assoc]

theorem daysInMonth_cases (year : Int) (month : Nat) :
    month = 2 ∧ daysInMonth year month = (if isLeap year then 29 else 28) ∨
      (month = 4 ∨ month = 6 ∨ month = 9 ∨ month = 11) ∧ daysInMonth year month = 30 ∨
      (month ≠ 2 ∧ month ≠ 4 ∧ month ≠ 6 ∧ month ≠ 9 ∧ month ≠ 11) ∧
        daysInMonth year month = 31 := by
  unfold daysInMonth
  split
  · next hfebruary => exact .inl ⟨hfebruary, rfl⟩
  · next hfebruary =>
    split
    · next hshort => exact .inr (.inl ⟨hshort, rfl⟩)
    · next hlong => exact .inr (.inr ⟨by omega, rfl⟩)

theorem daysInMonth_le (year : Int) (month : Nat) : daysInMonth year month ≤ 31 := by
  have hfebruary : (if isLeap year then 29 else 28) ≤ 29 := by split <;> omega
  have hdays := daysInMonth_cases year month
  omega

theorem isValid_ofMarch {year : Int} (h : 0 ≤ rest ∧ rest ≤ 365)
    (hleap : rest = 365 → isLeap (year + 1) = true) : (ofMarch year rest).isValid = true := by
  rw [isValid_iff]
  simp only [ofMarch]
  generalize hs : (5 * rest + 2) / 153 = shifted
  have hshifted : 0 ≤ shifted ∧ shifted ≤ 11 := by omega
  split
  · next hlt =>
    rw [if_neg (by omega)]
    have hdays := daysInMonth_cases (year + 0) (shifted + 3).toNat
    omega
  · next hge =>
    rw [if_pos (by omega)]
    rcases daysInMonth_cases (year + 1) (shifted - 9).toNat with
      ⟨hmonth, hdays⟩ | ⟨hmonth, hdays⟩ | ⟨hmonth, hdays⟩
    · rw [hdays]
      split
      · omega
      · next hcommon =>
        have hrest : rest ≠ 365 := fun hrest => hcommon (hleap hrest)
        omega
    · omega
    · omega

/-- **The date of a day number is in the calendar.** -/
theorem isValid_ofDays (n : Int) : (ofDays n).isValid = true := by
  obtain ⟨century, group, year, rest, h⟩ :=
    exists_cycleDay (Int.emod_nonneg (n + 719468) (by decide))
      (Int.emod_lt_of_pos (n + 719468) (by decide))
  rw [ofDays_eq h]
  refine isValid_ofMarch h.rest_mem fun hrest => isLeap_iff.2 ?_
  obtain ⟨hyear, hgroup⟩ := h.leap hrest
  have hg := h.group_mem
  omega

theorem marchDay_bounds {d : Date} (h : d.isValid = true) :
    0 ≤ d.marchDay ∧ d.marchDay ≤ 365 ∧ (d.month ≤ 2 ↔ 306 ≤ d.marchDay) := by
  obtain ⟨hm1, hm12, hd1, hd⟩ := isValid_iff.1 h
  have hdays := daysInMonth_cases d.year d.month
  have hfebruary : (if isLeap d.year then 29 else 28) ≤ 29 := by split <;> omega
  have hmonth : ((d.month : Int) + 9) % 12 = d.month + 9 - if d.month ≤ 2 then 0 else 12 := by
    split <;> omega
  rw [marchDay, hmonth]
  split <;> omega

/-- **The years of the calendar** are those of the days between its ends. -/
theorem year_mem_iff {d : Date} (h : d.isValid = true) :
    Timestamp.firstYear ≤ d.year ∧ d.year ≤ Timestamp.lastYear ↔
      (Date.mk Timestamp.firstYear 1 1).days ≤ d.days ∧
        d.days ≤ (Date.mk Timestamp.lastYear 12 31).days := by
  obtain ⟨h0, h1, hmonth⟩ := marchDay_bounds h
  have hfirst : (Date.mk Timestamp.firstYear 1 1).days = -96465292 := by decide
  have hlast : (Date.mk Timestamp.lastYear 12 31).days = 95026236 := by decide
  rw [hfirst, hlast, days_eq, marchYear, Timestamp.firstYear, Timestamp.lastYear]
  refine and_congr ⟨fun hyear => ?_, fun hdays => ?_⟩ ⟨fun hyear => ?_, fun hdays => ?_⟩
  all_goals split at * <;> omega

end Accounts.Date
