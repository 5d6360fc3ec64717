import CatalogIndex.Time.Civil
/-!
The calendar counts every day once. A day is taken apart into an era, centuries, groups of four years, years and days
of the year, and from these parts the two formulas of the calendar are seen to undo one another.
-/
namespace CatalogIndex

/-- A day of an era of 400 years, by centuries, groups of four years, years and days of the year. Only the last year
of a group has 366 days, and not in the last group of a century other than the last one. -/
structure EraDay where
  century : Int
  group : Int
  year : Int
  day : Int
  centuryFits : 0 ≤ century ∧ century ≤ 3
  groupFits : 0 ≤ group ∧ group ≤ 24
  yearFits : 0 ≤ year ∧ year ≤ 3
  dayFits : 0 ≤ day ∧ day ≤ 365
  leap : day = 365 → year = 3 ∧ (group = 24 → century = 3)

namespace EraDay

def count (parts : EraDay) : Int := 36524 * parts.century + 1461 * parts.group + 365 * parts.year + parts.day

def years (parts : EraDay) : Int := 100 * parts.century + 4 * parts.group + parts.year

theorem exists_count {days : Int} (least : 0 ≤ days) (most : days < 146097) :
    ∃ parts : EraDay, parts.count = days := by
  obtain ⟨century, centuryIs⟩ : ∃ century, century = min (days / 36524) 3 := ⟨_, rfl⟩
  obtain ⟨rest, restIs⟩ : ∃ rest, rest = days - 36524 * century := ⟨_, rfl⟩
  have bounds : 0 ≤ rest ∧ rest ≤ 36524 ∧ (rest = 36524 → century = 3) := by omega
  obtain ⟨group, groupIs⟩ : ∃ group, group = rest / 1461 := ⟨_, rfl⟩
  obtain ⟨year, yearIs⟩ : ∃ year, year = min (rest % 1461 / 365) 3 := ⟨_, rfl⟩
  refine ⟨⟨century, group, year, rest % 1461 - 365 * year, ?_, ?_, ?_, ?_, ?_⟩, ?_⟩
  case refine_6 =>
    unfold count
    simp only
    omega
  all_goals omega

/-- The year in which the calendar's formula puts a day. -/
theorem years_of_count (parts : EraDay) :
    (parts.count - parts.count / 1460 + parts.count / 36524 - parts.count / 146096) / 365 = parts.years := by
  obtain ⟨century, group, year, day, _, _, _, _, leap⟩ := parts
  unfold count years
  simp only
  obtain ⟨days, daysIs⟩ : ∃ days, days = 36524 * century + 1461 * group + 365 * year + day := ⟨_, rfl⟩
  rw [← daysIs]
  -- Only the last century of an era has a day behind the 36524 of the others.
  have within : days - 36524 * century < 36524 ∨ (days = 146096 ∧ century = 3) := by
    by_cases long : day = 365
    · obtain ⟨-, lastGroup⟩ := leap long
      by_cases final : group = 24
      · have lastCentury := lastGroup final
        omega
      · omega
    · omega
  have centuries : days / 36524 - days / 146096 = century := by
    rcases within with inside | ⟨final, lastCentury⟩
    · have least : 0 ≤ days - 36524 * century := by omega
      have earlier : days / 146096 = 0 := by omega
      omega
    · omega
  -- Towards the end of a group of four years the quotient by 1460 counts the next group already.
  by_cases last : 24 * century + group + 365 * year + day < 1460
  · have groups : days / 1460 = 25 * century + group := by omega
    omega
  · have groups : days / 1460 = 25 * century + group + 1 := by omega
    omega

theorem day_of_years (parts : EraDay) :
    parts.count - (365 * parts.years + parts.years / 4 - parts.years / 100) = parts.day := by
  obtain ⟨century, group, year, day, _, _, _, _, leap⟩ := parts
  unfold count years
  simp only
  omega

theorem years_bounds (parts : EraDay) : 0 ≤ parts.years ∧ parts.years ≤ 399 := by
  obtain ⟨century, group, year, day, _, _, _, _, leap⟩ := parts
  unfold years
  simp only
  omega

theorem isLeap_of_day (parts : EraDay) (era : Int) (last : parts.day = 365) :
    Civil.isLeap (parts.years + era * 400 + 1) = true := by
  obtain ⟨fourth, lastGroup⟩ := parts.leap last
  obtain ⟨century, group, year, day, _, _, _, _, leap⟩ := parts
  unfold Civil.isLeap years
  simp only [Bool.or_eq_true, Bool.and_eq_true, beq_iff_eq, bne_iff_ne] at *
  omega

end EraDay

namespace Civil

def ofEraDay (era : Int) (parts : EraDay) : Civil :=
  let month := (5 * parts.day + 2) / 153
  let shown := if month < 10 then month + 3 else month - 9
  ⟨parts.years + era * 400 + (if shown ≤ 2 then 1 else 0), shown.toNat,
    (parts.day - (153 * month + 2) / 5 + 1).toNat⟩

theorem ofDays_eq {days : Int} {parts : EraDay} (same : parts.count = (days + 719468) % 146097) :
    ofDays days = ofEraDay ((days + 719468) / 146097) parts := by
  unfold ofDays ofEraDay
  simp only [← same, parts.years_of_count, parts.day_of_years]

theorem exists_eraDay (days : Int) :
    ∃ (era : Int) (parts : EraDay), days = era * 146097 + parts.count - 719468 ∧ ofDays days = ofEraDay era parts := by
  obtain ⟨parts, same⟩ : ∃ parts : EraDay, parts.count = (days + 719468) % 146097 :=
    EraDay.exists_count (by omega) (by omega)
  refine ⟨_, parts, ?_, ofDays_eq same⟩
  rw [same]
  omega

/-- The month of a day of a year, counted from March, and the month of the calendar that it is. -/
theorem month_cases {day : Int} (least : 0 ≤ day) (most : day ≤ 365) :
    ∃ (month : Int) (number : Nat), (5 * day + 2) / 153 = month ∧ 0 ≤ month ∧ month ≤ 11 ∧
      (if month < 10 then month + 3 else month - 9) = number ∧ ((number : Int) + 9) % 12 = month ∧
      1 ≤ number ∧ number ≤ 12 := by
  refine ⟨(5 * day + 2) / 153, (if (5 * day + 2) / 153 < 10 then (5 * day + 2) / 153 + 3
    else (5 * day + 2) / 153 - 9).toNat, rfl, ?_⟩
  split <;> omega

theorem exists_ofEraDay (era : Int) (parts : EraDay) : (ofEraDay era parts).exists? = true := by
  obtain ⟨least, most⟩ := parts.dayFits
  have leap := fun last => parts.isLeap_of_day era last
  obtain ⟨month, number, monthIs, first, last, numberIs, back, lower, upper⟩ := month_cases least most
  unfold ofEraDay exists?
  simp only [monthIs, numberIs, Int.toNat_natCast]
  generalize parts.day = day at *
  have numbers : number = 1 ∨ number = 2 ∨ number = 3 ∨ number = 4 ∨ number = 5 ∨ number = 6 ∨ number = 7 ∨
      number = 8 ∨ number = 9 ∨ number = 10 ∨ number = 11 ∨ number = 12 := by omega
  simp only [lower, upper, decide_true, Bool.true_and, Bool.and_eq_true, decide_eq_true_eq]
  rcases numbers with rfl | rfl | rfl | rfl | rfl | rfl | rfl | rfl | rfl | rfl | rfl | rfl
  case inr.inl =>
    have february : month = 11 := by omega
    have early : ((2 : Nat) : Int) ≤ 2 := by omega
    simp only [monthLength, if_pos early]
    by_cases full : day = 365
    · rw [leap full, if_pos rfl]
      omega
    · split <;> omega
  all_goals
    simp only [monthLength]
    omega

theorem toDays_ofEraDay (era : Int) (parts : EraDay) :
    (ofEraDay era parts).toDays = era * 146097 + parts.count - 719468 := by
  have bounds := parts.years_bounds
  have dayIs := parts.day_of_years
  obtain ⟨least, most⟩ := parts.dayFits
  obtain ⟨month, number, monthIs, first, last, numberIs, back, lower, upper⟩ := month_cases least most
  unfold ofEraDay toDays
  simp only [monthIs, numberIs, Int.toNat_natCast, back]
  generalize parts.years = years at *
  generalize parts.count = count at *
  generalize parts.day = day at *
  by_cases early : number ≤ 2
  · have shown : (number : Int) ≤ 2 := by omega
    rw [if_pos early, if_pos shown]
    omega
  · have shown : ¬ (number : Int) ≤ 2 := by omega
    rw [if_neg early, if_neg shown]
    omega

theorem exists_ofDays (days : Int) : (ofDays days).exists? = true := by
  obtain ⟨era, parts, -, same⟩ := exists_eraDay days
  rw [same, exists_ofEraDay]

theorem toDays_ofDays (days : Int) : (ofDays days).toDays = days := by
  obtain ⟨era, parts, daysIs, same⟩ := exists_eraDay days
  rw [same, toDays_ofEraDay, ← daysIs]

theorem year_bounds {days : Int} (least : -96465292 ≤ days) (most : days ≤ 95026236) :
    -262143 ≤ (ofDays days).year ∧ (ofDays days).year ≤ 262142 := by
  obtain ⟨era, parts, daysIs, same⟩ := exists_eraDay days
  have bounds := parts.years_bounds
  have dayIs := parts.day_of_years
  obtain ⟨dayLeast, dayMost⟩ := parts.dayFits
  obtain ⟨month, number, monthIs, first, last, numberIs, back, lower, upper⟩ := month_cases dayLeast dayMost
  rw [same]
  unfold ofEraDay
  simp only [monthIs, numberIs]
  generalize parts.years = years at *
  generalize parts.count = count at *
  generalize parts.day = day at *
  have eras : -656 ≤ era ∧ era ≤ 655 := by omega
  -- January and February belong to the year that began in the March before them.
  by_cases early : number ≤ 2
  · have shown : (number : Int) ≤ 2 := by omega
    have late : 306 ≤ day := by omega
    rw [if_pos shown]
    constructor
    · by_cases firstEra : era = -656 <;> omega
    · by_cases lastEra : era = 655
      · by_cases lastYear : years ≤ 141 <;> omega
      · omega
  · have shown : ¬ (number : Int) ≤ 2 := by omega
    have soon : day ≤ 305 := by omega
    rw [if_neg shown]
    constructor
    · by_cases firstEra : era = -656
      · by_cases firstYear : 257 ≤ years <;> omega
      · omega
    · by_cases lastEra : era = 655 <;> omega

end Civil
end CatalogIndex
