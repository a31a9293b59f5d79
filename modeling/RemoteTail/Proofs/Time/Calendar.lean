import Mathlib.Algebra.BigOperators.Intervals
import Mathlib.Algebra.Order.BigOperators.Group.Finset
import RemoteTail.Time.Civil

/-!
# The calendar

The Gregorian calendar by its rules: which years are leap years, how long months
are and which day comes after which.  The days before a date are counted year by
year and month by month, so a date that exists is determined by its number
(`Date.Exists.eq_of_number_eq`).

The date that is computed for a number of days exists and has this number
(`Date.ofDays_eq_iff`), so that the days come one after another
(`Date.ofDays_succ`) and the days of the week with them (`fallsOn_ofDays_iff`).
-/

namespace RemoteTail.Time

open Finset

/-! ## Years and months -/

/-- Every fourth year is a leap year, but of those that end a century only every fourth. -/
def IsLeapYear (year : Nat) : Prop :=
  4 ∣ year ∧ (100 ∣ year → 400 ∣ year)

instance : DecidablePred IsLeapYear :=
  fun year => inferInstanceAs (Decidable (4 ∣ year ∧ (100 ∣ year → 400 ∣ year)))

/-- The days of a month, by its number from 1 to 12. -/
def monthLength (year month : Nat) : Nat :=
  if month = 2 then if IsLeapYear year then 29 else 28
  else if month = 4 ∨ month = 6 ∨ month = 9 ∨ month = 11 then 30
  else 31

/-- The days of a year before a month. -/
def daysBeforeMonth (year month : Nat) : Nat :=
  ∑ earlier ∈ Ico 1 month, monthLength year earlier

/-- The days of a year. -/
def yearLength (year : Nat) : Nat :=
  daysBeforeMonth year 13

/-- The days from the first of January of the year zero to the first of January of a year. -/
def daysBeforeYear (year : Nat) : Nat :=
  ∑ earlier ∈ range year, yearLength earlier

theorem daysBeforeMonth_one (year : Nat) : daysBeforeMonth year 1 = 0 :=
  rfl

theorem daysBeforeMonth_succ (year : Nat) {month : Nat} (positive : 1 ≤ month) :
    daysBeforeMonth year (month + 1) = daysBeforeMonth year month + monthLength year month :=
  sum_Ico_succ_top positive _

theorem daysBeforeMonth_mono (year : Nat) {first second : Nat} (le : first ≤ second) :
    daysBeforeMonth year first ≤ daysBeforeMonth year second :=
  sum_le_sum_of_subset (Ico_subset_Ico_right le)

theorem daysBeforeYear_succ (year : Nat) :
    daysBeforeYear (year + 1) = daysBeforeYear year + yearLength year :=
  sum_range_succ _ _

theorem daysBeforeYear_mono {first second : Nat} (le : first ≤ second) :
    daysBeforeYear first ≤ daysBeforeYear second :=
  sum_le_sum_of_subset (range_mono le)

theorem yearLength_eq (year : Nat) : yearLength year = if IsLeapYear year then 366 else 365 := by
  by_cases leap : IsLeapYear year <;>
    simp [yearLength, daysBeforeMonth, sum_Ico_succ_top, monthLength, leap]

/-- The days of the years up to a given one, the leap days counted by the rules for them. -/
theorem daysBeforeYear_succ_eq (year : Nat) :
    daysBeforeYear (year + 1) + year / 100 = 365 * year + 366 + year / 4 + year / 400 := by
  induction year with
  | zero => rfl
  | succ year ih =>
      rw [daysBeforeYear_succ, yearLength_eq]
      split
      · next leap =>
          obtain ⟨fourth, century⟩ := leap
          omega
      · next common =>
          have rule : ¬ (4 ∣ year + 1 ∧ (100 ∣ year + 1 → 400 ∣ year + 1)) := common
          omega

/-! ## Dates -/

/-- The calendar has the date. -/
structure Date.Exists (date : Date) : Prop where
  one_le_month : 1 ≤ date.month
  month_le : date.month ≤ 12
  one_le_day : 1 ≤ date.day
  day_le : date.day ≤ monthLength date.year date.month

/-- The days from the first of January of the year zero to a date. -/
def Date.number (date : Date) : Nat :=
  daysBeforeYear date.year + daysBeforeMonth date.year date.month + (date.day - 1)

/-- The day after a date. -/
def Date.next (date : Date) : Date :=
  if date.day < monthLength date.year date.month then { date with day := date.day + 1 }
  else if date.month < 12 then ⟨date.year, date.month + 1, 1⟩
  else ⟨date.year + 1, 1, 1⟩

/-- The date that days are counted from. -/
def epoch : Date :=
  ⟨1970, 1, 1⟩

namespace Date

variable {date first second : Date} {days : Nat}

theorem one_le_monthLength (year month : Nat) : 1 ≤ monthLength year month := by
  unfold monthLength
  split_ifs <;> decide

theorem Exists.month_pred_lt (exist : date.Exists) : date.month - 1 < 12 := by
  have month_le := exist.month_le
  omega

theorem Exists.day_lt (exist : date.Exists) : date.day < 100 := by
  have month_le : monthLength date.year date.month ≤ 31 := by
    unfold monthLength
    split_ifs <;> decide
  have inside := exist.day_le
  omega

theorem Exists.number_lt_month (exist : date.Exists) :
    date.number < daysBeforeYear date.year + daysBeforeMonth date.year (date.month + 1) := by
  have inside := exist.day_le
  have positive := exist.one_le_day
  rw [daysBeforeMonth_succ _ exist.one_le_month, number]
  omega

theorem Exists.number_lt_year (exist : date.Exists) :
    date.number < daysBeforeYear (date.year + 1) := by
  have month_le : date.month + 1 ≤ 13 := Nat.succ_le_succ exist.month_le
  calc
    date.number < daysBeforeYear date.year + daysBeforeMonth date.year (date.month + 1) :=
      exist.number_lt_month
    _ ≤ daysBeforeYear date.year + yearLength date.year :=
      Nat.add_le_add_left (daysBeforeMonth_mono date.year month_le) _
    _ = daysBeforeYear (date.year + 1) := (daysBeforeYear_succ date.year).symm

theorem Exists.year_le (firstExists : first.Exists) (le : second.number ≤ first.number) :
    second.year ≤ first.year := by
  apply Nat.le_of_not_lt
  intro later
  have before := firstExists.number_lt_year
  have started := daysBeforeYear_mono (show first.year + 1 ≤ second.year from later)
  rw [number] at le
  omega

theorem Exists.month_le_of_year_eq (firstExists : first.Exists)
    (le : second.number ≤ first.number) (same : second.year = first.year) :
    second.month ≤ first.month := by
  apply Nat.le_of_not_lt
  intro later
  have before := firstExists.number_lt_month
  have started :=
    daysBeforeMonth_mono first.year (show first.month + 1 ≤ second.month from later)
  rw [number, same] at le
  omega

/-- A date is determined by its number. -/
theorem Exists.eq_of_number_eq (firstExists : first.Exists) (secondExists : second.Exists)
    (same : first.number = second.number) : first = second := by
  have year_eq : first.year = second.year :=
    Nat.le_antisymm (secondExists.year_le same.le) (firstExists.year_le same.ge)
  have month_eq : first.month = second.month :=
    Nat.le_antisymm (secondExists.month_le_of_year_eq same.le year_eq)
      (firstExists.month_le_of_year_eq same.ge year_eq.symm)
  have day_eq : first.day = second.day := by
    have first_day := firstExists.one_le_day
    have second_day := secondExists.one_le_day
    rw [number, number, year_eq, month_eq] at same
    omega
  cases first
  cases second
  cases year_eq
  cases month_eq
  cases day_eq
  rfl

theorem Exists.next (exist : date.Exists) : date.next.Exists := by
  obtain ⟨one_le_month, month_le, one_le_day, day_le⟩ := exist
  unfold Date.next
  split_ifs with inside before
  · exact ⟨one_le_month, month_le, Nat.le_add_left 1 _, inside⟩
  · exact ⟨Nat.le_add_left 1 _, before, Nat.le_refl 1, one_le_monthLength _ _⟩
  · exact ⟨Nat.le_refl 1, Nat.le_add_left 1 11, Nat.le_refl 1, one_le_monthLength _ _⟩

theorem Exists.number_next (exist : date.Exists) : date.next.number = date.number + 1 := by
  have positive := exist.one_le_day
  have inside := exist.day_le
  have month_ends := daysBeforeMonth_succ date.year exist.one_le_month
  unfold Date.next
  split_ifs with before_end before_last
  · simp only [number]
    omega
  · simp only [number]
    omega
  · have last : date.month = 12 := by
      have month_le := exist.month_le
      omega
    have year_ends : daysBeforeYear (date.year + 1) =
        daysBeforeYear date.year + daysBeforeMonth date.year (12 + 1) :=
      daysBeforeYear_succ date.year
    rw [last] at month_ends before_end inside
    simp only [number, last, daysBeforeMonth_one, year_ends]
    omega

end Date

/-! ## The computed date -/

/-- A day counted from the first of March, by the place of its year in a cycle of 400 years.  Only
the last of four years has a leap day at its end, and of the years that end a century only the
last. -/
theorem MarchDay.exists_place (days : Nat) :
    ∃ cycle century group year day,
      MarchDay.ofDays days = ⟨400 * cycle + 100 * century + 4 * group + year, day⟩ ∧
      days = 146097 * cycle + 36524 * century + 1461 * group + 365 * year + day ∧
      century ≤ 3 ∧ group ≤ 24 ∧ year ≤ 3 ∧ day ≤ 365 ∧
      (day = 365 → year = 3 ∧ (group = 24 → century = 3)) := by
  refine ⟨_, _, _, _, _, rfl, ?_⟩
  have cycles := Nat.div_add_mod days 146097
  have in_cycle := Nat.mod_lt days (show 146097 > 0 by decide)
  generalize days / 146097 = cycle at cycles ⊢
  generalize days % 146097 = inCycle at cycles in_cycle ⊢
  have century_le : min (inCycle / 36524) 3 ≤ 3 := Nat.min_le_right _ _
  have in_century : inCycle - min (inCycle / 36524) 3 * 36524 ≤ 36524 ∧
      (inCycle - min (inCycle / 36524) 3 * 36524 = 36524 → min (inCycle / 36524) 3 = 3) ∧
      min (inCycle / 36524) 3 * 36524 ≤ inCycle := by
    omega
  generalize min (inCycle / 36524) 3 = century at century_le in_century ⊢
  obtain ⟨inCentury, centuries⟩ := Nat.exists_eq_add_of_le in_century.2.2
  rw [centuries, Nat.add_sub_cancel_left] at in_century ⊢
  have groups := Nat.div_add_mod inCentury 1461
  have in_group := Nat.mod_lt inCentury (show 1461 > 0 by decide)
  generalize inCentury / 1461 = group at groups ⊢
  generalize inCentury % 1461 = inGroup at groups in_group ⊢
  omega

/-- The days up to a day that is counted from the first of March, by the rules for leap days. -/
theorem MarchDay.ofDays_eq (days : Nat) :
    days + (MarchDay.ofDays days).year / 100 =
      365 * (MarchDay.ofDays days).year + (MarchDay.ofDays days).year / 4 +
        (MarchDay.ofDays days).year / 400 + (MarchDay.ofDays days).dayOfYear := by
  obtain ⟨cycle, century, group, year, day, place, days_eq, _, _, _, _, _⟩ := exists_place days
  simp only [place]
  omega

/-- The last day of a year that is counted from the first of March is a leap day. -/
theorem MarchDay.dayOfYear_lt (days : Nat) :
    (MarchDay.ofDays days).dayOfYear < 365 ∨
      (MarchDay.ofDays days).dayOfYear = 365 ∧ IsLeapYear ((MarchDay.ofDays days).year + 1) := by
  obtain ⟨cycle, century, group, year, day, place, _, _, _, _, _, leap⟩ := exists_place days
  simp only [place, IsLeapYear]
  omega

/-- The days before each month, by the days before the month that comes first in it. -/
theorem daysBeforeMonth_from_march (year : Nat) :
    daysBeforeMonth year 4 = daysBeforeMonth year 3 + 31 ∧
      daysBeforeMonth year 5 = daysBeforeMonth year 4 + 30 ∧
      daysBeforeMonth year 6 = daysBeforeMonth year 5 + 31 ∧
      daysBeforeMonth year 7 = daysBeforeMonth year 6 + 30 ∧
      daysBeforeMonth year 8 = daysBeforeMonth year 7 + 31 ∧
      daysBeforeMonth year 9 = daysBeforeMonth year 8 + 31 ∧
      daysBeforeMonth year 10 = daysBeforeMonth year 9 + 30 ∧
      daysBeforeMonth year 11 = daysBeforeMonth year 10 + 31 ∧
      daysBeforeMonth year 12 = daysBeforeMonth year 11 + 30 ∧
      yearLength year = daysBeforeMonth year 12 + 31 := by
  have step {month : Nat} := @daysBeforeMonth_succ year month
  exact ⟨step (by decide), step (by decide), step (by decide), step (by decide), step (by decide),
    step (by decide), step (by decide), step (by decide), step (by decide), step (by decide)⟩

/-- The month in which a day counted from the first of March lies: one of the same year, from March
to December, or one of the first two of the next year. -/
theorem of_monthAndDay_eq {day month rest : Nat}
    (found : monthAndDay marchMonths day = (month, rest)) (year : Nat) :
    (3 ≤ month ∧ month ≤ 12 ∧ rest < monthLength year month ∧
      daysBeforeMonth year month + rest + 306 = yearLength year + day) ∨
    (1 ≤ month ∧ month ≤ 2 ∧ daysBeforeMonth (year + 1) month + rest + 306 = day ∧
      (day < 365 ∨ day = 365 ∧ IsLeapYear (year + 1) → rest < monthLength (year + 1) month)) := by
  obtain ⟨april, may, june, july, august, september, october, november, december, january⟩ :=
    daysBeforeMonth_from_march year
  rw [marchMonths] at found
  -- The ten months from March to December, then January and February.
  iterate 10
    rw [monthAndDay] at found
    split at found
    · obtain ⟨rfl, rfl⟩ := Prod.mk.inj found
      exact .inl ⟨by decide, by decide, by assumption, by omega⟩
  rw [monthAndDay] at found
  split at found
  · obtain ⟨rfl, rfl⟩ := Prod.mk.inj found
    have none_before := daysBeforeMonth_one (year + 1)
    exact .inr ⟨by decide, by decide, by omega, fun _ => by assumption⟩
  · obtain ⟨rfl, rfl⟩ := Prod.mk.inj found
    have january_before : daysBeforeMonth (year + 1) 2 = 31 := rfl
    refine .inr ⟨by decide, by decide, by omega, fun last => ?_⟩
    change _ < if IsLeapYear (year + 1) then 29 else 28
    rcases last with before | ⟨rfl, leap⟩
    · split <;> omega
    · rw [if_pos leap]
      decide

theorem MarchDay.date_eq (d : MarchDay) :
    d.date =
      ⟨if (monthAndDay marchMonths d.dayOfYear).1 ≤ 2 then d.year + 1 else d.year,
        (monthAndDay marchMonths d.dayOfYear).1, (monthAndDay marchMonths d.dayOfYear).2 + 1⟩ :=
  rfl

/-- The date of a day that is counted from the first of March.  The tenth month after it ends the
year, so 306 of the days up to it are those from there on. -/
theorem MarchDay.exists_date {d : MarchDay}
    (inside : d.dayOfYear < 365 ∨ d.dayOfYear = 365 ∧ IsLeapYear (d.year + 1)) :
    d.date.Exists ∧ d.date.number + 306 = daysBeforeYear (d.year + 1) + d.dayOfYear := by
  rcases found : monthAndDay marchMonths d.dayOfYear with ⟨month, rest⟩
  rw [date_eq, found]
  rcases of_monthAndDay_eq found d.year with
    ⟨low, high, short, days_eq⟩ | ⟨low, high, days_eq, short⟩
  · have same_year : ¬ month ≤ 2 := by omega
    simp only [if_neg same_year]
    refine ⟨⟨Nat.le_trans (by decide) low, high, Nat.le_add_left 1 rest, short⟩, ?_⟩
    simp only [Date.number, daysBeforeYear_succ]
    omega
  · simp only [if_pos high]
    refine ⟨⟨low, Nat.le_trans high (by decide), Nat.le_add_left 1 rest, short inside⟩, ?_⟩
    simp only [Date.number]
    omega

namespace Date

variable {date : Date} {days : Nat}

theorem number_newYear (year : Nat) : number ⟨year, 1, 1⟩ = daysBeforeYear year := by
  rw [number, daysBeforeMonth_one, Nat.sub_self, Nat.add_zero]

theorem number_epoch : epoch.number = 719528 := by
  -- The year stays a variable as long as there is arithmetic, or the years would be added up.
  have before {year : Nat} (next : year = 1969 + 1) : daysBeforeYear year = 719528 := by
    have years := daysBeforeYear_succ_eq 1969
    rw [← next] at years
    omega
  exact (number_newYear 1970).trans (before rfl)

theorem exists_ofDays (days : Nat) :
    (ofDays days).Exists ∧ (ofDays days).number = epoch.number + days := by
  obtain ⟨exist, number_eq⟩ :=
    MarchDay.exists_date (MarchDay.dayOfYear_lt (days + epochDay))
  have years := daysBeforeYear_succ_eq (MarchDay.ofDays (days + epochDay)).year
  have place := MarchDay.ofDays_eq (days + epochDay)
  refine ⟨exist, ?_⟩
  rw [number_epoch]
  unfold ofDays
  unfold epochDay at *
  omega

/-- The date of a number of days after the epoch is the one that exists and comes that many days
later. -/
theorem ofDays_eq_iff :
    ofDays days = date ↔ date.Exists ∧ date.number = epoch.number + days := by
  obtain ⟨exist, number_eq⟩ := exists_ofDays days
  constructor
  · rintro rfl
    exact ⟨exist, number_eq⟩
  · rintro ⟨other, same⟩
    exact exist.eq_of_number_eq other (number_eq.trans same.symm)

/-- The dates come one after another. -/
theorem ofDays_succ (days : Nat) : ofDays (days + 1) = (ofDays days).next := by
  obtain ⟨exist, number_eq⟩ := exists_ofDays days
  exact ofDays_eq_iff.mpr ⟨exist.next, by rw [exist.number_next, number_eq, Nat.add_assoc]⟩

end Date

/-! ## The days of the week -/

/-- A date falls on a day of the week: the epoch on a Thursday, and every day after it on the day of
the week after that of the day before. -/
inductive FallsOn : Date → Nat → Prop where
  /-- The epoch falls on a Thursday, four days after a Sunday. -/
  | epoch : FallsOn epoch 4
  /-- The next day falls on the next day of the week. -/
  | next {date : Date} {day : Nat} (falls : FallsOn date day) : FallsOn date.next ((day + 1) % 7)

theorem fallsOn_ofDays (days : Nat) : FallsOn (Date.ofDays days) (weekday days) := by
  induction days with
  | zero => exact .epoch
  | succ days ih =>
      have next_eq : weekday (days + 1) = (weekday days + 1) % 7 := by
        unfold weekday
        omega
      rw [Date.ofDays_succ, next_eq]
      exact .next ih

theorem FallsOn.exists_days {date : Date} {day : Nat} (falls : FallsOn date day) :
    ∃ days, date = Date.ofDays days ∧ day = weekday days := by
  induction falls with
  | epoch => exact ⟨0, rfl, rfl⟩
  | next _ ih =>
      obtain ⟨days, rfl, rfl⟩ := ih
      refine ⟨days + 1, (Date.ofDays_succ days).symm, ?_⟩
      unfold weekday
      omega

/-- A date falls on the day of the week that is computed from its distance to the epoch, and on no
other. -/
theorem fallsOn_ofDays_iff {days day : Nat} :
    FallsOn (Date.ofDays days) day ↔ day = weekday days := by
  constructor
  · intro falls
    obtain ⟨others, date_eq, rfl⟩ := falls.exists_days
    have days_eq := (Date.exists_ofDays days).2
    rw [date_eq, (Date.exists_ofDays others).2] at days_eq
    rw [Nat.add_left_cancel days_eq]
  · rintro rfl
    exact fallsOn_ofDays days

end RemoteTail.Time
