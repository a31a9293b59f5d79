import RemoteTail.Output.Journal
import RemoteTail.Proofs.Json.Numerals
import RemoteTail.Proofs.Time.Calendar

/-!
# Moments and their texts

A moment is a date with its day of the week and a time of day.  Every number of
seconds after the epoch is that of one moment (`Moment.follows_iff`), and the text
of an instant spells this moment in fixed columns (`Moment.text_ofSeconds`), so
that it tells moments apart (`Moment.civilText_inj`).

Beyond the last second that is written so an instant is the number of its
microseconds (`instantText_names`).
-/

namespace RemoteTail

namespace Decimal

theorem digit_inj {value other : Nat} (small : value < 10) (otherSmall : other < 10) :
    digit value = digit other ↔ value = other := by
  refine ⟨fun same => ?_, congrArg digit⟩
  have value_eq := extend_digit 0 small
  rw [same, extend_digit 0 otherSmall] at value_eq
  omega

theorem digits_inj {value other : Nat} : digits value = digits other ↔ value = other := by
  refine ⟨fun same => ?_, congrArg digits⟩
  have value_eq := value?_digits value
  rw [same, value?_digits] at value_eq
  exact (Option.some.inj value_eq).symm

theorem ne_digit {c : Char} (mark : isDigit c = false) {value : Nat} (small : value < 10) :
    c ≠ digit value := by
  rintro rfl
  rw [isDigit_digit small] at mark
  cases mark

/-- The digits of a value below a hundred, a zero in front included. -/
def twoDigits (value : Nat) : List Char :=
  [digit (value / 10), digit (value % 10)]

theorem twoDigits_inj {value other : Nat} (small : value < 100) (otherSmall : other < 100) :
    twoDigits value = twoDigits other ↔ value = other := by
  refine ⟨fun same => ?_, congrArg twoDigits⟩
  simp only [twoDigits, List.cons.injEq, and_true] at same
  have tens := (digit_inj (by omega) (by omega)).mp same.1
  have ones := (digit_inj (by omega) (by omega)).mp same.2
  omega

theorem digits_of_lt {value : Nat} (small : value < 10) : digits value = [digit value] := by
  rw [digits, if_pos small]

theorem digits_of_le {value : Nat} (large : 10 ≤ value) :
    digits value = digits (value / 10) ++ [digit (value % 10)] := by
  rw [digits, if_neg (Nat.not_lt.mpr large)]

/-- A column that is filled up with zeros ends in the last digit. -/
theorem padded_zero_succ (width value : Nat) :
    padded '0' (width + 2) value = padded '0' (width + 1) (value / 10) ++ [digit (value % 10)] := by
  rcases Nat.lt_or_ge value 10 with small | large
  · have zero : digit 0 = '0' := rfl
    rw [Nat.div_eq_of_lt small, Nat.mod_eq_of_lt small, padded, padded, digits_of_lt small,
      digits_of_lt (by decide), zero]
    simp [List.replicate_succ']
  · rw [padded, padded, digits_of_le large]
    simp

theorem padded_zero_two {value : Nat} (small : value < 100) :
    padded '0' 2 value = twoDigits value := by
  rw [padded_zero_succ 0, padded, digits_of_lt (by omega)]
  rfl

theorem padded_zero_four {value : Nat} (small : value < 10000) :
    padded '0' 4 value = twoDigits (value / 100) ++ twoDigits (value % 100) := by
  have last_eq : value % 10 = value % 100 % 10 := by omega
  have third_eq : value / 10 % 10 = value % 100 / 10 := by omega
  rw [padded_zero_succ 2, padded_zero_succ 1, Nat.div_div_eq_div_mul,
    padded_zero_two (by omega), last_eq, third_eq]
  simp [twoDigits]

theorem padded_blank_two {value : Nat} (small : value < 100) :
    padded ' ' 2 value = if value < 10 then [' ', digit value] else twoDigits value := by
  rcases Nat.lt_or_ge value 10 with one | two
  · rw [padded, digits_of_lt one, if_pos one]
    rfl
  · rw [padded, digits_of_le two, digits_of_lt (by omega), if_neg (Nat.not_lt.mpr two)]
    rfl

end Decimal

end RemoteTail

namespace RemoteTail.Time

open Decimal

/-- A date with its day of the week, and a time of day. -/
structure Moment where
  /-- The date. -/
  date : Date
  /-- The day of the week; Sunday is zero. -/
  weekday : Nat
  /-- The hour of the day, from zero. -/
  hour : Nat
  /-- The minute of the hour, from zero. -/
  minute : Nat
  /-- The second of the minute, from zero. -/
  second : Nat
deriving DecidableEq, Repr

namespace Moment

variable {moment first second : Moment} {seconds other : Nat}

/-- The moment exists and comes a number of seconds after 1970-01-01 00:00:00. -/
structure Follows (moment : Moment) (seconds : Nat) : Prop where
  exists_date : moment.date.Exists
  falls : FallsOn moment.date moment.weekday
  hour_lt : moment.hour < 24
  minute_lt : moment.minute < 60
  second_lt : moment.second < 60
  count_eq : moment.date.number * 86400 + moment.hour * 3600 + moment.minute * 60 + moment.second =
    epoch.number * 86400 + seconds

/-- The moment that comes a number of seconds after the epoch. -/
def ofSeconds (seconds : Nat) : Moment where
  date := Date.ofDays (seconds / 86400)
  weekday := Time.weekday (seconds / 86400)
  hour := seconds % 86400 / 3600
  minute := seconds % 86400 / 60 % 60
  second := seconds % 86400 % 60

theorem follows_ofSeconds (seconds : Nat) : (ofSeconds seconds).Follows seconds := by
  obtain ⟨exist, number_eq⟩ := Date.exists_ofDays (seconds / 86400)
  refine ⟨exist, fallsOn_ofDays _, ?_, ?_, ?_, ?_⟩
  · simp only [ofSeconds]
    omega
  · exact Nat.mod_lt _ (by decide)
  · exact Nat.mod_lt _ (by decide)
  · simp only [ofSeconds, number_eq]
    omega

/-- One moment comes a number of seconds after the epoch. -/
theorem follows_iff : moment.Follows seconds ↔ moment = ofSeconds seconds := by
  constructor
  · rcases moment with ⟨date, day, hour, minute, second⟩
    rintro ⟨_, falls, hour_lt, minute_lt, second_lt, count_eq⟩
    obtain ⟨days, rfl, rfl⟩ := falls.exists_days
    simp only [(Date.exists_ofDays days).2] at hour_lt minute_lt second_lt count_eq
    obtain rfl : seconds / 86400 = days := by omega
    simp only [ofSeconds, mk.injEq, true_and]
    omega
  · rintro rfl
    exact follows_ofSeconds seconds

/-! ## Columns -/

/-- A year in four digits, or in more behind a plus sign. -/
def yearChars (year : Nat) : List Char :=
  if year ≤ 9999 then twoDigits (year / 100) ++ twoDigits (year % 100) else '+' :: digits year

/-- A day of the month in two columns. -/
def dayChars (day : Nat) : List Char :=
  if day < 10 then [' ', digit day] else twoDigits day

/-- The text of a moment, column by column. -/
def chars (moment : Moment) : List Char :=
  (weekdayNames.getD moment.weekday "").toList ++ ' ' ::
    ((monthNames.getD (moment.date.month - 1) "").toList ++ ' ' ::
      (dayChars moment.date.day ++ ' ' ::
        (twoDigits moment.hour ++ ':' :: (twoDigits moment.minute ++ ':' ::
          (twoDigits moment.second ++ ' ' :: yearChars moment.date.year)))))

theorem toList_yearText (year : Nat) : (yearText year).toList = yearChars year := by
  unfold yearText yearChars
  split
  · next short => rw [String.toList_ofList, padded_zero_four (by omega)]
  · simp [Decimal.text]

theorem toList_civilText (seconds : Nat) :
    (civilText seconds).toList = (ofSeconds seconds).chars := by
  have day_lt : (Date.ofDays (seconds / 86400)).day < 100 :=
    (follows_ofSeconds seconds).exists_date.day_lt
  have hour_lt : seconds % 86400 / 3600 < 100 := by omega
  have minute_lt : seconds % 86400 / 60 % 60 < 100 := by omega
  have second_lt : seconds % 86400 % 60 < 100 := by omega
  simp only [civilText, chars, ofSeconds, String.toList_intercalate, List.map_cons, List.map_nil,
    String.toList_ofList, padded_zero_two hour_lt, padded_zero_two minute_lt,
    padded_zero_two second_lt, padded_blank_two day_lt, toList_yearText]
  simp [dayChars]

/-! ## What a text tells -/

theorem Follows.weekday_lt (follows : moment.Follows seconds) : moment.weekday < 7 := by
  rw [follows_iff.mp follows]
  exact Nat.mod_lt _ (by decide)

theorem dayChars_inj {day other : Nat} (small : day < 100) (otherSmall : other < 100) :
    dayChars day = dayChars other ↔ day = other := by
  refine ⟨fun same => ?_, congrArg dayChars⟩
  unfold dayChars at same
  split_ifs at same with one otherOne otherOne
  · exact (digit_inj one otherOne).mp (List.cons.inj (List.cons.inj same).2).1
  · exact absurd (List.cons.inj same).1 (ne_digit rfl (by omega))
  · exact absurd (List.cons.inj same).1.symm (ne_digit rfl (by omega))
  · exact (twoDigits_inj small otherSmall).mp same

theorem yearChars_inj {year other : Nat} : yearChars year = yearChars other ↔ year = other := by
  refine ⟨fun same => ?_, congrArg yearChars⟩
  unfold yearChars at same
  split_ifs at same with short otherShort otherShort
  · obtain ⟨centuries, years⟩ := List.append_inj same rfl
    have centuries_eq := (twoDigits_inj (by omega) (by omega)).mp centuries
    have years_eq := (twoDigits_inj (by omega) (by omega)).mp years
    omega
  · exact absurd (List.cons.inj same).1.symm (ne_digit rfl (by omega))
  · exact absurd (List.cons.inj same).1 (ne_digit rfl (by omega))
  · exact digits_inj.mp (List.cons.inj same).2

theorem length_dayChars (day : Nat) : (dayChars day).length = 2 := by
  unfold dayChars
  split <;> rfl

theorem length_weekdayName : ∀ day < 7, (weekdayNames.getD day "").toList.length = 3 := by
  decide

theorem length_monthName : ∀ month < 12, (monthNames.getD month "").toList.length = 3 := by
  decide

theorem monthName_inj : ∀ month < 12, ∀ other < 12,
    monthNames.getD month "" = monthNames.getD other "" → month = other := by
  decide

/-- The columns stand at the same places in the texts of all moments. -/
theorem columns_of_chars_eq (follows : first.Follows seconds) (otherFollows : second.Follows other)
    (same : first.chars = second.chars) :
    monthNames.getD (first.date.month - 1) "" = monthNames.getD (second.date.month - 1) "" ∧
      dayChars first.date.day = dayChars second.date.day ∧
      twoDigits first.hour = twoDigits second.hour ∧
      twoDigits first.minute = twoDigits second.minute ∧
      twoDigits first.second = twoDigits second.second ∧
      yearChars first.date.year = yearChars second.date.year := by
  have weekdays := (length_weekdayName _ follows.weekday_lt).trans
    (length_weekdayName _ otherFollows.weekday_lt).symm
  have months := (length_monthName _ follows.exists_date.month_pred_lt).trans
    (length_monthName _ otherFollows.exists_date.month_pred_lt).symm
  have days := (length_dayChars first.date.day).trans (length_dayChars second.date.day).symm
  obtain ⟨-, same⟩ := List.append_inj same weekdays
  obtain ⟨month_eq, same⟩ := List.append_inj (List.cons.inj same).2 months
  obtain ⟨day_eq, same⟩ := List.append_inj (List.cons.inj same).2 days
  obtain ⟨hour_eq, same⟩ := List.append_inj (List.cons.inj same).2 rfl
  obtain ⟨minute_eq, same⟩ := List.append_inj (List.cons.inj same).2 rfl
  obtain ⟨second_eq, same⟩ := List.append_inj (List.cons.inj same).2 rfl
  exact ⟨String.toList_inj.mp month_eq, day_eq, hour_eq, minute_eq, second_eq,
    (List.cons.inj same).2⟩

/-- Texts tell moments apart. -/
theorem seconds_eq_of_chars_eq (follows : first.Follows seconds)
    (otherFollows : second.Follows other) (same : first.chars = second.chars) :
    seconds = other := by
  obtain ⟨months, days, hours, minutes, secs, years⟩ :=
    columns_of_chars_eq follows otherFollows same
  obtain ⟨exist, _, hour_lt, minute_lt, second_lt, count_eq⟩ := follows
  obtain ⟨otherExists, _, otherHour_lt, otherMinute_lt, otherSecond_lt, otherCount_eq⟩ :=
    otherFollows
  have month_eq : first.date.month = second.date.month := by
    have pred_eq := monthName_inj _ exist.month_pred_lt _ otherExists.month_pred_lt months
    have positive := exist.one_le_month
    have otherPositive := otherExists.one_le_month
    omega
  have number_eq : first.date.number = second.date.number := by
    rw [Date.number, Date.number, yearChars_inj.mp years, month_eq,
      (dayChars_inj exist.day_lt otherExists.day_lt).mp days]
  have hour_eq := (twoDigits_inj (by omega) (by omega)).mp hours
  have minute_eq := (twoDigits_inj (by omega) (by omega)).mp minutes
  have second_eq := (twoDigits_inj (by omega) (by omega)).mp secs
  omega

/-- The text of a moment. -/
def text (moment : Moment) : String :=
  String.ofList moment.chars

theorem text_ofSeconds (seconds : Nat) : (ofSeconds seconds).text = civilText seconds := by
  rw [text, ← toList_civilText, String.ofList_toList]

example : (ofSeconds 0).text = "Thu Jan  1 00:00:00 1970" := by decide +kernel

theorem civilText_inj : civilText seconds = civilText other ↔ seconds = other := by
  refine ⟨fun same => ?_, congrArg civilText⟩
  rw [← String.toList_inj, toList_civilText, toList_civilText] at same
  exact seconds_eq_of_chars_eq (follows_ofSeconds seconds) (follows_ofSeconds other) same

end Moment

/-! ## Instants -/

theorem civilText_ne_text (seconds value : Nat) : civilText seconds ≠ Decimal.text value := by
  intro same
  have blank : ' ' ∈ (civilText seconds).toList := by
    rw [Moment.toList_civilText]
    exact List.mem_append_right _ List.mem_cons_self
  rw [same, Decimal.text, String.toList_ofList] at blank
  cases isDigit_of_mem_digits value ' ' blank

theorem instantText_of_le {micros : Nat} (early : micros / 1000000 ≤ lastSecond) :
    instantText micros = civilText (micros / 1000000) :=
  if_pos early

theorem instantText_of_lt {micros : Nat} (late : lastSecond < micros / 1000000) :
    instantText micros = Decimal.text micros :=
  if_neg (Nat.not_le.mpr late)

/-- The seconds in a word of microseconds are a signed word. -/
theorem toInt_seconds {micros : Nat} (word : micros < 2 ^ 64) :
    (UInt64.ofNat (micros / 1000000)).toInt64.toInt = (micros / 1000000 : Nat) := by
  have value_eq : (BitVec.ofNat 64 (micros / 1000000)).toNat = micros / 1000000 := by
    rw [BitVec.toNat_ofNat]
    exact Nat.mod_eq_of_lt (by omega)
  change (BitVec.ofNat 64 (micros / 1000000)).toInt = _
  rw [BitVec.toInt_eq_toNat_of_lt (by omega), value_eq]

/-- The text of an entry with a message begins with its time. -/
theorem exists_text_eq {entry : JournalEntry}
    (message : (entry.fields.get? "MESSAGE").isSome = true) :
    ∃ rest, entry.text = instantText entry.realtimeTimestamp ++ " " ++ rest := by
  have words : ∃ word others,
      entry.words? = some (instantText entry.realtimeTimestamp :: word :: others) := by
    obtain ⟨message, found⟩ := Option.isSome_iff_exists.mp message
    rw [JournalEntry.words?, found, Option.map_some]
    cases entry.fields.get? "_HOSTNAME" <;> cases entry.fields.get? "SYSLOG_IDENTIFIER" <;>
      cases entry.fields.get? "_PID" <;> exact ⟨_, _, rfl⟩
  obtain ⟨word, others, words_eq⟩ := words
  refine ⟨" ".intercalate (word :: others) ++ "\n", ?_⟩
  simp only [JournalEntry.text, words_eq, String.intercalate_cons_cons, String.append_assoc]

end RemoteTail.Time
