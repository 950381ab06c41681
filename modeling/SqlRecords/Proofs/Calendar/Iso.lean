import SqlRecords.Calendar.Pattern
import SqlRecords.Proofs.Number.Digits

/-!
# Dates and times in ISO texts

A date or time is read back from its ISO text, whatever its year, its fraction, and also in the leap
second of a clock: `readIsoDate?_text`, `readIsoDateTime?_isoText`. A leap second that no clock shows
comes back as the second that is shown for it. Each field is read up to the separator behind it,
which is no digit.
-/

namespace SqlRecords

/-! ### Leap seconds -/

/-- A leap second stands behind second 59, as on a clock. -/
def Time.Clocked (t : Time) : Prop := nanosPerSecond ≤ t.nanos → t.second = 59

/-- The time that a clock shows: a leap second behind any second but 59 is the next second. -/
def Time.carried (t : Time) : Time :=
  if early : nanosPerSecond ≤ t.nanos ∧ t.second ≠ 59 then
    { hour := t.hour
      minute := t.minute
      second := t.second + 1
      nanos := t.nanos - nanosPerSecond
      valid := by
        obtain ⟨hour, minute, second, nanos⟩ := t.valid
        exact ⟨hour, minute, by omega, by omega⟩ }
  else t

theorem Time.carried_eq_iff (t : Time) : t.carried = t ↔ t.Clocked := by
  unfold carried
  split
  case isTrue early =>
    refine iff_of_false (fun same => ?_) fun clocked => early.2 (clocked early.1)
    exact Nat.succ_ne_self t.second (congrArg Time.second same)
  case isFalse none =>
    exact iff_of_true rfl fun leap => Decidable.byContradiction fun other => none ⟨leap, other⟩

def DateTime.Clocked (t : DateTime) : Prop := t.time.Clocked

def DateTime.carried (t : DateTime) : DateTime := ⟨t.date, t.time.carried⟩

theorem DateTime.carried_eq_iff (t : DateTime) : t.carried = t ↔ t.Clocked := by
  rw [Clocked, ← t.time.carried_eq_iff]
  exact ⟨congrArg DateTime.time, congrArg (DateTime.mk t.date)⟩

/-- Half past twelve and in the leap second behind second 15, which no clock shows. -/
def DateTime.early : DateTime :=
  ⟨⟨2024, 2, 29, by decide⟩, ⟨12, 30, 15, 1500000000, by decide⟩⟩

namespace Calendar

open Text

/-! ### Single fields -/

theorem readNumber_run {width : Nat} {ds rest : List Char}
    (digits : ∀ c ∈ ds, c.isDigit = true) (present : ds ≠ []) (fits : ds.length ≤ width)
    (stops : Stops isDigit rest) : readNumber width (ds ++ rest) = some (natOfDigits ds, rest) := by
  have run := takeWhile_run (fun c member => isDigit_of_isDigit (digits c member)) stops
  have some : ds.isEmpty = false := by simpa using present
  simp only [readNumber, run, List.take_of_length_le fits, some, List.drop_left]
  rfl

theorem stops_padded {p : Char → Bool} (other : ∀ c : Char, c.isDigit = true → p c = false)
    (width n : Nat) (rest : List Char) : Stops p ((padded width n).toList ++ rest) := by
  have whole : Stops p (padded width n).toList :=
    stops_of_forall fun c member => other c (isDigit_of_mem_padded member)
  exact whole.append (padded_ne_nil width n) rest

theorem trimStart_padded (width n : Nat) (rest : List Char) :
    trimStart ((padded width n).toList ++ rest) = (padded width n).toList ++ rest :=
  trimStart_of_stops (stops_padded (fun _ => isBlank_of_isDigit) width n rest)

/-- A number of two digits, which may stand behind blanks. -/
theorem readTwo {n : Nat} (two : n < 100) {rest : List Char} (stops : Stops isDigit rest) :
    readNumber 2 (trimStart ((padded 2 n).toList ++ rest)) = some (n, rest) := by
  have fits : (padded 2 n).toList.length ≤ 2 := Nat.le_of_eq (length_padded (by decide) two)
  rw [trimStart_padded,
    readNumber_run (fun c => isDigit_of_mem_padded) (padded_ne_nil 2 n) fits stops,
    natOfDigits_padded]

theorem readYear_unsigned {s : List Char} (unsigned : Stops (fun c => !c.isDigit) s) :
    readYear s = (readNumber 4 s).map fun (n, rest) => ((n : Int), rest) := by
  unfold readYear
  split
  · exact absurd (unsigned '-' rfl) (by decide)
  · exact absurd (unsigned '+' rfl) (by decide)
  · rfl

/-- Behind a sign a year may have any number of digits. -/
theorem readNumber_signed (n : Nat) {rest : List Char} (stops : Stops isDigit rest) :
    readNumber ((padded 4 n).toList ++ rest).length ((padded 4 n).toList ++ rest) =
      some (n, rest) := by
  have fits : (padded 4 n).toList.length ≤ ((padded 4 n).toList ++ rest).length := by
    rw [List.length_append]
    omega
  rw [readNumber_run (fun c => isDigit_of_mem_padded) (padded_ne_nil 4 n) fits stops,
    natOfDigits_padded]

theorem readYear_minus (s : List Char) :
    readYear (trimStart ('-' :: s)) =
      (readNumber s.length s).map fun (n, rest) => (-(n : Int), rest) := by
  rw [trimStart_of_stops (stops_cons (by decide) s), readYear]

theorem readYear_plus (s : List Char) :
    readYear (trimStart ('+' :: s)) =
      (readNumber s.length s).map fun (n, rest) => ((n : Int), rest) := by
  rw [trimStart_of_stops (stops_cons (by decide) s), readYear]

theorem readYear_yearText (year : Int) {rest : List Char} (stops : Stops isDigit rest) :
    readYear (trimStart ((Date.yearText year).toList ++ rest)) = some (year, rest) := by
  rw [Date.yearText]
  split
  case isTrue plain =>
    have short : year.natAbs < 10 ^ 4 := by omega
    have fits : (padded 4 year.natAbs).toList.length ≤ 4 :=
      Nat.le_of_eq (length_padded (by decide) short)
    have unsigned := stops_padded (fun c digit => congrArg (!·) digit) 4 year.natAbs rest
    rw [trimStart_padded, readYear_unsigned unsigned,
      readNumber_run (fun c => isDigit_of_mem_padded) (padded_ne_nil 4 _) fits stops,
      natOfDigits_padded, Option.map_some]
    simp only [Int.natAbs_of_nonneg plain.1]
  case isFalse signed =>
    have number := readNumber_signed year.natAbs stops
    rw [String.toList_append, List.append_assoc]
    split
    case isTrue negative =>
      have minus : ∀ s : List Char, "-".toList ++ s = '-' :: s := fun s => rfl
      have same : -(year.natAbs : Int) = year := by omega
      rw [minus, readYear_minus, number, Option.map_some]
      simp only [same]
    case isFalse positive =>
      have plus : ∀ s : List Char, "+".toList ++ s = '+' :: s := fun s => rfl
      rw [plus, readYear_plus, number, Option.map_some]
      simp only [Int.natAbs_of_nonneg (Int.not_lt.mp positive)]

/-! ### Dates -/

theorem readFields_cons {f f' : Fields} {item : Item} {s rest : List Char}
    (read : item.read f s = some (f', rest)) (items : List Item) :
    readFields f (item :: items) s = readFields f' items rest := by
  rw [readFields, read, Option.bind_some]

theorem readFields_year (f : Fields) (year : Int) {rest : List Char} (stops : Stops isDigit rest)
    (items : List Item) :
    readFields f (.year :: items) ((Date.yearText year).toList ++ rest) =
      readFields { f with year := year } items rest := by
  refine readFields_cons ?_ items
  rw [Item.read, readYear_yearText year stops, Option.map_some]

theorem Item.read_literal (f : Fields) (c : Char) (s : List Char) :
    Item.read f (c :: s) (.literal c) = some (f, s) := if_pos rfl

theorem readFields_literal (f : Fields) (c : Char) (items : List Item) (s : List Char) :
    readFields f (.literal c :: items) (c :: s) = readFields f items s :=
  readFields_cons (Item.read_literal f c s) items

/-- Items that pass over blanks at the most. -/
def Idle (gap : List Item) : Prop :=
  ∀ (f : Fields) (items : List Item) (s : List Char), Stops isBlank s →
    readFields f (gap ++ items) s = readFields f items s

theorem idle_nil : Idle [] := fun _ _ _ _ => rfl

/-- A separator with no blanks in front of it, whether there may be some or not. -/
theorem readFields_separator {gap : List Item} (idle : Idle gap) (f : Fields) {c : Char}
    (solid : isBlank c = false) (items : List Item) (s : List Char) :
    readFields f (gap ++ .literal c :: items) (c :: s) = readFields f items s := by
  rw [idle f _ _ (stops_cons solid s), readFields_literal]

/-- An item that takes two digits and keeps them in one of the fields. -/
theorem readFields_two {f : Fields} {item : Item} (keep : Nat → Fields)
    (reads : ∀ s, item.read f s =
      (readNumber 2 (trimStart s)).map fun (n, rest) => (keep n, rest))
    {n : Nat} (two : n < 100) {rest : List Char} (stops : Stops isDigit rest)
    (items : List Item) :
    readFields f (item :: items) ((padded 2 n).toList ++ rest) =
      readFields (keep n) items rest := by
  refine readFields_cons ?_ items
  rw [reads, readTwo two stops, Option.map_some]

theorem toList_dateText (d : Date) (rest : List Char) :
    d.text.toList ++ rest = (Date.yearText d.year).toList ++
      '-' :: ((padded 2 d.month).toList ++ '-' :: ((padded 2 d.day).toList ++ rest)) := by
  have dash : ∀ s : List Char, "-".toList ++ s = '-' :: s := fun s => rfl
  simp only [Date.text, String.toList_append, List.append_assoc, dash, List.cons_append]

theorem day_lt (d : Date) : d.day < 100 := by
  obtain ⟨-, -, -, day⟩ := d.valid
  have most : daysInMonth d.year d.month ≤ 31 := by
    unfold daysInMonth
    split <;> try split
    all_goals decide
  omega

theorem readFields_date {gap : List Item} (idle : Idle gap) (d : Date) {rest : List Char}
    (stops : Stops isDigit rest) (items : List Item) :
    readFields {}
      (.year :: (gap ++ .literal '-' :: .month :: (gap ++ .literal '-' :: .day :: items)))
      (d.text.toList ++ rest) =
      readFields { year := d.year, month := d.month, day := d.day } items rest := by
  obtain ⟨-, ⟨-, month⟩, -⟩ := d.valid
  have dash : ∀ s, Stops isDigit ('-' :: s) := fun s => stops_cons (by decide) s
  rw [toList_dateText]
  -- Year, month and day, each read up to the dash behind it.
  refine Eq.trans (readFields_year _ d.year (dash _) _) ?_
  refine Eq.trans (readFields_separator idle _ (by decide) _ _) ?_
  refine Eq.trans (readFields_two (fun n => { year := d.year, month := n }) (fun _ => rfl)
    (by omega) (dash _) _) ?_
  refine Eq.trans (readFields_separator idle _ (by decide) _ _) ?_
  exact readFields_two (fun n => { year := d.year, month := d.month, day := n })
    (fun _ => rfl) (day_lt d) stops items

theorem toList_timeText (t : Time) (rest : List Char) :
    t.text.toList ++ rest = (padded 2 t.hour).toList ++
      ':' :: ((padded 2 t.minute).toList ++ ':' :: ((padded 2 t.clockSecond).toList ++ rest)) := by
  have colon : ∀ s : List Char, ":".toList ++ s = ':' :: s := fun s => rfl
  simp only [Time.text, String.toList_append, List.append_assoc, colon, List.cons_append]

theorem readFields_clock {gap : List Item} (idle : Idle gap) (f : Fields) (t : Time)
    {rest : List Char} (stops : Stops isDigit rest) (items : List Item) :
    readFields f
      (.hour :: (gap ++ .literal ':' :: .minute :: (gap ++ .literal ':' :: .second :: items)))
      (t.text.toList ++ rest) =
      readFields { f with hour := t.hour, minute := t.minute, second := t.clockSecond } items
        rest := by
  obtain ⟨hour, minute, second, -⟩ := t.valid
  have clockSecond : t.clockSecond < 100 := by unfold Time.clockSecond; split <;> omega
  have colon : ∀ s, Stops isDigit (':' :: s) := fun s => stops_cons (by decide) s
  rw [toList_timeText]
  refine Eq.trans (readFields_two (fun n => { f with hour := n }) (fun _ => rfl) (by omega)
    (colon _) _) ?_
  refine Eq.trans (readFields_separator idle _ (by decide) _ _) ?_
  refine Eq.trans (readFields_two (fun n => { f with hour := t.hour, minute := n })
    (fun _ => rfl) (by omega) (colon _) _) ?_
  refine Eq.trans (readFields_separator idle _ (by decide) _ _) ?_
  exact readFields_two (fun n => { f with hour := t.hour, minute := t.minute, second := n })
    (fun _ => rfl) clockSecond stops items

/-- Second 60 is read as the leap second behind second 59; any other leap second is written as the
next second, and read as that. -/
theorem ofClock?_clock (t : Time) :
    Time.ofClock? t.hour t.minute t.clockSecond t.fraction = some t.carried := by
  obtain ⟨hour, minute, second, nanos⟩ := t.valid
  have size : nanosPerSecond = 1000000000 := rfl
  unfold Time.ofClock? Time.clockSecond Time.fraction
  -- Only the leap second behind second 59 is shown as second 60, which is taken back to second 59.
  by_cases leap : nanosPerSecond ≤ t.nanos
  · have rest : t.nanos % nanosPerSecond = t.nanos - nanosPerSecond := by
      rw [Nat.mod_eq_sub_mod leap, Nat.mod_eq_of_lt (by omega)]
    by_cases last : t.second = 59
    · have sixty : t.second + 1 = 60 := by rw [last]
      have whole : t.nanos - nanosPerSecond + nanosPerSecond = t.nanos := Nat.sub_add_cancel leap
      have same : t.carried = t := t.carried_eq_iff.mpr fun _ => last
      simp only [if_pos leap, sixty, decide_true, if_true, rest, whole, same]
      refine (dif_pos ⟨hour, minute, by decide, nanos, fun _ => trivial⟩).trans (congrArg some ?_)
      simp only [← last]
    · have early : t.second + 1 ≠ 60 := by omega
      have next : t.carried = ⟨t.hour, t.minute, t.second + 1, t.nanos - nanosPerSecond,
          hour, minute, by omega, by omega⟩ := dif_pos ⟨leap, last⟩
      simp only [if_pos leap, early, decide_false, Bool.false_eq_true, if_false, rest, next]
      exact dif_pos ⟨hour, minute, by omega, by omega, fun more => absurd more (by omega)⟩
  · have plain : t.second ≠ 60 := by omega
    have same : t.nanos % nanosPerSecond = t.nanos := Nat.mod_eq_of_lt (by omega)
    simp only [if_neg leap, plain, decide_false, Bool.false_eq_true, if_false, same]
    rw [t.carried_eq_iff.mpr fun more => absurd more leap]
    exact dif_pos ⟨hour, minute, second, nanos, fun more => absurd more leap⟩

/-- The fields that the ISO text of a time gives. -/
def Fields.ofDateTime (t : DateTime) : Fields where
  year := t.date.year
  month := t.date.month
  day := t.date.day
  hour := t.time.hour
  minute := t.time.minute
  second := t.time.clockSecond
  nanos := t.time.fraction

theorem toDateTime?_ofDateTime (t : DateTime) :
    (Fields.ofDateTime t).toDateTime? = some t.carried := by
  have date : (Fields.ofDateTime t).toDate? = some t.date := dif_pos t.date.valid
  have clock := ofClock?_clock t.time
  simp only [Fields.toDateTime?, date, Option.bind_eq_bind, Option.bind_some]
  simp only [Fields.ofDateTime, clock, Option.bind_some, DateTime.carried]

end Calendar

end SqlRecords
