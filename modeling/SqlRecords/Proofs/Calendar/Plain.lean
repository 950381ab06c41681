import SqlRecords.Proofs.Calendar.Iso

/-!
# Dates and times in plain texts

The plain text of a date is read as the date, and that of a time as the time that a clock shows
without its fraction, which is not written: `readDate?_text`, `readDateTime?_text`. No blank stands at
either end of them.
-/

namespace SqlRecords

/-- The time without the fraction of its second. A leap second stays one. -/
def Time.whole (t : Time) : Time where
  hour := t.hour
  minute := t.minute
  second := t.second
  nanos := t.nanos - t.fraction
  valid := by
    obtain ⟨hour, minute, second, nanos⟩ := t.valid
    exact ⟨hour, minute, second, by omega⟩

def DateTime.whole (t : DateTime) : DateTime := ⟨t.date, t.time.whole⟩

namespace Time

theorem nanos_whole (t : Time) :
    t.whole.nanos = if nanosPerSecond ≤ t.nanos then nanosPerSecond else 0 := by
  obtain ⟨-, -, -, nanos⟩ := t.valid
  change t.nanos - t.nanos % 1000000000 = if 1000000000 ≤ t.nanos then 1000000000 else 0
  change t.nanos < 2 * 1000000000 at nanos
  split <;> omega

theorem fraction_whole (t : Time) : t.whole.fraction = 0 := by
  rw [fraction, nanos_whole]
  split <;> rfl

theorem clockSecond_whole (t : Time) : t.whole.clockSecond = t.clockSecond := by
  rw [clockSecond, clockSecond, nanos_whole]
  split
  case isTrue leap => rfl
  case isFalse plain => rfl

theorem clocked_whole_iff (t : Time) : t.whole.Clocked ↔ t.Clocked := by
  rw [Clocked, Clocked, nanos_whole]
  split
  case isTrue leap => exact ⟨fun last _ => last (Nat.le_refl _), fun last _ => last leap⟩
  case isFalse plain =>
    exact iff_of_true (fun none => absurd none (by decide)) fun leap => absurd leap plain

end Time

namespace Calendar

open Text

/-! ### No blanks -/

theorem solid_padded (width n : Nat) : ∀ c ∈ (padded width n).toList, isBlank c = false :=
  fun _ member => isBlank_of_isDigit (isDigit_of_mem_padded member)

theorem solid_yearText (year : Int) : ∀ c ∈ (Date.yearText year).toList, isBlank c = false := by
  have sign : ∀ c ∈ (if year < 0 then "-" else "+" : String).toList, isBlank c = false := by
    split
    case isTrue => exact List.forall_mem_singleton.mpr (by decide)
    case isFalse => exact List.forall_mem_singleton.mpr (by decide)
  rw [Date.yearText]
  split
  case isTrue => exact solid_padded _ _
  case isFalse =>
    rw [String.toList_append, List.forall_mem_append]
    exact ⟨sign, solid_padded _ _⟩

theorem solid_dateText (d : Date) :
    d.text.toList ≠ [] ∧ ∀ c ∈ d.text.toList, isBlank c = false := by
  have parts := toList_dateText d []
  rw [List.append_nil] at parts
  rw [parts]
  refine ⟨List.append_ne_nil_of_right_ne_nil _ (List.cons_ne_nil _ _), ?_⟩
  simp only [List.forall_mem_append, List.forall_mem_cons]
  exact ⟨solid_yearText _, by decide, solid_padded _ _, by decide, solid_padded _ _, nofun⟩

theorem solid_timeText (t : Time) :
    t.text.toList ≠ [] ∧ ∀ c ∈ t.text.toList, isBlank c = false := by
  have parts := toList_timeText t []
  rw [List.append_nil] at parts
  rw [parts]
  refine ⟨List.append_ne_nil_of_right_ne_nil _ (List.cons_ne_nil _ _), ?_⟩
  simp only [List.forall_mem_append, List.forall_mem_cons]
  exact ⟨solid_padded _ _, by decide, solid_padded _ _, by decide, solid_padded _ _, nofun⟩

theorem toList_dateTimeText (t : DateTime) :
    t.text.toList = t.date.text.toList ++ ' ' :: t.time.text.toList := by
  have blank : ∀ s : List Char, " ".toList ++ s = ' ' :: s := fun s => rfl
  simp only [DateTime.text, String.toList_append, List.append_assoc, blank]

theorem trim_dateText (d : Date) : trim d.text = d.text := trim_of_solid (solid_dateText d).2

/-- The blank in the middle is left alone. -/
theorem trim_dateTimeText (t : DateTime) : trim t.text = t.text := by
  obtain ⟨someDate, date⟩ := solid_dateText t.date
  obtain ⟨someTime, time⟩ := solid_timeText t.time
  refine trim_of_ends ?_ ?_
  · rw [toList_dateTimeText]
    exact (stops_of_forall date).append someDate _
  · have last : Stops isBlank t.time.text.toList.reverse :=
      stops_of_forall fun c member => time c (List.mem_reverse.mp member)
    rw [toList_dateTimeText, List.reverse_append, List.reverse_cons, List.append_assoc]
    exact last.append (List.reverse_ne_nil_iff.mpr someTime) _

/-! ### Reading -/

theorem readDate?_text (d : Date) : readDate? d.text.toList = some d := by
  have read := readFields_date idle_nil d (stops_nil isDigit) []
  rw [List.append_nil] at read
  exact Option.bind_eq_some_iff.mpr ⟨_, read, dif_pos d.valid⟩

theorem readFields_blank (f : Fields) {s : List Char} (solid : Stops isBlank s)
    (items : List Item) : readFields f (.blanks :: items) (' ' :: s) = readFields f items s := by
  refine readFields_cons ?_ items
  have passed : trimStart (' ' :: s) = trimStart s := rfl
  rw [Item.read, passed, trimStart_of_stops solid]

/-- The second on the clock tells a leap second, and the fraction is lost. -/
theorem readDateTime?_text (t : DateTime) :
    readDateTime? spacedPattern t.text.toList = some t.whole.carried := by
  have digits : Stops isBlank t.time.text.toList := stops_of_forall (solid_timeText t.time).2
  rw [toList_dateTimeText]
  refine Option.bind_eq_some_iff.mpr ⟨.ofDateTime t.whole, ?_, toDateTime?_ofDateTime t.whole⟩
  rw [Fields.ofDateTime, DateTime.whole, Time.clockSecond_whole, Time.fraction_whole]
  refine Eq.trans (readFields_date idle_nil t.date (stops_cons (by decide) _)
    (.blanks :: clockPattern)) ?_
  refine Eq.trans (readFields_blank _ digits _) ?_
  have clock := readFields_clock idle_nil
    { year := t.date.year, month := t.date.month, day := t.date.day } t.time (stops_nil isDigit) []
  rw [List.append_nil] at clock
  exact clock

end Calendar

end SqlRecords
