import SqlRecords.Proofs.Calendar.Plain
import SqlRecords.Proofs.Value.Integers
import SqlRecords.Proofs.Value.Uuid

/-!
# Texts in place of values

A column may come as the text of its value. `BaseType.read_asText` shows that the text is then read
as the value would be, whatever its range or its year. A time loses the fraction of its second,
which its text does not have, and a leap second that no clock shows becomes the next second.
-/

namespace SqlRecords

namespace Uuid

theorem solid_hexOfBytes (bytes : List UInt8) :
    ∀ c ∈ Text.hexOfBytes bytes, Text.isBlank c = false := by
  have solid : ∀ n < 16, Text.isBlank (Text.hexDigit n) = false := by decide
  induction bytes with
  | nil => exact nofun
  | cons b rest ih =>
    have size : b.toNat < 256 := b.toNat_lt
    rw [Text.hexOfBytes_cons]
    simp only [List.forall_mem_cons]
    exact ⟨solid _ (by omega), solid _ (by omega), ih⟩

theorem trim_text (u : Uuid) : Text.trim u.text = u.text := by
  refine Text.trim_of_solid ?_
  rw [toList_text]
  have dash : Text.isBlank '-' = false := by decide
  simp only [groups, List.map_cons, List.map_nil, List.intercalate_cons_cons,
    List.intercalate_singleton, List.forall_mem_append, List.forall_mem_singleton]
  exact ⟨⟨solid_hexOfBytes _, dash⟩, ⟨solid_hexOfBytes _, dash⟩, ⟨solid_hexOfBytes _, dash⟩,
    ⟨solid_hexOfBytes _, dash⟩, solid_hexOfBytes _⟩

end Uuid

namespace BaseType

/-! ### Integers -/

theorem readWide_intText (target : String) {n : Int}
    (fits : IntType.i64.lo ≤ n ∧ n ≤ IntType.i64.hi) :
    readWide target (.text (Text.intText n)) = .ok n := by
  have numeral : Text.Numeral (Text.trim (Text.intText n)).toList n := by
    rw [Text.trim_intText]
    exact Text.numeral_intText n
  exact readWide_text_ok_iff.mpr ⟨numeral, fits⟩

/-- Two values that are the same 64-bit integer are the same in each type. -/
theorem readInt_congr (B : IntType) {v w : Value} (same : readWide B.name v = readWide B.name w) :
    readInt B v = readInt B w := by
  unfold readInt
  rw [same]

theorem readInt_int_asText (B : IntType) (n : I32) :
    readInt B (.text (Value.int n).asText) = readInt B (.int n) := by
  have fits : IntType.i64.lo ≤ n.val ∧ n.val ≤ IntType.i64.hi :=
    ⟨Int.le_trans (by decide) n.property.1, Int.le_trans n.property.2 (by decide)⟩
  refine readInt_congr B ?_
  rw [Value.asText, readWide_intText B.name fits, readWide]

theorem readInt_bigint_asText (B : IntType) (n : I64) :
    readInt B (.text (Value.bigint n).asText) = readInt B (.bigint n) := by
  refine readInt_congr B ?_
  rw [Value.asText, readWide_intText B.name n.property, readWide]

/-! ### Other values -/

theorem readBool_asText (b : Bool) : readBool (.text (Value.bool b).asText) = .ok b := by
  have yes : (Text.trim "true").toLower = "true" := by decide +kernel
  have no : (Text.trim "false").toLower = "false" := by decide +kernel
  cases b with
  | true =>
    change readBool (.text "true") = .ok true
    simp only [readBool, yes, true_or, if_true]
  | false =>
    have apart : ¬ ("false" = "true" ∨ "false" = "1") := by decide
    change readBool (.text "false") = .ok false
    simp only [readBool, no, true_or, if_true, if_neg apart]

theorem readChar_asText (c : Char) : readChar (.text (Value.char c).asText) = .ok c := by
  rw [Value.asText, readChar, String.toList_singleton]

theorem readDate_text_ok_iff {s : String} {d : Date} :
    readDate (.text s) = .ok d ↔
      (Calendar.readDate? (Text.trim s).toList).or
        ((timeOfText? (Text.trim s).toList).map DateTime.date) = some d := by
  unfold readDate
  dsimp only
  cases (Calendar.readDate? (Text.trim s).toList).or
    ((timeOfText? (Text.trim s).toList).map DateTime.date) with
  | none => exact iff_of_false nofun nofun
  | some e => rw [Except.ok.injEq, Option.some.injEq]

theorem readDateTime_text_ok_iff {s : String} {t : DateTime} :
    readDateTime (.text s) = .ok t ↔ timeOfText? (Text.trim s).toList = some t := by
  unfold readDateTime
  dsimp only
  cases timeOfText? (Text.trim s).toList with
  | none => exact iff_of_false nofun nofun
  | some u => rw [Except.ok.injEq, Option.some.injEq]

theorem readDate_asText (d : Date) : readDate (.text (Value.date d).asText) = .ok d := by
  rw [Value.asText, readDate_text_ok_iff, Calendar.trim_dateText, Calendar.readDate?_text,
    Option.some_or]

theorem readUuid_asText (u : Uuid) : readUuid (.text (Value.uuid u).asText) = .ok u := by
  unfold readUuid
  rw [Value.asText]
  dsimp only
  rw [Uuid.trim_text, Uuid.ofChars?_text]

/-- The first of the forms that are tried is the one that times are written in. -/
theorem readDateTime_asText (t : DateTime) :
    readDateTime (.text (Value.dateTime t).asText) = .ok t.whole.carried := by
  rw [Value.asText, readDateTime_text_ok_iff, Calendar.trim_dateTimeText, timeOfText?,
    Calendar.readDateTime?_text, Option.some_or]

/-- The text of a value is read as the value is: an integer as the same integer of any type, or
refused with the same error, and a truth value, a character, a date or an identifier as what it was.
A time is read as the time that a clock shows without the fraction of its second, which is the time
itself without it unless a leap second stands behind another second than 59. -/
theorem read_asText :
    (∀ (B : IntType) (n : I32),
      (int B).read (.text (Value.int n).asText) = (int B).read (.int n)) ∧
    (∀ (B : IntType) (n : I64),
      (int B).read (.text (Value.bigint n).asText) = (int B).read (.bigint n)) ∧
    (∀ b : Bool, bool.read (.text (Value.bool b).asText) = .ok b) ∧
    (∀ c : Char, char.read (.text (Value.char c).asText) = .ok c) ∧
    (∀ d : Date, date.read (.text (Value.date d).asText) = .ok d) ∧
    (∀ u : Uuid, uuid.read (.text (Value.uuid u).asText) = .ok u) ∧
    ∀ t : DateTime, dateTime.read (.text (Value.dateTime t).asText) = .ok t.whole.carried ∧
      (t.whole.carried = t.whole ↔ t.Clocked) :=
  ⟨readInt_int_asText, readInt_bigint_asText, readBool_asText, readChar_asText, readDate_asText,
    readUuid_asText, fun t => ⟨readDateTime_asText t,
      t.whole.carried_eq_iff.trans t.time.clocked_whole_iff⟩⟩

/-- The leap second behind second 15 is written as second 16 and read as that. -/
theorem read_asText_early :
    (Value.dateTime .early).asText = "2024-02-29 12:30:16" ∧
      dateTime.read (.text (Value.dateTime .early).asText) =
        .ok ⟨⟨2024, 2, 29, by decide⟩, ⟨12, 30, 16, 0, by decide⟩⟩ ∧
      dateTime.read (.text (Value.dateTime .early).asText) ≠ .ok DateTime.early.whole := by
  have read : dateTime.read (.text (Value.dateTime .early).asText) =
      .ok ⟨⟨2024, 2, 29, by decide⟩, ⟨12, 30, 16, 0, by decide⟩⟩ := readDateTime_asText .early
  refine ⟨by decide, read, fun same => ?_⟩
  have sixteen := Except.ok.inj (read.symm.trans same)
  exact absurd (congrArg (·.time.second) sixteen) (by decide)

end BaseType

end SqlRecords
