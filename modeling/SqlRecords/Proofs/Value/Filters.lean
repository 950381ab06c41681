import SqlRecords.Proofs.Calendar.Forms
import SqlRecords.Proofs.Value.Texts
import SqlRecords.Value.TypeCode

/-!
# Filter texts and column texts

A filter reads a text by a type code, and a column of texts is read by the type of a field; each
side has rules of its own for blanks, words and the forms of dates. `TypeCode.parse_agrees` shows
that no text is read one way by a filter and another way from a column, so that a filter finds the
rows that its text came from. Of the texts of columns it refuses only a blank character and times
with a fraction.
-/

namespace SqlRecords

open Text

namespace TypeCode

/-- The types of the fields that values of the code are meant for. -/
def fields : TypeCode → List BaseType
  | text => [.text]
  | integer => [.int .i32]
  | long => [.int .i64]
  | number => [.double]
  | date => [.date, .dateTime]
  | boolean => [.bool]
  | character => [.char]

/-- The texts of columns that a filter does not know: a blank as a character, and a time that is
one with a fraction but not without. -/
def LeavesOut (code : TypeCode) (s : String) : Prop :=
  match code with
  | character => blank s = true
  | date =>
    Calendar.readDateTime? Calendar.spacedPattern (trim s).toList = none ∧
      Calendar.readDateTime? (Calendar.spacedPattern ++ [.fraction]) (trim s).toList ≠ none
  | _ => False

/-- How the code reads the text in a filter, when a column has the field's type. -/
structure Agrees (code : TypeCode) (field : BaseType) (s : String) : Prop where
  /-- From the text of the column and from the value of the filter the field takes the same. -/
  same : ∀ v x, code.parse s = .ok v → field.read (.text s) = .ok x → field.read v = .ok x
  known : ∀ x, field.read (.text s) = .ok x → (∃ v, code.parse s = .ok v) ∨ code.LeavesOut s

section Parsing

variable {code : TypeCode} {s : String} {v : Value}

theorem parse_ok_iff (other : code ≠ text) :
    code.parse s = .ok v ↔ blank s = false ∧ code.parseTrimmed (trim s).toList = .ok v := by
  unfold parse
  rw [if_neg other]
  cases blank s with
  | true => exact iff_of_false nofun fun held => by cases held.1
  | false =>
    refine ⟨fun read => ⟨rfl, mapError_ok read⟩, fun held => ?_⟩
    rw [held.2]
    rfl

theorem parseTrimmed_of_parse (parsed : code.parse s = .ok v) (other : code ≠ text) :
    code.parseTrimmed (trim s).toList = .ok v := ((parse_ok_iff other).mp parsed).2

/-- Where blanks alone are no value, to refuse them first refuses nothing more. -/
theorem parse_of_parseTrimmed (parsed : code.parseTrimmed (trim s).toList = .ok v)
    (refuses : ∀ w, code.parseTrimmed [] ≠ .ok w) : code.parse s = .ok v := by
  have other : code ≠ text := by
    rintro rfl
    exact refuses _ rfl
  have filled : blank s = false := Bool.eq_false_iff.mpr fun only => by
    rw [trim_of_blank only] at parsed
    exact refuses v parsed
  exact (parse_ok_iff other).mpr ⟨filled, parsed⟩

theorem parseInteger_ok_iff {t : IntType} {ds : List Char} {n : t.Carrier} :
    parseInteger t ds = .ok n ↔ Numeral ds n.val := by
  have reads {m : Int} : readInteger t.lo t.hi ds = .ok m ↔ _ :=
    readInteger_ok_iff t.lo_le_zero t.zero_le_hi
  constructor
  · intro parsed
    obtain ⟨m, found, kept⟩ := bind_ok parsed
    obtain ⟨numeral, fits⟩ := reads.mp (mapError_ok found)
    rw [IntType.ofInt?_of_fits fits] at kept
    obtain rfl := Except.ok.inj kept
    exact numeral
  · intro numeral
    have kept : t.ofInt? n.val = some n := IntType.ofInt?_of_fits n.property
    unfold parseInteger
    rw [reads.mpr ⟨numeral, n.property⟩]
    simp only [Except.mapError, bind, Except.bind, kept]

end Parsing

end TypeCode

/-! ### Integers -/

/-- A type within the signed 64 bits reads the numerals of its integers. -/
theorem BaseType.readInt_text_ok_iff {B : IntType} (narrow : B.hi ≤ IntType.i64.hi) {s : String}
    {n : B.Carrier} :
    readInt B (.text s) = .ok n ↔ Numeral (trim s).toList n.val := by
  constructor
  · intro read
    obtain ⟨m, found, kept⟩ := bind_ok read
    obtain ⟨numeral, -⟩ := readWide_text_ok_iff.mp found
    by_cases inside : B.lo ≤ m ∧ m ≤ B.hi
    · rw [IntType.ofInt?_of_fits inside] at kept
      obtain rfl := Except.ok.inj kept
      exact numeral
    · rw [IntType.ofInt?_of_not_fits inside] at kept
      cases kept
  · intro numeral
    have low : IntType.i64.lo ≤ n.val := Int.le_trans B.lo_i64_le n.property.1
    have found : readWide B.name (.text s) = .ok n.val :=
      readWide_text_ok_iff.mpr ⟨numeral, low, Int.le_trans n.property.2 narrow⟩
    rw [readInt_of_wide found, IntType.ofInt?_of_fits n.property]

namespace TypeCode

/-- The code is for integers of the type, which is within the signed 64 bits. -/
structure IsFor (code : TypeCode) (t : IntType) : Prop where
  parses : ∀ ds, code.parseTrimmed ds = (parseInteger t ds).map (BaseType.ofInt t)
  other : code ≠ text
  narrow : t.hi ≤ IntType.i64.hi

theorem isFor_integer : IsFor integer .i32 := ⟨fun _ => rfl, nofun, by decide⟩

theorem isFor_long : IsFor long .i64 := ⟨fun _ => rfl, nofun, by decide⟩

section Integers

variable {code : TypeCode} {t : IntType} (isFor : IsFor code t)

include isFor

theorem parseTrimmed_int_ok_iff {ds : List Char} {v : Value} :
    code.parseTrimmed ds = .ok v ↔ ∃ n : t.Carrier, Numeral ds n.val ∧ v = BaseType.ofInt t n := by
  rw [isFor.parses]
  constructor
  · intro read
    obtain ⟨n, parsed, rfl⟩ := map_ok read
    exact ⟨n, parseInteger_ok_iff.mp parsed, rfl⟩
  · rintro ⟨n, numeral, rfl⟩
    rw [parseInteger_ok_iff.mpr numeral]
    rfl

theorem parse_int_ok_iff {s : String} {v : Value} :
    code.parse s = .ok v ↔
      ∃ n : t.Carrier, Numeral (trim s).toList n.val ∧ v = BaseType.ofInt t n := by
  rw [← parseTrimmed_int_ok_iff isFor]
  refine ⟨fun parsed => parseTrimmed_of_parse parsed isFor.other, fun parsed => ?_⟩
  refine parse_of_parseTrimmed parsed fun w empty => ?_
  obtain ⟨n, numeral, -⟩ := (parseTrimmed_int_ok_iff isFor).mp empty
  exact not_numeral_nil numeral

theorem accepts_int_iff (s : String) :
    (∃ v, code.parse s = .ok v) ↔ ∃ x, (BaseType.int t).read (.text s) = .ok x := by
  constructor
  · rintro ⟨v, parsed⟩
    obtain ⟨n, numeral, -⟩ := (parse_int_ok_iff isFor).mp parsed
    exact ⟨n, (BaseType.readInt_text_ok_iff isFor.narrow).mpr numeral⟩
  · rintro ⟨n, read⟩
    have numeral := (BaseType.readInt_text_ok_iff isFor.narrow).mp read
    exact ⟨_, (parse_int_ok_iff isFor).mpr ⟨n, numeral, rfl⟩⟩

theorem agrees_int (s : String) : Agrees code (.int t) s where
  same v x parsed read := by
    obtain ⟨n, numeral, rfl⟩ := (parse_int_ok_iff isFor).mp parsed
    have taken := (BaseType.readInt_text_ok_iff isFor.narrow).mpr numeral
    obtain rfl := Except.ok.inj (taken.symm.trans read)
    exact BaseType.readInt_of_fits (Int.le_trans n.property.2 isFor.narrow) n.property
  known x read := .inl ((accepts_int_iff isFor s).mpr ⟨x, read⟩)

end Integers

/-! ### Words and characters -/

theorem agrees_text (s : String) : Agrees text .text s where
  same v x parsed read := by
    obtain rfl := Except.ok.inj parsed
    exact read
  known _ _ := .inl ⟨_, rfl⟩

theorem parseTrimmed_of_readDouble {s : String} {x : Float}
    (read : BaseType.readDouble (.text s) = .ok x) :
    number.parseTrimmed (trim s).toList = .ok (.double x) := by
  unfold BaseType.readDouble at read
  dsimp only at read
  unfold parseTrimmed
  dsimp only
  rw [mapError_ok read]
  rfl

theorem agrees_number (s : String) : Agrees number .double s where
  same v x parsed read := by
    have parsed := parseTrimmed_of_parse parsed nofun
    obtain rfl := Except.ok.inj (parsed.symm.trans (parseTrimmed_of_readDouble read))
    rfl
  known x read := .inl ⟨_, parse_of_parseTrimmed (parseTrimmed_of_readDouble read) nofun⟩

/-- Every word that a column of texts may have for yes or no means the same in a filter. -/
theorem parseTrimmed_of_readBool {s : String} {b : Bool}
    (read : BaseType.readBool (.text s) = .ok b) :
    boolean.parseTrimmed (trim s).toList = .ok (.bool b) := by
  simp only [BaseType.readBool] at read
  simp only [parseTrimmed, String.ofList_toList]
  generalize (trim s).toLower = word at read
  split at read
  case isTrue yes =>
    obtain rfl := Except.ok.inj read
    have member : word ∈ trueWords := by
      obtain rfl | rfl := yes
      all_goals decide
    rw [if_pos member]
  case isFalse =>
    split at read
    case isTrue no =>
      obtain rfl := Except.ok.inj read
      have absent : word ∉ trueWords := by
        obtain rfl | rfl := no
        all_goals decide
      have member : word ∈ falseWords := by
        obtain rfl | rfl := no
        all_goals decide
      rw [if_neg absent, if_pos member]
    case isFalse => cases read

theorem agrees_boolean (s : String) : Agrees boolean .bool s where
  same v b parsed read := by
    have parsed := parseTrimmed_of_parse parsed nofun
    obtain rfl := Except.ok.inj (parsed.symm.trans (parseTrimmed_of_readBool read))
    rfl
  known b read := by
    have empty : boolean.parseTrimmed [] = .error .notYesOrNo := by
      have word : (String.ofList []).toLower = "" := by decide +kernel
      simp only [parseTrimmed, word]
      rfl
    refine .inl ⟨_, parse_of_parseTrimmed (parseTrimmed_of_readBool read) fun w parsed => ?_⟩
    cases empty.symm.trans parsed

theorem parseTrimmed_of_readChar {s : String} {c : Char} (filled : blank s = false)
    (read : BaseType.readChar (.text s) = .ok c) :
    character.parseTrimmed (trim s).toList = .ok (.char c) := by
  simp only [BaseType.readChar] at read
  split at read
  case h_2 => cases read
  case h_1 d alone =>
    obtain rfl := Except.ok.inj read
    have solid : ∀ e ∈ s.toList, isBlank e = false := by
      rw [blank, alone, List.all_cons, List.all_nil, Bool.and_true] at filled
      rw [alone]
      exact List.forall_mem_singleton.mpr filled
    rw [trim_of_solid solid, alone]
    rfl

theorem agrees_character (s : String) : Agrees character .char s where
  same v c parsed read := by
    obtain ⟨filled, parsed⟩ := (parse_ok_iff (show character ≠ text from nofun)).mp parsed
    obtain rfl := Except.ok.inj (parsed.symm.trans (parseTrimmed_of_readChar filled read))
    rfl
  known c read := by
    cases filled : blank s with
    | true => exact .inr filled
    | false =>
      have parsed := parseTrimmed_of_readChar filled read
      exact .inl ⟨_, (parse_ok_iff (show character ≠ text from nofun)).mpr ⟨filled, parsed⟩⟩

end TypeCode

/-! ### Dates and times -/

section Times

open Calendar

variable {s : List Char} {v : Value}

/-- A clock has two colons and no offset. -/
theorem BaseType.timeOfText?_of_marks (other : marks s ≠ 2) :
    timeOfText? s = (readDate? s).map .ofDate := by
  have spaced : readDateTime? spacedPattern s = none := readDateTime?_eq_none other
  have joined : readDateTime? joinedPattern s = none := readDateTime?_eq_none other
  have precise : readDateTime? (spacedPattern ++ [.fraction]) s = none :=
    readDateTime?_eq_none other
  rw [timeOfText?, spaced, joined, precise, Option.none_or, Option.none_or, Option.none_or]

theorem BaseType.timeOfText?_of_date {d : Date} (read : readDate? s = some d) :
    timeOfText? s = some (.ofDate d) := by
  have none := marks_of_readDate? read
  rw [timeOfText?_of_marks (by omega), read, Option.map_some]

/-- Columns of texts hold no time with an offset. -/
theorem BaseType.timeOfText?_of_zoned {t : DateTime} (read : readZoned? s = some t) :
    timeOfText? s = none := by
  have three := marks_of_readZoned? read
  rw [timeOfText?_of_marks (by omega), readDate?_eq_none (by omega), Option.map_none]

/-- No column reads another date or time from the text than a filter does. -/
theorem TypeCode.dateOfText?_cases (read : dateOfText? s = some v) :
    (∃ d, v = .date d ∧ readDate? s = some d) ∨
      ∃ t, v = .dateTime t ∧ readDate? s = none ∧
        ∀ u, BaseType.timeOfText? s = some u → u = t := by
  rw [dateOfText?, Option.or_eq_some_iff] at read
  obtain date | ⟨none, time⟩ := read
  · obtain ⟨d, found, rfl⟩ := Option.map_eq_some_iff.mp date
    exact .inl ⟨d, rfl, found⟩
  · obtain ⟨t, found, rfl⟩ := Option.map_eq_some_iff.mp time
    refine .inr ⟨t, rfl, Option.map_eq_none_iff.mp none, fun u other => ?_⟩
    rw [BaseType.timeOfText?] at other
    -- Both sides try a blank before the clock first and then a letter.
    cases spaced : readDateTime? spacedPattern s with
    | some w =>
      rw [spaced, Option.some_or] at found other
      exact Option.some.inj (other.symm.trans found)
    | none =>
      cases joined : readDateTime? joinedPattern s with
      | some w =>
        rw [spaced, joined, Option.none_or, Option.some_or] at found other
        exact Option.some.inj (other.symm.trans found)
      | none =>
        rw [spaced, joined, Option.none_or, Option.none_or] at found
        cases other.symm.trans (BaseType.timeOfText?_of_zoned found)

/-- A column reads more texts as times than a filter does, but only by their fractions. -/
theorem TypeCode.dateOfText?_eq_none (unread : dateOfText? s = none) :
    readDate? s = none ∧ readDateTime? spacedPattern s = none ∧
      BaseType.timeOfText? s = readDateTime? (spacedPattern ++ [.fraction]) s := by
  simp only [dateOfText?, Option.or_eq_none_iff, Option.map_eq_none_iff] at unread
  obtain ⟨date, spaced, joined, -⟩ := unread
  refine ⟨date, spaced, ?_⟩
  rw [BaseType.timeOfText?, spaced, joined, date, Option.none_or, Option.none_or, Option.map_none,
    Option.or_none]

end Times

namespace TypeCode

theorem parseTrimmed_date_ok_iff {ds : List Char} {v : Value} :
    date.parseTrimmed ds = .ok v ↔ dateOfText? ds = some v := by
  simp only [parseTrimmed]
  cases dateOfText? ds with
  | none => exact iff_of_false nofun nofun
  | some w => rw [Except.ok.injEq, Option.some.injEq]

theorem known_date {s : String} (accepted : ¬ (Calendar.readDate? (trim s).toList = none ∧
      BaseType.timeOfText? (trim s).toList = none)) :
    (∃ v, date.parse s = .ok v) ∨ date.LeavesOut s := by
  cases found : dateOfText? (trim s).toList with
  | some v =>
    exact .inl ⟨v, parse_of_parseTrimmed (parseTrimmed_date_ok_iff.mpr found) fun w empty => by
      cases parseTrimmed_date_ok_iff.mp empty⟩
  | none =>
    obtain ⟨none, spaced, time⟩ := dateOfText?_eq_none found
    rw [time] at accepted
    exact .inr ⟨spaced, fun unread => accepted ⟨none, unread⟩⟩

theorem agrees_date (s : String) : Agrees date .date s where
  same v d parsed read := by
    have parsed := parseTrimmed_of_parse parsed nofun
    change BaseType.readDate (.text s) = .ok d at read
    have read := BaseType.readDate_text_ok_iff.mp read
    obtain ⟨e, rfl, found⟩ | ⟨t, rfl, none, same⟩ :=
      dateOfText?_cases (parseTrimmed_date_ok_iff.mp parsed)
    · rw [found, Option.some_or] at read
      exact congrArg Except.ok (Option.some.inj read)
    · rw [none, Option.none_or] at read
      obtain ⟨u, time, rfl⟩ := Option.map_eq_some_iff.mp read
      rw [same u time]
      rfl
  known d read := by
    refine known_date fun refused => ?_
    change BaseType.readDate (.text s) = .ok d at read
    have read := BaseType.readDate_text_ok_iff.mp read
    rw [refused.1, refused.2] at read
    cases read

theorem agrees_dateTime (s : String) : Agrees date .dateTime s where
  same v t parsed read := by
    have parsed := parseTrimmed_of_parse parsed nofun
    change BaseType.readDateTime (.text s) = .ok t at read
    have read := BaseType.readDateTime_text_ok_iff.mp read
    obtain ⟨d, rfl, found⟩ | ⟨u, rfl, -, same⟩ :=
      dateOfText?_cases (parseTrimmed_date_ok_iff.mp parsed)
    · rw [BaseType.timeOfText?_of_date found] at read
      exact congrArg Except.ok (Option.some.inj read)
    · rw [same t read]
      rfl
  known t read := by
    refine known_date fun refused => ?_
    change BaseType.readDateTime (.text s) = .ok t at read
    have read := BaseType.readDateTime_text_ok_iff.mp read
    rw [refused.2] at read
    cases read

/-! ### Agreement -/

theorem agrees {code : TypeCode} {field : BaseType} (meant : field ∈ code.fields) (s : String) :
    Agrees code field s := by
  cases code with
  | text =>
    obtain rfl := List.mem_singleton.mp meant
    exact agrees_text s
  | integer =>
    obtain rfl := List.mem_singleton.mp meant
    exact agrees_int isFor_integer s
  | long =>
    obtain rfl := List.mem_singleton.mp meant
    exact agrees_int isFor_long s
  | number =>
    obtain rfl := List.mem_singleton.mp meant
    exact agrees_number s
  | date =>
    obtain rfl | rfl := List.mem_pair.mp meant
    · exact agrees_date s
    · exact agrees_dateTime s
  | boolean =>
    obtain rfl := List.mem_singleton.mp meant
    exact agrees_boolean s
  | character =>
    obtain rfl := List.mem_singleton.mp meant
    exact agrees_character s

/-- A filter and a column never read a text as two different values, whatever blanks, words and
forms of dates each of them knows. As integers they accept the same texts. Of the other texts of
columns a filter refuses none but a blank character and times with a fraction. -/
theorem parse_agrees {code : TypeCode} {field : BaseType} (meant : field ∈ code.fields)
    (s : String) :
    (∀ v x, code.parse s = .ok v → field.read (.text s) = .ok x → field.read v = .ok x) ∧
    (code = integer ∨ code = long →
      ((∃ v, code.parse s = .ok v) ↔ ∃ x, field.read (.text s) = .ok x)) ∧
    ∀ x, field.read (.text s) = .ok x → (∃ v, code.parse s = .ok v) ∨ code.LeavesOut s := by
  refine ⟨(agrees meant s).same, ?_, (agrees meant s).known⟩
  rintro (rfl | rfl)
  · obtain rfl := List.mem_singleton.mp meant
    exact accepts_int_iff isFor_integer s
  · obtain rfl := List.mem_singleton.mp meant
    exact accepts_int_iff isFor_long s

/-- A leap second between blanks is the same time in a filter and in a column. -/
theorem parse_agrees_leapSecond :
    BaseType.dateTime ∈ date.fields ∧
    ∃ t, date.parse " 2016-12-31 23:59:60 " = .ok (.dateTime t) ∧
      BaseType.dateTime.read (.text " 2016-12-31 23:59:60 ") = .ok t := by
  have meant : BaseType.dateTime ∈ date.fields := by decide
  obtain ⟨t, parsed⟩ : ∃ t, date.parse " 2016-12-31 23:59:60 " = .ok (.dateTime t) := ⟨_, rfl⟩
  obtain ⟨u, read⟩ : ∃ u, BaseType.dateTime.read (.text " 2016-12-31 23:59:60 ") = .ok u :=
    ⟨_, rfl⟩
  have same := (parse_agrees meant _).1 _ u parsed read
  obtain rfl : t = u := Except.ok.inj same
  exact ⟨meant, t, parsed, read⟩

end TypeCode

end SqlRecords
