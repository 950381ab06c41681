import SqlRecords.Proofs.Mapping.Filling
import SqlRecords.Proofs.Row

/-!
# Reading a row without a registry

The plain procedure: walk the description of a type, put the column of each field that is the first
of its name into a blank record, and stop at the first error. `Mapper.mapRow_eq_iff` shows that a
mapper whose entries are the field table does exactly this.
-/

namespace SqlRecords

namespace RecordType

/-- What putting the column of a field into the record `r` comes to. -/
inductive Puts (T : RecordType) (row : Row) (r : T.Carrier) (f : Field) :
    Except MappingError T.Carrier → Prop where
  | absent (lacks : row.Lacks f.column) : Puts T row r f (.ok r)
  | notConverted {raw : Value} {c : Converter} {e : ConversionError}
      (holds : row.Holds f.column raw) (through : f.converter = some c)
      (failed : c.convert raw = .error e) :
      Puts T row r f (.error (.converter T.name f.name c.name e))
  | notAssigned {raw v : Value} {e : ConversionError}
      (holds : row.Holds f.column raw) (converted : Converts f.converter raw v)
      (failed : T.assign r f.name v = .error e) :
      Puts T row r f (.error (.assignment T.name f.name f.column e))
  | noAccessor {raw v : Value}
      (holds : row.Holds f.column raw) (converted : Converts f.converter raw v)
      (unknown : T.assign r f.name v = .ok none) :
      Puts T row r f (.error (.noAccessor T.name f.name))
  | assigned {raw v : Value} {r' : T.Carrier}
      (holds : row.Holds f.column raw) (converted : Converts f.converter raw v)
      (written : T.assign r f.name v = .ok (some r')) : Puts T row r f (.ok r')

/-- What walking the fields `rest` comes to, which stand behind the fields `before`. -/
inductive Walks (T : RecordType) (row : Row) :
    (before rest : List Field) → T.Carrier → Except MappingError T.Carrier → Prop where
  | done {before : List Field} {r : T.Carrier} : Walks T row before [] r (.ok r)
  | again {before rest : List Field} {f : Field} {r : T.Carrier}
      {outcome : Except MappingError T.Carrier} (repeated : ∃ g ∈ before, g.name = f.name)
      (later : Walks T row (before ++ [f]) rest r outcome) :
      Walks T row before (f :: rest) r outcome
  | failed {before rest : List Field} {f : Field} {r : T.Carrier} {e : MappingError}
      (first : ∀ g ∈ before, g.name ≠ f.name) (here : T.Puts row r f (.error e)) :
      Walks T row before (f :: rest) r (.error e)
  | put {before rest : List Field} {f : Field} {r r' : T.Carrier}
      {outcome : Except MappingError T.Carrier} (first : ∀ g ∈ before, g.name ≠ f.name)
      (here : T.Puts row r f (.ok r')) (later : Walks T row (before ++ [f]) rest r' outcome) :
      Walks T row before (f :: rest) r outcome

/-- What reading a row comes to: the walk over all fields from a blank record. -/
inductive Reads (T : RecordType) (row : Row) : Except MappingError T.Carrier → Prop where
  | noBlank {e : MappingError} (failed : T.blank = .error e) : Reads T row (.error e)
  | walked {r : T.Carrier} {outcome : Except MappingError T.Carrier} (blank : T.blank = .ok r)
      (walk : T.Walks row [] T.fields r outcome) : Reads T row outcome

end RecordType

namespace Mapper

open RecordType

variable {T : RecordType} {row : Row}

/-! ### One field -/

theorem fill_of_lacks {type : String} {f : Field} {c : Option Converter} (r : T.Carrier)
    (lacks : row.Lacks f.column) : fill T type row r (f, c) = .ok r := by
  rw [fill, Row.get?_eq_none_iff.mpr lacks]

theorem fill_of_holds {type : String} {f : Field} {c : Option Converter} {raw : Value}
    (r : T.Carrier) (holds : row.Holds f.column raw) :
    fill T type row r (f, c) = prepare type f c raw >>= put T type r f := by
  rw [fill, Row.get?_eq_some_iff.mpr holds]

theorem puts_fill (r : T.Carrier) (f : Field) :
    T.Puts row r f (fill T T.name row r (f, f.converter)) := by
  cases found : row.get? f.column with
  | none =>
    have lacks := Row.get?_eq_none_iff.mp found
    rw [fill_of_lacks r lacks]
    exact .absent lacks
  | some raw =>
    have holds := Row.get?_eq_some_iff.mp found
    rw [fill_of_holds r holds]
    cases prepared : prepare T.name f f.converter raw with
    | error e =>
      -- Only a converter can fail here, and the error names it.
      cases through : f.converter with
      | none =>
        rw [through] at prepared
        cases prepared
      | some c =>
        rw [through, prepare] at prepared
        cases converted : c.convert raw with
        | ok v =>
          rw [converted] at prepared
          cases prepared
        | error source =>
          rw [converted] at prepared
          obtain rfl := Except.error.inj prepared
          exact .notConverted holds through converted
    | ok v =>
      have converted := prepare_ok_iff.mp prepared
      change T.Puts row r f (put T T.name r f v)
      cases assigned : T.assign r f.name v with
      | error e =>
        rw [put, assigned]
        exact .notAssigned holds converted assigned
      | ok written =>
        cases written with
        | none =>
          rw [put, assigned]
          exact .noAccessor holds converted assigned
        | some r' =>
          rw [put, assigned]
          exact .assigned holds converted assigned

theorem fill_of_puts {r : T.Carrier} {f : Field} {outcome : Except MappingError T.Carrier}
    (puts : T.Puts row r f outcome) : fill T T.name row r (f, f.converter) = outcome := by
  have prepared : ∀ {raw v : Value}, Converts f.converter raw v →
      prepare T.name f f.converter raw = .ok v := prepare_ok_iff.mpr
  cases puts with
  | absent lacks => exact fill_of_lacks r lacks
  | notConverted holds through failed =>
    rw [fill_of_holds r holds, through, prepare, failed]
    rfl
  | notAssigned holds converted failed =>
    rw [fill_of_holds r holds, prepared converted]
    change put T T.name r f _ = _
    rw [put, failed]
  | noAccessor holds converted unknown =>
    rw [fill_of_holds r holds, prepared converted]
    change put T T.name r f _ = _
    rw [put, unknown]
  | assigned holds converted written =>
    rw [fill_of_holds r holds, prepared converted]
    change put T T.name r f _ = _
    rw [put, written]

theorem fill_eq_iff {r : T.Carrier} {f : Field} {outcome : Except MappingError T.Carrier} :
    fill T T.name row r (f, f.converter) = outcome ↔ T.Puts row r f outcome :=
  ⟨fun filled => filled ▸ puts_fill r f, fill_of_puts⟩

theorem puts_unique {r : T.Carrier} {f : Field} {x y : Except MappingError T.Carrier}
    (left : T.Puts row r f x) (right : T.Puts row r f y) : x = y :=
  (fill_of_puts left).symm.trans (fill_of_puts right)

/-! ### The walk, step by step -/

section Steps

variable {before rest : List Field} {f : Field} {r r' : T.Carrier} {e : MappingError}
  {outcome : Except MappingError T.Carrier}

theorem walks_nil_iff : T.Walks row before [] r outcome ↔ outcome = .ok r := by
  constructor
  · intro walk
    cases walk with
    | done => rfl
  · rintro rfl
    exact .done

theorem walks_cons_of_repeated (repeated : ∃ g ∈ before, g.name = f.name) :
    T.Walks row before (f :: rest) r outcome ↔ T.Walks row (before ++ [f]) rest r outcome := by
  constructor
  · intro walk
    obtain ⟨g, member, same⟩ := repeated
    cases walk with
    | again _ later => exact later
    | failed first => exact absurd same (first g member)
    | put first => exact absurd same (first g member)
  · exact .again repeated

theorem walks_cons_of_error (first : ∀ g ∈ before, g.name ≠ f.name)
    (here : T.Puts row r f (.error e)) :
    T.Walks row before (f :: rest) r outcome ↔ outcome = .error e := by
  constructor
  · intro walk
    cases walk with
    | again repeated =>
      obtain ⟨g, member, same⟩ := repeated
      exact absurd same (first g member)
    | failed _ there => exact puts_unique there here
    | put _ there => cases puts_unique there here
  · rintro rfl
    exact .failed first here

theorem walks_cons_of_ok (first : ∀ g ∈ before, g.name ≠ f.name) (here : T.Puts row r f (.ok r')) :
    T.Walks row before (f :: rest) r outcome ↔ T.Walks row (before ++ [f]) rest r' outcome := by
  constructor
  · intro walk
    cases walk with
    | again repeated =>
      obtain ⟨g, member, same⟩ := repeated
      exact absurd same (first g member)
    | failed _ there => cases puts_unique there here
    | put _ there later =>
      obtain rfl := Except.ok.inj (puts_unique there here)
      exact later
  · exact .put first here

end Steps

/-! ### All fields -/

/-- The entries of a field table that are left when the names `seen` are taken. -/
def fillFirsts (T : RecordType) (row : Row) (seen : List String) (fs : List Field) (r : T.Carrier) :
    Except MappingError T.Carrier :=
  ((FieldTable.firstsFrom seen fs).map fun f => (f, f.converter)).foldlM (fill T T.name row) r

theorem fillFirsts_of_mem {seen : List String} {f : Field} (rest : List Field) (r : T.Carrier)
    (taken : f.name ∈ seen) :
    fillFirsts T row seen (f :: rest) r = fillFirsts T row seen rest r := by
  rw [fillFirsts, FieldTable.firstsFrom, if_pos taken]
  rfl

theorem fillFirsts_of_not_mem {seen : List String} {f : Field} (rest : List Field) (r : T.Carrier)
    (fresh : f.name ∉ seen) :
    fillFirsts T row seen (f :: rest) r =
      fill T T.name row r (f, f.converter) >>= fillFirsts T row (f.name :: seen) rest := by
  rw [fillFirsts, FieldTable.firstsFrom, if_neg fresh, List.map_cons, List.foldlM_cons]
  rfl

theorem exists_name_append {before : List Field} {f : Field} {name : String} :
    (∃ g ∈ before ++ [f], g.name = name) ↔ f.name = name ∨ ∃ g ∈ before, g.name = name := by
  simp only [List.mem_append, List.mem_singleton]
  constructor
  · rintro ⟨g, earlier | rfl, same⟩
    · exact .inr ⟨g, earlier, same⟩
    · exact .inl same
  · rintro (same | ⟨g, earlier, same⟩)
    · exact ⟨f, .inr rfl, same⟩
    · exact ⟨g, .inl earlier, same⟩

/-- Filling the first field of each name is the walk over all of them, as long as the names that are
taken are those of the fields before. -/
theorem fillFirsts_eq_iff {seen : List String} {before rest : List Field} {r : T.Carrier}
    {outcome : Except MappingError T.Carrier}
    (taken : ∀ name, name ∈ seen ↔ ∃ g ∈ before, g.name = name) :
    fillFirsts T row seen rest r = outcome ↔ T.Walks row before rest r outcome := by
  induction rest generalizing seen before r with
  | nil => rw [walks_nil_iff, eq_comm]; rfl
  | cons f rest ih =>
    by_cases old : f.name ∈ seen
    · have repeated := (taken f.name).mp old
      have still : ∀ name, name ∈ seen ↔ ∃ g ∈ before ++ [f], g.name = name := by
        intro name
        rw [exists_name_append, ← taken name]
        exact ⟨.inr, fun held => held.elim (fun same => same ▸ old) id⟩
      rw [fillFirsts_of_mem rest r old, walks_cons_of_repeated repeated]
      exact ih still
    · have first : ∀ g ∈ before, g.name ≠ f.name := fun g member same =>
        old ((taken f.name).mpr ⟨g, member, same⟩)
      have now : ∀ name, name ∈ f.name :: seen ↔ ∃ g ∈ before ++ [f], g.name = name := by
        intro name
        rw [exists_name_append, List.mem_cons, taken name, eq_comm]
      rw [fillFirsts_of_not_mem rest r old]
      cases filled : fill T T.name row r (f, f.converter) with
      | error e =>
        rw [walks_cons_of_error first (fill_eq_iff.mp filled)]
        exact eq_comm
      | ok r' =>
        rw [walks_cons_of_ok first (fill_eq_iff.mp filled)]
        exact ih now

/-- A mapper that fills the entries of the field table, each through its own converter, reads a row
as the walk over the description does. -/
theorem mapRow_eq_iff {outcome : Except MappingError T.Carrier} :
    mapRow ⟨T.name, (FieldTable.ofType T).entries.map fun f => (f, f.converter)⟩ T row = outcome ↔
      T.Reads row outcome := by
  have unfolded :
      mapRow ⟨T.name, (FieldTable.ofType T).entries.map fun f => (f, f.converter)⟩ T row =
        T.blank >>= fillFirsts T row [] T.fields := rfl
  have taken : ∀ name, name ∈ [] ↔ ∃ g ∈ ([] : List Field), g.name = name := by simp
  rw [unfolded]
  cases blank : T.blank with
  | error e =>
    constructor
    · rintro rfl
      exact .noBlank blank
    · intro reads
      cases reads with
      | noBlank failed => exact blank.symm.trans failed
      | walked made => cases blank.symm.trans made
  | ok r =>
    constructor
    · intro filled
      exact .walked blank ((fillFirsts_eq_iff taken).mp filled)
    · intro reads
      cases reads with
      | noBlank failed => cases blank.symm.trans failed
      | walked made walk =>
        obtain rfl := Except.ok.inj (blank.symm.trans made)
        exact (fillFirsts_eq_iff taken).mpr walk

end Mapper

end SqlRecords
