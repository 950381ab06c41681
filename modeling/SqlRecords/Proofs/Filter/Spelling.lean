import SqlRecords.Proofs.Filter.Key

/-!
# Keys and how they are spelled

`FilterKey.spelling` writes a key from what it names. `FilterKey.parse_undoes_spelling` shows that
parsing undoes it: a key that is parsed is spelled by what it is parsed to, a spelled key is parsed
unless its value does not convert, and any other key is rejected for a reason that its value has no
part in.
-/

namespace SqlRecords.FilterKey

/-- The type code if there is one, the match code and the field, with dashes between. -/
def spelling (type : Option TypeCode) (code : MatchCode) (field : String) : String :=
  "-".intercalate (type.toList.map TypeCode.code ++ [code.code, field])

theorem spelling_ordering (code : MatchCode) (field : String) :
    spelling none code field = code.code ++ "-" ++ field := by
  simp [spelling]

theorem spelling_predicate (type : TypeCode) (code : MatchCode) (field : String) :
    spelling (some type) code field = type.code ++ "-" ++ (code.code ++ "-" ++ field) := by
  simp [spelling]

theorem names_iff {key field : String} {type : Option TypeCode} {code : MatchCode} :
    Names key type code field ↔
      key = spelling type code field ∧ code.isOrdering = type.isNone ∧ field ≠ "" := by
  constructor
  · intro names
    refine ⟨?_, names.isOrdering, ?_⟩
    · cases names with
      | ordering => exact (spelling_ordering _ _).symm
      | predicate => exact (spelling_predicate _ _ _).symm
    · cases names with
      | ordering _ named => exact named
      | predicate _ named => exact named
  · rintro ⟨rfl, kind, named⟩
    cases type with
    | none =>
      rw [spelling_ordering]
      exact .ordering kind named
    | some type =>
      rw [spelling_predicate]
      exact .predicate kind named

/-! ### Values that convert -/

/-- The operand that a value is for a type and a code: it is read whole as the type, or for a
membership or a range piece by piece. -/
inductive Converts (type : TypeCode) (code : MatchCode) (raw : String) : Operand → Prop where
  | whole {v : Value} (one : code ∉ [.among, .notAmong, .between])
      (read : type.parse raw = .ok v) : Converts type code raw (.one v)
  | pieces {vs : List Value} (lists : code ∈ [.among, .notAmong, .between])
      (read : List.Forall₂ (fun piece v => type.parse piece = .ok v) (Text.split ',' raw) vs) :
      Converts type code raw (.many vs)

/-- Why a value does not convert: it cannot be read as the type, or the first of its pieces that
cannot be. -/
inductive Misfits (type : TypeCode) (code : MatchCode) (raw : String) : ConversionError → Prop where
  | whole {cause : ConversionError} (one : code ∉ [.among, .notAmong, .between])
      (unread : type.parse raw = .error cause) : Misfits type code raw cause
  | piece {cause : ConversionError} {before after : List String} {piece : String}
      (lists : code ∈ [.among, .notAmong, .between])
      (split : Text.split ',' raw = before ++ piece :: after)
      (earlier : ∀ other ∈ before, ∃ v, type.parse other = .ok v)
      (unread : type.parse piece = .error cause) : Misfits type code raw cause

variable {key raw : String} {type : TypeCode} {code : MatchCode}

theorem convert_ok_iff {piece : String} {v : Value} :
    convert key type piece = .ok v ↔ type.parse piece = .ok v := by
  rw [convert]
  constructor
  · exact mapError_ok
  · intro read
    rw [read]
    rfl

theorem convert_error_iff {piece : String} {e : StatementError} :
    convert key type piece = .error e ↔
      ∃ cause, type.parse piece = .error cause ∧ e = .conversion key cause := by
  rw [convert]
  constructor
  · intro failed
    cases unread : type.parse piece with
    | ok v =>
      rw [unread] at failed
      cases failed
    | error cause =>
      rw [unread] at failed
      exact ⟨cause, rfl, (Except.error.inj failed).symm⟩
  · rintro ⟨cause, unread, rfl⟩
    rw [unread]
    rfl

theorem operandOf_of_lists (lists : code ∈ [.among, .notAmong, .between]) :
    operandOf key type code raw = ((Text.split ',' raw).mapM (convert key type)).map .many :=
  if_pos (code.splits_iff.mpr lists)

theorem operandOf_of_one (one : code ∉ [.among, .notAmong, .between]) :
    operandOf key type code raw = (convert key type raw).map .one := by
  rw [operandOf, code.not_splits_iff.mpr one]
  rfl

theorem operandOf_ok_iff {operand : Operand} :
    operandOf key type code raw = .ok operand ↔ Converts type code raw operand := by
  constructor
  · intro made
    by_cases lists : code ∈ [.among, .notAmong, .between]
    · rw [operandOf_of_lists lists] at made
      obtain ⟨vs, converted, rfl⟩ := map_ok made
      exact .pieces lists ((forall₂_of_mapM converted).imp fun _ _ read => convert_ok_iff.mp read)
    · rw [operandOf_of_one lists] at made
      obtain ⟨v, converted, rfl⟩ := map_ok made
      exact .whole lists (convert_ok_iff.mp converted)
  · intro converts
    cases converts with
    | whole one read =>
      rw [operandOf_of_one one, convert_ok_iff.mpr read]
      rfl
    | pieces lists read =>
      have converted : List.Forall₂ (fun piece v => convert key type piece = .ok v)
          (Text.split ',' raw) _ := read.imp fun _ _ parsed => convert_ok_iff.mpr parsed
      rw [operandOf_of_lists lists, mapM_of_forall₂ converted]
      rfl

theorem operandOf_error_iff {e : StatementError} :
    operandOf key type code raw = .error e ↔
      ∃ cause, Misfits type code raw cause ∧ e = .conversion key cause := by
  constructor
  · intro failed
    by_cases lists : code ∈ [.among, .notAmong, .between]
    · rw [operandOf_of_lists lists] at failed
      obtain ⟨before, piece, after, split, earlier, failed⟩ := mapM_error_iff.mp (map_error failed)
      obtain ⟨cause, unread, rfl⟩ := convert_error_iff.mp failed
      refine ⟨cause, .piece lists split (fun other member => ?_) unread, rfl⟩
      obtain ⟨v, converted⟩ := earlier other member
      exact ⟨v, convert_ok_iff.mp converted⟩
    · rw [operandOf_of_one lists] at failed
      obtain ⟨cause, unread, rfl⟩ := convert_error_iff.mp (map_error failed)
      exact ⟨cause, .whole lists unread, rfl⟩
  · rintro ⟨cause, misfits, rfl⟩
    cases misfits with
    | whole one unread =>
      rw [operandOf_of_one one, convert_error_iff.mpr ⟨cause, unread, rfl⟩]
      rfl
    | piece lists split earlier unread =>
      have failed : (Text.split ',' raw).mapM (convert key type) =
          .error (.conversion key cause) := by
        refine mapM_error_iff.mpr ⟨_, _, _, split, fun other member => ?_,
          convert_error_iff.mpr ⟨cause, unread, rfl⟩⟩
        obtain ⟨v, read⟩ := earlier other member
        exact ⟨v, convert_ok_iff.mpr read⟩
      rw [operandOf_of_lists lists, failed]
      rfl

/-! ### Keys that name nothing -/

/-- A key that names nothing, and the error that says so: a code that is none of its kind, or a part
that is missing. -/
inductive Misnames : String → StatementError → Prop where
  | undashed {key : String} (undashed : '-' ∉ key.toList) : Misnames key (.malformedKey key)
  /-- What begins with an `O` is meant for the code of an ordering. -/
  | ordering {head rest : String} (undashed : '-' ∉ head.toList)
      (begins : head.toList.head? = some 'O')
      (unknown : ∀ code : MatchCode, code.isOrdering = true → code.code ≠ head) :
      Misnames (head ++ "-" ++ rest) (.unknownOperator head)
  | type {head rest : String} (undashed : '-' ∉ head.toList)
      (begins : head.toList.head? ≠ some 'O') (unknown : ∀ type : TypeCode, type.code ≠ head) :
      Misnames (head ++ "-" ++ rest) (.unknownType head)
  | codeless {type : TypeCode} {rest : String} (undashed : '-' ∉ rest.toList) :
      Misnames (type.code ++ "-" ++ rest) (.malformedKey (type.code ++ "-" ++ rest))
  | operator {type : TypeCode} {head rest : String} (undashed : '-' ∉ head.toList)
      (unknown : ∀ code : MatchCode, code.isOrdering = false → code.code ≠ head) :
      Misnames (type.code ++ "-" ++ (head ++ "-" ++ rest)) (.unknownOperator head)
  | fieldless {type : Option TypeCode} {code : MatchCode} (kind : code.isOrdering = type.isNone) :
      Misnames (spelling type code "") (.malformedKey (spelling type code ""))

theorem parse_of_misnames {e : StatementError} (misnames : Misnames key e) (raw : String) :
    parse key raw = .error e := by
  cases misnames with
  | undashed undashed => rw [parse, Text.splitFirst_eq_none_iff.mpr undashed]
  | ordering undashed begins unknown =>
    rw [parse_cut undashed, if_pos begins, parseOrdering,
      MatchCode.filter_ofCode?_eq_none_iff.mpr unknown]
  | type undashed begins unknown =>
    rw [parse_cut undashed, if_neg begins, parsePredicate, TypeCode.ofCode?_eq_none_iff.mpr unknown]
  | codeless undashed =>
    rw [parse_type, parsePredicate, TypeCode.ofCode?_code]
    simp only [Text.splitFirst_eq_none_iff.mpr undashed]
  | @operator type head rest undashed unknown =>
    have uncoded : (MatchCode.ofCode? head).filter (fun m => !m.isOrdering) = none := by
      refine MatchCode.filter_ofCode?_eq_none_iff.mpr fun code compares => ?_
      exact unknown code (by simpa using compares)
    rw [parse_type, parsePredicate, TypeCode.ofCode?_code]
    simp only [Text.splitFirst_eq_some_iff.mpr ⟨rfl, undashed⟩, uncoded]
  | @fieldless type code kind =>
    cases type with
    | none => rw [spelling_ordering, parse_code kind, if_pos rfl]
    | some type => rw [spelling_predicate, parse_type_code kind, if_pos rfl]

section

variable {head rest : String}

/-- Behind an `O` a key is meant for an ordering, so that only its code and its field can be wrong. -/
theorem misnames_of_begins (undashed : '-' ∉ head.toList) (begins : head.toList.head? = some 'O')
    (unnamed : ∀ code field, ¬ Names (head ++ "-" ++ rest) none code field) :
    ∃ e, Misnames (head ++ "-" ++ rest) e := by
  by_cases known : ∃ code : MatchCode, code.isOrdering = true ∧ code.code = head
  · obtain ⟨code, orders, rfl⟩ := known
    obtain rfl : rest = "" := Decidable.byContradiction fun named =>
      unnamed code rest (.ordering orders named)
    rw [← spelling_ordering]
    exact ⟨_, .fieldless orders⟩
  · exact ⟨_, .ordering undashed begins fun code orders same => known ⟨code, orders, same⟩⟩

/-- Behind a type code there are to be the code of a predicate and a field. -/
theorem misnames_of_typed (unnamed : ∀ code field,
    ¬ Names (type.code ++ "-" ++ rest) (some type) code field) :
    ∃ e, Misnames (type.code ++ "-" ++ rest) e := by
  cases cut : Text.splitFirst '-' rest with
  | none => exact ⟨_, .codeless (Text.splitFirst_eq_none_iff.mp cut)⟩
  | some parts =>
    obtain ⟨inner, field⟩ := parts
    obtain ⟨rfl, undashed⟩ := Text.splitFirst_eq_some_iff.mp cut
    by_cases known : ∃ code : MatchCode, code.isOrdering = false ∧ code.code = inner
    · obtain ⟨code, compares, rfl⟩ := known
      obtain rfl : field = "" := Decidable.byContradiction fun named =>
        unnamed code field (.predicate compares named)
      rw [← spelling_predicate]
      exact ⟨_, .fieldless compares⟩
    · exact ⟨_, .operator undashed fun code compares same => known ⟨code, compares, same⟩⟩

end

/-- Whatever names nothing shows where it fails to. -/
theorem misnames_of_not_names (unnamed : ∀ type code field, ¬ Names key type code field) :
    ∃ e, Misnames key e := by
  cases cut : Text.splitFirst '-' key with
  | none => exact ⟨_, .undashed (Text.splitFirst_eq_none_iff.mp cut)⟩
  | some parts =>
    obtain ⟨head, rest⟩ := parts
    obtain ⟨rfl, undashed⟩ := Text.splitFirst_eq_some_iff.mp cut
    by_cases begins : head.toList.head? = some 'O'
    · exact misnames_of_begins undashed begins fun code field => unnamed none code field
    · by_cases known : ∃ type : TypeCode, type.code = head
      · obtain ⟨type, rfl⟩ := known
        exact misnames_of_typed fun code field => unnamed (some type) code field
      · exact ⟨_, .type undashed begins fun type same => known ⟨type, same⟩⟩

/-! ### Parsing and spelling -/

/-- What parsing makes of the keys that are spelled, and of all others. -/
structure UndoesSpelling (raw : String) : Prop where
  /-- What a key is parsed to spells the key. -/
  parsed : ∀ key k, parse key raw = .ok k → spelling k.type k.code k.field = key
  /-- The value of an ordering is not looked at. -/
  ordering : ∀ code field, code.isOrdering = true → field ≠ "" →
    parse (spelling none code field) raw = .ok ⟨field, .none, none, code⟩
  /-- A predicate is parsed to its own type, code and field, exactly if its value converts. -/
  predicate : ∀ type code field k, code.isOrdering = false → field ≠ "" →
    (parse (spelling (some type) code field) raw = .ok k ↔
      ∃ operand, Converts type code raw operand ∧ k = ⟨field, operand, some type, code⟩)
  /-- Otherwise the error names the key. -/
  conversion : ∀ type code field e, code.isOrdering = false → field ≠ "" →
    (parse (spelling (some type) code field) raw = .error e ↔
      ∃ cause, Misfits type code raw cause ∧
        e = .conversion (spelling (some type) code field) cause)
  /-- Every other key is rejected as it would be with any value. -/
  rejected : ∀ key, (∀ type code field, code.isOrdering = type.isNone → field ≠ "" →
      key ≠ spelling type code field) →
    ∃ e, Misnames key e ∧ ∀ value, parse key value = .error e

/-- Parsing undoes spelling. What can be wrong with a key is its value, if the key is spelled, and
the key alone, if it is not. -/
theorem parse_undoes_spelling (raw : String) : UndoesSpelling raw where
  parsed := fun key k parsed => (names_iff.mp (parse_ok_iff.mp parsed).1).1.symm
  ordering := by
    intro code field orders named
    rw [spelling_ordering, parse_code orders, if_neg named]
  predicate := by
    intro type code field k compares named
    rw [spelling_predicate, parse_type_code compares, if_neg named]
    constructor
    · intro parsed
      obtain ⟨operand, converted, rfl⟩ := map_ok parsed
      exact ⟨operand, operandOf_ok_iff.mp converted, rfl⟩
    · rintro ⟨operand, converts, rfl⟩
      rw [operandOf_ok_iff.mpr converts]
      rfl
  conversion := by
    intro type code field e compares named
    rw [spelling_predicate, parse_type_code compares, if_neg named]
    constructor
    · exact fun failed => operandOf_error_iff.mp (map_error failed)
    · intro misfits
      rw [operandOf_error_iff.mpr misfits]
      rfl
  rejected := by
    intro key other
    have unnamed : ∀ type code field, ¬ Names key type code field := by
      intro type code field names
      obtain ⟨same, kind, named⟩ := names_iff.mp names
      exact other type code field kind named same
    obtain ⟨e, misnames⟩ := misnames_of_not_names unnamed
    exact ⟨e, misnames, parse_of_misnames misnames⟩

end SqlRecords.FilterKey
