import SqlRecords.Criterion.Key
import SqlRecords.Proofs.Outcome
import SqlRecords.Proofs.Text.Pieces

/-!
# What a key names

A key joins a type code, a match code and a field by dashes, or an ordering code and a field.
`FilterKey.Names.unique` shows that a key names one type, code and field, and
`FilterKey.parse_ok_iff` that parsing finds these.
-/

namespace SqlRecords

/-! ### Codes -/

theorem TypeCode.ofCode?_code (type : TypeCode) : ofCode? type.code = some type := by
  cases type <;> rfl

theorem TypeCode.code_of_ofCode? {s : String} {type : TypeCode} (found : ofCode? s = some type) :
    type.code = s := by simpa using List.find?_some found

theorem TypeCode.ofCode?_eq_none_iff {s : String} :
    ofCode? s = none ↔ ∀ type : TypeCode, type.code ≠ s := by
  constructor
  · rintro missing type rfl
    rw [ofCode?_code] at missing
    cases missing
  · intro other
    refine Option.eq_none_iff_forall_ne_some.mpr fun type found => ?_
    exact other type (code_of_ofCode? found)

theorem TypeCode.dash_notMem_code (type : TypeCode) : '-' ∉ type.code.toList := by
  cases type <;> decide

namespace MatchCode

theorem ofCode?_code (code : MatchCode) : ofCode? code.code = some code := by cases code <;> rfl

theorem code_of_ofCode? {s : String} {code : MatchCode} (found : ofCode? s = some code) :
    code.code = s := by simpa using List.find?_some found

theorem filter_ofCode?_eq_none_iff {s : String} {p : MatchCode → Bool} :
    (ofCode? s).filter p = none ↔ ∀ code : MatchCode, p code = true → code.code ≠ s := by
  rw [Option.filter_eq_none_iff]
  constructor
  · rintro refused code holds rfl
    exact refused code (ofCode?_code code) holds
  · exact fun other code found holds => other code holds (code_of_ofCode? found)

theorem dash_notMem_code (code : MatchCode) : '-' ∉ code.code.toList := by
  cases code <;> decide

theorem type_ofCode?_code (code : MatchCode) : TypeCode.ofCode? code.code = none := by
  cases code <;> rfl

theorem splits_iff (code : MatchCode) :
    code.splits = true ↔ code ∈ [.among, .notAmong, .between] := by
  cases code <;> decide

theorem not_splits_iff (code : MatchCode) :
    code.splits = false ↔ code ∉ [.among, .notAmong, .between] := by
  cases code <;> decide

theorem operator_between_iff (code : MatchCode) :
    code.operator = .between ↔ code = .between := by
  cases code <;> decide

end MatchCode

namespace FilterKey

/-- A key without its lead names a code for a field, and the type of the value unless it orders. -/
inductive Names : String → Option TypeCode → MatchCode → String → Prop where
  | ordering {code : MatchCode} {field : String} (orders : code.isOrdering = true)
      (named : field ≠ "") : Names (code.code ++ "-" ++ field) none code field
  | predicate {type : TypeCode} {code : MatchCode} {field : String}
      (compares : code.isOrdering = false) (named : field ≠ "") :
      Names (type.code ++ "-" ++ (code.code ++ "-" ++ field)) (some type) code field

/-! ### Keys and what they name -/

theorem splitFirst_code (code : MatchCode) (rest : String) :
    Text.splitFirst '-' (code.code ++ "-" ++ rest) = some (code.code, rest) :=
  Text.splitFirst_eq_some_iff.mpr ⟨rfl, code.dash_notMem_code⟩

theorem splitFirst_type (type : TypeCode) (rest : String) :
    Text.splitFirst '-' (type.code ++ "-" ++ rest) = some (type.code, rest) :=
  Text.splitFirst_eq_some_iff.mpr ⟨rfl, type.dash_notMem_code⟩

theorem code_append_inj {code code' : MatchCode} {rest rest' : String}
    (same : code.code ++ "-" ++ rest = code'.code ++ "-" ++ rest') : code = code' ∧ rest = rest' := by
  have cuts := congrArg (Text.splitFirst '-') same
  rw [splitFirst_code, splitFirst_code] at cuts
  obtain ⟨sameCode, sameRest⟩ := Prod.mk.inj (Option.some.inj cuts)
  have found := congrArg MatchCode.ofCode? sameCode
  rw [MatchCode.ofCode?_code, MatchCode.ofCode?_code] at found
  exact ⟨Option.some.inj found, sameRest⟩

theorem type_append_inj {type type' : TypeCode} {rest rest' : String}
    (same : type.code ++ "-" ++ rest = type'.code ++ "-" ++ rest') : type = type' ∧ rest = rest' := by
  have cuts := congrArg (Text.splitFirst '-') same
  rw [splitFirst_type, splitFirst_type] at cuts
  obtain ⟨sameCode, sameRest⟩ := Prod.mk.inj (Option.some.inj cuts)
  have found := congrArg TypeCode.ofCode? sameCode
  rw [TypeCode.ofCode?_code, TypeCode.ofCode?_code] at found
  exact ⟨Option.some.inj found, sameRest⟩

theorem code_append_ne_type (code : MatchCode) (type : TypeCode) (rest rest' : String) :
    code.code ++ "-" ++ rest ≠ type.code ++ "-" ++ rest' := by
  intro same
  have cuts := congrArg (Text.splitFirst '-') same
  rw [splitFirst_code, splitFirst_type] at cuts
  have found := congrArg TypeCode.ofCode? (congrArg Prod.fst (Option.some.inj cuts))
  rw [MatchCode.type_ofCode?_code, TypeCode.ofCode?_code] at found
  cases found

theorem Names.unique {key field field' : String} {type type' : Option TypeCode}
    {code code' : MatchCode} (left : Names key type code field)
    (right : Names key type' code' field') : type = type' ∧ code = code' ∧ field = field' := by
  generalize same : key = key' at right
  cases left with
  | @ordering code field =>
    cases right with
    | ordering => exact ⟨rfl, code_append_inj same⟩
    | predicate => exact absurd same (code_append_ne_type _ _ _ _)
  | @predicate type code field =>
    cases right with
    | ordering => exact absurd same.symm (code_append_ne_type _ _ _ _)
    | predicate =>
      obtain ⟨sameType, sameRest⟩ := type_append_inj same
      exact ⟨congrArg some sameType, code_append_inj sameRest⟩

theorem Names.isOrdering {key field : String} {type : Option TypeCode} {code : MatchCode}
    (names : Names key type code field) : code.isOrdering = type.isNone := by
  cases names with
  | ordering orders => exact orders
  | predicate compares => exact compares

/-! ### Parsing -/

/-- What an ordering holds, and what a predicate holds for the value of a request. -/
def Holds (key raw : String) (code : MatchCode) : Option TypeCode → Operand → Prop
  | none, operand => operand = .none
  | some type, operand => operandOf key type code raw = .ok operand

theorem names_of_parseOrdering {key head rest raw : String} {k : FilterKey}
    (parsed : parseOrdering key head rest = .ok k) :
    Names (head ++ "-" ++ rest) k.type k.code k.field ∧ Holds key raw k.code k.type k.operand := by
  rw [parseOrdering] at parsed
  cases found : (MatchCode.ofCode? head).filter MatchCode.isOrdering with
  | none =>
    rw [found] at parsed
    cases parsed
  | some code =>
    rw [found] at parsed
    obtain ⟨isCode, orders⟩ := Option.filter_eq_some_iff.mp found
    obtain rfl := MatchCode.code_of_ofCode? isCode
    cases empty : rest.isEmpty with
    | true =>
      rw [empty] at parsed
      cases parsed
    | false =>
      rw [empty] at parsed
      obtain rfl := Except.ok.inj parsed
      exact ⟨.ordering orders fun same => by simp [same] at empty, rfl⟩

theorem names_of_parsePredicate {key head rest raw : String} {k : FilterKey}
    (parsed : parsePredicate key head rest raw = .ok k) :
    Names (head ++ "-" ++ rest) k.type k.code k.field ∧ Holds key raw k.code k.type k.operand := by
  rw [parsePredicate] at parsed
  cases isType : TypeCode.ofCode? head with
  | none =>
    rw [isType] at parsed
    cases parsed
  | some type =>
    rw [isType] at parsed
    obtain rfl := TypeCode.code_of_ofCode? isType
    cases parts : Text.splitFirst '-' rest with
    | none =>
      simp only [parts] at parsed
      cases parsed
    | some pair =>
      obtain ⟨codeText, field⟩ := pair
      simp only [parts] at parsed
      obtain ⟨rfl, -⟩ := Text.splitFirst_eq_some_iff.mp parts
      cases found : (MatchCode.ofCode? codeText).filter fun m => !m.isOrdering with
      | none =>
        simp only [found] at parsed
        cases parsed
      | some code =>
        simp only [found] at parsed
        obtain ⟨isCode, compares⟩ := Option.filter_eq_some_iff.mp found
        obtain rfl := MatchCode.code_of_ofCode? isCode
        cases empty : field.isEmpty with
        | true =>
          rw [empty] at parsed
          cases parsed
        | false =>
          rw [empty] at parsed
          obtain ⟨operand, held, rfl⟩ := map_ok parsed
          exact ⟨.predicate (by simpa using compares) fun same => by simp [same] at empty, held⟩

theorem startsWith_O (s : String) : s.startsWith "O" = (s.toList.head? == some 'O') := by
  rw [Bool.eq_iff_iff, String.startsWith_string_iff, beq_iff_eq]
  change ['O'] <+: s.toList ↔ _
  cases s.toList with
  | nil => simp
  | cons c rest => simp [eq_comm]

/-- The part of a key before its first dash tells orderings and predicates apart. -/
theorem parse_cut {head : String} (undashed : '-' ∉ head.toList) (rest raw : String) :
    parse (head ++ "-" ++ rest) raw =
      if head.toList.head? = some 'O' then parseOrdering (head ++ "-" ++ rest) head rest
      else parsePredicate (head ++ "-" ++ rest) head rest raw := by
  rw [parse, Text.splitFirst_eq_some_iff.mpr ⟨rfl, undashed⟩]
  simp only [startsWith_O, beq_iff_eq]

theorem parse_code {code : MatchCode} (orders : code.isOrdering = true) (rest raw : String) :
    parse (code.code ++ "-" ++ rest) raw =
      if rest = "" then .error (.malformedKey (code.code ++ "-" ++ rest))
      else .ok ⟨rest, .none, none, code⟩ := by
  have begins : code.code.toList.head? = some 'O' := by
    cases code with
    | ascending | descending => decide
    | _ => cases orders
  rw [parse_cut code.dash_notMem_code, if_pos begins, parseOrdering, MatchCode.ofCode?_code,
    Option.filter_some_pos orders]
  simp only [String.isEmpty_iff]

theorem parse_type (type : TypeCode) (rest raw : String) :
    parse (type.code ++ "-" ++ rest) raw =
      parsePredicate (type.code ++ "-" ++ rest) type.code rest raw := by
  rw [parse_cut type.dash_notMem_code, if_neg]
  cases type <;> decide

/-- With a field behind them, the codes of a predicate leave its value to decide. -/
theorem parse_type_code {code : MatchCode} (compares : code.isOrdering = false) (type : TypeCode)
    (field raw : String) :
    parse (type.code ++ "-" ++ (code.code ++ "-" ++ field)) raw =
      if field = "" then .error (.malformedKey (type.code ++ "-" ++ (code.code ++ "-" ++ field)))
      else (operandOf (type.code ++ "-" ++ (code.code ++ "-" ++ field)) type code raw).map
        fun operand => ⟨field, operand, some type, code⟩ := by
  rw [parse_type, parsePredicate, TypeCode.ofCode?_code]
  simp only [splitFirst_code, MatchCode.ofCode?_code]
  rw [Option.filter_some_pos (by simp [compares])]
  simp only [String.isEmpty_iff]

theorem parse_of_names {key raw field : String} {type : Option TypeCode} {code : MatchCode}
    {operand : Operand} (names : Names key type code field)
    (held : Holds key raw code type operand) :
    parse key raw = .ok ⟨field, operand, type, code⟩ := by
  cases names with
  | ordering orders named =>
    obtain rfl : operand = .none := held
    rw [parse_code orders, if_neg named]
  | @predicate type code field compares named =>
    have converted : operandOf _ type code raw = .ok operand := held
    rw [parse_type_code compares, if_neg named, converted]
    rfl

theorem names_of_parse {key raw : String} {k : FilterKey} (parsed : parse key raw = .ok k) :
    Names key k.type k.code k.field ∧ Holds key raw k.code k.type k.operand := by
  rw [parse] at parsed
  cases parts : Text.splitFirst '-' key with
  | none =>
    rw [parts] at parsed
    cases parsed
  | some pair =>
    obtain ⟨head, rest⟩ := pair
    simp only [parts] at parsed
    obtain ⟨same, -⟩ := Text.splitFirst_eq_some_iff.mp parts
    rw [same] at parsed ⊢
    split at parsed
    · exact names_of_parseOrdering parsed
    · exact names_of_parsePredicate parsed

/-- A key is parsed exactly when it names a code for a field and its value can be read as the type
that it names, if any. -/
theorem parse_ok_iff {key raw : String} {k : FilterKey} :
    parse key raw = .ok k ↔
      Names key k.type k.code k.field ∧ Holds key raw k.code k.type k.operand :=
  ⟨names_of_parse, fun ⟨names, held⟩ => parse_of_names names held⟩

end FilterKey

end SqlRecords
