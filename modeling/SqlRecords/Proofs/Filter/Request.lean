import SqlRecords.Access.Executor
import SqlRecords.Proofs.Filter.Key
import SqlRecords.Proofs.Filter.Placeholders

/-!
# The filter of a request

Every entry of a request that has the lead and a value becomes one criterion
(`FilterKey.parseAll_ok_iff`), and the criterion takes part. `FilterKey.keeps_of_parseAll` says so,
when the filter can be built, and that an executor takes the values.
-/

namespace SqlRecords

/-! ### Values that stand for one placeholder -/

/-- The value is neither null nor a list. -/
def Value.Single : Value → Prop
  | .null | .list _ => False
  | _ => True

theorem Value.Single.isNull {v : Value} (single : v.Single) : v.isNull = false := by
  cases v with
  | null => exact single.elim
  | _ => rfl

theorem bindable_of_single {vs : List Value} (single : ∀ v ∈ vs, v.Single) :
    bindable vs = .ok () := by
  induction vs with
  | nil => rfl
  | cons v rest ih =>
    have later := ih fun w member => single w (List.mem_cons_of_mem _ member)
    have here := single v List.mem_cons_self
    cases v with
    | list items => exact here.elim
    | _ => exact later

namespace TypeCode

theorem single_of_dateOfText? {s : List Char} {v : Value} (found : dateOfText? s = some v) :
    v.Single := by
  rw [dateOfText?, Option.or_eq_some_iff] at found
  obtain date | ⟨-, time⟩ := found
  · obtain ⟨d, -, rfl⟩ := Option.map_eq_some_iff.mp date
    trivial
  · obtain ⟨t, -, rfl⟩ := Option.map_eq_some_iff.mp time
    trivial

theorem single_of_parseTrimmed {c : TypeCode} {s : List Char} {v : Value}
    (read : c.parseTrimmed s = .ok v) : v.Single := by
  cases c with
  | text =>
    obtain rfl := Except.ok.inj read
    trivial
  | integer | long =>
    obtain ⟨n, -, rfl⟩ := map_ok read
    trivial
  | number =>
    obtain ⟨x, -, rfl⟩ := map_ok (mapError_ok read)
    trivial
  | boolean =>
    simp only [parseTrimmed] at read
    split at read
    · obtain rfl := Except.ok.inj read
      trivial
    · split at read
      · obtain rfl := Except.ok.inj read
        trivial
      · cases read
  | character =>
    simp only [parseTrimmed] at read
    split at read
    · obtain rfl := Except.ok.inj read
      trivial
    · cases read
  | date =>
    simp only [parseTrimmed] at read
    split at read
    case h_1 found =>
      obtain rfl := Except.ok.inj read
      exact single_of_dateOfText? found
    case h_2 => cases read

/-- No text is read as null or as a list. -/
theorem single_of_parse {c : TypeCode} {raw : String} {v : Value} (read : c.parse raw = .ok v) :
    v.Single := by
  rw [parse] at read
  split at read
  · obtain rfl := Except.ok.inj read
    trivial
  · split at read
    · cases read
    · exact single_of_parseTrimmed (mapError_ok read)

end TypeCode

theorem Criterion.supplied_of_mem_params {c : Criterion} {v : Value} (member : v ∈ c.params) :
    c.value = some v ∨ v ∈ c.values := by
  rw [params] at member
  split at member
  · split at member
    · exact .inl (by simpa using member)
    · exact .inr member
    · cases member
    · cases member
  · cases member

theorem Filter.build_ok_iff (cs : List Criterion) :
    (∃ s, build cs = .ok s) ↔ ∀ c ∈ cs, ¬ c.LacksEnds := by
  constructor
  · rintro ⟨s, built⟩
    exact (build_ok built).1
  · intro ends
    have rendered := (text_ok_iff cs _).mpr ⟨ends, rfl⟩
    exact ⟨_, by rw [build, rendered]; rfl⟩

namespace FilterKey

/-! ### Entries that count -/

/-- The key of the entry is the lead, a dash and `encoded`, and the entry has a value. -/
def Encodes (lead : String) (entry : String × String) (encoded : String) : Prop :=
  entry.1 = lead ++ "-" ++ encoded ∧ entry.2 ≠ ""

/-- The entry has the lead and a value. -/
def Counts (lead : String) (entry : String × String) : Prop :=
  ∃ encoded, Encodes lead entry encoded

/-- The key of the entry asks for a range. -/
def Ranges (lead : String) (entry : String × String) : Prop :=
  ∃ encoded type field, entry.1 = lead ++ "-" ++ encoded ∧ Names encoded (some type) .between field

theorem encoded?_eq_some_iff {lead key encoded : String} :
    encoded? lead key = some encoded ↔ key = lead ++ "-" ++ encoded := by
  rw [encoded?, Option.map_eq_some_iff, ← String.toList_inj, Text.dashed_toList]
  constructor
  · rintro ⟨rest, found, rfl⟩
    rw [Text.afterLead_eq_some_iff.mp found, String.toList_ofList, List.append_assoc]
    rfl
  · intro same
    refine ⟨encoded.toList, Text.afterLead_eq_some_iff.mpr ?_, String.ofList_toList⟩
    rw [same, List.append_assoc]
    rfl

theorem encoded_inj {lead encoded encoded' : String}
    (same : lead ++ "-" ++ encoded = lead ++ "-" ++ encoded') : encoded = encoded' :=
  Option.some.inj ((encoded?_eq_some_iff.mpr rfl).symm.trans (encoded?_eq_some_iff.mpr same))

instance (lead : String) : DecidablePred (Counts lead) := fun entry =>
  decidable_of_iff ((encoded? lead entry.1).isSome = true ∧ entry.2 ≠ "") <| by
    simp only [Option.isSome_iff_exists, encoded?_eq_some_iff, Counts, Encodes, exists_and_right]

/-! ### What an entry asks for -/

/-- The criterion that an entry asks for: its key names the field and the operator, and its value
is read whole, or piece by piece, as the type that the key names. -/
inductive Asks (lead : String) (entry : String × String) : Criterion → Prop where
  | ordering {encoded field : String} {code : MatchCode} (encodes : Encodes lead entry encoded)
      (names : Names encoded none code field) :
      Asks lead entry { field := field, operator := code.operator }
  | one {encoded field : String} {code : MatchCode} {type : TypeCode} {v : Value}
      (encodes : Encodes lead entry encoded) (names : Names encoded (some type) code field)
      (whole : code.splits = false) (read : type.parse entry.2 = .ok v) :
      Asks lead entry { field := field, operator := code.operator, value := some v }
  | many {encoded field : String} {code : MatchCode} {type : TypeCode} {vs : List Value}
      (encodes : Encodes lead entry encoded) (names : Names encoded (some type) code field)
      (splits : code.splits = true)
      (read : List.Forall₂ (fun piece v => type.parse piece = .ok v) (Text.split ',' entry.2) vs) :
      Asks lead entry { field := field, operator := code.operator, values := vs }

variable {lead : String} {entry : String × String} {c : Criterion}

theorem Encodes.unique {encoded encoded' : String} (left : Encodes lead entry encoded)
    (right : entry.1 = lead ++ "-" ++ encoded') : encoded = encoded' :=
  encoded_inj (left.1.symm.trans right)

/-- A null would be no value at all, and the criterion would drop out. -/
theorem toCriterion_one {type : TypeCode} {raw : String} {v : Value} (read : type.parse raw = .ok v)
    (field : String) (code : MatchCode) :
    toCriterion ⟨field, .one v, some type, code⟩ =
      { field := field, operator := code.operator, value := some v } := by
  simp [toCriterion, Criterion.withValue, Criterion.bare, (TypeCode.single_of_parse read).isNull]

theorem asks_of_parse {encoded : String} {k : FilterKey}
    (encodes : Encodes lead entry encoded) (parsed : parse encoded entry.2 = .ok k) :
    Asks lead entry k.toCriterion := by
  obtain ⟨names, held⟩ := parse_ok_iff.mp parsed
  obtain ⟨field, operand, type, code⟩ := k
  cases type with
  | none =>
    obtain rfl : operand = .none := held
    exact .ordering encodes names
  | some type =>
    simp only [Holds, operandOf] at held
    split at held
    case isTrue splits =>
      obtain ⟨vs, converted, rfl⟩ := map_ok held
      exact .many encodes names splits
        ((forall₂_of_mapM converted).imp fun _ _ read => mapError_ok read)
    case isFalse whole =>
      obtain ⟨v, converted, rfl⟩ := map_ok held
      have read := mapError_ok converted
      rw [toCriterion_one read]
      exact .one encodes names (by simpa using whole) read

theorem parse_of_asks {encoded : String} (encodes : Encodes lead entry encoded)
    (asked : Asks lead entry c) : ∃ k, parse encoded entry.2 = .ok k ∧ k.toCriterion = c := by
  cases asked with
  | @ordering _ field code encodes' names =>
    obtain rfl := encodes.unique encodes'.1
    exact ⟨⟨field, .none, none, code⟩, parse_ok_iff.mpr ⟨names, rfl⟩, rfl⟩
  | @one _ field code type v encodes' names whole read =>
    obtain rfl := encodes.unique encodes'.1
    have held : operandOf encoded type code entry.2 = .ok (.one v) := by
      rw [operandOf, whole, convert, read]
      rfl
    exact ⟨⟨field, .one v, some type, code⟩, parse_ok_iff.mpr ⟨names, held⟩,
      toCriterion_one read field code⟩
  | @many _ field code type vs encodes' names splits read =>
    obtain rfl := encodes.unique encodes'.1
    have converted : (Text.split ',' entry.2).mapM (convert encoded type) = .ok vs :=
      mapM_of_forall₂ (read.imp fun piece v parsed => by rw [convert, parsed]; rfl)
    have held : operandOf encoded type code entry.2 = .ok (.many vs) := by
      rw [operandOf, splits, converted]
      rfl
    exact ⟨⟨field, .many vs, some type, code⟩, parse_ok_iff.mpr ⟨names, held⟩, rfl⟩

theorem parseAll_cons_of_not_counts {entry : String × String} (skipped : ¬ Counts lead entry)
    (rest : List (String × String)) : parseAll lead (entry :: rest) = parseAll lead rest := by
  obtain ⟨key, raw⟩ := entry
  rw [parseAll]
  cases found : encoded? lead key with
  | none => rfl
  | some encoded =>
    have empty : raw.isEmpty = true := by
      refine Decidable.byContradiction fun given => skipped ⟨encoded, ?_, ?_⟩
      · exact encoded?_eq_some_iff.mp found
      · simpa using given
    simp only [empty, if_true]

theorem parseAll_cons_of_encodes {entry : String × String} {encoded : String}
    (encodes : Encodes lead entry encoded) (rest : List (String × String)) :
    parseAll lead (entry :: rest) = do
      let k ← parse encoded entry.2
      let more ← parseAll lead rest
      return k.toCriterion :: more := by
  obtain ⟨key, raw⟩ := entry
  have given : raw.isEmpty = false := by simpa using encodes.2
  rw [parseAll, encoded?_eq_some_iff.mpr encodes.1]
  simp only [given]
  rfl

/-- The criteria of a request are what the entries that count ask for, one after the other. The
request is refused when one of them asks for nothing. -/
theorem parseAll_ok_iff {request : List (String × String)} {cs : List Criterion} :
    parseAll lead request = .ok cs ↔
      List.Forall₂ (Asks lead) (request.filter (Counts lead ·)) cs := by
  induction request generalizing cs with
  | nil =>
    rw [List.filter_nil, List.forall₂_nil_left_iff, parseAll, Except.ok.injEq, eq_comm]
  | cons entry rest ih =>
    by_cases counts : Counts lead entry
    · obtain ⟨encoded, encodes⟩ := counts
      rw [List.filter_cons_of_pos (by simpa using ⟨encoded, encodes⟩),
        parseAll_cons_of_encodes encodes]
      constructor
      · intro parsed
        obtain ⟨k, here, parsed⟩ := bind_ok parsed
        obtain ⟨more, later, parsed⟩ := bind_ok parsed
        obtain rfl := Except.ok.inj parsed
        exact .cons (asks_of_parse encodes here) (ih.mp later)
      · intro asked
        obtain ⟨c, more, asks, later, rfl⟩ := List.forall₂_cons_left_iff.mp asked
        obtain ⟨k, here, rfl⟩ := parse_of_asks encodes asks
        rw [here, ih.mpr later]
        rfl
    · rw [List.filter_cons_of_neg (by simpa using counts), parseAll_cons_of_not_counts counts]
      exact ih

/-! ### Criteria that are asked for -/

theorem Encodes.ranges_iff {encoded field : String} {code : MatchCode} {type : Option TypeCode}
    (encodes : Encodes lead entry encoded) (names : Names encoded type code field) :
    Ranges lead entry ↔ code = .between := by
  constructor
  · rintro ⟨encoded', type', field', same, ranged⟩
    obtain rfl := encodes.unique same
    exact (names.unique ranged).2.1
  · rintro rfl
    cases type with
    | none => cases names.isOrdering
    | some type => exact ⟨encoded, type, field, encodes.1, names⟩

theorem values_ne_nil {type : TypeCode} {raw : String} {vs : List Value}
    (read : List.Forall₂ (fun piece v => type.parse piece = .ok v) (Text.split ',' raw) vs) :
    vs ≠ [] := by
  rintro rfl
  have noPiece := read.length_eq
  rw [Text.length_split] at noPiece
  cases noPiece

theorem Asks.takesPart (asked : Asks lead entry c) : c.Orders ∨ c.Live := by
  cases asked with
  | @ordering encoded field code encodes names =>
    have orders := names.isOrdering
    left
    cases code with
    | ascending => exact ⟨rfl, .inl rfl⟩
    | descending => exact ⟨rfl, .inr rfl⟩
    | _ => cases orders
  | @one encoded field code type v encodes names whole read =>
    have compares := names.isOrdering
    right
    cases code with
    | ascending | descending => cases compares
    | among | notAmong | between => cases whole
    | _ => exact ⟨rfl, rfl⟩
  | @many encoded field code type vs encodes names splits read =>
    right
    cases code with
    | among | notAmong | between => exact ⟨rfl, values_ne_nil read⟩
    | _ => cases splits

theorem Asks.ends_iff (asked : Asks lead entry c) :
    ¬ c.LacksEnds ↔ (Ranges lead entry → (Text.split ',' entry.2).length = 2) := by
  cases asked with
  | @ordering encoded field code encodes names =>
    rw [encodes.ranges_iff names]
    refine iff_of_true (fun lacks => lacks.2.2.1 rfl) ?_
    rintro rfl
    cases names.isOrdering
  | @one encoded field code type v encodes names whole read =>
    rw [encodes.ranges_iff names]
    refine iff_of_true (fun lacks => lacks.2.2.1 rfl) ?_
    rintro rfl
    cases whole
  | @many encoded field code type vs encodes names splits read =>
    have someValue : vs.length ≠ 0 := fun none =>
      values_ne_nil read (List.eq_nil_of_length_eq_zero none)
    rw [encodes.ranges_iff names, ← code.operator_between_iff, read.length_eq]
    simp [Criterion.LacksEnds, someValue]

theorem Asks.single_params (asked : Asks lead entry c) : ∀ v ∈ c.params, v.Single := by
  intro v member
  cases asked with
  | ordering encodes names =>
    obtain held | held := Criterion.supplied_of_mem_params member
    · cases held
    · cases held
  | one encodes names whole read =>
    obtain held | held := Criterion.supplied_of_mem_params member
    · obtain rfl := Option.some.inj held
      exact TypeCode.single_of_parse read
    · cases held
  | many encodes names splits read =>
    obtain held | held := Criterion.supplied_of_mem_params member
    · cases held
    · obtain ⟨piece, -, converted⟩ := exists_left_of_forall₂ read held
      exact TypeCode.single_of_parse converted

/-! ### Requests -/

/-- What the criteria of a request keep of it. -/
structure Keeps (lead : String) (request : List (String × String)) (cs : List Criterion) :
    Prop where
  /-- Each entry that counts asks for one criterion, and the criteria stand in their order. -/
  asked : List.Forall₂ (Asks lead) (request.filter (Counts lead ·)) cs
  /-- Whatever is no ordering is a predicate that takes part. -/
  present : ∀ c ∈ cs, c.Orders ∨ c.isPresent = true
  /-- Only a range whose value is not in two pieces keeps the filter from being built. -/
  builds : (∃ s, Filter.build cs = .ok s) ↔
    ∀ entry ∈ request, Counts lead entry → Ranges lead entry →
      (Text.split ',' entry.2).length = 2
  /-- An executor takes the values, and none of them is null. -/
  bound : ∀ s, Filter.build cs = .ok s →
    (∀ v ∈ s.params, v.Single) ∧ bindable s.params = .ok ()

/-- No entry of a request that counts is lost on the way to the values of a statement. -/
theorem keeps_of_parseAll (lead : String) (request : List (String × String)) (cs : List Criterion)
    (parsed : parseAll lead request = .ok cs) : Keeps lead request cs := by
  have asked := parseAll_ok_iff.mp parsed
  refine ⟨asked, ?_, ?_, ?_⟩
  · intro c member
    obtain ⟨entry, -, asks⟩ := exists_left_of_forall₂ asked member
    exact asks.takesPart.imp_right (c.isPresent_iff_live).mpr
  · have ends : (∀ entry ∈ request.filter (Counts lead ·), Ranges lead entry →
        (Text.split ',' entry.2).length = 2) ↔ ∀ c ∈ cs, ¬ c.LacksEnds :=
      forall_mem_congr_of_forall₂ asked fun entry c asks => asks.ends_iff.symm
    rw [Filter.build_ok_iff, ← ends]
    simp only [List.mem_filter, decide_eq_true_eq, and_imp]
  · intro s built
    have single : ∀ v ∈ s.params, v.Single := by
      rw [(Filter.build_text built).2]
      intro v member
      obtain ⟨c, inside, held⟩ := List.mem_flatMap.mp member
      obtain ⟨entry, -, asks⟩ := exists_left_of_forall₂ asked inside
      exact asks.single_params v held
    exact ⟨single, bindable_of_single single⟩

/-- A key without the lead, an entry without a value, an ordering, a range, a text of a blank and
a list with an empty piece. -/
def visit : List (String × String) :=
  [("page", "2"), ("Q-S-EQ-name", ""), ("Q-OD-at", "x"), ("Q-C-BT-code", "a, b"),
    ("Q-S-EQ-note", " "), ("Q-S-NI-kind", "x,,?")]

/-- What `visit` asks for. -/
def visitCriteria : List Criterion :=
  [.bare .descending "at", .between "code" (.char 'a') (.char 'b'),
    .compare .eq "note" (.text " "), .notAmong "kind" [.text "x", .text "", .text "?"]]

theorem parseAll_visit : parseAll defaultLead visit = .ok visitCriteria := by
  simp only [visit, parseAll, parse, startsWith_O]
  rfl

theorem keeps_of_parseAll_visit :
    parseAll defaultLead visit = .ok visitCriteria ∧ Keeps defaultLead visit visitCriteria :=
  ⟨parseAll_visit, keeps_of_parseAll defaultLead visit visitCriteria parseAll_visit⟩

end FilterKey

end SqlRecords
