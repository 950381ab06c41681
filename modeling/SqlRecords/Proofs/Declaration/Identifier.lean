import Mathlib.Data.String.Basic
import SqlRecords.Declaration.Basic
import SqlRecords.Proofs.Outcome
import SqlRecords.Proofs.Statement.Keys
import SqlRecords.Proofs.Template.Tokens

/-!
# Identifiers

The names that a declaration may give. The checks count bytes, and look at the first character and
then at all; `nameFault?_eq_none_iff` shows that what passes them is an `Identifier`.
-/

namespace SqlRecords

open Template (NameStart NameChar)

/-- A name of one to 64 letters, digits and underscores that begins with no digit. -/
structure Identifier (name : String) : Prop where
  chars : ∀ c ∈ name.toList, NameChar c
  start : ∀ c ∈ name.toList.head?, ¬ ('0' ≤ c ∧ c ≤ '9')
  some : 1 ≤ name.length
  short : name.length ≤ 64

/-- Identifiers with dots between them. -/
def TableName (name : String) : Prop :=
  ∃ parts : List String, parts ≠ [] ∧ ".".intercalate parts = name ∧ ∀ part ∈ parts, Identifier part

/-! ### Characters -/

theorem nameChar_bounds {c : Char} (char : NameChar c) : 48 ≤ c.toNat ∧ c.toNat ≤ 122 := by
  have number : c.toNat = c.val.toNat := rfl
  simp only [NameChar, NameStart, Char.le_def, UInt32.le_iff_toNat_le] at char
  have z : 'z'.val.toNat = 122 := rfl
  have a : 'a'.val.toNat = 97 := rfl
  have Z : 'Z'.val.toNat = 90 := rfl
  have A : 'A'.val.toNat = 65 := rfl
  have nine : '9'.val.toNat = 57 := rfl
  have zero : '0'.val.toNat = 48 := rfl
  rcases char with (char | char | rfl) | char
  · omega
  · omega
  · decide
  · omega

theorem utf8Size_of_nameChar {c : Char} (char : NameChar c) : c.utf8Size = 1 := by
  rw [Char.utf8Size_eq_one_iff, UInt32.le_iff_toNat_le]
  exact Nat.le_trans (nameChar_bounds char).2 (by decide)

theorem not_digit_of_nameStart {c : Char} (start : NameStart c) : ¬ ('0' ≤ c ∧ c ≤ '9') := by
  simp only [NameStart, Char.le_def, UInt32.le_iff_toNat_le] at start ⊢
  have a : 'a'.val.toNat = 97 := rfl
  have A : 'A'.val.toNat = 65 := rfl
  have nine : '9'.val.toNat = 57 := rfl
  rcases start with start | start | rfl
  · omega
  · omega
  · decide

/-- Identifiers are as long in bytes as in characters. -/
theorem utf8ByteSize_of_nameChars {name : String} (chars : ∀ c ∈ name.toList, NameChar c) :
    name.utf8ByteSize = name.length := by
  rw [← String.ofList_toList (s := name), String.utf8ByteSize_ofList, String.length_ofList]
  generalize name.toList = cs at chars
  induction cs with
  | nil => rfl
  | cons c rest ih =>
    obtain ⟨here, later⟩ := List.forall_mem_cons.mp chars
    rw [String.utf8Len_cons, ih later, utf8Size_of_nameChar here, List.length_cons]

/-! ### Names -/

theorem nameFault?_cons {name : String} {c : Char} {rest : List Char}
    (spelled : name.toList = c :: rest) :
    nameFault? name = none ↔
      name.utf8ByteSize ≤ nameLimit ∧ NameStart c ∧ ∀ d ∈ rest, NameChar d := by
  have starts : (c.isAlpha || decide (c = '_')) = true ↔ NameStart c := Template.startsName_iff c
  have continues (d : Char) : (d.isAlphanum || decide (d = '_')) = true ↔ NameChar d :=
    Template.continuesName_iff d
  unfold nameFault?
  simp only [spelled, ← starts, ← continues, ← List.all_eq_true]
  split_ifs with size start chars
  · exact iff_of_false nofun fun kept => absurd kept.1 (Nat.not_le.mpr size)
  · refine iff_of_false nofun fun kept => ?_
    rw [kept.2.1] at start
    cases start
  · refine iff_of_false nofun fun kept => ?_
    rw [kept.2.2] at chars
    cases chars
  · simp only [Bool.not_eq_true', Bool.not_eq_false] at start chars
    exact iff_of_true rfl ⟨Nat.not_lt.mp size, start, chars⟩

/-- The checks let through what is an identifier, and nothing else. -/
theorem nameFault?_eq_none_iff (name : String) : nameFault? name = none ↔ Identifier name := by
  rw [← String.ofList_toList (s := name)]
  cases name.toList with
  | nil => exact iff_of_false nofun fun identifier => absurd identifier.some (by decide)
  | cons c rest =>
    rw [nameFault?_cons (String.toList_ofList)]
    constructor
    · rintro ⟨size, start, chars⟩
      have all : ∀ d ∈ (String.ofList (c :: rest)).toList, NameChar d := by
        rw [String.toList_ofList]
        exact List.forall_mem_cons.mpr ⟨.inl start, chars⟩
      refine ⟨all, ?_, by simp, ?_⟩
      · simpa using not_digit_of_nameStart start
      · rwa [← utf8ByteSize_of_nameChars all]
    · rintro ⟨chars, other, -, short⟩
      have size := utf8ByteSize_of_nameChars chars
      rw [String.toList_ofList] at chars other
      obtain ⟨here, later⟩ := List.forall_mem_cons.mp chars
      exact ⟨by rw [size]; exact short, here.resolve_right (other c rfl), later⟩

theorem checkColumn_ok_iff {name column : String} :
    checkColumn name = .ok column ↔ Identifier name ∧ column = name := by
  rw [← nameFault?_eq_none_iff, checkColumn]
  cases nameFault? name with
  | none => simp [eq_comm]
  | some fault => simp

theorem mapM_checkColumn_ok_iff {names columns : List String} :
    names.mapM checkColumn = .ok columns ↔ (∀ name ∈ names, Identifier name) ∧ columns = names := by
  constructor
  · intro made
    have each := forall₂_of_mapM made
    clear made
    induction each with
    | nil => simp
    | cons here _ ih =>
      obtain ⟨identifier, rfl⟩ := checkColumn_ok_iff.mp here
      obtain ⟨later, rfl⟩ := ih
      exact ⟨List.forall_mem_cons.mpr ⟨identifier, later⟩, rfl⟩
  · rintro ⟨identifiers, rfl⟩
    apply mapM_of_forall₂
    rw [List.forall₂_same]
    exact fun name member => checkColumn_ok_iff.mpr ⟨identifiers name member, rfl⟩

theorem Identifier.notMem {name : String} (identifier : Identifier name) {c : Char}
    (other : ¬ NameChar c) : c ∉ name.toList := fun member =>
  other (identifier.chars c member)

theorem tableFault?_eq_none_iff (name : String) : tableFault? name = none ↔ TableName name := by
  have split : tableFault? name = none ↔ ∀ part ∈ Text.split '.' name, Identifier part := by
    simp only [tableFault?, List.findSome?_eq_none_iff, Option.map_eq_none_iff,
      nameFault?_eq_none_iff]
  rw [split]
  constructor
  · intro identifiers
    refine ⟨Text.split '.' name, by simp [Text.split, Text.pieces_ne_nil], ?_, identifiers⟩
    rw [← String.toList_inj, String.toList_intercalate, Text.split, List.map_map]
    have unchanged : String.toList ∘ String.ofList = id := funext fun _ => String.toList_ofList
    rw [unchanged, List.map_id]
    exact Text.intercalate_pieces '.' name.toList
  · rintro ⟨parts, present, rfl, identifiers⟩
    have whole : ∀ part ∈ parts.map String.toList, '.' ∉ part := by
      rw [List.forall_mem_map]
      exact fun part member => (identifiers part member).notMem (by decide)
    have cut := Text.pieces_intercalate whole (by simpa using present)
    have joined : (".".intercalate parts).toList = ['.'].intercalate (parts.map String.toList) :=
      String.toList_intercalate
    rw [Text.split, joined, cut, List.map_map]
    simpa using identifiers

/-! ### Items that name -/

theorem take_name_ok_iff {m m' : FieldMarks} {name : String} :
    m.take ⟨"name", name⟩ = .ok m' ↔ Identifier name ∧ m' = { m with column := some name } := by
  rw [FieldMarks.take, if_pos rfl]
  constructor
  · intro taken
    obtain ⟨column, checked, rfl⟩ := map_ok taken
    obtain ⟨identifier, rfl⟩ := checkColumn_ok_iff.mp checked
    exact ⟨identifier, rfl⟩
  · rintro ⟨identifier, rfl⟩
    rw [checkColumn_ok_iff.mpr ⟨identifier, rfl⟩]
    rfl

theorem take_table_ok_iff {m m' : TypeMarks} {name : String} :
    m.take ⟨"table", name⟩ = .ok m' ↔ TableName name ∧ m' = { m with table := some name } := by
  rw [TypeMarks.take, if_pos rfl, ← tableFault?_eq_none_iff]
  cases tableFault? name with
  | none => simp [eq_comm]
  | some fault => simp

theorem keyColumns_eq_iff {text : String} {names : List String} :
    keyColumns text = names ↔ KeyList text names := keysOf_eq_iff

theorem take_key_ok_iff {m m' : TypeMarks} {text : String} :
    m.take ⟨"primary_key", text⟩ = .ok m' ↔
      ∃ names, KeyList text names ∧ names ≠ [] ∧ (∀ name ∈ names, Identifier name) ∧
        m' = { m with key := names } := by
  have taken : m.take ⟨"primary_key", text⟩ =
      if (keyColumns text).isEmpty then .error .noKeyColumns
      else ((keyColumns text).mapM checkColumn).map fun columns => { m with key := columns } := rfl
  simp only [← keyColumns_eq_iff, exists_eq_left', taken]
  by_cases none : keyColumns text = []
  · simp [none]
  · rw [if_neg (by simpa using none)]
    constructor
    · intro made
      obtain ⟨columns, checked, rfl⟩ := map_ok made
      obtain ⟨identifiers, rfl⟩ := mapM_checkColumn_ok_iff.mp checked
      exact ⟨none, identifiers, rfl⟩
    · rintro ⟨-, identifiers, rfl⟩
      rw [mapM_checkColumn_ok_iff.mpr ⟨identifiers, rfl⟩]
      rfl

end SqlRecords
