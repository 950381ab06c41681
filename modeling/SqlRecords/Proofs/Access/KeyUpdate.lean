import SqlRecords.Proofs.Access.Recording
import SqlRecords.Proofs.Statement.Built
import SqlRecords.Sample.Records

/-!
# What an update by a key makes of each column

An update by a key sets some columns of the record and compares the others.
`Gateway.updateByKey_divides` shows that each column that is not skipped is in one of the two parts,
once and in the order of the fields, and so is its value.
-/

namespace SqlRecords

variable {σ : Type}

/-- The columns that an update of the record is about, with their values: with `skipNull`, those
that are not null. -/
def DeclaredType.kept (d : DeclaredType) (r : d.schema.Record) (skipNull : Bool) :
    List (String × Value) :=
  (d.schema.values r).filter fun entry => !(skipNull && entry.2.isNull)

/-- The entries, in the two parts that an update by a key makes of them. -/
structure Divides (key : List String) (kept assigned compared : List (String × Value)) : Prop where
  /-- Each entry is in one of the parts, and there once. Nothing else is. -/
  once : (assigned ++ compared).Perm kept
  assignedInOrder : assigned.Sublist kept
  comparedInOrder : compared.Sublist kept
  outside : ∀ entry ∈ assigned, entry.1 ∉ key
  inside : ∀ entry ∈ compared, entry.1 ∈ key

/-- The text that sets the one part and compares the other, with the values of the one and behind
them those of the other. -/
def setComparing (table : String) (assigned compared : List (String × Value)) : Statement where
  text := "update " ++ table ++ " set " ++ ", ".intercalate (assigned.map (·.1 ++ " = ?")) ++
    " where " ++ " and ".intercalate (compared.map (·.1 ++ " = ?"))
  params := assigned.map (·.2) ++ compared.map (·.2)

/-- The calls of an update by a key, for the entries that it is about. -/
structure UpdatesEach (table : String) (key : List String) (kept : List (String × Value))
    (calls : List Call) : Prop where
  atMostOne : calls.length ≤ 1
  /-- A call is made if there are a column to set and one to compare. -/
  runs : calls ≠ [] ↔ (∃ entry ∈ kept, entry.1 ∉ key) ∧ ∃ entry ∈ kept, entry.1 ∈ key
  divided : ∀ call ∈ calls, ∃ assigned compared, Divides key kept assigned compared ∧
    call = .execute (setComparing table assigned compared)

section

variable {table : String} {key : List String} {kept assigned compared : List (String × Value)}

/-- There is one way to divide the entries. -/
theorem divides_iff : Divides key kept assigned compared ↔
    assigned = kept.filter (fun entry => !key.contains entry.1) ∧
      compared = kept.filter fun entry => key.contains entry.1 := by
  constructor
  · intro divides
    have assignedSublist := divides.assignedInOrder.filter fun entry => !key.contains entry.1
    have comparedSublist := divides.comparedInOrder.filter fun entry => key.contains entry.1
    rw [List.filter_eq_self.mpr fun entry member => by simpa using divides.outside entry member]
      at assignedSublist
    rw [List.filter_eq_self.mpr fun entry member => by simpa using divides.inside entry member]
      at comparedSublist
    -- Neither part can be shorter than its filter, for together they are as long as the whole.
    have whole := divides.once.length_eq
    have filtered := (List.filter_append_perm (fun entry => key.contains entry.1) kept).length_eq
    rw [List.length_append] at whole filtered
    have assignedLength := assignedSublist.length_le
    have comparedLength := comparedSublist.length_le
    exact ⟨assignedSublist.eq_of_length_le (by omega), comparedSublist.eq_of_length_le (by omega)⟩
  · rintro ⟨rfl, rfl⟩
    exact {
      once := List.perm_append_comm.trans (List.filter_append_perm _ kept)
      assignedInOrder := List.filter_sublist
      comparedInOrder := List.filter_sublist
      outside := fun entry member => by simpa using (List.mem_filter.mp member).2
      inside := fun entry member => by simpa using (List.mem_filter.mp member).2 }

theorem Divides.assigned_eq_nil_iff (divides : Divides key kept assigned compared) :
    assigned = [] ↔ ¬ ∃ entry ∈ kept, entry.1 ∉ key := by
  rw [(divides_iff.mp divides).1, List.filter_eq_nil_iff]
  simp

theorem Divides.compared_eq_nil_iff (divides : Divides key kept assigned compared) :
    compared = [] ↔ ¬ ∃ entry ∈ kept, entry.1 ∈ key := by
  rw [(divides_iff.mp divides).2, List.filter_eq_nil_iff]
  simp

theorem updateByKeyStatement_of_divides (divides : Divides key kept assigned compared) :
    Gateway.updateByKeyStatement table key kept =
      if assigned = [] ∨ compared = [] then .error (.invalidArgument .noColumns)
      else .ok (setComparing table assigned compared) := by
  obtain ⟨isAssigned, isCompared⟩ := divides_iff.mp divides
  rw [Gateway.updateByKeyStatement_eq isCompared.symm isAssigned.symm]
  simp only [setComparing, Update.table, equalities, List.map_map, Function.comp_def,
    String.append_assoc]
  rfl

theorem UpdatesEach.nothing
    (lacking : ¬ ((∃ entry ∈ kept, entry.1 ∉ key) ∧ ∃ entry ∈ kept, entry.1 ∈ key)) :
    UpdatesEach table key kept [] where
  atMostOne := Nat.zero_le 1
  runs := iff_of_false (fun some => some rfl) lacking
  divided := nofun

theorem UpdatesEach.ran (divides : Divides key kept assigned compared) (sets : assigned ≠ [])
    (compares : compared ≠ []) :
    UpdatesEach table key kept [.execute (setComparing table assigned compared)] where
  atMostOne := Nat.le_refl 1
  runs := by
    refine iff_of_true (List.cons_ne_nil _ _) ⟨?_, ?_⟩
    · exact Decidable.not_not.mp fun noneLeft => sets (divides.assigned_eq_nil_iff.mpr noneLeft)
    · exact Decidable.not_not.mp fun noneLeft => compares (divides.compared_eq_nil_iff.mpr noneLeft)
  divided := by
    intro call member
    exact ⟨assigned, compared, divides, List.mem_singleton.mp member⟩

end

namespace Gateway

open Access

/-- An update by a key is about each column that is not skipped. It compares those of the key and
sets the others, both in the order of the fields. -/
theorem updateByKey_divides (g : Gateway σ) (d : DeclaredType) (r : d.schema.Record)
    (skipNull : Bool) :
    (g.recording.updateByKey d.toRecordType r skipNull).Traces fun _ calls =>
      UpdatesEach (g.tableOf d.toRecordType) d.primaryKey (d.kept r skipNull) calls := by
  refine keyOf_bind_traces (T := d.toRecordType) (fun noKey => ?_) ?_
  · refine UpdatesEach.nothing fun ready => ?_
    obtain ⟨-, entry, -, isKey⟩ := ready
    exact List.ne_nil_of_mem isKey noKey
  · change (built (updateByKeyStatement (g.tableOf d.toRecordType) d.primaryKey
      (d.kept r skipNull)) >>= g.recording.affected).Traces _
    generalize d.kept r skipNull = kept
    have divides := divides_iff.mpr ⟨(rfl : kept.filter (fun entry =>
      !d.primaryKey.contains entry.1) = _), rfl⟩
    rw [updateByKeyStatement_of_divides divides]
    split
    case isTrue lacking =>
      refine built_error_traces (UpdatesEach.nothing fun ready => ?_)
      obtain nothingAssigned | nothingCompared := lacking
      · exact divides.assigned_eq_nil_iff.mp nothingAssigned ready.1
      · exact divides.compared_eq_nil_iff.mp nothingCompared ready.2
    case isFalse enough =>
      obtain ⟨sets, compares⟩ := not_or.mp enough
      refine built_ok_traces ((g.affected_traces _).imp fun _ calls handed => ?_)
      rw [handed]
      exact UpdatesEach.ran divides sets compares

/-- Both columns of the key stand between columns that are set. -/
example :
    (Gateway.updateByKey { executor := Script.executor, table := "tenants" }
      Sample.tenant.toRecordType Sample.tenant.schema.default false { world := {} }).2.world.log =
      [.execute (setComparing "shop.tenants"
        [("memo", .null), ("amount", .double 0), ("opened", .null)]
        [("code", .text ""), ("tenant_id", .bigint (IntType.zero .i64))])] := rfl

end Gateway

end SqlRecords
