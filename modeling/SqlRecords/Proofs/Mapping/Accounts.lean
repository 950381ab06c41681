import SqlRecords.Proofs.Mapping.History

/-!
# What a registry makes and counts

A registry that writes down each making, of a field table or of a converter, behaves like one that
does not, and has written down the ids that it remembers (`Registry.mapper_recorded`). A fresh
registry that has handed out mappers has described each type once and made each converter once, and
its counts say so: `Registry.mappers_account`.
-/

namespace SqlRecords

namespace Memo

variable {κ α : Type} [DecidableEq κ]

/-- The keys with an entry, in the order in which they got it. -/
def keys (m : Memo κ α) : List κ := m.entries.map Prod.fst

theorem keys_getOrInsert (m : Memo κ α) (key : κ) (a : α) :
    (m.getOrInsert key a).2.keys = if m.contains key then m.keys else m.keys ++ [key] := by
  unfold contains
  cases found : m.find? key with
  | some b =>
    rw [getOrInsert_of_some found]
    rfl
  | none =>
    rw [getOrInsert_of_none found]
    exact List.map_append

/-- A computation that notes that it runs: the note is made exactly when the key has no entry. -/
theorem getOrComputeM_noted {σ : Type} (m : Memo κ α) (key : κ) (a : α) (note : σ → σ) (s : σ) :
    (m.getOrComputeM key fun m => (fun a => (a, m)) <$> (modify note *> pure a : StateM σ α)) s =
      (m.getOrInsert key a, if m.contains key then s else note s) := by
  rw [getOrComputeM_eq]
  unfold contains
  cases found : m.find? key with
  | some b =>
    rw [getOrInsert_of_some found]
    rfl
  | none => rfl

/-- The memo was asked for the keys, in any order, and for each that it lacked an entry was made. -/
structure Tallies (m : Memo κ α) (asked : List κ) : Prop where
  once : ∀ key, m.keys.count key = if key ∈ asked then 1 else 0
  misses : m.misses = m.size
  lookups : m.hits + m.misses = asked.length

theorem tallies_fresh (label : String) : ({ label := label } : Memo κ α).Tallies [] :=
  ⟨fun _ => rfl, rfl, rfl⟩

section Tallies

variable {m : Memo κ α} {asked : List κ}

theorem Tallies.contains_iff (tallies : m.Tallies asked) (key : κ) :
    m.contains key = true ↔ key ∈ asked := by
  have counted := tallies.once key
  rw [contains, ← mem_keys_iff, ← List.count_pos_iff]
  change 0 < m.keys.count key ↔ _
  rw [counted]
  split <;> simp [*]

theorem Tallies.getOrInsert (tallies : m.Tallies asked) (key : κ) (a : α) :
    (m.getOrInsert key a).2.Tallies (asked ++ [key]) := by
  have present := tallies.contains_iff key
  have kept := keys_getOrInsert m key a
  obtain ⟨once, misses, lookups⟩ := tallies
  unfold contains at present kept
  cases found : m.find? key with
  -- The entry stays, and only a hit is counted.
  | some b =>
    have known : key ∈ asked := present.mp (by rw [found]; rfl)
    rw [found] at kept
    rw [getOrInsert_of_some found] at kept ⊢
    refine ⟨fun other => ?_, misses, ?_⟩
    · have same : other ∈ asked ++ [key] ↔ other ∈ asked := by
        rw [List.mem_append, List.mem_singleton]
        exact or_iff_left_of_imp fun here => here ▸ known
      simp only [same]
      exact (congrArg (List.count other) kept).trans (once other)
    · simp only [hit, List.length_append, List.length_singleton]
      omega
  -- One entry is new, and with it one miss.
  | none =>
    have new : key ∉ asked := fun known => by
      have entry := present.mpr known
      rw [found] at entry
      cases entry
    rw [found] at kept
    rw [getOrInsert_of_none found] at kept ⊢
    refine ⟨fun other => ?_, ?_, ?_⟩
    · refine (congrArg (List.count other) kept).trans ?_
      simp only [Option.isSome_none, Bool.false_eq_true, if_false, List.count_append, once other,
        List.mem_append, List.mem_singleton, List.count_singleton, beq_iff_eq]
      by_cases same : key = other
      · simp [← same, new]
      · simp [same, Ne.symm same]
    · simp only [miss, size, List.length_append, List.length_singleton] at misses ⊢
      omega
    · simp only [miss, List.length_append, List.length_singleton]
      omega

/-- Each key that was asked for has one entry, and was missed once. -/
theorem Tallies.size_eq (tallies : m.Tallies asked) : m.size = asked.toFinset.card := by
  have nodup : m.keys.Nodup := by
    rw [List.nodup_iff_count_le_one]
    intro key
    rw [tallies.once]
    split <;> omega
  have same : m.keys.toFinset = asked.toFinset := by
    ext key
    rw [List.mem_toFinset, List.mem_toFinset, ← tallies.contains_iff, contains, ← mem_keys_iff]
    rfl
  rw [← same, List.toFinset_card_of_nodup nodup, keys, List.length_map]
  rfl

end Tallies

end Memo

namespace Registry

/-! ### Making with effects -/

/-- How field tables are described and converters are made, with whatever effects. -/
structure Workshop (μ : Type → Type) where
  describe : RecordType → μ FieldTable
  instantiate : Converter → μ Converter

section Making

variable {μ : Type → Type} [Monad μ] (w : Workshop μ)

def fieldTableM (r : Registry) (T : RecordType) : μ (FieldTable × Registry) := do
  let (t, tables) ← r.tables.getOrComputeM T.id fun m => (fun t => (t, m)) <$> w.describe T
  return (t, { r with tables })

def converterM (r : Registry) (c : Converter) : μ (Converter × Registry) := do
  let (c, converters) ←
    r.converters.getOrComputeM c.id fun m => (fun c => (c, m)) <$> w.instantiate c
  return (c, { r with converters })

def resolveM (r : Registry) : List Field → μ (List (Field × Option Converter) × Registry)
  | [] => pure ([], r)
  | f :: rest =>
    match f.converter with
    | none => do
      let (entries, r) ← resolveM r rest
      return ((f, none) :: entries, r)
    | some c => do
      let (c, r) ← converterM w r c
      let (entries, r) ← resolveM r rest
      return ((f, some c) :: entries, r)

/-- The mapper of a type, where each making has the effects of the workshop. -/
def mapperM (r : Registry) (T : RecordType) : μ (Mapper × Registry) := do
  let (t, r) ← fieldTableM w r T
  let (entries, r) ← resolveM w r t.entries
  return (⟨t.type, entries⟩, r)

/-- The registry after it has handed out the mappers of the types, one after the other. -/
def mappersM (r : Registry) (types : List RecordType) : μ Registry :=
  types.foldlM (fun r T => do
    let (_, r) ← mapperM w r T
    return r) r

end Making

/-- What was made, by id and in order. -/
structure Makings where
  described : List String := []
  instantiated : List String := []

/-- Every description of a type and every making of a converter is written down. -/
def recorded : Workshop (StateM Makings) where
  describe T := modify (fun s => { s with described := s.described ++ [T.id] }) *>
    pure (.ofType T)
  instantiate c := modify (fun s => { s with instantiated := s.instantiated ++ [c.id] }) *> pure c

/-- The ids that the registry has an entry for. -/
def remembered (r : Registry) : Makings := ⟨r.tables.keys, r.converters.keys⟩

theorem fieldTable_recorded (r : Registry) (T : RecordType) :
    fieldTableM recorded r T r.remembered = (r.fieldTable T, (r.fieldTable T).2.remembered) := by
  refine (bind_run (r.tables.getOrComputeM_noted T.id (.ofType T) _ r.remembered)).trans ?_
  have kept := r.tables.keys_getOrInsert T.id (.ofType T)
  refine Prod.ext rfl ?_
  change _ = Makings.mk (r.tables.getOrInsert T.id (.ofType T)).2.keys r.converters.keys
  rw [kept]
  cases r.tables.contains T.id <;> rfl

theorem converter_recorded (r : Registry) (c : Converter) :
    converterM recorded r c r.remembered = (r.converter c, (r.converter c).2.remembered) := by
  refine (bind_run (r.converters.getOrComputeM_noted c.id c _ r.remembered)).trans ?_
  have kept := r.converters.keys_getOrInsert c.id c
  refine Prod.ext rfl ?_
  change _ = Makings.mk r.tables.keys (r.converters.getOrInsert c.id c).2.keys
  rw [kept]
  cases r.converters.contains c.id <;> rfl

theorem resolve_recorded (r : Registry) (fs : List Field) :
    resolveM recorded r fs r.remembered = (r.resolve fs, (r.resolve fs).2.remembered) := by
  induction fs generalizing r with
  | nil => rfl
  | cons f rest ih =>
    rw [resolveM, resolve]
    cases f.converter with
    | none => exact bind_run (ih r)
    | some c =>
      refine (bind_run (converter_recorded r c)).trans ?_
      exact bind_run (ih (r.converter c).2)

/-- A registry whose makings are written down hands out the mapper that it hands out anyway, and
has written down what it remembers. -/
theorem mapper_recorded (r : Registry) (T : RecordType) :
    mapperM recorded r T r.remembered = (r.mapper T, (r.mapper T).2.remembered) := by
  refine (bind_run (fieldTable_recorded r T)).trans ?_
  exact bind_run (resolve_recorded _ _)

theorem mappers_recorded (r : Registry) (types : List RecordType) :
    mappersM recorded r types r.remembered =
      (r.run (types.map .mapper), (r.run (types.map .mapper)).remembered) := by
  induction types generalizing r with
  | nil => rfl
  | cons T rest ih =>
    have first := bind_run (f := fun p => pure p.2) (mapper_recorded r T)
    rw [mappersM, List.foldlM_cons]
    exact (bind_run first).trans (ih (r.mapper T).2)

/-! ### Counting -/

/-- The ids of the converters of a type's field table, one for each field that has one. -/
def converterIds (T : RecordType) : List String :=
  (FieldTable.ofType T).entries.filterMap fun f => f.converter.map Converter.id

theorem length_converterIds (T : RecordType) :
    (converterIds T).length = (FieldTable.ofType T).entries.countP fun f => f.converter.isSome := by
  rw [converterIds, List.length_filterMap_eq_countP]
  simp only [Option.isSome_map]

/-- The registry was asked for the field tables of types and for converters, and for nothing else. -/
structure Tallies (r : Registry) (types : List RecordType) (ids : List String) : Prop where
  tables : r.tables.Tallies (types.map RecordType.id)
  converters : r.converters.Tallies ids

theorem Tallies.resolve {r : Registry} {types : List RecordType} {ids : List String}
    (tallies : r.Tallies types ids) (fs : List Field) :
    (r.resolve fs).2.Tallies types (ids ++ fs.filterMap fun f => f.converter.map Converter.id) := by
  induction fs generalizing r ids with
  | nil => simpa [Registry.resolve] using tallies
  | cons f rest ih =>
    rw [Registry.resolve]
    cases held : f.converter with
    | none => simpa [held] using ih tallies
    | some c =>
      have asked : (r.converter c).2.Tallies types (ids ++ [c.id]) :=
        ⟨tallies.tables, tallies.converters.getOrInsert c.id c⟩
      simpa [held] using ih asked

/-- Handing out one mapper asks for one field table and for the converters in it. -/
theorem Tallies.mapper {r : Registry} {types : List RecordType} {ids : List String}
    {T : RecordType} (tallies : r.Tallies types ids) (table : (r.fieldTable T).1 = .ofType T) :
    (r.mapper T).2.Tallies (types ++ [T]) (ids ++ converterIds T) := by
  have asked : (r.fieldTable T).2.Tallies (types ++ [T]) ids := by
    refine ⟨?_, tallies.converters⟩
    rw [List.map_append]
    exact tallies.tables.getOrInsert T.id (.ofType T)
  change ((r.fieldTable T).2.resolve (r.fieldTable T).1.entries).2.Tallies _ _
  rw [table]
  exact asked.resolve _

theorem tables_resolve (r : Registry) (fs : List Field) : (r.resolve fs).2.tables = r.tables := by
  induction fs generalizing r with
  | nil => rfl
  | cons f rest ih =>
    rw [Registry.resolve]
    cases f.converter with
    | none => exact ih r
    | some c => exact ih (r.converter c).2

theorem Tallies.run {types done rest : List RecordType} {ids : List String} {r : Registry}
    (apart : ∀ A ∈ types, ∀ B ∈ types, A.id = B.id → A = B) (named : rest ⊆ types)
    (holds : r.tables.Holds types RecordType.id FieldTable.ofType) (tallies : r.Tallies done ids) :
    (r.run (rest.map .mapper)).Tallies (done ++ rest) (ids ++ rest.flatMap converterIds) := by
  induction rest generalizing r done ids with
  | nil => simpa [Registry.run] using tallies
  | cons T rest ih =>
    obtain ⟨member, others⟩ := List.cons_subset.mp named
    -- A table that an earlier call left is that of a type with the same id, so of `T` itself.
    have table : (r.fieldTable T).1 = .ofType T := holds.fst_getOrInsert member
    have later : (r.mapper T).2.tables.Holds types RecordType.id FieldTable.ofType := by
      rw [show (r.mapper T).2.tables = _ from tables_resolve (r.fieldTable T).2 _]
      exact holds.getOrInsert fun B other => apart T member B other
    have after := ih others later (tallies.mapper table)
    rw [List.append_assoc, List.append_assoc] at after
    exact after

/-- What a fresh registry has made and counts when it has handed out the mappers of `types`. -/
structure Accounts (types : List RecordType) (r : Registry) (made : Makings) : Prop where
  /-- Writing the makings down has changed nothing. -/
  undisturbed : r = run {} (types.map .mapper)
  described : ∀ id, made.described.count id = if id ∈ types.map RecordType.id then 1 else 0
  instantiated : ∀ id, made.instantiated.count id = if id ∈ types.flatMap converterIds then 1 else 0
  /-- Each type is missed and kept once, and all further calls are hits. -/
  tables : r.stats.tables.misses = (types.map RecordType.id).toFinset.card ∧
    r.stats.tables.entries = (types.map RecordType.id).toFinset.card ∧
    r.stats.tables.hits + (types.map RecordType.id).toFinset.card = types.length
  converters : r.stats.converters.misses = (types.flatMap converterIds).toFinset.card ∧
    r.stats.converters.entries = (types.flatMap converterIds).toFinset.card
  /-- Each call asks once for each field of the type's table that has a converter. -/
  lookups : r.stats.converters.lookups =
    (types.map fun T => (FieldTable.ofType T).entries.countP fun f => f.converter.isSome).sum

/-- However mappers of types are asked for, each type is described once and each converter is made
once, and the counts of the registry tell how often each was asked for. -/
theorem mappers_account (types : List RecordType)
    (apart : ∀ A ∈ types, ∀ B ∈ types, A.id = B.id → A = B) :
    Accounts types (mappersM recorded {} types {}).1 (mappersM recorded {} types {}).2 := by
  have ran : mappersM recorded {} types {} =
      (run {} (types.map .mapper), (run {} (types.map .mapper)).remembered) :=
    mappers_recorded {} types
  have nothing : ({} : Registry).Tallies [] [] :=
    ⟨Memo.tallies_fresh _, Memo.tallies_fresh _⟩
  have holds : ({} : Registry).tables.Holds types RecordType.id FieldTable.ofType :=
    fun _ _ _ => nofun
  have tallies := nothing.run apart (List.Subset.refl types) holds
  rw [ran]
  obtain ⟨tables, converters⟩ := tallies
  rw [List.nil_append] at tables converters
  refine ⟨rfl, tables.once, converters.once, ⟨?_, tables.size_eq, ?_⟩, ⟨?_, converters.size_eq⟩, ?_⟩
  · exact tables.misses.trans tables.size_eq
  · have asked := tables.lookups
    rw [tables.misses, tables.size_eq, List.length_map] at asked
    exact asked
  · exact converters.misses.trans converters.size_eq
  · have asked := converters.lookups
    simp only [List.length_flatMap, length_converterIds] at asked
    exact asked

/-- Types that share converters, and one that comes back. -/
def busy : List RecordType :=
  [Sample.flags.toRecordType, Sample.strict, Sample.flags.toRecordType, Sample.note.toRecordType,
    Sample.user.toRecordType]

theorem mappers_account_busy :
    (∀ A ∈ busy, ∀ B ∈ busy, A.id = B.id → A = B) ∧
    Accounts busy (mappersM recorded {} busy {}).1 (mappersM recorded {} busy {}).2 ∧
    (mappersM recorded {} busy {}).2 =
      ⟨["Flags", "Strict", "Note", "User"],
        ["BooleanConverter", "DefaultConverter", "FailingConverter"]⟩ ∧
    (mappersM recorded {} busy {}).1.stats = ⟨⟨1, 4, 4⟩, ⟨12, 3, 3⟩⟩ := by
  have apart : ∀ A ∈ busy, ∀ B ∈ busy, A.id = B.id → A = B := by
    have ids : ([Sample.flags.toRecordType, Sample.strict, Sample.note.toRecordType,
        Sample.user.toRecordType].map RecordType.id).Nodup := by decide
    have among : busy ⊆ [Sample.flags.toRecordType, Sample.strict, Sample.note.toRecordType,
        Sample.user.toRecordType] := by simp [busy]
    exact fun A left B right => List.inj_on_of_nodup_map ids (among left) (among right)
  exact ⟨apart, mappers_account busy apart, rfl, rfl⟩

end Registry

end SqlRecords
