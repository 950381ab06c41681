import SqlRecords.Mapping.Registry
import SqlRecords.Proofs.Memo

/-!
# What a registry hands out

A field table holds each name with its first description. A registry that remembers nothing wrong
of a type hands out a mapper with this table, and with each field its own converter
(`Registry.mapper_eq`).
-/

namespace SqlRecords

namespace FieldTable

theorem mem_of_mem_firstsFrom {seen : List String} {fs : List Field} {f : Field}
    (member : f ∈ firstsFrom seen fs) : f ∈ fs ∧ f.name ∉ seen := by
  induction fs generalizing seen with
  | nil => cases member
  | cons g rest ih =>
    rw [firstsFrom] at member
    split at member
    · obtain ⟨inside, fresh⟩ := ih member
      exact ⟨List.mem_cons_of_mem _ inside, fresh⟩
    case isFalse fresh =>
      cases member with
      | head => exact ⟨List.mem_cons_self, fresh⟩
      | tail _ member =>
        obtain ⟨inside, unseen⟩ := ih member
        exact ⟨List.mem_cons_of_mem _ inside, fun taken => unseen (List.mem_cons_of_mem _ taken)⟩

theorem pairwise_firstsFrom (seen : List String) (fs : List Field) :
    (firstsFrom seen fs).Pairwise fun f g => f.name ≠ g.name := by
  induction fs generalizing seen with
  | nil => exact .nil
  | cons f rest ih =>
    rw [firstsFrom]
    split
    · exact ih seen
    · refine .cons (fun g member same => ?_) (ih _)
      exact (mem_of_mem_firstsFrom member).2 (same ▸ List.mem_cons_self)

theorem find?_of_mem {es : List Field}
    (apart : es.Pairwise fun f g => f.name ≠ g.name) {f : Field} (member : f ∈ es) :
    es.find? (fun g => g.name = f.name) = some f := by
  induction apart with
  | nil => cases member
  | @cons g rest others _ ih =>
    cases member with
    | head => exact List.find?_cons_of_pos (by simp)
    | tail _ member =>
      rw [List.find?_cons_of_neg (by simpa using others f member)]
      exact ih member

theorem find?_firstsFrom {seen : List String} {name : String} (fresh : name ∉ seen)
    (fs : List Field) :
    (firstsFrom seen fs).find? (fun f => f.name = name) = fs.find? fun f => f.name = name := by
  induction fs generalizing seen with
  | nil => rfl
  | cons f rest ih =>
    rw [firstsFrom]
    by_cases same : f.name = name
    · have unseen : f.name ∉ seen := same ▸ fresh
      rw [if_neg unseen, List.find?_cons_of_pos (by simpa using same),
        List.find?_cons_of_pos (by simpa using same)]
    · rw [List.find?_cons_of_neg (by simpa using same)]
      split
      · exact ih fresh
      · rw [List.find?_cons_of_neg (by simpa using same)]
        exact ih fun taken => (List.mem_cons.mp taken).elim (fun here => same here.symm) fresh

theorem get?_ofType (T : RecordType) (name : String) :
    (ofType T).get? name = T.fields.find? fun f => f.name = name :=
  find?_firstsFrom List.not_mem_nil T.fields

end FieldTable

namespace Registry

/-- Each id of a converter of the fields stands for that converter, in the fields and in what the
registry remembers. -/
structure Known (r : Registry) (fs : List Field) : Prop where
  remembered : ∀ f ∈ fs, ∀ c, f.converter = some c →
    ∀ c', r.converters.find? c.id = some c' → c' = c
  apart : ∀ f ∈ fs, ∀ c, f.converter = some c →
    ∀ g ∈ fs, ∀ c', g.converter = some c' → c.id = c'.id → c = c'

/-- The registry remembers nothing wrong of the type. -/
structure Truthful (r : Registry) (T : RecordType) : Prop where
  table : ∀ t, r.tables.find? T.id = some t → t = .ofType T
  known : r.Known T.fields

theorem Known.mono {r : Registry} {fs gs : List Field} (known : r.Known fs)
    (fewer : ∀ g ∈ gs, g ∈ fs) : r.Known gs where
  remembered f member := known.remembered f (fewer f member)
  apart f member c held g other := known.apart f (fewer f member) c held g (fewer g other)

theorem Known.converter {r : Registry} {f : Field} {rest : List Field} {c : Converter}
    (known : r.Known (f :: rest)) (held : f.converter = some c) :
    (r.converter c).1 = c ∧ (r.converter c).2.Known rest := by
  have later : ∀ g ∈ rest, g ∈ f :: rest := fun g => List.mem_cons_of_mem f
  constructor
  · change (r.converters.getOrInsert c.id c).1 = c
    rw [Memo.getOrInsert_fst]
    cases found : r.converters.find? c.id with
    | none => rfl
    | some c' => exact known.remembered f List.mem_cons_self c held c' found
  · refine ⟨fun g member d other d' found => ?_, (known.mono later).apart⟩
    change (r.converters.getOrInsert c.id c).2.find? d.id = some d' at found
    rw [Memo.find?_getOrInsert, Option.or_eq_some_iff] at found
    obtain before | ⟨-, added⟩ := found
    · exact known.remembered g (later g member) d other d' before
    · split at added
      case isTrue same =>
        obtain rfl := Option.some.inj added
        exact known.apart f List.mem_cons_self c held g (later g member) d other same
      case isFalse => cases added

theorem Known.resolve {r : Registry} {fs : List Field} (known : r.Known fs) :
    (r.resolve fs).1 = fs.map fun f => (f, f.converter) := by
  induction fs generalizing r with
  | nil => rfl
  | cons f rest ih =>
    rw [Registry.resolve, List.map_cons]
    cases held : f.converter with
    | none => exact congrArg _ (ih (known.mono fun g => List.mem_cons_of_mem f))
    | some c =>
      obtain ⟨same, later⟩ := known.converter held
      change (f, some (r.converter c).1) :: ((r.converter c).2.resolve rest).1 = _
      rw [same, ih later]

/-- The mapper of a type fills the first field of each name, through the field's own converter. -/
theorem mapper_eq {r : Registry} {T : RecordType} (truthful : r.Truthful T) :
    (r.mapper T).1 =
      ⟨T.name, (FieldTable.ofType T).entries.map fun f => (f, f.converter)⟩ := by
  have table : (r.fieldTable T).1 = .ofType T := by
    change (r.tables.getOrInsert T.id (.ofType T)).1 = _
    rw [Memo.getOrInsert_fst]
    cases found : r.tables.find? T.id with
    | none => rfl
    | some t => exact truthful.table t found
  have first : r.Known (FieldTable.ofType T).entries :=
    truthful.known.mono fun f member => (FieldTable.mem_of_mem_firstsFrom member).1
  have known : (r.fieldTable T).2.Known (FieldTable.ofType T).entries :=
    ⟨first.remembered, first.apart⟩
  change Mapper.mk (r.fieldTable T).1.type
    ((r.fieldTable T).2.resolve (r.fieldTable T).1.entries).1 = _
  rw [table, known.resolve]
  rfl

end Registry

end SqlRecords
